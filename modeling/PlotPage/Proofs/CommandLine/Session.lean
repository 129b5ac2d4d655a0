import PlotPage.Proofs.CommandLine.Delivery

/-!
# How a session ends

Each step of a session can end it, with a status if the fault is one that the session handles, and
with the fault itself otherwise.  The faults that nobody handles are those of `Session.Escapes`: a
file of which nothing can be made, a text that the next step does not take, and a run that the
system refuses.
`Session.serve_cases` follows every step to its end, and `Session.perform_status` is what comes out
of it.
-/

namespace PlotPage

namespace Session

variable {w : Surroundings} {q : Request} {s : Settings} {x y z : Session} {t : Terminal}
  {p : Page} {f : Fault} {script : String}

/-- Everything that was asked for has been done. -/
def Done (w : Surroundings) (q : Request) (x z : Session) : Prop :=
  ∃ s t p y script, Opened w q x s t p y ∧ (p.compile t).1 = .ok script ∧
    y.output = x.output ∧ y.calls = x.calls ∧ Delivers w q s p t script y z

/-- The faults that nobody handles. -/
inductive Escapes (w : Surroundings) (q : Request) (x : Session) : Fault → Prop where
  /-- The file of the settings is there, and nothing can be made of it. -/
  | settings {path : FilePath} {f : Fault} (named : q.config.map FilePath.read = some path)
      (unusable : Unusable x.files path x.halves (fun v => Settings.build v) f) : Escapes w q x f
  /-- The log file of the settings cannot be opened. -/
  | log {s : Settings} {cause : Outside}
      (settings : (Settings.load x.files (q.config.map FilePath.read) x.halves).1 = .ok s)
      (refused : LogRefused w q s x cause) : Escapes w q x (.outside cause)
  /-- A text of the terminal has several lines. -/
  | terminal {s : Settings} {y : Session} {f : Fault} (prepared : Prepared w q x s y)
      (broken : ¬SingleLined q s) (unmade : terminal q s = .error f) : Escapes w q x f
  /-- The file of the description is there, and nothing can be made of it. -/
  | description {s : Settings} {t : Terminal} {y : Session} {f : Fault}
      (prepared : Prepared w q x s y) (terminal : terminal q s = .ok t)
      (unusable : Unusable (y.report w [Description.loadNotice (.read q.document)]).files
        (.read q.document) x.halves (fun v => (Description.build v s.prefersColumns).1) f) :
      Escapes w q x f
  /-- The description has so many graphs that a side of their grid has no double. -/
  | graphs {s : Settings} {t : Terminal} {p : Page} {y : Session} (opened : Opened w q x s t p y)
      (uncompiled : (p.compile t).1 = .error (.outside .tooLarge)) :
      Escapes w q x (.outside .tooLarge)
  /-- The script cannot be written to its file. -/
  | file {s : Settings} {t : Terminal} {p : Page} {y : Session} {script : String} {f : Fault}
      (opened : Opened w q x s t p y) (compiled : (p.compile t).1 = .ok script)
      (asked : q.scriptOut.getD "" ≠ "")
      (unwritten : (writing w p t (q.scriptOut.getD "") script y).1 = .error f) : Escapes w q x f
  /-- The script holds half a surrogate pair and cannot be printed. -/
  | output {s : Settings} {t : Terminal} {p : Page} {y : Session} {script : String}
      (opened : Opened w q x s t p y) (compiled : (p.compile t).1 = .ok script)
      (asked : q.scriptOut.getD "" = "" ∧ q.run = false)
      (unprintable : x.halves.encodes x.escapesBytes script = false) :
      Escapes w q x (.outside .unencodable)
  /-- The system refuses to run the program, or the script cannot be fed to it. -/
  | program {s : Settings} {t : Terminal} {p : Page} {y : Session} {script : String}
      {cause : Outside} (opened : Opened w q x s t p y) (compiled : (p.compile t).1 = .ok script)
      (written : q.scriptOut.getD "" ≠ "" →
        ∃ after, writing w p t (q.scriptOut.getD "") script y = (.ok (), after))
      (asked : q.run = true) (refused : x.fed script w.outcome = .refused cause) :
      Escapes w q x (.outside cause)

/-- The settings or the description are refused or missing. -/
inductive Rejected (w : Surroundings) (q : Request) (x : Session) : Prop where
  | settings {f : Fault} (named : f.Named)
      (refused : (Settings.load x.files (q.config.map FilePath.read) x.halves).1 = .error f)
  | description {s : Settings} {y : Session} {f : Fault} (prepared : Prepared w q x s y)
      (named : f.Named) (refused : (load w q s y).1 = .error f)

theorem load_eq (w : Surroundings) (q : Request) (s : Settings) (x : Session) :
    load w q s x =
      let notice := Description.loadNotice (.read q.document)
      let r := Description.readFile (x.report w [notice]).files (.read q.document) s.prefersColumns
        x.halves
      (r.1, (x.report w [notice]).report w r.2) := rfl

theorem Opened.keeps (h : Opened w q x s t p y) :
    y.output = x.output ∧ y.calls = x.calls ∧ SameTexts x y ∧
      ∃ fs, (Description.readFile fs (.read q.document) s.prefersColumns x.halves).1 = .ok p := by
  obtain ⟨-, z, hprepared, hload⟩ := h
  obtain ⟨houtput, hcalls, htexts⟩ := hprepared.keeps
  rw [load_eq] at hload
  obtain ⟨hpage, rfl⟩ := Prod.mk.inj hload
  refine ⟨?_, ?_, ?_, _, htexts.halves ▸ hpage⟩
  · rw [output_report, output_report, houtput]
  · rw [calls_report, calls_report, hcalls]
  · exact htexts.trans ((sameTexts_report w _ z).trans (sameTexts_report w _ _))

/-- A fault that ends a session was not handled. -/
theorem Escapes.escapes (h : Escapes w q x f) (hlevel : q.Levelled) :
    (serve w q x).1 = .escaped f := by
  have hunnamed : ∀ {f : Fault}, ¬f.Named → ¬isFileFault f = true :=
    fun hf => mt isFileFault_iff.mp hf
  cases h with
  | settings named unusable =>
    obtain ⟨herror, hf⟩ := Settings.load_eq_error_iff.mpr ⟨_, named, unusable⟩
    rw [serve_of_error herror, if_neg (hunnamed hf)]
  | log settings refused =>
    refine serve_of_unprepared settings ?_
    exact (prepare_eq_error_iff hlevel (checked_of_load settings)).mpr ⟨_, rfl, refused⟩
  | terminal prepared broken unmade =>
    rw [(serve_of_prepared prepared).1, process_of_terminal_error unmade]
  | description prepared terminal unusable =>
    rw [← prepared.keeps.2.2.halves] at unusable
    obtain ⟨herror, hf⟩ := Description.readFile_eq_error_iff.mpr unusable
    rw [(serve_of_prepared prepared).1, process_of_load_error terminal herror, if_neg (hunnamed hf)]
  | graphs opened uncompiled =>
    obtain ⟨terminal, z, prepared, hload⟩ := opened
    rw [(serve_of_prepared prepared).1, process_of_load terminal hload,
      deliver_of_compile_error uncompiled]
  | file opened compiled asked unwritten =>
    obtain ⟨terminal, z, prepared, hload⟩ := opened
    rw [(serve_of_prepared prepared).1, process_of_load terminal hload,
      deliver_of_write_error compiled asked unwritten]
  | output opened compiled asked unprintable =>
    obtain ⟨-, -, htexts, -⟩ := opened.keeps
    obtain ⟨terminal, z, prepared, hload⟩ := opened
    rw [← htexts.halves, ← htexts.escapesBytes] at unprintable
    rw [(serve_of_prepared prepared).1, process_of_load terminal hload,
      deliver_of_unprintable compiled asked unprintable]
  | program opened compiled written asked refused =>
    obtain ⟨-, -, htexts, -⟩ := opened.keeps
    obtain ⟨terminal, z, prepared, hload⟩ := opened
    rw [← htexts.fed] at refused
    rw [(serve_of_prepared prepared).1, process_of_load terminal hload,
      deliver_of_refused (checked_of_load prepared.settings) compiled written asked refused]

/-- A session that has a script has brought it to all its places, and returns `n`. -/
def Served (w : Surroundings) (q : Request) (x z : Session) (n : Nat) : Prop :=
  ∃ s t p y script, Opened w q x s t p y ∧ (p.compile t).1 = .ok script ∧
    (q.scriptOut.getD "" ≠ "" →
      ∃ after, writing w p t (q.scriptOut.getD "") script y = (.ok (), after)) ∧
    Outlets w q s script y y z n

theorem Served.status {n : Nat} (h : Served w q x z n) : n = 0 ∨ n = 1 := by
  obtain ⟨s, t, p, y, script, -, -, -, houtlets⟩ := h
  rw [houtlets.status]
  split
  · exact Or.inr rfl
  · exact Or.inl rfl

theorem Served.done (h : Served w q x z 0) : Done w q x z := by
  obtain ⟨s, t, p, y, script, opened, hscript, hwriting, houtlets⟩ := h
  obtain ⟨houtput, hcalls, -, -⟩ := opened.keeps
  exact ⟨s, t, p, y, script, opened, hscript, houtput, hcalls, houtlets.delivers hwriting⟩

/-- A session that has its page escapes, or brings its script to all its places. -/
theorem Opened.cases (h : Opened w q x s t p y) : (∃ f, Escapes w q x f) ∨
    ∃ n, (serve w q x).1 = .returned n ∧ Served w q x (serve w q x).2 n := by
  obtain ⟨-, -, htexts, fs, hread⟩ := h.keeps
  obtain ⟨hterminal, z, hprepared, hload⟩ := id h
  cases hscript : (p.compile t).1 with
  | error f =>
    obtain rfl := compile_error_of_readFile hread hscript
    exact Or.inl ⟨_, .graphs h hscript⟩
  | ok script =>
    by_cases hunwritten : ∃ f, q.scriptOut.getD "" ≠ "" ∧
        (writing w p t (q.scriptOut.getD "") script y).1 = .error f
    · obtain ⟨f, hasked, hf⟩ := hunwritten
      exact Or.inl ⟨f, .file h hscript hasked hf⟩
    have hwritten : q.scriptOut.getD "" ≠ "" →
        ∃ after, writing w p t (q.scriptOut.getD "") script y = (.ok (), after) := by
      intro hasked
      cases hr : (writing w p t (q.scriptOut.getD "") script y).1 with
      | error f => exact absurd ⟨f, hasked, hr⟩ hunwritten
      | ok u => exact ⟨_, Prod.ext hr rfl⟩
    by_cases hunprinted : (q.scriptOut.getD "" = "" ∧ q.run = false) ∧
        x.halves.encodes x.escapesBytes script = false
    · exact Or.inl ⟨_, .output h hscript hunprinted.1 hunprinted.2⟩
    have hprint : q.scriptOut.getD "" = "" ∧ q.run = false →
        y.halves.encodes y.escapesBytes script = true := by
      intro hasked
      rw [htexts.halves, htexts.escapesBytes, ← Bool.not_eq_false]
      exact fun hnot => hunprinted ⟨hasked, hnot⟩
    by_cases hrefused : q.run = true ∧ ∃ cause, x.fed script w.outcome = .refused cause
    · obtain ⟨hasked, cause, hcause⟩ := hrefused
      exact Or.inl ⟨_, .program h hscript hwritten hasked hcause⟩
    have hfed : q.run = true → ∀ cause, y.fed script w.outcome ≠ .refused cause := by
      rw [htexts.fed]
      exact fun hasked cause hcause => hrefused ⟨hasked, cause, hcause⟩
    obtain ⟨n, hreturned, houtlets⟩ := deliver_outlets (checked_of_load hprepared.settings) hscript
      hwritten hprint hfed
    obtain ⟨hend, hfiles, houtput, hcalls⟩ := serve_of_prepared hprepared
    rw [process_of_load hterminal hload] at hend hfiles houtput hcalls
    exact Or.inr ⟨n, hend.trans hreturned, s, t, p, y, script, h, hscript, hwritten,
      houtlets.congr ⟨rfl, rfl⟩ hfiles houtput hcalls⟩

/-- A session escapes, is refused its files, or brings its script to all its places. -/
theorem serve_cases (hlevel : q.Levelled) :
    (∃ f, (serve w q x).1 = .escaped f ∧ Escapes w q x f) ∨
    ((serve w q x).1 = .returned 1 ∧ Rejected w q x) ∨
      ∃ n, (serve w q x).1 = .returned n ∧ Served w q x (serve w q x).2 n := by
  have hescape : ∀ {f}, Escapes w q x f → ∃ f, (serve w q x).1 = .escaped f ∧ Escapes w q x f :=
    fun h => ⟨_, h.escapes hlevel, h⟩
  cases hsettings : (Settings.load x.files (q.config.map FilePath.read) x.halves).1 with
  | error f =>
    by_cases hf : isFileFault f = true
    · rw [serve_of_error hsettings, if_pos hf]
      exact Or.inr (Or.inl ⟨rfl, .settings (isFileFault_iff.mp hf) hsettings⟩)
    · obtain ⟨path, hpath, unusable⟩ :=
        Settings.load_eq_error_iff.mp ⟨hsettings, mt isFileFault_iff.mpr hf⟩
      exact Or.inl (hescape (.settings hpath unusable))
  | ok s =>
    have hs := checked_of_load hsettings
    cases hlog : prepare w q s (configured w q x) with
    | error f =>
      obtain ⟨cause, rfl, refused⟩ := (prepare_eq_error_iff hlevel hs).mp hlog
      exact Or.inl (hescape (.log hsettings refused))
    | ok y =>
      have prepared : Prepared w q x s y := ⟨hsettings, hlog⟩
      cases hterminal : terminal q s with
      | error f =>
        have hbroken : ¬SingleLined q s := fun h =>
          absurd (hterminal.symm.trans (terminal_of_singleLined h)) (by simp)
        exact Or.inl (hescape (.terminal prepared hbroken hterminal))
      | ok t =>
        cases hpage : (load w q s y).1 with
        | error f =>
          by_cases hf : isFileFault f = true
          · rw [(serve_of_prepared prepared).1, process_of_load_error hterminal hpage, if_pos hf]
            exact Or.inr (Or.inl ⟨rfl, .description prepared (isFileFault_iff.mp hf) hpage⟩)
          · rw [load_eq, prepared.keeps.2.2.halves] at hpage
            have unusable := Description.readFile_eq_error_iff.mp
              ⟨hpage, mt isFileFault_iff.mpr hf⟩
            exact Or.inl (hescape (.description prepared hterminal unusable))
        | ok p =>
          have hload : load w q s y = (.ok p, (load w q s y).2) := Prod.ext hpage rfl
          have opened : Opened w q x s t p (load w q s y).2 := ⟨hterminal, y, prepared, hload⟩
          rcases opened.cases with ⟨f, hescapes⟩ | hserved
          · exact Or.inl (hescape hescapes)
          · exact Or.inr (Or.inr hserved)

/-- The faults that end a session unhandled: a text that is no YAML, a cause outside the library, a
text on several lines, and a failed write. -/
def Unhandled (f : Fault) : Prop :=
  (∃ path, f = .badMarkup path) ∨ (∃ cause, f = .outside cause) ∨
    (∃ what shown, f = .brokenLine what shown) ∨ ∃ path cause, f = .writeFailed path cause

theorem terminal_failsWith (q : Request) (s : Settings) :
    FailsWith Fault.OfLine (terminal q s) := by
  refine (ofValues_failsWith _ _).bind fun t _ => ?_
  split
  · exact .pure t
  · exact ofValues_failsWith _ _

theorem Escapes.unhandled (h : Escapes w q x f) : Unhandled f := by
  have hunusable : ∀ {α : Type} {fs path halves} {build : Value → Except Fault α},
      Unusable fs path halves build f → Unhandled f := by
    intro α fs path halves build h
    cases h with
    | unread => exact Or.inr (Or.inl ⟨_, rfl⟩)
    | noMarkup => exact Or.inl ⟨_, rfl⟩
    | tooLarge => exact Or.inr (Or.inl ⟨_, rfl⟩)
  cases h with
  | settings named unusable => exact hunusable unusable
  | log => exact Or.inr (Or.inl ⟨_, rfl⟩)
  | terminal prepared broken unmade =>
    exact Or.inr (Or.inr (Or.inl (terminal_failsWith q _ f unmade)))
  | description prepared terminal unusable => exact hunusable unusable
  | graphs => exact Or.inr (Or.inl ⟨_, rfl⟩)
  | file opened compiled asked unwritten =>
    rcases store_failsWith _ _ _ f unwritten with hf | hf
    · exact Or.inr (Or.inl hf)
    · exact Or.inr (Or.inr (Or.inr hf))
  | output => exact Or.inr (Or.inl ⟨_, rfl⟩)
  | program => exact Or.inr (Or.inl ⟨_, rfl⟩)

theorem perform_of_read {args : List String} (h : Request.read args = .ok q) :
    perform w args x = serve w q x := by
  simp only [perform, h]

/-- **How a session ends.**  With a command line that is accepted, a session ends in a fault exactly
in the cases of `Escapes`, and in all other cases it returns 0 or 1.  It returns 0 only when
everything that was asked for has been done. -/
theorem perform_status {args : List String} (hread : Request.read args = .ok q)
    (w : Surroundings) (x : Session) :
    (∀ f, (perform w args x).1 = .escaped f ↔ Escapes w q x f) ∧
    ((∀ f, ¬Escapes w q x f) →
      (perform w args x).1 = .returned 0 ∨ (perform w args x).1 = .returned 1) ∧
    ((perform w args x).1 = .returned 0 → Done w q x (perform w args x).2) ∧
    ∀ f, Escapes w q x f → Unhandled f := by
  have hlevel : q.Levelled := Request.levelled_of_read hread
  rw [perform_of_read hread]
  have hcases := serve_cases (w := w) (x := x) hlevel
  refine ⟨fun f => ⟨fun hf => ?_, fun h => h.escapes hlevel⟩, fun hnone => ?_, fun hzero => ?_,
    fun f => Escapes.unhandled⟩
  · rcases hcases with ⟨g, hg, h⟩ | ⟨hreturned, -⟩ | ⟨n, hreturned, -⟩
    · rwa [Ending.escaped.inj (hf.symm.trans hg)]
    · cases hf.symm.trans hreturned
    · cases hf.symm.trans hreturned
  · rcases hcases with ⟨f, -, h⟩ | ⟨hreturned, -⟩ | ⟨n, hreturned, hserved⟩
    · exact absurd h (hnone f)
    · exact Or.inr hreturned
    · rw [hreturned]
      rcases hserved.status with rfl | rfl
      · exact Or.inl rfl
      · exact Or.inr rfl
  · rcases hcases with ⟨f, hf, -⟩ | ⟨hreturned, -⟩ | ⟨n, hreturned, hserved⟩
    · cases hzero.symm.trans hf
    · cases hzero.symm.trans hreturned
    · obtain rfl := Ending.returned.inj (hzero.symm.trans hreturned)
      exact hserved.done

/-- A script is written and run, and every step of it succeeds. -/
theorem perform_status_run :
    let args := ["--run", "--script-out", "page.gp", "page.yaml"]
    let q : Request := { document := "page.yaml", scriptOut := some "page.gp", run := true }
    let w : Surroundings := ⟨⟨"", ""⟩, false, .exited 0 (some "drawn") none⟩
    let page : Node := .file "title: Run".toUTF8.toList
    let x : Session := { files := FileSystem.empty.put ["tmp", "work", "page.yaml"] page }
    Request.read args = .ok q ∧ (perform w args x).1 = .returned 0 ∧
      Done w q x (perform w args x).2 ∧ ∀ f, ¬Escapes w q x f := by
  intro args q w page x
  have hread : Request.read args = .ok q := toOption_eq_some_iff.mp (by decide +kernel)
  have hzero : (perform w args x).1 = .returned 0 := by decide +kernel
  obtain ⟨hescapes, -, hdone, -⟩ := perform_status hread w x
  refine ⟨hread, hzero, hdone hzero, fun f hf => ?_⟩
  cases hzero.symm.trans ((hescapes f).mpr hf)

-- a script with half a surrogate pair is compiled and then not printed
example :
    let page : Node := .file "pre_init: [\"\\ud800\"]".toUTF8.toList
    let x : Session := { files := FileSystem.empty.put ["tmp", "work", "page.yaml"] page }
    (perform ⟨⟨"", ""⟩, false, .notFound⟩ ["page.yaml"] x).1 =
      .escaped (.outside .unencodable) := by
  decide +kernel

-- a file that is no program is not run
example :
    let page : Node := .file "title: Run".toUTF8.toList
    let x : Session := { files := FileSystem.empty.put ["tmp", "work", "page.yaml"] page }
    (perform ⟨⟨"", ""⟩, false, .refused .notPermitted⟩ ["--run", "page.yaml"] x).1 =
      .escaped (.outside .notPermitted) := by
  decide +kernel

/-- A description that is no YAML ends the session, and its fault is not handled. -/
theorem perform_of_malformed {args : List String} (hread : Request.read args = .ok q)
    (hprepared : Prepared w q x s y) (hterminal : terminal q s = .ok t) {content : List UInt8}
    {text : String}
    (hthere : (y.report w [Description.loadNotice (.read q.document)]).files.exists?
      (.read q.document) = .ok true)
    (hcontent : (y.report w [Description.loadNotice (.read q.document)]).files.read
      (.read q.document) = .ok content)
    (htext : String.fromUTF8? ⟨content.toArray⟩ = some text)
    (hmalformed : Yaml.read text x.halves = .error .malformed) :
    (perform w args x).1 = .escaped (.badMarkup (FilePath.read q.document).text) := by
  have hmarkup := readYaml_of_malformed hthere hcontent htext hmalformed
  have hescapes : Escapes w q x (.badMarkup (FilePath.read q.document).text) :=
    .description hprepared hterminal (.noMarkup hmarkup)
  simp only [perform, hread]
  exact hescapes.escapes (Request.levelled_of_read hread)

/-- A list that is not closed is no YAML. -/
theorem perform_of_open_list :
    let page : Node := .file "a: [".toUTF8.toList
    let x : Session := { files := FileSystem.empty.put ["tmp", "work", "doc.yaml"] page }
    (perform ⟨⟨"", ""⟩, false, .notFound⟩ ["doc.yaml"] x).1 = .escaped (.badMarkup "doc.yaml") := by
  decide +kernel

end Session

end PlotPage
