import PlotPage.Proofs.CommandLine.Session

/-!
# The script of a session

A session that is refused its settings or its description has no script: it returns 1, and prints,
writes and starts nothing (`Session.Untouched`).  Any other session that returns has one script, the
same for the file, the output and the plotting program (`Session.outlets_agree`).
-/

namespace PlotPage

theorem Terminal.ofValues_eq_ok {device output : String} {t : Terminal}
    (h : ofValues (.text device) (.text output) = .ok t) : t = ⟨device, output⟩ := by
  obtain ⟨hdevice, houtput⟩ := exists_ofValues_iff.mp ⟨t, h⟩
  rw [ofValues, part_text, part_text, if_pos hdevice, if_pos houtput] at h
  exact (Except.ok.inj h).symm

namespace Session

variable {w : Surroundings} {q : Request} {s : Settings} {x y z : Session} {t : Terminal}
  {p : Page} {f : Fault} {ns : List Notice}

/-! ### What is asked for -/

/-- The terminal of a session has the texts of the command line, and those of the settings where
the command line gives none. -/
theorem terminal_eq_ok (h : terminal q s = .ok t) :
    t = ⟨q.terminal.getD s.device, q.output.getD s.output⟩ := by
  rw [terminal, bind_eq_ok_iff] at h
  obtain ⟨u, hu, h⟩ := h
  obtain rfl := Terminal.ofValues_eq_ok hu
  split at h
  · next hnone =>
    rw [Bool.and_eq_true, Option.isNone_iff_eq_none, Option.isNone_iff_eq_none] at hnone
    rw [hnone.1, hnone.2]
    exact (pure_eq_ok_iff.mp h).symm
  · exact Terminal.ofValues_eq_ok h

/-- The script of a session, if it gets that far. -/
def script? (w : Surroundings) (q : Request) (x : Session) : Option String := do
  let s ← (Settings.load x.files (q.config.map FilePath.read) x.halves).1.toOption
  let y ← (prepare w q s (configured w q x)).toOption
  let t ← (terminal q s).toOption
  let p ← (load w q s y).1.toOption
  (p.compile t).1.toOption

theorem Opened.script? (h : Opened w q x s t p y) : script? w q x = (p.compile t).1.toOption := by
  obtain ⟨hterminal, z, ⟨hsettings, hlog⟩, hload⟩ := h
  simp only [Session.script?, hsettings, hlog, hterminal, hload, Except.toOption,
    Option.bind_eq_bind, Option.bind_some]

/-- Loading a description reports, and nothing else. -/
theorem load_reports (w : Surroundings) (q : Request) (s : Settings) (x : Session) :
    (∃ ns, Reports w ns x (load w q s x).2) ∧ (load w q s x).2.output = x.output ∧
      (load w q s x).2.calls = x.calls := by
  rw [load_eq]
  refine ⟨⟨_, (reports_report w _ x).trans (reports_report w _ _)⟩, ?_, ?_⟩
  · rw [output_report, output_report]
  · rw [calls_report, calls_report]

/-! ### Sessions that are refused their files -/

/-- Nothing was printed, no program was started, and no file is different but those that the log has
or had open.  Directories may have been made for the log. -/
structure Untouched (x z : Session) : Prop where
  output : z.output = x.output
  calls : z.calls = x.calls
  files : ∀ r, z.files.node? r = x.files.node? r ∨
    (x.files.node? r = none ∧ z.files.node? r = some .directory) ∨
      x.log.HasOpen r ∨ z.log.HasOpen r

theorem Reports.untouched (h : Reports w ns x y) (houtput : y.output = x.output)
    (hcalls : y.calls = x.calls) : Untouched x y := by
  refine ⟨houtput, hcalls, fun r => ?_⟩
  by_cases hr : x.log.HasOpen r
  · exact Or.inr (Or.inr (Or.inl hr))
  · exact Or.inl (h.node_of_not_hasOpen hr)

/-- Setting the log up makes directories and opens a file. -/
theorem node_prepare (h : prepare w q s x = .ok y) (r : Place) :
    y.files.node? r = x.files.node? r ∨
      (x.files.node? r = none ∧ y.files.node? r = some .directory) ∨ y.log.HasOpen r := by
  obtain ⟨z, hsetUp, rfl⟩ := setUp_of_prepare h
  obtain ⟨hs, log, files, hsetup, rfl⟩ := setup_of_setUp hsetUp
  exact Log.node_setup hsetup r

/-- What is reported after the setup of the log comes into files that the log has open then. -/
theorem Prepared.untouched (h : Prepared w q x s y) (hreports : Reports w ns y z)
    (houtput : z.output = y.output) (hcalls : z.calls = y.calls) : Untouched x z := by
  obtain ⟨hkept, hkept', -⟩ := h.keeps
  refine ⟨houtput.trans hkept, hcalls.trans hkept', fun r => ?_⟩
  by_cases hbefore : x.log.HasOpen r
  · exact Or.inr (Or.inr (Or.inl hbefore))
  · by_cases hafter : y.log.HasOpen r
    · refine Or.inr (Or.inr (Or.inr ?_))
      rw [hreports.log]
      exact hafter
    · have hfirst : (configured w q x).files.node? r = x.files.node? r :=
        (reports_report w _ x).node_of_not_hasOpen hbefore
      rw [hreports.node_of_not_hasOpen hafter, ← hfirst]
      rcases node_prepare h.log r with hsame | hmade | hopen
      · exact Or.inl hsame
      · exact Or.inr (Or.inl hmade)
      · exact absurd hopen hafter

theorem process_of_refused (ht : terminal q s = .ok t) (h : (load w q s y).1 = .error f)
    (hf : f.Named) :
    ∃ ns, process w q s y = (.returned 1, (load w q s y).2.report w ns) := by
  refine ⟨[⟨.error, source, "Cannot load document: " ++ faultText f⟩], ?_⟩
  simp only [process, ht]
  generalize load w q s y = r at h
  obtain ⟨r, z⟩ := r
  obtain rfl : r = .error f := h
  simp only [isFileFault_iff.mpr hf, if_true]

/-- A session that is refused its files returns 1, and has touched nothing. -/
theorem Rejected.returned (h : Rejected w q x) {n : Nat} (hn : (serve w q x).1 = .returned n) :
    n = 1 ∧ Untouched x (serve w q x).2 := by
  cases h with
  | settings named refused =>
    have hone := serve_of_error (w := w) refused
    rw [if_pos (isFileFault_iff.mpr named)] at hone
    refine ⟨Ending.returned.inj (hn.symm.trans hone), ?_⟩
    unfold serve
    generalize hload : Settings.load x.files (q.config.map FilePath.read) x.halves = r at refused
    obtain ⟨r, ns⟩ := r
    obtain rfl : r = .error _ := refused
    simp only [isFileFault_iff.mpr named, if_true]
    have hreports : Reports w ns x (x.report w ns) := reports_report w ns x
    exact ⟨rfl, rfl, (hreports.untouched rfl rfl).files⟩
  | @description s y f prepared named refused =>
    cases hterminal : terminal q s with
    | error g =>
      rw [(serve_of_prepared prepared).1, process_of_terminal_error hterminal] at hn
      cases hn
    | ok t =>
      obtain ⟨⟨ns, hreports⟩, houtput, hcalls⟩ := load_reports w q s y
      obtain ⟨ms, hprocess⟩ := process_of_refused hterminal refused named
      have huntouched := prepared.untouched (hreports.trans (reports_report w ms _))
        ((output_report w ms _).trans houtput) ((calls_report w ms _).trans hcalls)
      have hserve := serve_eq_of_prepared prepared
      rw [hprocess] at hserve
      generalize (load w q s y).2.report w ms = z at hserve huntouched
      rw [hserve] at hn ⊢
      exact ⟨(Ending.returned.inj hn).symm, huntouched.output, huntouched.calls, huntouched.files⟩

/-! ### Whole sessions -/

/-- **One script goes to all outlets.**  When a session returns and was refused its settings or its
description, it returns 1 and has printed nothing, written no script and started no program.
Otherwise the page that was loaded is compiled for the terminal of the command line, where it gives
one, and else of the settings; this one script is in the file that the command line names, on the
output if it names none and asks for no run, and with the plotting program if it asks for a run.
The file holds nothing else, unless the log has the temporary file of the script open. -/
theorem outlets_agree {args : List String} (hread : Request.read args = .ok q) {n : Nat}
    (hreturned : (perform w args x).1 = .returned n) :
    (Rejected w q x → n = 1 ∧ Untouched x (perform w args x).2) ∧
    (¬Rejected w q x → ∃ s t p y script, Opened w q x s t p y ∧
      t = ⟨q.terminal.getD s.device, q.output.getD s.output⟩ ∧ (p.compile t).1 = .ok script ∧
      Outlets w q s script x y (perform w args x).2 n) := by
  rw [perform_of_read hread] at hreturned ⊢
  refine ⟨fun h => h.returned hreturned, fun hnot => ?_⟩
  rcases serve_cases (w := w) (x := x) (Request.levelled_of_read hread) with
    ⟨f, hf, -⟩ | ⟨-, hrejected⟩ | ⟨m, hm, hserved⟩
  · cases hf.symm.trans hreturned
  · exact absurd hrejected hnot
  · obtain rfl := Ending.returned.inj (hm.symm.trans hreturned)
    obtain ⟨s, t, p, y, script, opened, hscript, -, houtlets⟩ := hserved
    obtain ⟨houtput, hcalls, -, -⟩ := opened.keeps
    exact ⟨s, t, p, y, script, opened, terminal_eq_ok opened.terminal, hscript,
      houtlets.congr ⟨houtput, hcalls⟩ rfl rfl rfl⟩

/-- A script that goes to a file and to the plotting program. -/
theorem outlets_agree_run :
    let args := ["--run", "--terminal", "png", "--script-out", "page.gp", "page.yaml"]
    let q : Request := { document := "page.yaml", terminal := some "png",
                         scriptOut := some "page.gp", run := true }
    let w : Surroundings := ⟨⟨"", ""⟩, false, .exited 0 (some "drawn") none⟩
    let page : Node := .file "title: Run".toUTF8.toList
    let x : Session := { files := FileSystem.empty.put ["tmp", "work", "page.yaml"] page }
    Request.read args = .ok q ∧ (perform w args x).1 = .returned 0 ∧
      ∃ s t p y script, Opened w q x s t p y ∧ t = ⟨"png", s.output⟩ ∧
        (p.compile t).1 = .ok script ∧ Outlets w q s script x y (perform w args x).2 0 := by
  intro args q w page x
  have hread : Request.read args = .ok q := toOption_eq_some_iff.mp (by decide +kernel)
  have hzero : (perform w args x).1 = .returned 0 := by decide +kernel
  obtain ⟨hrejected, hopened⟩ := outlets_agree hread hzero
  exact ⟨hread, hzero, hopened fun h => absurd (hrejected h).1 (by decide)⟩

/-- Settings whose log goes to the temporary file of the script: the log writes on behind the
script, and the file of the script holds more than the script. -/
theorem script_file_followed_by_log :
    let args := ["--config", "c.yaml", "--script-out", "page.gp", "doc.yaml"]
    let q : Request :=
      { document := "doc.yaml", config := some "c.yaml", scriptOut := some "page.gp" }
    let w : Surroundings := ⟨⟨"", ""⟩, false, .notFound⟩
    let settings :=
      "runner:\n  executable: gnuplot\n  timeout_s: 30\nlogging:\n  file: page.gp.tmp\n"
    let page := "title: x"
    let x : Session := { files := ((FileSystem.empty
      |>.put ["tmp", "work", "c.yaml"] (.file settings.toUTF8.toList))
      |>.put ["tmp", "work", "doc.yaml"] (.file page.toUTF8.toList)) }
    Request.read args = .ok q ∧ (perform w args x).1 = .returned 0 ∧ ¬Rejected w q x ∧
      script? w q x = some "quit\n" ∧ ∀ s t p y script, Opened w q x s t p y →
        (p.compile t).1 = .ok script →
        (perform w args x).2.files.read (.read "page.gp") ≠ .ok script.toUTF8.toList := by
  intro args q w settings page x
  have hread : Request.read args = .ok q := toOption_eq_some_iff.mp (by decide +kernel)
  have hperform : (perform w args x).1 = .returned 0 ∧
      (perform w args x).2.files.read (.read "page.gp") ≠ .ok "quit\n".toUTF8.toList := by
    decide +kernel
  have hserve : (serve w q x).1 = .returned 0 := perform_of_read hread ▸ hperform.1
  have hscript : script? w q x = some "quit\n" := by decide +kernel
  refine ⟨hread, hperform.1, fun h => absurd (h.returned hserve).1 (by decide), hscript, ?_⟩
  intro s t p y script hopened hcompile
  rw [hopened.script?, hcompile] at hscript
  obtain rfl := Option.some.inj hscript
  exact hperform.2

end Session

end PlotPage
