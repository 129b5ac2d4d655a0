import PlotPage.CommandLine.Session
import PlotPage.Proofs.CommandLine.Arguments
import PlotPage.Proofs.Description.Script
import PlotPage.Proofs.Document.Writing
import PlotPage.Proofs.Loading
import PlotPage.Proofs.Log.Setup

/-!
# The steps of a session

A session loads the settings, sets the log up, makes the terminal, loads the description and
compiles it.  For each step there is an equation for the case that it succeeds and one for the case
that it fails, and what it fails with.

How far a session has come is said by `Session.Prepared` (the log is set up) and `Session.Opened`
(the page is there).
-/

namespace PlotPage

/-! ### What writing a script can fail with -/

/-- A fault of the file system, or a failed write that names its target. -/
def Fault.OfFile (f : Fault) : Prop := Log.Foreign f ∨ ∃ path cause, f = .writeFailed path cause

theorem cleanUp_ofFile (trouble : Trouble) (fs : FileSystem) (temporary target : FilePath)
    (cause : Outside) : (AtomicWrite.cleanUp trouble fs temporary target cause).2.OfFile := by
  unfold AtomicWrite.cleanUp
  split
  · exact Or.inl ⟨_, rfl⟩
  · exact Or.inr ⟨_, _, rfl⟩
  · split
    · exact Or.inr ⟨_, _, rfl⟩
    · exact Or.inl ⟨_, rfl⟩

theorem writeText_failsWith (fs : FileSystem) (target : FilePath) (text : String)
    (trouble : Trouble) : FailsWith Fault.OfFile (fs.writeText target text "utf-8" trouble).1 := by
  simp only [FileSystem.writeText, encodeNamed_utf8, FileSystem.writeBytes, AtomicWrite.run]
  generalize fs.ensureDirectory target.parent trouble.onMake = made
  obtain ⟨cause | made, fs'⟩ := made
  · exact .error (Or.inl ⟨cause, rfl⟩)
  · dsimp only
    split
    · exact .error (Or.inl ⟨_, rfl⟩)
    · split
      · exact .error (Or.inl ⟨_, rfl⟩)
      · split
        · exact .ok ()
        · exact .error (cleanUp_ofFile _ _ _ _ _)

/-- A script that has been written can be read. -/
theorem read_of_writeText {fs fs' : FileSystem} {target : FilePath} {text : String}
    {trouble : Trouble} (h : fs.writeText target text "utf-8" trouble = (.ok (), fs')) :
    fs'.read target = .ok text.toUTF8.toList := by
  simp only [FileSystem.writeText, encodeNamed_utf8, FileSystem.writeBytes, Prod.mk.injEq] at h
  obtain ⟨hresult, rfl⟩ := h
  exact (run_replaces trouble fs target _).written hresult

namespace Session

theorem store_failsWith (x : Session) (target : FilePath) (script : String) :
    FailsWith Fault.OfFile (x.store target script).1 := by
  unfold store
  split
  · exact .error (Or.inl ⟨_, rfl⟩)
  · split
    · exact writeText_failsWith x.files target script x.trouble
    · exact .error (Or.inl ⟨_, rfl⟩)

/-- A script that has been stored was written as any other text. -/
theorem writeText_of_store {x : Session} {target : FilePath} {script : String} {fs : FileSystem}
    (h : x.store target script = (.ok (), fs)) :
    x.files.writeText target script "utf-8" x.trouble = (.ok (), fs) := by
  unfold store at h
  split at h
  · cases h
  · split at h
    · exact h
    · cases h

end Session

/-! ### What making a terminal can fail with -/

/-- A text on several lines. -/
def Fault.OfLine (f : Fault) : Prop := ∃ what shown, f = .brokenLine what shown

theorem ofValues_failsWith (device output : String) :
    FailsWith Fault.OfLine (Terminal.ofValues (.text device) (.text output)) := by
  have hpart : ∀ name s, FailsWith Fault.OfLine (Terminal.part name (.text s)) := by
    intro name s
    rw [Terminal.part_text]
    split
    · exact .ok s
    · exact .error ⟨_, _, rfl⟩
  exact (hpart _ device).bind fun _ _ => (hpart _ output).bind fun _ _ => .pure _

/-! ### What compiling a description can fail with -/

/-- A page that was loaded compiles, unless a side of its grid has no double. -/
theorem compile_error_of_readFile {fs : FileSystem} {path : FilePath} {b : Bool} {p : Page}
    {halves : Halves} (h : (Description.readFile fs path b halves).1 = .ok p) {t : Terminal}
    {f : Fault} (hf : (p.compile t).1 = .error f) : f = .outside .tooLarge := by
  have hbuild : ∃ fields mark ns, Description.build (.map fields mark) b = (.ok p, ns) := by
    unfold Description.readFile at h
    split at h
    · cases h
    · cases h
    · next v _ _ =>
      cases v with
      | map fields mark => exact ⟨fields, mark, _, Prod.ext h rfl⟩
      | _ => cases h
  obtain ⟨fields, mark, ns, hbuild⟩ := hbuild
  obtain ⟨hsettled, hshows⟩ := Description.build_shows hbuild
  have hcount := Description.length_fragments fields
  have hplots := Description.plotLines_of_shows hshows (List.ne_nil_of_length_pos (by omega))
  split at hplots
  · have hscript := (Document.compile_eq_ok_iff (t := t)).mpr
      ⟨_, _, _, hsettled.preInit, hsettled.postInit, hplots, rfl⟩
    exact absurd (hscript.symm.trans hf) (by simp)
  · exact (Except.error.inj ((Document.compile_of_plotLines_error hplots).symm.trans hf)).symm

namespace Session

variable {w : Surroundings} {q : Request} {s : Settings} {x y z : Session} {t : Terminal}
  {p : Page} {f : Fault} {script : String}

theorem isFileFault_iff : isFileFault f = true ↔ f.Named := by
  simp [isFileFault, Fault.Named]

/-- No text that a terminal is made from has a line break. -/
def SingleLined (q : Request) (s : Settings) : Prop :=
  ∀ text ∈ [s.device, s.output] ++ q.terminal.toList ++ q.output.toList, Line.isSingle text = true

/-- Where the command line gives a text, it is the terminal's, and else that of the settings is. -/
theorem terminal_of_singleLined (h : SingleLined q s) :
    terminal q s = .ok ⟨q.terminal.getD s.device, q.output.getD s.output⟩ := by
  have hvalues : ∀ {device output}, Line.isSingle device = true → Line.isSingle output = true →
      Terminal.ofValues (.text device) (.text output) = .ok ⟨device, output⟩ := by
    intro device output hdevice houtput
    rw [Terminal.ofValues, Terminal.part_text, Terminal.part_text, if_pos hdevice, if_pos houtput]
    rfl
  have hdevice : Line.isSingle s.device = true := h _ (by simp)
  have houtput : Line.isSingle s.output = true := h _ (by simp)
  rw [terminal, hvalues hdevice houtput, ok_bind]
  cases hterminal : q.terminal with
  | none =>
    cases hq : q.output with
    | none => rfl
    | some output => exact hvalues hdevice (h _ (by simp [hq]))
  | some device =>
    cases hq : q.output with
    | none => exact hvalues (h _ (by simp [hterminal])) houtput
    | some output => exact hvalues (h _ (by simp [hterminal])) (h _ (by simp [hq]))

/-- The session after the settings have been looked up. -/
def configured (w : Surroundings) (q : Request) (x : Session) : Session :=
  x.report w (Settings.load x.files (q.config.map FilePath.read) x.halves).2

/-- The session with its log set up and the name of the description in it. -/
def prepare (w : Surroundings) (q : Request) (s : Settings) (x : Session) :
    Except Fault Session :=
  match x.setUp w (logRequest q s) with
  | (.error f, _) => .error f
  | (.ok (), y) =>
    let context := y.log.context.push [(documentField, .text q.document)]
    .ok { y with log := { y.log with context } }

/-- The settings are loaded and the log is set up for them. -/
structure Prepared (w : Surroundings) (q : Request) (x : Session) (s : Settings) (y : Session) :
    Prop where
  settings : (Settings.load x.files (q.config.map FilePath.read) x.halves).1 = .ok s
  log : prepare w q s (configured w q x) = .ok y

/-- The terminal is there and the description is loaded. -/
structure Opened (w : Surroundings) (q : Request) (x : Session) (s : Settings) (t : Terminal)
    (p : Page) (y : Session) : Prop where
  terminal : Session.terminal q s = .ok t
  page : ∃ z, Prepared w q x s z ∧ load w q s z = (.ok p, y)

/-- What opening a log file answers, if the system can be asked for it. -/
def openLog (x : Session) (p : FilePath) : Except Fault Place :=
  if x.canName p then (Log.openFile x.files p).1
  else .error (.outside (x.refuseName p fun _ => none).1)

/-- The log file that settings ask for cannot be opened. -/
def LogRefused (w : Surroundings) (q : Request) (s : Settings) (x : Session) (cause : Outside) :
    Prop :=
  ∃ name, s.logFile = some name ∧ name ≠ "" ∧
    (configured w q x).openLog (.read name) = .error (.outside cause)

theorem checked_of_load {fs : FileSystem} {path : Option FilePath} {halves : Halves}
    (h : (Settings.load fs path halves).1 = .ok s) : s.Checked := by
  unfold Settings.load at h
  split at h
  · obtain rfl := Except.ok.inj h
    exact ⟨by decide +kernel, by decide +kernel, .info, rfl⟩
  · dsimp only at h
    split at h
    · cases h
    · cases h
    · split at h
      · cases h
      · cases h
      · split at h
        · cases h
        · next hbuild =>
          obtain rfl := Except.ok.inj h
          exact Settings.checked_of_build hbuild

theorem exists_level (hlevel : q.Levelled) (hs : s.Checked) :
    ∃ level, Level.ofName? (Text.upper (logRequest q s).level) = some level := by
  cases hq : q.level with
  | none =>
    obtain ⟨level, h⟩ := hs.log
    exact ⟨level, by rw [logRequest, hq]; exact h⟩
  | some name =>
    obtain ⟨level, rfl⟩ := hlevel name hq
    refine ⟨level, ?_⟩
    rw [logRequest, hq, Option.getD_some, Settings.upper_name, Level.ofName?_name]

/-! ### Setting the log up -/

/-- A log that has been set up was set up as any other. -/
theorem setup_of_setUp {r : LogRequest} (h : x.setUp w r = (.ok (), y)) :
    ∃ hs log files, x.log.setup w.isTerminal x.files r = (.ok hs, log, files) ∧
      y = { x with log, files } := by
  unfold setUp at h
  dsimp only at h
  split at h
  · cases h
  · split at h
    · cases h
    · next hs log files hsetup => exact ⟨hs, log, files, hsetup, (Prod.mk.inj h).2.symm⟩

/-- A request whose file can be named is one to the log alone. -/
theorem setUp_of_named {r : LogRequest} (h : x.canName (.read (r.file.getD "")) = true) :
    x.setUp w r =
      match x.log.setup w.isTerminal x.files r with
      | (.error f, log, files) => (.error f, { x with log, files })
      | (.ok _, log, files) => (.ok (), { x with log, files }) := by
  unfold setUp
  dsimp only
  split
  · next hunnamed => cases h.symm.trans hunnamed
  · rfl

theorem openLog_failsWith (x : Session) (p : FilePath) : FailsWith Log.Foreign (x.openLog p) := by
  unfold openLog
  split
  · exact Log.openFile_failsWith x.files p
  · exact .error ⟨_, rfl⟩

section

variable {r : LogRequest} {level : Level} {context : LogContext} {name : String}

/-- A request whose file can be opened is met. -/
theorem setUp_of_opens (hlevel : Level.ofName? (Text.upper r.level) = some level)
    (hcontext : Log.asked x.log.context r = .ok context)
    (hnamed : x.canName (.read (r.file.getD "")) = true) {place : Option Place} {fs : FileSystem}
    (hopens : r.Opens x.files place fs) : ∃ y, x.setUp w r = (.ok (), y) := by
  rw [setUp_of_named hnamed, Log.setup_eq w.isTerminal hlevel hopens hcontext]
  exact ⟨_, rfl⟩

/-- A request for a log file is met if and only if the file can be opened. -/
theorem setUp_of_openLog (hlevel : Level.ofName? (Text.upper r.level) = some level)
    (hcontext : Log.asked x.log.context r = .ok context) (hfile : r.file = some name)
    (hname : name ≠ "") : (x.setUp w r).1 = (x.openLog (.read name)).map fun _ => () := by
  have hpath : FilePath.read (r.file.getD "") = .read name := by rw [hfile, Option.getD_some]
  unfold openLog
  cases hnamed : x.canName (.read name) with
  | false =>
    unfold setUp
    simp only [hlevel, hpath, hnamed]
    rfl
  | true =>
    cases hopen : Log.openFile x.files (.read name) with
    | mk opened fs =>
      cases opened with
      | error g =>
        rw [setUp_of_named (hpath ▸ hnamed),
          Log.setup_of_noFile w.isTerminal x.log hlevel hfile hname hopen]
        rfl
      | ok place =>
        obtain ⟨y, hy⟩ := setUp_of_opens (w := w) hlevel hcontext (hpath ▸ hnamed)
          (.named hfile hname hopen)
        rw [hy]
        rfl

end

theorem prepare_eq_error : prepare w q s x = .error f ↔
    (x.setUp w (logRequest q s)).1 = .error f := by
  unfold prepare
  generalize x.setUp w (logRequest q s) = r
  obtain ⟨g | _, y⟩ := r
  · dsimp only
    rw [Except.error.injEq, Except.error.injEq]
  · exact iff_of_false nofun nofun

theorem setUp_of_prepare (h : prepare w q s x = .ok y) :
    ∃ z, x.setUp w (logRequest q s) = (.ok (), z) ∧ y =
      { z with log := { z.log with
        context := z.log.context.push [(documentField, .text q.document)] } } := by
  unfold prepare at h
  generalize x.setUp w (logRequest q s) = r at h
  obtain ⟨g | _, z⟩ := r
  · cases h
  · exact ⟨z, rfl, (Except.ok.inj h).symm⟩

/-- Setting the log up fails for its file only. -/
theorem prepare_eq_error_iff (hlevel : q.Levelled) (hs : s.Checked) :
    prepare w q s (configured w q x) = .error f ↔
      ∃ cause, f = .outside cause ∧ LogRefused w q s x cause := by
  obtain ⟨level, hknown⟩ := exists_level hlevel hs
  have hnamed : (logRequest q s).IsNamed := fun _ => ⟨_, _, rfl, by simp⟩
  obtain ⟨context, hcontext⟩ := Log.exists_asked (configured w q x).log.context hnamed
  -- without a name the log has no file
  have hmet : (logRequest q s).file = none ∨ (logRequest q s).file = some "" →
      ((configured w q x).setUp w (logRequest q s)).1 = .ok () := by
    intro hfile
    have hopens : (logRequest q s).Opens (configured w q x).files none (configured w q x).files :=
      hfile.elim .unnamed .blank
    have hempty : (logRequest q s).file.getD "" = "" := by
      rcases hfile with h | h <;> rw [h] <;> rfl
    obtain ⟨y, hy⟩ := setUp_of_opens (w := w) hknown hcontext (by rw [hempty]; rfl) hopens
    rw [hy]
  rw [prepare_eq_error]
  cases hfile : s.logFile with
  | none =>
    rw [hmet (Or.inl hfile)]
    exact iff_of_false nofun fun ⟨_, _, _, hname, _⟩ => absurd (hfile.symm.trans hname) nofun
  | some name =>
    by_cases hne : name = ""
    · rw [hmet (Or.inr (hne ▸ hfile))]
      refine iff_of_false nofun ?_
      rintro ⟨_, _, _, hname, hsome, _⟩
      exact hsome ((Option.some.inj (hfile.symm.trans hname)).symm.trans hne)
    · rw [setUp_of_openLog hknown hcontext hfile hne, map_eq_error_iff]
      constructor
      · intro hopen
        obtain ⟨cause, rfl⟩ := openLog_failsWith _ _ f hopen
        exact ⟨cause, rfl, name, hfile, hne, hopen⟩
      · rintro ⟨cause, rfl, _, hname, -, hopen⟩
        rwa [Option.some.inj (hfile.symm.trans hname)]

/-! ### The steps of a session -/

theorem output_report (w : Surroundings) (ns : List Notice) (x : Session) :
    (x.report w ns).output = x.output := rfl

theorem calls_report (w : Surroundings) (ns : List Notice) (x : Session) :
    (x.report w ns).calls = x.calls := rfl

theorem serve_of_error
    (h : (Settings.load x.files (q.config.map FilePath.read) x.halves).1 = .error f) :
    (serve w q x).1 = if isFileFault f then .returned 1 else .escaped f := by
  unfold serve
  generalize Settings.load x.files (q.config.map FilePath.read) x.halves = r at h
  obtain ⟨r, ns⟩ := r
  obtain rfl : r = .error f := h
  dsimp only
  split <;> rfl

/-- A session that has its settings sets the log up. -/
theorem serve_of_load
    (h : (Settings.load x.files (q.config.map FilePath.read) x.halves).1 = .ok s) :
    serve w q x =
      match (configured w q x).setUp w (logRequest q s) with
      | (.error f, y) => (.escaped f, y)
      | (.ok (), y) => named q (process w q s) y := by
  unfold serve configured
  generalize Settings.load x.files (q.config.map FilePath.read) x.halves = r at h
  obtain ⟨r, ns⟩ := r
  obtain rfl : r = .ok s := h
  rfl

theorem serve_of_unprepared
    (h : (Settings.load x.files (q.config.map FilePath.read) x.halves).1 = .ok s)
    (hlog : prepare w q s (configured w q x) = .error f) : (serve w q x).1 = .escaped f := by
  rw [prepare_eq_error] at hlog
  rw [serve_of_load h]
  generalize (configured w q x).setUp w (logRequest q s) = r at hlog
  obtain ⟨r, y⟩ := r
  obtain rfl : r = .error f := hlog
  rfl

/-- A session goes on when its log is set up, and takes the name of the description out of the log
at its end. -/
theorem serve_eq_of_prepared (h : Prepared w q x s y) :
    serve w q x =
      let (ending, z) := process w q s y
      (ending, { z with log := { z.log with context := z.log.context.pop [documentField] } }) := by
  obtain ⟨z, hsetUp, rfl⟩ := setUp_of_prepare h.log
  rw [serve_of_load h.settings, hsetUp]
  rfl

/-- Nothing but the log is different at the end. -/
theorem serve_of_prepared (h : Prepared w q x s y) :
    (serve w q x).1 = (process w q s y).1 ∧ (serve w q x).2.files = (process w q s y).2.files ∧
      (serve w q x).2.output = (process w q s y).2.output ∧
      (serve w q x).2.calls = (process w q s y).2.calls := by
  rw [serve_eq_of_prepared h]
  exact ⟨rfl, rfl, rfl, rfl⟩

/-- The texts of two sessions are written, printed and fed in the same way. -/
structure SameTexts (x y : Session) : Prop where
  halves : y.halves = x.halves
  escapesBytes : y.escapesBytes = x.escapesBytes

theorem SameTexts.trans (h : SameTexts x y) (h' : SameTexts y z) : SameTexts x z :=
  ⟨h'.halves.trans h.halves, h'.escapesBytes.trans h.escapesBytes⟩

theorem sameTexts_report (w : Surroundings) (ns : List Notice) (x : Session) :
    SameTexts x (x.report w ns) := ⟨rfl, rfl⟩

theorem SameTexts.fed (h : SameTexts x y) (script : String) (o : ProcessOutcome) :
    y.fed script o = x.fed script o := by
  rw [Session.fed, Session.fed, h.halves]

theorem Prepared.keeps (h : Prepared w q x s y) :
    y.output = x.output ∧ y.calls = x.calls ∧ SameTexts x y := by
  obtain ⟨z, hsetUp, rfl⟩ := setUp_of_prepare h.log
  obtain ⟨hs, log, files, -, rfl⟩ := setup_of_setUp hsetUp
  exact ⟨rfl, rfl, rfl, rfl⟩

theorem process_of_terminal_error (h : terminal q s = .error f) :
    (process w q s y).1 = .escaped f := by
  simp only [process, h]

theorem process_of_load_error (ht : terminal q s = .ok t) (h : (load w q s y).1 = .error f) :
    (process w q s y).1 = if isFileFault f then .returned 1 else .escaped f := by
  simp only [process, ht]
  generalize load w q s y = r at h
  obtain ⟨r, z⟩ := r
  obtain rfl : r = .error f := h
  dsimp only
  split <;> rfl

theorem process_of_load (ht : terminal q s = .ok t) (h : load w q s y = (.ok p, z)) :
    process w q s y = deliver w q s p t z := by
  simp only [process, ht, h]

/-- The session after the lines of a page have been made. -/
def compiled (w : Surroundings) (p : Page) (t : Terminal) (x : Session) : Session :=
  x.report w (p.compile t).2

/-- What writing a script answers, and the files after it.  The page has been compiled twice. -/
def writing (w : Surroundings) (p : Page) (t : Terminal) (path script : String) (x : Session) :
    Except Fault Unit × FileSystem :=
  (compiled w p t (compiled w p t x)).store (.read path) script

theorem output_compiled (w : Surroundings) (p : Page) (t : Terminal) (x : Session) :
    (compiled w p t x).output = x.output := output_report w _ x

theorem calls_compiled (w : Surroundings) (p : Page) (t : Terminal) (x : Session) :
    (compiled w p t x).calls = x.calls := calls_report w _ x

theorem sameTexts_compiled (w : Surroundings) (p : Page) (t : Terminal) (x : Session) :
    SameTexts x (compiled w p t x) := sameTexts_report w _ x

theorem compile_eq (h : (p.compile t).1 = .ok script) (x : Session) :
    compile w p t x = (.ok script, compiled w p t x) := by
  unfold compiled compile
  generalize p.compile t = r at h
  obtain ⟨r, ns⟩ := r
  obtain rfl : r = .ok script := h
  rfl

theorem write_of_error (h : (p.compile t).1 = .ok script) {path : String}
    (hf : (writing w p t path script x).1 = .error f) :
    (write w p path t (compiled w p t x)).1 = .error f := by
  simp only [write, compile_eq h]
  unfold writing at hf
  generalize store _ _ _ = r at hf
  obtain ⟨r, after⟩ := r
  obtain rfl : r = .error f := hf
  rfl

end Session

end PlotPage
