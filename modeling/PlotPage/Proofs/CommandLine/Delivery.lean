import PlotPage.Proofs.CommandLine.Steps
import PlotPage.Proofs.Files.Frame
import PlotPage.Proofs.Log.OpenFiles

/-!
# What is done with a script

The script of a session goes to a file, to the output or to the plotting program, as the command
line asks, and it is the same text everywhere (`Session.Outlets`).

The log is on all the time, and it may have files open that a session writes.  So the files are
followed through `Session.Reports`, which says what has been reported between two moments.  A script
that is being written has the name of the temporary file first: a handler that has this file open
writes on behind the script when the file is moved (`Session.Stored`).
-/

namespace PlotPage

/-- What the plotting program has printed when it exits cleanly. -/
def ProcessOutcome.printed? : ProcessOutcome → Option String
  | .exited status output _ => if status = 0 then some (output.getD "") else none
  | _ => none

theorem ProcessOutcome.printed?_eq_some_iff {o : ProcessOutcome} {text : String} :
    o.printed? = some text ↔
      ∃ output errors, o = .exited 0 output errors ∧ output.getD "" = text := by
  constructor
  · intro h
    cases o with
    | notFound => cases h
    | timedOut => cases h
    | refused cause => cases h
    | exited status output errors =>
      rw [printed?, Option.ite_none_right_eq_some] at h
      obtain ⟨rfl, htext⟩ := h
      exact ⟨output, errors, rfl, Option.some.inj htext⟩
  · rintro ⟨output, errors, rfl, rfl⟩
    rfl

namespace Session

open AtomicWrite (beside)

variable {w : Surroundings} {q : Request} {s : Settings} {x y z : Session} {t : Terminal}
  {p : Page} {f : Fault} {script : String} {ns ms : List Notice} {n : Nat}

/-! ### Reports -/

/-- Between two moments of a session the notices were reported, and nothing else happened to the log
and the files. -/
structure Reports (w : Surroundings) (ns : List Notice) (x y : Session) : Prop where
  log : y.log = x.log
  files : y.files = (x.log.reportAll w.stamp ns x.files).2

theorem reports_report (w : Surroundings) (ns : List Notice) (x : Session) :
    Reports w ns x (x.report w ns) := ⟨rfl, rfl⟩

namespace Reports

theorem refl (w : Surroundings) (x : Session) : Reports w [] x x := ⟨rfl, rfl⟩

theorem trans (h : Reports w ns x y) (h' : Reports w ms y z) : Reports w (ns ++ ms) x z := by
  refine ⟨h'.log.trans h.log, ?_⟩
  rw [h'.files, h.files, h.log, Log.files_reportAll_append]

theorem grows (h : Reports w ns x y) : x.files.Grows y.files := by
  rw [h.files]
  exact .reportAll x.log w.stamp ns x.files

theorem node (h : Reports w ns x y) (r : Place) : y.files.node? r =
    (x.files.node? r).map (Node.extend (Log.bytes (x.log.lines w.stamp ns (.file r)))) := by
  rw [h.files]
  exact Log.node_reportAll x.log w.stamp ns x.files r

/-- A file that the log does not have open stays as it is. -/
theorem node_of_not_hasOpen (h : Reports w ns x y) {r : Place} (hr : ¬x.log.HasOpen r) :
    y.files.node? r = x.files.node? r := by
  rw [h.node, Log.lines_of_not_hasOpen hr]
  exact Node.map_extend_nil _

/-- Calls do not matter to the log and the files. -/
theorem of_calls {calls : List ProcessCall} (h : Reports w ns { x with calls } y) :
    Reports w ns x y := ⟨h.log, h.files⟩

/-- The output does not matter to the log and the files. -/
theorem of_output {output : String} (h : Reports w ns { x with output } y) :
    Reports w ns x y := ⟨h.log, h.files⟩

end Reports

/-! ### The file of the script -/

/-- The script is in its file.  Behind it is what the log has written, since the notices began to be
reported, to the file that was moved there. -/
structure Stored (w : Surroundings) (path : FilePath) (script : String) (l : Log)
    (ns : List Notice) (aside place : Place) (z : Session) : Prop where
  placeAside : z.files.place (beside path) = .ok aside
  placeTarget : z.files.place path = .ok place
  log : z.log = l.moved aside place
  content : z.files.node? place = some (.file
    (script.toUTF8.toList ++ Log.bytes (l.lines w.stamp ns (.file aside))))

theorem Stored.reports {path : FilePath} {l : Log} {aside place : Place}
    (h : Stored w path script l ns aside place x) (hreports : Reports w ms x y) :
    Stored w path script l (ns ++ ms) aside place y := by
  have hextends := hreports.grows.toExtends
  refine ⟨hextends.place h.placeAside, hextends.place h.placeTarget,
    hreports.log.trans h.log, ?_⟩
  rw [hreports.node, h.content, h.log, Log.lines_moved, Log.lines_append, Log.bytes_append,
    ← List.append_assoc]
  rfl

theorem stored_of_writeText {fs after : FileSystem} {path : FilePath} {trouble : Trouble}
    (h : fs.writeText path script "utf-8" trouble = (.ok (), after)) (l : Log) :
    ∃ aside place, Stored w path script l [] aside place
      { x with files := after, log := logAfterWrite l after path } := by
  simp only [FileSystem.writeText, encodeNamed_utf8] at h
  obtain ⟨aside, place, hwrote⟩ := AtomicWrite.wrote_of_writeBytes h
  have hnamed := (AtomicWrite.attempt_of_run (congrArg Prod.fst h)).1
  refine ⟨aside, place, hwrote.aside, hwrote.place, ?_, ?_⟩
  · dsimp only [logAfterWrite]
    rw [hnamed]
    dsimp only
    rw [hwrote.aside, hwrote.place]
  · rw [hwrote.written]
    simp [Log.lines, Log.bytes]

theorem log_compiled (w : Surroundings) (p : Page) (t : Terminal) (x : Session) :
    (compiled w p t x).log = x.log := rfl

/-- A script that can be written is stored, and that it was written is reported. -/
theorem write_stores (h : (p.compile t).1 = .ok script) {path : String} {after : FileSystem}
    (hok : writing w p t path script x = (.ok (), after)) :
    ∃ y aside place, write w p path t (compiled w p t x) = (.ok (), y) ∧
      y.output = x.output ∧ y.calls = x.calls ∧ SameTexts x y ∧
      Stored w (.read path) script x.log [Page.writtenNotice (.read path)] aside place y := by
  simp only [write, compile_eq h, log_compiled]
  unfold writing at hok
  rw [hok]
  obtain ⟨aside, place, hstored⟩ := stored_of_writeText (w := w)
    (x := compiled w p t (compiled w p t x)) (writeText_of_store hok) x.log
  have htexts : SameTexts x (compiled w p t (compiled w p t x)) :=
    (sameTexts_compiled w p t x).trans (sameTexts_compiled w p t _)
  refine ⟨_, aside, place, rfl, ?_, ?_, ?_, hstored.reports (reports_report w _ _)⟩
  · rw [output_report, output_compiled, output_compiled]
  · rw [calls_report, calls_compiled, calls_compiled]
  · refine SameTexts.trans ?_ (sameTexts_report w _ _)
    exact ⟨htexts.halves, htexts.escapesBytes⟩

/-! ### The plotting program -/

/-- What the plotting program gives back: an output if it exits cleanly, and a fault of its own
otherwise, unless the system refuses the run. -/
theorem conclude_cases (r : Runner) (outcome : ProcessOutcome) {timeout : Double}
    (htimeout : r.timeout = .real timeout) (hrefused : ∀ cause, outcome ≠ .refused cause) :
    (∃ output errors, outcome = .exited 0 output errors ∧
      (r.conclude outcome).1 = .ok ⟨0, output.getD "", errors.getD ""⟩) ∨
    ∃ f, (r.conclude outcome).1 = .error f ∧ isProgramFault f = true := by
  cases outcome with
  | notFound => exact Or.inr ⟨_, rfl, rfl⟩
  | refused cause => exact absurd rfl (hrefused cause)
  | timedOut =>
    right
    simp only [Runner.conclude, htimeout]
    exact ⟨_, rfl, rfl⟩
  | exited status output errors =>
    simp only [Runner.conclude]
    by_cases hstatus : status = 0
    · subst hstatus
      exact Or.inl ⟨output, errors, rfl, rfl⟩
    · rw [if_pos hstatus]
      exact Or.inr ⟨_, rfl, rfl⟩

/-- What is reported about a run of the plotting program. -/
def runNotices (w : Surroundings) (s : Settings) (script : String) : List Notice :=
  let r := Runner.run ⟨s.executable, .real s.timeout⟩ script w.outcome
  r.notices ++
    match r.result with
    | .error f => [⟨.error, source, faultText f⟩]
    | .ok _ => [⟨.info, source, "gnuplot finished"⟩]

/-- A script that is not refused is fed as it is. -/
theorem fed_eq {o : ProcessOutcome} (h : ∀ cause, x.fed script o ≠ .refused cause) :
    x.fed script o = o := by
  unfold fed at h ⊢
  split
  · next hfed => exact absurd (if_pos hfed) (h _)
  · rfl

/-- A run that the system refuses ends the session. -/
theorem run_of_refused (hs : s.Checked) {cause : Outside}
    (h : x.fed script w.outcome = .refused cause) :
    (run w s script x).1 = .escaped (.outside cause) := by
  have hkind : ¬isProgramFault (.outside cause) = true := by cases cause <;> decide
  simp only [run, hs.runner, h, Runner.run, Runner.conclude, if_neg hkind]

/-- The plotting program is started once, and what it prints goes to the output if it exits
cleanly. -/
theorem run_effects (hs : s.Checked)
    (hfed : ∀ cause, x.fed script w.outcome ≠ .refused cause) :
    (run w s script x).1 = .returned (if w.outcome.printed? = none then 1 else 0) ∧
      (run w s script x).2.output = x.output ++ w.outcome.printed?.getD "" ∧
      (run w s script x).2.calls = x.calls ++ [⟨s.executable, script, .real s.timeout⟩] ∧
      Reports w (runNotices w s script) x (run w s script x).2 := by
  have hsame := fed_eq hfed
  have hrefused : ∀ cause, w.outcome ≠ .refused cause := hsame ▸ hfed
  simp only [run, runNotices, hs.runner, hsame]
  generalize hr : Runner.run ⟨s.executable, .real s.timeout⟩ script w.outcome = r
  have hcalls : r.calls = [⟨s.executable, script, .real s.timeout⟩] := by
    rw [← hr]
    rfl
  have hresult : (Runner.conclude ⟨s.executable, .real s.timeout⟩ w.outcome).1 = r.result := by
    rw [← hr]
    rfl
  have hstarted := (reports_report w r.notices { x with calls := x.calls ++ r.calls }).of_calls
  generalize hy : Session.report w r.notices { x with calls := x.calls ++ r.calls } = y at hstarted
  have hkept : y.calls = x.calls ++ r.calls ∧ y.output = x.output := by
    rw [← hy]
    exact ⟨rfl, rfl⟩
  rcases conclude_cases ⟨s.executable, .real s.timeout⟩ w.outcome rfl hrefused with
    ⟨output, errors, hout, hok⟩ | ⟨f, herror, hf⟩
  · have hprinted : w.outcome.printed? = some (output.getD "") :=
      ProcessOutcome.printed?_eq_some_iff.mpr ⟨output, errors, hout, rfl⟩
    simp only [← hresult, hok, hprinted]
    refine ⟨rfl, ?_, ?_, hstarted.trans (reports_report w _ _).of_output⟩
    · rw [output_report, hkept.2, Option.getD_some]
    · rw [calls_report, hkept.1, hcalls]
  · have hprinted : w.outcome.printed? = none := by
      rw [Option.eq_none_iff_forall_ne_some]
      intro text htext
      obtain ⟨output, errors, hout, -⟩ := ProcessOutcome.printed?_eq_some_iff.mp htext
      rw [hout] at herror
      cases herror
    simp only [← hresult, herror, hf, if_true, hprinted]
    refine ⟨trivial, ?_, ?_, hstarted.trans (reports_report w _ _)⟩
    · rw [output_report, hkept.2, Option.getD_none, String.append_empty]
    · rw [calls_report, hkept.1, hcalls]

/-! ### What is done with a script -/

theorem deliver_of_compile_error (h : (p.compile t).1 = .error f) :
    (deliver w q s p t x).1 = .escaped f := by
  unfold deliver compile
  generalize p.compile t = r at h
  obtain ⟨r, ns⟩ := r
  obtain rfl : r = .error f := h
  rfl

theorem deliver_of_write_error (h : (p.compile t).1 = .ok script)
    (hpath : q.scriptOut.getD "" ≠ "")
    (hf : (writing w p t (q.scriptOut.getD "") script x).1 = .error f) :
    (deliver w q s p t x).1 = .escaped f := by
  have hwrite := write_of_error h hf
  simp only [deliver, compile_eq h, if_pos hpath]
  generalize write w p (q.scriptOut.getD "") t (compiled w p t x) = r at hwrite
  obtain ⟨r, z⟩ := r
  obtain rfl : r = .error f := hwrite
  rfl

/-- A script that cannot be printed ends the session. -/
theorem deliver_of_unprintable (h : (p.compile t).1 = .ok script)
    (hasked : q.scriptOut.getD "" = "" ∧ q.run = false)
    (hprint : x.halves.encodes x.escapesBytes script = false) :
    (deliver w q s p t x).1 = .escaped (.outside .unencodable) := by
  have hprinted : (compiled w p t x).print script =
      (.error (.outside .unencodable), compiled w p t x) :=
    if_neg (Bool.eq_false_iff.mp hprint)
  simp only [deliver, compile_eq h, hasked.1, hasked.2, hprinted]
  rfl

/-- What is reported once the script is in its file. -/
def laterNotices (w : Surroundings) (q : Request) (s : Settings) (script : String) : List Notice :=
  Page.writtenNotice (.read (q.scriptOut.getD "")) :: if q.run then runNotices w s script else []

/-- A session that began as `x` and had its page there as `y` has brought one script to all places
that the command line asks for, and returns `n`. -/
structure Outlets (w : Surroundings) (q : Request) (s : Settings) (script : String)
    (x y z : Session) (n : Nat) : Prop where
  /-- The file begins with the script.  Behind it are the lines that the log has written to the file
  that had the temporary name. -/
  file : q.scriptOut.getD "" ≠ "" →
    ∃ aside, z.files.place (beside (.read (q.scriptOut.getD ""))) = .ok aside ∧
      z.files.read (.read (q.scriptOut.getD "")) = .ok (script.toUTF8.toList ++
        Log.bytes (y.log.lines w.stamp (laterNotices w q s script) (.file aside)))
  /-- The file holds the script alone, if the log does not have the temporary file open. -/
  whole : q.scriptOut.getD "" ≠ "" →
    (∀ aside, z.files.place (beside (.read (q.scriptOut.getD ""))) = .ok aside →
      ¬y.log.HasOpen aside) →
    z.files.read (.read (q.scriptOut.getD "")) = .ok script.toUTF8.toList
  output : z.output = x.output ++ (if q.scriptOut.getD "" = "" ∧ q.run = false then script else "")
    ++ if q.run then w.outcome.printed?.getD "" else ""
  calls : z.calls = x.calls ++ if q.run then [⟨s.executable, script, .real s.timeout⟩] else []
  status : n = if q.run = true ∧ w.outcome.printed? = none then 1 else 0

/-- The script is in its file or on the output, and the plotting program is still to be started. -/
structure Handed (w : Surroundings) (q : Request) (script : String) (x y : Session) : Prop where
  file : q.scriptOut.getD "" ≠ "" → ∃ aside place, Stored w (.read (q.scriptOut.getD "")) script
    x.log [Page.writtenNotice (.read (q.scriptOut.getD ""))] aside place y
  output : y.output = x.output ++ if q.scriptOut.getD "" = "" ∧ q.run = false then script else ""
  calls : y.calls = x.calls
  texts : SameTexts x y

/-- A script that can be written and printed, as it is asked for, is handed on. -/
theorem deliver_of_written (h : (p.compile t).1 = .ok script)
    (hwriting : q.scriptOut.getD "" ≠ "" →
      ∃ after, writing w p t (q.scriptOut.getD "") script x = (.ok (), after))
    (hprint : q.scriptOut.getD "" = "" ∧ q.run = false →
      x.halves.encodes x.escapesBytes script = true) :
    ∃ y, Handed w q script x y ∧
      deliver w q s p t x = if q.run then run w s script y else (.returned 0, y) := by
  by_cases hpath : q.scriptOut.getD "" = ""
  · by_cases hrun : q.run = true
    · refine ⟨compiled w p t x, ⟨fun hne => absurd hpath hne, ?_, rfl, sameTexts_compiled w p t x⟩,
        ?_⟩
      · rw [output_compiled, hrun]
        simp
      · simp only [deliver, compile_eq h, if_neg (not_not_intro hpath), if_pos hrun]
    · have hasked : q.scriptOut.getD "" = "" ∧ q.run = false :=
        ⟨hpath, Bool.eq_false_iff.mpr hrun⟩
      have hprinted : (compiled w p t x).print script =
          (.ok (), { compiled w p t x with output := (compiled w p t x).output ++ script }) :=
        if_pos (hprint hasked)
      refine ⟨{ compiled w p t x with output := (compiled w p t x).output ++ script },
        ⟨fun hne => absurd hpath hne, ?_, rfl, rfl, rfl⟩, ?_⟩
      · rw [if_pos hasked, ← output_compiled w p t x]
      · simp only [deliver, compile_eq h, if_neg (not_not_intro hpath), if_neg hrun, hprinted]
  · obtain ⟨after, hok⟩ := hwriting hpath
    obtain ⟨y, aside, place, hwrite, houtput, hcalls, htexts, hstored⟩ := write_stores h hok
    refine ⟨y, ⟨fun _ => ⟨aside, place, hstored⟩, ?_, hcalls, htexts⟩, ?_⟩
    · rw [houtput, if_neg fun hnot => hpath hnot.1, String.append_empty]
    · simp only [deliver, compile_eq h, if_pos hpath, hwrite]

/-- How a session ends that has handed its script on: what is reported from then on cannot change
the script in its file. -/
theorem Handed.outlets (h : Handed w q script x y)
    (hreports : Reports w (if q.run then runNotices w s script else []) y z)
    (houtput : z.output = y.output ++ if q.run then w.outcome.printed?.getD "" else "")
    (hcalls : z.calls =
      y.calls ++ if q.run then [⟨s.executable, script, .real s.timeout⟩] else []) :
    Outlets w q s script x x z (if q.run = true ∧ w.outcome.printed? = none then 1 else 0) := by
  have hfile : q.scriptOut.getD "" ≠ "" →
      ∃ aside, z.files.place (beside (.read (q.scriptOut.getD ""))) = .ok aside ∧
        z.files.read (.read (q.scriptOut.getD "")) = .ok (script.toUTF8.toList ++
          Log.bytes (x.log.lines w.stamp (laterNotices w q s script) (.file aside))) := by
    intro hpath
    obtain ⟨aside, place, hstored⟩ := h.file hpath
    have hlast := hstored.reports hreports
    have hread := FileSystem.read_eq_ok_iff.mpr ⟨place, hlast.placeTarget, hlast.content⟩
    exact ⟨aside, hlast.placeAside, hread⟩
  refine ⟨hfile, fun hpath hclosed => ?_, ?_, ?_, rfl⟩
  · obtain ⟨aside, haside, hread⟩ := hfile hpath
    rw [hread, Log.lines_of_not_hasOpen (hclosed aside haside)]
    exact congrArg Except.ok (List.append_nil _)
  · rw [houtput, h.output]
  · rw [hcalls, h.calls]

/-- A run that the system refuses ends a session whose script is already in its file. -/
theorem deliver_of_refused (hs : s.Checked) (h : (p.compile t).1 = .ok script)
    (hwriting : q.scriptOut.getD "" ≠ "" →
      ∃ after, writing w p t (q.scriptOut.getD "") script x = (.ok (), after))
    (hasked : q.run = true) {cause : Outside}
    (hrefused : x.fed script w.outcome = .refused cause) :
    (deliver w q s p t x).1 = .escaped (.outside cause) := by
  obtain ⟨y, hhanded, hdeliver⟩ := deliver_of_written (s := s) h hwriting fun hnot =>
    absurd (hasked.symm.trans hnot.2) (by decide)
  rw [hdeliver, if_pos hasked]
  exact run_of_refused hs ((hhanded.texts.fed script w.outcome).trans hrefused)

/-- What is done with a script that can be written, printed and fed, as it is asked for. -/
theorem deliver_outlets (hs : s.Checked) (h : (p.compile t).1 = .ok script)
    (hwriting : q.scriptOut.getD "" ≠ "" →
      ∃ after, writing w p t (q.scriptOut.getD "") script x = (.ok (), after))
    (hprint : q.scriptOut.getD "" = "" ∧ q.run = false →
      x.halves.encodes x.escapesBytes script = true)
    (hfed : q.run = true → ∀ cause, x.fed script w.outcome ≠ .refused cause) :
    ∃ n, (deliver w q s p t x).1 = .returned n ∧
      Outlets w q s script x x (deliver w q s p t x).2 n := by
  obtain ⟨y, hhanded, hdeliver⟩ := deliver_of_written (s := s) h hwriting hprint
  rw [hdeliver]
  refine ⟨if q.run = true ∧ w.outcome.printed? = none then 1 else 0, ?_⟩
  cases hrun : q.run with
  | false =>
    refine ⟨by simp, ?_⟩
    have houtlets := hhanded.outlets (s := s) (z := y) (by rw [hrun]; exact .refl w y)
      (by simp [hrun]) (by simp [hrun])
    simpa [hrun] using houtlets
  | true =>
    have hgiven : ∀ cause, y.fed script w.outcome ≠ .refused cause := by
      rw [hhanded.texts.fed]
      exact hfed hrun
    obtain ⟨hreturned, houtput, hcalls, hreports⟩ := run_effects hs hgiven
    refine ⟨by simpa using hreturned, ?_⟩
    have houtlets := hhanded.outlets (z := (run w s script y).2) (by rw [hrun]; exact hreports)
      (by rw [hrun]; exact houtput) (by rw [hrun]; exact hcalls)
    simpa [hrun] using houtlets

theorem Outlets.congr {x' z' : Session} (h : Outlets w q s script x y z n)
    (hbefore : x.output = x'.output ∧ x.calls = x'.calls) (hfiles : z'.files = z.files)
    (houtput : z'.output = z.output) (hcalls : z'.calls = z.calls) :
    Outlets w q s script x' y z' n where
  file := by
    rw [hfiles]
    exact h.file
  whole := by
    rw [hfiles]
    exact h.whole
  output := by
    rw [houtput, h.output, hbefore.1]
  calls := by
    rw [hcalls, h.calls, hbefore.2]
  status := h.status

/-- Everything that was asked for has been done with a script: it is in its file or on the output,
and the plotting program was started once with it and has exited cleanly. -/
structure Delivers (w : Surroundings) (q : Request) (s : Settings) (p : Page) (t : Terminal)
    (script : String) (x z : Session) : Prop where
  written : q.scriptOut.getD "" ≠ "" → ∃ after,
    writing w p t (q.scriptOut.getD "") script x = (.ok (), after) ∧
    after.read (.read (q.scriptOut.getD "")) = .ok script.toUTF8.toList ∧
    ∃ more, z.files.read (.read (q.scriptOut.getD "")) = .ok (script.toUTF8.toList ++ more)
  printed : q.run = false → z.calls = x.calls ∧
    z.output = x.output ++ if q.scriptOut.getD "" = "" then script else ""
  run : q.run = true → z.calls = x.calls ++ [⟨s.executable, script, .real s.timeout⟩] ∧
    ∃ output errors, w.outcome = .exited 0 output errors ∧ z.output = x.output ++ output.getD ""

/-- A session that returns 0 has done everything. -/
theorem Outlets.delivers (h : Outlets w q s script x x z 0)
    (hwriting : q.scriptOut.getD "" ≠ "" →
      ∃ after, writing w p t (q.scriptOut.getD "") script x = (.ok (), after)) :
    Delivers w q s p t script x z where
  written := by
    intro hpath
    obtain ⟨after, hok⟩ := hwriting hpath
    obtain ⟨aside, -, hread⟩ := h.file hpath
    exact ⟨after, hok, read_of_writeText (writeText_of_store hok), _, hread⟩
  printed := by
    intro hrun
    refine ⟨?_, ?_⟩
    · rw [h.calls, hrun]
      exact List.append_nil _
    · rw [h.output, hrun]
      simp
  run := by
    intro hrun
    have hstatus := h.status
    rw [hrun] at hstatus
    obtain ⟨text, htext⟩ : ∃ text, w.outcome.printed? = some text := by
      rw [← Option.ne_none_iff_exists']
      intro hnone
      simp [hnone] at hstatus
    obtain ⟨output, errors, hout, rfl⟩ := ProcessOutcome.printed?_eq_some_iff.mp htext
    refine ⟨?_, output, errors, hout, ?_⟩
    · rw [h.calls, if_pos hrun]
    · rw [h.output, htext, hrun]
      simp

end Session

end PlotPage
