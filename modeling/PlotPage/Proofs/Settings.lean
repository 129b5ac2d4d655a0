import Mathlib.Tactic.SplitIfs
import PlotPage.Log.Basic
import PlotPage.Proofs.Result
import PlotPage.Runner.Basic
import PlotPage.Script.Terminal
import PlotPage.Settings

/-!
# What uses settings

Settings are checked once, and then the runner, the log and the terminal are made from them.  Each of
the three has conditions of its own.  Those of the runner and of the log are among what was checked:
an executable that is not blank is not empty, the time limits are compared in the same way, and the
upper case of the name of a level is the name.  The terminal wants texts on a single line, which
nobody checked (`Settings.uses_of_build`).
-/

namespace PlotPage

/-! ### The log -/

namespace Log

/-- The cause of a fault lies outside the library. -/
def Foreign (f : Fault) : Prop := ∃ cause, f = .outside cause

theorem openFile_failsWith (fs : FileSystem) (p : FilePath) : FailsWith Foreign (openFile fs p).1 := by
  unfold openFile
  split
  · exact .error ⟨_, rfl⟩
  · split
    · exact .error ⟨_, rfl⟩
    · exact .ok _

theorem outlets_failsWith (isTerminal : Bool) (fs : FileSystem) (q : LogRequest) :
    FailsWith Foreign (outlets isTerminal fs q).1 := by
  simp only [outlets]
  generalize (if q.json then LineStyle.json else .human (q.hasColors && isTerminal)) = streamStyle
  generalize (if q.json then LineStyle.json else .human false) = fileStyle
  split
  · exact .ok _
  · exact .ok _
  · rename_i name _ _
    have hopen := openFile_failsWith fs (.read name)
    split
    · rename_i f fs' hf
      rw [hf] at hopen
      exact .error (hopen f rfl)
    · exact .ok _

theorem namedFields_failsWith (entries : List (Value × Value)) :
    FailsWith Foreign (LogContext.namedFields entries) := by
  induction entries with
  | nil => exact .ok []
  | cons e rest ih =>
    obtain ⟨key, v⟩ := e
    cases key with
    | text name => exact ih.bind fun _ _ => .pure _
    | _ => exact .error ⟨_, rfl⟩

theorem pushValue_failsWith (c : LogContext) (v : Value) : FailsWith Foreign (c.pushValue v) := by
  refine FailsWith.bind ?_ fun _ _ => .pure _
  cases v with
  | map entries mark => exact namedFields_failsWith entries
  | _ => exact .error ⟨_, rfl⟩

/-- A known level is set, and what fails after that is not the level. -/
theorem setup_of_level {q : LogRequest} {level : Level}
    (h : Level.ofName? (Text.upper q.level) = some level) (isTerminal : Bool) (l : Log)
    (fs : FileSystem) : (setup isTerminal l fs q).2.1.level = level ∧
      FailsWith Foreign (setup isTerminal l fs q).1 := by
  have houtlets := outlets_failsWith isTerminal fs q
  simp only [setup, h]
  generalize outlets isTerminal fs q = opened at houtlets
  obtain ⟨f | os, fs'⟩ := opened
  · exact ⟨rfl, .error (houtlets f rfl)⟩
  · dsimp only
    split
    · have hpush := pushValue_failsWith ({ l.release with level }.install os).context q.context
      split
      · rename_i f hf
        exact ⟨rfl, .error (hpush f hf)⟩
      · exact ⟨rfl, .ok _⟩
    · exact ⟨rfl, .ok _⟩

end Log

/-! ### The terminal -/

theorem Terminal.part_text (name s : String) : part name (.text s) =
    if Line.isSingle s then .ok s
    else .error (.brokenLine s!"Terminal {name}" (Text.quote s)) := by
  show (do Line.check s!"Terminal {name}" s; return s : Except Fault String) = _
  rw [Line.check]
  split
  · rfl
  · rfl

/-- A terminal is made from two texts on a single line. -/
theorem Terminal.exists_ofValues_iff {device output : String} :
    (∃ t, ofValues (.text device) (.text output) = .ok t) ↔
      Line.isSingle device = true ∧ Line.isSingle output = true := by
  rw [ofValues, part_text, part_text]
  by_cases hdevice : Line.isSingle device = true
  · by_cases houtput : Line.isSingle output = true
    · rw [if_pos hdevice, if_pos houtput]
      exact iff_of_true ⟨_, rfl⟩ ⟨hdevice, houtput⟩
    · rw [if_pos hdevice, if_neg houtput, ok_bind, error_bind]
      exact iff_of_false (fun ⟨_, ht⟩ => absurd ht (by simp)) fun h => houtput h.2
  · rw [if_neg hdevice, error_bind]
    exact iff_of_false (fun ⟨_, ht⟩ => absurd ht (by simp)) fun h => hdevice h.1

/-! ### Settings -/

namespace Settings

theorem upper_name (level : Level) : Text.upper level.name = level.name := by
  cases level <;> decide +kernel

/-- What a check has found out. -/
structure Checked (s : Settings) : Prop where
  executable : Text.isBlankText s.executable = false
  timeout : s.timeout.le (.zero false) = false
  level : ∃ level : Level, s.level = level.name

theorem checked_of_check {s : Settings} {u : Unit} (h : s.check = .ok u) : s.Checked := by
  unfold check at h
  split_ifs at h with hexecutable htimeout hlevel
  refine ⟨Bool.eq_false_iff.mpr hexecutable, Bool.eq_false_iff.mpr htimeout, ?_⟩
  rw [Option.isNone_iff_eq_none] at hlevel
  obtain ⟨level, hlevel⟩ := Option.ne_none_iff_exists'.mp hlevel
  have hname := List.find?_some hlevel
  exact ⟨level, (of_decide_eq_true hname).symm⟩

theorem checked_of_build {v : Value} {s : Settings} {ns : List Notice}
    (h : build v = .ok (s, ns)) : s.Checked := by
  cases v with
  | map entries mark =>
    simp only [build, bind_eq_ok_iff, pure_eq_ok_iff, Prod.mk.injEq] at h
    obtain ⟨s', -, u, hu, rfl, -⟩ := h
    exact checked_of_check hu
  | _ => exact absurd h (by simp [build])

namespace Checked

variable {s : Settings} (h : s.Checked)

include h

theorem runner : Runner.new s.executable (.real s.timeout) = .ok ⟨s.executable, .real s.timeout⟩ := by
  have hne : s.executable ≠ "" := by
    intro hempty
    have hblank := h.executable
    rw [hempty] at hblank
    exact absurd hblank (by decide)
  have htime : (Scalar.real s.timeout).isNotPositive = false := h.timeout
  simp only [Runner.new, if_neg hne, Scalar.ofValue?, htime, Bool.false_eq_true, if_false]

theorem log : ∃ level, Level.ofName? (Text.upper s.level) = some level := by
  obtain ⟨level, hlevel⟩ := h.level
  refine ⟨level, ?_⟩
  rw [hlevel, upper_name, Level.ofName?_name]

end Checked

/-- **Accepted settings make a runner and a log, and a terminal if its texts are single lines.** -/
theorem uses_of_build {v : Value} {s : Settings} {ns : List Notice} (h : build v = .ok (s, ns)) :
    Runner.new s.executable (.real s.timeout) = .ok ⟨s.executable, .real s.timeout⟩ ∧
      (∃ level, ∀ isTerminal l fs q, q.level = s.level →
        (Log.setup isTerminal l fs q).2.1.level = level ∧
          FailsWith Log.Foreign (Log.setup isTerminal l fs q).1) ∧
      ((∃ t, Terminal.ofValues (.text s.device) (.text s.output) = .ok t) ↔
        Line.isSingle s.device = true ∧ Line.isSingle s.output = true) := by
  have hchecked := checked_of_build h
  obtain ⟨level, hlevel⟩ := hchecked.log
  refine ⟨hchecked.runner, ⟨level, fun isTerminal l fs q hq => ?_⟩, Terminal.exists_ofValues_iff⟩
  exact Log.setup_of_level (hq ▸ hlevel) isTerminal l fs

/-- Settings whose level is in lower case and whose terminal has options and a file. -/
theorem uses_of_build_png :
    ∃ s ns, build (.map
        [(.text "runner", .map [(.text "executable", .text "gnuplot"), (.text "timeout_s", .int 30)]),
          (.text "terminal", .map [(.text "device_type", .text "pngcairo size 800,600"),
            (.text "output_path", .text "run.png")]),
          (.text "logging", .map [(.text "level", .text "debug")])]) = .ok (s, ns) ∧
      s.level = "DEBUG" ∧
      Runner.new s.executable (.real s.timeout) = .ok ⟨s.executable, .real s.timeout⟩ ∧
      (∃ level, ∀ isTerminal l fs q, q.level = s.level →
        (Log.setup isTerminal l fs q).2.1.level = level ∧
          FailsWith Log.Foreign (Log.setup isTerminal l fs q).1) ∧
      ∃ t, Terminal.ofValues (.text s.device) (.text s.output) = .ok t := by
  have hbuild := toOption_eq_some_iff.mp (by decide +kernel : (build (.map
    [(.text "runner", .map [(.text "executable", .text "gnuplot"), (.text "timeout_s", .int 30)]),
      (.text "terminal", .map [(.text "device_type", .text "pngcairo size 800,600"),
        (.text "output_path", .text "run.png")]),
      (.text "logging", .map [(.text "level", .text "debug")])])).toOption =
    some (⟨"gnuplot", .ofInt 30, "pngcairo size 800,600", "run.png", true, "DEBUG", false, none⟩, []))
  obtain ⟨hrunner, hlog, hterminal⟩ := uses_of_build hbuild
  exact ⟨_, _, hbuild, rfl, hrunner, hlog, hterminal.mpr (by decide)⟩

/-- **A terminal of two lines is accepted**, and no terminal is made from it. -/
theorem terminal_of_two_lines :
    ∃ s ns, build (.map
        [(.text "runner", .map [(.text "executable", .text "gnuplot"), (.text "timeout_s", .int 30)]),
          (.text "terminal", .map [(.text "device_type", .text "png\nset")])]) = .ok (s, ns) ∧
      ∃ f, Terminal.ofValues (.text s.device) (.text s.output) = .error f := by
  have hbuild := toOption_eq_some_iff.mp (by decide +kernel : (build (.map
    [(.text "runner", .map [(.text "executable", .text "gnuplot"), (.text "timeout_s", .int 30)]),
      (.text "terminal", .map [(.text "device_type", .text "png\nset")])])).toOption =
    some (⟨"gnuplot", .ofInt 30, "png\nset", "", true, "INFO", false, none⟩, []))
  exact ⟨_, _, hbuild, _, rfl⟩

end Settings

end PlotPage
