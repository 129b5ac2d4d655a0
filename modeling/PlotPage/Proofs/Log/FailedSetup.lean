import PlotPage.Proofs.Log.Setup

/-!
# Setups that fail

A setup checks its level first, and a level that it does not know changes nothing.  The two other
things that can go wrong, the file and the context, are found out when the handlers of the setup
before it are gone and the level is the new one.

* `Refusal`: the three ways in which a setup fails, each with the log that it leaves.
* `failed_setup_keeps_iff`: a setup that failed has kept the log exactly when its level is unknown,
  or its file cannot be opened and there was neither a handler to lose nor a level to change.
-/

namespace PlotPage.Log

variable {l l' : Log} {level : Level} {q : LogRequest} {fs fs' : FileSystem} {isTerminal : Bool}
  {f : Fault}

/-- A setup fails with a fault and leaves a log and files. -/
inductive Refusal (isTerminal : Bool) (l : Log) (fs : FileSystem) (q : LogRequest) :
    Fault → Log → FileSystem → Prop
  /-- The level is unknown, and nothing happens. -/
  | unknownLevel : Level.ofName? (Text.upper q.level) = none →
      Refusal isTerminal l fs q (.unknownLevel q.level) l fs
  /-- The file cannot be opened, and the log is left without the handlers of the last setup. -/
  | noFile {level : Level} {name : String} {f : Fault} {fs' : FileSystem} :
      Level.ofName? (Text.upper q.level) = some level → q.file = some name → name ≠ "" →
      openFile fs (.read name) = (.error f, fs') →
      Refusal isTerminal l fs q f (l.stripped level) fs'
  /-- The context has no names, and the log is left with the new handlers and the old context. -/
  | badContext {level : Level} {place : Option Place} {f : Fault} {fs' : FileSystem} :
      Level.ofName? (Text.upper q.level) = some level → q.Opens fs place fs' →
      asked l.context q = .error f →
      Refusal isTerminal l fs q f (l.renewed level (q.outlets isTerminal place) l.context) fs'

/-! ### The ways to fail -/

/-- The file of a request can be opened or it cannot. -/
theorem opens_or_refused (fs : FileSystem) (q : LogRequest) :
    (∃ place fs', q.Opens fs place fs') ∨
      ∃ name f fs', q.file = some name ∧ name ≠ "" ∧
        openFile fs (.read name) = (.error f, fs') := by
  cases hfile : q.file with
  | none => exact Or.inl ⟨_, _, .unnamed hfile⟩
  | some name =>
    by_cases hname : name = ""
    · exact Or.inl ⟨_, _, .blank (hname ▸ hfile)⟩
    · rcases hopen : openFile fs (.read name) with ⟨f | place, fs'⟩
      · exact Or.inr ⟨name, f, fs', rfl, hname, hopen⟩
      · exact Or.inl ⟨_, _, .named hfile hname hopen⟩

/-- A setup fails in one of three ways. -/
theorem refusal_of_setup (h : l.setup isTerminal fs q = (.error f, l', fs')) :
    Refusal isTerminal l fs q f l' fs' := by
  cases hlevel : Level.ofName? (Text.upper q.level) with
  | none =>
    rw [setup_of_unknown isTerminal l fs hlevel] at h
    cases h
    exact .unknownLevel hlevel
  | some level =>
    rcases opens_or_refused fs q with ⟨place, made, hopens⟩ | ⟨name, g, made, hfile, hname, hopen⟩
    · cases hcontext : asked l.context q with
      | ok context =>
        rw [setup_eq isTerminal hlevel hopens hcontext] at h
        cases h
      | error g =>
        rw [setup_of_opens isTerminal l hlevel hopens, hcontext] at h
        cases h
        exact .badContext hlevel hopens hcontext
    · rw [setup_of_noFile isTerminal l hlevel hfile hname hopen] at h
      cases h
      exact .noFile hlevel hfile hname hopen

/-! ### What a failed setup keeps -/

/-- The level, the handlers, the record of those installed and the context are the same. -/
structure Keeps (l l' : Log) : Prop where
  level : l'.level = l.level
  handlers : l'.handlers = l.handlers
  installed : l'.installed = l.installed
  context : l'.context = l.context

/-- What a record is written to is decided by what a log keeps. -/
theorem Keeps.report_eq (h : Keeps l l') (stamp : Stamp) (n : Notice) (fs : FileSystem) :
    l'.report stamp n fs = l.report stamp n fs := by
  simp only [report, h.level, h.handlers, h.context]

theorem others_stripped (l : Log) (level : Level) : (l.stripped level).others = l.others :=
  List.filter_eq_self.mpr fun _ _ => rfl

theorem Fresh.stripped (hl : l.Fresh) (level : Level) : (l.stripped level).Fresh := hl.others

theorem not_mem_others {h : LogHandler} (hinstalled : h ∈ l.installed) : h ∉ l.others := by
  intro hmem
  have hnot := (List.mem_filter.mp hmem).2
  rw [List.contains_iff_mem.mpr hinstalled] at hnot
  cases hnot

theorem keeps_stripped_iff : Keeps l (l.stripped level) ↔ l.installed = [] ∧ level = l.level := by
  constructor
  · intro h
    exact ⟨h.installed.symm, h.level⟩
  · rintro ⟨hnone, hlevel⟩
    refine ⟨hlevel, List.filter_eq_self.mpr fun h _ => ?_, hnone.symm, rfl⟩
    rw [hnone]
    rfl

/-- New handlers have numbers of their own, so they are not those of before. -/
theorem not_keeps_renewed (hl : l.Fresh) (place : Option Place) (context : LogContext) :
    ¬Keeps l (l.renewed level (q.outlets isTerminal place) context) := by
  intro h
  have hnew : ⟨l.nextId, .stream, q.streamStyle isTerminal⟩ ∈
      (l.renewed level (q.outlets isTerminal place) context).handlers :=
    List.mem_append_right _ (by simp [adds, LogRequest.outlets])
  rw [h.handlers] at hnew
  exact absurd (hl _ hnew) (Nat.lt_irrefl _)

/-- **What a failed setup keeps.**  The context and the handlers of others always stay.  The rest of
the log stays, and with it the way in which records are written, exactly when the level is unknown,
or the file cannot be opened and there was nothing to lose; in all other cases every handler of the
setup before it is gone. -/
theorem failed_setup_keeps_iff (hl : l.Fresh) (h : l.setup isTerminal fs q = (.error f, l', fs')) :
    Refusal isTerminal l fs q f l' fs' ∧ l'.Fresh ∧ l'.context = l.context ∧
      l'.others = l.others ∧
      (Keeps l l' ↔ Level.ofName? (Text.upper q.level) = none ∨
        ((∃ name, q.file = some name ∧ name ≠ "" ∧ openFile fs (.read name) = (.error f, fs')) ∧
          l.installed = [] ∧ Level.ofName? (Text.upper q.level) = some l.level)) ∧
      (Keeps l l' → ∀ stamp n fs, l'.report stamp n fs = l.report stamp n fs) ∧
      (Level.ofName? (Text.upper q.level) ≠ none →
        ∀ h ∈ l.handlers, h ∈ l.installed → h ∉ l'.handlers) := by
  have hrefusal := refusal_of_setup h
  refine ⟨hrefusal, ?_⟩
  cases hrefusal with
  | unknownLevel hlevel =>
    exact ⟨hl, rfl, rfl, iff_of_true ⟨rfl, rfl, rfl, rfl⟩ (Or.inl hlevel),
      fun _ _ _ _ => rfl, fun hknown => absurd hlevel hknown⟩
  | noFile hlevel hfile hname hopen =>
    refine ⟨hl.stripped _, rfl, others_stripped l _, ?_, Keeps.report_eq,
      fun _ h _ => not_mem_others⟩
    rw [keeps_stripped_iff, hlevel]
    simp only [reduceCtorEq, false_or, Option.some.injEq]
    exact ⟨fun hkeeps => ⟨⟨_, hfile, hname, hopen⟩, hkeeps⟩, And.right⟩
  | badContext hlevel hopens hcontext =>
    refine ⟨hl.renewed, rfl, others_renewed hl, iff_of_false (not_keeps_renewed hl _ _) ?_,
      Keeps.report_eq, fun _ h hmem hinstalled hkept => ?_⟩
    · rintro (hunknown | ⟨⟨name, hfile, hname, hrefused⟩, -⟩)
      · rw [hlevel] at hunknown
        cases hunknown
      · cases hopens with
        | unnamed hnone => exact absurd (hnone.symm.trans hfile) (by simp)
        | blank hblank => exact hname (Option.some.inj (hblank.symm.trans hfile)).symm
        | named hsome _ hopen =>
          obtain rfl := Option.some.inj (hsome.symm.trans hfile)
          exact absurd (hopen.symm.trans hrefused) (by simp)
    · rcases List.mem_append.mp hkept with hother | hadded
      · exact not_mem_others hinstalled hother
      · have hlt := hl h hmem
        have hle := (id_of_mem_adds hadded).1
        omega

/-- An unknown level, a directory in place of the file and a key that is no text, one after another
on a log with a handler. -/
theorem failed_setup_keeps_iff_three :
    let fs := FileSystem.empty.put ["tmp", "work", "d"] .directory
    let handler : LogHandler := ⟨0, .stream, .human false⟩
    let l : Log := { level := .info, handlers := [handler], installed := [handler], nextId := 1 }
    let loud : LogRequest := { level := "loud" }
    let closed : LogRequest := { level := "debug", file := some "d" }
    let unnamed : LogRequest := { context := .map [(.int 1, .int 2)] }
    (∃ f l', l.setup false fs loud = (.error f, l', fs) ∧ Keeps l l') ∧
      (∃ f l', l.setup false fs closed = (.error f, l', fs) ∧ ¬Keeps l l' ∧ handler ∉ l'.handlers) ∧
      ∃ f l', l.setup false fs unnamed = (.error f, l', fs) ∧ ¬Keeps l l' ∧
        handler ∉ l'.handlers := by
  intro fs handler l loud closed unnamed
  have hl : l.Fresh := by simp [Fresh, l, handler]
  have hloud : Level.ofName? (Text.upper loud.level) = none := by decide +kernel
  have hclosed : Level.ofName? (Text.upper closed.level) = some .debug := by decide +kernel
  have hunnamed : Level.ofName? (Text.upper unnamed.level) = some .info := by decide +kernel
  have hfirst := setup_of_unknown false l fs hloud
  have hsecond : l.setup false fs closed = (.error (.outside .directoryInTheWay), _, fs) :=
    setup_of_noFile false l hclosed rfl (by decide) rfl
  have hthird : l.setup false fs unnamed = (.error (.outside .notKey), _, fs) :=
    setup_of_opens false l hunnamed (.unnamed rfl)
  refine ⟨⟨_, _, hfirst, ?_⟩, ⟨_, _, hsecond, ?_, ?_⟩, _, _, hthird, ?_, ?_⟩
  · exact (failed_setup_keeps_iff hl hfirst).2.2.2.2.1.mpr (Or.inl hloud)
  · rw [(failed_setup_keeps_iff hl hsecond).2.2.2.2.1, hclosed]
    simp [l, handler]
  · exact (failed_setup_keeps_iff hl hsecond).2.2.2.2.2.2 (by simp [hclosed]) handler
      List.mem_cons_self List.mem_cons_self
  · rw [(failed_setup_keeps_iff hl hthird).2.2.2.2.1, hunnamed]
    simp [unnamed]
  · exact (failed_setup_keeps_iff hl hthird).2.2.2.2.2.2 (by simp [hunnamed]) handler
      List.mem_cons_self List.mem_cons_self

/-- **A file that cannot be opened silences the log.**  A notice that was written to the error
stream before the setup failed is written nowhere afterwards. -/
theorem refused_file_silences :
    let fs := FileSystem.empty.put ["tmp", "work", "d"] .directory
    let notice : Notice := ⟨.info, "plot", "done"⟩
    ∃ returned l l', Log.setup false {} fs {} = (.ok returned, l, fs) ∧
      l.setup false fs { file := some "d" } = (.error (.outside .directoryInTheWay), l', fs) ∧
      (l.report ⟨"now", "now"⟩ notice fs).1 = "now | INFO     | done\n" ∧
      (l'.report ⟨"now", "now"⟩ notice fs).1 = "" := by
  intro fs notice
  have hlevel : ∀ q : LogRequest, q.level = "INFO" →
      Level.ofName? (Text.upper q.level) = some .info := by
    intro q hq
    rw [hq]
    decide +kernel
  refine ⟨_, _, _, setup_eq false (hlevel {} rfl) (.unnamed rfl) rfl,
    setup_of_noFile false _ (hlevel _ rfl) rfl (by decide) rfl, ?_, rfl⟩
  decide +kernel

end PlotPage.Log
