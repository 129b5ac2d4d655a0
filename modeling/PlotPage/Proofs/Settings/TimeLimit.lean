import PlotPage.Proofs.Misfit
import PlotPage.Proofs.Number.Range
import PlotPage.Proofs.Settings

/-!
# The time limit

The time limit is the only number among the settings, and two kinds of numbers are no use as one.

* An integer without a double is not refused as a setting: the fault of the conversion comes out as
  it is.  Everything else that can be wrong with a value makes the settings invalid
  (`build_fails_outside_iff`).
* What is no number is not refused at all.  Settings and runners ask whether a limit is zero or less,
  and that it is not; apart from it, every limit that they accept is positive
  (`limit_positive_unless_nan`).
-/

namespace PlotPage

namespace Settings

/-! ### Values that do not fit -/

theorem required_misfit (fields : List (Value × Value)) (name : String) :
    FailsWith Fault.Misfit (required fields name) := by
  unfold required
  split
  · exact .ok _
  · exact .error (.of_settings rfl)

theorem runnerFields_misfit (entries : List (Value × Value)) :
    FailsWith Fault.Misfit (runnerFields entries) := by
  refine (required_misfit entries "runner").bind fun v _ => ?_
  cases v with
  | map fields mark => exact .pure _
  | _ => exact .throw (.of_type rfl)

theorem section_misfit (entries : List (Value × Value)) (name : String) :
    FailsWith Fault.Misfit (section? entries name) := by
  unfold section?
  split
  · exact .ok _
  · exact .ok _
  · exact .error (.of_settings rfl)

theorem fileName_misfit (v : Value) : FailsWith Fault.Misfit (fileName v) := by
  unfold fileName
  split
  · exact v.plain_misfit.bind fun _ _ => .pure _
  · exact .ok _

/-! ### Limits without a double -/

/-- A field of the section of the runner. -/
def runnerField? (v : Value) (name : String) : Option Value :=
  match v with
  | .map entries _ =>
    match Value.field entries "runner" with
    | some (.map fields _) => Value.field fields name
    | _ => none
  | _ => none

/-- The settings have an executable, and their time limit is an integer that has no double. -/
def LimitTooLarge (v : Value) : Prop :=
  (∃ program name, runnerField? v "executable" = some program ∧ program.plain = .ok name) ∧
    ∃ limit : Int, runnerField? v "timeout_s" = some (.int limit) ∧
      2 ^ 1024 - 2 ^ 970 ≤ limit.natAbs

/-- What is read of the runner are the fields of its section. -/
theorem runnerField?_eq_some_iff {entries : List (Value × Value)} {mark : Option Nat}
    {name : String} {v : Value} : runnerField? (.map entries mark) name = some v ↔
      ∃ fields, runnerFields entries = .ok fields ∧ required fields name = .ok v := by
  have hfound : ∀ {es : List (Value × Value)} {key : String} {w : Value},
      required es key = .ok w ↔ Value.field es key = some w := by
    intro es key w
    unfold required
    split
    · next u hu => rw [hu, Except.ok.injEq, Option.some.injEq]
    · next hu => simp [hu]
  simp only [runnerField?, runnerFields, bind_eq_ok_iff, hfound]
  constructor
  · intro h
    split at h
    · next fields mark' hrunner => exact ⟨fields, ⟨_, hrunner, rfl⟩, h⟩
    · cases h
  · rintro ⟨fields, ⟨runner, hrunner, hfields⟩, hv⟩
    cases runner with
    | map fields' mark' =>
      obtain rfl := pure_eq_ok_iff.mp hfields
      rw [hrunner]
      exact hv
    | _ => exact absurd hfields throw_ne_ok

theorem tooLarge_int_iff {i : Int} : Value.TooLarge (.int i) ↔ 2 ^ 1024 - 2 ^ 970 ≤ i.natAbs := by
  rw [Value.TooLarge, ← not_lt, ← Double.isFinite_ofInt_iff, Bool.not_eq_true]

/-- Of all that is read, only the time limit can be too large. -/
theorem read_unfit (entries : List (Value × Value)) (mark : Option Nat) :
    FailsWith (Fault.Unfit (LimitTooLarge (.map entries mark))) (read entries) := by
  refine (runnerFields_misfit entries).unfit.bind fun fields hfields => ?_
  refine (required_misfit fields "executable").unfit.bind fun program hprogram => ?_
  refine program.plain_misfit.unfit.bind fun name hname => ?_
  refine (required_misfit fields "timeout_s").unfit.bind fun limit hlimit => ?_
  refine FailsWith.bind ?_ fun _ _ => FailsWith.unfit ?_
  · refine limit.toDouble_unfit.mono fun f hf => hf.imp_right (And.imp_right fun hlarge => ?_)
    refine ⟨⟨program, name, runnerField?_eq_some_iff.mpr ⟨fields, hfields, hprogram⟩, hname⟩, ?_⟩
    cases limit with
    | int i =>
      exact ⟨i, runnerField?_eq_some_iff.mpr ⟨fields, hfields, hlimit⟩, tooLarge_int_iff.mp hlarge⟩
    | _ => exact hlarge.elim
  · exact
    (section_misfit entries "terminal").bind fun _ _ =>
    (Value.plainOrEmpty_misfit _).bind fun _ _ => (Value.plainOrEmpty_misfit _).bind fun _ _ =>
    (section_misfit entries "layout").bind fun _ _ =>
    (Description.truthValue_misfit _ _).bind fun _ _ =>
    (section_misfit entries "logging").bind fun _ _ => (Value.plain_misfit _).bind fun _ _ =>
    (Description.truthValue_misfit _ _).bind fun _ _ => (fileName_misfit _).bind fun _ _ => .pure _

/-- A limit that is too large is met before anything else that may be wrong. -/
theorem build_of_limitTooLarge {v : Value} (h : LimitTooLarge v) :
    build v = .error (.outside .tooLarge) := by
  cases v with
  | map entries mark =>
    obtain ⟨⟨program, name, hexecutable, hname⟩, limit, htimeout, hlarge⟩ := h
    obtain ⟨fields, hfields, hprogram⟩ := runnerField?_eq_some_iff.mp hexecutable
    obtain ⟨fields', hfields', hlimit⟩ := runnerField?_eq_some_iff.mp htimeout
    obtain rfl := Except.ok.inj (hfields.symm.trans hfields')
    have hdouble : Value.toDouble (.int limit) = .error (.outside .tooLarge) := by
      rw [Value.toDouble, Scalar.toDouble, Scalar.doubleOfInt]
      exact if_neg (Bool.eq_false_iff.mp (tooLarge_int_iff.mpr hlarge))
    have hread : read entries = .error (.outside .tooLarge) := by
      rw [read, hfields, ok_bind, hprogram, ok_bind, hname, ok_bind, hlimit, ok_bind, hdouble,
        error_bind]
    rw [build, hread]
    rfl
  | _ =>
    obtain ⟨⟨_, _, hexecutable, -⟩, -⟩ := h
    cases hexecutable

theorem check_failsWith (s : Settings) : FailsWith (fun f => f.kind = .settings) s.check := by
  unfold check
  split_ifs
  · exact .error rfl
  · exact .error rfl
  · exact .error rfl
  · exact .ok _

/-- Settings fail as invalid, or their time limit is too large. -/
theorem fault_of_build (v : Value) : FailsWith
    (fun f => f.kind = .settings ∨ f = .outside .tooLarge ∧ LimitTooLarge v) (build v) := by
  cases v with
  | map entries mark =>
    refine ((read_unfit entries mark).mapError fun f hf => ?_).bind fun s _ =>
      ((check_failsWith s).mono fun f hf => Or.inl hf).bind fun _ _ => .pure _
    unfold nameFault
    split
    · exact Or.inl rfl
    · next hnot =>
      simp only [Bool.or_eq_true, decide_eq_true_eq, not_or] at hnot
      exact hf.imp_left fun hmisfit => (hmisfit.resolve_left hnot.1).resolve_left hnot.2
  | _ => exact .error (Or.inl rfl)

/-- **Settings fail as invalid settings, except for a time limit without a double.** -/
theorem build_fails_outside_iff (v : Value) :
    (FailsWith (fun f => f.kind = .settings) (build v) ↔ ¬LimitTooLarge v) ∧
      (build v = .error (.outside .tooLarge) ↔ LimitTooLarge v) := by
  have houtside : ∀ f, build v = .error f → f.kind ≠ .settings →
      f = .outside .tooLarge ∧ LimitTooLarge v :=
    fun f hf hkind => (fault_of_build v f hf).resolve_left hkind
  refine ⟨⟨fun h hlarge => ?_, fun h f hf => ?_⟩, fun h => ?_, build_of_limitTooLarge⟩
  · exact absurd (h _ (build_of_limitTooLarge hlarge)) (by decide)
  · exact Decidable.byContradiction fun hkind => h (houtside f hf hkind).2
  · exact (houtside _ h (by decide)).2

/-- A time limit of 10^400 seconds: no settings, and not an invalid setting either. -/
theorem build_limit_power_of_ten :
    ∃ f, build (.map [(.text "runner", .map [(.text "executable", .text "gnuplot"),
      (.text "timeout_s", .int ((10 ^ 200) ^ 2))])]) = .error f ∧ f.kind ≠ .settings := by
  have hbuild := fault?_eq_some_iff.mp (by decide +kernel : fault? (build (.map
    [(.text "runner", .map [(.text "executable", .text "gnuplot"),
      (.text "timeout_s", .int ((10 ^ 200) ^ 2))])])) = some (.outside .tooLarge))
  exact ⟨_, hbuild, by decide⟩

end Settings

/-! ### Limits that are not positive -/

/-- Above zero, and a number. -/
def Double.IsPositive : Double → Prop
  | .nan => False
  | .infinite negative => negative = false
  | d@(.finite ..) => 0 < d.units

theorem Double.le_zero_eq_false_iff {d : Double} :
    d.le (.zero false) = false ↔ d.IsPositive ∨ d = .nan := by
  cases d with
  | nan => simp [le]
  | infinite negative => simp [le, zero, IsPositive]
  | finite negative mantissa exponent h =>
    have hzero : (Double.zero false).units = 0 := by
      rw [zero, units, Nat.zero_mul]
      rfl
    rw [zero] at hzero
    simp [le, zero, IsPositive, hzero]

/-- Above zero, and a number; a truth value counts as one or zero. -/
def Scalar.IsPositive : Scalar → Prop
  | .bool b => b = true
  | .int i => 0 < i
  | .real d => d.IsPositive

theorem Scalar.isNotPositive_eq_false_iff {t : Scalar} :
    t.isNotPositive = false ↔ t.IsPositive ∨ t = .real .nan := by
  cases t with
  | bool b => simp [isNotPositive, IsPositive]
  | int i => simp [isNotPositive, IsPositive]
  | real d =>
    rw [isNotPositive, Double.le_zero_eq_false_iff, IsPositive, real.injEq]

/-- Which runners can be made. -/
theorem Runner.new_eq_ok_iff {executable : String} {t : Scalar} {r : Runner} :
    new executable t.toValue = .ok r ↔
      executable ≠ "" ∧ (t.IsPositive ∨ t = .real .nan) ∧ r = ⟨executable, t⟩ := by
  have hscalar : Scalar.ofValue? t.toValue = some t := by cases t <;> rfl
  rw [← Scalar.isNotPositive_eq_false_iff]
  unfold new
  by_cases hname : executable = ""
  · rw [if_pos hname]
    exact iff_of_false (by simp) fun h => h.1 hname
  · rw [if_neg hname, hscalar]
    dsimp only
    by_cases hlimit : t.isNotPositive = true
    · rw [if_pos hlimit]
      refine iff_of_false (by simp) fun h => ?_
      rw [hlimit] at h
      exact absurd h.2.1 (by decide)
    · rw [if_neg hlimit, Except.ok.injEq, eq_comm]
      exact ⟨fun h => ⟨hname, Bool.eq_false_iff.mpr hlimit, h⟩, fun h => h.2.2⟩

namespace Settings

/-- The limit of settings is the double that is given for it. -/
theorem limit_of_build {v : Value} {s : Settings} {ns : List Notice} (h : build v = .ok (s, ns)) :
    ∃ limit, runnerField? v "timeout_s" = some limit ∧ limit.toDouble = .ok s.timeout := by
  cases v with
  | map entries mark =>
    simp only [build, bind_eq_ok_iff, mapError_eq_ok_iff, pure_eq_ok_iff, Prod.mk.injEq] at h
    obtain ⟨s', hread, -, -, rfl, -⟩ := h
    simp only [read, bind_eq_ok_iff, pure_eq_ok_iff] at hread
    obtain ⟨fields, hfields, _, -, _, -, limit, hlimit, timeout, htimeout, hread⟩ := hread
    obtain ⟨_, -, _, -, _, -, _, -, _, -, _, -, _, -, _, -, _, -, rfl⟩ := hread
    exact ⟨limit, runnerField?_eq_some_iff.mpr ⟨fields, hfields, hlimit⟩, htimeout⟩
  | _ => exact absurd h (by simp [build])

/-- **A limit that settings or a runner accept is positive, unless it is no number.**  The limit of
settings is no number only if what is given for it denotes none. -/
theorem limit_positive_unless_nan (v : Value) (executable : String) (t : Scalar) :
    (∀ s ns, build v = .ok (s, ns) →
      (s.timeout.IsPositive ↔ s.timeout ≠ .nan) ∧
      (∃ limit, runnerField? v "timeout_s" = some limit ∧ limit.toDouble = .ok s.timeout) ∧
      (∃ c ∈ s.executable.toList, Text.isBlank c = false) ∧ ∃ level : Level, s.level = level.name) ∧
    ∀ r, Runner.new executable t.toValue = .ok r ↔
      executable ≠ "" ∧ (t.IsPositive ∨ t = .real .nan) ∧ r = ⟨executable, t⟩ := by
  refine ⟨fun s ns h => ?_, fun _ => Runner.new_eq_ok_iff⟩
  have hchecked := checked_of_build h
  have hlimit := Double.le_zero_eq_false_iff.mp hchecked.timeout
  have hexecutable := hchecked.executable
  rw [Text.isBlankText, List.all_eq_false] at hexecutable
  refine ⟨⟨fun hpositive hnan => ?_, hlimit.resolve_right⟩, limit_of_build h, ?_, hchecked.level⟩
  · rw [hnan] at hpositive
    exact hpositive
  · obtain ⟨c, hc, hblank⟩ := hexecutable
    exact ⟨c, hc, Bool.eq_false_iff.mpr hblank⟩

/-- Settings with a limit that is given as a text, and a runner with an infinite one. -/
theorem limit_positive_half_a_minute :
    let v : Value :=
      .map [(.text "runner", .map
          [(.text "executable", .text "gnuplot"), (.text "timeout_s", .text " 3_0.5 ")]),
        (.text "logging", .map [(.text "level", .text "Debug")])]
    (∃ s ns, build v = .ok (s, ns) ∧ s.timeout.IsPositive) ∧
      ∃ r, Runner.new "gnuplot" (.real (.infinite false)) = .ok r ∧ r.timeout.IsPositive := by
  intro v
  obtain ⟨hsettings, hrunner⟩ := limit_positive_unless_nan v "gnuplot" (.real (.infinite false))
  have hread : ((build v).toOption.map fun r => r.1.timeout.isFinite) = some true := by
    decide +kernel
  obtain ⟨⟨s, ns⟩, hs, hfinite⟩ := Option.map_eq_some_iff.mp hread
  have hbuild := toOption_eq_some_iff.mp hs
  refine ⟨⟨s, ns, hbuild, (hsettings s ns hbuild).1.mpr fun hnan => ?_⟩, ?_⟩
  · rw [hnan] at hfinite
    cases hfinite
  · exact ⟨_, (hrunner _).mpr ⟨by decide, Or.inl rfl, rfl⟩, rfl⟩

/-- **What is no number passes as a limit**: settings take it as a number and as a text, and so does
a runner. -/
theorem nan_limit_accepted :
    (∀ limit ∈ [Value.real .nan, .text "nan"], ∃ s ns, build (.map [(.text "runner",
        .map [(.text "executable", .text "gnuplot"), (.text "timeout_s", limit)])]) = .ok (s, ns) ∧
      ¬s.timeout.IsPositive) ∧
    ∃ r, Runner.new "gnuplot" (.real .nan) = .ok r ∧ ¬r.timeout.IsPositive := by
  refine ⟨fun limit hlimit => ?_, _, rfl, id⟩
  have hread : (build (.map [(.text "runner", .map [(.text "executable", .text "gnuplot"),
      (.text "timeout_s", limit)])])).toOption = some (⟨"gnuplot", .nan, "", "", true, "INFO", false,
        none⟩, []) := by
    simp only [List.mem_cons, List.not_mem_nil, or_false] at hlimit
    rcases hlimit with rfl | rfl
    · decide +kernel
    · decide +kernel
  exact ⟨_, _, toOption_eq_some_iff.mp hread, id⟩

end Settings

end PlotPage
