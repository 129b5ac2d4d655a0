import PlotPage.Proofs.Settings.TimeLimit

/-!
# What a run comes to

A run starts the program once, gives it the script, and answers for what came of it, which is given
here: a clean exit is returned with both texts, and any other ending of the program is a fault of
the program, which carries what a caller may want to know about it (`Runner.Tells`).

Making the fault can go wrong itself.  The one that stands for a lack of time gives the limit with
one place after the point, as a double, and a runner takes integers of any size.  From
2^1024 - 2^970 on there is no double, and the fault of the conversion comes out instead.  As long
as the program is not found, runs out of time or exits, this is the only fault of a run that is none
of the program; and where the system refuses the run, the cause comes out as it is
(`Runner.run_tells_iff`).
-/

namespace PlotPage

/-- A fault of the plotting program: it cannot be started, is not done in time, or reports an error. -/
def Fault.IsProgram (f : Fault) : Prop :=
  f.kind = .programMissing ∨ f.kind = .programTimeout ∨ f.kind = .programFailed

/-- A scalar has a double unless it is an integer that is too large. -/
theorem Scalar.toDouble_cases (t : Scalar) :
    (∃ d, t.toDouble = .ok d ∧ ∀ i, t = .int i → i.natAbs < 2 ^ 1024 - 2 ^ 970) ∨
      t.toDouble = .error (.outside .tooLarge) ∧
        ∃ i, t = .int i ∧ 2 ^ 1024 - 2 ^ 970 ≤ i.natAbs := by
  cases t with
  | bool b => exact Or.inl ⟨_, rfl, fun i hi => absurd hi (by simp)⟩
  | real d => exact Or.inl ⟨d, rfl, fun i hi => absurd hi (by simp)⟩
  | int i =>
    rw [toDouble, doubleOfInt]
    by_cases hfinite : (Double.ofInt i).isFinite = true
    · rw [if_pos hfinite]
      refine Or.inl ⟨_, rfl, fun j hj => ?_⟩
      rw [← int.inj hj]
      exact Double.isFinite_ofInt_iff.mp hfinite
    · rw [if_neg hfinite]
      rw [Double.isFinite_ofInt_iff, not_lt] at hfinite
      exact Or.inr ⟨rfl, i, rfl, hfinite⟩

theorem Text.isBlankText_eq_false_iff {s : String} :
    isBlankText s = false ↔ ∃ c ∈ s.toList, isBlank c = false := by
  rw [isBlankText, List.all_eq_false]
  simp only [Bool.not_eq_true]

namespace Runner

/-- The time limit is an integer that has no double. -/
def LimitTooLarge (r : Runner) : Prop :=
  ∃ limit : Int, r.timeout = .int limit ∧ 2 ^ 1024 - 2 ^ 970 ≤ limit.natAbs

/-- What a run answers to what the program did. -/
inductive Tells (r : Runner) : ProcessOutcome → Except Fault RunResult → Prop
  | missing : r.Tells .notFound (.error (.programMissing r.executable))
  /-- The limit is told in seconds, as the double that it denotes. -/
  | late {limit : Double} (h : r.timeout.toDouble = .ok limit) :
      r.Tells .timedOut (.error (.programTimeout (onePlace limit)))
  | failed {status : Int} {output errors : Option String} (h : status ≠ 0) :
      r.Tells (.exited status output errors)
        (.error (.programFailed status (errors.getD "") (errorDetail (errors.getD ""))))
  /-- A text that is missing counts as empty. -/
  | clean {output errors : Option String} :
      r.Tells (.exited 0 output errors) (.ok ⟨0, output.getD "", errors.getD ""⟩)

variable {r : Runner} {outcome : ProcessOutcome} {x : Except Fault RunResult}

theorem Tells.failsWith (h : r.Tells outcome x) : FailsWith Fault.IsProgram x := by
  cases h with
  | missing => exact .error (Or.inl rfl)
  | late _ => exact .error (Or.inr (Or.inl rfl))
  | failed _ => exact .error (Or.inr (Or.inr rfl))
  | clean => exact .ok _

/-- A limit without a double cannot be told. -/
theorem conclude_timedOut_of_limitTooLarge (h : r.LimitTooLarge) :
    (r.conclude .timedOut).1 = .error (.outside .tooLarge) := by
  obtain ⟨limit, hlimit, hlarge⟩ := h
  have hdouble : r.timeout.toDouble = .error (.outside .tooLarge) := by
    rcases r.timeout.toDouble_cases with ⟨-, -, hsmall⟩ | ⟨hdouble, -⟩
    · exact absurd (hsmall limit hlimit) (not_lt.mpr hlarge)
    · exact hdouble
  rw [conclude, hdouble]
  rfl

/-- Apart from that, every ending of the program is told. -/
theorem tells_conclude (h : ¬(outcome = .timedOut ∧ r.LimitTooLarge))
    (hrefused : ∀ cause, outcome ≠ .refused cause) : r.Tells outcome (r.conclude outcome).1 := by
  cases outcome with
  | notFound => exact .missing
  | refused cause => exact absurd rfl (hrefused cause)
  | timedOut =>
    rcases r.timeout.toDouble_cases with ⟨limit, hlimit, -⟩ | ⟨-, i, hi, hlarge⟩
    · rw [conclude, hlimit]
      exact .late hlimit
    · exact absurd ⟨rfl, i, hi, hlarge⟩ h
  | exited status output errors =>
    by_cases hstatus : status = 0
    · subst hstatus
      exact .clean
    · simp only [conclude, if_pos hstatus]
      exact .failed hstatus

/-- A cause outside the library is no fault of the program. -/
theorem not_failsWith_outside (cause : Outside) :
    ¬FailsWith Fault.IsProgram (.error (.outside cause) : Except Fault RunResult) := by
  intro hfails
  rcases hfails _ rfl with hkind | hkind | hkind <;> cases cause <;> cases hkind

/-- A run fails through the program, or returns, exactly when its ending is told. -/
theorem failsWith_conclude_iff : FailsWith Fault.IsProgram (r.conclude outcome).1 ↔
    ¬(outcome = .timedOut ∧ r.LimitTooLarge) ∧ ∀ cause, outcome ≠ .refused cause := by
  refine ⟨fun hfails => ⟨?_, ?_⟩, fun h => (tells_conclude h.1 h.2).failsWith⟩
  · rintro ⟨rfl, hlarge⟩
    rw [conclude_timedOut_of_limitTooLarge hlarge] at hfails
    exact not_failsWith_outside _ hfails
  · rintro cause rfl
    exact not_failsWith_outside cause hfails

theorem tells_conclude_iff : r.Tells outcome (r.conclude outcome).1 ↔
    ¬(outcome = .timedOut ∧ r.LimitTooLarge) ∧ ∀ cause, outcome ≠ .refused cause :=
  ⟨fun h => failsWith_conclude_iff.mp h.failsWith, fun h => tells_conclude h.1 h.2⟩

/-- Only a clean exit is returned. -/
theorem exists_conclude_eq_ok_iff : (∃ result, (r.conclude outcome).1 = .ok result) ↔
    ∃ output errors, outcome = .exited 0 output errors := by
  constructor
  · rintro ⟨result, hresult⟩
    have htells : r.Tells outcome (r.conclude outcome).1 := by
      rw [tells_conclude_iff, ← failsWith_conclude_iff, hresult]
      exact .ok result
    rw [hresult] at htells
    cases htells
    exact ⟨_, _, rfl⟩
  · rintro ⟨output, errors, rfl⟩
    exact ⟨_, rfl⟩

/-- A clean exit is reported if the errors have more than blanks, and nothing else is. -/
theorem mem_conclude_iff {n : Notice} : n ∈ (r.conclude outcome).2 ↔
    ∃ output errors, outcome = .exited 0 output (some errors) ∧
      (∃ c ∈ errors.toList, Text.isBlank c = false) ∧
        n = ⟨.warning, source, "gnuplot reported: " ++ Text.trim errors⟩ := by
  constructor
  · intro h
    cases outcome with
    | notFound => exact absurd h List.not_mem_nil
    | timedOut => exact absurd h List.not_mem_nil
    | refused cause => exact absurd h List.not_mem_nil
    | exited status output errors =>
      by_cases hstatus : status = 0
      · subst hstatus
        simp only [conclude, ne_eq, not_true_eq_false, if_false] at h
        by_cases hempty : Text.isBlankText (errors.getD "") = true
        · rw [if_pos hempty] at h
          exact absurd h List.not_mem_nil
        · rw [if_neg hempty, List.mem_singleton] at h
          cases errors with
          | none => exact absurd rfl hempty
          | some s =>
            exact ⟨output, s, rfl,
              Text.isBlankText_eq_false_iff.mp (Bool.eq_false_iff.mpr hempty), h⟩
      · simp only [conclude, if_pos hstatus] at h
        exact absurd h List.not_mem_nil
  · rintro ⟨output, errors, rfl, hchar, rfl⟩
    have hnot := Text.isBlankText_eq_false_iff.mpr hchar
    simp only [conclude, ne_eq, not_true_eq_false, if_false, Option.getD_some, hnot]
    exact List.mem_singleton.mpr rfl

/-- **Every ending of the program is told**, except for a lack of time under a limit that has no
double; a run that the system refuses fails with the cause of that. -/
theorem run_tells_iff {executable : String} {t : Scalar} (h : new executable t.toValue = .ok r)
    (script : String) (outcome : ProcessOutcome) :
    (r.run script outcome).calls = [⟨executable, script, t⟩] ∧
      (r.Tells outcome (r.run script outcome).result ↔
        ¬(outcome = .timedOut ∧ r.LimitTooLarge) ∧ ∀ cause, outcome ≠ .refused cause) ∧
      (FailsWith Fault.IsProgram (r.run script outcome).result ↔
        ¬(outcome = .timedOut ∧ r.LimitTooLarge) ∧ ∀ cause, outcome ≠ .refused cause) ∧
      (outcome = .timedOut ∧ r.LimitTooLarge →
        (r.run script outcome).result = .error (.outside .tooLarge)) ∧
      (∀ cause, outcome = .refused cause →
        (r.run script outcome).result = .error (.outside cause)) ∧
      ((∃ result, (r.run script outcome).result = .ok result) ↔
        ∃ output errors, outcome = .exited 0 output errors) ∧
      ((∃ n ∈ (r.run script outcome).notices, n.level = .warning) ↔
        ∃ output errors, outcome = .exited 0 output (some errors) ∧
          ∃ c ∈ errors.toList, Text.isBlank c = false) := by
  obtain ⟨-, -, hr⟩ := new_eq_ok_iff.mp h
  have hlarge : outcome = .timedOut ∧ r.LimitTooLarge →
      (r.conclude outcome).1 = .error (.outside .tooLarge) := by
    rintro ⟨rfl, hlimit⟩
    exact conclude_timedOut_of_limitTooLarge hlimit
  refine ⟨by rw [hr]; rfl, tells_conclude_iff, failsWith_conclude_iff, hlarge, ?_,
    exists_conclude_eq_ok_iff, ⟨fun hwarning => ?_, fun hclean => ?_⟩⟩
  · rintro cause rfl
    rfl
  · obtain ⟨n, hn, hlevel⟩ := hwarning
    rcases List.mem_cons.mp hn with rfl | hn
    · cases hlevel
    · obtain ⟨output, errors, houtcome, hchar, -⟩ := mem_conclude_iff.mp hn
      exact ⟨output, errors, houtcome, hchar⟩
  · obtain ⟨output, errors, houtcome, hchar⟩ := hclean
    exact ⟨_, List.mem_cons_of_mem _ (mem_conclude_iff.mpr ⟨output, errors, houtcome, hchar, rfl⟩),
      rfl⟩

/-- A lack of time under a limit of whole seconds, and a clean exit with a warning. -/
theorem run_tells_iff_half_a_minute :
    ∃ r, new "gnuplot" (Scalar.int 30).toValue = .ok r ∧
      r.Tells .timedOut (r.run "pause -1\nquit\n" .timedOut).result ∧
      ∃ n ∈ (r.run "quit\n" (.exited 0 none (some "warning: empty x range\n"))).notices,
        n.level = .warning := by
  have hr : new "gnuplot" (Scalar.int 30).toValue = .ok ⟨"gnuplot", .int 30⟩ := rfl
  obtain ⟨-, htells, -⟩ := run_tells_iff hr "pause -1\nquit\n" .timedOut
  obtain ⟨-, -, -, -, -, -, hwarning⟩ :=
    run_tells_iff hr "quit\n" (.exited 0 none (some "warning: empty x range\n"))
  refine ⟨_, hr, htells.mpr ⟨?_, fun _ => nofun⟩,
    hwarning.mpr ⟨_, _, rfl, 'w', by decide, by decide⟩⟩
  rintro ⟨-, limit, hlimit, hlarge⟩
  rw [← Scalar.int.inj hlimit] at hlarge
  exact absurd hlarge (by decide +kernel)

/-- **A limit of 10^400 seconds cannot be told**: when the program is not done in time, the run fails,
but not with a fault of the program. -/
theorem run_untold_power_of_ten :
    ∃ r, new "gnuplot" (.int ((10 ^ 200) ^ 2)) = .ok r ∧
      ∃ f, (r.run "quit\n" .timedOut).result = .error f ∧ ¬f.IsProgram := by
  have hr : new "gnuplot" (Scalar.int ((10 ^ 200) ^ 2)).toValue =
      .ok ⟨"gnuplot", .int ((10 ^ 200) ^ 2)⟩ :=
    toOption_eq_some_iff.mp (by decide +kernel)
  have hlarge : LimitTooLarge ⟨"gnuplot", .int ((10 ^ 200) ^ 2)⟩ := ⟨_, rfl, by decide +kernel⟩
  refine ⟨_, hr, _, conclude_timedOut_of_limitTooLarge hlarge, ?_⟩
  rintro (hkind | hkind | hkind) <;> cases hkind

end Runner

end PlotPage
