import PlotPage.CommandLine.Arguments
import PlotPage.Proofs.Result

/-!
# The level on the command line

Of the options only the level is checked when it is read, so a request that has been read asks for a
known level or for none.  Every argument keeps this: a word and a switch leave the level alone, and
a value for the level has passed the check.
-/

namespace PlotPage

/-- The level that a request asks for, if it asks for one, is known. -/
def Request.Levelled (q : Request) : Prop :=
  ∀ name, q.level = some name → ∃ level : Level, name = level.name

namespace Reading

/-- The request as it has been read so far asks for a known level. -/
def Levelled (r : Reading) : Prop := r.request.Levelled

variable {r r' : Reading}

theorem Levelled.word (h : r.Levelled) (s : String) : (r.word s).Levelled := by
  unfold Reading.word
  split <;> exact h

theorem Levelled.value (h : r.Levelled) {f : Flag} {s : String} (hr : r.value f s = .ok r') :
    r'.Levelled := by
  cases f with
  | logLevel =>
    simp only [Reading.value] at hr
    split at hr
    · cases hr
    · next hknown =>
      obtain rfl := Except.ok.inj hr
      intro name hname
      obtain rfl := Option.some.inj hname
      rw [Option.isNone_iff_eq_none] at hknown
      obtain ⟨level, hlevel⟩ := Option.ne_none_iff_exists'.mp hknown
      have hname := List.find?_some hlevel
      exact ⟨level, (of_decide_eq_true hname).symm⟩
  | _ =>
    obtain rfl := Except.ok.inj hr
    exact h

theorem Levelled.switch (h : r.Levelled) {f : Flag} {runsOn : Bool} {attached : Option (List Char)}
    {next : Option Argument} (hr : r.switch f runsOn attached next = .ok r') : r'.Levelled := by
  unfold Reading.switch at hr
  split at hr
  · split at hr <;> cases hr
  · split at hr
    · cases hr
    · obtain rfl := Except.ok.inj hr
      exact h

/-- Each equation of the reading hands the rest of the arguments on to a request that still asks for
a known level. -/
theorem Levelled.arguments (h : r.Levelled) {args : List Argument}
    (hr : r.arguments args = .ok r') : r'.Levelled := by
  fun_induction Reading.arguments r args with
  | case1 r =>
    obtain rfl := Except.ok.inj hr
    exact h
  | case2 r rest ih => exact ih h hr
  | case3 r s rest ih => exact ih (h.word s) hr
  | case4 r s rest _ ih => exact ih (h.word s) hr
  | case5 r s rest ih => exact ih (h.word s) hr
  | case6 r rest _ ih => exact ih h hr
  | case7 r f runsOn htakes cs rest ih =>
    obtain ⟨r'', hvalue, hr⟩ := bind_eq_ok_iff.mp hr
    exact ih r'' (h.value hvalue) hr
  | case8 r f runsOn htakes s rest ih =>
    obtain ⟨r'', hvalue, hr⟩ := bind_eq_ok_iff.mp hr
    exact ih r'' (h.value hvalue) hr
  | case9 => cases hr
  | case10 r f runsOn attached rest htakes ih =>
    obtain ⟨r'', hswitch, hr⟩ := bind_eq_ok_iff.mp hr
    exact ih r'' (h.switch hswitch) hr

end Reading

/-- A level on the command line is one of the known ones. -/
theorem Request.levelled_of_read {args : List String} {q : Request}
    (h : Request.read args = .ok q) : q.Levelled := by
  simp only [Request.read, bind_eq_ok_iff] at h
  obtain ⟨arguments, -, r, hr, h⟩ := h
  have hlevelled : r.Levelled := Reading.Levelled.arguments (fun _ h => absurd h (by simp)) hr
  split at h
  · cases h
  · split at h
    · cases h
    · obtain rfl := Except.ok.inj h
      exact hlevelled

end PlotPage
