import PlotPage.Description
import PlotPage.Proofs.Result

/-!
# Values that do not fit

Settings and descriptions are made of values, and a value that cannot be used where it stands is
refused in one of a few ways: it has no text, it is no truth value, or it is no number.  An integer
that is too large for a double is a number and is refused all the same, with a fault of another kind,
which those who handle the others pass over (`Value.toDouble_unfit`).
-/

namespace PlotPage

/-- A fault of a value that does not fit its place. -/
def Fault.Misfit (f : Fault) : Prop := f.kind = .type ∨ f.kind = .value ∨ f.kind = .settings

namespace Fault.Misfit

variable {f : Fault}

theorem of_type (h : f.kind = .type) : f.Misfit := Or.inl h

theorem of_value (h : f.kind = .value) : f.Misfit := Or.inr (Or.inl h)

theorem of_settings (h : f.kind = .settings) : f.Misfit := Or.inr (Or.inr h)

end Fault.Misfit

/-- An integer that has no finite double. -/
def Value.TooLarge : Value → Prop
  | .int i => (Double.ofInt i).isFinite = false
  | _ => False

/-- A fault of a place: the value does not fit, or an integer at the place is too large. -/
def Fault.Unfit (tooLarge : Prop) (f : Fault) : Prop := f.Misfit ∨ f = .outside .tooLarge ∧ tooLarge

variable {α : Type}

/-- Values that do not fit are among the faults of any place. -/
theorem FailsWith.unfit {x : Except Fault α} (h : FailsWith Fault.Misfit x) {A : Prop} :
    FailsWith (Fault.Unfit A) x := h.mono fun _ hf => Or.inl hf

namespace Value

theorem plain_misfit (v : Value) : FailsWith Fault.Misfit v.plain := by
  unfold plain
  split
  · exact .ok _
  · exact .error (.of_value rfl)

theorem shown_misfit (v : Value) : FailsWith Fault.Misfit v.shown := by
  unfold shown
  split
  · exact .ok _
  · exact .error (.of_value rfl)

theorem plainOrEmpty_misfit (v : Value) : FailsWith Fault.Misfit v.plainOrEmpty := by
  unfold plainOrEmpty
  split
  · exact .ok _
  · exact v.plain_misfit

/-- A value is no double, or it is an integer that is too large. -/
theorem toDouble_unfit (v : Value) : FailsWith (Fault.Unfit v.TooLarge) v.toDouble := by
  cases v with
  | bool b => exact .ok _
  | int i =>
    rw [toDouble, Scalar.toDouble, Scalar.doubleOfInt]
    split
    · exact .ok _
    · next hfinite => exact .error (Or.inr ⟨rfl, Bool.eq_false_iff.mpr hfinite⟩)
  | real d => exact .ok d
  | text s =>
    rw [toDouble]
    split
    · exact .ok _
    · exact .error (Or.inl (.of_value rfl))
  | bytes bs =>
    rw [toDouble]
    split
    · exact .ok _
    · exact .error (Or.inl (.of_value rfl))
  | _ => exact .error (Or.inl (.of_type rfl))

end Value

theorem Description.truthValue_misfit (name : String) (v : Value) :
    FailsWith Fault.Misfit (truthValue name v) := by
  unfold truthValue
  split
  · exact .ok _
  · exact v.shown_misfit.bind fun _ _ => .throw (.of_settings rfl)

end PlotPage
