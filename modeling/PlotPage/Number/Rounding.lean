/-!
# Rounding quotients to integers

A quotient of natural numbers is rounded to the nearest integer, and a quotient that lies halfway
between two integers goes to the even one.
-/

namespace PlotPage

/-- The integer nearest to `n / d`; a half goes to the even neighbour. -/
def roundDiv (n d : Nat) : Nat :=
  if 2 * (n % d) < d then n / d
  else if d < 2 * (n % d) then n / d + 1
  else n / d + n / d % 2

/-- An exact quotient is not changed. -/
theorem roundDiv_mul_left {d : Nat} (hd : 0 < d) (q : Nat) : roundDiv (d * q) d = q := by
  simp [roundDiv, hd, Nat.mul_div_cancel_left q hd]

/-- The rounded quotient is one of the two integers around the exact one. -/
theorem roundDiv_eq_or (n d : Nat) : roundDiv n d = n / d ∨ roundDiv n d = n / d + 1 := by
  unfold roundDiv
  split
  · exact Or.inl rfl
  · split
    · exact Or.inr rfl
    · rcases Nat.mod_two_eq_zero_or_one (n / d) with h | h <;> simp [h]

end PlotPage
