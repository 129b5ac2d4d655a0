import Mathlib.Algebra.Order.Field.Rat
import Mathlib.Data.Nat.Cast.Order.Ring
import Mathlib.Data.Rat.Lemmas
import PlotPage.Proofs.Number.UnitInterval

/-!
# Quotients and their values

What a quotient rounds to depends on its value alone, not on the two integers that it is written
with (`ofRatio_mul_mul`).  A quotient that is a double already is not changed (`ofRatio_of_units`):
its bit length gives back the exponent, and the mantissa is divided out.
-/

namespace PlotPage

theorem roundDiv_mul_mul {k : Nat} (hk : 0 < k) (n d : Nat) :
    roundDiv (k * n) (k * d) = roundDiv n d := by
  have hdiv : k * n / (k * d) = n / d := Nat.mul_div_mul_left n d hk
  have hmod : 2 * (k * n % (k * d)) = k * (2 * (n % d)) := by
    rw [Nat.mul_mod_mul_left, Nat.mul_left_comm]
  have hlt : ∀ a b : Nat, k * a < k * b ↔ a < b := fun a b => Nat.mul_lt_mul_left hk
  simp only [roundDiv, hdiv, hmod, hlt]

namespace Double

/-- **A quotient rounds by its value.** -/
theorem ofRatio_mul_mul {k : Nat} (hk : 0 < k) (negative : Bool) (num den : Nat) :
    ofRatio negative (k * num) (k * den) = ofRatio negative num den := by
  have hunits : k * num * unitsPerOne = k * (num * unitsPerOne) := Nat.mul_assoc k num unitsPerOne
  have hround : ∀ e : Nat, roundDiv (k * (num * unitsPerOne)) (k * den * Nat.pow 2 e) =
      roundDiv (num * unitsPerOne) (den * Nat.pow 2 e) := by
    intro e
    rw [Nat.mul_assoc k den, roundDiv_mul_mul hk]
  simp only [ofRatio, hunits, hround, Nat.mul_div_mul_left (num * unitsPerOne) den hk]

/-- The double nearest to a rational number. -/
def nearest (q : ℚ) : Double := ofRatio (q < 0) q.num.natAbs q.den

/-- A quotient of natural numbers is rounded to the double nearest to it. -/
theorem ofRatio_eq_nearest {num den : Nat} (hden : 0 < den) :
    ofRatio false num den = nearest (num / den) := by
  have hsign : decide ((num / den : ℚ) < 0) = false :=
    decide_eq_false (not_lt.mpr (div_nonneg num.cast_nonneg den.cast_nonneg))
  obtain ⟨k, hnum, hden'⟩ := Rat.exists_eq_mul_div_num_and_eq_mul_div_den (num : ℤ)
    (Int.natCast_ne_zero.mpr hden.ne')
  rw [Int.cast_natCast, Int.cast_natCast] at hnum hden'
  have hnum' := congrArg Int.natAbs hnum
  have hden'' := congrArg Int.natAbs hden'
  rw [Int.natAbs_natCast, Int.natAbs_mul] at hnum' hden''
  rw [Int.natAbs_natCast] at hden''
  have hk : 0 < k.natAbs := by
    rw [Nat.pos_iff_ne_zero]
    intro hzero
    rw [hzero, Nat.zero_mul] at hden''
    omega
  rw [nearest, hsign]
  calc ofRatio false num den = ofRatio false (k.natAbs * (num / den : ℚ).num.natAbs)
        (k.natAbs * (num / den : ℚ).den) := by rw [← hnum', ← hden'']
    _ = ofRatio false (num / den : ℚ).num.natAbs (num / den : ℚ).den := ofRatio_mul_mul hk _ _ _

/-- The bit length of the value of a double gives back its exponent. -/
theorem log2_of_canonical {m e : Nat} (h : Canonical m e) :
    Nat.log2 (m * 2 ^ e) + 1 - 53 = e := by
  obtain ⟨hlt, -, he⟩ := h
  have hlt' : m < 2 ^ 53 := hlt
  have hupper : m * 2 ^ e < 2 ^ (53 + e) := by
    rw [Nat.pow_add]
    exact Nat.mul_lt_mul_of_pos_right hlt' (Nat.two_pow_pos e)
  by_cases hzero : m * 2 ^ e = 0
  · have hm : m = 0 := (Nat.mul_eq_zero.mp hzero).resolve_right (Nat.two_pow_pos e).ne'
    rcases he with he | he
    · rw [hzero, he, Nat.log2_zero]
    · rw [hm] at he
      exact absurd he (by decide)
  · have hlog : Nat.log2 (m * 2 ^ e) < 53 + e := (Nat.log2_lt hzero).mpr hupper
    rcases he with he | he
    · omega
    · have he' : 2 ^ 52 ≤ m := he
      have hlower : 2 ^ (52 + e) ≤ m * 2 ^ e := by
        rw [Nat.pow_add]
        exact Nat.mul_le_mul_right _ he'
      have hge : 52 + e ≤ Nat.log2 (m * 2 ^ e) := (Nat.le_log2 hzero).mpr hlower
      omega

/-- **A double is its own rounding.** -/
theorem ofRatio_of_units {negative : Bool} {num den m e : Nat} (hden : 0 < den)
    (hc : Canonical m e) (h : num * unitsPerOne = den * (m * 2 ^ e)) :
    ofRatio negative num den = .finite negative m e hc := by
  have hexponent : Nat.log2 (num * unitsPerOne / den) + 1 - 53 = e := by
    rw [h, Nat.mul_div_cancel_left _ hden, log2_of_canonical hc]
  have hmantissa : roundDiv (num * unitsPerOne) (den * Nat.pow 2 e) = m := by
    have hswap : den * (m * 2 ^ e) = den * 2 ^ e * m := by
      rw [Nat.mul_comm m, Nat.mul_assoc]
    rw [h, hswap]
    exact roundDiv_mul_left (Nat.mul_pos hden (Nat.two_pow_pos e)) m
  have hne : m ≠ Nat.pow 2 53 := Nat.ne_of_lt hc.1
  simp only [ofRatio, hexponent, hmantissa]
  rw [if_neg hne, ofParts, dif_pos hc]

end Double

end PlotPage
