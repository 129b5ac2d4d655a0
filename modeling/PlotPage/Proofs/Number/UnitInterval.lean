import Mathlib.Algebra.Order.Ring.Nat
import Mathlib.Data.Nat.Log
import PlotPage.Value.Scalar

/-!
# Quotients between zero and one

A corner of a tile is a quotient of two integers and its extent is the inverse of one.  Both are
rounded, but a quotient of at most one does not round to more than one, so a tile of a grid never
reaches over the edge of the page.

For a quotient `n / d` in units, `ofRatio` takes the exponent from the bit length of `n / d` and rounds
`n` over `d` times the power of two.  `Quotient` collects what is known about the two numbers.
-/

namespace PlotPage

theorem roundDiv_le {n d k : Nat} (hd : 0 < d) (h : n ≤ k * d) : roundDiv n d ≤ k := by
  have hn := Nat.div_add_mod n d
  have hle : n / d ≤ k := Nat.div_le_of_le_mul (by rw [Nat.mul_comm]; exact h)
  by_cases hlt : n / d < k
  · rcases roundDiv_eq_or n d with h | h <;> omega
  · have hq : n / d = k := by omega
    have hmod : n % d = 0 := by
      rw [hq, Nat.mul_comm] at hn
      omega
    rw [roundDiv, if_pos (by omega), hq]

theorem le_roundDiv {n d k : Nat} (hd : 0 < d) (h : k * d ≤ n) : k ≤ roundDiv n d := by
  have hk : k ≤ n / d := (Nat.le_div_iff_mul_le hd).mpr h
  rcases roundDiv_eq_or n d with h | h <;> omega

namespace Double

/-- The exponent and the rounded mantissa of a quotient in units. -/
structure Quotient (n d exponent mantissa : Nat) : Prop where
  exponent_eq : exponent = Nat.log2 (n / d) + 1 - 53
  mantissa_eq : mantissa = roundDiv n (d * 2 ^ exponent)
  pos : 0 < d

namespace Quotient

variable {n d e m : Nat} (h : Quotient n d e m)

include h

theorem scale_pos : 0 < d * 2 ^ e := Nat.mul_pos h.pos (Nat.two_pow_pos e)

theorem mantissa_le : m ≤ 2 ^ 53 := by
  rw [h.mantissa_eq]
  apply roundDiv_le h.scale_pos
  have hlog : n / d < 2 ^ (Nat.log2 (n / d) + 1) := Nat.lt_log2_self
  have hexp : Nat.log2 (n / d) + 1 ≤ 53 + e := by
    have := h.exponent_eq
    omega
  have hq : n / d + 1 ≤ 2 ^ (53 + e) := hlog.trans_le (Nat.pow_le_pow_right (by decide) hexp)
  calc n ≤ d * (n / d + 1) := (Nat.lt_mul_div_succ n h.pos).le
    _ ≤ d * 2 ^ (53 + e) := Nat.mul_le_mul_left d hq
    _ = 2 ^ 53 * (d * 2 ^ e) := by rw [Nat.pow_add, Nat.mul_left_comm]

theorem exponent_eq_zero_or : e = 0 ∨ 2 ^ 52 ≤ m := by
  by_cases he : e = 0
  · exact Or.inl he
  · right
    rw [h.mantissa_eq]
    apply le_roundDiv h.scale_pos
    have hlog : Nat.log2 (n / d) = 52 + e := by
      have := h.exponent_eq
      omega
    have hq : n / d ≠ 0 := by
      intro hzero
      rw [hzero, Nat.log2_zero] at hlog
      omega
    have hpow : 2 ^ (52 + e) ≤ n / d := by
      rw [← hlog]
      exact Nat.log2_self_le hq
    calc 2 ^ 52 * (d * 2 ^ e) = d * 2 ^ (52 + e) := by rw [Nat.pow_add, Nat.mul_left_comm]
      _ ≤ d * (n / d) := Nat.mul_le_mul_left d hpow
      _ ≤ n := Nat.mul_div_le n d

theorem exponent_le {k : Nat} (hn : n ≤ 2 ^ k * d) : e ≤ k - 52 := by
  have hexp := h.exponent_eq
  have hq : n / d ≤ 2 ^ k := Nat.div_le_of_le_mul (by rw [Nat.mul_comm]; exact hn)
  by_cases hzero : n / d = 0
  · rw [hzero, Nat.log2_zero] at hexp
    omega
  · have hlog : Nat.log2 (n / d) < k + 1 :=
      (Nat.log2_lt hzero).mpr (hq.trans_lt (Nat.pow_lt_pow_right (by decide) (Nat.lt_succ_self k)))
    omega

/-- Rounding does not pass a power of two from below. -/
theorem value_le {k : Nat} (hn : n ≤ 2 ^ k * d) : m * 2 ^ e ≤ 2 ^ k := by
  have he : e ≤ k := (h.exponent_le hn).trans (Nat.sub_le k 52)
  have hsplit : 2 ^ k = 2 ^ (k - e) * 2 ^ e := by
    rw [← Nat.pow_add, Nat.sub_add_cancel he]
  have hm : m ≤ 2 ^ (k - e) := by
    rw [h.mantissa_eq]
    apply roundDiv_le h.scale_pos
    rw [Nat.mul_left_comm, ← hsplit, Nat.mul_comm]
    exact hn
  rw [hsplit]
  exact Nat.mul_le_mul_right _ hm

/-- Rounding does not pass a power of two from above. -/
theorem le_value {k : Nat} (hn : 2 ^ k * d ≤ n) : 2 ^ k ≤ m * 2 ^ e := by
  by_cases he : e ≤ k
  · have hsplit : 2 ^ k = 2 ^ (k - e) * 2 ^ e := by
      rw [← Nat.pow_add, Nat.sub_add_cancel he]
    have hm : 2 ^ (k - e) ≤ m := by
      rw [h.mantissa_eq]
      apply le_roundDiv h.scale_pos
      rw [Nat.mul_left_comm, ← hsplit, Nat.mul_comm]
      exact hn
    rw [hsplit]
    exact Nat.mul_le_mul_right _ hm
  · have hm : 1 ≤ m := by
      rcases h.exponent_eq_zero_or with hzero | hm
      · omega
      · exact Nat.one_le_two_pow.trans hm
    calc 2 ^ k ≤ 2 ^ e := Nat.pow_le_pow_right (by decide) (by omega)
      _ ≤ m * 2 ^ e := Nat.le_mul_of_pos_left _ hm

end Quotient

/-- A quotient that rounds to a finite double, and its size in units. -/
theorem ofRatio_cases (negative : Bool) {num den : Nat} (hden : 0 < den) :
    ∃ e m, Quotient (num * unitsPerOne) den e m ∧
      ((∃ m' e' hc, ofRatio negative num den = .finite negative m' e' hc ∧
          m' * 2 ^ e' = m * 2 ^ e) ∨
        (ofRatio negative num den = .infinite negative ∧ 2045 ≤ e)) := by
  let e := Nat.log2 (num * unitsPerOne / den) + 1 - 53
  let m := roundDiv (num * unitsPerOne) (den * 2 ^ e)
  have hq : Quotient (num * unitsPerOne) den e m := ⟨rfl, rfl, hden⟩
  have hratio : ofRatio negative num den =
      if m = 2 ^ 53 then ofParts negative (2 ^ 52) (e + 1) else ofParts negative m e := rfl
  refine ⟨e, m, hq, ?_⟩
  rw [hratio]
  by_cases hm : m = 2 ^ 53
  · rw [if_pos hm, ofParts]
    by_cases hc : Canonical (2 ^ 52) (e + 1)
    · rw [dif_pos hc, hm]
      exact Or.inl ⟨_, _, hc, rfl, by rw [Nat.pow_succ, Nat.pow_succ]; omega⟩
    · rw [dif_neg hc]
      refine Or.inr ⟨rfl, ?_⟩
      by_contra he
      exact hc ⟨by decide, by omega, Or.inr le_rfl⟩
  · rw [if_neg hm, ofParts]
    by_cases hc : Canonical m e
    · rw [dif_pos hc]
      exact Or.inl ⟨_, _, hc, rfl, rfl⟩
    · rw [dif_neg hc]
      refine Or.inr ⟨rfl, ?_⟩
      by_contra he
      exact hc ⟨lt_of_le_of_ne hq.mantissa_le hm, by omega, hq.exponent_eq_zero_or⟩

theorem exists_unitsPerOne : ∃ k ≤ 1074, unitsPerOne = 2 ^ k := by
  have hpow : ∀ j ≤ 1074, ∃ k ≤ 1074, Nat.pow 2 j = 2 ^ k := fun j hj => ⟨j, hj, rfl⟩
  unfold unitsPerOne
  exact hpow 1074 le_rfl

theorem unitsPerOne_pos : 0 < unitsPerOne := by
  obtain ⟨k, -, hk⟩ := exists_unitsPerOne
  rw [hk]
  exact Nat.two_pow_pos k

/-- A quotient of at most one. -/
theorem ofRatio_le_one {num den : Nat} (hden : 0 < den) (h : num ≤ den) :
    ∃ m e hc, ofRatio false num den = .finite false m e hc ∧ m * 2 ^ e ≤ unitsPerOne := by
  obtain ⟨k, hk, hone⟩ := exists_unitsPerOne
  have hunits : num * unitsPerOne ≤ 2 ^ k * den := by
    rw [hone, Nat.mul_comm]
    exact Nat.mul_le_mul_left _ h
  obtain ⟨e, m, hq, ⟨m', e', hc, hfinite, hvalue⟩ | ⟨-, he⟩⟩ := ofRatio_cases false hden
  · refine ⟨m', e', hc, hfinite, ?_⟩
    rw [hvalue, hone]
    exact hq.value_le hunits
  · have hle := hq.exponent_le hunits
    omega

theorem ofInt_natCast (n : Nat) : ofInt n = ofRatio false n 1 := by
  have hsign : decide ((n : Int) < 0) = false := by
    rw [decide_eq_false_iff_not]
    omega
  rw [ofInt, hsign, Int.natAbs_natCast]

/-- A positive integer that is not too large has a double of at least one. -/
theorem one_le_ofInt {n : Nat} (hn : 1 ≤ n) (hfinite : (ofInt n).isFinite = true) :
    ∃ m e hc, ofInt n = .finite false m e hc ∧ unitsPerOne ≤ m * 2 ^ e := by
  obtain ⟨k, -, hone⟩ := exists_unitsPerOne
  have hunits : 2 ^ k * 1 ≤ n * unitsPerOne := by
    rw [hone, Nat.mul_one]
    exact Nat.le_mul_of_pos_left _ hn
  rw [ofInt_natCast] at hfinite ⊢
  obtain ⟨e, m, hq, ⟨m', e', hc, heq, hvalue⟩ | ⟨heq, -⟩⟩ := ofRatio_cases false Nat.one_pos
  · refine ⟨m', e', hc, heq, ?_⟩
    rw [hvalue, hone]
    exact hq.le_value hunits
  · rw [heq] at hfinite
    exact absurd hfinite (by decide)

/-- An integer of moderate size has a double. -/
theorem isFinite_ofInt {n k : Nat} (hk : k ≤ 1000) (hn : n ≤ 2 ^ k) :
    (ofInt n).isFinite = true := by
  obtain ⟨j, hj, hone⟩ := exists_unitsPerOne
  have hunits : n * unitsPerOne ≤ 2 ^ (k + j) * 1 := by
    rw [hone, Nat.mul_one, Nat.pow_add]
    exact Nat.mul_le_mul_right _ hn
  rw [ofInt_natCast]
  obtain ⟨e, m, hq, ⟨m', e', hc, heq, -⟩ | ⟨-, he⟩⟩ := ofRatio_cases false Nat.one_pos
  · rw [heq]
    rfl
  · have hle := hq.exponent_le hunits
    omega

theorem units_finite {m e : Nat} {hc : Canonical m e} :
    (finite false m e hc).units = (m * 2 ^ e : Nat) := rfl

theorem exists_ofInt_one : ∃ m e hc, ofInt 1 = .finite false m e hc ∧
    (finite false m e hc).units = unitsPerOne :=
  ⟨2 ^ 52, 1022, by decide, by decide +kernel, by decide +kernel⟩

end Double

namespace Scalar

open Double

theorem isUnit_of_units_le {m e : Nat} {hc : Canonical m e} (h : m * 2 ^ e ≤ unitsPerOne) :
    (real (.finite false m e hc)).isUnit = true := by
  obtain ⟨m', e', hc', hone, hunits⟩ := exists_ofInt_one
  rw [isUnit, hone, Bool.and_eq_true]
  constructor
  · have hzero : (Double.zero false).units = 0 := by decide
    show decide ((Double.zero false).units ≤ (Double.finite false m e hc).units) = true
    rw [decide_eq_true_eq, hzero, units_finite]
    exact Int.natCast_nonneg _
  · show decide ((Double.finite false m e hc).units ≤ (Double.finite false m' e' hc').units) = true
    rw [decide_eq_true_eq, hunits, units_finite]
    exact Int.ofNat_le.mpr h

/-- **A quotient of at most one is between zero and one.** -/
theorem isUnit_ofRatio {num den : Nat} (hden : 0 < den) (h : num ≤ den) :
    (real (ofRatio false num den)).isUnit = true := by
  obtain ⟨m, e, hc, heq, hle⟩ := ofRatio_le_one hden h
  rw [heq]
  exact isUnit_of_units_le hle

/-- **The inverse of a positive integer is between zero and one.** -/
theorem isUnit_inverse {n : Nat} (hn : 1 ≤ n) (hfinite : (Double.ofInt n).isFinite = true) :
    (real ((Double.ofInt 1).div (Double.ofInt n))).isUnit = true := by
  obtain ⟨m, e, hc, heq, hle⟩ := one_le_ofInt hn hfinite
  obtain ⟨m', e', hc', hone, hunits⟩ := exists_ofInt_one
  have hpos : 0 < m * 2 ^ e := lt_of_lt_of_le unitsPerOne_pos hle
  have hzero : (Double.finite false m e hc).isZero = false := by
    have hm : m ≠ 0 := by
      rintro rfl
      simp at hpos
    simpa [Double.isZero] using hm
  have hdiv : (Double.ofInt 1).div (Double.ofInt n) = ofRatio false unitsPerOne (m * 2 ^ e) := by
    rw [heq, hone]
    show (if (Double.finite false m e hc).isZero then _ else
      ofRatio false (Double.finite false m' e' hc').units.natAbs
        (Double.finite false m e hc).units.natAbs) = _
    rw [hzero, hunits, units_finite, Int.natAbs_natCast, Int.natAbs_natCast]
    exact if_neg Bool.false_ne_true
  rw [hdiv]
  exact isUnit_ofRatio hpos hle

end Scalar

end PlotPage
