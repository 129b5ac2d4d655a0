import Mathlib.Data.Nat.Log
import PlotPage.Proofs.Number.Decimal

/-!
# Integers that have a double

Whether an integer is too large for a double depends on the exponent of its rounding, and at the
greatest exponent on the mantissa (`isFinite_ofRatio_iff`).  The greatest double is 2^1024 - 2^971,
with an odd mantissa, so what lies half way to 2^1024 is rounded upwards already: an integer has a
double below 2^1024 - 2^970 and not from there on (`isFinite_ofInt_iff`).  One that has a double can
be written with 309 digits.
-/

namespace PlotPage

/-- An odd integer is left upwards from half way on. -/
theorem roundDiv_le_iff_of_odd {n d k : ℕ} (hd : 0 < d) (hk : k % 2 = 1) :
    roundDiv n d ≤ k ↔ 2 * n < (2 * k + 1) * d := by
  have hn := Nat.div_add_mod n d
  have hr := Nat.mod_lt n hd
  have hor := roundDiv_eq_or n d
  have hhalf : (2 * k + 1) * d = 2 * (d * k) + d := by
    rw [Nat.add_mul, Nat.one_mul, Nat.mul_assoc, Nat.mul_comm k]
  rw [hhalf]
  rcases Nat.lt_trichotomy (n / d) k with hq | hq | hq
  · have hbelow : d * (n / d + 1) ≤ d * k := Nat.mul_le_mul_left d hq
    rw [Nat.mul_succ] at hbelow
    exact iff_of_true (by omega) (by omega)
  · rw [← hq] at hk ⊢
    unfold roundDiv
    split_ifs with hlow hhigh
    · exact iff_of_true (by omega) (by omega)
    · exact iff_of_false (by omega) (by omega)
    · exact iff_of_false (by omega) (by omega)
  · have habove : d * (k + 1) ≤ d * (n / d) := Nat.mul_le_mul_left d hq
    rw [Nat.mul_succ] at habove
    exact iff_of_false (by omega) (by omega)

namespace Double

/-- A quotient has a double unless its exponent is too large. -/
theorem isFinite_ofRatio_iff {negative : Bool} {num den e m : ℕ}
    (h : Quotient (num * unitsPerOne) den e m) :
    (ofRatio negative num den).isFinite = true ↔ e < 2045 ∨ e = 2045 ∧ m ≠ 2 ^ 53 := by
  have hratio : ofRatio negative num den =
      if m = 2 ^ 53 then ofParts negative (2 ^ 52) (e + 1) else ofParts negative m e := by
    rw [h.mantissa_eq, h.exponent_eq]
    rfl
  have hparts : ∀ {m' e' : ℕ}, (ofParts negative m' e').isFinite = true ↔ Canonical m' e' := by
    intro m' e'
    rw [ofParts]
    split
    · rename_i hc
      exact iff_of_true rfl hc
    · rename_i hc
      exact iff_of_false (by simp [isFinite]) hc
  rw [hratio]
  by_cases hm : m = 2 ^ 53
  · rw [if_pos hm, hparts]
    constructor
    · rintro ⟨-, he, -⟩
      omega
    · intro he
      exact ⟨by decide, by omega, Or.inr le_rfl⟩
  · rw [if_neg hm, hparts]
    constructor
    · rintro ⟨-, he, -⟩
      omega
    · intro he
      exact ⟨lt_of_le_of_ne h.mantissa_le hm, by omega, h.exponent_eq_zero_or⟩

/-- **An integer has a double below the middle between the greatest double and 2^1024.** -/
theorem isFinite_ofInt_iff {i : ℤ} :
    (ofInt i).isFinite = true ↔ i.natAbs < 2 ^ 1024 - 2 ^ 970 := by
  obtain ⟨e, m, h⟩ : ∃ e m, Quotient (i.natAbs * unitsPerOne) 1 e m := ⟨_, _, rfl, rfl, Nat.one_pos⟩
  have hexponent := h.exponent_eq
  have hmantissa := h.mantissa_eq
  have hle := h.mantissa_le
  rw [Nat.div_one] at hexponent
  rw [Nat.one_mul] at hmantissa
  rw [ofInt, isFinite_ofRatio_iff h]
  -- the exponents stay variables, so that nothing tries to compute the powers
  obtain ⟨j, hj, hunits⟩ : ∃ j, j = 1074 ∧ unitsPerOne = 2 ^ j := ⟨_, rfl, unitsPerOne_eq rfl⟩
  obtain ⟨t, ht⟩ : ∃ t, t = 970 := ⟨_, rfl⟩
  obtain ⟨g, hg, hgrid⟩ : ∃ g, g = 2045 ∧ 2 ^ g = 2 * 2 ^ t * 2 ^ j :=
    ⟨1 + t + j, by omega, by rw [Nat.pow_add, Nat.pow_add, Nat.pow_one]⟩
  have htop : 2 ^ 1024 - 2 ^ 970 = (2 * (2 ^ 53 - 1) + 1) * 2 ^ t := by
    have hsplit : 2 ^ 1024 = 2 ^ 54 * 2 ^ t := by rw [← Nat.pow_add, ht]
    rw [hsplit, ← ht]
    omega
  -- in steps of the greatest exponent, the middle lies half a step above an odd mantissa
  have hmiddle : i.natAbs < 2 ^ 1024 - 2 ^ 970 ↔
      2 * (i.natAbs * 2 ^ j) < (2 * (2 ^ 53 - 1) + 1) * 2 ^ g := by
    have hassoc : ∀ k : ℕ, k * (2 * 2 ^ t * 2 ^ j) = 2 * (k * 2 ^ t * 2 ^ j) := by
      intro k
      rw [Nat.mul_assoc 2, Nat.mul_left_comm, Nat.mul_assoc k]
    rw [htop, ← Nat.mul_lt_mul_right (Nat.two_pow_pos j), hgrid, hassoc]
    omega
  rw [hmiddle, ← hunits, ← hg]
  generalize i.natAbs * unitsPerOne = n at hexponent hmantissa
  rcases Nat.lt_trichotomy e g with he | rfl | he
  · have hsmall : n < 2 ^ 52 * 2 ^ g := by
      rw [← Nat.pow_add]
      exact Nat.lt_log2_self.trans_le (Nat.pow_le_pow_right Nat.two_pos (by omega))
    exact iff_of_true (Or.inl he) (by omega)
  · have hodd := roundDiv_le_iff_of_odd (n := n) (k := 2 ^ 53 - 1) (Nat.two_pow_pos e) (by decide)
    rw [← hmantissa] at hodd
    rw [← hodd]
    omega
  · have hn : n ≠ 0 := by
      rintro rfl
      rw [Nat.log2_zero] at hexponent
      omega
    have hlarge : 2 ^ 53 * 2 ^ g ≤ n := by
      rw [← Nat.pow_add]
      exact (Nat.pow_le_pow_right Nat.two_pos (by omega)).trans (Nat.log2_self_le hn)
    have hpos : 0 < 2 ^ g := Nat.two_pow_pos g
    exact iff_of_false (by omega) (by omega)

/-- What is smaller than an integer with a double has a double. -/
theorem isFinite_ofInt_of_le {k n : ℕ} (hkn : k ≤ n) (h : (ofInt n).isFinite = true) :
    (ofInt k).isFinite = true := by
  rw [isFinite_ofInt_iff, Int.natAbs_natCast] at h ⊢
  exact hkn.trans_lt h

end Double

/-- An integer that has a double has at most 309 digits. -/
theorem Decimal.size_le_of_isFinite {n : ℕ} (h : (Double.ofInt n).isFinite = true) :
    Decimal.size n ≤ 309 := by
  rw [Double.isFinite_ofInt_iff, Int.natAbs_natCast] at h
  exact Decimal.size_le_of_lt_two_pow (j := 11) (by decide) (h.trans_le (Nat.sub_le _ _))

end PlotPage
