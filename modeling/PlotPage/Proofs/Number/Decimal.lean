import PlotPage.Number.Shortest
import PlotPage.Proofs.Number.Exact
import PlotPage.Value.Scalar

/-!
# Decimals that round to a double

Two decimals of the same value round to the same double (`toDouble_mul_pow`), so the zeros at the end
of a coefficient may be left out (`toDouble_trimZeros`).  A finite double is itself a decimal, and
this decimal rounds to it (`toDouble_exactDecimal`).  Whatever the search for a shorter one finds
rounds to it too, since the search asks for that: the shortest decimal of a double rounds to the
double (`toDouble_shortest`).
-/

namespace PlotPage

namespace Decimal

theorem size_le_iff {n k : Nat} (hk : 0 < k) : size n ≤ k ↔ n < 10 ^ k :=
  Nat.length_toDigits_le_iff (by decide) hk

theorem size_mul_ten {n : Nat} (hn : n ≠ 0) : size (n * 10) = size n + 1 := by
  have hdigits := Nat.toDigits_append_toDigits (b := 10) (n := n) (d := 0) (by decide)
    (Nat.pos_of_ne_zero hn) (by decide)
  rw [Nat.add_zero, Nat.mul_comm] at hdigits
  rw [size, digits, ← hdigits, List.length_append, Nat.toDigits_zero, List.length_singleton]
  rfl

/-- A zero at the end of the coefficient may be left out. -/
theorem toDouble_mul_ten (negative : Bool) (c : Nat) (e : Int) :
    toDouble negative ⟨c * 10, e⟩ = toDouble negative ⟨c, e + 1⟩ := by
  by_cases hc : c = 0
  · rw [hc, Nat.zero_mul]
    rfl
  have hc' : c * 10 ≠ 0 := Nat.mul_ne_zero hc (by decide)
  have hsize : e + (size (c * 10) : Int) = e + 1 + size c := by
    rw [size_mul_ten hc]
    omega
  simp only [toDouble, hc, hc', hsize, if_false]
  by_cases hlarge : 310 < e + 1 + (size c : Int)
  · rw [if_pos hlarge, if_pos hlarge]
  rw [if_neg hlarge, if_neg hlarge]
  by_cases hsmall : e + 1 + (size c : Int) < -330
  · rw [if_pos hsmall, if_pos hsmall]
  rw [if_neg hsmall, if_neg hsmall]
  by_cases he : 0 ≤ e
  · have hpow : c * 10 * Nat.pow 10 e.toNat = c * Nat.pow 10 (e + 1).toNat := by
      have hnat : (e + 1).toNat = e.toNat + 1 := by omega
      rw [hnat, Nat.mul_assoc, Nat.mul_comm 10]
      rfl
    rw [if_pos he, if_pos (by omega : 0 ≤ e + 1), hpow]
  · -- the factor ten leaves the denominator, also where nothing is left of it
    have hden : Nat.pow 10 (-e).toNat = 10 * Nat.pow 10 (-(e + 1)).toNat := by
      have hnat : (-e).toNat = (-(e + 1)).toNat + 1 := by omega
      rw [hnat, Nat.mul_comm]
      rfl
    rw [if_neg he, hden, Nat.mul_comm c, Double.ofRatio_mul_mul (by decide)]
    by_cases he' : 0 ≤ e + 1
    · have hone : e + 1 = 0 := by omega
      rw [if_pos he', hone]
      show _ = Double.ofRatio negative (c * 1) 1
      rw [Nat.mul_one]
      rfl
    · rw [if_neg he']

/-- **Decimals of one value round alike.** -/
theorem toDouble_mul_pow (negative : Bool) (c : Nat) (e : Int) (k : Nat) :
    toDouble negative ⟨c * 10 ^ k, e⟩ = toDouble negative ⟨c, e + k⟩ := by
  induction k generalizing e with
  | zero =>
    rw [Nat.pow_zero, Nat.mul_one]
    exact congrArg (fun x => toDouble negative ⟨c, x⟩) (by omega)
  | succ k ih =>
    rw [Nat.pow_succ, ← Nat.mul_assoc, toDouble_mul_ten, ih]
    exact congrArg (fun x => toDouble negative ⟨c, x⟩) (by omega)

theorem toDouble_trimZeros (negative : Bool) (fuel : Nat) (d : Decimal) :
    (trimZeros fuel d).toDouble negative = d.toDouble negative := by
  induction fuel generalizing d with
  | zero => rfl
  | succ fuel ih =>
    rw [trimZeros]
    split
    · rename_i h
      have hten : d.coefficient / 10 * 10 = d.coefficient := by omega
      rw [ih, ← toDouble_mul_ten, hten]
    · rfl

/-- The length of a number in decimal from its length in binary: 93 binary digits are at most 28. -/
theorem size_le_of_lt_two_pow {n b j : Nat} (hb : b ≤ 93 * j + 3) (h : n < 2 ^ b) :
    size n ≤ 28 * j + 1 := by
  rw [size_le_iff (Nat.succ_pos _)]
  calc n < 2 ^ (93 * j + 3) := h.trans_le (Nat.pow_le_pow_right (by decide) hb)
    _ = (2 ^ 93) ^ j * 2 ^ 3 := by rw [Nat.pow_add, Nat.pow_mul]
    _ ≤ (10 ^ 28) ^ j * 10 ^ 1 :=
      Nat.mul_le_mul (Nat.pow_le_pow_left (by decide) j) (by decide)
    _ = 10 ^ (28 * j + 1) := by rw [Nat.pow_add, Nat.pow_mul]

/-- The decimal `m / 2^k` has `k` places, and at most `l` of them are zeros before the digits: 16
binary digits are at most 7 in base five. -/
theorem le_size_mul_five_pow {m k i l : Nat} (hm : m ≠ 0) (hk : k ≤ l + 16 * i) (hl : 7 * i ≤ l) :
    k ≤ size (m * 5 ^ k) + l := by
  by_contra hlt
  have hpos : 0 < size (m * 5 ^ k) := List.length_pos_iff.mpr Nat.toDigits_ne_nil
  obtain ⟨j, rfl⟩ : ∃ j, k = l + j := ⟨k - l, by omega⟩
  have hupper : m * 5 ^ (l + j) < 10 ^ j := (size_le_iff (by omega)).mp (by omega)
  have hfive : 2 ^ j ≤ 5 ^ l := by
    calc 2 ^ j ≤ 2 ^ (16 * i) := Nat.pow_le_pow_right (by decide) (by omega)
      _ = (2 ^ 16) ^ i := Nat.pow_mul 2 16 i
      _ ≤ (5 ^ 7) ^ i := Nat.pow_le_pow_left (by decide) i
      _ = 5 ^ (7 * i) := (Nat.pow_mul 5 7 i).symm
      _ ≤ 5 ^ l := Nat.pow_le_pow_right (by decide) hl
  have hlower : 10 ^ j ≤ m * 5 ^ (l + j) := by
    calc 10 ^ j = 2 ^ j * 5 ^ j := Nat.mul_pow 2 5 j
      _ ≤ 5 ^ l * 5 ^ j := Nat.mul_le_mul_right _ hfive
      _ = 5 ^ (l + j) := (Nat.pow_add 5 l j).symm
      _ ≤ m * 5 ^ (l + j) := Nat.le_mul_of_pos_left _ (Nat.pos_of_ne_zero hm)
  omega

/-- A decimal of moderate size rounds as the quotient that it is. -/
theorem toDouble_fraction {negative : Bool} {c k : Nat} (hc : c ≠ 0) (hupper : size c ≤ 310 + k)
    (hlower : k ≤ size c + 330) :
    toDouble negative ⟨c, -(k : Int)⟩ = .ofRatio negative c (10 ^ k) := by
  simp only [toDouble, hc, if_false]
  rw [if_neg (by omega), if_neg (by omega)]
  by_cases hk : k = 0
  · rw [hk, if_pos (by decide)]
    show Double.ofRatio negative (c * 1) 1 = _
    rw [Nat.mul_one]
    rfl
  · rw [if_neg (by omega), Int.neg_neg, Int.toNat_natCast]
    rfl

end Decimal

namespace Double

open Decimal

/-- What the search finds rounds to the double that it is asked for. -/
theorem toDouble_of_neighbour {target : Double} {negative : Bool} {exact d : Decimal} {cut : Nat}
    (h : neighbour? target negative exact cut = some d) : d.toDouble negative = target := by
  simp only [neighbour?] at h
  split_ifs at h with hlow hhigh hround hhigh
  · rw [← Option.some.inj h]; exact hlow
  · rw [← Option.some.inj h]; exact hhigh
  · rw [← Option.some.inj h]; exact hlow
  · rw [← Option.some.inj h]; exact hhigh

theorem unitsPerOne_eq {n : Nat} (hn : n = 1074) : unitsPerOne = 2 ^ n := by
  unfold unitsPerOne
  rw [← hn]
  rfl

theorem exactDecimal_of_le {m k : Nat} :
    exactDecimal m (1074 + k) = ⟨m * 2 ^ k, -((0 : Nat) : Int)⟩ := by
  have hk : 1074 + k - 1074 = k := by omega
  rw [exactDecimal, if_pos (by omega), hk]
  rfl

theorem exactDecimal_of_lt {m e k : Nat} (hk : 0 < k) (he : e + k = 1074) :
    exactDecimal m e = ⟨m * 5 ^ k, -(k : Int)⟩ := by
  have hk : 1074 - e = k := by omega
  rw [exactDecimal, if_neg (by omega), hk]
  rfl

/-- **A finite double is a decimal.** -/
theorem toDouble_exactDecimal (negative : Bool) {m e : Nat} (hc : Canonical m e) (hm : m ≠ 0) :
    (exactDecimal m e).toDouble negative = .finite negative m e hc := by
  have hmantissa : m < 2 ^ 53 := hc.1
  have hexponent : e ≤ 2045 := hc.2.1
  by_cases he : 1074 ≤ e
  · -- a whole number of at most 1024 binary digits
    obtain ⟨k, rfl⟩ : ∃ k, e = 1074 + k := ⟨e - 1074, by omega⟩
    have hsize : size (m * 2 ^ k) ≤ 28 * 11 + 1 := by
      refine size_le_of_lt_two_pow (b := 53 + k) (by omega) ?_
      rw [Nat.pow_add]
      exact Nat.mul_lt_mul_of_pos_right hmantissa (Nat.two_pow_pos k)
    rw [exactDecimal_of_le, toDouble_fraction (Nat.mul_ne_zero hm (Nat.two_pow_pos k).ne') (by omega)
      (by omega)]
    apply ofRatio_of_units Nat.one_pos hc
    rw [unitsPerOne_eq rfl, Nat.one_mul, Nat.pow_add, Nat.mul_assoc, Nat.mul_comm (2 ^ k)]
  · obtain ⟨k, hk⟩ : ∃ k, e + k = 1074 := ⟨1074 - e, by omega⟩
    have hlong : k ≤ size (m * 5 ^ k) + 330 := le_size_mul_five_pow (i := 47) hm (by omega) (by omega)
    have hshort : size (m * 5 ^ k) ≤ 16 + k := by
      rw [size_le_iff (by omega), Nat.pow_add]
      have hlt : m < 10 ^ 16 := hmantissa.trans_le (by decide)
      calc m * 5 ^ k < 10 ^ 16 * 5 ^ k := Nat.mul_lt_mul_of_pos_right hlt (Nat.pow_pos (by decide))
        _ ≤ 10 ^ 16 * 10 ^ k := Nat.mul_le_mul_left _ (Nat.pow_le_pow_left (by decide) k)
    rw [exactDecimal_of_lt (by omega) hk,
      toDouble_fraction (Nat.mul_ne_zero hm (Nat.pow_pos (by decide)).ne') (by omega) hlong]
    apply ofRatio_of_units (Nat.pow_pos (by decide)) hc
    have hten : 10 ^ k = 2 ^ k * 5 ^ k := Nat.mul_pow 2 5 k
    have hcomm : ∀ a b c : Nat, m * a * (b * c) = c * a * (m * b) := by
      intro a b c
      ac_rfl
    rw [unitsPerOne_eq hk, hten, Nat.pow_add]
    exact hcomm (5 ^ k) (2 ^ e) (2 ^ k)

/-- **The shortest decimal of a double rounds to it.** -/
theorem toDouble_shortest (negative : Bool) {m e : Nat} (hc : Canonical m e) (hm : m ≠ 0) :
    (shortest negative m e).toDouble negative = .finite negative m e hc := by
  have htarget : ofParts negative m e = .finite negative m e hc := dif_pos hc
  rw [shortest, toDouble_trimZeros]
  cases hfound : (List.range (min 17 (size (exactDecimal m e).coefficient))).findSome? fun i =>
      neighbour? (ofParts negative m e) negative (exactDecimal m e)
        (size (exactDecimal m e).coefficient - (i + 1)) with
  | none => exact toDouble_exactDecimal negative hc hm
  | some d =>
    obtain ⟨i, -, hi⟩ := List.exists_of_findSome?_eq_some hfound
    exact (toDouble_of_neighbour hi).trans htarget

end Double

/-- The text of an integer has at most 4300 digits. -/
theorem Value.plain_int (i : Int) : (Value.int i).plain =
    if Decimal.size i.natAbs ≤ 4300 then .ok (toString i) else .error (.outside .longInteger) := by
  -- the power stays a variable, so that nothing tries to compute it
  have hsize : ∀ k, 0 < k → (if i.natAbs < Nat.pow 10 k then some (toString i) else none) =
      if Decimal.size i.natAbs ≤ k then some (toString i) else none :=
    fun k hk => if_congr (Decimal.size_le_iff hk).symm rfl rfl
  have hplain : (Value.int i).plain? = intText? i := rfl
  rw [Value.plain, hplain, intText?, hsize 4300 (Nat.succ_pos 4299)]
  split_ifs <;> rfl

end PlotPage
