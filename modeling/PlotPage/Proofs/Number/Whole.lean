import PlotPage.Proofs.Number.Numeral
import PlotPage.Proofs.Number.Range

/-!
# Integers as doubles

An integer below 2^53 is a double itself, and no other integer rounds to this double
(`Double.eq_of_ofRatio_eq`).  So the search for the shortest decimal cannot leave it: what has fewer
digits than the integer is an integer too, and a different one.  The double is written with the digits
of the integer and a zero after the point (`Double.text_ofInt`).

Larger integers lose their last digits when they become doubles.  The text of any integer that has a
double is still read as this double (`Numeral.read?_intText`).
-/

namespace PlotPage

namespace Decimal

theorem size_le_of_lt {n : ℕ} (hn : n < 2 ^ 53) : size n ≤ 16 :=
  (size_le_iff (by decide)).mpr (hn.trans_le (by decide))

/-- A whole decimal of moderate size rounds like the integer. -/
theorem toDouble_whole (negative : Bool) {n : ℕ} (h : size n ≤ 310) :
    toDouble negative ⟨n, 0⟩ = .ofRatio negative n 1 := by
  by_cases hn : n = 0
  · rw [hn]
    cases negative <;> decide +kernel
  · exact toDouble_fraction hn h (Nat.zero_le _)

/-- A power of ten adds zeros at the end. -/
theorem digits_mul_pow {n : ℕ} (hn : n ≠ 0) (k : ℕ) :
    digits (n * 10 ^ k) = digits n ++ List.replicate k '0' := by
  induction k with
  | zero => rw [Nat.pow_zero, Nat.mul_one, List.replicate_zero, List.append_nil]
  | succ k ih =>
    have hpos : 0 < n * 10 ^ k := Nat.mul_pos (Nat.pos_of_ne_zero hn) (Nat.pow_pos (by decide))
    have hten := Nat.toDigits_append_toDigits (b := 10) (n := n * 10 ^ k) (d := 0) (by decide) hpos
      (by decide)
    rw [Nat.pow_succ, ← Nat.mul_assoc, List.replicate_succ', ← List.append_assoc, ← ih, digits,
      digits, Nat.mul_comm (n * 10 ^ k) 10]
    exact hten.symm

theorem size_mul_pow {n : ℕ} (hn : n ≠ 0) (k : ℕ) : size (n * 10 ^ k) = size n + k := by
  rw [size, digits_mul_pow hn, List.length_append, List.length_replicate, size]

/-- Leaving out zeros keeps an integer an integer. -/
theorem trimZeros_whole (fuel c t : ℕ) :
    ∃ c' t' : ℕ, trimZeros fuel ⟨c, t⟩ = ⟨c', t'⟩ ∧ c' * 10 ^ t' = c * 10 ^ t := by
  induction fuel generalizing c t with
  | zero => exact ⟨c, t, rfl, rfl⟩
  | succ fuel ih =>
    rw [trimZeros]
    split
    · rename_i h
      obtain ⟨c', t', htrim, hvalue⟩ := ih (c / 10) (t + 1)
      have hten : c / 10 * 10 = c := Nat.div_mul_cancel (Nat.dvd_of_mod_eq_zero h.2)
      refine ⟨c', t', htrim, hvalue.trans ?_⟩
      rw [Nat.pow_succ, Nat.mul_comm (10 ^ t), ← Nat.mul_assoc, hten]
    · exact ⟨c, t, rfl, rfl⟩

end Decimal

namespace Double

/-! ### Integers below 2^53 -/

namespace Quotient

variable {a e m : ℕ} (h : Quotient (a * unitsPerOne) 1 e m) (ha : a < 2 ^ 53)

include h ha

/-- Below 2^53 a unit of the mantissa is at most one. -/
theorem exponent_le_of_lt {k : ℕ} (hone : unitsPerOne = 2 ^ k) : e ≤ k := by
  have hexponent := h.exponent_eq
  rw [Nat.div_one] at hexponent
  by_cases hzero : a * unitsPerOne = 0
  · rw [hzero, Nat.log2_zero] at hexponent
    omega
  · have hlog : Nat.log2 (a * unitsPerOne) < 53 + k := by
      rw [Nat.log2_lt hzero, hone, Nat.pow_add]
      exact Nat.mul_lt_mul_of_pos_right ha (Nat.two_pow_pos k)
    omega

/-- So nothing is rounded there. -/
theorem value_eq : m * 2 ^ e = a * unitsPerOne := by
  obtain ⟨k, -, hone⟩ := exists_unitsPerOne
  obtain ⟨j, rfl⟩ : ∃ j, k = e + j := ⟨k - e, by have := h.exponent_le_of_lt ha hone; omega⟩
  have hdivides : a * unitsPerOne = 2 ^ e * (a * 2 ^ j) := by
    rw [hone, Nat.pow_add, Nat.mul_left_comm]
  rw [h.mantissa_eq, Nat.one_mul, hdivides, roundDiv_mul_left (Nat.two_pow_pos e), Nat.mul_comm]

end Quotient

variable {n a m e : ℕ} {negative : Bool}

/-- An integer below 2^53 is a double. -/
theorem exists_ofRatio_of_lt (negative : Bool) (hn : n < 2 ^ 53) :
    ∃ m e hc, ofRatio negative n 1 = .finite negative m e hc ∧ m * 2 ^ e = n * unitsPerOne := by
  obtain ⟨e, m, hq, ⟨m', e', hc, hfinite, hvalue⟩ | ⟨-, he⟩⟩ :=
    @ofRatio_cases negative n 1 Nat.one_pos
  · exact ⟨m', e', hc, hfinite, hvalue.trans (hq.value_eq hn)⟩
  · obtain ⟨k, hk, hone⟩ := exists_unitsPerOne
    have hle := hq.exponent_le_of_lt hn hone
    omega

/-- **No other integer rounds to it.** -/
theorem eq_of_ofRatio_eq {hc : Canonical m e} (hn : n < 2 ^ 53) (hvalue : m * 2 ^ e = n * unitsPerOne)
    (h : ofRatio negative a 1 = .finite negative m e hc) : a = n := by
  obtain ⟨e', m', hq, ⟨m'', e'', hc', hfinite, hvalue'⟩ | ⟨hinfinite, -⟩⟩ :=
    @ofRatio_cases negative a 1 Nat.one_pos
  · rw [h] at hfinite
    obtain ⟨-, rfl, rfl⟩ := Double.finite.inj hfinite
    by_cases ha : a < 2 ^ 53
    · rw [hvalue', hq.value_eq ha] at hvalue
      exact Nat.eq_of_mul_eq_mul_right unitsPerOne_pos hvalue
    · -- from 2^53 on the double is 2^53 at least
      obtain ⟨k, -, hone⟩ := exists_unitsPerOne
      have hlarge : 2 ^ (53 + k) * 1 ≤ a * unitsPerOne := by
        rw [hone, Nat.pow_add, Nat.mul_one]
        exact Nat.mul_le_mul_right _ (not_lt.mp ha)
      have hle := hq.le_value hlarge
      rw [← hvalue', hvalue, Nat.pow_add, ← hone] at hle
      exact absurd (Nat.le_of_mul_le_mul_right hle unitsPerOne_pos) (not_le.mpr hn)
  · rw [h] at hinfinite
    cases hinfinite

/-! ### The shortest decimal of an integer -/

/-- The exact decimal of an integer below 2^53 is the integer, with zeros at its end. -/
theorem exactDecimal_of_value (hc : Canonical m e) (hn : n < 2 ^ 53)
    (hvalue : m * 2 ^ e = n * unitsPerOne) :
    ∃ k : ℕ, exactDecimal m e = ⟨n * 10 ^ k, -(k : ℤ)⟩ := by
  obtain ⟨t, ht, hone⟩ : ∃ t, t = 1074 ∧ unitsPerOne = 2 ^ t := ⟨_, rfl, unitsPerOne_eq rfl⟩
  have he : e ≤ t := by
    by_contra hlt
    have hlarge : 2 ^ 52 ≤ m := hc.2.2.resolve_left (by omega)
    have hle : 2 ^ 52 * 2 ^ (t + 1) ≤ m * 2 ^ e :=
      Nat.mul_le_mul hlarge (Nat.pow_le_pow_right Nat.two_pos (by omega))
    have hexponent : 52 + (t + 1) = 53 + t := by omega
    rw [hvalue, hone, ← Nat.pow_add, hexponent, Nat.pow_add] at hle
    exact absurd (Nat.le_of_mul_le_mul_right hle (Nat.two_pow_pos t)) (not_le.mpr hn)
  obtain ⟨k, hk⟩ : ∃ k, e + k = t := ⟨t - e, by omega⟩
  have hm : m = n * 2 ^ k := by
    rw [hone, ← hk, Nat.pow_add, Nat.mul_comm (2 ^ e), ← Nat.mul_assoc] at hvalue
    exact Nat.eq_of_mul_eq_mul_right (Nat.two_pow_pos e) hvalue
  refine ⟨k, ?_⟩
  by_cases hzero : k = 0
  · have he : e = 1074 + 0 := by omega
    rw [he, exactDecimal_of_le, hm, hzero]
    simp
  · have hten : n * 2 ^ k * 5 ^ k = n * 10 ^ k := by
      rw [Nat.mul_assoc, ← Nat.mul_pow]
    rw [exactDecimal_of_lt (Nat.pos_of_ne_zero hzero) (ht ▸ hk), hm, hten]

/-- A decimal without a point that rounds to a double is an integer that does. -/
theorem ofRatio_of_toDouble {c t : ℕ} {hc : Canonical m e} (hm : m ≠ 0)
    (h : Decimal.toDouble negative ⟨c, t⟩ = .finite negative m e hc) :
    ofRatio negative (c * 10 ^ t) 1 = .finite negative m e hc := by
  rw [Decimal.toDouble] at h
  split_ifs at h with hzero hlarge hsmall hwhole
  · exact absurd (Double.finite.inj h).2.1.symm hm
  · exact absurd (Double.finite.inj h).2.1.symm hm
  · exact h
  · exact absurd (Int.natCast_nonneg t) hwhole

/-- What the search finds among the first digits of an integer is the integer. -/
theorem eq_of_neighbour {k cut : ℕ} {hc : Canonical m e} {d : Decimal} (hn : n < 2 ^ 53) (hm : m ≠ 0)
    (hvalue : m * 2 ^ e = n * unitsPerOne)
    (h : neighbour? (.finite negative m e hc) negative ⟨n * 10 ^ k, -(k : ℤ)⟩ (k + cut) = some d) :
    ∃ c t : ℕ, d = ⟨c, t⟩ ∧ c * 10 ^ t = n := by
  have hround := toDouble_of_neighbour h
  have hexponent : -(k : ℤ) + ((k + cut : ℕ) : ℤ) = (cut : ℤ) := by omega
  obtain ⟨c, hd⟩ : ∃ c, d = ⟨c, (cut : ℤ)⟩ := by
    simp only [neighbour?, hexponent] at h
    split_ifs at h
    all_goals exact ⟨_, (Option.some.inj h).symm⟩
  subst hd
  exact ⟨c, cut, rfl, eq_of_ofRatio_eq hn hvalue (ofRatio_of_toDouble hm hround)⟩

/-- The whole number of digits of an integer is enough, so the search ends there at the latest. -/
theorem exists_neighbour {k : ℕ} {hc : Canonical m e} (hn : n < 2 ^ 53)
    (hratio : ofRatio negative n 1 = .finite negative m e hc) :
    ∃ d, neighbour? (.finite negative m e hc) negative ⟨n * 10 ^ k, -(k : ℤ)⟩ k = some d := by
  have hcut : n * 10 ^ k / Nat.pow 10 k = n := Nat.mul_div_cancel n (Nat.pow_pos (by decide))
  have hexponent : -(k : ℤ) + (k : ℤ) = 0 := by omega
  have hlow : Decimal.toDouble negative ⟨n, 0⟩ = .finite negative m e hc :=
    (Decimal.toDouble_whole negative ((Decimal.size_le_of_lt hn).trans (by decide))).trans hratio
  simp only [neighbour?, hcut, hexponent, hlow, if_true]
  split_ifs
  · exact ⟨_, rfl⟩
  · exact ⟨_, rfl⟩
  · exact ⟨_, rfl⟩

/-- A search through the first numbers ends where it must succeed, or before. -/
theorem exists_findSome?_range {α : Type} {f : ℕ → Option α} {i count : ℕ} (hi : i < count)
    (h : ∃ d, f i = some d) :
    ∃ j ≤ i, ∃ d, f j = some d ∧ (List.range count).findSome? f = some d := by
  obtain ⟨r, rfl⟩ : ∃ r, count = i + 1 + r := ⟨count - (i + 1), by omega⟩
  cases hfound : (List.range (i + 1)).findSome? f with
  | none =>
    obtain ⟨d, hd⟩ := h
    have hnone := List.findSome?_eq_none_iff.mp hfound i List.self_mem_range_succ
    rw [hd] at hnone
    cases hnone
  | some d =>
    obtain ⟨j, hj, hd⟩ := List.exists_of_findSome?_eq_some hfound
    refine ⟨j, Nat.lt_succ_iff.mp (List.mem_range.mp hj), d, hd, ?_⟩
    rw [List.range_add, List.findSome?_append, hfound]
    rfl

/-- **The shortest decimal of an integer below 2^53 is the integer.** -/
theorem shortest_of_ofRatio {hc : Canonical m e} (hpos : n ≠ 0) (hn : n < 2 ^ 53) (hm : m ≠ 0)
    (hratio : ofRatio negative n 1 = .finite negative m e hc)
    (hvalue : m * 2 ^ e = n * unitsPerOne) :
    ∃ c t : ℕ, shortest negative m e = ⟨c, t⟩ ∧ c * 10 ^ t = n := by
  obtain ⟨k, hexact⟩ := exactDecimal_of_value hc hn hvalue
  have htarget : ofParts negative m e = .finite negative m e hc := dif_pos hc
  have hsize := Decimal.size_mul_pow hpos k
  have hsmall := Decimal.size_le_of_lt hn
  have hpositive : 0 < Decimal.size n := List.length_pos_iff.mpr (Decimal.digits_ne_nil n)
  obtain ⟨j, hj, d, hd, hfound⟩ := exists_findSome?_range
    (f := fun i => neighbour? (.finite negative m e hc) negative ⟨n * 10 ^ k, -(k : ℤ)⟩
      (Decimal.size n + k - (i + 1)))
    (by omega : Decimal.size n - 1 < min 17 (Decimal.size n + k)) (by
      have hcut : Decimal.size n + k - (Decimal.size n - 1 + 1) = k := by omega
      rw [hcut]
      exact exists_neighbour hn hratio)
  have hcut : Decimal.size n + k - (j + 1) = k + (Decimal.size n - (j + 1)) := by omega
  rw [hcut] at hd
  obtain ⟨c, t, rfl, hct⟩ := eq_of_neighbour hn hm hvalue hd
  obtain ⟨c', t', htrim, hct'⟩ := Decimal.trimZeros_whole (Decimal.size n + k) c t
  refine ⟨c', t', ?_, hct'.trans hct⟩
  simp only [shortest, hexact, htarget, hsize, hfound, Option.getD_some, htrim]

end Double

/-! ### The text of an integer -/

/-- An integer that ends in zeros is laid out in full. -/
theorem DoubleFormat.layout_whole {c t n : ℕ} (hpos : n ≠ 0) (hn : n < 2 ^ 53)
    (hct : c * 10 ^ t = n) : DoubleFormat.plain.layout (Decimal.digits c)
      ((t : ℤ) + (Decimal.digits c).length) = Decimal.digits n ++ ['.', '0'] := by
  have hc : c ≠ 0 := by
    rintro rfl
    rw [Nat.zero_mul] at hct
    exact hpos hct.symm
  have hdigits : Decimal.digits n = Decimal.digits c ++ List.replicate t '0' := by
    rw [← hct, Decimal.digits_mul_pow hc]
  have hlength : (Decimal.digits c).length + t ≤ 16 := by
    have hsize := Decimal.size_le_of_lt hn
    rwa [Decimal.size, hdigits, List.length_append, List.length_replicate] at hsize
  have hpositive : 0 < (Decimal.digits c).length := List.length_pos_iff.mpr (Decimal.digits_ne_nil c)
  have hzeros : ((t : ℤ) + (Decimal.digits c).length).toNat - (Decimal.digits c).length = t := by
    omega
  have hpoint : (decide (DoubleFormat.plain.leastPoint ≤ (t : ℤ) + (Decimal.digits c).length) &&
      decide ((t : ℤ) + (Decimal.digits c).length ≤ DoubleFormat.plain.greatestPoint)) = true := by
    rw [Bool.and_eq_true, decide_eq_true_eq, decide_eq_true_eq]
    show (-3 : ℤ) ≤ _ ∧ _ ≤ (16 : ℤ)
    omega
  unfold layout
  rw [if_pos hpoint, if_neg (by omega), if_neg (by omega), hzeros, hdigits, List.append_assoc]
  rfl

namespace Double

theorem toList_text_finite {hc : Canonical m e} (hm : m ≠ 0) :
    (finite negative m e hc).text.toList = signText negative ++ DoubleFormat.plain.layout
      (Decimal.digits (shortest negative m e).coefficient) ((shortest negative m e).exponent +
        (Decimal.digits (shortest negative m e).coefficient).length) := by
  rw [text, format, if_neg hm, String.toList_ofList]

/-- An integer below 2^53 is written with its digits and a zero after the point. -/
theorem toList_text_ofRatio (negative : Bool) (hpos : n ≠ 0) (hn : n < 2 ^ 53) :
    (ofRatio negative n 1).text.toList = signText negative ++ Decimal.digits n ++ ['.', '0'] := by
  obtain ⟨m, e, hc, hratio, hvalue⟩ := exists_ofRatio_of_lt negative hn
  have hm : m ≠ 0 := by
    intro hzero
    rw [hzero, Nat.zero_mul, eq_comm, Nat.mul_eq_zero] at hvalue
    exact hvalue.elim hpos unitsPerOne_pos.ne'
  obtain ⟨c, t, hshortest, hct⟩ := shortest_of_ofRatio hpos hn hm hratio hvalue
  rw [hratio, toList_text_finite hm, hshortest, DoubleFormat.layout_whole hpos hn hct,
    List.append_assoc]

/-- **An integer of at most 2^53 is written with a zero after the point.** -/
theorem text_ofInt {i : ℤ} (hi : i.natAbs ≤ 2 ^ 53) : (ofInt i).text = toString i ++ ".0" := by
  apply String.toList_injective
  rw [String.toList_append, toList_intText, ofInt]
  by_cases hzero : i = 0
  · rw [hzero]
    decide +kernel
  · rcases Nat.lt_or_eq_of_le hi with hlt | heq
    · exact toList_text_ofRatio _ (Int.natAbs_ne_zero.mpr hzero) hlt
    · rw [heq]
      by_cases hsign : i < 0
      · rw [decide_eq_true hsign]
        decide +kernel
      · rw [decide_eq_false hsign]
        decide +kernel

end Double

/-- The text of an integer is read as the double nearest to it. -/
theorem Numeral.read?_intText {i : ℤ} (h : (Double.ofInt i).isFinite = true) :
    read? (toString i) = some (.ofInt i) := by
  obtain ⟨c, cs, hcs⟩ := List.exists_cons_of_ne_nil (Decimal.digits_ne_nil i.natAbs)
  have hread := decimal?_whole (digits_digits i.natAbs) (Decimal.digits_ne_nil _)
    (rfl : exponent? [] = some 0)
  rw [List.append_nil, digitsValue_digits] at hread
  have hdigit : c.isDigit = true := digits_digits i.natAbs c (hcs ▸ List.mem_cons_self)
  rw [read?_of_numberChars (numberChars_intText i), toList_intText, hcs, ofChars?_body _ hdigit,
    ← hcs, hread, Option.map_some]
  have hsize : Decimal.size i.natAbs ≤ 309 := by
    apply Decimal.size_le_of_isFinite
    rw [Double.isFinite_ofInt_iff] at h ⊢
    exact h
  exact congrArg some (Decimal.toDouble_whole _ (hsize.trans (by decide)))

/-! ### The number that a text denotes -/

/-- The rational number that a decimal is. -/
def Decimal.value (d : Decimal) : ℚ := d.coefficient * 10 ^ d.exponent

namespace Numeral

/-- The rational number that a decimal with a sign denotes. -/
def value? (s : String) : Option ℚ :=
  (decimal? (splitSign s.toList).2).map fun d =>
    if (splitSign s.toList).1 then -d.value else d.value

/-- A sign before the digits of an integer is the sign of the number. -/
theorem value?_eq_intCast {s : String} {i : ℤ} {rest : List Char} {d : Decimal}
    (hs : s.toList = signText (i < 0) ++ (Decimal.digits i.natAbs ++ rest))
    (hd : decimal? (Decimal.digits i.natAbs ++ rest) = some d) (hvalue : d.value = (i.natAbs : ℤ)) :
    value? s = some (i : ℚ) := by
  obtain ⟨c, cs, hcs⟩ := List.exists_cons_of_ne_nil (Decimal.digits_ne_nil i.natAbs)
  have hdigit : c.isDigit = true := digits_digits i.natAbs c (hcs ▸ List.mem_cons_self)
  have hsplit : splitSign s.toList = (decide (i < 0), Decimal.digits i.natAbs ++ rest) := by
    rw [hs, hcs, List.cons_append, splitSign_signText _ hdigit]
  rw [value?, hsplit, hd, Option.map_some, hvalue]
  by_cases hsign : i < 0
  · rw [decide_eq_true hsign, if_pos rfl, ← Int.cast_neg]
    exact congrArg (fun j : ℤ => some (j : ℚ)) (by omega)
  · rw [decide_eq_false hsign, if_neg Bool.false_ne_true]
    exact congrArg (fun j : ℤ => some (j : ℚ)) (by omega)

theorem value?_intText (i : ℤ) : value? (toString i) = some (i : ℚ) := by
  have hread := decimal?_whole (digits_digits i.natAbs) (Decimal.digits_ne_nil _)
    (rfl : exponent? [] = some 0)
  refine value?_eq_intCast ?_ hread ?_
  · rw [toList_intText, List.append_nil]
  · rw [Decimal.value, digitsValue_digits, zpow_zero, mul_one, Int.cast_natCast]

/-- A zero after the point changes nothing. -/
theorem value?_intText_point (i : ℤ) : value? (toString i ++ ".0") = some (i : ℚ) := by
  have hread := decimal?_point (digits_digits i.natAbs) (Decimal.digits_ne_nil _) digits_zero
    (rfl : exponent? [] = some 0)
  refine value?_eq_intCast ?_ hread ?_
  · rw [String.toList_append, toList_intText, List.append_assoc]
    rfl
  · have hdigits := digitsValue_append_zeros (Decimal.digits i.natAbs) 1
    rw [digitsValue_digits, pow_one] at hdigits
    show ((digitsValue (Decimal.digits i.natAbs ++ List.replicate 1 '0') : ℕ) : ℚ) * 10 ^ (-1 : ℤ) = _
    rw [hdigits, Nat.cast_mul, Nat.cast_ofNat, zpow_neg_one,
      mul_inv_cancel_right₀ (OfNat.ofNat_ne_zero 10), Int.cast_natCast]

end Numeral

end PlotPage
