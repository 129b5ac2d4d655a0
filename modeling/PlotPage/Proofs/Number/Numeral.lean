import PlotPage.Number.Numeral
import PlotPage.Proofs.Number.Decimal
import PlotPage.Proofs.Number.Text

/-!
# Numbers read back

The text of a double is a numeral, and reading it gives the double back (`read?_text`).  Reading goes
through the text from the left, so the layout is followed in the same way: a sign, the digits before
the point, those after it, and the exponent.  In every layout the digits and the position of the
point give a decimal of the same value as the shortest one, which may have zeros at its end
(`decimal?_layout`), and this decimal rounds to the double.
-/

namespace PlotPage.Numeral

/-! ### Digits -/

/-- All characters are digits. -/
def Digits (cs : List Char) : Prop := ∀ c ∈ cs, c.isDigit = true

theorem digits_digits (n : Nat) : Digits (Decimal.digits n) :=
  fun _ => Decimal.isDigit_of_mem_digits

theorem digits_replicate_zero (k : Nat) : Digits (List.replicate k '0') := by
  intro c hc
  rw [List.eq_of_mem_replicate hc]
  rfl

theorem digits_zero : Digits ['0'] := digits_replicate_zero 1

theorem Digits.append {cs ds : List Char} (hc : Digits cs) (hd : Digits ds) : Digits (cs ++ ds) := by
  intro c h
  rcases List.mem_append.mp h with h | h
  · exact hc c h
  · exact hd c h

theorem Digits.take {cs : List Char} (h : Digits cs) (n : Nat) : Digits (cs.take n) :=
  fun c hc => h c (List.mem_of_mem_take hc)

theorem Digits.drop {cs : List Char} (h : Digits cs) (n : Nat) : Digits (cs.drop n) :=
  fun c hc => h c (List.mem_of_mem_drop hc)

theorem digitsValue_eq (ds : List Char) : digitsValue ds = Nat.ofDigitChars 10 ds 0 :=
  Nat.ofDigitChars_eq_foldl.symm

theorem digitsValue_digits (n : Nat) : digitsValue (Decimal.digits n) = n := by
  rw [digitsValue_eq]
  exact Nat.ofDigitChars_ten_toDigits

theorem digitsValue_zeros_append (k : Nat) (ds : List Char) :
    digitsValue (List.replicate k '0' ++ ds) = digitsValue ds := by
  rw [digitsValue_eq, Nat.ofDigitChars_append, Nat.ofDigitChars_replicate_zero, Nat.mul_zero,
    digitsValue_eq]

theorem digitsValue_append_zeros (ds : List Char) (k : Nat) :
    digitsValue (ds ++ List.replicate k '0') = digitsValue ds * 10 ^ k := by
  rw [digitsValue_eq, Nat.ofDigitChars_append, Nat.ofDigitChars_replicate_zero, Nat.mul_comm,
    digitsValue_eq]

/-! ### Exponents -/

theorem exponent?_eq {cs ds : List Char} {negative : Bool} (hsplit : splitSign cs = (negative, ds))
    (hne : ds ≠ []) (hd : Digits ds) :
    exponent? ('e' :: cs) = some (if negative then -(digitsValue ds : Int) else digitsValue ds) := by
  have hall : ds.all Char.isDigit = true := List.all_eq_true.mpr hd
  have hgood : (decide (ds ≠ []) && ds.all Char.isDigit) = true := by
    rw [hall, decide_eq_true hne]
    rfl
  simp only [exponent?, hsplit]
  rw [if_pos (by decide), if_pos hgood]

/-- An exponent is read back, whatever its least number of digits. -/
theorem exponent?_exponentText (size : Nat) (x : Int) :
    exponent? ('e' :: exponentText size x) = some x := by
  have hdigits : Digits (padZeros size (Decimal.digits x.natAbs)) :=
    (digits_replicate_zero _).append (digits_digits _)
  have hne : padZeros size (Decimal.digits x.natAbs) ≠ [] :=
    List.append_ne_nil_of_right_ne_nil _ (Decimal.digits_ne_nil _)
  have hvalue : digitsValue (padZeros size (Decimal.digits x.natAbs)) = x.natAbs := by
    rw [padZeros, digitsValue_zeros_append, digitsValue_digits]
  by_cases hx : x < 0
  · have hsplit : splitSign (exponentText size x) =
        (true, padZeros size (Decimal.digits x.natAbs)) := by
      rw [exponentText, if_pos hx]
      rfl
    rw [exponent?_eq hsplit hne hdigits, hvalue, if_pos rfl]
    exact congrArg some (by omega)
  · have hsplit : splitSign (exponentText size x) =
        (false, padZeros size (Decimal.digits x.natAbs)) := by
      rw [exponentText, if_neg hx]
      rfl
    rw [exponent?_eq hsplit hne hdigits, hvalue, if_neg Bool.false_ne_true]
    exact congrArg some (by omega)

/-- What follows the digits of a numeral, up to its end, begins with no digit and no point. -/
theorem head_of_exponent? {tail : List Char} {x : Int} (h : exponent? tail = some x) :
    tail = [] ∨ ∃ c cs, tail = c :: cs ∧ c.isDigit = false ∧ c ≠ '.' := by
  cases tail with
  | nil => exact Or.inl rfl
  | cons c cs =>
    right
    refine ⟨c, cs, rfl, ?_⟩
    by_cases hc : c = 'e' ∨ c = 'E'
    · rcases hc with rfl | rfl <;> exact ⟨rfl, by decide⟩
    · simp [exponent?, hc] at h

/-! ### Digits, a point and an exponent -/

/-- Reading digits stops where they end. -/
theorem span_digits {ds tail : List Char} (hd : Digits ds)
    (ht : tail = [] ∨ ∃ c cs, tail = c :: cs ∧ c.isDigit = false) :
    (ds ++ tail).takeWhile Char.isDigit = ds ∧ (ds ++ tail).dropWhile Char.isDigit = tail := by
  rw [List.takeWhile_append_of_pos hd, List.dropWhile_append_of_pos hd]
  rcases ht with rfl | ⟨c, cs, rfl, hc⟩
  · exact ⟨List.append_nil ds, rfl⟩
  · have hc' : ¬ c.isDigit = true := by
      rw [hc]
      exact Bool.false_ne_true
    rw [List.takeWhile_cons_of_neg hc', List.dropWhile_cons_of_neg hc', List.append_nil]
    exact ⟨rfl, rfl⟩

theorem decimal?_point {ws fs tail : List Char} {x : Int} (hw : Digits ws) (hne : ws ≠ [])
    (hf : Digits fs) (ht : exponent? tail = some x) :
    decimal? (ws ++ '.' :: (fs ++ tail)) = some ⟨digitsValue (ws ++ fs), x - fs.length⟩ := by
  obtain ⟨htake, hdrop⟩ := span_digits hw (Or.inr ⟨'.', fs ++ tail, rfl, rfl⟩)
  obtain ⟨htake', hdrop'⟩ := span_digits hf
    ((head_of_exponent? ht).imp_right fun ⟨c, cs, h, hc, _⟩ => ⟨c, cs, h, hc⟩)
  have hsome : ¬ (decide (ws = []) && decide (fs = [])) = true := by
    rw [decide_eq_false hne]
    exact Bool.false_ne_true
  simp only [decimal?, htake, hdrop, htake', hdrop', ht]
  rw [if_neg hsome]
  rfl

theorem decimal?_whole {ws tail : List Char} {x : Int} (hw : Digits ws) (hne : ws ≠ [])
    (ht : exponent? tail = some x) : decimal? (ws ++ tail) = some ⟨digitsValue ws, x⟩ := by
  obtain ⟨htake, hdrop⟩ := span_digits hw
    ((head_of_exponent? ht).imp_right fun ⟨c, cs, h, hc, _⟩ => ⟨c, cs, h, hc⟩)
  have hrest : (if ws = [] then none
      else (exponent? tail).map fun e => (⟨digitsValue ws, e⟩ : Decimal)) =
      some ⟨digitsValue ws, x⟩ := by
    rw [if_neg hne, ht]
    rfl
  rw [decimal?, htake, hdrop]
  rcases head_of_exponent? ht with rfl | ⟨c, cs, rfl, -, hc⟩
  · exact hrest
  · split
    · rename_i rest heq
      exact absurd (List.cons.inj heq).1 hc
    · exact hrest

/-- **The digits and the point of a layout give back the number.** -/
theorem decimal?_layout (d : Decimal) : ∃ d', decimal? (DoubleFormat.plain.layout
      (Decimal.digits d.coefficient) (d.exponent + (Decimal.digits d.coefficient).length)) = some d' ∧
    ∀ negative, d'.toDouble negative = d.toDouble negative := by
  obtain ⟨c, e⟩ := d
  have hdigits := digits_digits c
  have hne := Decimal.digits_ne_nil c
  have hvalue := digitsValue_digits c
  simp only
  generalize Decimal.digits c = ds at hdigits hne hvalue ⊢
  have hend : exponent? [] = some 0 := rfl
  unfold DoubleFormat.layout
  split_ifs with hplain hzeros hinside
  · -- zeros between the point and the digits
    have hread := decimal?_point digits_zero (List.cons_ne_nil _ _)
      ((digits_replicate_zero (-(e + ds.length)).toNat).append hdigits) hend
    rw [List.append_nil] at hread
    refine ⟨_, hread, fun negative => congrArg (Decimal.toDouble negative) ?_⟩
    have hcoefficient : digitsValue
        (['0'] ++ (List.replicate (-(e + ds.length)).toNat '0' ++ ds)) = c := by
      rw [List.singleton_append, ← List.cons_append, ← List.replicate_succ,
        digitsValue_zeros_append, hvalue]
    rw [hcoefficient, List.length_append, List.length_replicate]
    exact congrArg (Decimal.mk c) (by omega)
  · -- the point between two digits
    obtain ⟨p, hp⟩ : ∃ p : Nat, e + ds.length = p := ⟨(e + ds.length).toNat, by omega⟩
    rw [hp, Int.toNat_natCast]
    have hsplit : ds.take p ++ ds.drop p = ds := List.take_append_drop p ds
    have htake : ds.take p ≠ [] := by
      intro h
      rw [List.take_eq_nil_iff] at h
      rcases h with h | h
      · omega
      · exact hne h
    have hread := decimal?_point (hdigits.take p) htake (hdigits.drop p) hend
    rw [List.append_nil, hsplit, hvalue] at hread
    refine ⟨_, hread, fun negative => congrArg (Decimal.toDouble negative) ?_⟩
    rw [List.length_drop]
    exact congrArg (Decimal.mk c) (by omega)
  · -- zeros between the digits and the point
    obtain ⟨k, hk⟩ : ∃ k : Nat, e = k := ⟨e.toNat, by omega⟩
    have hzeros : (e + ds.length).toNat - ds.length = k := by omega
    have hread := decimal?_point (hdigits.append (digits_replicate_zero k))
      (List.append_ne_nil_of_left_ne_nil hne _) digits_zero hend
    rw [List.append_assoc] at hread
    rw [hzeros]
    refine ⟨_, hread, fun negative => ?_⟩
    have hcoefficient : digitsValue (ds ++ List.replicate k '0' ++ ['0']) = c * 10 ^ (k + 1) := by
      rw [List.append_assoc, ← List.replicate_succ', digitsValue_append_zeros, hvalue]
    rw [hcoefficient, Decimal.toDouble_mul_pow, List.length_singleton, hk]
    exact congrArg (fun x => Decimal.toDouble negative ⟨c, x⟩) (by omega)
  · -- an exponent
    rcases ds with _ | ⟨a, _ | ⟨b, bs⟩⟩
    · exact absurd rfl hne
    · have hread := decimal?_whole hdigits hne
        (exponent?_exponentText DoubleFormat.plain.exponentSize (e + [a].length - 1))
      rw [hvalue] at hread
      refine ⟨_, hread, fun negative => congrArg (Decimal.toDouble negative) ?_⟩
      exact congrArg (Decimal.mk c) (by rw [List.length_singleton]; omega)
    · have hread := decimal?_point (hdigits.take 1) (List.cons_ne_nil a []) (hdigits.drop 1)
        (exponent?_exponentText DoubleFormat.plain.exponentSize (e + (a :: b :: bs).length - 1))
      rw [List.take_append_drop, hvalue] at hread
      refine ⟨_, hread, fun negative => congrArg (Decimal.toDouble negative) ?_⟩
      rw [List.length_drop]
      exact congrArg (Decimal.mk c) (by rw [List.length_cons]; omega)

/-! ### Signs and words -/

theorem toNat_of_isDigit {c : Char} (h : c.isDigit = true) : 48 ≤ c.toNat ∧ c.toNat ≤ 57 := by
  rw [Char.isDigit, Bool.and_eq_true, decide_eq_true_eq, decide_eq_true_eq] at h
  exact ⟨UInt32.le_iff_toNat_le.mp h.1, UInt32.le_iff_toNat_le.mp h.2⟩

theorem toLower_of_isDigit {c : Char} (h : c.isDigit = true) : c.toLower = c := by
  refine dif_neg ?_
  rintro ⟨hA, -⟩
  have hA : 65 ≤ c.toNat := UInt32.le_iff_toNat_le.mp hA
  have hc := toNat_of_isDigit h
  omega

/-- A sign is split off a body that begins with a digit. -/
theorem splitSign_signText (negative : Bool) {c : Char} (hc : c.isDigit = true) (cs : List Char) :
    splitSign (signText negative ++ c :: cs) = (negative, c :: cs) := by
  cases negative with
  | true => rfl
  | false =>
    rw [signText, if_neg Bool.false_ne_true, List.nil_append, splitSign]
    · intro ds h
      rw [(List.cons.inj h).1] at hc
      exact absurd hc (by decide)
    · intro ds h
      rw [(List.cons.inj h).1] at hc
      exact absurd hc (by decide)

/-- A body that begins with a digit is no word, so a sign and the body are read as a decimal. -/
theorem ofChars?_body (negative : Bool) {c : Char} (hc : c.isDigit = true) (cs : List Char) :
    ofChars? (signText negative ++ c :: cs) =
      (decimal? (c :: cs)).map (Decimal.toDouble negative) := by
  have hsplit := splitSign_signText negative hc cs
  have hword : ∀ a as, (c :: cs).map Char.toLower = a :: as → a.isDigit = true := by
    intro a as h
    rw [List.map_cons, toLower_of_isDigit hc] at h
    rwa [← (List.cons.inj h).1]
  have hinf : ¬ (decide ((c :: cs).map Char.toLower = "inf".toList) ||
      decide ((c :: cs).map Char.toLower = "infinity".toList)) = true := by
    rw [Bool.or_eq_true, decide_eq_true_eq, decide_eq_true_eq]
    rintro (h | h)
    · exact absurd (hword 'i' _ h) (by decide)
    · exact absurd (hword 'i' _ h) (by decide)
  have hnan : ¬ (c :: cs).map Char.toLower = "nan".toList := fun h =>
    absurd (hword 'n' _ h) (by decide)
  simp only [ofChars?, hsplit]
  rw [if_neg hinf, if_neg hnan]

/-! ### Characters that pass through -/

/-- The characters of a number are no blanks around it, are ASCII, and are no underscores. -/
theorem passes_of_isNumberChar {c : Char} (h : isNumberChar c = true) :
    isPadding c = false ∧ plainDigit c = c ∧ c ≠ '_' := by
  rw [isNumberChar, Bool.or_eq_true] at h
  rcases h with h | h
  · have hc := toNat_of_isDigit h
    have hspace : c ≠ ' ' := by
      rintro rfl
      exact absurd h (by decide)
    refine ⟨?_, ?_, ?_⟩
    · rw [isPadding, if_pos (by omega), beq_eq_false_iff_ne.mpr hspace, Bool.or_false,
        decide_eq_false (by omega : ¬ c.toNat ≤ 13), Bool.and_false]
    · rw [plainDigit, if_pos (by omega)]
    · rintro rfl
      exact absurd h (by decide)
  · simp only [List.contains_iff_mem, List.mem_cons, List.not_mem_nil, or_false] at h
    rcases h with rfl | rfl | rfl | rfl | rfl | rfl | rfl | rfl <;> decide

theorem dropEndWhile_of_forall {p : Char → Bool} {cs : List Char} (h : ∀ c ∈ cs, p c = false) :
    Text.dropEndWhile p cs = cs := by
  induction cs with
  | nil => rfl
  | cons c cs ih =>
    rw [Text.dropEndWhile, ih fun a ha => h a (List.mem_cons_of_mem c ha)]
    cases cs with
    | nil =>
      show (if p c = true then [] else [c]) = [c]
      rw [if_neg]
      rw [h c List.mem_cons_self]
      exact Bool.false_ne_true
    | cons c' cs => rfl

theorem dropUnderscores_of_forall {cs : List Char} (h : ∀ c ∈ cs, c ≠ '_') (b : Bool) :
    dropUnderscores b cs = some cs := by
  induction cs generalizing b with
  | nil => rw [dropUnderscores]
  | cons c cs ih =>
    have hc : c ≠ '_' := h c List.mem_cons_self
    rw [dropUnderscores, if_neg hc, ih fun a ha => h a (List.mem_cons_of_mem c ha)]
    · rfl
    · exact fun _ _ hcons _ => absurd hcons hc

/-- A text of number characters is read as it stands. -/
theorem read?_of_numberChars {s : String} (h : NumberChars s.toList) :
    read? s = ofChars? s.toList := by
  have hdrop : s.toList.dropWhile isPadding = s.toList := by
    cases hs : s.toList with
    | nil => rfl
    | cons c cs =>
      rw [List.dropWhile_cons_of_neg]
      rw [(passes_of_isNumberChar (h c (hs ▸ List.mem_cons_self))).1]
      exact Bool.false_ne_true
  have hmap : s.toList.map plainDigit = s.toList :=
    (List.map_congr_left fun c hc => (passes_of_isNumberChar (h c hc)).2.1).trans (List.map_id _)
  rw [read?, hdrop, dropEndWhile_of_forall fun c hc => (passes_of_isNumberChar (h c hc)).1, hmap,
    dropUnderscores_of_forall fun c hc => (passes_of_isNumberChar (h c hc)).2.2]
  rfl

/-- **The text of a double is read back as the double.** -/
theorem read?_text (d : Double) : read? d.text = some d := by
  rw [read?_of_numberChars d.numberChars_text]
  cases d with
  | nan => decide
  | infinite negative => cases negative <;> decide
  | finite negative mantissa exponent hc =>
    rw [Double.text, Double.format]
    split_ifs with hm
    · have hexponent : exponent = 0 := by
        rcases hc.2.2 with h | h
        · exact h
        · exact absurd (hm ▸ h) (by decide)
      subst hm hexponent
      have hread := decimal?_point digits_zero (List.cons_ne_nil _ _) digits_zero
        (rfl : exponent? [] = some 0)
      have hend : '0' :: DoubleFormat.plain.wholeEnd.toList =
          ['0'] ++ '.' :: (['0'] ++ []) := rfl
      rw [String.toList_ofList, hend, List.singleton_append,
        ofChars?_body negative (by decide : '0'.isDigit = true), ← List.singleton_append, hread]
      rfl
    · rw [String.toList_ofList]
      obtain ⟨c, cs, hbody, hdigit⟩ := DoubleFormat.exists_head_layout .plain
        (Decimal.digits_ne_nil (Double.shortest negative mantissa exponent).coefficient)
        (fun _ => Decimal.isDigit_of_mem_digits)
        ((Double.shortest negative mantissa exponent).exponent +
          (Decimal.digits (Double.shortest negative mantissa exponent).coefficient).length)
      obtain ⟨d, hread, hsame⟩ := decimal?_layout (Double.shortest negative mantissa exponent)
      rw [hbody] at hread ⊢
      rw [ofChars?_body negative hdigit, hread, Option.map_some, hsame,
        Double.toDouble_shortest negative hc hm]

end PlotPage.Numeral
