import Mathlib.Data.List.Basic
import PlotPage.Number.Text

/-!
# The characters of a number

The text of a double is a word: it is made of digits, signs, the point and the letters of `e`,
`nan` and `inf`, so no blank and no line end occurs in it.  It begins with a digit, a sign, or the
first letter of one of the two words, so it is never the line `e` that ends inline data.
-/

namespace PlotPage

def isNumberChar (c : Char) : Bool :=
  c.isDigit || ['+', '-', '.', 'e', 'n', 'a', 'i', 'f'].contains c

theorem isNumberChar_of_isDigit {c : Char} (h : c.isDigit = true) : isNumberChar c = true := by
  rw [isNumberChar, h, Bool.true_or]

def NumberChars (cs : List Char) : Prop := ∀ c ∈ cs, isNumberChar c = true

instance (cs : List Char) : Decidable (NumberChars cs) :=
  List.decidableBAll (fun c => isNumberChar c = true) cs

@[simp] theorem numberChars_nil : NumberChars [] := fun _ h => absurd h List.not_mem_nil

@[simp] theorem numberChars_cons {c : Char} {cs : List Char} :
    NumberChars (c :: cs) ↔ isNumberChar c = true ∧ NumberChars cs := List.forall_mem_cons

@[simp] theorem numberChars_append {cs ds : List Char} :
    NumberChars (cs ++ ds) ↔ NumberChars cs ∧ NumberChars ds := List.forall_mem_append

theorem numberChars_replicate_zero (n : Nat) : NumberChars (List.replicate n '0') := by
  intro c hc
  rw [List.eq_of_mem_replicate hc]
  decide

theorem NumberChars.take {cs : List Char} (h : NumberChars cs) (n : Nat) : NumberChars (cs.take n) :=
  fun c hc => h c (List.mem_of_mem_take hc)

theorem NumberChars.drop {cs : List Char} (h : NumberChars cs) (n : Nat) : NumberChars (cs.drop n) :=
  fun c hc => h c (List.mem_of_mem_drop hc)

namespace Decimal

theorem isDigit_of_mem_digits {n : Nat} {c : Char} (h : c ∈ digits n) : c.isDigit = true :=
  Nat.isDigit_of_mem_toDigits (by decide) (by decide) h

theorem numberChars_digits (n : Nat) : NumberChars (digits n) :=
  fun _ hc => isNumberChar_of_isDigit (isDigit_of_mem_digits hc)

theorem digits_ne_nil (n : Nat) : digits n ≠ [] := Nat.toDigits_ne_nil

end Decimal

theorem numberChars_exponentText (size : Nat) (e : Int) : NumberChars (exponentText size e) := by
  have hsign : isNumberChar (if e < 0 then '-' else '+') = true := by split <;> decide
  rw [exponentText, padZeros, numberChars_cons, numberChars_append]
  exact ⟨hsign, numberChars_replicate_zero _, Decimal.numberChars_digits _⟩

theorem numberChars_signText (negative : Bool) : NumberChars (signText negative) := by
  cases negative <;> decide

/-- An integer is written as a sign and its digits. -/
theorem toList_intText (i : Int) :
    (toString i).toList = signText (i < 0) ++ Decimal.digits i.natAbs := by
  have hnat : ∀ n : Nat, (toString n).toList = Decimal.digits n := by
    intro n
    rw [Nat.toString_eq_repr, Nat.toList_repr]
    rfl
  cases i with
  | ofNat n => exact hnat n
  | negSucc n =>
    show ("-" ++ toString (n + 1)).toList = _
    rw [String.toList_append, hnat, decide_eq_true (Int.negSucc_lt_zero n)]
    rfl

theorem numberChars_intText (i : Int) : NumberChars (toString i).toList := by
  rw [toList_intText, numberChars_append]
  exact ⟨numberChars_signText _, Decimal.numberChars_digits _⟩

theorem intText_ne_empty (i : Int) : toString i ≠ "" := by
  intro h
  have hdigits := congrArg String.toList h
  rw [toList_intText] at hdigits
  exact List.append_ne_nil_of_right_ne_nil _ (Decimal.digits_ne_nil _) hdigits

namespace DoubleFormat

theorem numberChars_layout (f : DoubleFormat) (hend : NumberChars f.wholeEnd.toList)
    {digits : List Char} (hd : NumberChars digits) (point : Int) :
    NumberChars (f.layout digits point) := by
  have hzero : isNumberChar '0' = true := by decide
  have hpoint : isNumberChar '.' = true := by decide
  have hexp : isNumberChar 'e' = true := by decide
  unfold layout
  split_ifs
  · simp only [numberChars_cons, numberChars_append]
    exact ⟨hzero, hpoint, numberChars_replicate_zero _, hd⟩
  · simp only [numberChars_append, numberChars_cons]
    exact ⟨hd.take _, hpoint, hd.drop _⟩
  · simp only [numberChars_append]
    exact ⟨hd, numberChars_replicate_zero _, hend⟩
  · rcases digits with _ | ⟨d, _ | ⟨d', ds⟩⟩
    · exact numberChars_nil
    · simp only [numberChars_cons] at hd ⊢
      exact ⟨hd.1, hexp, numberChars_exponentText _ _⟩
    · simp only [numberChars_cons, numberChars_append] at hd ⊢
      exact ⟨hd.1, hpoint, ⟨hd.2.1, hd.2.2⟩, hexp, numberChars_exponentText _ _⟩

/-- What is laid out begins with a digit. -/
theorem exists_head_layout (f : DoubleFormat) {digits : List Char} (hne : digits ≠ [])
    (hd : ∀ c ∈ digits, c.isDigit = true) (point : Int) :
    ∃ c cs, f.layout digits point = c :: cs ∧ c.isDigit = true := by
  obtain ⟨d, ds, rfl⟩ := List.exists_cons_of_ne_nil hne
  have hfirst : d.isDigit = true := hd d List.mem_cons_self
  unfold layout
  split_ifs
  · exact ⟨'0', _, rfl, by decide⟩
  · obtain ⟨n, hn⟩ : ∃ n, point.toNat = n + 1 := ⟨point.toNat - 1, by omega⟩
    rw [hn, List.take_succ_cons]
    exact ⟨d, _, rfl, hfirst⟩
  · exact ⟨d, _, rfl, hfirst⟩
  · cases ds with
    | nil => exact ⟨d, _, rfl, hfirst⟩
    | cons d' ds => exact ⟨d, _, rfl, hfirst⟩

end DoubleFormat

namespace Double

theorem numberChars_text (d : Double) : NumberChars d.text.toList := by
  have hend : NumberChars DoubleFormat.plain.wholeEnd.toList := by decide
  rw [text]
  cases d with
  | nan => decide
  | infinite negative =>
    rw [format, String.toList_append, String.toList_ofList, numberChars_append]
    exact ⟨numberChars_signText negative, by decide⟩
  | finite negative mantissa exponent h =>
    rw [format]
    split_ifs
    · rw [String.toList_ofList, numberChars_append, numberChars_cons]
      exact ⟨numberChars_signText negative, by decide, hend⟩
    · rw [String.toList_ofList, numberChars_append]
      exact ⟨numberChars_signText negative,
        DoubleFormat.numberChars_layout _ hend (Decimal.numberChars_digits _) _⟩

/-- The text of a double begins with a character other than `e`. -/
theorem exists_head_text (d : Double) : ∃ c cs, d.text.toList = c :: cs ∧ c ≠ 'e' := by
  rw [text]
  cases d with
  | nan => exact ⟨'n', ['a', 'n'], by decide, by decide⟩
  | infinite negative =>
    cases negative with
    | false => exact ⟨'i', ['n', 'f'], by decide, by decide⟩
    | true => exact ⟨'-', ['i', 'n', 'f'], by decide, by decide⟩
  | finite negative mantissa exponent h =>
    cases negative with
    | true =>
      rw [format]
      split_ifs <;> rw [String.toList_ofList] <;> exact ⟨'-', _, rfl, by decide⟩
    | false =>
      rw [format]
      split_ifs
      · rw [String.toList_ofList]
        exact ⟨'0', _, rfl, by decide⟩
      · rw [String.toList_ofList]
        obtain ⟨c, cs, hcs, hc⟩ := DoubleFormat.exists_head_layout .plain
          (Decimal.digits_ne_nil _) (fun _ => Decimal.isDigit_of_mem_digits) _
        refine ⟨c, cs, hcs, ?_⟩
        rintro rfl
        exact absurd hc (by decide)

theorem text_ne_empty (d : Double) : d.text ≠ "" := by
  obtain ⟨c, cs, hcs, -⟩ := d.exists_head_text
  intro h
  rw [h] at hcs
  cases hcs

end Double

end PlotPage
