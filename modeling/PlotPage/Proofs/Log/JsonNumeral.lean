import Mathlib.Tactic.IntervalCases
import PlotPage.Log.Json
import PlotPage.Proofs.Number.Numeral

/-!
# Words and numbers of JSON texts

What stands in a JSON text without quotes and brackets is a word or a number.  A number is an
optional minus sign and a magnitude: digits without needless zeros before them, then perhaps a point
with digits after it, then perhaps an exponent.  Integers have neither point nor exponent.

* `isMagnitude_layout`: what is laid out has the form of a magnitude.
* `plain?_int`, `plain?_real`: the text of an integer and of a double is read back.
-/

namespace PlotPage

namespace Decimal

/-- A number does not begin with a zero, unless it is zero. -/
theorem head?_digits {n : Nat} (hn : n ≠ 0) : (digits n).head? ≠ some '0' := by
  induction n using Nat.strongRecOn with
  | ind n ih =>
    rw [digits]
    by_cases hlt : n < 10
    · rw [Nat.toDigits_of_lt_base hlt]
      interval_cases n <;> first | exact absurd rfl hn | decide
    · rw [Nat.toDigits_of_base_le (by decide) (by omega),
        List.head?_append_of_ne_nil _ Nat.toDigits_ne_nil]
      exact ih (n / 10) (by omega) (by omega)

end Decimal

namespace JsonValue

open Numeral

/-! ### Reading -/

/-- Whether digits begin a number: a zero stands alone. -/
def leadsWell : List Char → Bool
  | [] => false
  | [d] => d.isDigit
  | d :: c :: _ => d.isDigit && (d ≠ '0' || !c.isDigit)

/-- Whether a point has a digit after it. -/
def pointsWell : List Char → Bool
  | '.' :: c :: _ => c.isDigit
  | cs => cs ≠ ['.']

/-- Whether a text has the form of a number without sign, as far as its exponent. -/
def isMagnitude (cs : List Char) : Bool := leadsWell cs && pointsWell (cs.dropWhile Char.isDigit)

/-- Reads a number without sign. -/
def magnitude? (negative : Bool) (cs : List Char) : Option JsonValue :=
  if cs = "Infinity".toList then some (.real (.infinite negative))
  else if !isMagnitude cs then none
  else if cs.all Char.isDigit then
    some (.int (if negative then -(digitsValue cs : Int) else digitsValue cs))
  else (decimal? cs).map fun d => .real (d.toDouble negative)

/-- Reads a word or a number. -/
def plain? : List Char → Option JsonValue
  | '-' :: cs => magnitude? true cs
  | cs =>
    if cs = "null".toList then some .null
    else if cs = "true".toList then some (.bool true)
    else if cs = "false".toList then some (.bool false)
    else if cs = "NaN".toList then some (.real .nan)
    else magnitude? false cs

/-- The characters of words and numbers. -/
def isPlainChar (c : Char) : Bool := c.isAlphanum || c = '+' || c = '-' || c = '.'

/-! ### The form of numbers -/

theorem leadsWell_append {ds tail : List Char} (hd : Digits ds) (hne : ds ≠ [])
    (hlead : ds.head? ≠ some '0' ∨ ds = ['0'])
    (ht : tail = [] ∨ ∃ c cs, tail = c :: cs ∧ c.isDigit = false) :
    leadsWell (ds ++ tail) = true := by
  obtain ⟨d, rest, rfl⟩ := List.exists_cons_of_ne_nil hne
  have hdigit : d.isDigit = true := hd d List.mem_cons_self
  rcases rest with _ | ⟨c, rest⟩
  · rcases ht with rfl | ⟨c, cs, rfl, hc⟩
    · exact hdigit
    · simp [leadsWell, hdigit, hc]
  · have hzero : d ≠ '0' := by
      rcases hlead with h | h
      · simpa using h
      · cases h
    simp [leadsWell, hdigit, hzero]

theorem isMagnitude_point {ws fs : List Char} (hw : Digits ws) (hne : ws ≠ [])
    (hlead : ws.head? ≠ some '0' ∨ ws = ['0']) (hf : Digits fs) (hfs : fs ≠ []) (tail : List Char) :
    isMagnitude (ws ++ '.' :: (fs ++ tail)) = true := by
  have hpoint : '.' :: (fs ++ tail) = [] ∨ ∃ c cs, '.' :: (fs ++ tail) = c :: cs ∧
      c.isDigit = false := Or.inr ⟨_, _, rfl, rfl⟩
  rw [isMagnitude, leadsWell_append hw hne hlead hpoint, (span_digits hw hpoint).2, Bool.true_and]
  obtain ⟨f, fs, rfl⟩ := List.exists_cons_of_ne_nil hfs
  exact hf f List.mem_cons_self

theorem isMagnitude_whole {ws : List Char} (hw : Digits ws) (hne : ws ≠ [])
    (hlead : ws.head? ≠ some '0' ∨ ws = ['0']) (tail : List Char)
    (ht : tail = [] ∨ ∃ c cs, tail = c :: cs ∧ c.isDigit = false ∧ c ≠ '.') :
    isMagnitude (ws ++ tail) = true := by
  have hend : tail = [] ∨ ∃ c cs, tail = c :: cs ∧ c.isDigit = false :=
    ht.imp_right fun ⟨c, cs, h, hc, _⟩ => ⟨c, cs, h, hc⟩
  rw [isMagnitude, leadsWell_append hw hne hlead hend, (span_digits hw hend).2, Bool.true_and]
  rcases ht with rfl | ⟨c, cs, rfl, -, hc⟩
  · rfl
  · unfold pointsWell
    split
    · next heq => exact absurd (List.cons.inj heq).1 hc
    · simp [hc]

/-- What is laid out has the form of a number, with a point or an exponent. -/
theorem isMagnitude_layout {ds : List Char} (hd : Digits ds) (hne : ds ≠ [])
    (hlead : ds.head? ≠ some '0') (point : Int) :
    isMagnitude (DoubleFormat.json.layout ds point) = true ∧
      (DoubleFormat.json.layout ds point).all Char.isDigit = false := by
  have hpoint : ∀ ws cs : List Char, (ws ++ '.' :: cs).all Char.isDigit = false := by
    intro ws cs
    simp
  unfold DoubleFormat.layout
  split_ifs with hplain hzeros hinside
  · -- zeros between the point and the digits
    have hfs : Digits (List.replicate (-point).toNat '0' ++ ds) :=
      (digits_replicate_zero _).append hd
    have hform := isMagnitude_point digits_zero (List.cons_ne_nil _ _) (Or.inr rfl) hfs
      (List.append_ne_nil_of_right_ne_nil _ hne) []
    rw [List.append_nil] at hform
    exact ⟨hform, hpoint ['0'] _⟩
  · -- the point between two digits
    obtain ⟨k, hk⟩ : ∃ k, point.toNat = k + 1 := ⟨point.toNat - 1, by omega⟩
    obtain ⟨d, rest, rfl⟩ := List.exists_cons_of_ne_nil hne
    rw [hk]
    have hrest : (d :: rest).drop (k + 1) ≠ [] := by
      rw [ne_eq, List.drop_eq_nil_iff]
      omega
    have hform := isMagnitude_point (hd.take (k + 1)) (List.cons_ne_nil _ _)
      (Or.inl hlead) (hd.drop (k + 1)) hrest []
    rw [List.append_nil] at hform
    exact ⟨hform, hpoint _ _⟩
  · -- zeros between the digits and the point
    have hws : Digits (ds ++ List.replicate (point.toNat - ds.length) '0') :=
      hd.append (digits_replicate_zero _)
    have hhead : (ds ++ List.replicate (point.toNat - ds.length) '0').head? ≠ some '0' := by
      rwa [List.head?_append_of_ne_nil _ hne]
    have hform := isMagnitude_point hws (List.append_ne_nil_of_left_ne_nil hne _)
      (Or.inl hhead) digits_zero (List.cons_ne_nil _ _) []
    have hall := hpoint (ds ++ List.replicate (point.toNat - ds.length) '0') ['0']
    rw [List.append_assoc] at hform hall
    exact ⟨hform, hall⟩
  · -- an exponent
    rcases ds with _ | ⟨a, _ | ⟨b, bs⟩⟩
    · exact absurd rfl hne
    · refine ⟨isMagnitude_whole hd hne (Or.inl hlead) _ (Or.inr ⟨'e', _, rfl, rfl, by decide⟩), ?_⟩
      simp
    · exact ⟨isMagnitude_point (hd.take 1) (List.cons_ne_nil a []) (Or.inl hlead)
        (hd.drop 1) (List.cons_ne_nil b bs) _, hpoint [a] _⟩

/-! ### What is written is read back -/

/-- What begins with a digit is neither a word nor a number with a sign. -/
theorem plain?_signText (negative : Bool) {c : Char} (hc : c.isDigit = true) (cs : List Char)
    (hform : isMagnitude (c :: cs) = true) :
    plain? (signText negative ++ c :: cs) =
      if (c :: cs).all Char.isDigit then
        some (.int (if negative then -(digitsValue (c :: cs) : Int) else digitsValue (c :: cs)))
      else (decimal? (c :: cs)).map fun d => .real (d.toDouble negative) := by
  have hword : ∀ w : List Char, w.head?.any Char.isDigit = false → c :: cs ≠ w := by
    intro w hw h
    rw [← h, List.head?_cons, Option.any_some, hc] at hw
    cases hw
  have hmagnitude : magnitude? negative (c :: cs) =
      if (c :: cs).all Char.isDigit then
        some (.int (if negative then -(digitsValue (c :: cs) : Int) else digitsValue (c :: cs)))
      else (decimal? (c :: cs)).map fun d => .real (d.toDouble negative) := by
    rw [magnitude?, if_neg (hword _ (by decide)), hform]
    rfl
  rw [← hmagnitude]
  cases negative with
  | true => rfl
  | false =>
    rw [signText, if_neg Bool.false_ne_true, List.nil_append, plain?]
    · rw [if_neg (hword _ (by decide)), if_neg (hword _ (by decide)),
        if_neg (hword _ (by decide)), if_neg (hword _ (by decide))]
    · exact fun ws h => hword ('-' :: ws) rfl h

theorem plain?_int (i : Int) : plain? (toString i).toList = some (.int i) := by
  have hdigits := digits_digits i.natAbs
  have hvalue := digitsValue_digits i.natAbs
  have hlead : (Decimal.digits i.natAbs).head? ≠ some '0' ∨ Decimal.digits i.natAbs = ['0'] := by
    by_cases hzero : i.natAbs = 0
    · exact Or.inr (by rw [hzero]; rfl)
    · exact Or.inl (Decimal.head?_digits hzero)
  have hform := isMagnitude_whole hdigits (Decimal.digits_ne_nil _) hlead [] (Or.inl rfl)
  rw [List.append_nil] at hform
  obtain ⟨c, cs, hcs⟩ := List.exists_cons_of_ne_nil (Decimal.digits_ne_nil i.natAbs)
  rw [toList_intText]
  rw [hcs] at hform hdigits hvalue ⊢
  rw [plain?_signText _ (hdigits c List.mem_cons_self) cs hform,
    if_pos (List.all_eq_true.mpr hdigits), hvalue]
  by_cases hneg : i < 0
  · rw [decide_eq_true hneg, if_pos rfl]
    exact congrArg (fun j => some (JsonValue.int j)) (by omega)
  · rw [decide_eq_false hneg, if_neg Bool.false_ne_true]
    exact congrArg (fun j => some (JsonValue.int j)) (by omega)

theorem plain?_real (d : Double) : plain? (d.format .json).toList = some (.real d) := by
  cases d with
  | nan => rfl
  | infinite negative => cases negative <;> rfl
  | finite negative mantissa exponent hc =>
    rw [Double.format]
    split_ifs with hm
    · have hexponent : exponent = 0 := by
        rcases hc.2.2 with h | h
        · exact h
        · exact absurd (hm ▸ h) (by decide)
      subst hm hexponent
      have hend : '0' :: DoubleFormat.json.wholeEnd.toList = ['0', '.', '0'] := rfl
      rw [String.toList_ofList, hend, plain?_signText negative rfl _ rfl]
      rfl
    · have hread := decimal?_layout (Double.shortest negative mantissa exponent)
      have hshortest := Double.toDouble_shortest negative hc hm
      generalize Double.shortest negative mantissa exponent = d at hread hshortest ⊢
      have hsome : d.coefficient ≠ 0 := by
        intro hzero
        rw [Decimal.toDouble, if_pos hzero] at hshortest
        exact hm (Double.finite.inj hshortest).2.1.symm
      have hdigits := digits_digits d.coefficient
      obtain ⟨hform, hpoint⟩ := isMagnitude_layout hdigits (Decimal.digits_ne_nil _)
        (Decimal.head?_digits hsome) (d.exponent + (Decimal.digits d.coefficient).length)
      obtain ⟨c, cs, hbody, hdigit⟩ := DoubleFormat.exists_head_layout .json
        (Decimal.digits_ne_nil d.coefficient) hdigits
        (d.exponent + (Decimal.digits d.coefficient).length)
      obtain ⟨d', hread, hsame⟩ := hread
      have hsame' : DoubleFormat.plain.layout = DoubleFormat.json.layout := rfl
      rw [hsame', hbody] at hread
      simp only [String.toList_ofList, hbody] at hform hpoint ⊢
      rw [plain?_signText negative hdigit cs hform, hpoint, if_neg Bool.false_ne_true, hread,
        Option.map_some, hsame, hshortest]

theorem isPlainChar_of_isNumberChar {c : Char} (h : isNumberChar c = true) :
    isPlainChar c = true := by
  rw [isNumberChar, Bool.or_eq_true] at h
  rcases h with h | h
  · simp [isPlainChar, Char.isAlphanum, h]
  · simp only [List.contains_iff_mem, List.mem_cons, List.not_mem_nil, or_false] at h
    rcases h with rfl | rfl | rfl | rfl | rfl | rfl | rfl | rfl <;> decide

theorem isPlainChar_of_mem_intText {i : Int} {c : Char} (h : c ∈ (toString i).toList) :
    isPlainChar c = true :=
  isPlainChar_of_isNumberChar (numberChars_intText i c h)

theorem isPlainChar_of_mem_realText {d : Double} {c : Char} (h : c ∈ (d.format .json).toList) :
    isPlainChar c = true := by
  cases d with
  | nan => exact List.all_eq_true.mp (rfl : (Double.nan.format .json).toList.all isPlainChar) c h
  | infinite negative =>
    have hall : ((Double.infinite negative).format .json).toList.all isPlainChar := by
      cases negative <;> rfl
    exact List.all_eq_true.mp hall c h
  | finite negative mantissa exponent hc =>
    -- the two forms differ in their words alone
    exact isPlainChar_of_isNumberChar
      (Double.numberChars_text (.finite negative mantissa exponent hc) c h)

end JsonValue

end PlotPage
