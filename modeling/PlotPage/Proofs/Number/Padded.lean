import Mathlib.Data.List.Forall2
import PlotPage.Calendar
import PlotPage.Proofs.Number.Numeral

/-!
# Numbers of a fixed width

A number that is padded with zeros has as many digits as its width (`toList_paddedNumber`), and of
two such numbers the smaller one comes first in the order of texts (`lastDigits_lt`).  So a row of
numbers, each of its own width, is ordered as a text in the same way as it is as a list
(`layout_lt`).
-/

namespace PlotPage

/-- The last digits of a number, as many as the width says. -/
def lastDigits : (width : Nat) → (n : Nat) → List Char
  | 0, _ => []
  | width + 1, n => lastDigits width (n / 10) ++ [Nat.digitChar (n % 10)]

@[simp] theorem length_lastDigits (width n : Nat) : (lastDigits width n).length = width := by
  induction width generalizing n with
  | zero => rfl
  | succ width ih => rw [lastDigits, List.length_append, ih, List.length_singleton]

theorem isDigit_of_mem_lastDigits {width n : Nat} {c : Char} (h : c ∈ lastDigits width n) :
    c.isDigit = true := by
  induction width generalizing n with
  | zero => exact absurd h List.not_mem_nil
  | succ width ih =>
    rw [lastDigits, List.mem_append, List.mem_singleton] at h
    rcases h with h | rfl
    · exact ih h
    · rw [Nat.isDigit_digitChar]
      exact decide_eq_true (Nat.mod_lt n (by decide))

/-- Some of the digits are those of a number from which the others have been cut. -/
theorem lastDigits_add (width more n : Nat) :
    lastDigits (width + more) n = lastDigits width (n / 10 ^ more) ++ lastDigits more n := by
  induction more generalizing n with
  | zero => rw [Nat.pow_zero, Nat.div_one, lastDigits, List.append_nil]; rfl
  | succ more ih =>
    show lastDigits (width + more) (n / 10) ++ [Nat.digitChar (n % 10)] = _
    rw [ih, lastDigits, Nat.div_div_eq_div_mul, ← Nat.pow_succ', List.append_assoc]

theorem toList_toString (n : Nat) : (toString n).toList = Decimal.digits n := by
  rw [Nat.toString_eq_repr, Nat.toList_repr]
  rfl

theorem toList_paddedNumber_eq (width n : Nat) : (paddedNumber width n).toList =
    List.replicate (width - (Decimal.digits n).length) '0' ++ Decimal.digits n := by
  rw [paddedNumber, String.toList_append, String.toList_ofList, toList_toString,
    ← String.length_toList, toList_toString]

/-- A number with enough digits is not padded. -/
theorem paddedNumber_of_le {width n : Nat} (hwidth : 0 < width) (h : 10 ^ width ≤ n) :
    paddedNumber (width + 1) n = toString n := by
  have hdigits : ¬(Decimal.digits n).length ≤ width := by
    rw [Decimal.digits, Nat.length_toDigits_le_iff (by decide) hwidth]
    exact Nat.not_lt.mpr h
  have hnone : width + 1 - (Decimal.digits n).length = 0 := by omega
  rw [← String.toList_inj, toList_paddedNumber_eq, hnone, toList_toString]
  rfl

/-- A number below a power of ten fills its width. -/
theorem toList_paddedNumber {width n : Nat} (h : n < 10 ^ (width + 1)) :
    (paddedNumber (width + 1) n).toList = lastDigits (width + 1) n := by
  rw [toList_paddedNumber_eq]
  induction width generalizing n with
  | zero =>
    have hn : n < 10 := h
    have hone : Decimal.digits n = [Nat.digitChar n] := Nat.toDigits_of_lt_base hn
    rw [hone, lastDigits, Nat.mod_eq_of_lt hn]
    rfl
  | succ width ih =>
    rw [lastDigits, ← ih (by omega)]
    by_cases hn : n < 10
    · have hone : Decimal.digits n = [Nat.digitChar n] := Nat.toDigits_of_lt_base hn
      have hzero : Decimal.digits (n / 10) = ['0'] := by
        rw [Nat.div_eq_of_lt hn]
        rfl
      rw [hone, hzero, Nat.mod_eq_of_lt hn]
      show List.replicate (width + 1) '0' ++ _ = List.replicate width '0' ++ ['0'] ++ _
      rw [List.replicate_succ']
    · have hmore : Decimal.digits n = Decimal.digits (n / 10) ++ [Nat.digitChar (n % 10)] :=
        Nat.toDigits_of_base_le (by decide) (Nat.le_of_not_lt hn)
      rw [hmore, List.length_append, List.length_singleton, Nat.add_sub_add_right,
        List.append_assoc]

/-! ### The order of texts -/

theorem digitChar_lt {a b : Nat} (h : a < b) (hb : b < 10) : Nat.digitChar a < Nat.digitChar b := by
  have hall : ∀ b < 10, ∀ a < b, Nat.digitChar a < Nat.digitChar b := by decide
  exact hall b hb a h

/-- What follows does not matter when texts of one length differ. -/
theorem append_lt_append {s t : List Char} (h : s < t) (hlength : s.length = t.length)
    (u v : List Char) : s ++ u < t ++ v := by
  induction s generalizing t with
  | nil =>
    rw [List.length_eq_zero_iff.mp hlength.symm] at h
    exact absurd h (List.lt_irrefl [])
  | cons a s ih =>
    cases t with
    | nil => cases hlength
    | cons b t =>
      rw [List.cons_append, List.cons_append, List.cons_lt_cons_iff]
      rcases List.cons_lt_cons_iff.mp h with hlt | ⟨hsame, hlt⟩
      · exact Or.inl hlt
      · exact Or.inr ⟨hsame, ih hlt (Nat.succ.inj hlength)⟩

/-- The smaller number comes first. -/
theorem lastDigits_lt {width a b : Nat} (h : a < b) (hb : b < 10 ^ width) :
    lastDigits width a < lastDigits width b := by
  induction width generalizing a b with
  | zero => omega
  | succ width ih =>
    rw [lastDigits, lastDigits]
    by_cases hdiv : a / 10 < b / 10
    · exact append_lt_append (ih hdiv (by omega)) (by simp) _ _
    · have hsame : a / 10 = b / 10 := by omega
      have hlast : Nat.digitChar (a % 10) < Nat.digitChar (b % 10) :=
        digitChar_lt (by omega) (Nat.mod_lt b (by decide))
      rw [hsame]
      exact List.append_left_lt (List.cons_lt_cons_iff.mpr (Or.inl hlast))

/-- A row of numbers, each with its width and with what stands behind it. -/
def layout : List (Nat × List Char) → List Nat → List Char
  | (width, sep) :: columns, n :: ns => lastDigits width n ++ (sep ++ layout columns ns)
  | _, _ => []

/-- The numbers of a row fit their widths. -/
def Fits (columns : List (Nat × List Char)) (ns : List Nat) : Prop :=
  List.Forall₂ (fun column n => n < 10 ^ column.1) columns ns

theorem length_layout {columns : List (Nat × List Char)} {ns : List Nat} (h : Fits columns ns) :
    (layout columns ns).length = (columns.map fun column => column.1 + column.2.length).sum := by
  induction h with
  | nil => rfl
  | cons _ _ ih =>
    rw [layout, List.length_append, List.length_append, length_lastDigits, ih, List.map_cons,
      List.sum_cons, Nat.add_assoc]

/-- **Rows of the same widths have the order of their numbers.** -/
theorem layout_lt {columns : List (Nat × List Char)} {ns ms : List Nat} (h : ns < ms)
    (hns : Fits columns ns) (hms : Fits columns ms) : layout columns ns < layout columns ms := by
  induction hns generalizing ms with
  | nil =>
    cases hms
    exact absurd h (List.lt_irrefl [])
  | cons _ _ ih =>
    cases hms with
    | cons hm hms =>
    rw [layout, layout]
    rcases List.cons_lt_cons_iff.mp h with hlt | ⟨rfl, hlt⟩
    · exact append_lt_append (lastDigits_lt hlt hm) (by simp) _ _
    · exact List.append_left_lt (List.append_left_lt (ih hlt hms))

end PlotPage
