import PlotPage.Value.Basic

/-!
# Parts of values

A sequence of either kind holds items, and a mapping has fields.  A field is the first entry whose key
is the given text, and only a text is the same as a text (`Value.same_text`).  So what is stored under
another key, or taken out, leaves a field as it is.
-/

namespace PlotPage.Value

/-- A sequence with the given items. -/
inductive Holds : Value → List Value → Prop
  | list (items : List Value) (mark : Option Nat) : Holds (.list items mark) items
  | tuple (items : List Value) (mark : Option Nat) : Holds (.tuple items mark) items

variable {key : Value} {name : String}

/-! ### Texts as keys -/

theorem sameLeaf_text : sameLeaf key (.text name) = true ↔ key = .text name := by
  have hnone : units? (.text name) = none := rfl
  unfold sameLeaf
  split <;> simp_all

/-- Only a text is the same as a text. -/
theorem same_text : same key (.text name) = true ↔ key = .text name := by
  cases key with
  | list | tuple | set | map => simp [same]
  | _ =>
    rw [same]
    · exact sameLeaf_text
    all_goals simp

theorem text_same : same (.text name) key = true ↔ key = .text name := by
  cases key with
  | text s =>
    rw [same, sameLeaf, beq_iff_eq, text.injEq]
    · exact eq_comm
    all_goals simp
  | _ =>
    rw [same, sameLeaf]
    · exact iff_of_false Bool.false_ne_true (by simp)
    all_goals simp

theorem same_text_eq_false (h : key ≠ .text name) : same key (.text name) = false :=
  Bool.eq_false_iff.mpr fun hsame => h (same_text.mp hsame)

/-! ### Reading a field -/

theorem field_nil (name : String) : field [] name = none := rfl

theorem field_cons_self (name : String) (v : Value) (rest : List (Value × Value)) :
    field ((.text name, v) :: rest) name = some v := by
  rw [field, lookup, List.find?_cons]
  dsimp only
  rw [same_text.mpr rfl, Option.map_some]

theorem field_cons_of_ne (h : key ≠ .text name) (v : Value) (rest : List (Value × Value)) :
    field ((key, v) :: rest) name = field rest name := by
  rw [field, field, lookup, lookup, List.find?_cons]
  dsimp only
  rw [same_text_eq_false h]

/-- Under a text stands the value of the first entry with this text. -/
theorem field_cons_text (key name : String) (v : Value) (rest : List (Value × Value)) :
    field ((.text key, v) :: rest) name = if key = name then some v else field rest name := by
  by_cases h : key = name
  · rw [if_pos h, h, field_cons_self]
  · rw [if_neg h, field_cons_of_ne fun heq => h (text.inj heq)]

/-! ### Changing entries -/

theorem field_insert_self (name : String) (v : Value) (es : List (Value × Value)) :
    field (insert es (.text name) v) name = some v := by
  induction es with
  | nil => exact field_cons_self name v []
  | cons e rest ih =>
    obtain ⟨k, w⟩ := e
    rw [insert]
    split
    · next hsame =>
      rw [same_text.mp hsame]
      exact field_cons_self name v rest
    · next hsame =>
      have hne : k ≠ .text name := fun heq => hsame (same_text.mpr heq)
      rw [field_cons_of_ne hne, ih]

theorem field_insert_of_ne (h : key ≠ .text name) (v : Value) (es : List (Value × Value)) :
    field (insert es key v) name = field es name := by
  induction es with
  | nil => exact field_cons_of_ne h v []
  | cons e rest ih =>
    obtain ⟨k, w⟩ := e
    rw [insert]
    split
    · next hsame =>
      -- an entry that takes the new value has the same key, so it is not the field either
      have hne : k ≠ .text name := by
        rintro rfl
        exact h (text_same.mp hsame)
      rw [field_cons_of_ne hne, field_cons_of_ne hne]
    · by_cases hk : k = .text name
      · subst hk
        rw [field_cons_self, field_cons_self]
      · rw [field_cons_of_ne hk, field_cons_of_ne hk, ih]

/-- The entries without those under a key. -/
def remove (entries : List (Value × Value)) (key : Value) : List (Value × Value) :=
  entries.filter fun e => !same e.1 key

theorem field_remove_of_ne (h : key ≠ .text name) (es : List (Value × Value)) :
    field (remove es key) name = field es name := by
  have hkept : (fun e : Value × Value => decide ((!same e.1 key) = true ∧
      same e.1 (.text name) = true)) = fun e => same e.1 (.text name) := by
    funext e
    rw [Bool.decide_and, Bool.decide_eq_true, Bool.decide_eq_true]
    by_cases he : e.1 = .text name
    · have hother : same (.text name) key = false :=
        Bool.eq_false_iff.mpr fun hsame => h (text_same.mp hsame)
      rw [he, hother]
      rfl
    · rw [same_text_eq_false he, Bool.and_false]
  rw [field, field, lookup, lookup, remove, List.find?_filter, hkept]

end PlotPage.Value
