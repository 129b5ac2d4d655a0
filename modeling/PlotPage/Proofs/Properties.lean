import Mathlib.Data.List.Basic
import Mathlib.Data.List.Nodup
import PlotPage.Axis
import PlotPage.Proofs.Entries
import PlotPage.Proofs.Text.SingleLine

/-!
# Well-formed properties

A store of properties has distinct keys, each key is a single line that is not blank, and each value
is a single line.  Every change that the store accepts keeps it so (`Properties.WellFormed.run`),
and each of its commands is then one line that begins with `set `.
-/

namespace PlotPage

open Line

/-- A line that gives a command: it begins with the word of the command. -/
def Line.Begins (word line : String) : Prop := word.toList <+: line.toList

theorem Line.begins_append (word rest : String) : Begins word (word ++ rest) := by
  rw [Begins, String.toList_append]
  exact List.prefix_append _ _

namespace Properties

/-! ### Entries -/

theorem insertEntry_eq_update (key value : String) (es : List (String × String)) :
    insertEntry key value es = Entries.update "" key (fun _ => value) es := by
  induction es with
  | nil => rfl
  | cons e rest ih =>
    rw [insertEntry, Entries.update, ih]
    by_cases hkey : e.1 = key
    · rw [if_pos hkey, if_pos hkey, hkey]
    · rw [if_neg hkey, if_neg hkey]

theorem mem_insertEntry {key value : String} {e : String × String} {es : List (String × String)}
    (h : e ∈ insertEntry key value es) : e = (key, value) ∨ e ∈ es := by
  rw [insertEntry_eq_update] at h
  exact Entries.mem_update h

/-- A key that is there keeps its place, and a new one comes last. -/
theorem keys_insertEntry (key value : String) (es : List (String × String)) :
    (insertEntry key value es).map Prod.fst =
      if key ∈ es.map Prod.fst then es.map Prod.fst else es.map Prod.fst ++ [key] := by
  rw [insertEntry_eq_update]
  exact Entries.keys_update "" key (fun _ => value) es

/-! ### Well-formed stores -/

/-- Distinct keys on single lines that are not blank, and values on single lines. -/
structure WellFormed (p : Properties) : Prop where
  nodup : p.keys.Nodup
  key_not_blank : ∀ e ∈ p.entries, Text.isBlankText e.1 = false
  key_single : ∀ e ∈ p.entries, isSingle e.1 = true
  value_single : ∀ e ∈ p.entries, isSingle e.2 = true

theorem wellFormed_empty : empty.WellFormed where
  nodup := List.nodup_nil
  key_not_blank _ h := absurd h List.not_mem_nil
  key_single _ h := absurd h List.not_mem_nil
  value_single _ h := absurd h List.not_mem_nil

theorem WellFormed.insert {p : Properties} (h : p.WellFormed) {key value : String}
    (hb : Text.isBlankText key = false) (hk : isSingle key = true) (hv : isSingle value = true) :
    (p.insert key value).WellFormed where
  nodup := by
    rw [keys, Properties.insert, keys_insertEntry]
    split
    · exact h.nodup
    · rename_i hm
      exact List.nodup_append.mpr ⟨h.nodup, List.nodup_singleton key, by
        intro a ha b hb' hab
        rw [List.mem_singleton] at hb'
        exact hm (hb' ▸ hab ▸ ha)⟩
  key_not_blank e he := by
    rcases mem_insertEntry he with rfl | he
    · exact hb
    · exact h.key_not_blank e he
  key_single e he := by
    rcases mem_insertEntry he with rfl | he
    · exact hk
    · exact h.key_single e he
  value_single e he := by
    rcases mem_insertEntry he with rfl | he
    · exact hv
    · exact h.value_single e he

theorem WellFormed.erase {p : Properties} (h : p.WellFormed) (key : String) :
    (p.erase key).WellFormed where
  nodup := h.nodup.sublist (List.filter_sublist.map Prod.fst)
  key_not_blank e he := h.key_not_blank e (List.mem_filter.mp he).1
  key_single e he := h.key_single e (List.mem_filter.mp he).1
  value_single e he := h.value_single e (List.mem_filter.mp he).1

/-- What a store that was changed was asked for, and what was found out about it. -/
theorem set_eq_ok_iff {p q : Properties} {key value : Value} :
    p.set key value = .ok q ↔ ∃ k v, key = .text k ∧ Text.isBlankText k = false ∧
      isSingle k = true ∧ value.plainOrEmpty = .ok v ∧ isSingle v = true ∧ p.insert k v = q := by
  unfold Properties.set
  simp only [bind_eq_ok_iff, check_eq_ok_iff, pure_eq_ok_iff, exists_const]
  constructor
  · rintro ⟨k, hk, hks, v, hv, hvs, rfl⟩
    obtain ⟨rfl, hb⟩ : key = .text k ∧ Text.isBlankText k = false := by
      unfold Properties.key at hk
      split at hk
      · split at hk
        · exact absurd hk (by simp)
        · rename_i hb
          obtain rfl := Except.ok.inj hk
          exact ⟨rfl, by simpa using hb⟩
      · exact absurd hk (by simp)
    exact ⟨k, v, rfl, hb, hks, hv, hvs, rfl⟩
  · rintro ⟨k, v, rfl, hb, hks, hv, hvs, rfl⟩
    exact ⟨k, by simp [Properties.key, hb], hks, v, hv, hvs, rfl⟩

theorem WellFormed.set {p q : Properties} (h : p.WellFormed) {key value : Value}
    (hs : p.set key value = .ok q) : q.WellFormed := by
  obtain ⟨k, v, -, hb, hk, -, hv, rfl⟩ := set_eq_ok_iff.mp hs
  exact h.insert hb hk hv

theorem WellFormed.unset {p q : Properties} (h : p.WellFormed) {key : Value}
    (hs : p.unset key = .ok q) : q.WellFormed := by
  unfold Properties.unset at hs
  simp only [bind_eq_ok_iff] at hs
  obtain ⟨k?, -, hk⟩ := hs
  cases k? with
  | none => obtain rfl := Except.ok.inj hk; exact h
  | some k => obtain rfl := Except.ok.inj hk; exact h.erase k

/-- Every step that a store accepts keeps it well-formed. -/
theorem WellFormed.run {p q : Properties} (h : p.WellFormed) {c : Properties.Command} {v : Value}
    (hr : p.run c = .ok (v, q)) : q.WellFormed := by
  cases c with
  | set key value =>
    simp only [Properties.run, bind_eq_ok_iff, pure_eq_ok_iff, Prod.mk.injEq] at hr
    obtain ⟨q', hs, -, rfl⟩ := hr
    exact h.set hs
  | unset key =>
    simp only [Properties.run, bind_eq_ok_iff, pure_eq_ok_iff, Prod.mk.injEq] at hr
    obtain ⟨q', hs, -, rfl⟩ := hr
    exact h.unset hs
  | get key default =>
    simp only [Properties.run, bind_eq_ok_iff, pure_eq_ok_iff, Prod.mk.injEq] at hr
    obtain ⟨_, -, -, rfl⟩ := hr
    exact h
  | contains key =>
    simp only [Properties.run, bind_eq_ok_iff, pure_eq_ok_iff, Prod.mk.injEq] at hr
    obtain ⟨_, -, -, rfl⟩ := hr
    exact h
  | clear => obtain ⟨-, rfl⟩ := Prod.mk.inj (Except.ok.inj hr); exact wellFormed_empty
  | keys => obtain ⟨-, rfl⟩ := Prod.mk.inj (Except.ok.inj hr); exact h
  | items => obtain ⟨-, rfl⟩ := Prod.mk.inj (Except.ok.inj hr); exact h
  | size => obtain ⟨-, rfl⟩ := Prod.mk.inj (Except.ok.inj hr); exact h
  | lines => obtain ⟨-, rfl⟩ := Prod.mk.inj (Except.ok.inj hr); exact h

/-! ### Lines -/

theorem begins_line (e : String × String) : Begins "set " (line e) := by
  unfold line
  split
  · exact begins_append _ _
  · rw [String.append_assoc, String.append_assoc]
    exact begins_append _ _

theorem begins_of_mem_lines {p : Properties} {l : String} (h : l ∈ p.lines) : Begins "set " l := by
  obtain ⟨e, -, rfl⟩ := List.mem_map.mp h
  exact begins_line e

theorem WellFormed.isSingle_lines {p : Properties} (h : p.WellFormed) {l : String}
    (hl : l ∈ p.lines) : isSingle l = true := by
  obtain ⟨e, he, rfl⟩ := List.mem_map.mp hl
  have hk := h.key_single e he
  have hv := h.value_single e he
  unfold line
  split <;> simp only [isSingle_append, hk, hv] <;> decide

end Properties

/-! ### Axes -/

namespace Axis

/-- A name that is a word on a single line, and well-formed properties. -/
structure WellFormed (a : Axis) : Prop where
  name_word : isWord a.name = true
  name_single : isSingle a.name = true
  properties : a.properties.WellFormed

theorem wellFormed_of_ofName {name : Value} {a : Axis} (h : ofName name = .ok a) :
    a.WellFormed ∧ name = .text a.name ∧ a.properties = .empty := by
  unfold ofName at h
  split at h
  · split at h
    · rename_i hw
      simp only [bind_eq_ok_iff, check_eq_ok_iff, pure_eq_ok_iff, exists_const] at h
      obtain ⟨hs, rfl⟩ := h
      exact ⟨⟨hw, hs, Properties.wellFormed_empty⟩, rfl, rfl⟩
    · exact absurd h (by simp)
  · exact absurd h (by simp)

theorem wellFormed_default : (default : Axis).WellFormed :=
  ⟨by decide, by decide, Properties.wellFormed_empty⟩

theorem WellFormed.withProperties {a : Axis} (h : a.WellFormed) {p : Properties}
    (hp : p.WellFormed) : (a.withProperties p).WellFormed :=
  ⟨h.name_word, h.name_single, hp⟩

theorem WellFormed.set {a b : Axis} (h : a.WellFormed) {key : String} {value : Value}
    (hs : a.set key value = .ok b) : b.WellFormed := by
  simp only [Axis.set, bind_eq_ok_iff, pure_eq_ok_iff] at hs
  obtain ⟨p, hp, rfl⟩ := hs
  exact h.withProperties (h.properties.set hp)

/-- Every step that an axis accepts keeps it well-formed. -/
theorem WellFormed.run {a b : Axis} (h : a.WellFormed) {c : Axis.Command} {v : Value}
    (hr : a.run c = .ok (v, b)) : b.WellFormed := by
  cases c with
  | properties c =>
    simp only [Axis.run, bind_eq_ok_iff, pure_eq_ok_iff, Prod.mk.injEq, Prod.exists] at hr
    obtain ⟨_, p, hp, -, rfl⟩ := hr
    exact h.withProperties (h.properties.run hp)
  | name => obtain ⟨-, rfl⟩ := Prod.mk.inj (Except.ok.inj hr); exact h
  | describe => obtain ⟨-, rfl⟩ := Prod.mk.inj (Except.ok.inj hr); exact h
  | setLabel text =>
    simp only [Axis.run, setLabel, bind_eq_ok_iff, pure_eq_ok_iff, Prod.mk.injEq] at hr
    obtain ⟨_, ⟨-, -, _, -, hs⟩, -, rfl⟩ := hr
    exact h.set hs
  | setBoundaries low high =>
    simp only [Axis.run, setBoundaries, bind_eq_ok_iff, pure_eq_ok_iff, Prod.mk.injEq] at hr
    obtain ⟨_, ⟨_, -, _, -, hs⟩, -, rfl⟩ := hr
    exact h.set hs
  | setLogScale enabled =>
    simp only [Axis.run, setLogScale, bind_eq_ok_iff, pure_eq_ok_iff, Prod.mk.injEq] at hr
    obtain ⟨_, hs, -, rfl⟩ := hr
    split at hs
    · exact h.set hs
    · obtain rfl := Except.ok.inj hs
      exact h.withProperties (h.properties.erase _)
  | setTics spec =>
    simp only [Axis.run, setTics, bind_eq_ok_iff, pure_eq_ok_iff, Prod.mk.injEq] at hr
    obtain ⟨_, hs, -, rfl⟩ := hr
    exact h.set hs

end Axis

end PlotPage
