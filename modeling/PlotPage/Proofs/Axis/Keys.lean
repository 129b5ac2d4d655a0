import PlotPage.Proofs.Properties

/-!
# Keys of axis settings

The setters of an axis make their keys from its name: a suffix comes after the name, and in one case
a word and a space come before it.  Names are words of any kind, so one name may well end in the
suffix of a setter.  No two keys are the same for all that (`Setter.key_eq_iff`): the suffixes end in
different letters, and no name holds the space.
-/

namespace PlotPage.Axis

/-- The setters of an axis. -/
inductive Setter where
  | label
  | range
  | logScale
  | tics
  deriving DecidableEq

namespace Setter

/-- The key that a setter writes. -/
def key (name : String) : Setter → String
  | label => labelKey name
  | range => rangeKey name
  | logScale => logScaleKey name
  | tics => ticsKey name

def all : List Setter := [label, range, logScale, tics]

theorem mem_all (s : Setter) : s ∈ all := by
  cases s <;> decide

/-- What comes after the name in a key. -/
def suffix : Setter → String
  | label => "label"
  | range => "range"
  | logScale => ""
  | tics => "tics"

theorem toList_key {s : Setter} (hs : s ≠ logScale) (name : String) :
    (s.key name).toList = name.toList ++ s.suffix.toList := by
  cases s with
  | logScale => exact absurd rfl hs
  | _ => exact String.toList_append

theorem toList_key_logScale (name : String) :
    (key name logScale).toList = "logscale ".toList ++ name.toList := String.toList_append

theorem not_mem_of_isWord {name : String} (h : isWord name = true) : ' ' ∉ name.toList := by
  rw [isWord, Bool.and_eq_true, List.all_eq_true] at h
  exact fun hmem => of_decide_eq_true (h.2 ' ' hmem) rfl

/-- Only the key of a logarithmic scale holds a space. -/
theorem space_mem_key {name : String} (h : isWord name = true) (s : Setter) :
    ' ' ∈ (s.key name).toList ↔ s = logScale := by
  by_cases hs : s = logScale
  · subst hs
    rw [toList_key_logScale]
    exact iff_of_true (List.mem_append_left _ (by decide)) rfl
  · have hsuffix : ' ' ∉ s.suffix.toList := by
      cases s <;> decide
    rw [toList_key hs, List.mem_append]
    exact iff_of_false (not_or.mpr ⟨not_mem_of_isWord h, hsuffix⟩) hs

/-- The suffixes end in different letters. -/
theorem eq_of_getLast? {s s' : Setter} (hs : s ≠ logScale) (hs' : s' ≠ logScale)
    (h : s.suffix.toList.getLast? = s'.suffix.toList.getLast?) : s = s' := by
  revert hs hs' h
  cases s <;> cases s' <;> decide

theorem getLast?_key {s : Setter} (hs : s ≠ logScale) (name : String) :
    (s.key name).toList.getLast? = s.suffix.toList.getLast? := by
  have hne : s.suffix.toList ≠ [] := by
    revert hs
    cases s <;> decide
  rw [toList_key hs, List.getLast?_append_of_ne_nil _ hne]

/-- **The keys of two axes are the same for the same setter and the same name only.** -/
theorem key_eq_iff {name name' : String} (h : isWord name = true) (h' : isWord name' = true)
    {s s' : Setter} : s.key name = s'.key name' ↔ s = s' ∧ name = name' := by
  constructor
  · intro heq
    have hlog : s = logScale ↔ s' = logScale := by
      rw [← space_mem_key h, heq, space_mem_key h']
    by_cases hs : s = logScale
    · obtain rfl := hlog.mp hs
      subst hs
      have hlist := congrArg String.toList heq
      rw [toList_key_logScale, toList_key_logScale] at hlist
      exact ⟨rfl, String.toList_inj.mp (List.append_cancel_left hlist)⟩
    · have hs' : s' ≠ logScale := fun h => hs (hlog.mpr h)
      obtain rfl : s = s' := by
        refine eq_of_getLast? hs hs' ?_
        rw [← getLast?_key hs name, heq, getLast?_key hs' name']
      have hlist := congrArg String.toList heq
      rw [toList_key hs, toList_key hs] at hlist
      exact ⟨rfl, String.toList_inj.mp (List.append_cancel_right hlist)⟩
  · rintro ⟨rfl, rfl⟩
    rfl

end Setter

/-- The setter that a step calls. -/
def Command.setter? : Command → Option Setter
  | .setLabel _ => some .label
  | .setBoundaries _ _ => some .range
  | .setLogScale _ => some .logScale
  | .setTics _ => some .tics
  | _ => none

/-- What an accepted step does to an axis: it works on the properties, writes the key of a setter,
switches a logarithmic scale off, or only reads. -/
theorem run_cases {a b : Axis} {c : Command} {answer : Value} (h : a.run c = .ok (answer, b)) :
    (∃ step p, c = .properties step ∧ a.properties.run step = .ok (answer, p) ∧
      b = a.withProperties p) ∨
    (∃ s value, c.setter? = some s ∧ a.set (s.key a.name) value = .ok b) ∨
    (c = .setLogScale false ∧
      b = a.withProperties (a.properties.erase (Setter.logScale.key a.name))) ∨
    ((c = .name ∨ c = .describe) ∧ b = a) := by
  cases c with
  | properties step =>
    simp only [Axis.run, bind_eq_ok_iff, pure_eq_ok_iff, Prod.mk.injEq, Prod.exists] at h
    obtain ⟨_, p, hp, rfl, rfl⟩ := h
    exact Or.inl ⟨step, p, rfl, hp, rfl⟩
  | name =>
    obtain ⟨-, rfl⟩ := Prod.mk.inj (Except.ok.inj h)
    exact Or.inr (Or.inr (Or.inr ⟨Or.inl rfl, rfl⟩))
  | describe =>
    obtain ⟨-, rfl⟩ := Prod.mk.inj (Except.ok.inj h)
    exact Or.inr (Or.inr (Or.inr ⟨Or.inr rfl, rfl⟩))
  | setLabel text =>
    simp only [Axis.run, setLabel, bind_eq_ok_iff, pure_eq_ok_iff, Prod.mk.injEq] at h
    obtain ⟨_, ⟨-, -, _, -, hs⟩, -, rfl⟩ := h
    exact Or.inr (Or.inl ⟨.label, _, rfl, hs⟩)
  | setBoundaries low high =>
    simp only [Axis.run, setBoundaries, bind_eq_ok_iff, pure_eq_ok_iff, Prod.mk.injEq] at h
    obtain ⟨_, ⟨_, -, _, -, hs⟩, -, rfl⟩ := h
    exact Or.inr (Or.inl ⟨.range, _, rfl, hs⟩)
  | setLogScale enabled =>
    simp only [Axis.run, bind_eq_ok_iff, pure_eq_ok_iff, Prod.mk.injEq] at h
    obtain ⟨_, hs, -, rfl⟩ := h
    cases enabled with
    | true => exact Or.inr (Or.inl ⟨.logScale, _, rfl, hs⟩)
    | false => exact Or.inr (Or.inr (Or.inl ⟨rfl, (Except.ok.inj hs).symm⟩))
  | setTics spec =>
    simp only [Axis.run, setTics, bind_eq_ok_iff, pure_eq_ok_iff, Prod.mk.injEq] at h
    obtain ⟨_, hs, -, rfl⟩ := h
    exact Or.inr (Or.inl ⟨.tics, _, rfl, hs⟩)

/-- A setting that is accepted is stored in the properties. -/
theorem set_eq_ok {a b : Axis} {key : String} {given : Value} (h : a.set key given = .ok b) :
    ∃ value, b = a.withProperties (a.properties.insert key value) := by
  simp only [Axis.set, bind_eq_ok_iff, pure_eq_ok_iff] at h
  obtain ⟨p, hp, rfl⟩ := h
  obtain ⟨k, value, hk, -, -, -, -, rfl⟩ := Properties.set_eq_ok_iff.mp hp
  rw [Value.text.inj hk]
  exact ⟨value, rfl⟩

/-- No step on an axis changes its name. -/
theorem name_of_run {a b : Axis} {c : Command} {answer : Value}
    (h : a.run c = .ok (answer, b)) : b.name = a.name := by
  rcases run_cases h with ⟨_, _, -, -, rfl⟩ | ⟨s, given, -, hset⟩ | ⟨-, rfl⟩ | ⟨-, rfl⟩
  · rfl
  · obtain ⟨value, rfl⟩ := set_eq_ok hset
    rfl
  · rfl
  · rfl

/-- An accepted setter writes its own key or removes it, and touches no other. -/
theorem written_of_run {a b : Axis} {c : Command} {answer : Value} {s : Setter}
    (h : a.run c = .ok (answer, b)) (hs : c.setter? = some s) :
    (∃ value, b.properties = a.properties.insert (s.key a.name) value) ∨
      b.properties = a.properties.erase (s.key a.name) := by
  rcases run_cases h with ⟨_, _, rfl, -, -⟩ | ⟨s', given, hs', hset⟩ | ⟨rfl, rfl⟩ | ⟨hreads, -⟩
  · cases hs
  · obtain rfl := Option.some.inj (hs'.symm.trans hs)
    obtain ⟨value, rfl⟩ := set_eq_ok hset
    exact Or.inl ⟨value, rfl⟩
  · obtain rfl := Option.some.inj hs
    exact Or.inr rfl
  · rcases hreads with rfl | rfl <;> cases hs

end PlotPage.Axis
