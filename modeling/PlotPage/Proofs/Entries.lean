import Mathlib.Data.List.Induction
import Mathlib.Data.List.Nodup

/-!
# Entries under keys

Entries are stored one after the other: a key that is there keeps its place and its value is changed,
and a new key comes last.  What results can be read off the whole list of changes at once: every key
once, in the order in which the keys first appeared, with the changes that were made under it
(`Entries.gather_eq`).
-/

namespace PlotPage.Entries

variable {β γ : Type}

/-- Changes the value under a key; a new key begins with `start`. -/
def update (start : β) (key : String) (change : β → β) : List (String × β) → List (String × β)
  | [] => [(key, change start)]
  | (k, v) :: rest =>
    if k = key then (k, change v) :: rest else (k, v) :: update start key change rest

/-- The entries after several changes, made one after the other. -/
def gather (start : β) (act : String → β → γ → β) (xs : List (String × γ)) : List (String × β) :=
  xs.foldl (fun es x => update start x.1 (fun b => act x.1 b x.2) es) []

/-- What stands under a key, in order. -/
def under (key : String) (xs : List (String × γ)) : List γ :=
  (xs.filter fun x => x.1 = key).map Prod.snd

/-- Every key once, in the order of first appearance, with what stands under it. -/
def grouped (xs : List (String × γ)) : List (String × List γ) :=
  (xs.map Prod.fst).eraseDups.map fun k => (k, under k xs)

theorem nodup_eraseDups (keys : List String) : keys.eraseDups.Nodup := by
  induction hn : keys.length using Nat.strongRecOn generalizing keys with
  | ind n ih =>
    cases keys with
    | nil => exact List.nodup_nil
    | cons key rest =>
      have hlt : (rest.filter fun k => !k == key).length < n := by
        have hle := List.length_filter_le (fun k => !k == key) rest
        rw [← hn, List.length_cons]
        omega
      rw [List.eraseDups_cons, List.nodup_cons]
      refine ⟨?_, ih _ hlt _ rfl⟩
      intro hmem
      have hkey := (List.mem_filter.mp (List.mem_eraseDups.mp hmem)).2
      simp at hkey

theorem under_snoc (key : String) (xs : List (String × γ)) (x : String × γ) :
    under key (xs ++ [x]) = under key xs ++ if x.1 = key then [x.2] else [] := by
  rw [under, under, List.filter_append, List.map_append]
  by_cases hx : x.1 = key
  · rw [if_pos hx, List.filter_cons_of_pos (by simpa using hx)]
    rfl
  · rw [if_neg hx, List.filter_cons_of_neg (by simpa using hx)]
    rfl

theorem under_eq_nil {key : String} {xs : List (String × γ)} (h : key ∉ xs.map Prod.fst) :
    under key xs = [] := by
  rw [under, List.map_eq_nil_iff, List.filter_eq_nil_iff]
  intro x hx hkey
  exact h (List.mem_map.mpr ⟨x, hx, of_decide_eq_true hkey⟩)

theorem eraseDups_snoc (keys : List String) (key : String) :
    (keys ++ [key]).eraseDups = keys.eraseDups ++ if key ∈ keys then [] else [key] := by
  rw [List.eraseDups_append]
  by_cases hkey : key ∈ keys
  · rw [if_pos hkey]
    simp [List.removeAll, hkey]
  · rw [if_neg hkey]
    simp [List.removeAll, hkey, List.eraseDups_cons]

/-- A key that is not there comes last. -/
theorem update_of_not_mem {start : β} {key : String} {change : β → β} {es : List (String × β)}
    (h : key ∉ es.map Prod.fst) : update start key change es = es ++ [(key, change start)] := by
  induction es with
  | nil => rfl
  | cons e rest ih =>
    rw [List.map_cons, List.mem_cons, not_or] at h
    rw [update, if_neg fun he => h.1 he.symm, ih h.2]
    rfl

/-- A key that is there keeps its place, and a new one comes last. -/
theorem keys_update (start : β) (key : String) (change : β → β) (es : List (String × β)) :
    (update start key change es).map Prod.fst =
      if key ∈ es.map Prod.fst then es.map Prod.fst else es.map Prod.fst ++ [key] := by
  induction es with
  | nil => rfl
  | cons e rest ih =>
    rw [update]
    by_cases he : e.1 = key
    · rw [if_pos he]
      simp [he]
    · have hne : ¬ key = e.1 := fun h => he h.symm
      rw [if_neg he, List.map_cons, ih]
      by_cases hm : key ∈ rest.map Prod.fst
      · rw [if_pos hm, if_pos (by simp [hm])]
        rfl
      · rw [if_neg hm, if_neg (by simp only [List.map_cons, List.mem_cons]; tauto)]
        rfl

/-- An entry is the new one or was there before. -/
theorem mem_update {start v : β} {key : String} {es : List (String × β)} {e : String × β}
    (h : e ∈ update start key (fun _ => v) es) : e = (key, v) ∨ e ∈ es := by
  induction es with
  | nil => exact Or.inl (List.mem_singleton.mp h)
  | cons f rest ih =>
    rw [update] at h
    split at h
    · next hf =>
      rcases List.mem_cons.mp h with rfl | h
      · exact Or.inl (by rw [hf])
      · exact Or.inr (List.mem_cons_of_mem f h)
    · rcases List.mem_cons.mp h with rfl | h
      · exact Or.inr List.mem_cons_self
      · exact (ih h).imp_right (List.mem_cons_of_mem f)

/-- A new key may as well be entered first. -/
theorem update_snoc_start {start : β} {key : String} {change : β → β} {es : List (String × β)}
    (h : key ∉ es.map Prod.fst) :
    update start key change (es ++ [(key, start)]) = update start key change es := by
  induction es with
  | nil =>
    rw [List.nil_append, update, update, if_pos rfl]
  | cons e rest ih =>
    rw [List.map_cons, List.mem_cons, not_or] at h
    have hne : e.1 ≠ key := fun he => h.1 he.symm
    rw [List.cons_append, update, update, if_neg hne, if_neg hne, ih h.2]

/-- A key that is there is changed in its place. -/
theorem update_map {α : Type} {start : β} {key : String} {change : β → β} (name : α → String)
    (value : α → β) {as : List α} {a : α} (hnodup : (as.map name).Nodup) (ha : a ∈ as)
    (hkey : name a = key) : update start key change (as.map fun x => (name x, value x)) =
      as.map fun x => (name x, if name x = key then change (value x) else value x) := by
  induction as with
  | nil => exact absurd ha List.not_mem_nil
  | cons x rest ih =>
    rw [List.map_cons, List.nodup_cons] at hnodup
    rw [List.map_cons, List.map_cons, update]
    by_cases hx : name x = key
    · have hrest : ∀ y ∈ rest, name y ≠ key := by
        intro y hy hname
        exact hnodup.1 (List.mem_map.mpr ⟨y, hy, by rw [hname, hx]⟩)
      rw [if_pos hx, if_pos hx]
      congr 1
      apply List.map_congr_left
      intro y hy
      rw [if_neg (hrest y hy)]
    · have hmem : a ∈ rest := by
        rcases List.mem_cons.mp ha with rfl | hmem
        · exact absurd hkey hx
        · exact hmem
      rw [if_neg hx, if_neg hx, ih hnodup.2 hmem]

/-- **What results from changes under keys.** -/
theorem gather_eq (start : β) (act : String → β → γ → β) (xs : List (String × γ)) :
    gather start act xs = (grouped xs).map fun g => (g.1, g.2.foldl (act g.1) start) := by
  induction xs using List.reverseRecOn with
  | nil => rfl
  | append_singleton xs x ih =>
    have hgather : gather start act (xs ++ [x]) =
        update start x.1 (fun b => act x.1 b x.2) (gather start act xs) := by
      rw [gather, List.foldl_append]
      rfl
    have hgrouped : (grouped xs).map (fun g => (g.1, g.2.foldl (act g.1) start)) =
        (xs.map Prod.fst).eraseDups.map fun k => (k, (under k xs).foldl (act k) start) := by
      rw [grouped, List.map_map]
      rfl
    rw [hgather, ih, hgrouped, grouped, List.map_map, List.map_append, List.map_singleton,
      eraseDups_snoc]
    by_cases hx : x.1 ∈ xs.map Prod.fst
    · have hnodup : ((xs.map Prod.fst).eraseDups.map id).Nodup := by
        rw [List.map_id]
        exact nodup_eraseDups _
      rw [if_pos hx, List.append_nil]
      refine (update_map id (fun k => (under k xs).foldl (act k) start) hnodup
        (List.mem_eraseDups.mpr hx) rfl).trans ?_
      apply List.map_congr_left
      intro k _
      rw [Function.comp, under_snoc]
      by_cases hk : x.1 = k
      · rw [if_pos hk, List.foldl_append, ← hk]
        exact congrArg _ (if_pos rfl)
      · rw [if_neg hk, List.append_nil]
        exact congrArg _ (if_neg fun h => hk h.symm)
    · have hkeys : x.1 ∉ ((xs.map Prod.fst).eraseDups.map fun k =>
          (k, (under k xs).foldl (act k) start)).map Prod.fst := by
        rw [List.map_map]
        intro hmem
        obtain ⟨k, hk, rfl⟩ := List.mem_map.mp hmem
        exact hx (List.mem_eraseDups.mp hk)
      rw [if_neg hx, update_of_not_mem hkeys, List.map_append, List.map_singleton]
      congr 1
      · apply List.map_congr_left
        intro k hk
        have hne : x.1 ≠ k := by
          rintro rfl
          exact hx (List.mem_eraseDups.mp hk)
        rw [Function.comp, under_snoc, if_neg hne, List.append_nil]
      · rw [Function.comp, under_snoc, if_pos rfl, under_eq_nil hx]
        rfl

end PlotPage.Entries
