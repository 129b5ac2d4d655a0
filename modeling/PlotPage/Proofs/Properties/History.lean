import Mathlib.Data.List.Induction
import Mathlib.Data.Nat.Find
import PlotPage.Proofs.Properties

/-!
# Properties and their history

A store is what its history has made of it, and all that it holds can be read off the history alone.
A key is there if a set of it that succeeded comes after every removal of the key; its value is that
of the last such set; and the keys stand in the order in which they came in, which is the order of
the first sets after their last removals.  So a key that is set again keeps its place, and a key
that was removed in between goes last.

The calls of a history are named by their positions.  One step is described by what it sets and what
it drops (`mem_entries_after`, `keys_after`), and the run is an induction from the end of the
history, since the last call decides about the newest key.
-/

namespace PlotPage.Properties

/-! ### Histories -/

/-- The store after a call; a call that fails leaves no trace. -/
def after (p : Properties) (c : Command) : Properties :=
  match p.run c with
  | .ok (_, q) => q
  | .error _ => p

/-- The store after a history of calls. -/
def runAll (cs : List Command) : Properties := cs.foldl after empty

/-- A call sets a key to a text, and succeeds. -/
def Command.Sets (c : Command) (p : Properties) (key value : String) : Prop :=
  ∃ given q, c = .set (.text key) given ∧ given.plainOrEmpty = .ok value ∧
    p.set (.text key) given = .ok q

/-- A call removes a key, if it is there. -/
def Command.Drops (c : Command) (key : String) : Prop := c = .unset (.text key) ∨ c = .clear

/-- The call at a position sets a key to a text, and succeeds. -/
def SetAt (cs : List Command) (i : Nat) (key value : String) : Prop :=
  ∃ c, cs[i]? = some c ∧ c.Sets (runAll (cs.take i)) key value

/-- The call at a position removes a key. -/
def DroppedAt (cs : List Command) (i : Nat) (key : String) : Prop :=
  ∃ c, cs[i]? = some c ∧ c.Drops key

/-- A successful set that is later than every removal of its key. -/
def Stands (cs : List Command) (i : Nat) (key : String) : Prop :=
  (∃ value, SetAt cs i key value) ∧ ∀ j, DroppedAt cs j key → j < i

/-- The first of the sets after the last removal of the key. -/
def Entered (cs : List Command) (i : Nat) (key : String) : Prop :=
  Stands cs i key ∧ ∀ j, Stands cs j key → i ≤ j

/-- The last successful set of a key. -/
def LastSet (cs : List Command) (i : Nat) (key value : String) : Prop :=
  SetAt cs i key value ∧ ∀ j v, SetAt cs j key v → j ≤ i

/-- Entries that are what a history says. -/
structure Follows (cs : List Command) (entries : List (String × String)) : Prop where
  nodup : (entries.map Prod.fst).Nodup
  present : ∀ key, key ∈ entries.map Prod.fst ↔ ∃ i, Stands cs i key
  value : ∀ e ∈ entries, ∃ i, LastSet cs i e.1 e.2
  order : (entries.map Prod.fst).Pairwise fun k l =>
    ∃ i j, Entered cs i k ∧ Entered cs j l ∧ i < j

/-- Everything that a store answers agrees with its entries. -/
structure Reads (p : Properties) (entries : List (String × String)) : Prop where
  items : p.run .items = .ok (.list (entries.map fun e => .list [.text e.1, .text e.2]), p)
  keys : p.run .keys = .ok (.list (entries.map fun e => .text e.1), p)
  size : p.run .size = .ok (.int entries.length, p)
  lines : p.run .lines = .ok (.list (entries.map fun e => .text (line e)), p)
  contains : ∀ e ∈ entries, p.run (.contains (.text e.1)) = .ok (.bool true, p)
  contains_not : ∀ key, key.isKey → (∀ e ∈ entries, key ≠ .text e.1) →
    p.run (.contains key) = .ok (.bool false, p)
  get : ∀ e ∈ entries, ∀ default, p.run (.get (.text e.1) default) = .ok (.text e.2, p)
  get_not : ∀ key, key.isKey → (∀ e ∈ entries, key ≠ .text e.1) →
    ∀ default, p.run (.get key default) = .ok (default, p)

/-! ### One step -/

variable {p : Properties} {c : Command} {cs : List Command} {i j : Nat} {key value : String}

theorem Command.Sets.unique {k v : String} (h : c.Sets p key value) (h' : c.Sets p k v) :
    key = k ∧ value = v := by
  obtain ⟨given, _, rfl, hvalue, -⟩ := h
  obtain ⟨given', _, heq, hv, -⟩ := h'
  injection heq with hkey hgiven
  obtain rfl := hgiven
  exact ⟨Value.text.inj hkey, Except.ok.inj (hvalue.symm.trans hv)⟩

theorem Command.Sets.not_drops {k : String} (h : c.Sets p key value) : ¬ c.Drops k := by
  obtain ⟨given, _, rfl, -⟩ := h
  rintro (h | h) <;> cases h

/-- Only a text is looked for. -/
theorem unset_eq_ok {q : Properties} {k : Value} (h : p.unset k = .ok q) :
    (∃ k', k = .text k' ∧ q = p.erase k') ∨ (∀ k', k ≠ .text k') ∧ q = p := by
  simp only [unset, bind_eq_ok_iff] at h
  obtain ⟨looked, hlooked, hq⟩ := h
  unfold lookupKey? at hlooked
  split at hlooked
  · obtain rfl := Except.ok.inj hlooked
    exact Or.inl ⟨_, rfl, (Except.ok.inj hq).symm⟩
  · rename_i hne
    split at hlooked
    · obtain rfl := Except.ok.inj hlooked
      exact Or.inr ⟨hne, (Except.ok.inj hq).symm⟩
    · cases hlooked

/-- A call that only reads leaves the store as it is. -/
theorem run_reads {q : Properties} {v : Value} (hset : ∀ k v, c ≠ .set k v)
    (hunset : ∀ k, c ≠ .unset k) (hclear : c ≠ .clear) (h : p.run c = .ok (v, q)) : q = p := by
  cases c with
  | set k v => exact absurd rfl (hset k v)
  | unset k => exact absurd rfl (hunset k)
  | clear => exact absurd rfl hclear
  | get k default =>
    simp only [run, bind_eq_ok_iff, pure_eq_ok_iff, Prod.mk.injEq] at h
    obtain ⟨_, -, -, hq⟩ := h
    exact hq.symm
  | contains k =>
    simp only [run, bind_eq_ok_iff, pure_eq_ok_iff, Prod.mk.injEq] at h
    obtain ⟨_, -, -, hq⟩ := h
    exact hq.symm
  | keys => exact (Prod.mk.inj (Except.ok.inj h)).2.symm
  | items => exact (Prod.mk.inj (Except.ok.inj h)).2.symm
  | size => exact (Prod.mk.inj (Except.ok.inj h)).2.symm
  | lines => exact (Prod.mk.inj (Except.ok.inj h)).2.symm

/-- What a call does to a store: it sets a key, removes one, removes all, or changes nothing. -/
theorem after_cases (p : Properties) (c : Command) :
    (∃ k v, c.Sets p k v ∧ p.after c = p.insert k v) ∨
    (∃ k, c = .unset (.text k) ∧ p.after c = p.erase k) ∨
    (c = .clear ∧ p.after c = empty) ∨
    ((∀ k v, ¬ c.Sets p k v) ∧ (∀ k, ¬ c.Drops k) ∧ p.after c = p) := by
  have keep (h : ∀ v q, p.run c = .ok (v, q) → q = p) : p.after c = p := by
    unfold after
    split
    · rename_i hrun
      exact h _ _ hrun
    · rfl
  by_cases hset : ∃ k given, c = .set k given
  · obtain ⟨k, given, rfl⟩ := hset
    cases hset : p.set k given with
    | ok q =>
      obtain ⟨k', v, rfl, -, -, hv, -, hq⟩ := set_eq_ok_iff.mp hset
      refine Or.inl ⟨k', v, ⟨given, q, rfl, hv, hset⟩, ?_⟩
      rw [after, run, hset]
      exact hq.symm
    | error f =>
      refine Or.inr (Or.inr (Or.inr ⟨?_, ?_, keep ?_⟩))
      · rintro k' v ⟨given', q, heq, -, hok⟩
        injection heq with hk hgiven
        rw [← hk, ← hgiven, hset] at hok
        cases hok
      · rintro k' (h | h) <;> cases h
      · intro v q hrun
        rw [run, hset] at hrun
        cases hrun
  have not_sets : ∀ k v, ¬ c.Sets p k v := by
    rintro k v ⟨given, _, h, _⟩
    exact hset ⟨_, given, h⟩
  by_cases hunset : ∃ k, c = .unset k
  · obtain ⟨k, rfl⟩ := hunset
    by_cases htext : ∃ k', k = .text k'
    · obtain ⟨k', rfl⟩ := htext
      exact Or.inr (Or.inl ⟨k', rfl, rfl⟩)
    · refine Or.inr (Or.inr (Or.inr ⟨not_sets, ?_, keep ?_⟩))
      · rintro k' (h | h)
        · injection h with hk
          exact htext ⟨k', hk⟩
        · cases h
      · intro v q hrun
        simp only [run, bind_eq_ok_iff, pure_eq_ok_iff, Prod.mk.injEq] at hrun
        obtain ⟨_, hunset, -, rfl⟩ := hrun
        rcases unset_eq_ok hunset with ⟨k', hk, -⟩ | ⟨-, hq⟩
        · exact absurd ⟨k', hk⟩ htext
        · exact hq
  by_cases hclear : c = .clear
  · subst hclear
    exact Or.inr (Or.inr (Or.inl ⟨rfl, rfl⟩))
  · refine Or.inr (Or.inr (Or.inr ⟨not_sets, ?_, keep fun v q => ?_⟩))
    · rintro k (h | h)
      · exact hunset ⟨_, h⟩
      · exact hclear h
    · exact run_reads (fun k v h => hset ⟨k, v, h⟩) (fun k h => hunset ⟨k, h⟩) hclear

theorem WellFormed.after (h : p.WellFormed) (c : Command) : (p.after c).WellFormed := by
  unfold Properties.after
  split
  · rename_i hrun
    exact h.run hrun
  · exact h

theorem mem_insertEntry_iff {es : List (String × String)} (h : (es.map Prod.fst).Nodup)
    {e : String × String} :
    e ∈ insertEntry key value es ↔ e = (key, value) ∨ e.1 ≠ key ∧ e ∈ es := by
  induction es with
  | nil => simp [insertEntry]
  | cons f rest ih =>
    rw [List.map_cons, List.nodup_cons] at h
    rw [insertEntry]
    by_cases hf : f.1 = key
    · have hrest : e ∈ rest → e.1 ≠ key := fun he hkey =>
        h.1 (List.mem_map.mpr ⟨e, he, hkey.trans hf.symm⟩)
      rw [if_pos hf, List.mem_cons, List.mem_cons]
      constructor
      · rintro (he | he)
        · exact Or.inl he
        · exact Or.inr ⟨hrest he, Or.inr he⟩
      · rintro (he | ⟨hne, rfl | he⟩)
        · exact Or.inl he
        · exact absurd hf hne
        · exact Or.inr he
    · rw [if_neg hf, List.mem_cons, List.mem_cons, ih h.2]
      constructor
      · rintro (rfl | he | ⟨hne, he⟩)
        · exact Or.inr ⟨hf, Or.inl rfl⟩
        · exact Or.inl he
        · exact Or.inr ⟨hne, Or.inr he⟩
      · rintro (he | ⟨hne, he | he⟩)
        · exact Or.inr (Or.inl he)
        · exact Or.inl he
        · exact Or.inr (Or.inr ⟨hne, he⟩)

/-- The entries after a call: the one that was set, and the others that were not dropped. -/
theorem mem_entries_after (h : p.WellFormed) {e : String × String} :
    e ∈ (p.after c).entries ↔
      c.Sets p e.1 e.2 ∨ (∀ v, ¬ c.Sets p e.1 v) ∧ ¬ c.Drops e.1 ∧ e ∈ p.entries := by
  rcases after_cases p c with ⟨k, v, hsets, hafter⟩ | ⟨k, rfl, hafter⟩ | ⟨rfl, hafter⟩ |
    ⟨hsets, hdrops, hafter⟩
  · have heq : c.Sets p e.1 e.2 ↔ e = (k, v) := by
      constructor
      · intro he
        exact Prod.ext (he.unique hsets).1 (he.unique hsets).2
      · rintro rfl
        exact hsets
    have hne : (∀ w, ¬ c.Sets p e.1 w) ↔ e.1 ≠ k := by
      constructor
      · rintro hnot rfl
        exact hnot v hsets
      · exact fun hk w hw => hk (hw.unique hsets).1
    rw [hafter, heq, hne, insert, mem_insertEntry_iff h.nodup]
    simp only [hsets.not_drops, not_false_eq_true, true_and]
  · have hsets : ∀ v, ¬ Command.Sets (.unset (.text k)) p e.1 v := by
      rintro v ⟨_, _, h, _⟩
      cases h
    have hdrops : Command.Drops (.unset (.text k)) e.1 ↔ k = e.1 := by
      simp [Command.Drops]
    rw [hafter, hdrops, erase, List.mem_filter]
    simp only [hsets, not_false_eq_true, implies_true, false_or, true_and, decide_eq_true_eq]
    rw [and_comm, ne_comm]
  · have hdrops : Command.Drops .clear e.1 := Or.inr rfl
    have hsets : ∀ v, ¬ Command.Sets .clear p e.1 v := by
      rintro v ⟨_, _, h, _⟩
      cases h
    rw [hafter]
    simp [hdrops, hsets, empty]
  · rw [hafter]
    simp [hsets, hdrops]

theorem mem_keys : key ∈ p.keys ↔ ∃ v, (key, v) ∈ p.entries := by
  simp [keys]

theorem mem_keys_after (h : p.WellFormed) :
    key ∈ (p.after c).keys ↔ (∃ v, c.Sets p key v) ∨ ¬ c.Drops key ∧ key ∈ p.keys := by
  simp only [mem_keys, mem_entries_after h]
  constructor
  · rintro ⟨v, hsets | ⟨-, hdrops, hmem⟩⟩
    · exact Or.inl ⟨v, hsets⟩
    · exact Or.inr ⟨hdrops, v, hmem⟩
  · rintro (⟨v, hsets⟩ | ⟨hdrops, v, hmem⟩)
    · exact ⟨v, Or.inl hsets⟩
    · by_cases hsets : ∃ w, c.Sets p key w
      · obtain ⟨w, hw⟩ := hsets
        exact ⟨w, Or.inl hw⟩
      · exact ⟨v, Or.inr ⟨not_exists.mp hsets, hdrops, hmem⟩⟩

/-- The keys after a call: those that were not dropped keep their order, and a new one comes
last. -/
theorem keys_after (p : Properties) (c : Command) :
    ∃ old new, (p.after c).keys = old ++ new ∧ old.Sublist p.keys ∧
      (∀ k ∈ old, ¬ c.Drops k) ∧
      (new = [] ∨ ∃ k v, new = [k] ∧ k ∉ p.keys ∧ c.Sets p k v) := by
  rcases after_cases p c with ⟨k, v, hsets, hafter⟩ | ⟨k, rfl, hafter⟩ | ⟨rfl, hafter⟩ |
    ⟨hsets, hdrops, hafter⟩
  · have hkeys : (p.after c).keys = if k ∈ p.keys then p.keys else p.keys ++ [k] := by
      rw [hafter]
      exact keys_insertEntry k v p.entries
    by_cases hk : k ∈ p.keys
    · rw [if_pos hk] at hkeys
      exact ⟨p.keys, [], by rw [hkeys, List.append_nil], List.Sublist.refl _,
        fun _ _ => hsets.not_drops, Or.inl rfl⟩
    · rw [if_neg hk] at hkeys
      exact ⟨p.keys, [k], hkeys, List.Sublist.refl _, fun _ _ => hsets.not_drops,
        Or.inr ⟨k, v, rfl, hk, hsets⟩⟩
  · refine ⟨(p.erase k).keys, [], by rw [hafter, List.append_nil],
      List.filter_sublist.map Prod.fst, ?_, Or.inl rfl⟩
    intro k' hk'
    obtain ⟨e, he, rfl⟩ := List.mem_map.mp hk'
    have hne := of_decide_eq_true (List.mem_filter.mp he).2
    rintro (hdrops | hdrops)
    · injection hdrops with hkey
      exact hne (Value.text.inj hkey).symm
    · cases hdrops
  · exact ⟨[], [], by rw [hafter]; rfl, List.nil_sublist _, fun _ hk => absurd hk List.not_mem_nil,
      Or.inl rfl⟩
  · exact ⟨p.keys, [], by rw [hafter, List.append_nil], List.Sublist.refl _, fun k _ => hdrops k,
      Or.inl rfl⟩

/-! ### One more call in a history -/

theorem runAll_snoc (cs : List Command) (c : Command) :
    runAll (cs ++ [c]) = (runAll cs).after c := by
  rw [runAll, List.foldl_append]
  rfl

/-- What holds of a call in a longer history held before, or it is the last call. -/
theorem exists_getElem?_snoc {P : Command → Properties → Prop} :
    (∃ d, (cs ++ [c])[i]? = some d ∧ P d (runAll ((cs ++ [c]).take i))) ↔
      (∃ d, cs[i]? = some d ∧ P d (runAll (cs.take i))) ∨ i = cs.length ∧ P c (runAll cs) := by
  rcases Nat.lt_trichotomy i cs.length with hi | rfl | hi
  · rw [List.getElem?_append_left hi, List.take_append_of_le_length (Nat.le_of_lt hi)]
    simp [Nat.ne_of_lt hi]
  · rw [List.getElem?_concat_length, List.take_left]
    simp
  · rw [List.getElem?_eq_none (by rw [List.length_append]; exact hi),
      List.getElem?_eq_none (Nat.le_of_lt hi)]
    simp [Nat.ne_of_gt hi]

theorem setAt_snoc :
    SetAt (cs ++ [c]) i key value ↔
      SetAt cs i key value ∨ i = cs.length ∧ c.Sets (runAll cs) key value :=
  exists_getElem?_snoc (P := fun d p => d.Sets p key value)

theorem droppedAt_snoc :
    DroppedAt (cs ++ [c]) i key ↔ DroppedAt cs i key ∨ i = cs.length ∧ c.Drops key :=
  exists_getElem?_snoc (P := fun d _ => d.Drops key)

theorem SetAt.lt_length (h : SetAt cs i key value) : i < cs.length := by
  obtain ⟨_, hi, -⟩ := h
  exact (List.getElem?_eq_some_iff.mp hi).1

theorem DroppedAt.lt_length (h : DroppedAt cs i key) : i < cs.length := by
  obtain ⟨_, hi, -⟩ := h
  exact (List.getElem?_eq_some_iff.mp hi).1

theorem Stands.lt_length (h : Stands cs i key) : i < cs.length := by
  obtain ⟨⟨_, h⟩, -⟩ := h
  exact h.lt_length

/-- A set stands after one more call if it stood before and its key is not dropped, or if it is
that call. -/
theorem stands_snoc :
    Stands (cs ++ [c]) i key ↔ (¬ c.Drops key ∧ Stands cs i key) ∨
      i = cs.length ∧ ∃ v, c.Sets (runAll cs) key v := by
  constructor
  · rintro ⟨⟨v, hset⟩, hlate⟩
    rcases setAt_snoc.mp hset with hset | ⟨rfl, hsets⟩
    · have hdrops : ¬ c.Drops key := by
        intro hdrops
        have hlt := hlate cs.length (droppedAt_snoc.mpr (Or.inr ⟨rfl, hdrops⟩))
        have hi := hset.lt_length
        omega
      exact Or.inl ⟨hdrops, ⟨v, hset⟩, fun j hj => hlate j (droppedAt_snoc.mpr (Or.inl hj))⟩
    · exact Or.inr ⟨rfl, v, hsets⟩
  · rintro (⟨hdrops, ⟨v, hset⟩, hlate⟩ | ⟨rfl, v, hsets⟩)
    · refine ⟨⟨v, setAt_snoc.mpr (Or.inl hset)⟩, fun j hj => ?_⟩
      rcases droppedAt_snoc.mp hj with hj | ⟨-, hj⟩
      · exact hlate j hj
      · exact absurd hj hdrops
    · refine ⟨⟨v, setAt_snoc.mpr (Or.inr ⟨rfl, hsets⟩)⟩, fun j hj => ?_⟩
      rcases droppedAt_snoc.mp hj with hj | ⟨-, hj⟩
      · exact hj.lt_length
      · exact absurd hj hsets.not_drops

theorem Stands.exists_entered (h : Stands cs i key) : ∃ j, Entered cs j key := by
  classical
  have hex : ∃ j, Stands cs j key := ⟨i, h⟩
  exact ⟨Nat.find hex, Nat.find_spec hex, fun j hj => Nat.find_min' hex hj⟩

theorem Entered.unique (hi : Entered cs i key) (hj : Entered cs j key) : i = j :=
  Nat.le_antisymm (hi.2 j hj.1) (hj.2 i hi.1)

theorem SetAt.unique {v : String} (h : SetAt cs i key value) (h' : SetAt cs i key v) :
    value = v := by
  obtain ⟨c, hc, hsets⟩ := h
  obtain ⟨d, hd, hsets'⟩ := h'
  obtain rfl := Option.some.inj (hc.symm.trans hd)
  exact (hsets.unique hsets').2

theorem LastSet.unique {v : String} (h : LastSet cs i key value) (h' : LastSet cs j key v) :
    value = v := by
  obtain rfl := Nat.le_antisymm (h'.2 i value h.1) (h.2 j v h'.1)
  exact h.1.unique h'.1

/-- A key that is not dropped keeps the position at which it came in. -/
theorem Entered.snoc (h : Entered cs i key) (hdrops : ¬ c.Drops key) :
    Entered (cs ++ [c]) i key := by
  refine ⟨stands_snoc.mpr (Or.inl ⟨hdrops, h.1⟩), fun j hj => ?_⟩
  rcases stands_snoc.mp hj with ⟨-, hj⟩ | ⟨rfl, -⟩
  · exact h.2 j hj
  · exact Nat.le_of_lt h.1.lt_length

/-- A new key comes in with the call that sets it. -/
theorem entered_last (hsets : c.Sets (runAll cs) key value) (hnew : ∀ j, ¬ Stands cs j key) :
    Entered (cs ++ [c]) cs.length key := by
  refine ⟨stands_snoc.mpr (Or.inr ⟨rfl, value, hsets⟩), fun j hj => ?_⟩
  rcases stands_snoc.mp hj with ⟨-, hj⟩ | ⟨rfl, -⟩
  · exact absurd hj (hnew j)
  · exact Nat.le_refl _

theorem LastSet.snoc (h : LastSet cs i key value) (hsets : ∀ v, ¬ c.Sets (runAll cs) key v) :
    LastSet (cs ++ [c]) i key value := by
  refine ⟨setAt_snoc.mpr (Or.inl h.1), fun j v hj => ?_⟩
  rcases setAt_snoc.mp hj with hj | ⟨-, hj⟩
  · exact h.2 j v hj
  · exact absurd hj (hsets v)

theorem lastSet_last (hsets : c.Sets (runAll cs) key value) :
    LastSet (cs ++ [c]) cs.length key value := by
  refine ⟨setAt_snoc.mpr (Or.inr ⟨rfl, hsets⟩), fun j v hj => ?_⟩
  rcases setAt_snoc.mp hj with hj | ⟨rfl, -⟩
  · exact Nat.le_of_lt hj.lt_length
  · exact Nat.le_refl _

/-! ### Whole histories -/

theorem wellFormed_runAll (cs : List Command) : (runAll cs).WellFormed := by
  induction cs using List.reverseRecOn with
  | nil => exact wellFormed_empty
  | append_singleton cs c ih =>
    rw [runAll_snoc]
    exact ih.after c

theorem follows_nil : Follows [] empty.entries where
  nodup := List.nodup_nil
  present key := by
    constructor
    · intro h
      exact absurd h List.not_mem_nil
    · rintro ⟨i, hi⟩
      exact absurd hi.lt_length (Nat.not_lt_zero i)
  value e he := absurd he List.not_mem_nil
  order := List.Pairwise.nil

/-- One more call keeps a store in line with its history. -/
theorem Follows.snoc (h : Follows cs (runAll cs).entries) (c : Command) :
    Follows (cs ++ [c]) (runAll (cs ++ [c])).entries := by
  have hwf := wellFormed_runAll cs
  rw [runAll_snoc]
  refine ⟨(hwf.after c).nodup, fun key => ?_, fun e he => ?_, ?_⟩
  · refine (mem_keys_after hwf).trans ?_
    simp only [stands_snoc, exists_or, exists_and_left, exists_eq_left]
    rw [← h.present key]
    exact or_comm
  · rcases (mem_entries_after hwf).mp he with hsets | ⟨hsets, -, he⟩
    · exact ⟨cs.length, lastSet_last hsets⟩
    · obtain ⟨i, hi⟩ := h.value e he
      exact ⟨i, hi.snoc hsets⟩
  · obtain ⟨old, new, hkeys, hsub, hdrops, hnew⟩ := keys_after (runAll cs) c
    have hold : old.Pairwise fun k l =>
        ∃ i j, Entered (cs ++ [c]) i k ∧ Entered (cs ++ [c]) j l ∧ i < j := by
      refine (h.order.sublist hsub).imp_of_mem ?_
      rintro k l hk hl ⟨i, j, hi, hj, hij⟩
      exact ⟨i, j, hi.snoc (hdrops k hk), hj.snoc (hdrops l hl), hij⟩
    show ((runAll cs).after c).keys.Pairwise _
    rw [hkeys]
    rcases hnew with rfl | ⟨l, v, rfl, hl, hsets⟩
    · rw [List.append_nil]
      exact hold
    · have hlast : Entered (cs ++ [c]) cs.length l :=
        entered_last hsets fun j hj => hl ((h.present l).mpr ⟨j, hj⟩)
      refine List.pairwise_append.mpr ⟨hold, List.pairwise_singleton _ _, fun k hk l' hl' => ?_⟩
      obtain rfl := List.mem_singleton.mp hl'
      obtain ⟨j, hj⟩ := (h.present k).mp (hsub.subset hk)
      obtain ⟨i, hi⟩ := hj.exists_entered
      exact ⟨i, cs.length, hi.snoc (hdrops k hk), hlast, hi.1.lt_length⟩

theorem follows_runAll (cs : List Command) : Follows cs (runAll cs).entries := by
  induction cs using List.reverseRecOn with
  | nil => exact follows_nil
  | append_singleton cs c ih => exact ih.snoc c

theorem Follows.subset {es es' : List (String × String)} (h : Follows cs es)
    (h' : Follows cs es') : es ⊆ es' := by
  intro e he
  obtain ⟨i, hi⟩ := h.value e he
  have hkey := (h'.present e.1).mpr ((h.present e.1).mp (List.mem_map_of_mem he))
  obtain ⟨e', he', hkey⟩ := List.mem_map.mp hkey
  obtain ⟨j, hj⟩ := h'.value e' he'
  rw [hkey] at hj
  rwa [Prod.ext hkey (hj.unique hi)] at he'

/-- A history leaves no choice: it determines the entries with their order. -/
theorem Follows.unique {es es' : List (String × String)} (h : Follows cs es)
    (h' : Follows cs es') : es = es' := by
  have hperm : es.Perm es' := by
    refine (List.perm_ext_iff_of_nodup h.nodup.of_map h'.nodup.of_map).mpr fun e => ?_
    exact ⟨fun he => h.subset h' he, fun he => h'.subset h he⟩
  refine hperm.eq_of_pairwise ?_ (List.pairwise_map.mp h.order) (List.pairwise_map.mp h'.order)
  rintro e f - - ⟨i, j, hi, hj, hij⟩ ⟨j', i', hj', hi', hji⟩
  have hii := hi.unique hi'
  have hjj := hj.unique hj'
  omega

/-! ### What a store answers -/

theorem WellFormed.get?_eq_some (h : p.WellFormed) {e : String × String} (he : e ∈ p.entries) :
    p.get? e.1 = some e.2 := by
  cases hfound : p.entries.find? fun x => x.1 = e.1 with
  | none =>
    have hne := List.find?_eq_none.mp hfound e he
    simp at hne
  | some f =>
    have hkey : f.1 = e.1 := by simpa using List.find?_some hfound
    have hf := List.mem_of_find?_eq_some hfound
    rw [get?, hfound, List.inj_on_of_nodup_map h.nodup hf he hkey]
    rfl

theorem get?_eq_none (h : ∀ e ∈ p.entries, key ≠ e.1) : p.get? key = none := by
  rw [get?, List.find?_eq_none.mpr]
  · rfl
  · intro e he hkey
    exact h e he (of_decide_eq_true hkey).symm

theorem lookup_none {k : Value} (hk : k.isKey) (h : ∀ e ∈ p.entries, k ≠ .text e.1) :
    lookupKey? k = .ok none ∨ ∃ t, lookupKey? k = .ok (some t) ∧ p.get? t = none := by
  unfold lookupKey?
  split
  · rename_i t
    exact Or.inr ⟨t, rfl, get?_eq_none fun e he hkey => h e he (hkey ▸ rfl)⟩
  · rw [if_pos hk]
    exact Or.inl rfl

/-- The reads agree with each other. -/
theorem WellFormed.reads (h : p.WellFormed) : Reads p p.entries where
  items := rfl
  keys := by rw [Properties.run, Properties.keys, List.map_map]; rfl
  size := rfl
  lines := by rw [Properties.run, Properties.lines, List.map_map]; rfl
  contains e he := by
    rw [Properties.run, Properties.contains, lookupKey?, ok_bind]
    dsimp only
    rw [h.get?_eq_some he]
    rfl
  contains_not k hk hne := by
    rcases lookup_none hk hne with hlook | ⟨t, hlook, hget⟩
    · rw [Properties.run, Properties.contains, hlook]
      rfl
    · rw [Properties.run, Properties.contains, hlook, ok_bind]
      dsimp only
      rw [hget]
      rfl
  get e he default := by
    rw [Properties.run, getD, lookupKey?, ok_bind]
    dsimp only
    rw [h.get?_eq_some he]
    rfl
  get_not k hk hne default := by
    rcases lookup_none hk hne with hlook | ⟨t, hlook, hget⟩
    · rw [Properties.run, getD, hlook]
      rfl
    · rw [Properties.run, getD, hlook, ok_bind]
      dsimp only
      rw [hget]
      rfl

/-- **A store is an insertion-ordered map.**  After any history of calls, failed ones included, its
entries are those that the history says, all reads agree with them, and every key and every value
is fit for a command. -/
theorem runAll_insertion_ordered (cs : List Command) :
    Follows cs (runAll cs).entries ∧ Reads (runAll cs) (runAll cs).entries ∧
      (runAll cs).WellFormed :=
  ⟨follows_runAll cs, (wellFormed_runAll cs).reads, wellFormed_runAll cs⟩

/-- A key that is set again keeps its place, one that was removed in between goes last, and a call
that is refused leaves no trace. -/
example : (runAll [.set (.text "title") (.text "t"), .set (.text "grid") .null,
    .set (.text "key") (.text "left"), .set (.text "title") (.text "u"),
    .set (.text "grid") (.text "x\ny"), .unset (.text "grid"), .set (.text "grid") (.int 2)]).entries =
    [("title", "u"), ("key", "left"), ("grid", "2")] := by
  decide +kernel

end PlotPage.Properties
