import Mathlib.Data.List.Basic
import PlotPage.Plot.Table
import PlotPage.Proofs.Result

/-!
# Tables row by row

A table is read in one go: the shape is settled, the leaves are gone through in reading order, and
the numbers are cut into rows.  What comes out is what the rows of the nested sequence say one by
one (`Table.eq_rowsOf`): a row is a sequence of numbers, or a single number on its own.
-/

namespace PlotPage.Table

/-- The items of a row: those of a sequence, or the value itself. -/
def rowItems : Value → List Value
  | .list items _ => items
  | .tuple items _ => items
  | v => [v]

/-- The rows of a nested sequence. -/
def rowsOf (v : Value) : List (List Value) := (rowItems v).map rowItems

/-- The number that a leaf denotes, where it denotes one. -/
def number (v : Value) : Double := (leafDouble v).toOption.getD .nan

/-! ### Shapes -/

theorem haveShape_iff {s : List Nat} {vs : List Value} :
    haveShape s vs = true ↔ ∀ v ∈ vs, shape? v = some s := by
  induction vs with
  | nil => simp [haveShape]
  | cons v vs ih =>
    rw [haveShape, Bool.and_eq_true, beq_iff_eq, ih, List.forall_mem_cons]

/-- A sequence that is not empty has the shape of its items under its length. -/
theorem sharedShape?_eq_some {vs : List Value} {n : Nat} {s : List Nat} (hn : 1 ≤ n)
    (h : sharedShape? vs = some (n :: s)) : vs.length = n ∧ ∀ v ∈ vs, shape? v = some s := by
  cases vs with
  | nil =>
    have hzero : [0] = n :: s := Option.some.inj h
    have hhead := (List.cons.inj hzero).1
    omega
  | cons v vs =>
    rw [sharedShape?] at h
    cases hv : shape? v with
    | none =>
      rw [hv] at h
      exact absurd h (by simp)
    | some s' =>
      rw [hv] at h
      by_cases hall : haveShape s' vs = true
      · simp only [hall, if_true, Option.some.injEq, List.cons.injEq] at h
        obtain ⟨rfl, rfl⟩ := h
        refine ⟨rfl, ?_⟩
        rw [List.forall_mem_cons]
        exact ⟨hv, haveShape_iff.mp hall⟩
      · simp [hall] at h

theorem sharedShape?_ne_nil (vs : List Value) : sharedShape? vs ≠ some [] := by
  cases vs with
  | nil => simp [sharedShape?]
  | cons v vs =>
    rw [sharedShape?]
    split
    · simp
    · split <;> simp

/-- A value without a shape of its own is a leaf. -/
theorem leaf_of_shape {v : Value} (h : shape? v = some []) :
    rowItems v = [v] ∧ leaves v = [v] := by
  cases v with
  | list items mark =>
    rw [shape?] at h
    exact absurd h (sharedShape?_ne_nil items)
  | tuple items mark =>
    rw [shape?] at h
    exact absurd h (sharedShape?_ne_nil items)
  | _ => exact ⟨rfl, by simp [leaves]⟩

/-- A sequence holds its items, and its leaves are theirs. -/
theorem row_of_shape {v : Value} {n : Nat} {s : List Nat} (hn : 1 ≤ n)
    (h : shape? v = some (n :: s)) : (rowItems v).length = n ∧
      (∀ x ∈ rowItems v, shape? x = some s) ∧ leaves v = itemLeaves (rowItems v) := by
  cases v with
  | list items mark =>
    rw [shape?] at h
    obtain ⟨hlength, hitems⟩ := sharedShape?_eq_some hn h
    exact ⟨hlength, hitems, by rw [leaves, rowItems]⟩
  | tuple items mark =>
    rw [shape?] at h
    obtain ⟨hlength, hitems⟩ := sharedShape?_eq_some hn h
    exact ⟨hlength, hitems, by rw [leaves, rowItems]⟩
  | _ => exact absurd h (by simp [shape?])

theorem itemLeaves_eq (vs : List Value) : itemLeaves vs = vs.flatMap leaves := by
  induction vs with
  | nil => rw [itemLeaves, List.flatMap_nil]
  | cons v vs ih => rw [itemLeaves, ih, List.flatMap_cons]

/-- The leaves of a table are those of its rows, and all rows have the same length. -/
theorem leaves_eq_flatten {v : Value} {s : List Nat} {r c : Nat} (hs : shape? v = some s)
    (hd : dimensions s = .ok (r, c)) (hr : 1 ≤ r) (hc : 1 ≤ c) : (rowsOf v).length = r ∧
      (∀ row ∈ rowsOf v, row.length = c) ∧ leaves v = (rowsOf v).flatten := by
  have hrow : ∀ {t : List Nat} {k : Nat}, (∀ x, shape? x = some t → (rowItems x).length = k) →
      (∀ x, shape? x = some t → leaves x = rowItems x) → shape? v = some (r :: t) →
      (rowsOf v).length = r ∧ (∀ row ∈ rowsOf v, row.length = k) ∧
        leaves v = (rowsOf v).flatten := by
    intro t k hlength hleaves hv
    obtain ⟨hr', hitems, hv'⟩ := row_of_shape hr hv
    refine ⟨?_, ?_, ?_⟩
    · rw [rowsOf, List.length_map, hr']
    · intro row hrow
      obtain ⟨x, hx, rfl⟩ := List.mem_map.mp hrow
      exact hlength x (hitems x hx)
    · rw [hv', itemLeaves_eq, rowsOf, ← List.flatMap_def]
      exact List.flatMap_congr fun x hx => hleaves x (hitems x hx)
  unfold dimensions at hd
  split at hd
  · -- a flat sequence is a column of rows of one number
    rename_i n
    obtain ⟨rfl, rfl⟩ := Prod.mk.inj (Except.ok.inj hd)
    refine hrow ?_ ?_ hs
    · intro x hx
      rw [(leaf_of_shape hx).1, List.length_singleton]
    · intro x hx
      rw [(leaf_of_shape hx).1, (leaf_of_shape hx).2]
  · rename_i r' c'
    obtain ⟨rfl, rfl⟩ := Prod.mk.inj (Except.ok.inj hd)
    refine hrow ?_ ?_ hs
    · intro x hx
      exact (row_of_shape hc hx).1
    · intro x hx
      obtain ⟨-, hitems, hx'⟩ := row_of_shape hc hx
      have hleaf : (rowItems x).flatMap leaves = (rowItems x).flatMap fun y => [y] :=
        List.flatMap_congr fun y hy => (leaf_of_shape (hitems y hy)).2
      rw [hx', itemLeaves_eq, hleaf, List.flatMap_singleton']
  · exact absurd hd (by simp)

/-! ### Numbers -/

/-- Cutting the rows of a table one after the other gives them back. -/
theorem pieces_flatten {α β : Type} (f : α → β) {c : Nat} {rows : List (List α)}
    (h : ∀ row ∈ rows, row.length = c) :
    pieces c rows.length (rows.flatten.map f) = rows.map (List.map f) := by
  induction rows with
  | nil => rfl
  | cons row rows ih =>
    have hrow : (row.map f).length = c := by
      rw [List.length_map]
      exact h row List.mem_cons_self
    rw [List.length_cons, pieces, List.flatten_cons, List.map_append, List.take_left' hrow,
      List.drop_left' hrow, ih fun r hr => h r (List.mem_cons_of_mem row hr), List.map_cons]

/-- A table is read from a shape with a row and a column and from the numbers of all leaves. -/
theorem ofValue_eq_ok_iff {v : Value} {t : Table} : ofValue v = .ok t ↔ ∃ s r c ns,
    shape? v = some s ∧ s.length ≤ maxDepth ∧ dimensions s = .ok (r, c) ∧ 1 ≤ r ∧ 1 ≤ c ∧
      (leaves v).mapM leafDouble = .ok ns ∧ t = pieces c r ns := by
  have hnumbers : ∀ s ns, numbers v = .ok (s, ns) ↔
      shape? v = some s ∧ s.length ≤ maxDepth ∧ (leaves v).mapM leafDouble = .ok ns := by
    intro s ns
    rw [numbers]
    cases hs : shape? v with
    | none => simp
    | some s' =>
      by_cases hdeep : maxDepth < s'.length
      · simp only [hdeep, if_true, reduceCtorEq, Option.some.injEq, false_iff]
        rintro ⟨rfl, hle, -⟩
        omega
      · simp only [hdeep, if_false, bind_eq_ok_iff, pure_eq_ok_iff, Prod.mk.injEq,
          Option.some.injEq]
        constructor
        · rintro ⟨ns', hns, rfl, rfl⟩
          exact ⟨rfl, Nat.not_lt.mp hdeep, hns⟩
        · rintro ⟨rfl, -, hns⟩
          exact ⟨ns, hns, rfl, rfl⟩
  unfold ofValue
  simp only [bind_eq_ok_iff, mapError_eq_ok_iff, Prod.exists, hnumbers]
  constructor
  · rintro ⟨s, ns, ⟨hs, hdeep, hns⟩, r, c, hsize, h⟩
    by_cases hsmall : r < 1 ∨ c < 1
    · rw [if_pos (by simpa using hsmall)] at h
      exact absurd h (by simp)
    · rw [if_neg (by simpa using hsmall), pure_eq_ok_iff] at h
      exact ⟨s, r, c, ns, hs, hdeep, hsize, by omega, by omega, hns, h.symm⟩
  · rintro ⟨s, r, c, ns, hs, hdeep, hsize, hr, hc, hns, rfl⟩
    refine ⟨s, ns, ⟨hs, hdeep, hns⟩, r, c, hsize, ?_⟩
    have hbounds : ¬(r < 1 ∨ c < 1) := by omega
    rw [if_neg (by simpa using hbounds), pure_eq_ok_iff]

/-- A table is a rectangle with at least one row and one column, and its rows are those of the
nested sequence. -/
theorem rows_of_ofValue {v : Value} {t : Table} (h : ofValue v = .ok t) : ∃ r c, 1 ≤ r ∧ 1 ≤ c ∧
    (rowsOf v).length = r ∧ (∀ row ∈ rowsOf v, row.length = c) ∧
      t = (rowsOf v).map (List.map number) := by
  obtain ⟨s, r, c, ns, hs, -, hsize, hr, hc, hns, rfl⟩ := ofValue_eq_ok_iff.mp h
  obtain ⟨hlength, hrows, hleaves⟩ := leaves_eq_flatten hs hsize hr hc
  have hnumbers : ns = (rowsOf v).flatten.map number := by
    rw [← hleaves]
    refine eq_map_of_mapM (fun x y hy => ?_) hns
    rw [number, hy]
    rfl
  refine ⟨r, c, hr, hc, hlength, hrows, ?_⟩
  rw [hnumbers, ← hlength]
  exact pieces_flatten number hrows

/-- **A table is what its rows say.** -/
theorem eq_rowsOf {v : Value} {t : Table} (h : ofValue v = .ok t) :
    t = (rowsOf v).map (List.map number) := by
  obtain ⟨-, -, -, -, -, -, ht⟩ := rows_of_ofValue h
  exact ht

theorem row_ne_nil_of_ofValue {v : Value} {t : Table} (h : ofValue v = .ok t) {row : List Double}
    (hrow : row ∈ t) : row ≠ [] := by
  obtain ⟨r, c, -, hc, -, hlength, rfl⟩ := rows_of_ofValue h
  obtain ⟨items, hitems, rfl⟩ := List.mem_map.mp hrow
  rw [← List.length_pos_iff, List.length_map, hlength items hitems]
  exact hc

end PlotPage.Table
