import PlotPage.Proofs.InlineData
import PlotPage.Proofs.Value.Parts

/-!
# Tables are rectangles

Numbers may be nested in any way, and only two ways make a table: a sequence of numbers, which is a
single column, and a sequence of rows of the same length (`Table.Rectangular`).  There must be a row
and a column.  Everything else is refused with a fault of a value: ragged sequences have no shape, and the
dimensions of the others do not fit.

A table is a rectangle itself, so its plot can be made again from the table (`Table.toValue`).
-/

namespace PlotPage

namespace Value.Holds

variable {v : Value} {items : List Value} (h : Holds v items)

include h

theorem rowItems_eq : Table.rowItems v = items := by
  cases h <;> rfl

theorem shape?_eq : Table.shape? v = Table.sharedShape? items := by
  cases h <;> rw [Table.shape?]

theorem leaves_eq : Table.leaves v = Table.itemLeaves items := by
  cases h <;> rw [Table.leaves]

end Value.Holds

namespace Table

open Value (Holds)

/-- A number that has a double. -/
def IsNumber (v : Value) : Prop := ∃ s : Scalar, v = s.toValue ∧ ∃ d, s.toDouble = .ok d

/-- A number, or numbers nested in sequences of any shape. -/
inductive Numeric : Value → Prop
  | number {v : Value} (h : IsNumber v) : Numeric v
  | sequence {v : Value} {items : List Value} (h : Holds v items) (hitems : ∀ x ∈ items, Numeric x) :
      Numeric v

/-- The rows of a value that is a rectangle of numbers, and the number of its columns. -/
inductive Rectangular : Value → List (List Value) → Nat → Prop
  /-- A flat sequence is a single column. -/
  | column {v : Value} {items : List Value} (h : Holds v items) (hitems : items ≠ [])
      (hnumbers : ∀ x ∈ items, IsNumber x) : Rectangular v (items.map fun x => [x]) 1
  | rows {v : Value} {items : List Value} {rows : List (List Value)} {c : Nat} (h : Holds v items)
      (hitems : items ≠ []) (hrows : List.Forall₂ Holds items rows)
      (hlength : ∀ row ∈ rows, row.length = c) (hc : 1 ≤ c)
      (hnumbers : ∀ row ∈ rows, ∀ x ∈ row, IsNumber x) : Rectangular v rows c

/-- A value is read as a double. -/
def Reads (x : Value) (d : Double) : Prop := x.toDouble = .ok d

/-- The number of columns of a table, taken from its first row. -/
def columns (t : Table) : Nat := (t.headD []).length

/-- A table as a value. -/
def toValue (t : Table) : Value := .tuple (t.map fun row => .tuple (row.map Value.real))

variable {v : Value} {items : List Value} {rows : List (List Value)} {c : Nat} {t : Table}

/-! ### Shapes -/

theorem IsNumber.shape (h : IsNumber v) : shape? v = some [] := by
  obtain ⟨s, rfl, -⟩ := h
  cases s <;> simp [Scalar.toValue, shape?]

/-- Items of one shape make up a shape. -/
theorem sharedShape?_of_forall {s : List Nat} (hitems : items ≠ [])
    (h : ∀ x ∈ items, shape? x = some s) : sharedShape? items = some (items.length :: s) := by
  cases items with
  | nil => exact absurd rfl hitems
  | cons x xs =>
    rw [List.forall_mem_cons] at h
    rw [sharedShape?, h.1]
    simp only [haveShape_iff.mpr h.2, if_true, List.length_cons]

theorem forall₂_holds_iff : List.Forall₂ Holds items rows ↔
    rows = items.map rowItems ∧ ∀ x ∈ items, Holds x (rowItems x) := by
  induction items generalizing rows with
  | nil => simp
  | cons x xs ih =>
    rw [List.forall₂_cons_left_iff, List.map_cons, List.forall_mem_cons]
    constructor
    · rintro ⟨row, rest, hrow, hrest, rfl⟩
      obtain ⟨rfl, hall⟩ := ih.mp hrest
      rw [hrow.rowItems_eq]
      exact ⟨rfl, hrow, hall⟩
    · rintro ⟨rfl, hrow, hall⟩
      exact ⟨_, _, hrow, ih.mpr ⟨rfl, hall⟩, rfl⟩

theorem Rectangular.rowsOf_eq (h : Rectangular v rows c) : rowsOf v = rows := by
  cases h with
  | column h _ hnumbers =>
    rw [rowsOf, h.rowItems_eq]
    exact List.map_congr_left fun x hx => (leaf_of_shape (hnumbers x hx).shape).1
  | rows h _ hrows => rw [rowsOf, h.rowItems_eq, (forall₂_holds_iff.mp hrows).1]

/-- A rectangle has a shape, from which its dimensions are read. -/
theorem Rectangular.shape (h : Rectangular v rows c) :
    ∃ s, shape? v = some s ∧ s.length ≤ 2 ∧ dimensions s = .ok (rows.length, c) := by
  cases h with
  | column h hitems hnumbers =>
    refine ⟨[_], ?_, by simp, by rw [List.length_map]; rfl⟩
    rw [h.shape?_eq]
    exact sharedShape?_of_forall hitems fun x hx => (hnumbers x hx).shape
  | rows h hitems hrows hlength hc hnumbers =>
    refine ⟨[_, c], ?_, by simp, by rw [← hrows.length_eq]; rfl⟩
    obtain ⟨rfl, hholds⟩ := forall₂_holds_iff.mp hrows
    rw [h.shape?_eq]
    refine sharedShape?_of_forall hitems fun x hx => ?_
    have hrow := List.mem_map_of_mem (f := rowItems) hx
    have hne : rowItems x ≠ [] := by
      rw [← List.length_pos_iff, hlength _ hrow]
      exact hc
    rw [(hholds x hx).shape?_eq, sharedShape?_of_forall hne fun y hy => (hnumbers _ hrow y hy).shape,
      hlength _ hrow]

theorem Rectangular.row_pos (h : Rectangular v rows c) : 1 ≤ rows.length := by
  cases h with
  | column h hitems hnumbers =>
    rw [List.length_map]
    exact List.length_pos_iff.mpr hitems
  | rows h hitems hrows hlength hc hnumbers =>
    rw [← hrows.length_eq]
    exact List.length_pos_iff.mpr hitems

theorem Rectangular.column_pos (h : Rectangular v rows c) : 1 ≤ c := by
  cases h with
  | column => exact le_rfl
  | rows h hitems hrows hlength hc hnumbers => exact hc

theorem Rectangular.length (h : Rectangular v rows c) : ∀ row ∈ rows, row.length = c := by
  cases h with
  | column h hitems hnumbers =>
    intro row hrow
    obtain ⟨x, -, rfl⟩ := List.mem_map.mp hrow
    rfl
  | rows h hitems hrows hlength hc hnumbers => exact hlength

theorem Rectangular.isNumber (h : Rectangular v rows c) : ∀ row ∈ rows, ∀ x ∈ row, IsNumber x := by
  cases h with
  | column h hitems hnumbers =>
    intro row hrow x hx
    obtain ⟨y, hy, rfl⟩ := List.mem_map.mp hrow
    rw [List.mem_singleton.mp hx]
    exact hnumbers y hy
  | rows h hitems hrows hlength hc hnumbers => exact hnumbers

/-! ### What is a rectangle -/

theorem Numeric.isNumber_of_shape (h : Numeric v) (hs : shape? v = some []) : IsNumber v := by
  cases h with
  | number h => exact h
  | sequence h hitems =>
    rw [h.shape?_eq] at hs
    exact absurd hs (sharedShape?_ne_nil _)

/-- Numbers that have a length are a sequence, and its items are numeric. -/
theorem Numeric.holds_of_shape {n : Nat} {s : List Nat} (h : Numeric v) (hn : 1 ≤ n)
    (hs : shape? v = some (n :: s)) : Holds v (rowItems v) ∧ (rowItems v).length = n ∧
      ∀ x ∈ rowItems v, Numeric x ∧ shape? x = some s := by
  obtain ⟨hlength, hshapes, -⟩ := row_of_shape hn hs
  cases h with
  | number h =>
    rw [h.shape] at hs
    cases hs
  | sequence h hitems =>
    rw [h.rowItems_eq] at hlength hshapes ⊢
    exact ⟨h, hlength, fun x hx => ⟨hitems x hx, hshapes x hx⟩⟩

theorem Numeric.exists_rectangular {s : List Nat} {r c : Nat} (h : Numeric v)
    (hs : shape? v = some s) (hd : dimensions s = .ok (r, c)) (hr : 1 ≤ r) (hc : 1 ≤ c) :
    ∃ rows, Rectangular v rows c := by
  unfold dimensions at hd
  split at hd
  · rename_i n
    obtain ⟨rfl, rfl⟩ := Prod.mk.inj (Except.ok.inj hd)
    obtain ⟨hholds, hlength, hitems⟩ := h.holds_of_shape hr hs
    have hne := List.length_pos_iff.mp (hlength ▸ hr)
    exact ⟨_, .column hholds hne fun x hx => (hitems x hx).1.isNumber_of_shape (hitems x hx).2⟩
  · rename_i r' c'
    obtain ⟨rfl, rfl⟩ := Prod.mk.inj (Except.ok.inj hd)
    obtain ⟨hholds, hlength, hitems⟩ := h.holds_of_shape hr hs
    have hne := List.length_pos_iff.mp (hlength ▸ hr)
    -- only because there is a column is every row a sequence
    have hrow := fun x hx => (hitems x hx).1.holds_of_shape hc (hitems x hx).2
    refine ⟨_, .rows hholds hne (forall₂_holds_iff.mpr ⟨rfl, fun x hx => (hrow x hx).1⟩) ?_ hc ?_⟩
    · intro row hmem
      obtain ⟨x, hx, rfl⟩ := List.mem_map.mp hmem
      exact (hrow x hx).2.1
    · intro row hmem y hy
      obtain ⟨x, hx, rfl⟩ := List.mem_map.mp hmem
      exact ((hrow x hx).2.2 y hy).1.isNumber_of_shape ((hrow x hx).2.2 y hy).2
  · cases hd

/-! ### Reading a rectangle -/

theorem IsNumber.leafDouble_eq (h : IsNumber v) : leafDouble v = .ok (number v) := by
  obtain ⟨s, rfl, d, hd⟩ := h
  have hleaf : leafDouble s.toValue = .ok d := by
    cases s <;> exact hd
  rw [number, hleaf]
  rfl

theorem IsNumber.reads (h : IsNumber v) : Reads v (number v) := by
  have hleaf := h.leafDouble_eq
  obtain ⟨s, rfl, -⟩ := h
  cases s <;> exact hleaf

theorem Numeric.isNumber_of_mem_leaves (h : Numeric v) : ∀ x ∈ leaves v, IsNumber x := by
  induction h with
  | number h =>
    intro x hx
    rw [(leaf_of_shape h.shape).2, List.mem_singleton] at hx
    rw [hx]
    exact h
  | sequence h hitems ih =>
    rw [h.leaves_eq, itemLeaves_eq]
    intro x hx
    obtain ⟨item, hitem, hx⟩ := List.mem_flatMap.mp hx
    exact ih item hitem x hx

/-- Nested numbers are refused for their shape only. -/
theorem Numeric.ofValue_failsWith (h : Numeric v) :
    FailsWith (fun f => f.kind = .value) (ofValue v) := by
  have hread : FailsWith (fun f => f.kind = .value) ((numbers v).mapError nameFault) := by
    have hnumbers : FailsWith (fun f => f = .outside .ragged) (numbers v) := by
      unfold numbers
      split
      · exact .error rfl
      · split
        · exact .error rfl
        · refine FailsWith.bind (.mapM fun x hx => ?_) fun _ _ => .pure _
          rw [(h.isNumber_of_mem_leaves x hx).leafDouble_eq]
          exact .ok _
    refine hnumbers.mapError ?_
    rintro f rfl
    rfl
  have hsize : ∀ s, FailsWith (fun f : Fault => f.kind = .value) (dimensions s) := by
    intro s
    unfold dimensions
    split
    · exact .ok _
    · exact .ok _
    · exact .error rfl
  refine hread.bind fun read _ => (hsize read.1).bind fun size _ => ?_
  split
  · exact .throw rfl
  · exact .pure _

/-- A rectangle is read number by number. -/
theorem Rectangular.ofValue_eq (h : Rectangular v rows c) :
    ofValue v = .ok (rows.map (List.map number)) := by
  obtain ⟨s, hs, hlength, hd⟩ := h.shape
  obtain ⟨-, hrows, hleaves⟩ := leaves_eq_flatten hs hd h.row_pos h.column_pos
  rw [h.rowsOf_eq] at hrows hleaves
  refine ofValue_eq_ok_iff.mpr ⟨s, _, _, rows.flatten.map number, hs, ?_, hd, h.row_pos,
    h.column_pos, ?_, (pieces_flatten number hrows).symm⟩
  · exact hlength.trans (by decide)
  · rw [hleaves]
    refine mapM_eq_ok_map fun x hx => ?_
    obtain ⟨row, hrow, hx⟩ := List.mem_flatten.mp hx
    exact (h.isNumber row hrow x hx).leafDouble_eq

/-- The rows of a rectangle and of its table hold the same numbers. -/
theorem Rectangular.forall₂_reads (h : Rectangular v rows c) :
    List.Forall₂ (List.Forall₂ Reads) rows (rows.map (List.map number)) := by
  rw [List.forall₂_map_right_iff, List.forall₂_same]
  intro row hrow
  rw [List.forall₂_map_right_iff, List.forall₂_same]
  exact fun x hx => (h.isNumber row hrow x hx).reads

/-- Nested numbers are a rectangle or are refused. -/
theorem Numeric.rectangular_or_refused (h : Numeric v) :
    (∃ rows c, Rectangular v rows c) ∨ ∃ f, ofValue v = .error f ∧ f.kind = .value := by
  cases hv : ofValue v with
  | ok t =>
    obtain ⟨s, r, c, -, hs, -, hd, hr, hc, -, -⟩ := ofValue_eq_ok_iff.mp hv
    obtain ⟨rows, hrows⟩ := h.exists_rectangular hs hd hr hc
    exact Or.inl ⟨rows, c, hrows⟩
  | error f => exact Or.inr ⟨f, rfl, h.ofValue_failsWith f hv⟩

/-! ### Tables as values -/

/-- A table without empty rows, all of whose rows have the same length, is a rectangle itself. -/
theorem rectangular_toValue (ht : t ≠ []) (hlength : ∀ row ∈ t, row.length = c) (hc : 1 ≤ c) :
    Rectangular (toValue t) (t.map (List.map Value.real)) c := by
  refine .rows (.tuple _ _) (List.map_eq_nil_iff.not.mpr ht) ?_ ?_ hc ?_
  · rw [List.forall₂_map_left_iff, List.forall₂_map_right_iff, List.forall₂_same]
    exact fun row _ => .tuple _ _
  · intro row hrow
    obtain ⟨ds, hds, rfl⟩ := List.mem_map.mp hrow
    rw [List.length_map]
    exact hlength ds hds
  · intro row hrow x hx
    obtain ⟨ds, -, rfl⟩ := List.mem_map.mp hrow
    obtain ⟨d, -, rfl⟩ := List.mem_map.mp hx
    exact ⟨.real d, rfl, d, rfl⟩

/-- A table is read back from its value. -/
theorem ofValue_toValue (ht : t ≠ []) (hlength : ∀ row ∈ t, row.length = c) (hc : 1 ≤ c) :
    ofValue (toValue t) = .ok t := by
  have hnumber : number ∘ Value.real = id := rfl
  rw [(rectangular_toValue ht hlength hc).ofValue_eq, List.map_map, List.map_comp_map, hnumber,
    List.map_id_fun, List.map_id]

/-- One space stands between two numbers. -/
theorem count_space_rowLine (row : List Double) :
    (rowLine row).toList.count ' ' = row.length - 1 := by
  have htext : ∀ d : Double, d.text.toList.count ' ' = 0 :=
    fun d => List.count_eq_zero.mpr (space_not_mem_text d)
  rw [rowLine]
  induction row with
  | nil => rfl
  | cons d ds ih =>
    cases ds with
    | nil => rw [List.map_singleton, String.intercalate_singleton, htext, List.length_singleton]
    | cons d' ds =>
      rw [List.map_cons, List.map_cons, String.intercalate_cons_cons, String.toList_append,
        String.toList_append, List.count_append, List.count_append, htext, ← List.map_cons, ih,
        List.length_cons, List.length_cons]
      show 0 + 1 + ds.length = ds.length + 1
      omega

end Table

/-! ### Plots of tables -/

namespace Plot

open Table

/-- The value that a title or a style was given as. -/
def given : Option Label → Value
  | none => .null
  | some l => l.value

theorem given_of_checkTitle {v : Value} {title : Option Label} (h : checkTitle v = .ok title) :
    given title = v := by
  cases title with
  | none =>
    unfold checkTitle at h
    split at h
    · rfl
    · simp only [bind_eq_ok_iff, pure_eq_ok_iff, reduceCtorEq, and_false, exists_false] at h
  | some l => exact (kept_of_checkTitle h).value

theorem given_of_checkStyle {v : Value} {style : Option Label} (h : checkStyle v = .ok style) :
    given style = v := by
  cases style with
  | none =>
    unfold checkStyle at h
    split at h
    · rfl
    · simp only [bind_eq_ok_iff, pure_eq_ok_iff, reduceCtorEq, and_false, exists_false] at h
  | some l => exact (kept_of_checkStyle h).value

theorem ofTable_eq_ok_iff {data title style : Value} {p : Plot} : ofTable data title style = .ok p ↔
    ∃ t l m, ofValue data = .ok t ∧ checkTitle title = .ok l ∧ checkStyle style = .ok m ∧
      p = ⟨.table t, l, m⟩ := by
  simp only [ofTable, bind_eq_ok_iff, pure_eq_ok_iff]
  constructor
  · rintro ⟨t, ht, l, hl, m, hm, rfl⟩
    exact ⟨t, l, m, ht, hl, hm, rfl⟩
  · rintro ⟨t, l, m, ht, hl, hm, rfl⟩
    exact ⟨t, ht, l, hl, m, hm, rfl⟩

/-- What a plot of a table keeps of the nested numbers that it was made from. -/
structure Draws (p : Plot) (data : Value) (t : Table) : Prop where
  source : p.source = .table t
  nonempty : t ≠ []
  columns_pos : 1 ≤ t.columns
  length : ∀ row ∈ t, row.length = t.columns
  /-- A flat sequence gives a column, and the rows of others stay in order. -/
  rows : ∃ rows, Rectangular data rows t.columns ∧ List.Forall₂ (List.Forall₂ Reads) rows t
  lines : p.dataLines = t.map rowLine ++ ["e"]
  spaces : ∀ row ∈ t, (rowLine row).toList.count ' ' = t.columns - 1
  again : ofTable t.toValue (given p.title) (given p.style) = .ok p

theorem draws_of_rectangular {data title style : Value} {rows : List (List Value)} {c : Nat} {p : Plot}
    (h : Rectangular data rows c) (hp : ofTable data title style = .ok p) :
    Draws p data (rows.map (List.map number)) := by
  obtain ⟨t, l, m, ht, hl, hm, rfl⟩ := ofTable_eq_ok_iff.mp hp
  obtain rfl : _ = t := Except.ok.inj (h.ofValue_eq.symm.trans ht)
  have hlength : ∀ row ∈ rows.map (List.map number), row.length = c := by
    intro row hrow
    obtain ⟨xs, hxs, rfl⟩ := List.mem_map.mp hrow
    rw [List.length_map]
    exact h.length xs hxs
  have hne : rows.map (List.map number) ≠ [] :=
    List.map_eq_nil_iff.not.mpr (List.length_pos_iff.mp h.row_pos)
  have hcolumns : columns (rows.map (List.map number)) = c := by
    rw [columns, List.headD_eq_head?_getD, List.head?_eq_some_head hne]
    exact hlength _ (List.head_mem hne)
  refine ⟨rfl, hne, ?_, ?_, ⟨rows, ?_, h.forall₂_reads⟩, rfl, ?_, ?_⟩
  · rw [hcolumns]
    exact h.column_pos
  · rw [hcolumns]
    exact hlength
  · rw [hcolumns]
    exact h
  · intro row hrow
    rw [count_space_rowLine, hcolumns, hlength row hrow]
  · rw [given_of_checkTitle hl, given_of_checkStyle hm]
    exact ofTable_eq_ok_iff.mpr ⟨_, _, _, ofValue_toValue hne hlength h.column_pos, hl, hm, rfl⟩

/-- **Plots draw rectangles.**  Numbers nested in any way make a plot if they are a rectangle and the
title and the style fit; what is no rectangle is refused with a fault of a value. -/
theorem ofTable_rectangle {data : Value} (h : Numeric data) (title style : Value) :
    (∀ p, ofTable data title style = .ok p → ∃ t, Draws p data t) ∧
      ((∃ p, ofTable data title style = .ok p) ↔ (∃ rows c, Rectangular data rows c) ∧
        (∃ l, checkTitle title = .ok l) ∧ ∃ m, checkStyle style = .ok m) ∧
      ((¬∃ rows c, Rectangular data rows c) →
        ∃ f, ofTable data title style = .error f ∧ f.kind = .value) := by
  have hrefused : (¬∃ rows c, Rectangular data rows c) →
      ∃ f, ofTable data title style = .error f ∧ f.kind = .value := by
    intro hnone
    rcases h.rectangular_or_refused with hsome | ⟨f, hf, hkind⟩
    · exact absurd hsome hnone
    · exact ⟨f, by rw [ofTable, hf, error_bind], hkind⟩
  have hrectangle : ∀ p, ofTable data title style = .ok p → ∃ rows c, Rectangular data rows c := by
    intro p hp
    by_contra hnone
    obtain ⟨f, hf, -⟩ := hrefused hnone
    rw [hp] at hf
    cases hf
  refine ⟨fun p hp => ?_, ⟨?_, ?_⟩, hrefused⟩
  · obtain ⟨rows, c, hrows⟩ := hrectangle p hp
    exact ⟨_, draws_of_rectangular hrows hp⟩
  · rintro ⟨p, hp⟩
    obtain ⟨t, l, m, -, hl, hm, -⟩ := ofTable_eq_ok_iff.mp hp
    exact ⟨hrectangle p hp, ⟨l, hl⟩, m, hm⟩
  · rintro ⟨⟨rows, c, hrows⟩, ⟨l, hl⟩, m, hm⟩
    exact ⟨_, ofTable_eq_ok_iff.mpr ⟨_, l, m, hrows.ofValue_eq, hl, hm, rfl⟩⟩

/-- Two rows with numbers of all kinds make a plot.  A row with a number and one without are
refused. -/
theorem ofTable_rectangle_two_rows :
    (∃ p, ofTable (.list [.list [.int 1, .real (.zero true)], .tuple [.real .nan, .bool true]])
        (.text "run") .null = .ok p ∧
      Draws p (.list [.list [.int 1, .real (.zero true)], .tuple [.real .nan, .bool true]])
        [[.ofInt 1, .zero true], [.nan, .ofInt 1]]) ∧
      ∃ f, ofTable (.list [.list [.int 1], .list []]) .null .null = .error f ∧ f.kind = .value := by
  have hint : Numeric (.int 1) := .number ⟨.int 1, rfl, .ofInt 1,
    toOption_eq_some_iff.mp (by decide +kernel)⟩
  have hreal : ∀ d, Numeric (.real d) := fun d => .number ⟨.real d, rfl, d, rfl⟩
  have hbool : Numeric (.bool true) := .number ⟨.bool true, rfl, _, rfl⟩
  have hpair : ∀ {x y : Value}, Numeric x → Numeric y → ∀ z ∈ [x, y], Numeric z :=
    fun hx hy => List.forall_mem_cons.mpr ⟨hx, List.forall_mem_singleton.mpr hy⟩
  constructor
  · have htable := toOption_eq_some_iff.mp (by decide +kernel : (ofValue
      (.list [.list [.int 1, .real (.zero true)], .tuple [.real .nan, .bool true]])).toOption =
        some [[.ofInt 1, .zero true], [.nan, .ofInt 1]])
    have hp : ofTable (.list [.list [.int 1, .real (.zero true)], .tuple [.real .nan, .bool true]])
        (.text "run") .null = .ok _ := ofTable_eq_ok_iff.mpr ⟨_, _, _, htable, rfl, rfl, rfl⟩
    obtain ⟨hdraws, -⟩ := ofTable_rectangle (.sequence (.list _ _) (hpair
      (.sequence (.list _ _) (hpair hint (hreal (.zero true))))
      (.sequence (.tuple _ _) (hpair (hreal .nan) hbool)))) (.text "run") .null
    obtain ⟨t, ht⟩ := hdraws _ hp
    obtain rfl := Source.table.inj ht.source
    exact ⟨_, hp, ht⟩
  · obtain ⟨-, -, hrefused⟩ := ofTable_rectangle (.sequence (.list _ _) (hpair
      (.sequence (.list _ _) (List.forall_mem_singleton.mpr hint))
      (.sequence (.list _ _) (List.forall_mem_nil _)))) .null .null
    refine hrefused ?_
    rintro ⟨rows, c, hrows⟩
    obtain ⟨s, hs, -⟩ := hrows.shape
    have hnone : shape? (.list [.list [.int 1], .list []]) = none := by decide
    rw [hnone] at hs
    cases hs

end Plot

end PlotPage
