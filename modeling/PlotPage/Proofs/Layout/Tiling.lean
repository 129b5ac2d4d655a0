import Mathlib.Algebra.BigOperators.Ring.Finset
import Mathlib.Algebra.Order.Floor.Semiring
import Mathlib.Algebra.Order.Archimedean.Real.Basic
import Mathlib.Tactic.FieldSimp
import PlotPage.Proofs.Layout.Grid
import PlotPage.Proofs.Number.Decimal

/-!
# Tiles cover the page

The tiles of a grid are looked at with their exact quotients, before anything is rounded
(`Grid.place`).  A point of the page lies in a column and in a row, each of which is found by
rounding down a product, and these two give back the position of one tile.  So the half-open tiles
cover the page without an overlap (`Grid.tiles_place`), and they follow each other like the words on
a page.

A grid keeps its sides positive and its capacity the product of the two, whatever is done with it
(`Grid.Sound`).  A position beyond its tiles is refused, and the refusal names the position and the
two sides.  An integer of more than 4300 digits cannot be named, so that such a position fails in
another way (`Grid.tile_of_outside`).
-/

namespace PlotPage

/-! ### Rectangles -/

/-- A rectangle on the page with exact numbers. -/
structure Rectangle where
  x : ℚ
  y : ℚ
  width : ℚ
  height : ℚ

/-- A rectangle holds its left and lower edges, and not its right and upper ones. -/
def Rectangle.Contains (r : Rectangle) (p q : ℝ) : Prop :=
  p ∈ Set.Ico (r.x : ℝ) (r.x + r.width : ℚ) ∧ q ∈ Set.Ico (r.y : ℝ) (r.y + r.height : ℚ)

/-- The rectangle lies on the unit page. -/
structure Rectangle.OnPage (r : Rectangle) : Prop where
  left : 0 ≤ r.x
  right : r.x + r.width ≤ 1
  lower : 0 ≤ r.y
  upper : r.y + r.height ≤ 1

/-- The first `n` rectangles of a row divide the page into equal parts, in reading order. -/
structure Tiles (n : ℕ) (place : ℕ → Rectangle) : Prop where
  covers : ∀ p q : ℝ, 0 ≤ p → p < 1 → 0 ≤ q → q < 1 → ∃! i, i < n ∧ (place i).Contains p q
  onPage : ∀ i < n, (place i).OnPage
  congruent : ∀ i < n, ∀ j < n,
    (place i).width = (place j).width ∧ (place i).height = (place j).height
  area : ∑ i ∈ Finset.range n, (place i).width * (place i).height = 1
  first : (place 0).x = 0 ∧ (place 0).y + (place 0).height = 1
  order : ∀ i < n, ∀ j < n, i < j ↔ (place j).y < (place i).y ∨
    (place j).y = (place i).y ∧ (place i).x + (place i).width ≤ (place j).x

/-- Of the parts of equal width, the point lies in the one that rounding down gives. -/
theorem mem_part_iff {n k : ℕ} (hn : 0 < n) {p : ℝ} (hp : 0 ≤ p) :
    p ∈ Set.Ico ((k / n : ℚ) : ℝ) (k / n + 1 / n : ℚ) ↔ ⌊p * n⌋₊ = k := by
  have hn' : (0 : ℝ) < n := Nat.cast_pos.mpr hn
  rw [Nat.floor_eq_iff (mul_nonneg hp hn'.le), Set.mem_Ico, ← add_div]
  push_cast
  rw [div_le_iff₀ hn', lt_div_iff₀ hn']

theorem floor_mul_lt {n : ℕ} (hn : 0 < n) {p : ℝ} (hp : 0 ≤ p) (hp' : p < 1) : ⌊p * n⌋₊ < n := by
  have hn' : (0 : ℝ) < n := Nat.cast_pos.mpr hn
  rw [Nat.floor_lt (mul_nonneg hp hn'.le)]
  exact mul_lt_of_lt_one_left hn' hp'

namespace Grid

/-- The tile at a position with exact quotients. -/
def place (g : Grid) (i : ℕ) : Rectangle where
  x := (i % g.columns : ℕ) / g.columns
  y := (g.rows - i / g.columns - 1 : ℕ) / g.rows
  width := 1 / g.columns
  height := 1 / g.rows

/-! ### Rows and columns of positions -/

theorem columns_pos_of_lt {g : Grid} {i : ℕ} (hi : i < g.size) : 0 < g.columns := by
  rw [Nat.pos_iff_ne_zero]
  intro hzero
  rw [size, hzero, Nat.mul_zero] at hi
  exact absurd hi (Nat.not_lt_zero i)

theorem row_lt {g : Grid} {i : ℕ} (hi : i < g.size) : i / g.columns < g.rows :=
  (Nat.div_lt_iff_lt_mul (columns_pos_of_lt hi)).mpr hi

theorem rows_pos_of_lt {g : Grid} {i : ℕ} (hi : i < g.size) : 0 < g.rows :=
  (Nat.zero_le _).trans_lt (row_lt hi)

theorem column_lt {g : Grid} {i : ℕ} (hi : i < g.size) : i % g.columns < g.columns :=
  Nat.mod_lt i (columns_pos_of_lt hi)

/-- Positions are ordered by row, and within a row by column. -/
theorem lt_iff_row_column (c i j : ℕ) : i < j ↔ i / c < j / c ∨ i / c = j / c ∧ i % c < j % c := by
  have hi := Nat.div_add_mod i c
  have hj := Nat.div_add_mod j c
  constructor
  · intro h
    rcases (Nat.div_le_div_right h.le : i / c ≤ j / c).lt_or_eq with hlt | heq
    · exact Or.inl hlt
    · rw [heq] at hi
      exact Or.inr ⟨heq, by omega⟩
  · rintro (h | ⟨heq, h⟩)
    · exact Nat.lt_of_div_lt_div h
    · rw [heq] at hi
      omega

/-! ### Places -/

section Place

variable {g : Grid} {i : ℕ} (hi : i < g.size)

include hi

theorem contains_place_iff {p q : ℝ} (hp : 0 ≤ p) (hq : 0 ≤ q) : (g.place i).Contains p q ↔
    ⌊p * g.columns⌋₊ = i % g.columns ∧ ⌊q * g.rows⌋₊ = g.rows - i / g.columns - 1 := by
  exact and_congr (mem_part_iff (columns_pos_of_lt hi) hp) (mem_part_iff (rows_pos_of_lt hi) hq)

theorem onPage_place : (g.place i).OnPage := by
  have hrows := rows_pos_of_lt hi
  have hpart : ∀ {n k : ℕ}, k < n → (0 : ℚ) ≤ k / n ∧ (k / n + 1 / n : ℚ) ≤ 1 := by
    intro n k hk
    have hn : (0 : ℚ) < n := Nat.cast_pos.mpr (by omega)
    refine ⟨by positivity, ?_⟩
    rw [← add_div, div_le_one hn]
    exact_mod_cast hk
  obtain ⟨hleft, hright⟩ := hpart (column_lt hi)
  have hband : g.rows - i / g.columns - 1 < g.rows := by
    rw [Nat.sub_right_comm]
    exact (Nat.sub_le _ _).trans_lt (Nat.sub_lt hrows Nat.one_pos)
  obtain ⟨hlower, hupper⟩ := hpart hband
  exact ⟨hleft, hright, hlower, hupper⟩

/-- **Positions follow each other in reading order.** -/
theorem lt_iff_place {j : ℕ} (hj : j < g.size) : i < j ↔ (g.place j).y < (g.place i).y ∨
    (g.place j).y = (g.place i).y ∧ (g.place i).x + (g.place i).width ≤ (g.place j).x := by
  have hi' := row_lt hi
  have hj' := row_lt hj
  have hrows : (0 : ℚ) < g.rows := Nat.cast_pos.mpr (rows_pos_of_lt hi)
  have hcolumns : (0 : ℚ) < g.columns := Nat.cast_pos.mpr (columns_pos_of_lt hi)
  have hlower : (g.place j).y < (g.place i).y ↔ i / g.columns < j / g.columns := by
    rw [place, place, div_lt_div_iff_of_pos_right hrows, Nat.cast_lt]
    omega
  have hsame : (g.place j).y = (g.place i).y ↔ i / g.columns = j / g.columns := by
    rw [place, place, div_left_inj' hrows.ne', Nat.cast_inj]
    omega
  have hright : (g.place i).x + (g.place i).width ≤ (g.place j).x ↔
      i % g.columns < j % g.columns := by
    rw [place, place, ← add_div, div_le_div_iff_of_pos_right hcolumns]
    exact_mod_cast Iff.rfl
  rw [hlower, hsame, hright, lt_iff_row_column g.columns]

end Place

/-- **Every point of the page lies in exactly one tile.** -/
theorem existsUnique_place {g : Grid} (hrows : 0 < g.rows) (hcolumns : 0 < g.columns) {p q : ℝ}
    (hp : 0 ≤ p) (hp' : p < 1) (hq : 0 ≤ q) (hq' : q < 1) :
    ∃! i, i < g.size ∧ (g.place i).Contains p q := by
  have hcolumn := floor_mul_lt hcolumns hp hp'
  have hrow := floor_mul_lt hrows hq hq'
  generalize hc : ⌊p * g.columns⌋₊ = c at hcolumn
  generalize hr : ⌊q * g.rows⌋₊ = r at hrow
  have hdiv : (c + (g.rows - 1 - r) * g.columns) / g.columns = g.rows - 1 - r := by
    rw [Nat.add_mul_div_right c _ hcolumns, Nat.div_eq_of_lt hcolumn, Nat.zero_add]
  have hmod : (c + (g.rows - 1 - r) * g.columns) % g.columns = c := by
    rw [Nat.add_mul_mod_self_right, Nat.mod_eq_of_lt hcolumn]
  have hsize : c + (g.rows - 1 - r) * g.columns < g.size := by
    rw [size, ← Nat.div_lt_iff_lt_mul hcolumns, hdiv]
    omega
  refine ⟨c + (g.rows - 1 - r) * g.columns, ⟨hsize, ?_⟩, ?_⟩
  · rw [contains_place_iff hsize hp hq, hc, hr, hdiv, hmod]
    omega
  · rintro i ⟨hi, hcontains⟩
    rw [contains_place_iff hi hp hq, hc, hr] at hcontains
    have hrow' := row_lt hi
    have hquotient : i / g.columns = g.rows - 1 - r := by omega
    rw [hcontains.1, ← hquotient, Nat.mul_comm]
    exact (Nat.mod_add_div i g.columns).symm

/-- **The tiles of a grid divide the page.** -/
theorem tiles_place {g : Grid} (hrows : 0 < g.rows) (hcolumns : 0 < g.columns) :
    Tiles g.size g.place where
  covers p q hp hp' hq hq' := existsUnique_place hrows hcolumns hp hp' hq hq'
  onPage i hi := onPage_place hi
  congruent i _ j _ := ⟨rfl, rfl⟩
  area := by
    have hrows' : (g.rows : ℚ) ≠ 0 := Nat.cast_ne_zero.mpr hrows.ne'
    have hcolumns' : (g.columns : ℚ) ≠ 0 := Nat.cast_ne_zero.mpr hcolumns.ne'
    have hsum : ∑ i ∈ Finset.range g.size, (g.place i).width * (g.place i).height =
        g.size * (1 / g.columns * (1 / g.rows)) := by
      simp only [place, Finset.sum_const, Finset.card_range, nsmul_eq_mul]
    rw [hsum, size, Nat.cast_mul]
    field_simp
  first := by
    have hrows' : (g.rows : ℚ) ≠ 0 := Nat.cast_ne_zero.mpr hrows.ne'
    constructor
    · rw [place, Nat.zero_mod, Nat.cast_zero, zero_div]
    · rw [place, Nat.zero_div, Nat.sub_zero, ← add_div, Nat.cast_sub hrows, Nat.cast_one,
        sub_add_cancel, div_self hrows']
  order i hi j hj := lt_iff_place hi hj

/-! ### Tiles as they are answered -/

/-- The tile at a position: the corner of its place is rounded once, and its sides are quotients of
one and a rounded integer. -/
theorem tile_eq_place {g : Grid} {i : ℕ} (hi : i < g.size) : g.tile (.int i) =
    if g.Drawable then .ok {
        x := .real (.nearest (g.place i).x)
        y := .real (.nearest (g.place i).y)
        width := .real ((Double.ofInt 1).div (.ofInt g.columns))
        height := .real ((Double.ofInt 1).div (.ofInt g.rows)) }
    else .error (.outside .tooLarge) := by
  rw [tile_natCast hi, tileAt_eq (row_lt hi) (column_lt hi), rectangle,
    Double.ofRatio_eq_nearest (columns_pos_of_lt hi), Double.ofRatio_eq_nearest (rows_pos_of_lt hi)]
  rfl

/-- The position and the sides of the grid can be written out: they have at most 4300 digits. -/
def CanName (g : Grid) (i : ℤ) : Prop :=
  Decimal.size i.natAbs ≤ 4300 ∧ Decimal.size g.rows ≤ 4300 ∧ Decimal.size g.columns ≤ 4300

instance (g : Grid) (i : ℤ) : Decidable (g.CanName i) := inferInstanceAs (Decidable (_ ∧ _ ∧ _))

/-- **A position outside a grid is refused by name**, if it can be named. -/
theorem tile_of_outside {g : Grid} {i : ℤ} (hi : i < 0 ∨ (g.size : ℤ) ≤ i) : g.tile (.int i) =
    if g.CanName i then .error (.tileIndex (toString i) (toString (g.rows : ℤ))
      (toString (g.columns : ℤ))) else .error (.outside .longInteger) := by
  have hindex : g.hasIndex (.int i) = false := by
    rw [hasIndex, Bool.and_eq_false_iff, decide_eq_false_iff_not, decide_eq_false_iff_not]
    omega
  rw [tile, Scalar.ofValue?]
  simp only [hindex, Bool.false_eq_true, if_false, Value.plain_int, Int.natAbs_natCast]
  by_cases hname : g.CanName i
  · rw [if_pos hname, if_pos hname.1, if_pos hname.2.1, if_pos hname.2.2]
    rfl
  · rw [if_neg hname]
    by_cases hposition : Decimal.size i.natAbs ≤ 4300
    · rw [if_pos hposition, ok_bind]
      by_cases hrows : Decimal.size g.rows ≤ 4300
      · have hcolumns : ¬ Decimal.size g.columns ≤ 4300 := fun h => hname ⟨hposition, hrows, h⟩
        rw [if_pos hrows, ok_bind, if_neg hcolumns, error_bind]
      · rw [if_neg hrows, error_bind]
    · rw [if_neg hposition, error_bind]

/-- Only a position outside a grid is refused by the layout. -/
theorem exists_layout_fault_iff {g : Grid} {i : ℤ} :
    (∃ f, g.tile (.int i) = .error f ∧ f.kind = .layout) ↔
      (i < 0 ∨ (g.size : ℤ) ≤ i) ∧ g.CanName i := by
  by_cases hi : i < 0 ∨ (g.size : ℤ) ≤ i
  · rw [tile_of_outside hi]
    by_cases hname : g.CanName i
    · rw [if_pos hname]
      exact iff_of_true ⟨_, rfl, rfl⟩ ⟨hi, hname⟩
    · rw [if_neg hname]
      refine iff_of_false ?_ fun h => hname h.2
      rintro ⟨f, hf, hkind⟩
      obtain rfl := Except.error.inj hf
      exact absurd hkind (by decide)
  · refine iff_of_false ?_ fun h => hi h.1
    rintro ⟨f, hf, hkind⟩
    obtain ⟨n, rfl⟩ : ∃ n : ℕ, i = n := ⟨i.toNat, by omega⟩
    rw [tile_eq_place (by omega)] at hf
    split_ifs at hf
    obtain rfl := Except.error.inj hf
    exact absurd hkind (by decide)

/-! ### Grids in use -/

/-- A grid with positive sides whose product is its capacity. -/
structure Sound (g : Grid) : Prop where
  rows : 1 ≤ g.rows
  columns : 1 ≤ g.columns
  full : g.Full

/-- A position can be named if it and the capacity can be written out: no side is larger than the
capacity. -/
theorem Sound.canName {g : Grid} (h : g.Sound) {i : ℤ}
    (hcapacity : Decimal.size g.capacity ≤ 4300) (hi : Decimal.size i.natAbs ≤ 4300) :
    g.CanName i := by
  have hsize : g.rows * g.columns = g.capacity := h.full
  have hside : ∀ {side}, side ≤ g.capacity → Decimal.size side ≤ 4300 := by
    intro side hside
    rw [Decimal.size_le_iff (by decide)] at hcapacity ⊢
    exact hside.trans_lt hcapacity
  refine ⟨hi, hside ?_, hside ?_⟩
  · rw [← hsize]
    exact Nat.le_mul_of_pos_right g.rows h.columns
  · rw [← hsize]
    exact Nat.le_mul_of_pos_left g.columns h.rows

theorem sound_of_ofSides {rows columns : Value} {prefersColumns : Bool} {g : Grid}
    (h : ofSides rows columns prefersColumns = .ok g) : g.Sound := by
  have hfull := full_of_ofSides h
  simp only [ofSides, bind_eq_ok_iff, pure_eq_ok_iff] at h
  obtain ⟨r, hr, c, hc, rfl⟩ := h
  exact ⟨side_eq_ok hr, side_eq_ok hc, hfull⟩

theorem sound_resize (g : Grid) {n : ℕ} (hn : 1 ≤ n) : (g.resize n).Sound :=
  ⟨(shape_pos hn g.prefersColumns).1, (shape_pos hn g.prefersColumns).2, full_resize g hn⟩

/-- A step keeps a grid sound, also when it fails. -/
theorem Sound.apply {g : Grid} (h : g.Sound) (c : Layout.Command) :
    ∃ g', (Layout.apply (.grid g) c).state = .grid g' ∧ g'.Sound := by
  by_cases hresize : ∃ v, c = .resize v
  · obtain ⟨v, rfl⟩ := hresize
    rw [Layout.apply]
    split
    · rename_i hr
      obtain ⟨n, hn, -, rfl⟩ := Layout.resize_grid hr
      exact ⟨g.resize n, rfl, sound_resize g hn⟩
    · exact ⟨g, rfl, h⟩
  · rcases Layout.apply_of_ne_resize (l := .grid g) fun v hv => hresize ⟨v, hv⟩ with
      hsame | ⟨g', b, hg, hturned⟩
    · exact ⟨g, hsame, h⟩
    · obtain rfl := Layout.grid.inj hg
      exact ⟨_, hturned, ⟨h.rows, h.columns, h.full⟩⟩

end Grid

/-- The grid that a layout is. -/
def Layout.grid? : Layout → Option Grid
  | .grid g => some g
  | .custom _ => none

/-- A layout after steps on it, successful or failed. -/
def Layout.runAll (l : Layout) (cs : List Layout.Command) : Layout :=
  cs.foldl (fun l c => (l.apply c).state) l

namespace Grid

theorem Sound.runAll {g : Grid} (h : g.Sound) (cs : List Layout.Command) :
    ∃ g', (Layout.grid g).runAll cs = .grid g' ∧ g'.Sound := by
  induction cs generalizing g with
  | nil => exact ⟨g, rfl, h⟩
  | cons c cs ih =>
    obtain ⟨g', hg', hsound⟩ := h.apply c
    rw [Layout.runAll, List.foldl_cons, hg']
    exact ih hsound

/-- **Whatever is done with a grid, its tiles divide the page.**  Its sides stay positive and their
product stays its capacity.  The positions below the capacity have tiles, unless a side is too large
for a double, and the layout refuses all others; where it cannot name what it refuses, the integer
that has no text is the fault.  So among integers that can be written out, in a grid whose capacity
can, the layout refuses exactly those outside the capacity. -/
theorem tiles_runAll {rows columns : Value} {prefersColumns : Bool} {g₀ : Grid}
    (h : ofSides rows columns prefersColumns = .ok g₀) (cs : List Layout.Command) :
    ∃ g, (Layout.grid g₀).runAll cs = .grid g ∧
      1 ≤ g.rows ∧ 1 ≤ g.columns ∧ g.rows * g.columns = g.capacity ∧
      (∀ i : ℤ, (∃ f, g.tile (.int i) = .error f ∧ f.kind = .layout) ↔
        (i < 0 ∨ (g.capacity : ℤ) ≤ i) ∧ g.CanName i) ∧
      (Decimal.size g.capacity ≤ 4300 → ∀ i : ℤ, Decimal.size i.natAbs ≤ 4300 →
        ((∃ f, g.tile (.int i) = .error f ∧ f.kind = .layout) ↔
          i < 0 ∨ (g.capacity : ℤ) ≤ i)) ∧
      (∀ i : ℤ, i < 0 ∨ (g.capacity : ℤ) ≤ i → g.tile (.int i) =
        if g.CanName i then .error (.tileIndex (toString i) (toString (g.rows : ℤ))
          (toString (g.columns : ℤ))) else .error (.outside .longInteger)) ∧
      (∀ i : ℕ, i < g.capacity → g.tile (.int i) =
        if g.Drawable then .ok {
            x := .real (.nearest (g.place i).x)
            y := .real (.nearest (g.place i).y)
            width := .real ((Double.ofInt 1).div (.ofInt g.columns))
            height := .real ((Double.ofInt 1).div (.ofInt g.rows)) }
        else .error (.outside .tooLarge)) ∧
      Tiles g.capacity g.place := by
  obtain ⟨g, hg, hsound⟩ := (sound_of_ofSides h).runAll cs
  have hsize : g.size = g.capacity := hsound.full
  have hnamed : Decimal.size g.capacity ≤ 4300 → ∀ i : ℤ, Decimal.size i.natAbs ≤ 4300 →
      ((∃ f, g.tile (.int i) = .error f ∧ f.kind = .layout) ↔ i < 0 ∨ (g.size : ℤ) ≤ i) := by
    intro hcapacity i hi
    exact exists_layout_fault_iff.trans (and_iff_left (hsound.canName hcapacity hi))
  refine ⟨g, hg, hsound.rows, hsound.columns, hsize, ?_⟩
  rw [← hsize] at hnamed ⊢
  exact ⟨fun _ => exists_layout_fault_iff, hnamed, fun _ => tile_of_outside,
    fun _ => tile_eq_place, tiles_place hsound.rows hsound.columns⟩

/-- Two rows of three tiles are turned into four rows of three, with sizes in between that no grid
takes. -/
theorem tiles_runAll_four_rows :
    ofSides (.int 2) (.int 3) true = .ok ⟨2, 3, 6, true⟩ ∧
      ∃ g, (Layout.grid ⟨2, 3, 6, true⟩).runAll [.resize (.int 0), .preferColumns false,
          .resize (.int 12), .resize (.text "6"), .tile (.int 12), .preferColumns true] = .grid g ∧
        g = ⟨4, 3, 12, true⟩ ∧ Tiles 12 g.place ∧
        (∃ f, g.tile (.int 12) = .error f ∧ f.kind = .layout) ∧
        ∃ t, g.tile (.int 5) = .ok t ∧ t.x = .real (.nearest (2 / 3)) := by
  have hsides : ofSides (.int 2) (.int 3) true = .ok ⟨2, 3, 6, true⟩ := rfl
  obtain ⟨g, hg, -, -, -, -, hrefused, -, htile, htiles⟩ := tiles_runAll hsides
    [.resize (.int 0), .preferColumns false, .resize (.int 12), .resize (.text "6"),
      .tile (.int 12), .preferColumns true]
  have hturned : ((Layout.grid ⟨2, 3, 6, true⟩).runAll [.resize (.int 0), .preferColumns false,
      .resize (.int 12), .resize (.text "6"), .tile (.int 12), .preferColumns true]).grid? =
        some ⟨4, 3, 12, true⟩ := by decide +kernel
  rw [hg] at hturned
  obtain rfl := Option.some.inj hturned
  have hdrawable : Drawable ⟨4, 3, 12, true⟩ := by decide +kernel
  have hfive := htile 5 (by decide)
  rw [if_pos hdrawable] at hfive
  have htwelve := (hrefused (by decide +kernel) 12 (by decide +kernel)).mpr (Or.inr le_rfl)
  exact ⟨hsides, _, hg, rfl, htiles, htwelve, _, hfive, by norm_num [place]⟩

end Grid

end PlotPage
