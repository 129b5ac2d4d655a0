import Mathlib.Data.Nat.Sqrt
import PlotPage.Layout.Basic
import PlotPage.Proofs.Number.UnitInterval
import PlotPage.Proofs.Result

/-!
# Sizes of grids

The search of `greatestDivisor` starts at the square root and ends at one at the latest, so it finds
a divisor, and a grid sized for `n` graphs has exactly `n` tiles (`shape_mul`).  A grid accepts every
positive size, its tiles are those from zero up to its size, and each of them lies on the page
(`tileLines_grid`): only sides that are too large for a double have no tiles.
-/

namespace PlotPage

namespace Grid

theorem greatestDivisor_dvd (n : Nat) : ∀ {bound : Nat}, 1 ≤ bound →
    greatestDivisor n bound ∣ n := by
  intro bound
  induction bound with
  | zero => intro h; omega
  | succ bound ih =>
    intro _
    rw [greatestDivisor]
    by_cases hd : n % (bound + 1) = 0
    · rw [if_pos hd]
      exact Nat.dvd_of_mod_eq_zero hd
    · rw [if_neg hd]
      refine ih ?_
      by_contra hzero
      have hbound : bound = 0 := by omega
      exact hd (by rw [hbound, Nat.mod_one])

theorem one_le_sqrt {n : Nat} (hn : 1 ≤ n) : 1 ≤ n.sqrt := Nat.sqrt_pos.mpr hn

/-- **A grid for `n` graphs has exactly `n` tiles.** -/
theorem shape_mul {n : Nat} (hn : 1 ≤ n) (prefersColumns : Bool) :
    (shape n prefersColumns).1 * (shape n prefersColumns).2 = n := by
  have hd := greatestDivisor_dvd n (one_le_sqrt hn)
  unfold shape
  cases prefersColumns with
  | true => exact Nat.mul_div_cancel' hd
  | false => exact Nat.div_mul_cancel hd

theorem shape_pos {n : Nat} (hn : 1 ≤ n) (prefersColumns : Bool) :
    1 ≤ (shape n prefersColumns).1 ∧ 1 ≤ (shape n prefersColumns).2 := by
  have hmul := shape_mul hn prefersColumns
  constructor
  · exact Nat.pos_of_mul_pos_right (hmul ▸ hn)
  · exact Nat.pos_of_mul_pos_left (hmul ▸ hn)

/-- A grid whose rows and columns make up its capacity. -/
def Full (g : Grid) : Prop := g.rows * g.columns = g.capacity

theorem full_resize (g : Grid) {n : Nat} (hn : 1 ≤ n) : (g.resize n).Full :=
  shape_mul hn g.prefersColumns

@[simp] theorem capacity_resize (g : Grid) (n : Nat) : (g.resize n).capacity = n := rfl

theorem count_natCast {n : Nat} (hn : 1 ≤ n) : count (.int n) = .ok n := by
  rw [count, if_neg (by omega), Int.toNat_natCast]

/-- Only a positive integer is a number of graphs. -/
theorem count_eq_ok_iff {v : Value} {n : Nat} : count v = .ok n ↔ 1 ≤ n ∧ v = .int n := by
  constructor
  · intro h
    unfold count at h
    split at h
    · split at h
      · exact absurd h (by simp)
      · rename_i i hi
        obtain rfl := Except.ok.inj h
        exact ⟨by omega, by rw [Int.toNat_of_nonneg (by omega)]⟩
    · exact absurd h (by simp)
  · rintro ⟨hn, rfl⟩
    exact count_natCast hn

theorem side_eq_ok {name : String} {v : Value} {n : Nat} (h : side name v = .ok n) : 1 ≤ n := by
  unfold side at h
  split at h
  · split at h
    · exact absurd h (by simp)
    · obtain rfl := Except.ok.inj h
      omega
  · exact absurd h (by simp)

theorem full_of_ofSides {rows columns : Value} {prefersColumns : Bool} {g : Grid}
    (h : ofSides rows columns prefersColumns = .ok g) : g.Full := by
  simp only [ofSides, bind_eq_ok_iff, pure_eq_ok_iff] at h
  obtain ⟨r, -, c, -, rfl⟩ := h
  rfl

/-- The tile at a position inside a grid. -/
theorem tile_natCast {g : Grid} {i : Nat} (hi : i < g.size) :
    g.tile (.int i) = g.tileAt (i / g.columns) (i % g.columns) := by
  have hindex : g.hasIndex (.int i) = true := by
    rw [hasIndex, Bool.and_eq_true, decide_eq_true_eq, decide_eq_true_eq]
    omega
  rw [tile, Scalar.ofValue?]
  simp only [hindex, if_true, Int.toNat_natCast]

/-- Both sides have a finite double. -/
def Drawable (g : Grid) : Prop :=
  (Double.ofInt g.rows).isFinite = true ∧ (Double.ofInt g.columns).isFinite = true

instance (g : Grid) : Decidable g.Drawable := inferInstanceAs (Decidable (_ ∧ _))

/-- The rectangle of row and column `row` and `column`. -/
def rectangle (rows columns row column : Nat) : Tile where
  x := .real (Double.ofRatio false column columns)
  y := .real (Double.ofRatio false (rows - row - 1) rows)
  width := .real ((Double.ofInt 1).div (Double.ofInt columns))
  height := .real ((Double.ofInt 1).div (Double.ofInt rows))

theorem checkSide_real {name : String} {d : Double} (h : (Scalar.real d).isUnit = true) :
    Tile.checkSide name (.real d) = .ok (.real d) := if_pos h

theorem ofDoubles_eq {x y width height : Double} (hx : (Scalar.real x).isUnit = true)
    (hy : (Scalar.real y).isUnit = true) (hwidth : (Scalar.real width).isUnit = true)
    (hheight : (Scalar.real height).isUnit = true) : Tile.ofDoubles x y width height =
      .ok ⟨.real x, .real y, .real width, .real height⟩ := by
  rw [Tile.ofDoubles, Tile.ofValues, checkSide_real hx, checkSide_real hy, checkSide_real hwidth,
    checkSide_real hheight]
  rfl

theorem doubleOfInt_of_finite {i : Int} (h : (Double.ofInt i).isFinite = true) :
    Scalar.doubleOfInt i = .ok (.ofInt i) := if_pos h

theorem doubleOfInt_of_not_finite {i : Int} (h : ¬ (Double.ofInt i).isFinite = true) :
    Scalar.doubleOfInt i = .error (.outside .tooLarge) := if_neg h

/-- **A tile inside a grid lies on the page.** -/
theorem tileAt_eq {g : Grid} {row column : Nat} (hrow : row < g.rows) (hcolumn : column < g.columns) :
    g.tileAt row column = if g.Drawable then .ok (rectangle g.rows g.columns row column)
      else .error (.outside .tooLarge) := by
  have hx := Scalar.isUnit_ofRatio (by omega : 0 < g.columns) (by omega : column ≤ g.columns)
  have hy := Scalar.isUnit_ofRatio (by omega : 0 < g.rows) (by omega : g.rows - row - 1 ≤ g.rows)
  by_cases hcolumns : (Double.ofInt g.columns).isFinite = true
  · have hwidth := Scalar.isUnit_inverse (by omega : 1 ≤ g.columns) hcolumns
    by_cases hrows : (Double.ofInt g.rows).isFinite = true
    · have hheight := Scalar.isUnit_inverse (by omega : 1 ≤ g.rows) hrows
      rw [if_pos ⟨hrows, hcolumns⟩, tileAt, doubleOfInt_of_finite hcolumns,
        doubleOfInt_of_finite hrows, ok_bind, ok_bind, ofDoubles_eq hx hy hwidth hheight, rectangle]
    · rw [if_neg fun h => hrows h.1, tileAt, doubleOfInt_of_finite hcolumns,
        doubleOfInt_of_not_finite hrows, ok_bind, error_bind]
  · rw [if_neg fun h => hcolumns h.2, tileAt, doubleOfInt_of_not_finite hcolumns, error_bind]

/-- The lines of the tile at a position of a grid with the given sides. -/
def placeLines (rows columns i : Nat) : List String :=
  ["set origin " ++ (Double.ofRatio false (i % columns) columns).text ++ "," ++
      (Double.ofRatio false (rows - i / columns - 1) rows).text,
    "set size " ++ ((Double.ofInt 1).div (Double.ofInt columns)).text ++ "," ++
      ((Double.ofInt 1).div (Double.ofInt rows)).text]

end Grid

namespace Layout

/-- **The lines of a tile of a grid.** -/
theorem tileLines_grid {g : Grid} {i : Nat} (hi : i < g.size) :
    tileLines (.grid g) (.int i) = if g.Drawable then .ok (Grid.placeLines g.rows g.columns i)
      else .error (.outside .tooLarge) := by
  have hcolumns : 0 < g.columns := by
    rw [Nat.pos_iff_ne_zero]
    intro hzero
    rw [Grid.size, hzero, Nat.mul_zero] at hi
    exact absurd hi (Nat.not_lt_zero i)
  have hrow : i / g.columns < g.rows := (Nat.div_lt_iff_lt_mul hcolumns).mpr hi
  have hlines : ∀ x y width height : Double,
      Tile.lines ⟨.real x, .real y, .real width, .real height⟩ =
        .ok ["set origin " ++ x.text ++ "," ++ y.text,
          "set size " ++ width.text ++ "," ++ height.text] := fun _ _ _ _ => rfl
  rw [tileLines, tile, Grid.tile_natCast hi, Grid.tileAt_eq hrow (Nat.mod_lt i hcolumns)]
  by_cases hg : g.Drawable
  · rw [if_pos hg, if_pos hg, ok_bind, Grid.rectangle, hlines, Grid.placeLines]
  · rw [if_neg hg, if_neg hg, error_bind]

/-- Sizing a layout for a number of graphs, when it accepts, makes that number its capacity.  A grid
does; a layout of another kind may not, such as one of fixed capacity. -/
def Faithful : Layout → Prop
  | .grid _ => True
  | .custom c => ∀ (sizes : List Value) (n : Int),
      c.accept sizes (.int n) = .ok () → c.capacityAfter (.int n :: sizes) = n

theorem resize_grid {g : Grid} {v : Value} {l : Layout} {ns : List Notice}
    (h : resize (.grid g) v = .ok (l, ns)) :
    ∃ n : Nat, 1 ≤ n ∧ v = .int n ∧ l = .grid (g.resize n) := by
  simp only [resize, bind_eq_ok_iff, pure_eq_ok_iff, Prod.mk.injEq] at h
  obtain ⟨n, hn, rfl, -⟩ := h
  obtain ⟨hpos, rfl⟩ := Grid.count_eq_ok_iff.mp hn
  exact ⟨n, hpos, rfl, rfl⟩

theorem resize_grid_natCast (g : Grid) {n : Nat} (hn : 1 ≤ n) :
    resize (.grid g) (.int n) = .ok (.grid (g.resize n), g.resizeNotices n) := by
  rw [resize, Grid.count_natCast hn]
  rfl

/-- A grid refuses no number of graphs. -/
theorem resize_grid_ne_error {g : Grid} {n : Nat} (hn : 1 ≤ n) {f : Fault} :
    resize (.grid g) (.int n) ≠ .error f := by
  rw [resize_grid_natCast g hn]
  simp

theorem Faithful.resize {l l' : Layout} (h : l.Faithful) {v : Value} {ns : List Notice}
    (hr : l.resize v = .ok (l', ns)) : l'.Faithful := by
  cases l with
  | grid g =>
    obtain ⟨n, -, -, rfl⟩ := resize_grid hr
    exact trivial
  | custom c =>
    simp only [Layout.resize, bind_eq_ok_iff, pure_eq_ok_iff, Prod.mk.injEq] at hr
    obtain ⟨-, -, rfl, -⟩ := hr
    exact h

theorem Faithful.capacity_resize {l l' : Layout} (h : l.Faithful) {n : Int} {ns : List Notice}
    (hr : l.resize (.int n) = .ok (l', ns)) : l'.capacity = n := by
  cases l with
  | grid g =>
    obtain ⟨m, -, hm, rfl⟩ := resize_grid hr
    exact (Value.int.inj hm).symm
  | custom c =>
    simp only [Layout.resize, bind_eq_ok_iff, pure_eq_ok_iff, Prod.mk.injEq] at hr
    obtain ⟨_, ha, rfl, -⟩ := hr
    exact h c.sizes n ha

/-- Nothing but a change of size changes the capacity of a layout, or the sides of a grid. -/
theorem apply_of_ne_resize {l : Layout} {step : Command} (hs : ∀ v, step ≠ .resize v) :
    (l.apply step).state = l ∨
      ∃ g b, l = .grid g ∧ (l.apply step).state = .grid { g with prefersColumns := b } := by
  cases step with
  | resize v => exact absurd rfl (hs v)
  | preferColumns b =>
    cases l with
    | grid g => exact Or.inr ⟨g, b, rfl, rfl⟩
    | custom c => exact Or.inl rfl
  | tile index => exact Or.inl rfl
  | tiles => exact Or.inl rfl
  | tileLines index => exact Or.inl rfl
  | describe => exact Or.inl rfl

end Layout

end PlotPage
