import Mathlib.Algebra.Order.Group.Unbundled.Abs
import Mathlib.Data.Nat.Prime.Basic
import Mathlib.Logic.Relation
import PlotPage.Proofs.Layout.Tiling

/-!
# The squarest grid

The search for a divisor goes down from the square root of `n`, one number at a time, until a number
divides `n`.  A turn of the search (`Turn`) never leads to zero, because one divides everything, so
neither does a run of it (`pos_of_tries`); and the run ends at the greatest divisor that is at most
the square root (`tries_greatestDivisor`, `le_greatestDivisor`).

Of two numbers with product `n` the smaller one is at most the square root, hence at most that
divisor, and then the larger one is at least its cofactor (`sides_within`).  So no other pair lies
closer together, and the grid for `n` graphs is the squarest of all with the fewest tiles
(`squarest_of_mul_eq`).
-/

namespace PlotPage

namespace Grid

/-! ### The search for a divisor -/

/-- One turn of the search: a number that does not divide `n` gives way to the one below. -/
inductive Turn (n : ℕ) : ℕ → ℕ → Prop where
  | next {d : ℕ} (remainder : n % (d + 1) ≠ 0) : Turn n (d + 1) d

/-- The search that starts at one number comes to another. -/
abbrev Tries (n : ℕ) : ℕ → ℕ → Prop := Relation.ReflTransGen (Turn n)

/-- A turn does not lead to zero: it would have to leave one behind, which divides `n`. -/
theorem Turn.pos {n d d' : ℕ} (h : Turn n d d') : 1 ≤ d' := by
  cases h with
  | next remainder =>
    by_contra hzero
    have hone : d' + 1 = 1 := by omega
    rw [hone, Nat.mod_one] at remainder
    exact remainder rfl

/-- The search never comes to zero. -/
theorem pos_of_tries {n bound d : ℕ} (hbound : 1 ≤ bound) (h : Tries n bound d) : 1 ≤ d := by
  induction h with
  | refl => exact hbound
  | tail _ turn _ => exact turn.pos

theorem tries_greatestDivisor (n bound : ℕ) : Tries n bound (greatestDivisor n bound) := by
  induction bound with
  | zero => exact .refl
  | succ bound ih =>
    rw [greatestDivisor]
    by_cases hd : n % (bound + 1) = 0
    · rw [if_pos hd]
    · rw [if_neg hd]
      exact .head (.next hd) ih

/-- No divisor up to the bound is passed over. -/
theorem le_greatestDivisor {n d bound : ℕ} (hd : d ∣ n) (hbound : d ≤ bound) :
    d ≤ greatestDivisor n bound := by
  induction bound with
  | zero => exact hbound
  | succ bound ih =>
    rw [greatestDivisor]
    by_cases hdvd : n % (bound + 1) = 0
    · rw [if_pos hdvd]
      exact hbound
    · rw [if_neg hdvd]
      refine ih ?_
      have hne : d ≠ bound + 1 := by
        rintro rfl
        exact hdvd (Nat.mod_eq_zero_of_dvd hd)
      omega

theorem greatestDivisor_le (n bound : ℕ) : greatestDivisor n bound ≤ bound := by
  induction bound with
  | zero => exact le_rfl
  | succ bound ih =>
    rw [greatestDivisor]
    split <;> omega

/-! ### Sides -/

/-- The shorter side of the grid for `n` graphs. -/
def shortSide (n : ℕ) : ℕ := greatestDivisor n n.sqrt

/-- The longer side of the grid for `n` graphs. -/
def longSide (n : ℕ) : ℕ := n / shortSide n

theorem shape_true (n : ℕ) : shape n true = (shortSide n, longSide n) := rfl

theorem shape_false (n : ℕ) : shape n false = (longSide n, shortSide n) := rfl

section Sides

variable {n : ℕ} (hn : 1 ≤ n)

include hn

theorem shortSide_mul_longSide : shortSide n * longSide n = n := shape_mul hn true

theorem shortSide_pos : 1 ≤ shortSide n := (shape_pos hn true).1

theorem shortSide_le_longSide : shortSide n ≤ longSide n := by
  have hsquare : shortSide n * shortSide n ≤ n := Nat.le_sqrt.mp (greatestDivisor_le n n.sqrt)
  exact (Nat.le_div_iff_mul_le (shortSide_pos hn)).mpr hsquare

/-- **Any other pair of sides lies around these two.** -/
theorem sides_within {r c : ℕ} (h : r * c = n) (hrc : r ≤ c) :
    r ≤ shortSide n ∧ longSide n ≤ c := by
  have hr : 0 < r := by
    rw [Nat.pos_iff_ne_zero]
    rintro rfl
    rw [Nat.zero_mul] at h
    omega
  have hroot : r ≤ n.sqrt := by
    rw [Nat.le_sqrt, ← h]
    exact Nat.mul_le_mul_left r hrc
  have hshort : r ≤ shortSide n := le_greatestDivisor (Dvd.intro c h) hroot
  refine ⟨hshort, ?_⟩
  calc longSide n ≤ n / r := Nat.div_le_div_left hshort hr
    _ = c := by rw [← h, Nat.mul_div_cancel_left c hr]

theorem distance_le {r c : ℕ} (h : r * c = n) (hrc : r ≤ c) :
    (longSide n : ℤ) - shortSide n ≤ (c : ℤ) - r := by
  obtain ⟨hshort, hlong⟩ := sides_within hn h hrc
  omega

/-- **No grid with as many tiles is closer to a square.** -/
theorem squarest_of_mul_eq {r c : ℕ} (h : r * c = n) :
    |(longSide n : ℤ) - shortSide n| ≤ |(c : ℤ) - r| := by
  have hsides := shortSide_le_longSide hn
  have hnonneg : (0 : ℤ) ≤ longSide n - shortSide n := by omega
  rw [abs_of_nonneg hnonneg]
  rcases le_total r c with hrc | hcr
  · exact (distance_le hn h hrc).trans (le_abs_self _)
  · rw [Nat.mul_comm] at h
    rw [abs_sub_comm]
    exact (distance_le hn h hcr).trans (le_abs_self _)

end Sides

/-- A prime number of graphs stands in a single strip. -/
theorem shortSide_of_prime {n : ℕ} (hn : n.Prime) : shortSide n = 1 ∧ longSide n = n := by
  have hpos : 1 ≤ n := hn.one_le
  have hmul := shortSide_mul_longSide hpos
  rcases (Nat.dvd_prime hn).mp (Dvd.intro _ hmul) with hone | hself
  · rw [hone, Nat.one_mul] at hmul
    exact ⟨hone, hmul⟩
  · -- a short side of `n` would leave one for the long side
    have hle := shortSide_le_longSide hpos
    have htwo := hn.two_le
    rw [hself] at hmul hle
    have hlong : longSide n = 1 := (Nat.mul_eq_left (by omega)).mp hmul
    omega

/-- The search for the shorter side ends: it never comes to zero, and it stops at the first number
that divides `n`. -/
structure SearchEnds (n short : ℕ) : Prop where
  pos : ∀ d, Tries n n.sqrt d → 1 ≤ d
  reached : Tries n n.sqrt short
  divides : n % short = 0
  stops : ∀ d, ¬ Turn n short d

theorem searchEnds {n : ℕ} (hn : 1 ≤ n) : SearchEnds n (shortSide n) where
  pos d hd := pos_of_tries (one_le_sqrt hn) hd
  reached := tries_greatestDivisor n n.sqrt
  divides := Nat.mod_eq_zero_of_dvd (greatestDivisor_dvd n (one_le_sqrt hn))
  stops d turn := by
    have hdvd := Nat.mod_eq_zero_of_dvd (greatestDivisor_dvd n (one_le_sqrt hn))
    rw [← shortSide] at hdvd
    generalize shortSide n = short at turn hdvd
    cases turn with
    | next remainder => exact remainder hdvd

/-- A grid has the fewest tiles that hold `n` graphs, and no grid with as few tiles is closer to a
square. -/
structure Optimal (n rows columns : ℕ) : Prop where
  holds : n ≤ rows * columns
  fewest : ∀ r c, 1 ≤ r → 1 ≤ c → n ≤ r * c → rows * columns ≤ r * c
  squarest : ∀ r c, 1 ≤ r → 1 ≤ c → r * c = rows * columns →
    |(columns : ℤ) - rows| ≤ |(c : ℤ) - r|

theorem optimal_sides {n : ℕ} (hn : 1 ≤ n) : Optimal n (shortSide n) (longSide n) where
  holds := (shortSide_mul_longSide hn).ge
  fewest r c _ _ h := by
    rw [shortSide_mul_longSide hn]
    exact h
  squarest r c _ _ h := by
    rw [shortSide_mul_longSide hn] at h
    exact squarest_of_mul_eq hn h

theorem shapeFor_natCast {n : ℕ} (hn : 1 ≤ n) (prefersColumns : Bool) :
    shapeFor (.int n) prefersColumns = .ok (shape n prefersColumns) := by
  rw [shapeFor, count_natCast hn]
  rfl

/-! ### Sizes after a history -/

/-- The grid for `n` graphs: its shape depends on the number and the preference alone. -/
def sized (n : ℕ) (prefersColumns : Bool) : Grid where
  rows := if prefersColumns then shortSide n else longSide n
  columns := if prefersColumns then longSide n else shortSide n
  capacity := n
  prefersColumns := prefersColumns

theorem resize_eq_sized (g : Grid) (n : ℕ) : g.resize n = sized n g.prefersColumns := by
  obtain ⟨rows, columns, capacity, prefersColumns⟩ := g
  cases prefersColumns <;> rfl

/-- Sizing a grid answers nothing and leaves the grid of that size. -/
theorem apply_resize_natCast (g : Grid) {n : ℕ} (hn : 1 ≤ n) :
    (Layout.apply (.grid g) (.resize (.int n))).result = .ok .null ∧
      (Layout.apply (.grid g) (.resize (.int n))).state = .grid (sized n g.prefersColumns) := by
  rw [Layout.apply, Layout.resize_grid_natCast g hn, ← resize_eq_sized]
  exact ⟨rfl, rfl⟩

theorem runAll_snoc_resize {l : Layout} {cs : List Layout.Command} {g : Grid}
    (h : l.runAll cs = .grid g) {n : ℕ} (hn : 1 ≤ n) :
    l.runAll (cs ++ [.resize (.int n)]) = .grid (sized n g.prefersColumns) := by
  have hsnoc : l.runAll (cs ++ [.resize (.int n)]) =
      ((l.runAll cs).apply (.resize (.int n))).state := by
    rw [Layout.runAll, List.foldl_append]
    rfl
  rw [hsnoc, h]
  exact (apply_resize_natCast g hn).2

/-- **Sizing a grid is optimal.**  For every positive number of graphs the search for a divisor ends
before zero, and gives sides whose product is that number, the longer one for the columns if they
are preferred and for the rows otherwise.  No grid that holds the graphs has fewer tiles, and none
with as few tiles is closer to a square; a prime number gives a single strip.  A grid that has been
sized has the sides and the capacity that the number and its preference give, whatever was done with
it before. -/
theorem sizing_optimal {n : ℕ} (hn : 1 ≤ n) : ∃ rows columns,
    shapeFor (.int n) true = .ok (rows, columns) ∧ shapeFor (.int n) false = .ok (columns, rows) ∧
      SearchEnds n rows ∧ rows * columns = n ∧ 1 ≤ rows ∧ rows ≤ columns ∧
      Optimal n rows columns ∧ (n.Prime → rows = 1 ∧ columns = n) ∧
      ∀ (g₀ g : Grid) (cs : List Layout.Command), (Layout.grid g₀).runAll cs = .grid g →
        (Layout.apply (.grid g) (.resize (.int n))).result = .ok .null ∧
          (Layout.grid g₀).runAll (cs ++ [.resize (.int n)]) = .grid
            (if g.prefersColumns then ⟨rows, columns, n, true⟩ else ⟨columns, rows, n, false⟩) := by
  refine ⟨shortSide n, longSide n, ?_, ?_, searchEnds hn, shortSide_mul_longSide hn,
    shortSide_pos hn, shortSide_le_longSide hn, optimal_sides hn, shortSide_of_prime, ?_⟩
  · rw [shapeFor_natCast hn, shape_true]
  · rw [shapeFor_natCast hn, shape_false]
  · intro g₀ g cs h
    refine ⟨(apply_resize_natCast g hn).1, ?_⟩
    rw [runAll_snoc_resize h hn]
    cases g.prefersColumns <;> rfl

/-- Twelve graphs: three rows of four, also for a grid that was turned twice and had another size in
between. -/
theorem sizing_optimal_twelve :
    shapeFor (.int 12) true = .ok (3, 4) ∧ shapeFor (.int 12) false = .ok (4, 3) ∧
      SearchEnds 12 3 ∧ Optimal 12 3 4 ∧
      (Layout.grid single).runAll ([.preferColumns false, .resize (.int 7), .resize (.int 0),
        .preferColumns true] ++ [.resize (.int 12)]) = .grid ⟨3, 4, 12, true⟩ := by
  obtain ⟨rows, columns, htrue, hfalse, hsearch, -, -, -, hoptimal, -, hsized⟩ :=
    sizing_optimal (by decide : 1 ≤ 12)
  have hshape : shapeFor (.int 12) true = .ok (3, 4) :=
    toOption_eq_some_iff.mp (by decide +kernel)
  obtain ⟨rfl, rfl⟩ : rows = 3 ∧ columns = 4 :=
    Prod.mk.inj (Except.ok.inj (htrue.symm.trans hshape))
  refine ⟨hshape, hfalse, hsearch, hoptimal, ?_⟩
  have hseven : ((Layout.grid single).runAll [.preferColumns false, .resize (.int 7),
      .resize (.int 0), .preferColumns true]).grid? = some ⟨7, 1, 7, true⟩ := by decide +kernel
  cases hl : (Layout.grid single).runAll [.preferColumns false, .resize (.int 7),
      .resize (.int 0), .preferColumns true] with
  | custom c =>
    rw [hl] at hseven
    exact absurd hseven (by simp [Layout.grid?])
  | grid g =>
    rw [hl] at hseven
    obtain rfl := Option.some.inj hseven
    exact (hsized _ _ _ hl).2

end Grid

end PlotPage
