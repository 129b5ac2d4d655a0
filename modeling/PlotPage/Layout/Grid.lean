import PlotPage.Journal
import PlotPage.Layout.Tile

/-!
# Grids

A grid divides the page into rows and columns of equal tiles, which are filled row by row from the
top left corner:

    +-----+-----+-----+
    |  0  |  1  |  2  |     2 rows, 3 columns
    +-----+-----+-----+
    |  3  |  4  |  5  |
    +-----+-----+-----+

A grid for `n` graphs has exactly `n` tiles.  Its shorter side is the greatest divisor of `n` whose
square is at most `n`, so no grid with as few tiles is closer to a square, and a prime number of
graphs stands in a single strip.  The longer side goes to the columns if they are preferred.
-/

namespace PlotPage

/-- A division of the page into equal tiles, sized for `capacity` graphs. -/
structure Grid where
  rows : Nat
  columns : Nat
  capacity : Nat
  prefersColumns : Bool
  deriving DecidableEq, Repr

namespace Grid

/-- The name under which grids report. -/
def source : String := "plotscript.layout.grid"

/-- The greatest divisor of `n` that is at most `bound`; zero if there is none. -/
def greatestDivisor (n : Nat) : (bound : Nat) → Nat
  | 0 => 0
  | bound + 1 => if n % (bound + 1) = 0 then bound + 1 else greatestDivisor n bound

/-- The numbers of rows and columns of the grid with `n` tiles. -/
def shape (n : Nat) (prefersColumns : Bool) : Nat × Nat :=
  let short := greatestDivisor n (Nat.sqrt n)
  if prefersColumns then (short, n / short) else (n / short, short)

/-- The number of graphs that a value asks for: a positive integer. -/
def count : Value → Except Fault Nat
  | .int i => if i < 1 then do throw (.gridCapacity (← (Value.int i).shown)) else .ok i.toNat
  | v => do throw (.gridCapacity (← v.shown))

/-- The numbers of rows and columns for as many graphs as a value asks for. -/
def shapeFor (n : Value) (prefersColumns : Bool) : Except Fault (Nat × Nat) := do
  return shape (← count n) prefersColumns

/-- The length of one side of a grid that a value gives: a positive integer. -/
def side (name : String) : Value → Except Fault Nat
  | .int i => if i < 1 then do throw (.gridSideSmall name (← (Value.int i).plain)) else .ok i.toNat
  | v => .error (.gridSideKind name v.kindName)

def ofSides (rows columns : Value) (prefersColumns : Bool) : Except Fault Grid := do
  let r ← side "rows" rows
  let c ← side "cols" columns
  return ⟨r, c, r * c, prefersColumns⟩

def single : Grid := ⟨1, 1, 1, true⟩

def size (g : Grid) : Nat := g.rows * g.columns

/-- The grid sized for `n` graphs. -/
def resize (g : Grid) (n : Nat) : Grid :=
  let (rows, columns) := shape n g.prefersColumns
  { g with rows := rows, columns := columns, capacity := n }

/-- What is reported when a grid is sized for `n` graphs: its new shape, if it changes. -/
def resizeNotices (g : Grid) (n : Nat) : List Notice :=
  let r := g.resize n
  if r.rows = g.rows ∧ r.columns = g.columns then []
  else [⟨.debug, source,
    s!"Grid resized for {n} graphs: {g.rows}x{g.columns} -> {r.rows}x{r.columns}"⟩]

/-- The tile of row and column `row` and `column`, counted from the top left corner.  The corner
is the exact quotient rounded once; the extent is the quotient of one and a double. -/
def tileAt (g : Grid) (row column : Nat) : Except Fault Tile := do
  let x := Double.ofRatio false column g.columns
  let y := Double.ofRatio false (g.rows - row - 1) g.rows
  let width := (Double.ofInt 1).div (← Scalar.doubleOfInt g.columns)
  let height := (Double.ofInt 1).div (← Scalar.doubleOfInt g.rows)
  Tile.ofDoubles x y width height

/-- The tile at a position that is no whole number of tiles from the start. -/
def tileAtDouble (g : Grid) (index : Double) : Except Fault Tile := do
  let columns ← Scalar.doubleOfInt g.columns
  let rest := Double.ofUnits false (index.units % columns.units) Double.unitsPerOne
  let quotient := (index.sub rest).div columns
  let below := Double.ofInt quotient.floor
  let row := if (Double.ofRatio false 1 2).lt (quotient.sub below) then below.add (.ofInt 1)
    else below
  let x := rest.div columns
  let rows ← Scalar.doubleOfInt g.rows
  let y := ((rows.sub row).sub (.ofInt 1)).div rows
  let width := (Double.ofInt 1).div columns
  let height := (Double.ofInt 1).div rows
  Tile.ofDoubles x y width height

/-- Whether a number is the position of a tile, counted from zero. -/
def hasIndex (g : Grid) : Scalar → Bool
  | .bool b => (if b then 1 else 0) < g.size
  | .int i => 0 ≤ i && i < g.size
  | .real d => (Double.zero false).le d && d.isFinite && d.units < g.size * Double.unitsPerOne

/-- The tile at a position, counted row by row from the top left corner. -/
def tile (g : Grid) (index : Value) : Except Fault Tile :=
  match Scalar.ofValue? index with
  | none => .error (.outside .notOrdered)
  | some s =>
    if g.hasIndex s then
      match s with
      | .bool b => let i := if b then 1 else 0; g.tileAt (i / g.columns) (i % g.columns)
      | .int i => g.tileAt (i.toNat / g.columns) (i.toNat % g.columns)
      | .real d => g.tileAtDouble d
    else do
      throw (.tileIndex (← index.plain) (← (Value.int g.rows).plain)
        (← (Value.int g.columns).plain))

def describe (g : Grid) : Except Fault String := do
  let rows ← (Value.int g.rows).plain
  let columns ← (Value.int g.columns).plain
  let capacity ← (Value.int g.capacity).plain
  return s!"GridGraphLayout(rows={rows}, cols={columns}, capacity={capacity})"

end Grid

end PlotPage
