import PlotPage.Layout.Grid

/-!
# Layouts

A layout places graphs on the page.  It is a grid or a layout that the caller brings along, which may
have any rule for its capacity, for the numbers of graphs that it refuses, and for its tiles.  Three
simple ones of the second kind have names: a layout of fixed capacity that gives every graph the
whole page, a stack of strips from the top of the page down, and a stack that refuses to hold more
than a limited number of graphs.
-/

namespace PlotPage

/-- A layout with rules of its own.  What it answers may depend on everything that it has been sized
for, latest first. -/
structure Layout.Custom where
  /-- The number of graphs it is sized for. -/
  capacityAfter : List Value → Int
  /-- Whether it accepts to be sized for what a value asks for. -/
  accept : List Value → Value → Except Fault Unit
  /-- The tile of a graph. -/
  tileAfter : List Value → Value → Except Fault Tile
  sizes : List Value

/-- A way to place graphs on the page. -/
inductive Layout where
  | grid (g : Grid)
  | custom (c : Layout.Custom)

namespace Layout

/-- The number of graphs that a layout is sized for. -/
def capacity : Layout → Int
  | .grid g => g.capacity
  | .custom c => c.capacityAfter c.sizes

/-- Sizes a layout for the number of graphs that a value asks for.  A layout that refuses stays as
it is. -/
def resize : Layout → Value → Except Fault (Layout × List Notice)
  | .grid g, v => do
    let n ← Grid.count v
    return (.grid (g.resize n), g.resizeNotices n)
  | .custom c, v => do
    c.accept c.sizes v
    return (.custom { c with sizes := v :: c.sizes }, [])

/-- The tile of a stack of `capacity` strips at a position. -/
def stackedTile (capacity : Int) (index : Value) : Except Fault Tile := do
  let height := (Double.ofInt 1).div (← Scalar.doubleOfInt capacity)
  let next ← match index with
    | .bool b => pure (Double.ofInt (if b then 2 else 1))
    | .int i => Scalar.doubleOfInt (i + 1)
    | .real d => pure (d.add (.ofInt 1))
    | _ => throw (.outside .notOrdered)
  Tile.ofDoubles (.zero false) ((Double.ofInt 1).sub (next.mul height)) (.ofInt 1) height

def tile : Layout → Value → Except Fault Tile
  | .grid g, index => g.tile index
  | .custom c, index => c.tileAfter c.sizes index

namespace Custom

/-- The number of strips of a stack: the latest size, and one at first. -/
def strips : List Value → Int
  | .int n :: _ => n
  | _ => 1

/-- A layout whose capacity never changes. -/
def fixed (capacity : Int) : Custom where
  capacityAfter _ := capacity
  accept _ _ := .ok ()
  tileAfter _ _ := Tile.ofDoubles (.zero false) (.zero false) (.ofInt 1) (.ofInt 1)
  sizes := []

/-- A stack that takes any number of graphs for which `refuses` is false. -/
def stack (refuses : Int → Bool) : Custom where
  capacityAfter := strips
  accept _ v :=
    match v with
    | .int n => if refuses n then .error (.outside .layoutRefuses) else .ok ()
    | _ => .error (.outside .notOrdered)
  tileAfter sizes := stackedTile (strips sizes)
  sizes := []

end Custom

def tileLines (l : Layout) (index : Value) : Except Fault (List String) := do
  (← l.tile index).lines

def describe : Layout → Except Fault String
  | .grid g => g.describe
  | _ => .ok "Custom"

/-- How a layout is asked for: a grid with the given sides, a layout that the caller brings along, or
a value that is none. -/
inductive Spec where
  | grid (rows columns : Value) (prefersColumns : Bool)
  | custom (c : Custom)
  | other (value : Value)

namespace Spec

def fixed (capacity : Int) : Spec := .custom (Custom.fixed capacity)

/-- The stack of strips. -/
def stacked : Spec := .custom (Custom.stack fun _ => false)

/-- The stack that refuses more than `limit` graphs. -/
def limited (limit : Int) : Spec := .custom (Custom.stack fun n => limit < n)

def build : Spec → Except Fault Layout
  | .grid rows columns prefersColumns => do
    return .grid (← Grid.ofSides rows columns prefersColumns)
  | .custom c => .ok (.custom c)
  | .other value => .error (.unexpected .layout value.kindName)

end Spec

/-- What can be done with a layout on its own. -/
inductive Command where
  | resize (n : Value)
  | tile (index : Value)
  | tiles
  | tileLines (index : Value)
  | preferColumns (prefersColumns : Bool)
  | describe

/-- The numbers of each tile of a layout. -/
def allTiles : Layout → Except Fault (List Value)
  | .grid g => (List.range g.size).mapM fun (i : Nat) => do
    return .list (← g.tile (.int i)).toValues
  | _ => .error (.outside .noOperation)

def apply (l : Layout) : Command → Outcome Layout Fault Value
  | .resize n =>
    match l.resize n with
    | .ok (l, notices) => { result := .ok .null, state := l, notices := notices }
    | .error f => { result := .error f, state := l }
  | .tile index => { result := (l.tile index).map fun t => .list t.toValues, state := l }
  | .tiles => { result := l.allTiles.map .list, state := l }
  | .tileLines index =>
    { result := (l.tileLines index).map fun ls => .list (ls.map .text), state := l }
  | .preferColumns prefersColumns =>
    match l with
    | .grid g => { result := .ok .null, state := .grid { g with prefersColumns := prefersColumns } }
    | l => { result := .ok .null, state := l }
  | .describe => { result := l.describe.map .text, state := l }

end Layout

end PlotPage
