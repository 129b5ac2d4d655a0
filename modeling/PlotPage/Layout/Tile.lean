import PlotPage.Value.Scalar

/-!
# Tiles

A tile is a rectangle on the unit page, given by its lower left corner and its extent.  Each of the
four numbers lies between zero and one and is kept as it was given.
-/

namespace PlotPage

/-- A rectangle on the unit page. -/
structure Tile where
  x : Scalar
  y : Scalar
  width : Scalar
  height : Scalar
  deriving DecidableEq

namespace Tile

/-- Refuses a number outside the page; `side` names it. -/
def checkSide (side : String) (v : Value) : Except Fault Scalar :=
  match Scalar.ofValue? v with
  | some s =>
    if s.isUnit then .ok s else do throw (.tileOutsidePage side (← v.plain))
  | none => .error (.outside .notOrdered)

def ofValues (x y width height : Value) : Except Fault Tile := do
  return {
    x := ← checkSide "x" x
    y := ← checkSide "y" y
    width := ← checkSide "width" width
    height := ← checkSide "height" height }

/-- The tile with the given corner and extent in doubles. -/
def ofDoubles (x y width height : Double) : Except Fault Tile :=
  ofValues (.real x) (.real y) (.real width) (.real height)

def area (t : Tile) : Except Fault Scalar := t.width.mul t.height

def toValues (t : Tile) : List Value :=
  [t.x.toValue, t.y.toValue, t.width.toValue, t.height.toValue]

def lines (t : Tile) : Except Fault (List String) := do
  let origin := "set origin " ++ (← t.x.numberText) ++ "," ++ (← t.y.numberText)
  let size := "set size " ++ (← t.width.numberText) ++ "," ++ (← t.height.numberText)
  return [origin, size]

end Tile

end PlotPage
