import PlotPage.Value.SetOrder
import PlotPage.Yaml.Cell
import PlotPage.Yaml.Outline

/-!
# The value of a document

The cells of a document become a value from the innermost parts outwards.  Where a part holds itself
this never ends: such parts are unrolled, and each carries the place of its cell as its mark.  They
are unrolled deep enough that no one who goes down a few levels and then writes out what is there
comes to the end, because writing stops at the first mark that it meets again.
-/

namespace PlotPage.Yaml

/-- The value of a cell when the cells inside have the given values. -/
def Cell.value (mark : Option Nat) (look : Nat → Value) : Cell → Value
  | .nan => .real .nan
  | .leaf v => v
  | .list items => .list (items.map look) mark
  | .tuple a b => .tuple [look a, look b] mark
  | .set items => Value.ofItems (items.map look)
  | .map entries => .map (entries.map fun e => (look e.1, look e.2)) mark

/-- The places of the cells inside a cell. -/
def Cell.places : Cell → List Nat
  | .nan => []
  | .leaf _ => []
  | .list items => items
  | .tuple a b => [a, b]
  | .set items => items
  | .map entries => entries.flatMap fun e => [e.1, e.2]

namespace CellTable

/-- The values of cells as far as they are known. -/
abbrev Values := Array (Option Value)

def Values.at (vs : Values) (i : Nat) : Value := vs[i]?.join.getD .null

def Values.knows (vs : Values) (i : Nat) : Bool := (vs[i]?.join).isSome

/-- Finds the values of cells with nothing unknown inside, from the last cell to the first. -/
def settle (t : CellTable) (vs : Values) : Values :=
  (List.range t.cells.size).foldr (fun i vs =>
    match t.cell? i with
    | some c =>
      if !vs.knows i && c.places.all vs.knows then vs.setIfInBounds i (some (c.value none vs.at))
      else vs
    | none => vs) vs

/-- Finds values until the one at a place is known or nothing is left but cells that come to hold
themselves. -/
def settleAll (t : CellTable) (root : Nat) : (fuel : Nat) → Values → Values
  | 0, vs => vs
  | fuel + 1, vs =>
    let more := t.settle vs
    if more.knows root || more.all fun v => v.isSome then more
    else if (more.filter Option.isSome).size = (vs.filter Option.isSome).size then vs
    else settleAll t root fuel more

/-- Unrolls the cells at the given places by one level. -/
def unroll (t : CellTable) (places : List Nat) (vs : Values) : Values :=
  places.foldr (fun i vs =>
    match t.cell? i with
    | some c => vs.setIfInBounds i (some (c.value (some i) vs.at))
    | none => vs) vs

/-- The number of levels that anyone goes down before writing out what is there. -/
def depthInView : Nat := 80

def value (t : CellTable) (root : Nat) : Value :=
  let vs := t.settleAll root (t.cells.size + 1) (Array.replicate t.cells.size none)
  let endless := (List.range t.cells.size).filter fun i => !vs.knows i && (t.cell? i).isSome
  if vs.knows root then vs.at root
  else ((List.range (endless.length + depthInView)).foldl (fun vs _ => t.unroll endless vs) vs).at root

end CellTable

def Outline.value (o : Outline) : Except Problem Value := do
  return (← CellTable.ofOutline o).value o.root

end PlotPage.Yaml
