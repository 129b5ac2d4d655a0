import PlotPage.Yaml.Literal
import PlotPage.Yaml.Merge

/-!
# Cells

Every part of a document becomes a cell that holds a value without parts or the places of the cells
it is made of.  A part that stands in several places has one cell.  A collection is made empty and
filled later, after everything that was made before it, so it may come to hold itself; what is wrong
with a document is what is found first in this order.
-/

namespace PlotPage.Yaml

/-- What a part of a document stands for, with the places of other cells for the parts inside. -/
inductive Cell where
  /-- The number that the word for what is no number stands for.  It is always the same one. -/
  | nan
  | leaf (v : Value)
  | list (items : List Nat)
  | tuple (first second : Nat)
  | set (items : List Nat)
  | map (entries : List (Nat × Nat))

namespace Cell

def empty? : Tag → Option Cell
  | .sequence => some (.list [])
  | .pairs => some (.list [])
  | .orderedPairs => some (.list [])
  | .set => some (.set [])
  | .mapping => some (.map [])
  | _ => none

/-- Whether a cell can be a key. -/
def isKey : Cell → Bool
  | .nan => true
  | .leaf v => v.isKey
  | _ => false

/-- Whether two cells at different places are the same key. -/
def sameKey : Cell → Cell → Bool
  | .nan, .nan => true
  | .leaf v, .leaf w => v.same w
  | _, _ => false

end Cell

/-- A document whose parts are being turned into cells. -/
structure CellTable where
  parts : Parts
  /-- A bound for the number of merges that are left. -/
  merges : Nat
  /-- The cells.  The first ones have the places of the parts. -/
  cells : Array (Option Cell)
  /-- The collections that are still to be filled, the last one first. -/
  unfilled : List Nat := []

namespace CellTable

def cell? (t : CellTable) (i : Nat) : Option Cell := t.cells[i]?.join

def put (t : CellTable) (i : Nat) (c : Cell) : CellTable :=
  { t with cells := t.cells.setIfInBounds i (some c) }

/-- Adds a cell that belongs to no part. -/
def push (t : CellTable) (c : Cell) : Nat × CellTable :=
  (t.cells.size, { t with cells := t.cells.push (some c) })

def leaf (ps : Parts) (i : Nat) : Except Problem Cell :=
  let tag := ps.tag i
  if [.merge, .default, .unknown].contains tag then .error .malformed
  else
    match ps.text? (ps.size + 1) i, ps.form i, tag with
    | none, _, _ => .error .malformed
    | some _, .mapping _, .timestamp => .error (.outside .notText)
    | some s, _, tag =>
      if tag = .float && isNanWord s then .ok .nan else (textValue tag s).map .leaf

/-- Makes the cell of a part unless there is one. -/
def make (t : CellTable) (i : Nat) : Except Problem CellTable :=
  if (t.cell? i).isSome then .ok t
  else
    match Cell.empty? (t.parts.tag i) with
    | some c => .ok { t.put i c with unfilled := i :: t.unfilled }
    | none => do return t.put i (← leaf t.parts i)

def makeKey (t : CellTable) (i : Nat) : Except Problem CellTable := do
  let t ← t.make i
  if (t.cell? i).any Cell.isKey then return t else throw .malformed

/-- Whether two cells are the same key. -/
def sameKey (t : CellTable) (i j : Nat) : Bool :=
  i == j ||
    match t.cell? i, t.cell? j with
    | some a, some b => a.sameKey b
    | _, _ => false

/-- Stores a value under a key among entries, the last of which comes first. -/
def store (t : CellTable) (entries : List (Nat × Nat)) (k v : Nat) : List (Nat × Nat) :=
  if entries.any fun e => t.sameKey e.1 k then
    entries.map fun e => if t.sameKey e.1 k then (e.1, v) else e
  else (k, v) :: entries

/-- Makes the cells of entries in order and stores them. -/
def makeEntries (t : CellTable) (entries : List (Nat × Nat)) :
    Except Problem (CellTable × List (Nat × Nat)) := do
  let (t, stored) ← entries.foldlM (fun (t, stored) (k, v) => do
    let t ← (← t.makeKey k).make v
    return (t, t.store stored k v)) (t, [])
  return (t, stored.reverse)

/-- Makes a pair for each item, which is a mapping of one entry. -/
def makePairs (t : CellTable) (items : List Nat) : Except Problem (CellTable × List Nat) := do
  let (t, pairs) ← items.foldlM (fun (t, pairs) item => do
    match t.parts.form item with
    | .mapping [(k, v)] =>
      let t ← (← t.make k).make v
      let (p, t) := t.push (.tuple k v)
      return (t, p :: pairs)
    | _ => throw .malformed) (t, [])
  return (t, pairs.reverse)

/-- The entries of a mapping that has taken its merges. -/
def mergedEntries (t : CellTable) (i : Nat) :
    Except Problem (CellTable × List (Nat × Nat)) := do
  let parts ← t.parts.merge (t.merges + 1) [] i
  { t with parts }.makeEntries (parts.entries i)

def fill (t : CellTable) (i : Nat) : Except Problem CellTable := do
  match t.parts.tag i, t.parts.form i with
  | .sequence, .sequence items =>
    let t ← items.foldlM make t
    return t.put i (.list items)
  | .pairs, .sequence items | .orderedPairs, .sequence items =>
    let (t, pairs) ← t.makePairs items
    return t.put i (.list pairs)
  | .set, .mapping _ =>
    let (t, entries) ← t.mergedEntries i
    return t.put i (.set (entries.map Prod.fst))
  | .mapping, .mapping _ =>
    let (t, entries) ← t.mergedEntries i
    return t.put i (.map entries)
  | _, _ => throw .malformed

/-- Fills all collections in the order in which they are made. -/
def fillAll : (fuel : Nat) → CellTable → Except Problem CellTable
  | 0, t => .ok t
  | fuel + 1, t =>
    if t.unfilled.isEmpty then .ok t
    else do fillAll fuel (← t.unfilled.reverse.foldlM fill { t with unfilled := [] })

/-- The cells of a document.  In each round at least one part gets a cell. -/
def ofOutline (o : Outline) : Except Problem CellTable := do
  let t : CellTable := ⟨o.parts, o.parts.entryCount, Array.replicate o.parts.size none, []⟩
  fillAll (o.parts.size + 1) (← t.make o.root)

end CellTable

end PlotPage.Yaml
