import PlotPage.Value.Scalar

/-!
# Tables

A table is a rectangle of doubles.  It is read from nested sequences whose leaves denote numbers: a
flat sequence is a single column, and a sequence of sequences gives rows.  The shape is settled
before any leaf is read, so a ragged table is refused whatever it holds.
-/

namespace PlotPage

abbrev Table := List (List Double)

namespace Table

/-- The deepest nesting that a table may have. -/
def maxDepth : Nat := 64

mutual
/-- The lengths of a nested sequence, from the outermost inwards; none if it is ragged. -/
def shape? : Value → Option (List Nat)
  | .list items _ => sharedShape? items
  | .tuple items _ => sharedShape? items
  | _ => some []

/-- The shape of a sequence with the given items, which must all have the same shape. -/
def sharedShape? : List Value → Option (List Nat)
  | [] => some [0]
  | v :: vs =>
    match shape? v with
    | none => none
    | some s => if haveShape s vs then some ((vs.length + 1) :: s) else none

/-- Whether all items have the given shape. -/
def haveShape (s : List Nat) : List Value → Bool
  | [] => true
  | v :: vs => shape? v == some s && haveShape s vs
end

mutual
def leaves : Value → List Value
  | .list items _ => itemLeaves items
  | .tuple items _ => itemLeaves items
  | v => [v]

def itemLeaves : List Value → List Value
  | [] => []
  | v :: vs => leaves v ++ itemLeaves vs
end

/-- The number that a leaf denotes; nothing is no number. -/
def leafDouble : Value → Except Fault Double
  | .null => .ok .nan
  | v => v.toDouble

/-- Cuts a list into pieces of the given length. -/
def pieces {α : Type} (length : Nat) : (count : Nat) → List α → List (List α)
  | 0, _ => []
  | count + 1, as => as.take length :: pieces length count (as.drop length)

/-- The shape and the numbers of a nested sequence. -/
def numbers (v : Value) : Except Fault (List Nat × List Double) :=
  match shape? v with
  | none => .error (.outside .ragged)
  | some s =>
    if maxDepth < s.length then .error (.outside .ragged)
    else do return (s, ← (leaves v).mapM leafDouble)

/-- Names a fault of a table: texts and values that are no numbers make it not numeric, and a
number that is too large stays as it is. -/
def nameFault (f : Fault) : Fault :=
  if f.kind = .type || f.kind = .value then .tableNotNumeric f else f

/-- The numbers of rows and columns of a shape: a flat sequence is a single column. -/
def dimensions : List Nat → Except Fault (Nat × Nat)
  | [n] => .ok (n, 1)
  | [r, c] => .ok (r, c)
  | s => .error (.tableDimensions s.length)

/-- The table that a value denotes; it has at least one row and one column. -/
def ofValue (v : Value) : Except Fault Table := do
  let read ← (numbers v).mapError nameFault
  let size ← dimensions read.1
  if size.1 < 1 || size.2 < 1 then throw (.tableShape size.1 size.2)
  else return pieces size.2 size.1 read.2

/-- The line that ends the inline data of one plot. -/
def terminator : String := "e"

/-- The inline data of a table: one line for each row and a terminator. -/
def lines (t : Table) : List String :=
  t.map (fun row => " ".intercalate (row.map Double.text)) ++ [terminator]

end Table

end PlotPage
