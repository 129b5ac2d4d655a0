import PlotPage.Calendar
import PlotPage.Number.Double

/-!
# Values

The values that descriptions, settings and calls are made of: nothing, truth values, integers of
any size, doubles, texts, bytes, dates, sequences of two kinds, sets, and mappings whose entries
keep their order.  Truth values count as the numbers 0 and 1, and numbers are equal when they are
equal as real numbers, whatever their kind.

A value may be a part of itself.  It is then unrolled as far as anyone looks, and every sequence and
mapping on the way back to itself carries a mark, which is the same wherever that part comes again.
-/

namespace PlotPage

/-- A value.  A mark stands on parts that may come again inside themselves. -/
inductive Value where
  | null
  | bool (b : Bool)
  | int (i : Int)
  | real (d : Double)
  | text (s : String)
  | bytes (bs : List UInt8)
  | date (d : Date)
  | dateTime (m : DateTime)
  | list (items : List Value) (mark : Option Nat := none)
  | tuple (items : List Value) (mark : Option Nat := none)
  /-- A set, whose items are all different, in the order in which it is gone through. -/
  | set (items : List Value)
  | map (entries : List (Value × Value)) (mark : Option Nat := none)

namespace Value

instance : Inhabited Value := ⟨.null⟩

/-- The name of the kind of a value, as messages give it. -/
def kindName : Value → String
  | .null => "NoneType"
  | .bool _ => "bool"
  | .int _ => "int"
  | .real _ => "float"
  | .text _ => "str"
  | .bytes _ => "bytes"
  | .date _ => "date"
  | .dateTime _ => "datetime"
  | .list _ _ => "list"
  | .tuple _ _ => "tuple"
  | .set _ => "set"
  | .map _ _ => "dict"

/-- Whether a value counts as true: anything but nothing, zero, false and what is empty. -/
def isTruthy : Value → Bool
  | .null => false
  | .bool b => b
  | .int i => i != 0
  | .real d => !d.isZero
  | .text s => s != ""
  | .bytes bs => !bs.isEmpty
  | .date _ => true
  | .dateTime _ => true
  | .list items _ => !items.isEmpty
  | .tuple items _ => !items.isEmpty
  | .set items => !items.isEmpty
  | .map entries _ => !entries.isEmpty

mutual
/-- Whether a value can be a key of a mapping: no list, set or mapping occurs in it. -/
def isKey : Value → Bool
  | .list _ _ => false
  | .set _ => false
  | .map _ _ => false
  | .tuple items _ => areKeys items
  | _ => true

/-- Whether every value of a list can be a key. -/
def areKeys : List Value → Bool
  | [] => true
  | v :: vs => isKey v && areKeys vs
end

/-- The number of units of 2^-1074 in a truth value, an integer or a finite double. -/
def units? : Value → Option Int
  | .bool b => some (if b then Double.unitsPerOne else 0)
  | .int i => some (i * Double.unitsPerOne)
  | .real d => if d.isFinite then some d.units else none
  | _ => none

/-- The instant of a moment whose distance from universal time is known, in microseconds; of
another moment the microseconds on its own clock. -/
def instant (m : DateTime) : Int :=
  let minutes : Int := (m.date.toDays * 1440 + m.hour * 60 + m.minute : Nat)
  ((minutes - m.offset.getD 0) * 60 + m.second) * 1000000 + m.micro

/-- Whether two values without parts are equal. -/
def sameLeaf : Value → Value → Bool
  | .null, .null => true
  | .text s, .text t => s == t
  | .bytes as, .bytes bs => as == bs
  | .date d, .date e => d == e
  | .dateTime m, .dateTime n => m.offset.isSome == n.offset.isSome && instant m == instant n
  | .real (.infinite s), .real (.infinite t) => s == t
  | v, w =>
    match units? v, units? w with
    | some a, some b => a == b
    | _, _ => false

mutual
/-- Equality of values.  Numbers of all kinds are compared as real numbers, sets without regard to
order, and mappings as sets of entries. -/
def same : Value → Value → Bool
  | .list xs _, w => match w with | .list ys _ => sameItems xs ys | _ => false
  | .tuple xs _, w => match w with | .tuple ys _ => sameItems xs ys | _ => false
  | .set xs, w => match w with | .set ys => xs.length == ys.length && areAmong xs ys | _ => false
  | .map xs _, w =>
    match w with
    | .map ys _ => xs.length == ys.length && sameEntries xs ys
    | _ => false
  | v, w => sameLeaf v w

/-- Equality of sequences, item by item. -/
def sameItems : List Value → List Value → Bool
  | [], ys => ys.isEmpty
  | x :: xs, ys => match ys with | [] => false | y :: ys => same x y && sameItems xs ys

/-- Whether each value has an equal one among the other values. -/
def areAmong : List Value → List Value → Bool
  | [], _ => true
  | x :: xs, ys => ys.any (fun y => same x y) && areAmong xs ys

/-- Whether each entry has an equal one among the other entries. -/
def sameEntries : List (Value × Value) → List (Value × Value) → Bool
  | [], _ => true
  | (k, v) :: xs, ys => ys.any (fun e => same k e.1 && same v e.2) && sameEntries xs ys
end

def lookup (entries : List (Value × Value)) (key : Value) : Option Value :=
  (entries.find? fun e => same e.1 key).map Prod.snd

def field (entries : List (Value × Value)) (name : String) : Option Value :=
  lookup entries (.text name)

/-- Stores a value under a key.  A key that is there already keeps its place and its form. -/
def insert (entries : List (Value × Value)) (key value : Value) : List (Value × Value) :=
  match entries with
  | [] => [(key, value)]
  | (k, v) :: rest => if same k key then (k, value) :: rest else (k, v) :: insert rest key value

/-- The mapping that results from storing the given entries in order. -/
def ofEntries (entries : List (Value × Value)) : Value :=
  .map (entries.foldl (fun m e => insert m e.1 e.2) [])

end Value

end PlotPage
