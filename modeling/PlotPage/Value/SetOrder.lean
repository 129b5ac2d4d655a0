import PlotPage.Value.Basic

/-!
# The order of sets

A set of numbers is gone through slot by slot.  Equal numbers have equal codes, whatever their kind:
the code of a number is its residue modulo a prime, and a negative one counts down from the top of
the 64-bit range.  Each number takes the first free slot on a path that its code determines.  A set
with other values keeps the order in which they came.
-/

namespace PlotPage.Value

/-- The prime 2^61 - 1. -/
def codePrime : Nat := 2305843009213693951

/-- The code of a number from its residue and its sign.  The top of the range is left out. -/
def signedCode (isNegative : Bool) (residue : Nat) : Nat :=
  if isNegative && residue ≠ 0 then Nat.pow 2 64 - (if residue = 1 then 2 else residue) else residue

/-- The code of a number.  Modulo the prime 2^-1074 is 2^24, so the residue of a number comes from
its units of 2^-1074. -/
def code? : Value → Option Nat
  | .real (.infinite isNegative) => some (signedCode isNegative 314159)
  | v => (units? v).map fun u => signedCode (u < 0) (u.natAbs * Nat.pow 2 24 % codePrime)

/-- The number of slots for `n` values: a power of two, eight for few values and otherwise more than
twice their number. -/
def slotCount (n : Nat) : Nat := if n < 5 then 8 else Nat.pow 2 (Nat.log2 (2 * n) + 1)

/-- The first free slot on the path of a code.  Where ten slots are left they are tried one after
the other, and elsewhere only one; then the path jumps. -/
def freeSlot (isTaken : Nat → Bool) (size : Nat) : (fuel : Nat) → (slot code : Nat) → Nat
  | 0, slot, _ => slot
  | fuel + 1, slot, code =>
    match (List.range (if slot + 9 < size then 10 else 1)).find? fun k => !isTaken (slot + k) with
    | some k => slot + k
    | none => freeSlot isTaken size fuel ((slot * 5 + 1 + code / 32) % size) (code / 32)

/-- Puts a value with a code into a free slot. -/
def putInSlot (slots : Array (Option Value)) (v : Value) (code : Nat) : Array (Option Value) :=
  let isTaken i := (slots.getD i none).isSome
  let size := slots.size
  slots.setIfInBounds (freeSlot isTaken size (size + 64) (code % size) code) (some v)

/-- The set of the given values, all of them different. -/
def ofItems (vs : List Value) : Value :=
  match vs.mapM code? with
  | none => .set vs
  | some codes =>
    let slots := (vs.zip codes).foldl (fun slots (v, code) => putInSlot slots v code)
      (Array.replicate (slotCount vs.length) none)
    .set (slots.toList.filterMap id)

end PlotPage.Value
