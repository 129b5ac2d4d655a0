import PlotPage.Number.Double

/-!
# Shortest decimals

Among the decimals that round to a double, the shortest one has the fewest digits, and of several
with that many digits it is the nearest to the double.  Every finite double is itself a decimal,
because 2^-k = 5^k · 10^-k, so the search compares whole numbers only.
-/

namespace PlotPage

/-- The number `coefficient · 10^exponent`. -/
structure Decimal where
  coefficient : Nat
  exponent : Int
  deriving DecidableEq, Repr

namespace Decimal

/-- The digits of a natural number, most significant first. -/
def digits (n : Nat) : List Char := Nat.toDigits 10 n

def size (n : Nat) : Nat := (digits n).length

/-- The double nearest to a decimal.  A decimal beyond 10^310 or below 10^-330 is decided by its
size alone, so that a far exponent costs nothing. -/
def toDouble (negative : Bool) (d : Decimal) : Double :=
  if d.coefficient = 0 then .zero negative
  else if 310 < d.exponent + size d.coefficient then .infinite negative
  else if d.exponent + size d.coefficient < -330 then .zero negative
  else if 0 ≤ d.exponent then .ofRatio negative (d.coefficient * Nat.pow 10 d.exponent.toNat) 1
  else .ofRatio negative d.coefficient (Nat.pow 10 (-d.exponent).toNat)

/-- The same number without zeros at the end of the coefficient. -/
def trimZeros : (fuel : Nat) → Decimal → Decimal
  | 0, d => d
  | fuel + 1, d =>
    if d.coefficient ≠ 0 ∧ d.coefficient % 10 = 0 then
      trimZeros fuel ⟨d.coefficient / 10, d.exponent + 1⟩
    else d

end Decimal

namespace Double

/-- The exact value of a mantissa and an exponent as a decimal: mantissa · 2^(exponent - 1074). -/
def exactDecimal (mantissa exponent : Nat) : Decimal :=
  if 1074 ≤ exponent then ⟨mantissa * Nat.pow 2 (exponent - 1074), 0⟩
  else ⟨mantissa * Nat.pow 5 (1074 - exponent), -((1074 - exponent : Nat) : Int)⟩

/-- Of the two decimals around `exact` with `cut` digits left out, the one that rounds to
`target`; of two such decimals the nearer, and of two equally near the even one. -/
def neighbour? (target : Double) (negative : Bool) (exact : Decimal) (cut : Nat) :
    Option Decimal :=
  let low : Decimal := ⟨exact.coefficient / Nat.pow 10 cut, exact.exponent + cut⟩
  let high : Decimal := ⟨exact.coefficient / Nat.pow 10 cut + 1, exact.exponent + cut⟩
  if low.toDouble negative = target then
    if high.toDouble negative = target then
      if roundDiv exact.coefficient (Nat.pow 10 cut) = low.coefficient then some low else some high
    else some low
  else if high.toDouble negative = target then some high
  else none

/-- The shortest decimal that rounds to a finite double. -/
def shortest (negative : Bool) (mantissa exponent : Nat) : Decimal :=
  let exact := exactDecimal mantissa exponent
  let size := Decimal.size exact.coefficient
  let target := ofParts negative mantissa exponent
  let found := (List.range (min 17 size)).findSome? fun i =>
    neighbour? target negative exact (size - (i + 1))
  let decimal := found.getD exact
  decimal.trimZeros size

end Double

end PlotPage
