import PlotPage.Number.Rounding

/-!
# Double-precision numbers

A finite double is a sign, a mantissa below 2^53 and an exponent, and stands for
mantissa · 2^exponent units of 2^-1074.  The mantissa is at least 2^52 unless the exponent is zero,
so every number has one representation.  A quotient is rounded to the nearest double in exact
integer arithmetic: `Double.ofRatio` is the only place where anything is rounded.
-/

namespace PlotPage

/-- The pairs of mantissa and exponent that a finite double may have. -/
def Double.Canonical (mantissa exponent : Nat) : Prop :=
  mantissa < Nat.pow 2 53 ∧ exponent ≤ 2045 ∧ (exponent = 0 ∨ Nat.pow 2 52 ≤ mantissa)

instance (mantissa exponent : Nat) : Decidable (Double.Canonical mantissa exponent) :=
  inferInstanceAs (Decidable (_ ∧ _ ∧ _))

/-- A double-precision number. -/
inductive Double where
  | nan
  | infinite (negative : Bool)
  | finite (negative : Bool) (mantissa exponent : Nat)
      (canonical : Double.Canonical mantissa exponent)
  deriving DecidableEq

namespace Double

/-- The double with these parts; an infinity when the exponent is too large. -/
def ofParts (negative : Bool) (mantissa exponent : Nat) : Double :=
  if h : Canonical mantissa exponent then .finite negative mantissa exponent h
  else .infinite negative

def zero (negative : Bool) : Double := .finite negative 0 0 (by decide)

/-- One unit of the coarsest common grid is 2^-1074. -/
def unitsPerOne : Nat := Nat.pow 2 1074

/-- The double nearest to `num / den` with the given sign; a tie goes to the even mantissa. -/
def ofRatio (negative : Bool) (num den : Nat) : Double :=
  let units := num * unitsPerOne
  let exponent := Nat.log2 (units / den) + 1 - 53
  let mantissa := roundDiv units (den * Nat.pow 2 exponent)
  if mantissa = Nat.pow 2 53 then ofParts negative (Nat.pow 2 52) (exponent + 1)
  else ofParts negative mantissa exponent

/-- The double nearest to an integer, infinite when the integer is too large. -/
def ofInt (i : Int) : Double :=
  ofRatio (i < 0) i.natAbs 1

/-- Whether a double is a number other than an infinity. -/
def isFinite : Double → Bool
  | .finite .. => true
  | _ => false

/-- The exact value of a finite double as a number of units. -/
def units : Double → Int
  | .finite negative mantissa exponent _ =>
    let size : Int := (mantissa * Nat.pow 2 exponent : Nat)
    if negative then -size else size
  | _ => 0

/-- Whether the sign bit is set; a number that is none counts as positive. -/
def isNegative : Double → Bool
  | .nan => false
  | .infinite negative => negative
  | .finite negative .. => negative

def isZero : Double → Bool
  | .finite _ mantissa _ _ => mantissa == 0
  | _ => false

/-- The number of the opposite sign. -/
def neg : Double → Double
  | .nan => .nan
  | .infinite negative => .infinite !negative
  | .finite negative mantissa exponent h => .finite (!negative) mantissa exponent h

/-- The double nearest to a number of units over `den`, keeping the sign of zero as given. -/
def ofUnits (zeroSign : Bool) (units : Int) (den : Nat) : Double :=
  ofRatio (if units = 0 then zeroSign else units < 0) units.natAbs den

/-- The sum.  Opposite numbers add up to positive zero. -/
def add : Double → Double → Double
  | .nan, _ => .nan
  | _, .nan => .nan
  | .infinite s, .infinite t => if s = t then .infinite s else .nan
  | .infinite s, .finite .. => .infinite s
  | .finite .., .infinite t => .infinite t
  | a@(.finite s ..), b@(.finite t ..) => ofUnits (s && t) (a.units + b.units) unitsPerOne

def sub (a b : Double) : Double := add a b.neg

def mul : Double → Double → Double
  | .nan, _ => .nan
  | _, .nan => .nan
  | .infinite s, b => if b.isZero then .nan else .infinite (s != b.isNegative)
  | a, .infinite t => if a.isZero then .nan else .infinite (a.isNegative != t)
  | a@(.finite s ..), b@(.finite t ..) =>
    ofRatio (s != t) (a.units.natAbs * b.units.natAbs) (unitsPerOne * unitsPerOne)

/-- The quotient; a division by zero gives an infinity, or no number for zero by zero. -/
def div : Double → Double → Double
  | .nan, _ => .nan
  | _, .nan => .nan
  | .infinite _, .infinite _ => .nan
  | .infinite s, b => .infinite (s != b.isNegative)
  | a, .infinite t => zero (a.isNegative != t)
  | a@(.finite s ..), b@(.finite t ..) =>
    if b.isZero then (if a.isZero then .nan else .infinite (s != t))
    else ofRatio (s != t) a.units.natAbs b.units.natAbs

/-- The whole number below a finite double, as an integer. -/
def floor (a : Double) : Int := a.units / (unitsPerOne : Int)

/-- Numeric order; nothing is below or above what is no number. -/
def le : Double → Double → Bool
  | .nan, _ => false
  | _, .nan => false
  | .infinite s, .infinite t => s || !t
  | .infinite s, .finite .. => s
  | .finite .., .infinite t => !t
  | a@(.finite ..), b@(.finite ..) => a.units ≤ b.units

/-- Numeric equality: both zeros are equal and what is no number differs from itself. -/
def same (a b : Double) : Bool := a.le b && b.le a

/-- Strict numeric order. -/
def lt (a b : Double) : Bool := a.le b && !b.le a

end Double

end PlotPage
