import PlotPage.Number.Shortest

/-!
# Numbers as text

A double is written with its shortest decimal: positionally while the decimal point stands within
or near the digits, with an exponent otherwise.  Integers are written in full up to a limit of 4300
digits.  Fixed and scientific forms with a given number of places round the exact value, a half
going to the even digit.
-/

namespace PlotPage

/-- How the shortest decimal of a double is laid out. -/
structure DoubleFormat where
  /-- The least and the greatest position of the decimal point, counted from the first digit, at
  which the number is written without an exponent. -/
  leastPoint : Int
  greatestPoint : Int
  /-- What ends a whole number that is written without an exponent. -/
  wholeEnd : String
  /-- The least number of digits of an exponent. -/
  exponentSize : Nat
  nan : String
  infinity : String

/-- The plain form: 0.0001 and 1e-05, 1234567890123456.0 and 1e+16. -/
def DoubleFormat.plain : DoubleFormat := ⟨-3, 16, ".0", 2, "nan", "inf"⟩

/-- The form inside JSON texts, which has words of its own for what is no finite number. -/
def DoubleFormat.json : DoubleFormat := { DoubleFormat.plain with nan := "NaN", infinity := "Infinity" }

/-- Digits preceded by zeros up to the given width. -/
def padZeros (width : Nat) (digits : List Char) : List Char :=
  List.replicate (width - digits.length) '0' ++ digits

/-- The exponent of a decimal in scientific form: a sign and at least `size` digits. -/
def exponentText (size : Nat) (e : Int) : List Char :=
  (if e < 0 then '-' else '+') :: padZeros size (Decimal.digits e.natAbs)

/-- The digits of a number with the decimal point at the position `point`. -/
def DoubleFormat.layout (f : DoubleFormat) (digits : List Char) (point : Int) : List Char :=
  if f.leastPoint ≤ point && point ≤ f.greatestPoint then
    if point ≤ 0 then '0' :: '.' :: (List.replicate (-point).toNat '0' ++ digits)
    else if point < digits.length then
      digits.take point.toNat ++ '.' :: digits.drop point.toNat
    else digits ++ (List.replicate (point.toNat - digits.length) '0' ++ f.wholeEnd.toList)
  else
    match digits with
    | [] => []
    | [d] => d :: 'e' :: exponentText f.exponentSize (point - 1)
    | d :: ds => d :: '.' :: (ds ++ 'e' :: exponentText f.exponentSize (point - 1))

def signText (negative : Bool) : List Char := if negative then ['-'] else []

def Double.format (f : DoubleFormat) : Double → String
  | .nan => f.nan
  | .infinite negative => String.ofList (signText negative) ++ f.infinity
  | .finite negative mantissa exponent _ =>
    if mantissa = 0 then String.ofList (signText negative ++ '0' :: f.wholeEnd.toList)
    else
      let d := shortest negative mantissa exponent
      let digits := Decimal.digits d.coefficient
      String.ofList (signText negative ++ f.layout digits (d.exponent + digits.length))

def Double.text (d : Double) : String := d.format .plain

/-- An integer has a text if it has at most 4300 digits. -/
def intText? (i : Int) : Option String :=
  if i.natAbs < Nat.pow 10 4300 then some (toString i) else none

/-- The digits of `n` with a decimal point before the last `places` of them. -/
def pointedDigits (n places : Nat) : List Char :=
  let digits := padZeros (places + 1) (Decimal.digits n)
  if places = 0 then digits
  else digits.take (digits.length - places) ++ '.' :: digits.drop (digits.length - places)

namespace Double

/-- The magnitude of a finite double with a fixed number of places after the point. -/
def fixedDigits (mantissa exponent places : Nat) : List Char :=
  pointedDigits (roundDiv (mantissa * Nat.pow 2 exponent * Nat.pow 10 places) unitsPerOne) places

/-- The decimal of exactly `places + 1` digits nearest to a finite double. -/
def scientificDecimal (mantissa exponent places : Nat) : Decimal :=
  let exact := exactDecimal mantissa exponent
  let size := Decimal.size exact.coefficient
  if mantissa = 0 then ⟨0, -places⟩
  else if size ≤ places + 1 then
    ⟨exact.coefficient * Nat.pow 10 (places + 1 - size),
      exact.exponent - ((places + 1 - size : Nat) : Int)⟩
  else
    let c := roundDiv exact.coefficient (Nat.pow 10 (size - (places + 1)))
    let e := exact.exponent + ((size - (places + 1) : Nat) : Int)
    if c = Nat.pow 10 (places + 1) then ⟨Nat.pow 10 places, e + 1⟩ else ⟨c, e⟩

end Double

end PlotPage
