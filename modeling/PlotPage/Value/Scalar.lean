import PlotPage.Fault
import PlotPage.Number.Numeral
import PlotPage.Value.Text

/-!
# Values as numbers

A scalar is a truth value, an integer or a double, as it was given.  Most places of a script take
any value that denotes a number and write it in one way: an integer keeps its digits, and anything
else becomes a double first.  Truth values are refused there.
-/

namespace PlotPage

/-- A number as it was given. -/
inductive Scalar where
  | bool (b : Bool)
  | int (i : Int)
  | real (d : Double)
  deriving DecidableEq

namespace Scalar

def toValue : Scalar → Value
  | .bool b => .bool b
  | .int i => .int i
  | .real d => .real d

def ofValue? : Value → Option Scalar
  | .bool b => some (.bool b)
  | .int i => some (.int i)
  | .real d => some (.real d)
  | _ => none

/-- The double nearest to an integer, if there is a finite one. -/
def doubleOfInt (i : Int) : Except Fault Double :=
  if (Double.ofInt i).isFinite then .ok (.ofInt i) else .error (.outside .tooLarge)

/-- The double nearest to a scalar. -/
def toDouble : Scalar → Except Fault Double
  | .bool b => .ok (.ofInt (if b then 1 else 0))
  | .int i => doubleOfInt i
  | .real d => .ok d

/-- Whether a scalar lies between zero and one, both included. -/
def isUnit : Scalar → Bool
  | .bool _ => true
  | .int i => 0 ≤ i && i ≤ 1
  | .real d => (Double.zero false).le d && d.le (.ofInt 1)

/-- Whether a scalar is zero or less; what is no number is not. -/
def isNotPositive : Scalar → Bool
  | .bool b => !b
  | .int i => i ≤ 0
  | .real d => d.le (.zero false)

/-- The product of two scalars; it is an integer when both are whole. -/
def mul (a b : Scalar) : Except Fault Scalar :=
  match whole? a, whole? b with
  | some i, some j => .ok (.int (i * j))
  | _, _ => do return .real ((← a.toDouble).mul (← b.toDouble))
where
  /-- The integer that a truth value or an integer is. -/
  whole? : Scalar → Option Int
    | .bool b => some (if b then 1 else 0)
    | .int i => some i
    | .real _ => none

end Scalar

namespace Value

/-- The plain form of a value, where one is needed. -/
def plain (v : Value) : Except Fault String :=
  match v.plain? with
  | some t => .ok t
  | none => .error (.outside .longInteger)

/-- The shown form of a value, where one is needed. -/
def shown (v : Value) : Except Fault String :=
  match v.shown? with
  | some t => .ok t
  | none => .error (.outside .longInteger)

/-- The plain form of a value, with nothing as the empty text. -/
def plainOrEmpty : Value → Except Fault String
  | .null => .ok ""
  | v => v.plain

/-- The double that a value denotes: a scalar, or a text that is a numeral.  Bytes count as the text
that they are in ASCII. -/
def toDouble : Value → Except Fault Double
  | .bool b => Scalar.toDouble (.bool b)
  | .int i => Scalar.toDouble (.int i)
  | .real d => .ok d
  | .text s =>
    match Numeral.read? s with
    | some d => .ok d
    | none => .error (.outside .notNumeral)
  | .bytes bs =>
    match Text.ofAscii? bs >>= Numeral.read? with
    | some d => .ok d
    | none => .error (.outside .notNumeral)
  | _ => .error (.outside .notNumber)

def numberText : Value → Except Fault String
  | .bool _ => .error .truthValue
  | .int i => (Value.int i).plain
  | v => do return (← v.toDouble).text

/-- Whether a text has `part` as a part, or another value has it as a member. -/
def holds (part : Char) : Value → Except Fault Bool
  | .text s => .ok (s.toList.contains part)
  | .list items _ => .ok (items.any fun v => v.same (.text (String.singleton part)))
  | .tuple items _ => .ok (items.any fun v => v.same (.text (String.singleton part)))
  | .set items => .ok (items.any fun v => v.same (.text (String.singleton part)))
  | .map entries _ => .ok (entries.any fun e => e.1.same (.text (String.singleton part)))
  | _ => .error (.outside .notContainer)

end Value

def Scalar.numberText (s : Scalar) : Except Fault String := s.toValue.numberText

end PlotPage
