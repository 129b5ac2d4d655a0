import PlotPage.Number.Numeral
import PlotPage.Text.Base64
import PlotPage.Value.Scalar
import PlotPage.Yaml.Cursor
import PlotPage.Yaml.Tag

/-!
# Literals

The value of a text whose kind is known.  A tag may give any text any kind, so every kind says what
is wrong with a text that denotes none of its values.
-/

namespace PlotPage.Yaml

/-- The integer of a text that is tagged as one: in base 2, 8, 10, 16 or, with colons, 60. -/
def intOf (s : String) : Except Problem Int := do
  let cs := s.toList.filter (· ≠ '_')
  match cs with
  | [] => throw (.outside .missingItem)
  | first :: rest =>
    let cs := if first = '+' || first = '-' then rest else cs
    let whole (base : Nat) (cs : List Char) : Except Problem Int :=
      match Numeral.integer? base cs with
      | some i => .ok i
      | none => .error (.outside .notNumeral)
    let magnitude ← match cs with
      | [] => throw (.outside .missingItem)
      | ['0'] => pure 0
      | '0' :: 'b' :: ds => whole 2 ds
      | '0' :: 'x' :: ds => whole 16 ds
      | '0' :: _ => whole 8 cs
      | _ => do
        let parts ← (splitColons cs).mapM (whole 10)
        pure (parts.foldl (fun n p => 60 * n + p) 0)
    return if first = '-' then -magnitude else magnitude
where
  /-- The parts between the colons. -/
  splitColons : List Char → List (List Char)
    | [] => [[]]
    | c :: cs =>
      if c = ':' then [] :: splitColons cs
      else
        match splitColons cs with
        | [] => [[c]]
        | part :: parts => (c :: part) :: parts

/-- The sum of the parts of a number in base sixty, the last part first. -/
def sumOfSixties : (base : Int) → (sum : Double) → List Double → Except Problem Double
  | _, sum, [] => .ok sum
  | base, sum, d :: ds =>
    match Scalar.doubleOfInt base with
    | .ok b => sumOfSixties (base * 60) (sum.add (d.mul b)) ds
    | .error _ => .error (.outside .tooLarge)

def nanWord : String := ".nan"

/-- The characters of a numeral without the underscores, in lower case. -/
def floatChars (s : String) : List Char := (s.toList.filter (· ≠ '_')).map Char.toLower

/-- Whether a text is the word for what is no number, with or without a sign. -/
def isNanWord (s : String) : Bool := Tag.unsigned (floatChars s) == nanWord.toList

/-- The double of a text that is tagged as one. -/
def floatOf (s : String) : Except Problem Double := do
  let cs := floatChars s
  match cs with
  | [] => throw (.outside .missingItem)
  | first :: _ =>
    let cs := Tag.unsigned cs
    let real (cs : List Char) : Except Problem Double :=
      match Numeral.read? (String.ofList cs) with
      | some d => .ok d
      | none => .error (.outside .notNumeral)
    if cs = nanWord.toList then return .nan
    let magnitude ←
      if cs = ".inf".toList then pure (.infinite false)
      else if cs.contains ':' then do
        sumOfSixties 1 (.zero false) (← (intOf.splitColons cs).mapM real).reverse
      else real cs
    return if first = '-' then magnitude.neg else magnitude

/-- The truth value of a text that is tagged as one. -/
def boolOf (s : String) : Except Problem Bool :=
  let word := String.ofList (s.toList.map Char.toLower)
  if ["yes", "true", "on"].contains word then .ok true
  else if ["no", "false", "off"].contains word then .ok false
  else .error (.outside .missingKey)

/-- The date or the moment of a text that is tagged as one. -/
def timestampOf (s : String) : Except Problem Value := do
  let cs := s.toList
  let cs := if cs.getLast? = some '\n' then cs.dropLast else cs
  match Timestamp.read? cs with
  | none => throw (.outside .noOperation)
  | some t =>
    match t.moment? with
    | none => if t.date.isValid then return .date t.date else throw (.outside .outsideCalendar)
    | some m => if Timestamp.isMoment m then return .dateTime m else throw (.outside .outsideCalendar)

/-- The bytes of a text that is tagged as such. -/
def binaryOf (s : String) : Except Problem (List UInt8) :=
  if s.toList.all (·.toNat < 128) then
    match Text.Base64.decode? s.toList with
    | some bs => .ok bs
    | none => .error .malformed
  else .error .malformed

def textValue (tag : Tag) (s : String) : Except Problem Value :=
  match tag with
  | .null => .ok .null
  | .bool => (boolOf s).map .bool
  | .int => (intOf s).map .int
  | .float => (floatOf s).map .real
  | .binary => (binaryOf s).map .bytes
  | .timestamp => timestampOf s
  | .text => .ok (.text s)
  | _ => .error .malformed

end PlotPage.Yaml
