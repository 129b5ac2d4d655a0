import PlotPage.Value.Scalar

/-!
# Message templates

A template is a text with directives that take arguments in turn, or by name when the only argument
is a mapping.  A directive starts with a percent sign and may carry flags, a width and a precision;
its last character says how the argument is written.  All arguments must be used.
-/

namespace PlotPage.Template

/-- What stands between the percent sign and the last character of a directive. -/
structure Layout where
  isLeft : Bool := false
  hasSign : Bool := false
  hasBlank : Bool := false
  isAlternate : Bool := false
  hasZeros : Bool := false
  width : Nat := 0
  precision : Option Nat := none

/-- The arguments that are left, and the entries of the mapping that is the only argument. -/
structure Arguments where
  items : List Value
  fields : Option (List (Value × Value))

def Arguments.ofList (items : List Value) : Arguments :=
  match items with
  | [.map entries _] => if entries.isEmpty then ⟨items, none⟩ else ⟨items, some entries⟩
  | _ => ⟨items, none⟩

/-- The template and its arguments do not fit. -/
def misfit {α : Type} : Except Fault α := .error (.outside .badArgument)

/-- The template is malformed. -/
def malformed {α : Type} : Except Fault α := .error (.outside .badTemplate)

def Arguments.next (a : Arguments) : Except Fault (Value × Arguments) :=
  match a.items with
  | [] => misfit
  | v :: vs => .ok (v, { a with items := vs })

/-- A name up to the parenthesis that closes it, and what follows. -/
def name? : (depth : Nat) → List Char → Option (List Char × List Char)
  | _, [] => none
  | depth, ')' :: cs =>
    match depth with
    | 0 => some ([], cs)
    | depth + 1 => (name? depth cs).map fun (n, rest) => (')' :: n, rest)
  | depth, c :: cs =>
    (name? (if c = '(' then depth + 1 else depth) cs).map fun (n, rest) => (c :: n, rest)

def selectName (a : Arguments) (cs : List Char) : Except Fault (Arguments × List Char) :=
  match cs with
  | '(' :: cs =>
    match a.fields with
    | none => misfit
    | some entries =>
      match name? 0 cs with
      | none => malformed
      | some (name, rest) =>
        match Value.field entries (String.ofList name) with
        | none => .error (.outside .missingKey)
        | some v => .ok ({ a with items := [v] }, rest)
  | cs => .ok (a, cs)

def flags (l : Layout) : List Char → Layout × List Char
  | '-' :: cs => flags { l with isLeft := true } cs
  | '+' :: cs => flags { l with hasSign := true } cs
  | ' ' :: cs => flags { l with hasBlank := true } cs
  | '#' :: cs => flags { l with isAlternate := true } cs
  | '0' :: cs => flags { l with hasZeros := true } cs
  | cs => (l, cs)

def numberArgument (a : Arguments) : Except Fault (Int × Arguments) := do
  let (v, a) ← a.next
  match v with
  | .int i => return (i, a)
  | .bool b => return (if b then 1 else 0, a)
  | _ => misfit

/-- The number of digits, if it is below a limit. -/
def digitsNumber (limit : Nat) (ds : List Char) : Except Fault Nat :=
  let n := Numeral.digitsValue ds
  if n < limit then .ok n else malformed

/-- The least numbers that are too large for a width and for a precision. -/
def widthLimit : Nat := 9223372036854775808
def precisionLimit : Nat := 2147483648

def width (l : Layout) (a : Arguments) (cs : List Char) :
    Except Fault (Layout × Arguments × List Char) := do
  match cs with
  | '*' :: cs =>
    let (n, a) ← numberArgument a
    if n.natAbs < widthLimit then
      return ({ l with isLeft := l.isLeft || n < 0, width := n.natAbs }, a, cs)
    else throw (.outside .tooLarge)
  | cs =>
    let n ← digitsNumber widthLimit (cs.takeWhile Char.isDigit)
    return ({ l with width := n }, a, cs.dropWhile Char.isDigit)

def precision (l : Layout) (a : Arguments) (cs : List Char) :
    Except Fault (Layout × Arguments × List Char) := do
  match cs with
  | '.' :: '*' :: cs =>
    let (n, a) ← numberArgument a
    if n.natAbs < precisionLimit then return ({ l with precision := some n.toNat }, a, cs)
    else throw (.outside .tooLarge)
  | '.' :: cs =>
    let n ← digitsNumber precisionLimit (cs.takeWhile Char.isDigit)
    return ({ l with precision := some n }, a, cs.dropWhile Char.isDigit)
  | cs => return (l, a, cs)

/-- The number of characters that are missing from the width, each of them `c`. -/
def filler (c : Char) (l : Layout) (size : Nat) : List Char := List.replicate (l.width - size) c

def padText (l : Layout) (cs : List Char) : List Char :=
  if l.isLeft then cs ++ filler ' ' l cs.length else filler ' ' l cs.length ++ cs

/-- A number in its width: zeros stand between the sign and the digits, spaces outside. -/
def padNumber (l : Layout) (negative : Bool) (mark body : List Char) : List Char :=
  let sign :=
    if negative then ['-'] else if l.hasSign then ['+'] else if l.hasBlank then [' '] else []
  let front := sign ++ mark
  let size := front.length + body.length
  if l.isLeft then front ++ body ++ filler ' ' l size
  else if l.hasZeros then front ++ filler '0' l size ++ body
  else filler ' ' l size ++ front ++ body

/-- The characters of a quoted text with all but ASCII escaped. -/
def asciiChar (c : Char) : List Char :=
  if c.toNat < 0x80 then [c]
  else if c.toNat < 0x100 then '\\' :: 'x' :: Text.hexDigits 2 c.toNat
  else if c.toNat < 0x10000 then '\\' :: 'u' :: Text.hexDigits 4 c.toNat
  else '\\' :: 'U' :: Text.hexDigits 8 c.toNat

/-- The integer that an argument is, for directives that write integers. -/
def integerOf (canRound : Bool) : Value → Except Fault Int
  | .int i => .ok i
  | .bool b => .ok (if b then 1 else 0)
  | .real d =>
    if !canRound then misfit
    else
      match d with
      | .nan => .error (.outside .notNumeral)
      | .infinite _ => .error (.outside .tooLarge)
      | d => .ok (Int.tdiv d.units Double.unitsPerOne)
  | _ => misfit

/-- An integer in base 10, 8 or 16. -/
def integer (l : Layout) (base : Nat) (mark : List Char) (capital : Bool) (i : Int) :
    Except Fault (List Char) := do
  if base = 10 then let _ ← (Value.int i).plain
  let digits := Nat.toDigits base i.natAbs
  let digits := if capital then digits.map Char.toUpper else digits
  return padNumber l (i < 0) (if l.isAlternate then mark else [])
    (padZeros (l.precision.getD 0) digits)

/-- The digits of a decimal without zeros at the end of its fraction. -/
def trimFraction (cs : List Char) : List Char :=
  if cs.contains '.' then
    Text.dropEndWhile (· == '.') (Text.dropEndWhile (· == '0') cs)
  else cs

/-- Digits with a point after the first. -/
def firstPoint : List Char → List Char
  | [] => []
  | [d] => [d]
  | d :: ds => d :: '.' :: ds

/-- The magnitude of a finite double in scientific form, as digits with a point and an exponent. -/
def scientific (mantissa exponent places : Nat) : List Char × Int :=
  let d := Double.scientificDecimal mantissa exponent places
  (firstPoint (padZeros (places + 1) (Decimal.digits d.coefficient)), d.exponent + places)

/-- Adds the point of the alternate form. -/
def withPoint (l : Layout) (cs : List Char) : List Char :=
  if l.isAlternate && !cs.contains '.' then cs ++ ['.'] else cs

/-- The magnitude of a finite double as the directive `e`, `f` or `g` writes it. -/
def magnitude (l : Layout) (form : Char) (mantissa exponent : Nat) : List Char :=
  let places := l.precision.getD 6
  let withExponent (digits : List Char) (e : Int) : List Char :=
    digits ++ 'e' :: exponentText 2 e
  if form = 'f' then withPoint l (Double.fixedDigits mantissa exponent places)
  else if form = 'e' then
    let (digits, e) := scientific mantissa exponent places
    withExponent (withPoint l digits) e
  else
    let places := max places 1
    let (digits, e) := scientific mantissa exponent (places - 1)
    let tidy (cs : List Char) := if l.isAlternate then withPoint l cs else trimFraction cs
    if -4 ≤ e && e < places then
      tidy (Double.fixedDigits mantissa exponent (places - 1 - e).toNat)
    else withExponent (tidy digits) e

def real (l : Layout) (form : Char) (d : Double) : List Char :=
  let body := match d with
    | .nan => "nan".toList
    | .infinite _ => "inf".toList
    | .finite _ mantissa exponent _ => magnitude l form.toLower mantissa exponent
  let body := if form.isUpper then body.map Char.toUpper else body
  padNumber l d.isNegative [] body

/-- The double that an argument is, for directives that write doubles. -/
def realOf : Value → Except Fault Double
  | .text _ => misfit
  | v => v.toDouble

/-- The character that an argument is. -/
def characterOf : Value → Except Fault Char
  | .text s =>
    match s.toList with
    | [c] => .ok c
    | _ => misfit
  | .real _ => misfit
  | v => do
    let i ← integerOf false v
    if 0 ≤ i && i < 0x110000 then return Char.ofNat i.toNat else throw (.outside .tooLarge)

def convert (l : Layout) (form : Char) (v : Value) : Except Fault (List Char) := do
  let cut (s : String) : List Char :=
    match l.precision with
    | some n => s.toList.take n
    | none => s.toList
  match form with
  | 's' => return padText l (cut (← v.plain))
  | 'r' => return padText l (cut (← v.shown))
  | 'a' => return padText l (cut (String.ofList ((← v.shown).toList.flatMap asciiChar)))
  | 'd' | 'i' | 'u' => integer l 10 [] false (← integerOf true v)
  | 'o' => integer l 8 ['0', 'o'] false (← integerOf false v)
  | 'x' => integer l 16 ['0', 'x'] false (← integerOf false v)
  | 'X' => integer l 16 ['0', 'X'] true (← integerOf false v)
  | 'e' | 'E' | 'f' | 'F' | 'g' | 'G' => return real l form (← realOf v)
  | 'c' => return padText l [← characterOf v]
  | _ => malformed

/-- Reads a directive after its percent sign and writes its argument. -/
def directive (a : Arguments) (cs : List Char) :
    Except Fault (List Char × Arguments × List Char) := do
  let (a, cs) ← selectName a cs
  let (l, cs) := flags {} cs
  let (l, a, cs) ← width l a cs
  let (l, a, cs) ← precision l a cs
  let cs := match cs with
    | c :: rest => if c = 'h' || c = 'l' || c = 'L' then rest else cs
    | [] => []
  match cs with
  | [] => malformed
  | form :: cs =>
    let (v, a) ← a.next
    return (← convert l form v, a, cs)

/-- Writes a template with its arguments.  Two percent signs stand for one. -/
def write : (fuel : Nat) → Arguments → List Char → Except Fault (List Char)
  | 0, _, _ => malformed
  | _ + 1, a, [] => if a.fields.isNone && !a.items.isEmpty then misfit else .ok []
  | fuel + 1, a, '%' :: '%' :: cs => do return '%' :: (← write fuel a cs)
  | fuel + 1, a, '%' :: cs => do
    let (text, a, cs) ← directive a cs
    return text ++ (← write fuel a cs)
  | fuel + 1, a, c :: cs => do return c :: (← write fuel a cs)

/-- The message of a template with arguments; without arguments the template itself. -/
def fill (template : String) (arguments : List Value) : Except Fault String :=
  if arguments.isEmpty then .ok template
  else do
    let text ← write (template.length + 1) (.ofList arguments) template.toList
    return String.ofList text

end PlotPage.Template
