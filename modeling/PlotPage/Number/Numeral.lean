import PlotPage.Number.Text
import PlotPage.Text.Blank
import PlotPage.Text.Digit

/-!
# Reading numerals

A numeral is a decimal with an optional sign, point and exponent, or one of the words `inf`,
`infinity` and `nan` in any case.  Blanks may surround it, single underscores may stand between
two digits, and the digits may be those of any script.
-/

namespace PlotPage.Numeral

/-- Whether a character may surround a numeral: the ASCII blanks other than the information
separators, and every blank beyond ASCII. -/
def isPadding (c : Char) : Bool :=
  if c.toNat < 0x7f then (9 ≤ c.toNat && c.toNat ≤ 13) || c == ' ' else Text.isBlank c

/-- A digit of any script becomes the ASCII digit of the same value. -/
def plainDigit (c : Char) : Char :=
  if c.toNat < 0x7f then c
  else match Text.digitValue? c with
    | some v => Char.ofNat (48 + v)
    | none => c

/-- Removes the underscores; each must stand between two digits. -/
def dropUnderscores : (afterDigit : Bool) → List Char → Option (List Char)
  | _, [] => some []
  | afterDigit, '_' :: c :: cs =>
    if afterDigit && c.isDigit then (dropUnderscores true cs).map (c :: ·) else none
  | _, c :: cs =>
    if c = '_' then none else (dropUnderscores c.isDigit cs).map (c :: ·)

def digitsValue (ds : List Char) : Nat :=
  ds.foldl (fun n c => 10 * n + (c.toNat - 48)) 0

/-- An optional sign and what follows it. -/
def splitSign : List Char → Bool × List Char
  | '-' :: cs => (true, cs)
  | '+' :: cs => (false, cs)
  | cs => (false, cs)

/-- The exponent part up to the end of the numeral; an absent one is zero. -/
def exponent? : List Char → Option Int
  | [] => some 0
  | c :: cs =>
    if c = 'e' || c = 'E' then
      let (negative, ds) := splitSign cs
      if ds ≠ [] && ds.all Char.isDigit then
        some (if negative then -(digitsValue ds : Int) else digitsValue ds)
      else none
    else none

def decimal? (cs : List Char) : Option Decimal :=
  let whole := cs.takeWhile Char.isDigit
  match cs.dropWhile Char.isDigit with
  | '.' :: rest =>
    let fraction := rest.takeWhile Char.isDigit
    if whole = [] && fraction = [] then none
    else (exponent? (rest.dropWhile Char.isDigit)).map fun e =>
      ⟨digitsValue (whole ++ fraction), e - fraction.length⟩
  | rest =>
    if whole = [] then none
    else (exponent? rest).map fun e => ⟨digitsValue whole, e⟩

/-- The number that a numeral without padding denotes. -/
def ofChars? (cs : List Char) : Option Double :=
  let (negative, rest) := splitSign cs
  let word := rest.map Char.toLower
  if word = "inf".toList || word = "infinity".toList then some (.infinite negative)
  else if word = "nan".toList then some .nan
  else (decimal? rest).map (Decimal.toDouble negative)

def read? (s : String) : Option Double :=
  let cs := Text.dropEndWhile isPadding (s.toList.dropWhile isPadding)
  (dropUnderscores false (cs.map plainDigit)).bind ofChars?

/-- The value of a digit in a base up to 16. -/
def digitIn? (base : Nat) (c : Char) : Option Nat :=
  let value :=
    if c.isDigit then c.toNat - 48
    else if 'a' ≤ c && c ≤ 'f' then c.toNat - 87
    else if 'A' ≤ c && c ≤ 'F' then c.toNat - 55
    else base
  if value < base then some value else none

/-- Digits without the mark of their base: 0b, 0o or 0x. -/
def dropBaseMark (base : Nat) : List Char → List Char
  | '0' :: c :: cs =>
    if (base, c.toLower) ∈ [(2, 'b'), (8, 'o'), (16, 'x')] then cs else '0' :: c :: cs
  | cs => cs

/-- The integer that a text without underscores denotes in base 2, 8, 10 or 16.  In base 10 it has
at most 4300 digits. -/
def integer? (base : Nat) (cs : List Char) : Option Int :=
  let cs := (Text.dropEndWhile isPadding (cs.dropWhile isPadding)).map plainDigit
  let (negative, rest) := splitSign cs
  let digits := dropBaseMark base rest
  if digits.isEmpty || (base = 10 && 4300 < digits.length) then none
  else
    (digits.mapM (digitIn? base)).map fun ds =>
      let n : Nat := ds.foldl (fun n d => base * n + d) 0
      if negative then -(n : Int) else (n : Int)

end PlotPage.Numeral
