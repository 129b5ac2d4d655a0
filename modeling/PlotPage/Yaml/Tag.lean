import PlotPage.Yaml.Timestamp

/-!
# Tags

The kinds of values that a part of a YAML text can stand for.  A plain text without a tag gets its
kind from its form: there are words for nothing and for truth values, numerals in several bases,
dates and moments, and two marks that are special as keys; any other text is a text.
-/

namespace PlotPage.Yaml

/-- The kinds of values. -/
inductive Tag where
  | null
  | bool
  | int
  | float
  | binary
  | timestamp
  | text
  | sequence
  | mapping
  | pairs
  | orderedPairs
  | set
  /-- A key whose value is a mapping to be merged. -/
  | merge
  /-- A key whose value stands for the whole mapping. -/
  | default
  | unknown
  deriving DecidableEq, Repr

namespace Tag

/-- What the full names of the known kinds begin with. -/
def space : String := "tag:yaml.org,2002:"

/-- The kinds with the last parts of their names. -/
def names : List (String × Tag) := [
  ("null", .null), ("bool", .bool), ("int", .int), ("float", .float), ("binary", .binary),
  ("timestamp", .timestamp), ("str", .text), ("seq", .sequence), ("map", .mapping),
  ("pairs", .pairs), ("omap", .orderedPairs), ("set", .set), ("merge", .merge),
  ("value", .default)]

def ofName (s : String) : Tag :=
  ((names.find? fun e => space ++ e.1 = s).map Prod.snd).getD .unknown

def nullWords : List String := ["~", "null", "Null", "NULL"]

def boolWords : List String := [
  "yes", "Yes", "YES", "no", "No", "NO", "true", "True", "TRUE", "false", "False", "FALSE",
  "on", "On", "ON", "off", "Off", "OFF"]

/-- A list of characters without a sign in front. -/
def unsigned : List Char → List Char
  | '+' :: cs => cs
  | '-' :: cs => cs
  | cs => cs

def isNumberChar (c : Char) : Bool := c.isDigit || c == '_'

/-- Whether a list is empty or an exponent, whose sign is always written. -/
def isExponent : List Char → Bool
  | [] => true
  | e :: s :: ds => (e == 'e' || e == 'E') && (s == '+' || s == '-') && !ds.isEmpty &&
      ds.all Char.isDigit
  | _ => false

/-- What is left after parts of a number in base sixty, each a colon and a number below sixty. -/
def dropSixties : List Char → List Char
  | [':', a] => if a.isDigit then [] else [':', a]
  | ':' :: a :: b :: cs =>
    if a.isDigit && b.isDigit && a ≤ '5' then dropSixties cs
    else if a.isDigit && b == ':' then dropSixties (b :: cs)
    else if a.isDigit then b :: cs
    else ':' :: a :: b :: cs
  | cs => cs
termination_by cs => cs.length

/-- Whether a list is a numeral with a point. -/
def isFloat (cs : List Char) : Bool :=
  match unsigned cs with
  | '.' :: tail =>
    ["inf", "Inf", "INF"].contains (String.ofList tail) ||
      (cs.head? = some '.' && (["nan", "NaN", "NAN"].contains (String.ofList tail) ||
        (tail.head?.any Char.isDigit && isExponent (tail.dropWhile isNumberChar))))
  | c :: tail =>
    c.isDigit &&
      match tail.dropWhile isNumberChar with
      | '.' :: places => isExponent (places.dropWhile isNumberChar)
      | ':' :: sixties =>
        match dropSixties (':' :: sixties) with
        | '.' :: places => places.all isNumberChar
        | _ => false
      | _ => false
  | [] => false

/-- Whether a list is a numeral of an integer. -/
def isInt (cs : List Char) : Bool :=
  match unsigned cs with
  | '0' :: 'b' :: ds => !ds.isEmpty && ds.all fun c => c == '0' || c == '1' || c == '_'
  | '0' :: 'x' :: ds =>
    !ds.isEmpty && ds.all fun c => c.isDigit || ('a' ≤ c && c ≤ 'f') || ('A' ≤ c && c ≤ 'F') || c == '_'
  | '0' :: ds => ds.all fun c => ('0' ≤ c && c ≤ '7') || c == '_'
  | c :: tail =>
    c.isDigit &&
      match tail.dropWhile isNumberChar with
      | [] => true
      | ':' :: sixties => (dropSixties (':' :: sixties)).isEmpty
      | _ => false
  | [] => false

/-- The kind that the form of a plain text gives.  A line feed at its end does not count. -/
def ofPlain (s : String) : Tag :=
  if s = "" then .null
  else
    let cs := s.toList
    let cs := if cs.getLast? = some '\n' then cs.dropLast else cs
    let word := String.ofList cs
    if boolWords.contains word then .bool
    else if isFloat cs then .float
    else if isInt cs then .int
    else if word = "<<" then .merge
    else if nullWords.contains word then .null
    else if (Timestamp.read? cs).any Timestamp.isCommon then .timestamp
    else if word = "=" then .default
    else if ["!", "&", "*"].contains word then .unknown
    else .text

end Tag

end PlotPage.Yaml
