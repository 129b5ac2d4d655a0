import PlotPage.Number.Text
import PlotPage.Text.Quoted
import PlotPage.Value.Scalar

/-!
# JSON texts

A JSON text is written on one line in printable ASCII: every other character inside a string is
escaped by its 16-bit units.  A value becomes JSON part by part; dates and moments become strings,
so do the shown forms of bytes and sets, both kinds of sequences become arrays, and a key must be a
text, a number, a truth value or null.  A value that is a part of itself has no JSON form.
-/

namespace PlotPage

/-- A JSON value.  The members of an object keep their order. -/
inductive JsonValue where
  | null
  | bool (b : Bool)
  | int (i : Int)
  | real (d : Double)
  | text (s : String)
  | array (items : List JsonValue)
  | object (members : List (String × JsonValue))

namespace JsonValue

/-- The 16-bit units of a character, each escaped. -/
def escapeUnits (n : Nat) : List Char :=
  if n < 0x10000 then '\\' :: 'u' :: Text.hexDigits 4 n
  else
    '\\' :: 'u' :: Text.hexDigits 4 (0xd800 + (n - 0x10000) / 0x400) ++
      '\\' :: 'u' :: Text.hexDigits 4 (0xdc00 + (n - 0x10000) % 0x400)

def escapeChar (c : Char) : List Char :=
  if c = '"' then ['\\', '"']
  else if c = '\\' then ['\\', '\\']
  else if c = '\n' then ['\\', 'n']
  else if c = '\r' then ['\\', 'r']
  else if c = '\t' then ['\\', 't']
  else if c.toNat = 0x0c then ['\\', 'f']
  else if c.toNat = 0x08 then ['\\', 'b']
  else if 0x20 ≤ c.toNat && c.toNat ≤ 0x7e then [c]
  else escapeUnits c.toNat

def stringChars (s : String) : List Char := '"' :: (s.toList.flatMap escapeChar ++ ['"'])

def joinChars : List (List Char) → List Char
  | [] => []
  | [part] => part
  | part :: parts => part ++ ',' :: ' ' :: joinChars parts

mutual
def chars : JsonValue → List Char
  | .null => "null".toList
  | .bool b => (if b then "true" else "false").toList
  | .int i => (toString i).toList
  | .real d => (d.format .json).toList
  | .text s => stringChars s
  | .array items => '[' :: (joinChars (itemChars items) ++ [']'])
  | .object members => '\x7b' :: (joinChars (memberChars members) ++ ['\x7d'])

def itemChars : List JsonValue → List (List Char)
  | [] => []
  | v :: vs => chars v :: itemChars vs

def memberChars : List (String × JsonValue) → List (List Char)
  | [] => []
  | (k, v) :: rest => (stringChars k ++ ':' :: ' ' :: chars v) :: memberChars rest
end

def render (v : JsonValue) : String := String.ofList v.chars

/-- The text of a key. -/
def keyText : Value → Except Fault String
  | .text s => .ok s
  | .null => .ok "null"
  | .bool b => .ok (if b then "true" else "false")
  | .int i => (Value.int i).plain
  | .real d => .ok (d.format .json)
  | _ => .error (.outside .badArgument)

mutual
/-- The JSON form of a value inside parts with the given marks. -/
def ofValueIn (around : List Nat) : Value → Except Fault JsonValue
  | .null => .ok .null
  | .bool b => .ok (.bool b)
  | .int i => do
    let _ ← (Value.int i).plain
    return .int i
  | .real d => .ok (.real d)
  | .text s => .ok (.text s)
  | .date d => .ok (.text d.text)
  | .dateTime m => .ok (.text (m.text " "))
  | .bytes bs => .ok (.text (Text.quoteBytes bs))
  | .set items => do return .text (← (Value.set items).shown)
  | .list items mark =>
    if Value.comesAgain around mark then .error (.outside .partOfItself)
    else (ofItems (Value.inside around mark) items).map .array
  | .tuple items mark =>
    if Value.comesAgain around mark then .error (.outside .partOfItself)
    else (ofItems (Value.inside around mark) items).map .array
  | .map entries mark =>
    if Value.comesAgain around mark then .error (.outside .partOfItself)
    else (ofEntries (Value.inside around mark) entries).map .object

def ofItems (around : List Nat) : List Value → Except Fault (List JsonValue)
  | [] => .ok []
  | v :: vs => do return (← ofValueIn around v) :: (← ofItems around vs)

def ofEntries (around : List Nat) :
    List (Value × Value) → Except Fault (List (String × JsonValue))
  | [] => .ok []
  | (k, v) :: rest => do return (← keyText k, ← ofValueIn around v) :: (← ofEntries around rest)
end

def ofValue (v : Value) : Except Fault JsonValue := ofValueIn [] v

theorem ofValue_text (s : String) : ofValue (.text s) = .ok (.text s) := by
  rw [ofValue, ofValueIn]

theorem ofEntries_cons (k v : Value) (rest : List (Value × Value)) :
    ofEntries [] ((k, v) :: rest) =
      do return (← keyText k, ← ofValue v) :: (← ofEntries [] rest) := by
  rw [ofEntries]
  rfl

end JsonValue

end PlotPage
