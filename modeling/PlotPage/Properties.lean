import PlotPage.Script.Line
import PlotPage.Text.Blank

/-!
# Properties

A store of `set` commands.  Each property has a key and a value, both of them single lines, and
the commands take effect in the order of the keys.  A key that is set again keeps its place, so a
script stays stable while a value is edited.
-/

namespace PlotPage

/-- Properties in the order of their commands. -/
structure Properties where
  entries : List (String × String)
  deriving DecidableEq

namespace Properties

def empty : Properties := ⟨[]⟩

instance : Inhabited Properties := ⟨empty⟩

/-- Stores a value in a list of entries; a key that is there keeps its place. -/
def insertEntry (key value : String) : List (String × String) → List (String × String)
  | [] => [(key, value)]
  | (k, v) :: rest =>
    if k = key then (key, value) :: rest else (k, v) :: insertEntry key value rest

/-- Stores a value under a key without any check. -/
def insert (p : Properties) (key value : String) : Properties :=
  ⟨insertEntry key value p.entries⟩

def erase (p : Properties) (key : String) : Properties :=
  ⟨p.entries.filter fun e => e.1 ≠ key⟩

def get? (p : Properties) (key : String) : Option String :=
  (p.entries.find? fun e => e.1 = key).map Prod.snd

def size (p : Properties) : Nat := p.entries.length

def keys (p : Properties) : List String := p.entries.map Prod.fst

/-- The key that a value is, unless it is none or blank. -/
def key : Value → Except Fault String
  | .text k =>
    if Text.isBlankText k then .error (.blankKey (Text.quote k)) else .ok k
  | v => do throw (.blankKey (← v.shown))

/-- Sets a property.  The key must be a single line and not blank, and the text of the value must
be a single line; nothing is written as the empty text. -/
def set (p : Properties) (key value : Value) : Except Fault Properties := do
  let key ← Properties.key key
  Line.check "Property key" key
  let value ← value.plainOrEmpty
  let shownKey := Text.quote key
  Line.check s!"Value of property {shownKey}" value
  return p.insert key value

/-- The text to look up for a value: none for a value that is no text, since all keys are texts. -/
def lookupKey? : Value → Except Fault (Option String)
  | .text k => .ok (some k)
  | v => if v.isKey then .ok none else .error (.outside .notKey)

/-- Removes a property; a key that is not there is no fault. -/
def unset (p : Properties) (key : Value) : Except Fault Properties := do
  match ← lookupKey? key with
  | some k => return p.erase k
  | none => return p

/-- The value of a property, or the given default. -/
def getD (p : Properties) (key default : Value) : Except Fault Value := do
  match ← lookupKey? key with
  | some k => return ((p.get? k).map Value.text).getD default
  | none => return default

def contains (p : Properties) (key : Value) : Except Fault Bool := do
  match ← lookupKey? key with
  | some k => return (p.get? k).isSome
  | none => return false

/-- The command of one property. -/
def line (e : String × String) : String :=
  if e.2 = "" then "set " ++ e.1 else "set " ++ e.1 ++ " " ++ e.2

def lines (p : Properties) : List String := p.entries.map line

end Properties

end PlotPage
