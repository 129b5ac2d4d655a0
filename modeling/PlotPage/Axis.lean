import PlotPage.Properties

/-!
# Axes

An axis has a name, which is a single word, and properties.  The usual settings of an axis are
properties whose keys are made from its name:

    set ylabel "Temperature"
    set yrange [0:100]
    set logscale y
    set ytics 5
-/

namespace PlotPage

/-- An axis with its settings. -/
structure Axis where
  name : String
  properties : Properties
  deriving DecidableEq

namespace Axis

instance : Inhabited Axis := ⟨⟨"x", .empty⟩⟩

/-- Whether a text can name an axis: it is not empty and holds no space. -/
def isWord (s : String) : Bool := s ≠ "" && s.toList.all fun c => c ≠ ' '

/-- A new axis.  Its name must be a word on a single line. -/
def ofName (name : Value) : Except Fault Axis :=
  match name with
  | .text s =>
    if isWord s then do
      Line.check "Axis name" s
      return ⟨s, .empty⟩
    else .error (.badAxisName (Text.quote s))
  | v => do throw (.badAxisName (← v.shown))

def labelKey (name : String) : String := name ++ "label"

def rangeKey (name : String) : String := name ++ "range"

def logScaleKey (name : String) : String := "logscale " ++ name

def ticsKey (name : String) : String := name ++ "tics"

def withProperties (a : Axis) (p : Properties) : Axis := { a with properties := p }

def set (a : Axis) (key : String) (value : Value) : Except Fault Axis := do
  return a.withProperties (← a.properties.set (.text key) value)

/-- Sets the label, which must not hold a double quote. -/
def setLabel (a : Axis) (text : Value) : Except Fault Axis := do
  Line.checkUnquoted "Axis label" text
  a.set (labelKey a.name) (.text ("\"" ++ (← text.plain) ++ "\""))

/-- One end of a range; nothing leaves it open. -/
def boundText : Value → Except Fault String
  | .null => .ok ""
  | v => v.numberText

def setBoundaries (a : Axis) (low high : Value) : Except Fault Axis := do
  let low ← boundText low
  let high ← boundText high
  a.set (rangeKey a.name) (.text ("[" ++ low ++ ":" ++ high ++ "]"))

def setLogScale (a : Axis) (enabled : Bool) : Except Fault Axis :=
  if enabled then a.set (logScaleKey a.name) (.text "")
  else .ok (a.withProperties (a.properties.erase (logScaleKey a.name)))

def setTics (a : Axis) (spec : Value) : Except Fault Axis :=
  a.set (ticsKey a.name) spec

def lines (a : Axis) : List String := a.properties.lines

def describe (a : Axis) : String :=
  "Axis(" ++ Text.quote a.name ++ s!", properties={a.properties.size})"

end Axis

/-- What can be done with properties. -/
inductive Properties.Command where
  | set (key value : Value)
  | unset (key : Value)
  | get (key default : Value)
  | contains (key : Value)
  | keys
  | items
  | size
  | clear
  | lines

def Properties.run (p : Properties) : Properties.Command → Except Fault (Value × Properties)
  | .set key value => do return (.null, ← p.set key value)
  | .unset key => do return (.null, ← p.unset key)
  | .get key default => do return (← p.getD key default, p)
  | .contains key => do return (.bool (← p.contains key), p)
  | .keys => .ok (.list (p.keys.map .text), p)
  | .items => .ok (.list (p.entries.map fun e => .list [.text e.1, .text e.2]), p)
  | .size => .ok (.int p.size, p)
  | .clear => .ok (.null, .empty)
  | .lines => .ok (.list (p.lines.map .text), p)

/-- What can be done with an axis. -/
inductive Axis.Command where
  | properties (c : Properties.Command)
  | name
  | describe
  | setLabel (text : Value)
  | setBoundaries (low high : Value)
  | setLogScale (enabled : Bool)
  | setTics (spec : Value)

def Axis.run (a : Axis) : Axis.Command → Except Fault (Value × Axis)
  | .properties c => do
    let (answer, p) ← a.properties.run c
    return (answer, a.withProperties p)
  | .name => .ok (.text a.name, a)
  | .describe => .ok (.text a.describe, a)
  | .setLabel text => do return (.null, ← a.setLabel text)
  | .setBoundaries low high => do return (.null, ← a.setBoundaries low high)
  | .setLogScale enabled => do return (.null, ← a.setLogScale enabled)
  | .setTics spec => do return (.null, ← a.setTics spec)

end PlotPage
