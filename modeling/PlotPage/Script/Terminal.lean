import PlotPage.Script.Line

/-!
# Terminals

The device that draws the page and the file that it writes to.  An empty text leaves the program's
own choice.  The name of the file is not escaped, so a quote in it breaks the command.
-/

namespace PlotPage

/-- An output device and its file. -/
structure Terminal where
  device : String
  output : String
  deriving DecidableEq, Repr

namespace Terminal

/-- The terminal that leaves every choice to the program. -/
def standard : Terminal := ⟨"", ""⟩

/-- One part of a terminal: the text of a value on a single line. -/
def part (name : String) (v : Value) : Except Fault String := do
  let text ← v.plainOrEmpty
  Line.check s!"Terminal {name}" text
  return text

def ofValues (device output : Value) : Except Fault Terminal := do
  let device ← part "device_type" device
  let output ← part "output_path" output
  return ⟨device, output⟩

/-- The commands that choose a terminal. -/
def lines (t : Terminal) : List String :=
  (if t.device = "" then [] else ["set term " ++ t.device]) ++
    (if t.output = "" then [] else ["set output '" ++ t.output ++ "'"])

end Terminal

end PlotPage
