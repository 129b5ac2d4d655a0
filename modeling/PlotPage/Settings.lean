import PlotPage.Description
import PlotPage.Text.Upper

/-!
# Settings

How the program is run: the plotting executable and its time limit, the terminal, the preference of
the grid, and the log.  Settings come from a mapping with one section each; only the section
`runner` is required.  Values are brought into one form first and checked afterwards.
-/

namespace PlotPage

/-- Settings in their final form. -/
structure Settings where
  executable : String
  timeout : Double
  device : String
  output : String
  prefersColumns : Bool
  level : String
  json : Bool
  logFile : Option String
  deriving DecidableEq

namespace Settings

/-- The name under which settings report. -/
def source : String := "plotscript.configs.loader"

/-- The settings that hold without a file. -/
def shipped : Settings :=
  ⟨"gnuplot", .ofInt 30, "", "", true, "INFO", false, none⟩

def section? (entries : List (Value × Value)) (name : String) :
    Except Fault (List (Value × Value)) :=
  match (Value.field entries name).getD .null with
  | .null => .ok []
  | .map fields _ => .ok fields
  | v => .error (.sectionNotMapping name v.kindName)

def required (fields : List (Value × Value)) (name : String) : Except Fault Value :=
  match Value.field fields name with
  | some v => .ok v
  | none => .error (.missingSetting (Text.quote name))

def runnerFields (entries : List (Value × Value)) : Except Fault (List (Value × Value)) := do
  match ← required entries "runner" with
  | .map fields _ => return fields
  | _ => throw (.outside .notContainer)

/-- The name of the log file; what does not count as true is none. -/
def fileName (v : Value) : Except Fault (Option String) :=
  if v.isTruthy then do return some (← v.plain) else .ok none

/-- The settings of a mapping before they are checked. -/
def read (entries : List (Value × Value)) : Except Fault Settings := do
  let runner ← runnerFields entries
  let executable ← (← required runner "executable").plain
  let timeout ← (← required runner "timeout_s").toDouble
  let terminal ← section? entries "terminal"
  let device ← (Description.fieldOrNull terminal "device_type").plainOrEmpty
  let output ← (Description.fieldOrNull terminal "output_path").plainOrEmpty
  let layout ← section? entries "layout"
  let prefersColumns ← Description.truthValue "layout.prefer_columns"
    ((Value.field layout "prefer_columns").getD (.bool true))
  let logging ← section? entries "logging"
  let level ← ((Value.field logging "level").getD (.text "INFO")).plain
  let json ← Description.truthValue "logging.json"
    ((Value.field logging "json").getD (.bool false))
  let logFile ← fileName (Description.fieldOrNull logging "file")
  return ⟨executable, timeout, device, output, prefersColumns, Text.upper level, json, logFile⟩

/-- A fault while settings are read: values that cannot be used make the settings invalid, and
other faults stay as they are. -/
def nameFault (f : Fault) : Fault :=
  if f.kind = .type || f.kind = .value then .badSetting f else f

/-- The names of the levels, as messages list them. -/
def levelNames : String :=
  "[" ++ ", ".intercalate (Level.all.map fun l => Text.quote l.name) ++ "]"

/-- Checks settings: the executable is not blank, the time limit is not zero or less, and the
level is known. -/
def check (s : Settings) : Except Fault Unit :=
  if Text.isBlankText s.executable then .error .blankExecutable
  else if s.timeout.le (.zero false) then .error (.settingsTimeout s.timeout.text)
  else if (Level.ofName? s.level).isNone then
    .error (.unknownSettingsLevel s.level levelNames)
  else .ok ()

/-- What is reported about settings that have been checked. -/
def warnings (s : Settings) : List Notice :=
  if s.output.toList.contains '\'' then
    [⟨.warning, source, "terminal.output_path contains a single quote and will break " ++
      "the 'set output' command: " ++ s.output⟩]
  else []

/-- The settings of a value, and what is reported about them. -/
def build (v : Value) : Except Fault (Settings × List Notice) :=
  match v with
  | .map entries _ => do
    let s ← (read entries).mapError nameFault
    s.check
    return (s, s.warnings)
  | v => .error (.settingsNotMapping v.kindName)

end Settings

end PlotPage
