import PlotPage.Journal
import PlotPage.Log.Context
import PlotPage.Log.Json
import PlotPage.Log.Stamp
import PlotPage.Text.Template

/-!
# Log records

A record is written in one of two styles.  The human style puts time, level, context and message
on one line between bars; the JSON style is an object on one line, in which a context field with
the name of a member takes its place.  A report of trouble comes last in both.
-/

namespace PlotPage

/-- A record. -/
structure LogRecord where
  stamp : Stamp
  level : String
  source : String
  template : String
  arguments : List Value := []
  /-- The class and the text of an exception. -/
  trouble : Option (String × String) := none

/-- How records are written; colours only stand in the human style. -/
inductive LineStyle where
  | human (hasColors : Bool)
  | json
  deriving DecidableEq, Repr

namespace LineStyle

/-- The style with a name; colours are used on a terminal only. -/
def ofName (name : String) (wantsColors isTerminal : Bool) : Except Fault LineStyle :=
  if name = "human" then .ok (.human (wantsColors && isTerminal))
  else if name = "json" then .ok .json
  else .error (.unknownMode name)

end LineStyle

namespace LogRecord

def message (r : LogRecord) : Except Fault String := Template.fill r.template r.arguments

def troubleText (t : String × String) : String := if t.2 = "" then t.1 else s!"{t.1}: {t.2}"

/-- The members of a record as JSON: its own, then the fields of the context, then the report of
trouble. -/
def members (c : LogContext) (r : LogRecord) : Except Fault (List (String × Value)) := do
  let own : LogContext := ⟨[("t", .text r.stamp.exact), ("lvl", .text r.level),
    ("name", .text r.source), ("msg", .text (← r.message))]⟩
  let all := own.push c.fields
  match r.trouble with
  | none => return all.fields
  | some t => return (all.add "exc" (.text (troubleText t))).fields

def json (c : LogContext) (r : LogRecord) : Except Fault String := do
  let entries := (← r.members c).map fun f => (Value.text f.1, f.2)
  return (JsonValue.object (← JsonValue.ofEntries [] entries)).render

def color (level : String) : String :=
  match Level.ofName? level with
  | some .debug => "\x1b[36m"
  | some .info => "\x1b[32m"
  | some .warning => "\x1b[33m"
  | some .error => "\x1b[31m"
  | some .critical => "\x1b[35m"
  | none => ""

def colorEnd : String := "\x1b[0m"

def levelColumn (hasColors : Bool) (level : String) : String :=
  let column := level ++ String.ofList (List.replicate (8 - level.length) ' ')
  if hasColors then color level ++ column ++ colorEnd else column

def contextText (c : LogContext) : Except Fault String := do
  let parts ← c.fields.mapM fun f => do return s!"{f.1}=" ++ (← f.2.plain)
  return " ".intercalate parts

def human (hasColors : Bool) (c : LogContext) (r : LogRecord) : Except Fault String := do
  let context ← if c.fields.isEmpty then pure [] else do pure [← contextText c, "|"]
  let parts := [r.stamp.human, "|", levelColumn hasColors r.level, "|"] ++ context
  let line := " ".intercalate (parts ++ [← r.message])
  match r.trouble with
  | none => return line
  | some t => return line ++ "\n" ++ troubleText t

def write (style : LineStyle) (c : LogContext) (r : LogRecord) : Except Fault String :=
  match style with
  | .human hasColors => r.human hasColors c
  | .json => r.json c

end LogRecord

end PlotPage
