import PlotPage.Value.Scalar

/-!
# Single lines

A script is read line by line, so a text that becomes part of a command must not hold a line feed
or a carriage return.
-/

namespace PlotPage.Line

/-- Whether a text stays on one line. -/
def isSingle (s : String) : Bool :=
  s.toList.all fun c => c ≠ '\n' && c ≠ '\r'

/-- Refuses a text that would continue on another line; `what` names its role. -/
def check (what text : String) : Except Fault Unit :=
  if isSingle text then .ok () else .error (.brokenLine what (Text.quote text))

/-- Refuses a value that holds a character. -/
def refuse (c : Char) (fault : (shown : String) → Fault) (v : Value) : Except Fault Unit := do
  match ← v.holds c with
  | true => throw (fault (← v.shown))
  | false => pure ()

/-- The same for a value: one with members must not have a line end among them. -/
def checkValue (what : String) (v : Value) : Except Fault Unit := do
  refuse '\n' (.brokenLine what) v
  refuse '\r' (.brokenLine what) v

def checkUnquoted (what : String) (v : Value) : Except Fault Unit :=
  refuse '"' (.quoteInside what) v

theorem check_eq_ok_iff {what text : String} {u : Unit} :
    check what text = .ok u ↔ isSingle text = true := by
  unfold check
  split <;> simp_all

end PlotPage.Line
