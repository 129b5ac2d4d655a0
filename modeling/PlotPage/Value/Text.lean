import PlotPage.Number.Text
import PlotPage.Text.Bytes
import PlotPage.Value.Basic

/-!
# Values as text

A value has two written forms.  The shown form stands in messages and is written on one line
whatever the value holds, because texts in it are quoted; the plain form is the same except that a
text is written as it is.  A part that comes again inside itself is written as dots between its
brackets there.  A value in which an integer of more than 4300 digits occurs has neither form.
-/

namespace PlotPage

def Date.shown (d : Date) : String := s!"datetime.date({d.year}, {d.month}, {d.day})"

def DateTime.shownZone (minutes : Int) : String :=
  if minutes = 0 then "datetime.timezone.utc"
  else
    let seconds := minutes * 60
    let rest := Int.emod seconds 86400
    let delta := if seconds < 0 then s!"days=-1, seconds={rest}" else s!"seconds={rest}"
    s!"datetime.timezone(datetime.timedelta({delta}))"

/-- The shown form of a moment; seconds and microseconds are left out when they are zero. -/
def DateTime.shown (m : DateTime) : String :=
  let parts := [m.date.year, m.date.month, m.date.day, m.hour, m.minute]
  let parts := if m.micro ≠ 0 then parts ++ [m.second, m.micro]
    else if m.second ≠ 0 then parts ++ [m.second] else parts
  let zone := match m.offset with
    | none => ""
    | some minutes => s!", tzinfo={shownZone minutes}"
  "datetime.datetime(" ++ ", ".intercalate (parts.map toString) ++ zone ++ ")"

namespace Value

/-- Whether a part is one of those around it. -/
def comesAgain (around : List Nat) (mark : Option Nat) : Bool := mark.any around.contains

/-- The marks of the parts around what a part holds. -/
def inside (around : List Nat) (mark : Option Nat) : List Nat := mark.toList ++ around

mutual
/-- The shown form of a value inside parts with the given marks. -/
def shownIn? (around : List Nat) : Value → Option String
  | .null => some "None"
  | .bool b => some (if b then "True" else "False")
  | .int i => intText? i
  | .real d => some d.text
  | .text s => some (Text.quote s)
  | .bytes bs => some (Text.quoteBytes bs)
  | .date d => some d.shown
  | .dateTime m => some m.shown
  | .list items mark =>
    if comesAgain around mark then some "[...]"
    else (shownItems? (inside around mark) items).map fun ts => "[" ++ ", ".intercalate ts ++ "]"
  | .tuple items mark =>
    if comesAgain around mark then some "(...)"
    else (shownItems? (inside around mark) items).map fun ts =>
      match ts with
      | [t] => "(" ++ t ++ ",)"
      | ts => "(" ++ ", ".intercalate ts ++ ")"
  | .set items =>
    if items.isEmpty then some "set()"
    else (shownItems? around items).map fun ts => "\x7b" ++ ", ".intercalate ts ++ "\x7d"
  | .map entries mark =>
    if comesAgain around mark then some "\x7b...\x7d"
    else (shownEntries? (inside around mark) entries).map fun ts =>
      "\x7b" ++ ", ".intercalate ts ++ "\x7d"

def shownItems? (around : List Nat) : List Value → Option (List String)
  | [] => some []
  | v :: vs =>
    match shownIn? around v, shownItems? around vs with
    | some t, some ts => some (t :: ts)
    | _, _ => none

def shownEntries? (around : List Nat) : List (Value × Value) → Option (List String)
  | [] => some []
  | (k, v) :: rest =>
    match shownIn? around k, shownIn? around v, shownEntries? around rest with
    | some a, some b, some ts => some ((a ++ ": " ++ b) :: ts)
    | _, _, _ => none
end

def shown? (v : Value) : Option String := v.shownIn? []

def plain? : Value → Option String
  | .text s => some s
  | .date d => some d.text
  | .dateTime m => some (m.text " ")
  | v => shown? v

end Value

end PlotPage
