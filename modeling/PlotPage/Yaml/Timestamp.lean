import PlotPage.Calendar

/-!
# Dates and moments in YAML texts

A date is written with hyphens.  A time of day may follow after a `T` or blanks, with a fraction of
the second and the distance from universal time; of the fraction six digits count.
-/

namespace PlotPage.Yaml

/-- The parts of a date or a moment as they are written. -/
structure Timestamp where
  year : List Char
  month : List Char
  day : List Char
  /-- Hour, minute and second. -/
  time : Option (List Char × List Char × List Char)
  fraction : List Char
  /-- The distance from universal time: whether it is negative, hours and minutes. -/
  zone : Option (Bool × List Char × List Char)
  deriving DecidableEq, Repr

namespace Timestamp

/-- Between `least` and `most` digits at the start of a list, as many as there are. -/
def digits? (least most : Nat) (cs : List Char) : Option (List Char × List Char) :=
  let ds := (cs.take most).takeWhile Char.isDigit
  if ds.length < least then none else some (ds, cs.drop ds.length)

/-- The rest of a list after the given character. -/
def after? (c : Char) : List Char → Option (List Char)
  | [] => none
  | x :: cs => if x = c then some cs else none

/-- Reads the distance from universal time up to the end. -/
def zone? (cs : List Char) : Option (Option (Bool × List Char × List Char)) := do
  match cs.dropWhile fun c => c == ' ' || c == '\t' with
  | [] => if cs.isEmpty then some none else none
  | 'Z' :: rest => if rest.isEmpty then some (some (false, ['0'], [])) else none
  | sign :: rest =>
    if sign = '+' || sign = '-' then
      let (hours, rest) ← digits? 1 2 rest
      if rest.isEmpty then some (some (sign = '-', hours, []))
      else
        let (minutes, rest) ← digits? 2 2 (← after? ':' rest)
        if rest.isEmpty then some (some (sign = '-', hours, minutes)) else none
    else none

/-- What follows a date after the separator of a time of day. -/
def timeStart? : List Char → Option (List Char)
  | 'T' :: cs => some cs
  | 't' :: cs => some cs
  | c :: cs =>
    if c = ' ' || c = '\t' then some (cs.dropWhile fun c => c == ' ' || c == '\t') else none
  | [] => none

def read? (cs : List Char) : Option Timestamp := do
  let (year, cs) ← digits? 4 4 cs
  let (month, cs) ← digits? 1 2 (← after? '-' cs)
  let (day, cs) ← digits? 1 2 (← after? '-' cs)
  if cs.isEmpty then return ⟨year, month, day, none, [], none⟩
  let (hour, cs) ← digits? 1 2 (← timeStart? cs)
  let (minute, cs) ← digits? 2 2 (← after? ':' cs)
  let (second, cs) ← digits? 2 2 (← after? ':' cs)
  let (fraction, cs) := match cs with
    | '.' :: rest => (rest.takeWhile Char.isDigit, rest.dropWhile Char.isDigit)
    | _ => ([], cs)
  return ⟨year, month, day, some (hour, minute, second), fraction, ← zone? cs⟩

/-- Whether a plain text of this form stands for a date or a moment: a date alone must have two
digits for month and day. -/
def isCommon (t : Timestamp) : Bool :=
  t.time.isSome || (t.month.length = 2 && t.day.length = 2)

/-- The number that digits denote. -/
def number (ds : List Char) : Nat := ds.foldl (fun n d => 10 * n + (d.toNat - 48)) 0

def micros (fraction : List Char) : Nat :=
  let ds := fraction.take 6
  number ds * Nat.pow 10 (6 - ds.length)

def date (t : Timestamp) : Date := ⟨number t.year, number t.month, number t.day⟩

/-- The distance from universal time in minutes. -/
def offset (t : Timestamp) : Option Int :=
  t.zone.map fun (negative, hours, minutes) =>
    let total : Int := (number hours * 60 + number minutes : Nat)
    if negative then -total else total

/-- The moment of a timestamp with a time of day. -/
def moment? (t : Timestamp) : Option DateTime :=
  t.time.map fun (hour, minute, second) =>
    ⟨t.date, number hour, number minute, number second, micros t.fraction, t.offset⟩

/-- Whether a moment is one of the calendar: it is on a day, and less than a day away from
universal time. -/
def isMoment (m : DateTime) : Bool :=
  m.date.isValid && m.hour < 24 && m.minute < 60 && m.second < 60 &&
    (m.offset.map Int.natAbs).all (· < 1440)

end Timestamp

end PlotPage.Yaml
