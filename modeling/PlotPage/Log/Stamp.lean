import PlotPage.Calendar
import PlotPage.Value.Scalar

/-!
# Time stamps

The time of a record is a whole number of microseconds since 1970 in universal time.  It is written
in two ways: for readers it is cut to milliseconds, and for programs it keeps all six digits unless
they are zero.
-/

namespace PlotPage

def microsPerDay : Nat := 86400000000

/-- The time of day that starts `n` microseconds after midnight, on the given day. -/
def DateTime.ofDay (date : Date) (n : Nat) : DateTime :=
  ⟨date, n / 3600000000, n / 60000000 % 60, n / 1000000 % 60, n % 1000000, some 0⟩

/-- The number of days from the first day of the year 1 to the last day of the year 9999. -/
def Date.last : Nat := 3652058

/-- The moment `m` microseconds after the start of 1970, if it is in the calendar. -/
def DateTime.ofMicros? (m : Int) : Option DateTime :=
  let day := m / microsPerDay + Date.epoch
  if day < 0 || (Date.last : Int) < day then none
  else some (.ofDay (.ofDays day.toNat) (m % microsPerDay).toNat)

/-- The two texts of a time. -/
structure Stamp where
  /-- Cut to milliseconds. -/
  human : String
  /-- With all digits. -/
  exact : String
  deriving DecidableEq, Repr

namespace Stamp

def humanText (m : DateTime) : String :=
  let date := s!"{m.date.year}-{paddedNumber 2 m.date.month}-{paddedNumber 2 m.date.day}"
  let clock := s!"{paddedNumber 2 m.hour}:{paddedNumber 2 m.minute}:{paddedNumber 2 m.second}"
  s!"{date}T{clock}.{paddedNumber 3 (m.micro / 1000)}Z"

def ofMoment (m : DateTime) : Stamp := ⟨humanText m, m.text "T"⟩

/-- The stamp of the moment `m` microseconds after the start of 1970. -/
def ofMicros? (m : Int) : Option Stamp := (DateTime.ofMicros? m).map ofMoment

/-- The least and the greatest number of seconds that the system's calendar can hold. -/
def systemLeast : Int := -67768040609740800
def systemGreatest : Int := 67768036191676799

/-- The number of seconds from which on the clock can hold no time. -/
def clockLimit : Int := 9223372036854775808

/-- The stamp of a number of seconds and of microseconds. -/
def ofParts (seconds micros : Int) : Except Fault Stamp :=
  if seconds < -clockLimit || clockLimit ≤ seconds then .error (.outside .outsideClock)
  else if seconds < systemLeast || systemGreatest < seconds then
    .error (.outside .outsideSystemClock)
  else
    match ofMicros? (seconds * 1000000 + micros) with
    | some s => .ok s
    | none => .error (.outside .outsideCalendar)

/-- A double as whole seconds and microseconds: the fraction is multiplied by a million and rounded
to the nearest integer, a half to the even one. -/
def split (d : Double) : Int × Int :=
  let whole := Int.tdiv d.units Double.unitsPerOne
  let fraction := Double.ofUnits false (d.units - whole * Double.unitsPerOne) Double.unitsPerOne
  let scaled := (fraction.mul (.ofInt 1000000)).units
  let size : Int := roundDiv scaled.natAbs Double.unitsPerOne
  let micros := if scaled < 0 then -size else size
  if 1000000 ≤ micros then (whole + 1, micros - 1000000)
  else if micros < 0 then (whole - 1, micros + 1000000)
  else (whole, micros)

/-- The stamp of a number of seconds since 1970. -/
def ofSeconds : Value → Except Fault Stamp
  | .bool b => ofParts (if b then 1 else 0) 0
  | .int i => ofParts i 0
  | .real .nan => .error (.outside .outsideCalendar)
  | .real (.infinite _) => .error (.outside .outsideClock)
  | .real d => ofParts (split d).1 (split d).2
  | _ => .error (.outside .notNumber)

end Stamp

end PlotPage
