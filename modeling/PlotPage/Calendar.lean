/-!
# The calendar

Dates of the proleptic Gregorian calendar with years 1 to 9999, times of day to the microsecond,
and the count of days since 1970-01-01 in both directions.
-/

namespace PlotPage

def isLeapYear (year : Nat) : Bool :=
  year % 4 == 0 && (year % 100 != 0 || year % 400 == 0)

def daysInMonth (year month : Nat) : Nat :=
  if month = 2 then (if isLeapYear year then 29 else 28)
  else if month = 4 || month = 6 || month = 9 || month = 11 then 30
  else 31

/-- A date of the calendar. -/
structure Date where
  year : Nat
  month : Nat
  day : Nat
  deriving DecidableEq, Repr

/-- A date with a time of day and, if known, the distance from universal time in minutes. -/
structure DateTime where
  date : Date
  hour : Nat
  minute : Nat
  second : Nat
  micro : Nat
  offset : Option Int
  deriving DecidableEq, Repr

namespace Date

def isValid (d : Date) : Bool :=
  1 ≤ d.year && d.year ≤ 9999 && 1 ≤ d.month && d.month ≤ 12 && 1 ≤ d.day &&
    d.day ≤ daysInMonth d.year d.month

/-- The number of days before the first day of a year, counted from the year 1. -/
def daysBeforeYear (year : Nat) : Nat :=
  (year - 1) * 365 + (year - 1) / 4 - (year - 1) / 100 + (year - 1) / 400

/-- The number of days of a year before the first day of a month. -/
def daysBeforeMonth (year : Nat) : (month : Nat) → Nat
  | 0 => 0
  | 1 => 0
  | month + 2 => daysBeforeMonth year (month + 1) + daysInMonth year (month + 1)

/-- The number of days from the first day of the year 1 to 1970-01-01. -/
def epoch : Nat := 719162

/-- The number of days since the first day of the year 1. -/
def toDays (d : Date) : Nat :=
  daysBeforeYear d.year + daysBeforeMonth d.year d.month + (d.day - 1)

/-- The month and day of the day with index `n` in a year, looking from `month` on. -/
def monthOfDay (year n : Nat) : (month : Nat) → Nat × Nat
  | 0 => (1, n + 1)
  | month + 1 =>
    if daysBeforeMonth year (month + 1) ≤ n then
      (month + 1, n - daysBeforeMonth year (month + 1) + 1)
    else monthOfDay year n month

/-- The year that holds the day `n` days after the first day of the year 1, and the index of
the day in it.  Cycles of 400, 100, 4 and 1 years are split off in turn; the last century of 400
years and the last year of four are a day longer. -/
def yearOfDays (n : Nat) : Nat × Nat :=
  let inFourCenturies := n % 146097
  let century := min (inFourCenturies / 36524) 3
  let inCentury := inFourCenturies - century * 36524
  let inFourYears := inCentury % 1461
  let year := min (inFourYears / 365) 3
  (n / 146097 * 400 + century * 100 + inCentury / 1461 * 4 + year + 1, inFourYears - year * 365)

/-- The date `n` days after the first day of the year 1. -/
def ofDays (n : Nat) : Date :=
  let (year, index) := yearOfDays n
  let (month, day) := monthOfDay year index 12
  ⟨year, month, day⟩

end Date

/-- The last digits of a number, preceded by zeros up to the given width. -/
def paddedNumber (width n : Nat) : String :=
  let digits := toString n
  String.ofList (List.replicate (width - digits.length) '0') ++ digits

/-- A date as `2001-12-14`. -/
def Date.text (d : Date) : String :=
  s!"{paddedNumber 4 d.year}-{paddedNumber 2 d.month}-{paddedNumber 2 d.day}"

namespace DateTime

/-- A time of day as `21:59:43`, with six places of the second when it is not whole. -/
def clock (m : DateTime) : String :=
  let whole := s!"{paddedNumber 2 m.hour}:{paddedNumber 2 m.minute}:{paddedNumber 2 m.second}"
  if m.micro = 0 then whole else s!"{whole}.{paddedNumber 6 m.micro}"

/-- The distance from universal time as `+01:00`. -/
def zone (m : DateTime) : String :=
  match m.offset with
  | none => ""
  | some minutes =>
    let sign := if minutes < 0 then "-" else "+"
    s!"{sign}{paddedNumber 2 (minutes.natAbs / 60)}:{paddedNumber 2 (minutes.natAbs % 60)}"

/-- Date and time with `separator` between them. -/
def text (separator : String) (m : DateTime) : String :=
  s!"{m.date.text}{separator}{m.clock}{m.zone}"

end DateTime

end PlotPage
