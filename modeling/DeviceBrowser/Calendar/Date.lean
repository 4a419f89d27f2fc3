/-!
Dates of the proleptic Gregorian calendar, counted in days from 1 January 1970.
-/

namespace DeviceBrowser.Calendar

structure Date where
  year : Int
  month : Nat
  day : Nat
  deriving DecidableEq, Repr

def isLeapYear (year : Int) : Bool :=
  year % 4 == 0 && (year % 100 != 0 || year % 400 == 0)

def daysInMonth (year : Int) : Nat → Nat
  | 2 => if isLeapYear year then 29 else 28
  | 4 | 6 | 9 | 11 => 30
  | _ => 31

namespace Date

/-- The years that can be reckoned with. -/
def earliestYear : Int := -262143
def latestYear : Int := 262142

def isReckoned (date : Date) : Bool :=
  earliestYear ≤ date.year && date.year ≤ latestYear

def ofParts? (year : Int) (month day : Nat) : Option Date :=
  let date : Date := ⟨year, month, day⟩
  if date.isReckoned && 1 ≤ month && month ≤ 12 && 1 ≤ day && day ≤ daysInMonth year month then
    some date
  else none

/-- Days from 1 March of year 0 to 1 January 1970. -/
def epochDay : Int := 719468

/-- The number of a date, counted in days from 1 January 1970.  Years are taken to begin in
March, so that a leap day is the last day of its year. -/
def dayNumber (date : Date) : Int :=
  let year := if date.month ≤ 2 then date.year - 1 else date.year
  let month : Int := (date.month + 9) % 12
  let dayOfYear := (153 * month + 2) / 5 + date.day - 1
  365 * year + year / 4 - year / 100 + year / 400 + dayOfYear - epochDay

def ofDayNumber (number : Int) : Date :=
  let days := number + epochDay
  let era := days / 146097
  let dayOfEra := days % 146097
  let yearOfEra :=
    (dayOfEra - dayOfEra / 1460 + dayOfEra / 36524 - dayOfEra / 146096) / 365
  let dayOfYear := dayOfEra - (365 * yearOfEra + yearOfEra / 4 - yearOfEra / 100)
  let month := (5 * dayOfYear + 2) / 153
  let day := dayOfYear - (153 * month + 2) / 5 + 1
  let civilMonth := if month < 10 then month + 3 else month - 9
  let year := 400 * era + yearOfEra
  ⟨if civilMonth ≤ 2 then year + 1 else year, civilMonth.toNat, day.toNat⟩

/-- The day of the week, from Sunday as 0 to Saturday as 6. -/
def weekday (date : Date) : Int :=
  (date.dayNumber + 4) % 7

end Date

end DeviceBrowser.Calendar
