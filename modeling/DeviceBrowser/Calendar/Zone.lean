import DeviceBrowser.Calendar.Date

/-!
Time zones: what a clock on the wall shows at an instant, and which instants it shows a
given time at.

A zone has an offset in force at each instant, one of a few.  Many zones have one that holds
outside summer time and a rule for summer time that is the same every year.

A local time is read by the first offset under which the clock shows it.  None shows it while
the clock is put forward.  Some zones still count the first moment of that time to the clock
before: a rule does so if its clock is put forward first in the year and back later, and not if
summer time lasts over the new year.
-/

namespace DeviceBrowser.Calendar

/-- The day in a month when clocks change: a weekday counted from the first of the month,
where the fifth one is the last. -/
structure ChangeDay where
  month : Nat
  week : Nat
  weekday : Nat
  deriving DecidableEq, Repr

/-- Summer time: its offset, and when it begins and ends by the clock before the change. -/
structure SummerTime where
  offset : Int
  firstDay : ChangeDay
  firstSecond : Int
  lastDay : ChangeDay
  lastSecond : Int
  deriving DecidableEq, Repr

structure Zone where
  /-- The offsets it ever has, in the order in which a local time is tried with them. -/
  offsets : List Int
  /-- The offset in force at an instant, counted in seconds from the start of 1970. -/
  offsetAt : Int → Int
  offsetAt_mem : ∀ instant, offsetAt instant ∈ offsets
  /-- Whether the clock before still counts at a local time at which the clock is put forward. -/
  countsBefore : Int → Bool

def ChangeDay.dayNumber (change : ChangeDay) (year : Int) : Int :=
  let first : Date := ⟨year, change.month, 1⟩
  let toWeekday := (change.weekday - first.weekday) % 7
  let offset := toWeekday + 7 * (change.week - 1)
  let inMonth :=
    if (daysInMonth year change.month : Int) ≤ offset then offset - 7 else offset
  first.dayNumber + inMonth

def secondsPerDay : Int := 86400

def SummerTime.span (summer : SummerTime) (standard : Int) (year : Int) : Int × Int :=
  (secondsPerDay * summer.firstDay.dayNumber year + summer.firstSecond - standard,
    secondsPerDay * summer.lastDay.dayNumber year + summer.lastSecond - summer.offset)

def SummerTime.holdsAt (summer : SummerTime) (standard instant : Int) : Bool :=
  let year := (Date.ofDayNumber ((instant + standard) / secondsPerDay)).year
  let (first, last) := summer.span standard year
  if first ≤ last then first ≤ instant && instant < last
  else !(last ≤ instant && instant < first)

namespace Zone

def fixed (offset : Int) : Zone where
  offsets := [offset]
  offsetAt _ := offset
  offsetAt_mem _ := List.mem_singleton_self offset
  countsBefore _ := false

def utc : Zone := fixed 0

/-- A zone with the same rule for summer time in every year. -/
def withSummer (standard : Int) (summer : SummerTime) : Zone where
  offsets := [standard, summer.offset]
  offsetAt instant := if summer.holdsAt standard instant then summer.offset else standard
  offsetAt_mem instant := by split <;> simp
  countsBefore _ :=
    decide (standard < summer.offset) == decide (summer.firstDay.month < summer.lastDay.month)

/-- What the clock shows at an instant, as seconds from local 1 January 1970. -/
def localSecond (zone : Zone) (instant : Int) : Int :=
  instant + zone.offsetAt instant

def readingOffset? (zone : Zone) (second : Int) : Option Int :=
  let shown := zone.offsets.find? fun offset => zone.offsetAt (second - offset) == offset
  let ending :=
    if zone.countsBefore second then
      zone.offsets.find? fun offset => zone.offsetAt (second - offset - 1) == offset
    else none
  shown.or ending

end Zone

end DeviceBrowser.Calendar
