import DeviceBrowser.Calendar.Zone
import DeviceBrowser.Text.Decimal

/-!
Instants together with the local clock, and their texts: the date and time of RFC 3339,
and the short form of a table.
-/

namespace DeviceBrowser.Calendar

open DeviceBrowser.Text

structure Timestamp where
  /-- Seconds from the start of 1970. -/
  second : Int
  nanosecond : Nat
  /-- Seconds east of Greenwich. -/
  offset : Int
  deriving DecidableEq, Repr

namespace Timestamp

def inZone (zone : Zone) (second : Int) (nanosecond : Nat := 0) : Timestamp :=
  ⟨second, nanosecond, zone.offsetAt second⟩

def localSecond (stamp : Timestamp) : Int :=
  stamp.second + stamp.offset

def date (stamp : Timestamp) : Date :=
  Date.ofDayNumber (stamp.localSecond / secondsPerDay)

/-- Whether the calendar reaches to an instant at Greenwich. -/
def isReckoned (stamp : Timestamp) : Bool :=
  (Date.ofDayNumber (stamp.second / secondsPerDay)).isReckoned

def secondOfDay (stamp : Timestamp) : Nat :=
  (stamp.localSecond % secondsPerDay).toNat

end Timestamp

def yearText (year : Int) : List Char :=
  if 0 ≤ year ∧ year ≤ 9999 then decimalWide 4 year.toNat
  else (if year < 0 then '-' else '+') :: decimalWide 4 year.natAbs

def dateText (date : Date) : List Char :=
  yearText date.year ++ '-' :: decimalWide 2 date.month ++ '-' :: decimalWide 2 date.day

def minuteText (secondOfDay : Nat) : List Char :=
  decimalWide 2 (secondOfDay / 3600) ++ ':' :: decimalWide 2 (secondOfDay / 60 % 60)

/-- A fraction of a second in three, six or nine digits, or none if it is zero. -/
def fractionText (nanosecond : Nat) : List Char :=
  if nanosecond == 0 then []
  else if nanosecond % 1_000_000 == 0 then '.' :: decimalWide 3 (nanosecond / 1_000_000)
  else if nanosecond % 1_000 == 0 then '.' :: decimalWide 6 (nanosecond / 1_000)
  else '.' :: decimalWide 9 nanosecond

def offsetText (offset : Int) : List Char :=
  if offset == 0 then ['Z']
  else (if offset < 0 then '-' else '+') :: minuteText offset.natAbs

namespace Timestamp

def rfc3339 (stamp : Timestamp) : String :=
  String.ofList
    (dateText stamp.date ++ 'T' :: minuteText stamp.secondOfDay
      ++ ':' :: decimalWide 2 (stamp.secondOfDay % 60) ++ fractionText stamp.nanosecond
      ++ offsetText stamp.offset)

def minute (stamp : Timestamp) : String :=
  String.ofList (dateText stamp.date ++ ' ' :: minuteText stamp.secondOfDay)

end Timestamp

end DeviceBrowser.Calendar
