import DeviceBrowser.Calendar.Timestamp
import DeviceBrowser.Text.Blank
import DeviceBrowser.Text.Search

/-!
The date and time columns of a directory listing.

A date is either year, month and day in numbers, or a month's name and a day.  A time is
either hour and minute, or a year of four digits that belongs to such a date and stands for
its midnight.  A date without a year is one of the current year.
-/

namespace DeviceBrowser.Calendar

open DeviceBrowser.Text

def monthNames : List String :=
  ["jan", "feb", "mar", "apr", "may", "jun", "jul", "aug", "sep", "oct", "nov", "dec"]

def monthNumber? (name : List Char) : Option Nat :=
  (monthNames.findIdx? fun month => month.toList == name.map Char.toLower).map (· + 1)

inductive TimeColumn where
  | clock (hour minute : Nat)
  /-- Midnight of a date in this year. -/
  | inYear (year : Nat)
  deriving DecidableEq, Repr

def TimeColumn.read? (text : List Char) : Option TimeColumn :=
  match splitFirst? [':'] text with
  | some (hourText, minuteText) => do
      let hour ← readUnsigned? UInt32.size hourText
      let minute ← readUnsigned? UInt32.size minuteText
      if hour < 24 && minute < 60 then some (.clock hour minute) else none
  | none =>
      if text.length == 4 && isDigits text then some (.inYear (digitsValue text)) else none

def TimeColumn.secondOfDay : TimeColumn → Int
  | .clock hour minute => 3600 * hour + 60 * minute
  | .inYear _ => 0

/-- The digits at the start of a text, at most `most` of them, and what follows. -/
def splitDigits? (most : Nat) (text : List Char) : Option (Nat × List Char) :=
  match (text.take most).takeWhile Char.isDigit with
  | [] => none
  | digits => some (digitsValue digits, text.drop digits.length)

/-- A year in numbers: up to four digits, or a sign and any number of them. -/
def readYear? (text : List Char) : Option (Int × List Char) :=
  match trimStart text with
  | '-' :: digits => (splitDigits? digits.length digits).map fun (n, rest) => (-(n : Int), rest)
  | '+' :: digits => (splitDigits? digits.length digits).map fun (n, rest) => ((n : Int), rest)
  | digits => (splitDigits? 4 digits).map fun (n, rest) => ((n : Int), rest)

def readNumericDate? (text : List Char) : Option Date := do
  let (year, rest) ← readYear? text
  let '-' :: rest := rest | none
  let (month, rest) ← splitDigits? 2 (trimStart rest)
  let '-' :: rest := rest | none
  let (day, rest) ← splitDigits? 2 (trimStart rest)
  if rest.isEmpty then Date.ofParts? year month day else none

def readNamedDate? (year : Int) (text : List Char) : Option Date :=
  match words text with
  | [name, dayText] => do
      let month ← monthNumber? name
      let day ← readUnsigned? UInt32.size dayText
      Date.ofParts? year month day
  | _ => none

/-- The instant that a date and a time column stand for, read at `now`. -/
def listedTime? (zone : Zone) (now : Timestamp) (dateColumn timeColumn : List Char) :
    Option Timestamp := do
  let time ← TimeColumn.read? (trim timeColumn)
  let dateText := trim dateColumn
  let date ←
    if dateText.contains '-' then readNumericDate? dateText
    else
      match time with
      | .inYear year => readNamedDate? year dateText
      | .clock _ _ => readNamedDate? now.date.year dateText
  let second := secondsPerDay * date.dayNumber + time.secondOfDay
  let offset ← zone.readingOffset? second
  let stamp : Timestamp := ⟨second - offset, 0, offset⟩
  if stamp.isReckoned then some stamp else none

def listedTime (zone : Zone) (now : Timestamp) (dateColumn timeColumn : List Char) :
    Timestamp :=
  (listedTime? zone now dateColumn timeColumn).getD now

end DeviceBrowser.Calendar
