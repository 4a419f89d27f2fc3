import DeviceBrowser.Calendar.Zone
import DeviceBrowser.Text.Decimal

/-!
Time zones written as POSIX has them: `EST5EDT,M3.2.0,M11.1.0`, or `<+0530>-5:30`.

A zone without summer time is a name and an offset counted westward.  Summer time adds its
own name, perhaps its offset, and the days on which it begins and ends.
-/

namespace DeviceBrowser.Calendar

open DeviceBrowser.Text

namespace PosixZone

def skipName? : List Char → Option (List Char)
  | '<' :: rest =>
      match rest.dropWhile (· != '>') with
      | '>' :: rest => some rest
      | _ => none
  | text =>
      if 3 ≤ (text.takeWhile Char.isAlpha).length then some (text.dropWhile Char.isAlpha)
      else none

def number? (text : List Char) : Option (Nat × List Char) :=
  match text.takeWhile Char.isDigit with
  | [] => none
  | digits => some (digitsValue digits, text.drop digits.length)

/-- Read one more part of a time of day, if a colon announces it. -/
def colonPart (text : List Char) : Nat × List Char :=
  match text with
  | ':' :: rest => (number? rest).getD (0, rest)
  | _ => (0, text)

/-- Read hours with an optional sign, minutes and seconds, as seconds. -/
def clock? (text : List Char) : Option (Int × List Char) := do
  let (sign, text) : Int × List Char := match text with
    | '-' :: rest => (-1, rest)
    | '+' :: rest => (1, rest)
    | _ => (1, text)
  let (hours, text) ← number? text
  let (minutes, text) := colonPart text
  let (seconds, text) := colonPart text
  some (sign * (3600 * hours + 60 * minutes + seconds), text)

/-- Read a change of clocks: a day, and a time that is two in the morning if not given. -/
def change? (text : List Char) : Option ((ChangeDay × Int) × List Char) := do
  let 'M' :: text := text | none
  let (month, text) ← number? text
  let '.' :: text := text | none
  let (week, text) ← number? text
  let '.' :: text := text | none
  let (weekday, text) ← number? text
  match text with
  | '/' :: text => do
      let (second, text) ← clock? text
      some ((⟨month, week, weekday⟩, second), text)
  | _ => some ((⟨month, week, weekday⟩, 7200), text)

end PosixZone

open PosixZone in
def Zone.ofPosix? (text : String) : Option Zone := do
  let rest ← skipName? text.toList
  let (west, rest) ← clock? rest
  let standard := -west
  if rest.isEmpty then some (.fixed standard)
  else
    let rest ← skipName? rest
    let (summerOffset, rest) := match clock? rest with
      | some (summerWest, rest) => (-summerWest, rest)
      | none => (standard + 3600, rest)
    let ',' :: rest := rest | none
    let ((firstDay, firstSecond), rest) ← change? rest
    let ',' :: rest := rest | none
    let ((lastDay, lastSecond), rest) ← change? rest
    if rest.isEmpty then
      some (.withSummer standard
        ⟨summerOffset, firstDay, firstSecond, lastDay, lastSecond⟩)
    else none

end DeviceBrowser.Calendar
