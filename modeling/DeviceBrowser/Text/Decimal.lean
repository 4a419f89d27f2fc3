/-!
Decimal numbers: the digits of a number, and the reading of an unsigned one.
-/

namespace DeviceBrowser.Text

def decimal (n : Nat) : List Char :=
  Nat.toDigits 10 n

def decimalWide (width n : Nat) : List Char :=
  (decimal n).leftpad width '0'

def digitsValue (digits : List Char) : Nat :=
  digits.foldl (fun value digit => 10 * value + (digit.toNat - '0'.toNat)) 0

def isDigits (text : List Char) : Bool :=
  !text.isEmpty && text.all Char.isDigit

/-- Read an unsigned number below `limit`: an optional plus sign and ASCII digits. -/
def readUnsigned? (limit : Nat) (text : List Char) : Option Nat :=
  let digits := match text with
    | '+' :: rest => rest
    | _ => text
  if isDigits digits && digitsValue digits < limit then some (digitsValue digits) else none

end DeviceBrowser.Text
