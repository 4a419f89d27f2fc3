import DeviceBrowser.Text.Blank
import DeviceBrowser.Text.Decimal

/-!
Spans of time, and their text: a number in the largest unit that leaves a whole part,
with a fraction as short as it can be.
-/

namespace DeviceBrowser.Calendar

open DeviceBrowser.Text

/-- A span of time, in nanoseconds. -/
structure Span where
  nanoseconds : Nat
  deriving DecidableEq, Repr

namespace Span

def ofSeconds (seconds : Nat) : Span := ⟨seconds * 1_000_000_000⟩

def ofMilliseconds (milliseconds : Nat) : Span := ⟨milliseconds * 1_000_000⟩

def milliseconds (span : Span) : Nat := span.nanoseconds / 1_000_000

/-- A number of `places` decimals, written without the zeros at its end. -/
def fraction (places n : Nat) : List Char :=
  match trimEndWhere (· == '0') (decimalWide places n) with
  | [] => []
  | digits => '.' :: digits

def inUnit (places nanoseconds : Nat) (unit : String) : String :=
  let size := Nat.pow 10 places
  String.ofList (decimal (nanoseconds / size) ++ fraction places (nanoseconds % size)) ++ unit

def text (span : Span) : String :=
  let count := span.nanoseconds
  if 1_000_000_000 ≤ count then inUnit 9 count "s"
  else if 1_000_000 ≤ count then inUnit 6 count "ms"
  else if 1_000 ≤ count then inUnit 3 count "µs"
  else inUnit 0 count "ns"

end Span

end DeviceBrowser.Calendar
