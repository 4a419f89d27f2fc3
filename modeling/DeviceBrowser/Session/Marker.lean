import DeviceBrowser.Host.Basic
import DeviceBrowser.Text.Decimal

/-!
Markers: the lines that a shell is told to print after each command, so that the end of
the command's output can be found.

A marker holds the time in microseconds and a number that grows with every marker of a
session.
-/

namespace DeviceBrowser

open Text

structure MarkerSource where
  /-- Microseconds of wall time when the source was made. -/
  anchor : UInt64
  /-- What the clock that is never set read then, in nanoseconds. -/
  origin : Nat
  issued : UInt64
  deriving DecidableEq, Repr

namespace MarkerSource

/-- Microseconds of wall time since the start of 1970; earlier times count as its start. -/
def wallMicroseconds (clock : Clock) : Nat :=
  (clock.second * 1_000_000 + clock.nanosecond / 1_000).toNat

def new (clock : Clock) : MarkerSource :=
  ⟨UInt64.ofNat (wallMicroseconds clock), clock.elapsed, 0⟩

def marker (microseconds number : Nat) : List Char :=
  "__MARK_".toList ++ decimal microseconds ++ '_' :: decimal number ++ "__".toList

def microseconds (source : MarkerSource) (clock : Clock) : UInt64 :=
  source.anchor + UInt64.ofNat ((clock.elapsed - source.origin) / 1_000)

def issue (source : MarkerSource) (clock : Clock) : String × MarkerSource :=
  (String.ofList (marker (source.microseconds clock).toNat source.issued.toNat),
    { source with issued := source.issued + 1 })

end MarkerSource

end DeviceBrowser
