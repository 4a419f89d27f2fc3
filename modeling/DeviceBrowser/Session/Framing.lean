import DeviceBrowser.Host.Basic
import DeviceBrowser.Text.Search

/-!
Framing: cutting a shell's output into the answers to single commands.

An answer ends where its marker first occurs.  The bytes after the marker belong to the
next answer, but for the end of the marker's own line, which may come later.
-/

namespace DeviceBrowser

open Text

/-- What is carried from one answer to the next. -/
structure Framing where
  /-- Bytes that have come and are in no answer yet. -/
  pending : List UInt8 := []
  /-- The end of the last marker's line has still to be skipped. -/
  skipsLineEnd : Bool := false
  deriving DecidableEq, Repr

namespace Framing

def carriageReturn : UInt8 := 0x0D
def lineFeed : UInt8 := 0x0A

/-- Skip the end of the last marker's line as far as it has come: any carriage returns and
one line feed. -/
def skipLineEnd (framing : Framing) : Framing :=
  if framing.skipsLineEnd then
    match framing.pending.dropWhile (· == carriageReturn) with
    | [] => ⟨[], true⟩
    | head :: tail => ⟨if head == lineFeed then tail else head :: tail, false⟩
  else framing

def receive (framing : Framing) (bytes : List UInt8) : Framing :=
  { framing with pending := framing.pending ++ bytes }.skipLineEnd

def cut? (framing : Framing) (marker : List UInt8) (place : Nat) :
    Option (List UInt8 × Framing) :=
  (firstIndex? marker (framing.pending.drop place)).map fun index =>
    (framing.pending.take (place + index),
      skipLineEnd ⟨framing.pending.drop (place + index + marker.length), true⟩)

/-- The first place at which a marker that is not there yet could begin. -/
def rescanPlace (framing : Framing) (marker : List UInt8) : Nat :=
  framing.pending.length - (marker.length - 1)

inductive Gap where
  | exhausted
  | fault (fault : SystemFault)
  deriving DecidableEq, Repr

structure Search where
  answer : Except Gap (List UInt8)
  framing : Framing
  unread : List Delivery

def searchFrom (marker : List UInt8) (framing : Framing) (place : Nat)
    (deliveries : List Delivery) : Search :=
  match framing.cut? marker place with
  | some (answer, framing) => ⟨.ok answer, framing, deliveries⟩
  | none =>
      match deliveries with
      | [] => ⟨.error .exhausted, framing, []⟩
      | .fault fault :: rest => ⟨.error (.fault fault), framing, rest⟩
      | .data bytes :: rest =>
          searchFrom marker (framing.receive bytes) (framing.rescanPlace marker) rest

def search (marker : List UInt8) (framing : Framing) (deliveries : List Delivery) : Search :=
  searchFrom marker framing.skipLineEnd 0 deliveries

end Framing

end DeviceBrowser
