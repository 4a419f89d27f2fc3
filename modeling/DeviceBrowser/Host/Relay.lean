import DeviceBrowser.Host.Basic

/-!
Relaying a shell's output: blocks are read into a buffer and passed on as deliveries.

The relay goes on until the source ends, a read fails for good, or nobody takes its
deliveries any more.  A failure is passed on before the relay stops; a read that was only
interrupted is done again.
-/

namespace DeviceBrowser

/-- What one call of reading brings.  Reading no bytes at all is the end of the source. -/
inductive Read where
  | data (bytes : List UInt8)
  | interrupted
  | failed (fault : SystemFault)
  deriving DecidableEq, Repr

namespace Relay

def defaultBufferSize : Nat := 4096

def bufferSize (requested : Nat) : Nat := max 1 requested

def blocks (size : Nat) (bytes : List UInt8) : List (List UInt8) :=
  match bytes with
  | [] => []
  | first :: rest =>
      (first :: rest.take (size - 1)) :: blocks size (rest.drop (size - 1))
termination_by bytes.length
decreasing_by simp only [List.length_drop, List.length_cons]; omega

/-- The calls of reading that it takes to get what is in store through a buffer. -/
def Read.throughBuffer (size : Nat) : Read → List Read
  | .data [] => [.data []]
  | .data bytes => (blocks size bytes).map .data
  | read => [read]

/-- The deliveries that were taken, and how often the source was read. -/
structure Outcome where
  deliveries : List Delivery
  reads : Nat
  deriving DecidableEq, Repr

/-- Whether the next delivery is taken, when so many more of them are.  A receiver that
stays takes any number. -/
def isTaken : Option Nat → Bool
  | some 0 => false
  | _ => true

def afterTaking (taken : Option Nat) : Option Nat :=
  taken.map (· - 1)

def relay (taken : Option Nat) : List Read → Outcome
  | [] | .data [] :: _ => ⟨[], 1⟩
  | .data bytes :: rest =>
      if isTaken taken then
        let outcome := relay (afterTaking taken) rest
        ⟨.data bytes :: outcome.deliveries, outcome.reads + 1⟩
      else ⟨[], 1⟩
  | .interrupted :: rest =>
      let outcome := relay taken rest
      { outcome with reads := outcome.reads + 1 }
  | .failed fault :: _ => ⟨if isTaken taken then [.fault fault] else [], 1⟩

/-- Relay a source through a buffer.  `taken` says how many deliveries are taken before the
receiver goes away, if it ever does. -/
def run (requestedSize : Nat) (taken : Option Nat) (source : List Read) : Outcome :=
  relay taken (source.flatMap (Read.throughBuffer (bufferSize requestedSize)))

end Relay

end DeviceBrowser
