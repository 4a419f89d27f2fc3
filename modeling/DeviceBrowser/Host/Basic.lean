import DeviceBrowser.Calendar.Span
import DeviceBrowser.Failure.Basic

/-!
The host system: what it is asked for, and what it can answer.

A `Host` is a record of the questions that the library asks of the world outside, each of
them answered from a state that the host keeps to itself.  Whatever child processes do,
some host answers that way; so a statement about every host is one about every behaviour
of the children.
-/

namespace DeviceBrowser

open Calendar

structure Launch where
  program : String
  arguments : List String
  environment : List (String × String)
  deriving DecidableEq, Repr

namespace Launch

def shell (program : String) : Launch where
  program
  arguments := []
  environment := [("LANG", "en_US.UTF-8"), ("LC_ALL", "en_US.UTF-8"), ("TERM", "xterm")]

def withArgument (launch : Launch) (argument : String) : Launch :=
  { launch with arguments := launch.arguments ++ [argument] }

def setVariable (key value : String) : List (String × String) → List (String × String)
  | [] => [(key, value)]
  | (name, old) :: rest =>
      if name == key then (name, value) :: rest
      else (name, old) :: setVariable key value rest

def withVariable (launch : Launch) (key value : String) : Launch :=
  { launch with environment := setVariable key value launch.environment }

end Launch

structure Invocation where
  program : String
  arguments : List String
  deriving DecidableEq, Repr

structure Child where
  number : Nat
  deriving DecidableEq, Repr

inductive LaunchFault where
  | pipe (fault : SystemFault)
  | spawn (fault : SystemFault)
  | died (status : String)
  deriving DecidableEq, Repr

def LaunchFault.failure (program : String) : LaunchFault → Failure
  | .pipe fault => .system fault
  | .spawn fault => .spawn program fault
  | .died status => .diedAtStart status

inductive Delivery where
  | data (bytes : List UInt8)
  /-- Reading failed; nothing follows. -/
  | fault (fault : SystemFault)
  deriving DecidableEq, Repr

inductive Silence where
  | closed
  | deadline
  deriving DecidableEq, Repr

/-- All that a shell's output brings until it is closed or the deadline comes. -/
structure Arrivals where
  deliveries : List Delivery
  silence : Silence
  deriving DecidableEq, Repr

inductive Completion where
  | spawnFault (fault : SystemFault)
  | deadline
  /-- The program has ended; there is no exit code if a signal ended it. -/
  | ended (output errors : List UInt8) (exitCode : Option Nat)
  deriving DecidableEq, Repr

structure Clock where
  /-- Wall time, in seconds since the start of 1970, and nanoseconds beyond them. -/
  second : Int
  nanosecond : Nat
  /-- Nanoseconds on a clock that is never set. -/
  elapsed : Nat
  deriving DecidableEq, Repr

structure Host (World : Type) where
  clock : StateM World Clock
  launch : Launch → StateM World (Except LaunchFault Child)
  /-- Write a text to a shell and wait for what it prints. -/
  submit : Child → String → StateM World (Except SystemFault Arrivals)
  release : Child → StateM World Unit
  run : Invocation → Span → StateM World Completion

/-- The program comes to an abrupt end: a deadline lies beyond what the clock can hold. -/
inductive Abort where
  | deadlineOverflow
  deriving DecidableEq, Repr

abbrev Act (World : Type) := ExceptT Abort (StateM World)

/-- The clock that deadlines are read from counts seconds below this. -/
def clockLimit : Nat := Nat.pow 2 63

/-- The reading of the clock at which a span of time has passed, if the clock gets there. -/
def deadlineAfter? (elapsed : Nat) (timeout : Span) : Option Nat :=
  let deadline := elapsed + timeout.nanoseconds
  if deadline < clockLimit * 1_000_000_000 then some deadline else none

end DeviceBrowser
