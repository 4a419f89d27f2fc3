import DeviceBrowser.Host.Basic
import DeviceBrowser.Text.Blank
import DeviceBrowser.Text.Search
import DeviceBrowser.Text.Utf8

/-!
Finding adb: the places where it may be are tried once, and the outcome is remembered,
whether one was found or none.
-/

namespace DeviceBrowser.Adb

open Text Calendar

structure Finder where
  candidates : List String
  outcome : Option (Option String) := none
  deriving DecidableEq, Repr

def defaultCandidates : List String :=
  ["/opt/homebrew/bin/adb", "/usr/local/bin/adb", "adb"]

def probeTimeout : Span := Span.ofSeconds 5

def isVersionText (text : List Char) : Bool :=
  let first := (lines text).headD []
  occursIn "Android Debug Bridge".toList first || occursIn "version".toList first

namespace Finder

def new : Finder := { candidates := defaultCandidates }

def fixed (adb : String) : Finder := { candidates := [], outcome := some (some adb) }

variable {World : Type} (host : Host World)

def probe (candidate : String) : Act World Bool := do
  match ← host.run ⟨candidate, ["version"]⟩ probeTimeout with
  | .ended output errors _ =>
      return isVersionText (Utf8.decodeLossy output ++ Utf8.decodeLossy errors)
  | _ => return false

def firstWorking : List String → Act World (Option String)
  | [] => return none
  | candidate :: rest => do
      if ← probe host candidate then return some candidate
      firstWorking rest

/-- The adb to use.  Candidates are tried at the first question only. -/
def find (finder : Finder) : Act World (Except Failure String × Finder) := do
  let outcome ← match finder.outcome with
    | some outcome => pure outcome
    | none => firstWorking host finder.candidates
  let answer := match outcome with
    | some adb => .ok adb
    | none => .error .adbNotFound
  return (answer, { finder with outcome := some outcome })

end Finder

end DeviceBrowser.Adb
