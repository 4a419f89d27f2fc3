import DeviceBrowser.Calendar.Span
import DeviceBrowser.Failure.Category
import DeviceBrowser.Failure.Phase

/-!
What can go wrong while talking to a device, and how it is told.

`Failure` names the causes, `Failure.message` has the wording of each, and
`Failure.category` sorts them into the categories that callers act on.
-/

namespace DeviceBrowser

inductive FaultKind where
  | brokenPipe
  | notFound
  | other
  deriving DecidableEq, Repr

structure SystemFault where
  kind : FaultKind
  text : String
  deriving DecidableEq, Repr

namespace SystemFault

def noSuchFile : SystemFault := ⟨.notFound, "No such file or directory (os error 2)"⟩

def permissionDenied : SystemFault := ⟨.other, "Permission denied (os error 13)"⟩

def isDirectory : SystemFault := ⟨.other, "Is a directory (os error 21)"⟩

def brokenPipe : SystemFault := ⟨.brokenPipe, "Broken pipe (os error 32)"⟩

/-- A text to be handed to the operating system has a NUL in it. -/
def nulByte : SystemFault := ⟨.other, "nul byte found in provided data"⟩

/-- A file read as text is not UTF-8. -/
def notText : SystemFault := ⟨.other, "stream did not contain valid UTF-8"⟩

end SystemFault

inductive Failure where
  /-- None of the places searched holds a working adb. -/
  | adbNotFound
  | spawn (program : String) (fault : SystemFault)
  /-- The shell was gone as soon as it had been started. -/
  | diedAtStart (status : String)
  | notRunning (phase : SessionPhase)
  /-- The shell closed its output in the middle of an answer. -/
  | outputEnded
  | system (fault : SystemFault)
  | deadline (timeout : Calendar.Span)
  | notConnected
  /-- The shell did not say which directory it is in. -/
  | noWorkingDirectory
  | phaseChange (source target : LinkPhase)
  | malformedListing (detail : String)
  | command (category : Failure.Category) (output : String)
  deriving DecidableEq, Repr

namespace Failure

def message : Failure → String
  | .adbNotFound => "adb executable not found"
  | .spawn program fault => "failed to spawn " ++ program ++ ": " ++ fault.text
  | .diedAtStart status => "shell terminated immediately (" ++ status ++ ")"
  | .notRunning phase => "session not running: current state is " ++ phase.name
  | .outputEnded => "unexpected EOF from shell"
  | .system fault => "I/O error: " ++ fault.text
  | .deadline timeout => "command execution timeout after " ++ timeout.text
  | .notConnected => "device not connected"
  | .noWorkingDirectory => "shell reported an empty working directory"
  | .phaseChange source target =>
      "invalid state transition from " ++ source.name ++ " to " ++ target.name
  | .malformedListing detail => "malformed listing response: " ++ detail
  | .command category output => category.description ++ ": " ++ output

def category : Failure → Category
  | .command category _ => category
  | .adbNotFound => .deviceNotFound
  | .outputEnded => .brokenPipe
  | .system ⟨.brokenPipe, _⟩ => .brokenPipe
  | _ => .general

end Failure

def LinkPhase.change (phase target : LinkPhase) : Except Failure LinkPhase :=
  if phase.mayBecome target then .ok target else .error (.phaseChange phase target)

end DeviceBrowser
