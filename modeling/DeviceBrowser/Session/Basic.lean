import DeviceBrowser.Session.Framing
import DeviceBrowser.Session.Marker
import DeviceBrowser.Terminal.PlainText

/-!
Sessions: a shell that is kept running and answers one command after another.

Each command is followed by the printing of a fresh marker, and its answer is what the
shell prints before that.  When the shell cannot be written to, ends its output, fails or
lets the deadline pass, the session is over: its child is released, so that nothing late
can get into the answer to another command.
-/

namespace DeviceBrowser

open Calendar

structure LiveShell where
  child : Child
  framing : Framing := {}
  unread : List Delivery := []
  deriving DecidableEq, Repr

inductive SessionStage where
  | notStarted
  | running (shell : LiveShell)
  | stopped
  deriving DecidableEq, Repr

structure Session where
  launch : Launch
  stage : SessionStage
  markers : MarkerSource
  timeout : Span
  /-- The text of the last failure, until the session is started anew. -/
  lastFailure : Option String
  deriving DecidableEq, Repr

namespace Session

def defaultTimeout : Span := Span.ofSeconds 30

def new (launch : Launch) (timeout : Span) (clock : Clock) : Session where
  launch
  stage := .notStarted
  markers := MarkerSource.new clock
  timeout
  lastFailure := none

def phase (session : Session) : SessionPhase :=
  match session.stage with
  | .notStarted => .notStarted
  | .running _ => .running
  | .stopped => .stopped

def isRunning (session : Session) : Bool :=
  session.phase.takesCommands

def commandCount (session : Session) : Nat :=
  session.markers.issued.toNat

def commandLine (command marker : String) : String :=
  command ++ "; echo " ++ marker ++ "\n"

variable {World : Type} (host : Host World)

def start (session : Session) : Act World (Except Failure Unit × Session) := do
  if session.isRunning then return (.ok (), session)
  match ← host.launch session.launch with
  | .ok child =>
      return (.ok (), { session with stage := .running { child }, lastFailure := none })
  | .error fault =>
      let failure := fault.failure session.launch.program
      return (.error failure,
        { session with stage := .stopped, lastFailure := some failure.message })

def stop (session : Session) : Act World Session := do
  if let .running shell := session.stage then
    host.release shell.child
  return { session with stage := .stopped }

def fail {Answer : Type} (session : Session) (failure : Failure) :
    Act World (Except Failure Answer × Session) := do
  let session ← { session with lastFailure := some failure.message }.stop host
  return (.error failure, session)

def gapFailure (timeout : Span) (silence : Silence) : Framing.Gap → Failure
  | .fault fault => .system fault
  | .exhausted =>
      match silence with
      | .closed => .outputEnded
      | .deadline => .deadline timeout

/-- Run a command and return the bytes that the shell prints before the marker. -/
def request (session : Session) (command : String) :
    Act World (Except Failure (List UInt8) × Session) := do
  match session.stage with
  | .notStarted | .stopped => return (.error (.notRunning session.phase), session)
  | .running shell =>
      let clock ← host.clock
      let (marker, markers) := session.markers.issue clock
      let session := { session with markers }
      match ← host.submit shell.child (commandLine command marker) with
      | .error fault => session.fail host (.system fault)
      | .ok arrivals =>
          if (deadlineAfter? clock.elapsed session.timeout).isNone then
            throw .deadlineOverflow
          let found := shell.framing.search (Text.Utf8.encode marker.toList)
            (shell.unread ++ arrivals.deliveries)
          let shell := { shell with framing := found.framing, unread := found.unread }
          let session := { session with stage := .running shell }
          match found.answer with
          | .ok bytes => return (.ok bytes, session)
          | .error gap => session.fail host (gapFailure session.timeout arrivals.silence gap)

def answerText (bytes : List UInt8) : String :=
  Terminal.withoutLineEnds (Terminal.plainText bytes)

def execute (session : Session) (command : String) :
    Act World (Except Failure String × Session) := do
  let (answer, session) ← session.request host command
  return (answer.map answerText, session)

end Session

end DeviceBrowser
