/-!
The phases of a shell session and of a connection to a device.
-/

namespace DeviceBrowser

inductive SessionPhase where
  | notStarted
  | running
  /-- The child and its pipes have been released. -/
  | stopped
  deriving DecidableEq, Repr

namespace SessionPhase

def name : SessionPhase → String
  | .notStarted => "NotStarted"
  | .running => "Running"
  | .stopped => "Stopped"

def takesCommands : SessionPhase → Bool
  | .running => true
  | _ => false

def isStopped : SessionPhase → Bool
  | .stopped => true
  | _ => false

end SessionPhase

inductive LinkPhase where
  | disconnected
  /-- The shell is being started and asked for its directory. -/
  | connecting
  | connected
  deriving DecidableEq, Repr

namespace LinkPhase

def name : LinkPhase → String
  | .disconnected => "Disconnected"
  | .connecting => "Connecting"
  | .connected => "Connected"

def isConnected : LinkPhase → Bool
  | .connected => true
  | _ => false

/-- A connection comes about by way of `connecting` and may end at any time. -/
def mayBecome : LinkPhase → LinkPhase → Bool
  | .disconnected, .connecting => true
  | .connecting, .connected => true
  | .connecting, .disconnected => true
  | .connected, .disconnected => true
  | _, _ => false

end LinkPhase

end DeviceBrowser
