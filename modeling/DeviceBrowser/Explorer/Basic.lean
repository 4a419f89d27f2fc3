import DeviceBrowser.Adb.Call
import DeviceBrowser.Adb.Finder
import DeviceBrowser.Session.Basic
import DeviceBrowser.Shell.Command

/-!
Explorers: one device's files, seen over a session with its shell.

An explorer connects by starting a session and asking for its directory.  A session that
has failed is given up, and an operation that needs one makes a new connection; but no
command is ever sent twice.
-/

namespace DeviceBrowser

open Calendar

structure Explorer where
  finder : Adb.Finder
  /-- The device to use; without a serial, the only one attached. -/
  serial : Option String
  commandTimeout : Span
  callTimeout : Span
  launch : Option Launch
  link : LinkPhase
  session : Option Session
  path : String
  deriving DecidableEq, Repr

structure DeviceOptions where
  serial : Option String := none
  commandTimeout : Span := Session.defaultTimeout
  callTimeout : Span := Span.ofSeconds 300
  deriving DecidableEq, Repr

namespace Explorer

def new (finder : Adb.Finder) (options : DeviceOptions) (launch : Option Launch := none) :
    Explorer where
  finder
  serial := options.serial
  commandTimeout := options.commandTimeout
  callTimeout := options.callTimeout
  launch
  link := .disconnected
  session := none
  path := "/"

def isConnected (explorer : Explorer) : Bool :=
  explorer.link.isConnected

variable {World : Type} (host : Host World)

def chooseLaunch (explorer : Explorer) : Act World (Except Failure Launch × Explorer) := do
  match explorer.launch with
  | some launch => return (.ok launch, explorer)
  | none =>
      match ← explorer.finder.find host with
      | (.error failure, finder) => return (.error failure, { explorer with finder })
      | (.ok adb, finder) =>
          return (.ok (Adb.shell adb explorer.serial), { explorer with finder })

/-- Start a session and ask it for its directory.  If that fails the child is released. -/
def openSession (launch : Launch) (timeout : Span) :
    Act World (Except Failure (Session × String)) := do
  match ← (Session.new launch timeout (← host.clock)).start host with
  | (.error failure, _) => return .error failure
  | (.ok (), session) =>
      match ← session.execute host Shell.Command.workingDirectory.text with
      | (.error failure, session) =>
          let _ ← session.stop host
          return .error failure
      | (.ok answer, session) =>
          let path := Terminal.withoutLineEnds answer
          if path.isEmpty then
            let _ ← session.stop host
            return .error .noWorkingDirectory
          return .ok (session, path)

def changeLink (explorer : Explorer) (target : LinkPhase) : Except Failure Unit × Explorer :=
  match explorer.link.change target with
  | .ok link => (.ok (), { explorer with link })
  | .error failure => (.error failure, explorer)

def connect (explorer : Explorer) : Act World (Except Failure Unit × Explorer) := do
  if explorer.isConnected then return (.ok (), explorer)
  match explorer.changeLink .connecting with
  | (.error failure, explorer) => return (.error failure, explorer)
  | (.ok (), explorer) =>
      let (outcome, explorer) ← match ← explorer.chooseLaunch host with
        | (.error failure, explorer) => pure (.error failure, explorer)
        | (.ok launch, explorer) =>
            pure (← openSession host launch explorer.commandTimeout, explorer)
      match outcome with
      | .ok (session, path) =>
          return { explorer with session := some session, path }.changeLink .connected
      | .error failure =>
          match explorer.changeLink .disconnected with
          | (.error refusal, explorer) => return (.error refusal, explorer)
          | (.ok (), explorer) => return (.error failure, explorer)

def disconnect (explorer : Explorer) : Act World Explorer := do
  if let some session := explorer.session then
    let _ ← session.stop host
  return { explorer with session := none, link := .disconnected }

def isReady (explorer : Explorer) : Bool :=
  explorer.isConnected && (explorer.session.map Session.isRunning).getD false

def ensureConnected (explorer : Explorer) : Act World (Except Failure Unit × Explorer) := do
  if explorer.isReady then return (.ok (), explorer)
  let explorer ← explorer.disconnect host
  match ← explorer.connect host with
  | (.ok (), explorer) => return (.ok (), explorer)
  | (.error _, explorer) => return (.error .notConnected, explorer)

/-- Run a command on the shell.  A session that fails at it is given up. -/
def tryCommand (explorer : Explorer) (command : String) :
    Act World (Except Failure String × Explorer) := do
  match ← explorer.ensureConnected host with
  | (.error failure, explorer) => return (.error failure, explorer)
  | (.ok (), explorer) =>
      match explorer.session with
      | none => return (.error .notConnected, explorer)
      | some session =>
          let (answer, session) ← session.execute host command
          let explorer := { explorer with session := some session }
          if session.isRunning then return (answer, explorer)
          return (answer, ← explorer.disconnect host)

/-- Run a command on the shell; a failure counts as an empty answer. -/
def command (explorer : Explorer) (text : String) : Act World (String × Explorer) := do
  match ← explorer.tryCommand host text with
  | (.ok answer, explorer) => return (answer, explorer)
  | (.error _, explorer) => return ("", explorer)

def call (explorer : Explorer) (arguments : List String) :
    Act World (Except Failure Adb.Result × Explorer) := do
  match ← explorer.finder.find host with
  | (.error failure, finder) => return (.error failure, { explorer with finder })
  | (.ok adb, finder) =>
      let call : Adb.Call :=
        { adb, serial := explorer.serial, arguments, timeout := explorer.callTimeout }
      return (← call.run host, { explorer with finder })

end Explorer

end DeviceBrowser
