import DeviceBrowser.Arguments.Basic
import DeviceBrowser.Explorer.Basic
import DeviceBrowser.Settings.Document

/-!
Settings, and where they come from: the command line before the environment, the
environment before a file, and the file before the defaults.
-/

namespace DeviceBrowser

open Calendar

structure AdbSettings where
  path : Option String := none
  serial : Option String := none
  /-- Seconds that one command on the shell may take. -/
  commandSeconds : UInt64 := 30
  /-- Seconds that one call of adb may take. -/
  callSeconds : UInt64 := 300
  deriving DecidableEq, Repr

structure LogSettings where
  level : String := "info"
  deriving DecidableEq, Repr

structure Settings where
  adb : AdbSettings := {}
  logging : LogSettings := {}
  deriving DecidableEq, Repr

namespace Settings

inductive Fault where
  | unreadable (fault : SystemFault)
  | document (fault : Document.Fault)
  | invalidTimeout (value : String)
  deriving DecidableEq, Repr

def Document.Fault.text : Document.Fault → String
  | .cutShort => "unexpected end of document"
  | .malformed => "not a JSON document"
  | .mismatch => "value of an unexpected shape"

def Fault.message : Fault → String
  | .unreadable fault => "failed to read config file: " ++ fault.text
  | .document fault => "failed to parse config file: " ++ Document.Fault.text fault
  | .invalidTimeout value => "invalid timeout: '" ++ value ++ "'"

open Document in
def adbMembers : List (Member AdbSettings) :=
  [ ⟨"path", fun settings text => do
      let (path, rest) ← readOptionalString text
      return ({ settings with path }, rest)⟩,
    ⟨"serial", fun settings text => do
      let (serial, rest) ← readOptionalString text
      return ({ settings with serial }, rest)⟩,
    ⟨"command_timeout_secs", fun settings text => do
      let (commandSeconds, rest) ← readUnsigned text
      return ({ settings with commandSeconds }, rest)⟩,
    ⟨"oneshot_timeout_secs", fun settings text => do
      let (callSeconds, rest) ← readUnsigned text
      return ({ settings with callSeconds }, rest)⟩ ]

open Document in
def logMembers : List (Member LogSettings) :=
  [ ⟨"level", fun settings text => do
      let (level, rest) ← readString text
      return ({ settings with level }, rest)⟩ ]

open Document in
def members : List (Member Settings) :=
  [ ⟨"adb", fun settings text => do
      let (adb, rest) ← readRecord adbMembers {} text
      return ({ settings with adb }, rest)⟩,
    ⟨"logging", fun settings text => do
      let (logging, rest) ← readRecord logMembers {} text
      return ({ settings with logging }, rest)⟩ ]

def ofContent (content : Except SystemFault (List UInt8)) : Except Fault Settings :=
  match content with
  | .error fault => .error (.unreadable fault)
  | .ok bytes =>
      match Text.Utf8.decode? bytes with
      | none => .error (.unreadable .notText)
      | some text => (Document.read members {} text).mapError .document

abbrev Environment := String → Option String

def variableNames : List String :=
  ["ADB_SHELLFS_ADB_PATH", "ADB_SHELLFS_SERIAL", "ANDROID_SERIAL", "ADB_SHELLFS_TIMEOUT",
    "ADB_SHELLFS_LOG_LEVEL", "RUST_LOG"]

/-- The value of a variable; an empty one counts as unset. -/
def valueOf? (environment : Environment) (name : String) : Option String :=
  (environment name).filter (!·.isEmpty)

/-- Let the environment override settings.  After a fault the settings are left as far as
they were changed. -/
def withEnvironment (settings : Settings) (environment : Environment) :
    Except Fault Unit × Settings :=
  let valueOf? := valueOf? environment
  let adb := settings.adb
  let adb := { adb with
    path := (valueOf? "ADB_SHELLFS_ADB_PATH").or adb.path
    serial :=
      ((valueOf? "ADB_SHELLFS_SERIAL").or (valueOf? "ANDROID_SERIAL")).or adb.serial }
  let level :=
    ((valueOf? "ADB_SHELLFS_LOG_LEVEL").or (valueOf? "RUST_LOG")).getD settings.logging.level
  match valueOf? "ADB_SHELLFS_TIMEOUT" with
  | none => (.ok (), { adb, logging := { level } })
  | some text =>
      match Text.readUnsigned? UInt64.size text.toList with
      | none => (.error (.invalidTimeout text), { settings with adb })
      | some seconds =>
          (.ok (),
            { adb := { adb with commandSeconds := UInt64.ofNat seconds }, logging := { level } })

def withArguments (settings : Settings) (arguments : Arguments) : Settings where
  adb := {
    path := arguments.adb.or settings.adb.path
    serial := arguments.serial.or settings.adb.serial
    commandSeconds := arguments.timeout.getD settings.adb.commandSeconds
    callSeconds := settings.adb.callSeconds }
  logging := { level := arguments.logLevel.getD settings.logging.level }

def check (settings : Settings) : Except Fault Unit :=
  if settings.adb.commandSeconds == 0 || settings.adb.callSeconds == 0 then
    .error (.invalidTimeout "0")
  else .ok ()

abbrev Files := String → Except SystemFault (List UInt8)

def load (arguments : Arguments) (environment : Environment) (files : Files) :
    Except Fault Settings := do
  let settings ← match arguments.settingsFile with
    | some path => ofContent (files path)
    | none => pure {}
  let (outcome, settings) := settings.withEnvironment environment
  outcome
  let settings := settings.withArguments arguments
  settings.check
  return settings

def deviceOptions (settings : Settings) : DeviceOptions where
  serial := settings.adb.serial.filter (!·.isEmpty)
  commandTimeout := Span.ofSeconds settings.adb.commandSeconds.toNat
  callTimeout := Span.ofSeconds settings.adb.callSeconds.toNat

def finder (settings : Settings) : Adb.Finder :=
  match settings.adb.path with
  | some path => Adb.Finder.fixed path
  | none => Adb.Finder.new

end Settings

end DeviceBrowser
