import DeviceBrowser.Host.Basic
import DeviceBrowser.Terminal.PlainText

/-!
Calls of adb that run as processes of their own: transfers, and questions about devices.
-/

namespace DeviceBrowser.Adb

open Calendar

def serialArguments (serial : Option String) : List String :=
  match serial.filter (!·.isEmpty) with
  | some serial => ["-s", serial]
  | none => []

def shell (adb : String) (serial : Option String) : Launch :=
  { Launch.shell adb with arguments := serialArguments serial ++ ["shell"] }

structure Call where
  adb : String
  serial : Option String := none
  arguments : List String := []
  timeout : Span := Span.ofSeconds 300
  deriving DecidableEq, Repr

namespace Call

def withSerial (call : Call) (serial : Option String) : Call :=
  { call with serial }

def withArguments (call : Call) (arguments : List String) : Call :=
  { call with arguments := call.arguments ++ arguments }

def commandLine (call : Call) : List String :=
  serialArguments call.serial ++ call.arguments

end Call

structure Result where
  /-- Both outputs, one after the other, as plain text. -/
  text : String
  exitCode : Option Nat
  deriving DecidableEq, Repr

def Result.isSuccess (result : Result) : Bool :=
  result.exitCode == some 0

def Call.run {World : Type} (host : Host World) (call : Call) :
    Act World (Except Failure Result) := do
  match ← host.run ⟨call.adb, call.commandLine⟩ call.timeout with
  | .spawnFault fault => return .error (.spawn call.adb fault)
  | .deadline => return .error (.deadline call.timeout)
  | .ended output errors exitCode =>
      return .ok ⟨Terminal.withoutLineEnds (Terminal.plainText (output ++ errors)), exitCode⟩

end DeviceBrowser.Adb
