import DeviceBrowser.Calendar.PosixZone
import DeviceBrowser.Host.Confined
import DeviceBrowser.Program.Run

/-!
The command line: the surroundings of a run are read, and what it prints is printed.

Nothing is decided here.  The program runs on a host without child processes, so it answers
questions about itself and its settings, and reports a device as it would one whose adb
must not be started.
-/

namespace DeviceBrowser.CommandLine

def faultOf : IO.Error → SystemFault
  | .noFileOrDirectory .. => .noSuchFile
  | .permissionDenied .. => .permissionDenied
  | .inappropriateType .. => .isDirectory
  | error => ⟨.other, toString error⟩

def contentOf (path : String) : IO (Except SystemFault (List UInt8)) := do
  try
    return .ok (← IO.FS.readBinFile path).toList
  catch error =>
    return .error (faultOf error)

def filesFor (words : List Arguments.Word) : IO Settings.Files := do
  match Arguments.parse words with
  | .ok { settingsFile := some path, .. } =>
      let content ← contentOf path
      return fun name => if name == path then content else .error .noSuchFile
  | _ => return fun _ => .error .noSuchFile

def readEnvironment : IO Settings.Environment := do
  let values ← Settings.variableNames.mapM fun name => return (name, ← IO.getEnv name)
  return fun name => (values.lookup name).join

def localZone : IO Calendar.Zone := do
  let setting ← IO.getEnv "TZ"
  return (setting.bind Calendar.Zone.ofPosix?).getD Calendar.Zone.utc

/-- A run on a host without child processes has no deadlines, and so no abrupt end. -/
def unknownSite : Program.CrashSite := ⟨1, "an unknown place", ""⟩

end DeviceBrowser.CommandLine

open DeviceBrowser in
def main (arguments : List String) : IO UInt32 := do
  let words := arguments.map (·.toUTF8.toList)
  let surroundings : Program.Surroundings :=
    ⟨← CommandLine.readEnvironment, ← CommandLine.filesFor words, ← CommandLine.localZone,
      fun _ => CommandLine.unknownSite⟩
  let (ending, ()) := (Program.run Host.confined surroundings words).run ()
  (← IO.getStdout).putStr ending.output
  (← IO.getStderr).putStr ending.errors
  return UInt32.ofNat ending.exitCode
