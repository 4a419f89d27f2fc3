import DeviceBrowser.Arguments.Parsing
import DeviceBrowser.Explorer.Operations
import DeviceBrowser.Program.Help
import DeviceBrowser.Program.Report
import DeviceBrowser.Settings.Basic

/-!
The program: what it prints and how it exits, for a command line and its surroundings.

Mistakes in the command line or the settings exit with 2.  When the device cannot be used
the exit code is the error number of the failure.  An abrupt end exits with 101 and is reported by
the runtime system, which knows where it came about.
-/

namespace DeviceBrowser.Program

open Calendar

/-- What the runtime system knows of an abrupt end. -/
structure CrashSite where
  thread : Nat
  place : String
  /-- The calls that were going on, as they are printed. -/
  trace : String

def CrashSite.report (site : CrashSite) (message : String) : String :=
  "\nthread 'main' (" ++ toString site.thread ++ ") panicked at " ++ site.place ++ ":\n" ++
    message ++ "\n" ++ site.trace

structure Surroundings where
  environment : Settings.Environment
  files : Settings.Files
  zone : Zone
  crashSite : Abort → CrashSite

structure Ending where
  exitCode : Nat
  output : String
  errors : String
  deriving DecidableEq, Repr

namespace Ending

def success (output : String) : Ending := ⟨0, output, ""⟩

def errorLine (message : String) : String := "error: " ++ message ++ "\n"

def ofArguments (fault : Arguments.Fault) : Ending :=
  ⟨2, "", errorLine fault.message ++ "Try 'adb-shellfs --help' for more information.\n"⟩

def ofSettings (fault : Settings.Fault) : Ending := ⟨2, "", errorLine fault.message⟩

def ofFailure (failure : Failure) : Ending :=
  ⟨min 255 (max 1 failure.category.errno), "", errorLine failure.message⟩

def ofOutcome {Value : Type} (output : Value → String) : Except Failure Value → Ending
  | .ok value => success (output value)
  | .error failure => ofFailure failure

def abortMessage : Abort → String
  | .deadlineOverflow => "overflow when adding duration to instant"

def ofAbort (site : CrashSite) (abort : Abort) : Ending :=
  ⟨101, "", site.report (abortMessage abort)⟩

end Ending

variable {World : Type} (host : Host World)

def listDirectory (settings : Settings) (zone : Zone) (path : Option String) :
    Act World (Except Failure Listing) := do
  match ← (Explorer.new settings.finder settings.deviceOptions).connect host with
  | (.error failure, _) => return .error failure
  | (.ok (), explorer) =>
      let clock ← host.clock
      let reading : Listing.Reading :=
        ⟨zone, Timestamp.inZone zone clock.second clock.nanosecond⟩
      let (outcome, explorer) ← explorer.list host reading (path.getD explorer.path)
      let _ ← explorer.disconnect host
      return outcome

def carryOut (settings : Settings) (zone : Zone) (arguments : Arguments) :
    Act World Ending := do
  if arguments.listsDevices then
    let timeout := settings.deviceOptions.callTimeout
    let (outcome, _) ← Adb.Attached.listAll host settings.finder timeout
    return .ofOutcome (showDevices arguments.printsJson) outcome
  let outcome ← listDirectory host settings zone arguments.path
  return .ofOutcome (showListing arguments.printsJson) outcome

def run (surroundings : Surroundings) (words : List Arguments.Word) : StateM World Ending := do
  match Arguments.parse words with
  | .error fault => return .ofArguments fault
  | .ok arguments =>
      if arguments.showsHelp then return .success help
      if arguments.showsVersion then return .success versionLine
      match Settings.load arguments surroundings.environment surroundings.files with
      | .error fault => return .ofSettings fault
      | .ok settings =>
          match ← (carryOut host settings surroundings.zone arguments).run with
          | .ok ending => return ending
          | .error abort => return .ofAbort (surroundings.crashSite abort) abort

end DeviceBrowser.Program
