import DeviceBrowser.Explorer.Basic
import DeviceBrowser.Listing.Response

/-!
What an explorer does with files: looking around, changing directories, copying, removing
and making.
-/

namespace DeviceBrowser

namespace Explorer

variable {World : Type} (host : Host World)

/-- The directory that the shell is in, or the root if it cannot be learned. -/
def workingDirectory (explorer : Explorer) : Act World (String × Explorer) := do
  if !explorer.isConnected then return ("/", explorer)
  match ← explorer.tryCommand host Shell.Command.workingDirectory.text with
  | (.ok answer, explorer) => return (if answer.isEmpty then "/" else answer, explorer)
  | (.error _, explorer) => return ("/", explorer)

def enter (explorer : Explorer) (path : String) :
    Act World (Except Failure Bool × Explorer) := do
  if !explorer.isConnected then return (.error .notConnected, explorer)
  match ← explorer.tryCommand host (Shell.Command.enter path).text with
  | (.error failure, explorer) => return (.error failure, explorer)
  | (.ok answer, explorer) =>
      let reached := Terminal.withoutLineEnds answer
      if reached.isEmpty then return (.ok false, explorer)
      return (.ok true, { explorer with path := reached })

/-- List a directory and move there.  If that is not possible the directory that the shell
is in is listed, and the listing says so. -/
def list (explorer : Explorer) (clock : Listing.Reading) (path : String) :
    Act World (Except Failure Listing × Explorer) := do
  if !explorer.isConnected then return (.error .notConnected, explorer)
  match ← explorer.tryCommand host (Shell.Command.list path).text with
  | (.error failure, explorer) => return (.error failure, explorer)
  | (.ok answer, explorer) =>
      match Listing.read clock answer with
      | .error failure => return (.error failure, explorer)
      | .ok listing =>
          let reached := if listing.path.isEmpty then path else listing.path
          return (.ok { listing with path := reached }, { explorer with path := reached })

/-- Commands that change files print nothing when all is well. -/
def checkOutput (output : String) : Except Failure Unit :=
  if output.isEmpty then .ok ()
  else .error (.command (Failure.Category.ofText output) output)

def change (explorer : Explorer) (command : Shell.Command) :
    Act World (Except Failure Unit × Explorer) := do
  match ← explorer.ensureConnected host with
  | (.error failure, explorer) => return (.error failure, explorer)
  | (.ok (), explorer) =>
      match ← explorer.tryCommand host command.text with
      | (.error failure, explorer) => return (.error failure, explorer)
      | (.ok output, explorer) => return (checkOutput output, explorer)

def removeFile (explorer : Explorer) (path : String) :
    Act World (Except Failure Unit × Explorer) :=
  explorer.change host (.removeFile path)

def removeTree (explorer : Explorer) (path : String) :
    Act World (Except Failure Unit × Explorer) :=
  explorer.change host (.removeTree path)

def makeDirectory (explorer : Explorer) (path : String) :
    Act World (Except Failure Unit × Explorer) :=
  explorer.change host (.makeDirectory path)

/-- What adb prints at the end of a transfer that worked. -/
def transferPhrases : List String :=
  ["file pulled", "files pulled", "file pushed", "files pushed", "skipped"]

/-- A transfer has worked if adb says so, by its exit code or by its words. -/
def checkTransfer (result : Adb.Result) : Except Failure Unit :=
  let isReported := transferPhrases.any fun phrase =>
    Text.occursIn phrase.toList result.text.toList
  if result.isSuccess || isReported then .ok ()
  else .error (.command (Failure.Category.ofText result.text) result.text)

inductive Direction where
  | pull
  | push
  deriving DecidableEq, Repr

def Direction.verb : Direction → String
  | .pull => "pull"
  | .push => "push"

def transfer (explorer : Explorer) (direction : Direction) (source target : String) :
    Act World (Except Failure Unit × Explorer) := do
  match ← explorer.ensureConnected host with
  | (.error failure, explorer) => return (.error failure, explorer)
  | (.ok (), explorer) =>
      match ← explorer.call host [direction.verb, source, target] with
      | (.error failure, explorer) => return (.error failure, explorer)
      | (.ok result, explorer) => return (checkTransfer result, explorer)

end Explorer

end DeviceBrowser
