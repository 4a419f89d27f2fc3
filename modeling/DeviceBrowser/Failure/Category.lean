import DeviceBrowser.Text.Search

/-!
The categories of failure that callers can tell apart, each with its POSIX error number,
and the reading of a category from what a command printed.
-/

namespace DeviceBrowser.Failure

inductive Category where
  | notFound
  | alreadyExists
  | accessDenied
  | noSpace
  | readOnly
  | brokenPipe
  | notPermitted
  | directoryNotEmpty
  | deviceNotFound
  | invalidArgument
  | general
  deriving DecidableEq, Repr

namespace Category

/-- Phrases that name a category, the more specific ones first. -/
def phrases : List (String × Category) :=
  [ ("remote object", .notFound),
    ("does not exist", .notFound),
    ("no such file or directory", .notFound),
    ("file exists", .alreadyExists),
    ("permission denied", .accessDenied),
    ("insufficient permissions for device", .accessDenied),
    ("no space left on device", .noSpace),
    ("read-only file system", .readOnly),
    ("broken pipe", .brokenPipe),
    ("error: closed", .brokenPipe),
    ("operation not permitted", .notPermitted),
    ("directory not empty", .directoryNotEmpty),
    ("device not found", .deviceNotFound),
    ("no devices/emulators found", .deviceNotFound),
    ("more than one device/emulator", .invalidArgument) ]

/-- The category of a command's output: that of the first phrase in it, ASCII letters
counting the same in both cases. -/
def ofText (text : String) : Category :=
  let lowered := text.toList.map Char.toLower
  match phrases.find? fun (phrase, _) => Text.occursIn phrase.toList lowered with
  | some (_, category) => category
  | none => .general

def errno : Category → Nat
  | .notFound => 2
  | .alreadyExists => 17
  | .accessDenied => 13
  | .noSpace => 28
  | .readOnly => 30
  | .brokenPipe => 32
  | .notPermitted => 1
  | .directoryNotEmpty => 39
  | .deviceNotFound => 19
  | .invalidArgument => 22
  | .general => 5

def description : Category → String
  | .notFound => "not found"
  | .alreadyExists => "already exists"
  | .accessDenied => "access denied"
  | .noSpace => "no space left"
  | .readOnly => "read-only filesystem"
  | .brokenPipe => "broken pipe"
  | .notPermitted => "operation not permitted"
  | .directoryNotEmpty => "directory not empty"
  | .deviceNotFound => "no such device"
  | .invalidArgument => "invalid argument"
  | .general => "I/O error"

end Category

end DeviceBrowser.Failure
