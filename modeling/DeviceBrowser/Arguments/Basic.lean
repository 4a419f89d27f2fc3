import DeviceBrowser.Text.Shown

/-!
What the command line can ask for, how its options are spelled, and what can be wrong
with it.
-/

namespace DeviceBrowser

structure Arguments where
  serial : Option String := none
  adb : Option String := none
  settingsFile : Option String := none
  /-- Seconds that one command may take. -/
  timeout : Option UInt64 := none
  logLevel : Option String := none
  listsDevices : Bool := false
  printsJson : Bool := false
  path : Option String := none
  showsVersion : Bool := false
  showsHelp : Bool := false
  deriving DecidableEq, Repr

namespace Arguments

abbrev Word := List UInt8

inductive Switch where
  | help
  | version
  | devices
  | json
  deriving DecidableEq, Repr

inductive Setting where
  | serial
  | adb
  | settingsFile
  | timeout
  | logLevel
  deriving DecidableEq, Repr

inductive Meaning where
  | switch (switch : Switch)
  | setting (setting : Setting)
  deriving DecidableEq, Repr

inductive Spelling where
  | short (letter : Char)
  | long (name : String)
  deriving DecidableEq, Repr

def Spelling.text : Spelling → String
  | .short letter => String.ofList ['-', letter]
  | .long name => "--" ++ name

def shortMeaning? : Char → Option Meaning
  | 'h' => some (.switch .help)
  | 'V' => some (.switch .version)
  | 'd' => some (.switch .devices)
  | 's' => some (.setting .serial)
  | 'a' => some (.setting .adb)
  | 'c' => some (.setting .settingsFile)
  | 't' => some (.setting .timeout)
  | 'l' => some (.setting .logLevel)
  | _ => none

def longMeaning? : String → Option Meaning
  | "help" => some (.switch .help)
  | "version" => some (.switch .version)
  | "devices" => some (.switch .devices)
  | "json" => some (.switch .json)
  | "serial" => some (.setting .serial)
  | "adb" => some (.setting .adb)
  | "config" => some (.setting .settingsFile)
  | "timeout" => some (.setting .timeout)
  | "log-level" => some (.setting .logLevel)
  | _ => none

inductive Fault where
  | missingValue (option : Spelling)
  | unknownOption (option : Spelling)
  /-- A value was given to an option that stands alone. -/
  | unexpectedValue (option : Spelling) (value : Word)
  | notText (value : Word)
  | invalidTimeout (value : String)
  /-- There is a directory to list already. -/
  | secondPath (argument : Word)
  deriving DecidableEq, Repr

def Fault.message : Fault → String
  | .missingValue option => "missing argument for option '" ++ option.text ++ "'"
  | .unknownOption option => "invalid option '" ++ option.text ++ "'"
  | .unexpectedValue option value =>
      "unexpected argument for option '" ++ option.text ++ "': " ++ Text.shown value
  | .notText value => "argument is invalid unicode: " ++ Text.shown value
  | .invalidTimeout value => "invalid value for --timeout: '" ++ value ++ "'"
  | .secondPath argument =>
      "unexpected argument: '" ++ String.ofList (Text.Utf8.decodeLossy argument) ++ "'"

end Arguments

end DeviceBrowser
