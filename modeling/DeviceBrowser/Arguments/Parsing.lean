import DeviceBrowser.Arguments.Basic
import DeviceBrowser.Text.Decimal
import DeviceBrowser.Text.Search

/-!
Reading a command line, one word after another.

A long option may have its value after an equals sign, a short one right behind its letter
or after an equals sign; otherwise the next word is the value, whatever it looks like.
Short options that stand alone may share a word.  A word of two hyphens ends the options,
and a single hyphen is no option at all.
-/

namespace DeviceBrowser.Arguments

open Text

inductive Expectation where
  | anything
  | valueOf (setting : Setting) (option : Spelling)
  | path
  deriving DecidableEq, Repr

def readText (word : Word) : Except Fault String :=
  match Utf8.decode? word with
  | some text => .ok (String.ofList text)
  | none => .error (.notText word)

def readTimeout (text : String) : Except Fault UInt64 :=
  match readUnsigned? UInt64.size text.toList with
  | some seconds =>
      if seconds == 0 then .error (.invalidTimeout text) else .ok (UInt64.ofNat seconds)
  | none => .error (.invalidTimeout text)

def turnOn (arguments : Arguments) : Switch → Arguments
  | .help => { arguments with showsHelp := true }
  | .version => { arguments with showsVersion := true }
  | .devices => { arguments with listsDevices := true }
  | .json => { arguments with printsJson := true }

def assign (arguments : Arguments) (setting : Setting) (value : Word) :
    Except Fault Arguments := do
  let text ← readText value
  match setting with
  | .serial => return { arguments with serial := some text }
  | .adb => return { arguments with adb := some text }
  | .settingsFile => return { arguments with settingsFile := some text }
  | .timeout => return { arguments with timeout := some (← readTimeout text) }
  | .logLevel => return { arguments with logLevel := some text }

def setPath (arguments : Arguments) (word : Word) : Except Fault Arguments := do
  if arguments.path.isSome then throw (.secondPath word)
  return { arguments with path := some (← readText word) }

def hyphen : UInt8 := 0x2D
def equalsSign : UInt8 := 0x3D

/-- Read a long option, of which `word` is what follows the two hyphens. -/
def readLong (arguments : Arguments) (word : Word) : Except Fault (Arguments × Expectation) := do
  let (name, value) : Word × Option Word := match splitFirst? [equalsSign] word with
    | some (name, value) => (name, some value)
    | none => (word, none)
  let name := String.ofList (Utf8.decodeLossy name)
  let option := Spelling.long name
  match longMeaning? name, value with
  | none, _ => throw (.unknownOption option)
  | some (.switch switch), none => return (arguments.turnOn switch, .anything)
  | some (.switch _), some value => throw (.unexpectedValue option value)
  | some (.setting setting), some value => return (← arguments.assign setting value, .anything)
  | some (.setting setting), none => return (arguments, .valueOf setting option)

/-- The letter that a word begins with.  No character has more than four bytes. -/
def firstLetter (word : Word) : Char :=
  match Utf8.decode (word.take 4) with
  | .char c :: _ => c
  | _ => Utf8.replacement

/-- Read short options.  `previous` is the letter before them, if there is one. -/
def readShort (arguments : Arguments) (previous : Option Char) :
    Word → Except Fault (Arguments × Expectation)
  | [] => return (arguments, .anything)
  | byte :: rest =>
      match previous, byte == equalsSign with
      | some letter, true => throw (.unexpectedValue (.short letter) rest)
      | _, _ =>
          let letter := firstLetter (byte :: rest)
          match shortMeaning? letter, rest with
          | none, _ => throw (.unknownOption (.short letter))
          | some (.switch switch), _ => readShort (arguments.turnOn switch) (some letter) rest
          | some (.setting setting), [] => return (arguments, .valueOf setting (.short letter))
          | some (.setting setting), next :: value => do
              let value := if next == equalsSign then value else next :: value
              return (← arguments.assign setting value, .anything)

def readWord (arguments : Arguments) (word : Word) : Except Fault (Arguments × Expectation) :=
  match word with
  | [first, second] =>
      if first == hyphen && second == hyphen then return (arguments, .path)
      else if first == hyphen then arguments.readShort none [second]
      else do return (← arguments.setPath word, .anything)
  | first :: second :: rest =>
      if first == hyphen && second == hyphen then arguments.readLong rest
      else if first == hyphen then arguments.readShort none (second :: rest)
      else do return (← arguments.setPath word, .anything)
  | _ => do return (← arguments.setPath word, .anything)

def readWords (arguments : Arguments) : Expectation → List Word → Except Fault Arguments
  | .valueOf _ option, [] => throw (.missingValue option)
  | _, [] => return arguments
  | .anything, word :: rest => do
      let (arguments, expectation) ← arguments.readWord word
      arguments.readWords expectation rest
  | .valueOf setting _, word :: rest => do
      (← arguments.assign setting word).readWords .anything rest
  | .path, word :: rest => do
      (← arguments.setPath word).readWords .path rest

def parse (words : List Word) : Except Fault Arguments :=
  ({} : Arguments).readWords .anything words

end DeviceBrowser.Arguments
