import DeviceBrowser.Text.Utf8
import DeviceBrowser.Text.Blank

/-!
The text that remains of a terminal's output when its control sequences are taken away.

`Reader` is the parser of a terminal cut down to what it prints: colours, cursor moves,
titles and device strings leave no trace, and of the control characters only line feed,
carriage return and tab stay.  Output without any other control byte is decoded at once.
-/

namespace DeviceBrowser.Terminal

open DeviceBrowser.Text

inductive Family where
  | control
  | device
  deriving DecidableEq, Repr

inductive Part where
  | entry
  | parameter
  | intermediate
  /-- The sequence is malformed and is skipped to its end. -/
  | ignored
  deriving DecidableEq, Repr

inductive State where
  | ground (pending : Option Utf8.Unfinished)
  | escape
  | escapeIntermediate
  | sequence (family : Family) (part : Part)
  | payload
  /-- An operating system command such as a window title. -/
  | command
  /-- A start of string, a privacy message or an application command. -/
  | textString
  deriving DecidableEq, Repr

def isKeptControl (c : Char) : Bool :=
  c == '\n' || c == '\r' || c == '\t'

/-- Whether a character is carried out by the terminal instead of printed. -/
def isControl (c : Char) : Bool :=
  c.toNat < 0x20 || (0x80 ≤ c.toNat && c.toNat ≤ 0x9F)

def printed (c : Char) : List Char :=
  if isControl c && !isKeptControl c then [] else [c]

/-- What a decoded symbol leaves in plain text.  A lone byte that stands for a control
character of the upper half vanishes; anything else malformed is replaced. -/
def plainSymbol : Utf8.Symbol → List Char
  | .char c => printed c
  | .malformed [byte] => if byte ≤ 0x9F then [] else [Utf8.replacement]
  | .malformed _ => [Utf8.replacement]

def executed (byte : UInt8) : List Char :=
  printed (Char.ofNat byte.toNat)

def State.text : State := .ground none

def afterEscape (byte : UInt8) : List Char × State :=
  if byte < 0x20 then (executed byte, .escape)
  else if byte ≤ 0x2F then ([], .escapeIntermediate)
  else if byte == 0x50 then ([], .sequence .device .entry)
  else if byte == 0x5B then ([], .sequence .control .entry)
  else if byte == 0x5D then ([], .command)
  else if byte == 0x58 || byte == 0x5E || byte == 0x5F then ([], .textString)
  else if byte ≤ 0x7E then ([], .text)
  else ([], .escape)

/-- The state after a byte of a control sequence that is neither an escape nor a cancel. -/
def withinSequence (family : Family) (part : Part) (byte : UInt8) : List Char × State :=
  let stay := State.sequence family part
  if byte < 0x20 then
    (match family with | .control => executed byte | .device => [], stay)
  else if byte ≤ 0x2F then
    match part with
    | .ignored => ([], stay)
    | _ => ([], .sequence family .intermediate)
  else if byte ≤ 0x3F then
    match part with
    | .entry => ([], .sequence family .parameter)
    | .parameter => ([], if byte ≤ 0x3B then stay else .sequence family .ignored)
    | .intermediate | .ignored => ([], .sequence family .ignored)
  else if byte ≤ 0x7E then
    match family, part with
    | .control, _ => ([], .text)
    | .device, .ignored => ([], stay)
    | .device, _ => ([], .payload)
  else ([], stay)

def State.control (state : State) (byte : UInt8) : List Char × State :=
  if byte == 0x18 || byte == 0x1A then (executed byte, .text)
  else if byte == 0x1B then ([], .escape)
  else match state with
    | .ground pending => ([], .ground pending)
    | .escape => afterEscape byte
    | .escapeIntermediate =>
        if byte < 0x20 then (executed byte, state)
        else if 0x30 ≤ byte && byte ≤ 0x7E then ([], .text)
        else ([], state)
    | .sequence family part => withinSequence family part byte
    | .payload => ([], if byte == 0x9C then .text else state)
    | .command => ([], if byte == 0x07 then .text else state)
    | .textString => ([], state)

def State.step (state : State) (byte : UInt8) : List Char × State :=
  match state with
  | .ground pending =>
      if byte == 0x1B then
        (match pending with | none => [] | some _ => [Utf8.replacement], .escape)
      else
        let (symbols, pending) := Utf8.step pending byte
        (symbols.flatMap plainSymbol, .ground pending)
  | _ => state.control byte

structure Reader where
  state : State := .text
  output : List Char := []

def Reader.read (reader : Reader) (byte : UInt8) : Reader :=
  let (text, state) := reader.state.step byte
  ⟨state, text.reverse ++ reader.output⟩

/-- Plain text by way of the terminal's parser.  A character cut off at the end vanishes. -/
def parsedText (bytes : List UInt8) : List Char :=
  (bytes.foldl Reader.read {}).output.reverse

/-- Whether a byte calls for the parser: an ASCII control that is not kept. -/
def needsParser (byte : UInt8) : Bool :=
  (byte < 0x20 || byte == 0x7F) && !(byte == 0x0A || byte == 0x0D || byte == 0x09)

def plainChars (bytes : List UInt8) : List Char :=
  if bytes.any needsParser then parsedText bytes else Utf8.decodeLossy bytes

def plainText (bytes : List UInt8) : String :=
  String.ofList (plainChars bytes)

def withoutLineEnds (text : String) : String :=
  String.ofList (trimLineEnds text.toList)

end DeviceBrowser.Terminal
