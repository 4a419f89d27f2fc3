/-!
UTF-8, read one byte at a time.

The decoder keeps the bytes of a character that is not finished yet, together with the
range in which the next byte must lie.  A byte outside that range ends the unfinished
sequence as malformed and is read again on its own, so each malformed symbol is the
longest start of a character that was really there.
-/

namespace DeviceBrowser.Text.Utf8

structure Unfinished where
  bytes : List UInt8
  value : Nat
  missing : Nat
  /-- Lowest and highest value of the next byte. -/
  low : UInt8
  high : UInt8
  deriving DecidableEq, Repr

inductive Symbol where
  | char (c : Char)
  | malformed (bytes : List UInt8)
  deriving DecidableEq, Repr

def start (byte : UInt8) : Symbol ⊕ Unfinished :=
  let code := byte.toNat
  if code < 0x80 then .inl (.char (Char.ofNat code))
  else if 0xC2 ≤ code && code ≤ 0xDF then .inr ⟨[byte], code - 0xC0, 1, 0x80, 0xBF⟩
  else if code == 0xE0 then .inr ⟨[byte], 0, 2, 0xA0, 0xBF⟩
  else if code == 0xED then .inr ⟨[byte], 0xD, 2, 0x80, 0x9F⟩
  else if 0xE1 ≤ code && code ≤ 0xEF then .inr ⟨[byte], code - 0xE0, 2, 0x80, 0xBF⟩
  else if code == 0xF0 then .inr ⟨[byte], 0, 3, 0x90, 0xBF⟩
  else if 0xF1 ≤ code && code ≤ 0xF3 then .inr ⟨[byte], code - 0xF0, 3, 0x80, 0xBF⟩
  else if code == 0xF4 then .inr ⟨[byte], 4, 3, 0x80, 0x8F⟩
  else .inl (.malformed [byte])

def Unfinished.admits (unfinished : Unfinished) (byte : UInt8) : Bool :=
  unfinished.low ≤ byte && byte ≤ unfinished.high

def Unfinished.extend (unfinished : Unfinished) (byte : UInt8) : Symbol ⊕ Unfinished :=
  let value := 64 * unfinished.value + (byte.toNat - 0x80)
  if unfinished.missing ≤ 1 then .inl (.char (Char.ofNat value))
  else .inr ⟨unfinished.bytes ++ [byte], value, unfinished.missing - 1, 0x80, 0xBF⟩

def settle : Symbol ⊕ Unfinished → List Symbol × Option Unfinished
  | .inl symbol => ([symbol], none)
  | .inr unfinished => ([], some unfinished)

/-- Read one byte: the symbols it completes, and the character left unfinished. -/
def step (pending : Option Unfinished) (byte : UInt8) : List Symbol × Option Unfinished :=
  match pending with
  | none => settle (start byte)
  | some unfinished =>
      if unfinished.admits byte then settle (unfinished.extend byte)
      else
        let (symbols, pending) := settle (start byte)
        (.malformed unfinished.bytes :: symbols, pending)

/-- A decoder's symbols, latest first, and its unfinished character. -/
structure Decoding where
  symbols : List Symbol := []
  pending : Option Unfinished := none

def Decoding.read (decoding : Decoding) (byte : UInt8) : Decoding :=
  let (symbols, pending) := step decoding.pending byte
  ⟨symbols.reverse ++ decoding.symbols, pending⟩

/-- The symbols of a whole byte string; a character cut off at its end is malformed. -/
def decode (bytes : List UInt8) : List Symbol :=
  let decoding := bytes.foldl Decoding.read {}
  match decoding.pending with
  | none => decoding.symbols.reverse
  | some unfinished => (.malformed unfinished.bytes :: decoding.symbols).reverse

def replacement : Char := '\uFFFD'

def Symbol.lossy : Symbol → Char
  | .char c => c
  | .malformed _ => replacement

def decodeLossy (bytes : List UInt8) : List Char :=
  (decode bytes).map Symbol.lossy

def Symbol.char? : Symbol → Option Char
  | .char c => some c
  | .malformed _ => none

def decode? (bytes : List UInt8) : Option (List Char) :=
  (decode bytes).mapM Symbol.char?

def encode (text : List Char) : List UInt8 :=
  text.flatMap String.utf8EncodeChar

end DeviceBrowser.Text.Utf8
