import DeviceBrowser.Text.Utf8
import DeviceBrowser.Text.Visible

/-!
Byte strings shown between double quotes, so that nothing in them is invisible or
ambiguous.

Quotes, backslashes and the common controls have short escapes, other characters without
a mark of their own are shown by their code points, and bytes that are not UTF-8 one by
one.
-/

namespace DeviceBrowser.Text

def hexadecimal (n : Nat) : List Char :=
  Nat.toDigits 16 n

def shownChar (c : Char) : List Char :=
  match c with
  | '\x00' => ['\\', '0']
  | '\t' => ['\\', 't']
  | '\n' => ['\\', 'n']
  | '\r' => ['\\', 'r']
  | '"' => ['\\', '"']
  | '\\' => ['\\', '\\']
  | c => if isVisible c then [c] else "\\u\x7b".toList ++ hexadecimal c.toNat ++ ['\x7d']

def shownByte (byte : UInt8) : List Char :=
  "\\x".toList ++ (hexadecimal byte.toNat).map Char.toUpper

def shownSymbol : Utf8.Symbol → List Char
  | .char c => shownChar c
  | .malformed bytes => bytes.flatMap shownByte

def shown (bytes : List UInt8) : String :=
  String.ofList ('"' :: (Utf8.decode bytes).flatMap shownSymbol ++ ['"'])

end DeviceBrowser.Text
