import DeviceBrowser.Text.Decimal
import DeviceBrowser.Text.Shown

/-!
JSON values, and their text with one element or member on each line.
-/

namespace DeviceBrowser.Json

open Text

inductive Value where
  | null
  | number (n : Nat)
  | text (s : String)
  | array (elements : List Value)
  | object (members : List (String × Value))
  deriving Repr

def escaped (c : Char) : List Char :=
  match c with
  | '"' => ['\\', '"']
  | '\\' => ['\\', '\\']
  | '\x08' => ['\\', 'b']
  | '\x0c' => ['\\', 'f']
  | '\n' => ['\\', 'n']
  | '\r' => ['\\', 'r']
  | '\t' => ['\\', 't']
  | c => if c.toNat < 0x20 then "\\u".toList ++ (hexadecimal c.toNat).leftpad 4 '0' else [c]

def quoted (s : String) : List Char :=
  '"' :: s.toList.flatMap escaped ++ ['"']

def lineBreak (depth : Nat) : List Char :=
  '\n' :: List.replicate (2 * depth) ' '

mutual

def Value.chars (depth : Nat) : Value → List Char
  | .null => "null".toList
  | .number n => decimal n
  | .text s => quoted s
  | .array [] => "[]".toList
  | .array (element :: rest) =>
      '[' :: lineBreak (depth + 1) ++ element.chars (depth + 1)
        ++ elementChars (depth + 1) rest ++ lineBreak depth ++ [']']
  | .object [] => "\x7b\x7d".toList
  | .object ((name, value) :: rest) =>
      '\x7b' :: lineBreak (depth + 1) ++ quoted name ++ ": ".toList ++ value.chars (depth + 1)
        ++ memberChars (depth + 1) rest ++ lineBreak depth ++ ['\x7d']

/-- The text of all elements but the first. -/
def elementChars (depth : Nat) : List Value → List Char
  | [] => []
  | element :: rest =>
      ',' :: lineBreak depth ++ element.chars depth ++ elementChars depth rest

def memberChars (depth : Nat) : List (String × Value) → List Char
  | [] => []
  | (name, value) :: rest =>
      ',' :: lineBreak depth ++ quoted name ++ ": ".toList ++ value.chars depth
        ++ memberChars depth rest

end

def Value.pretty (value : Value) : String :=
  String.ofList (value.chars 0)

def Value.ofOption : Option String → Value
  | some s => .text s
  | none => .null

end DeviceBrowser.Json
