import DeviceBrowser.Text.Decimal

/-!
Reading JSON into values of a known shape.

A text is read once from left to right, and the first thing that is wrong decides what the
whole is faulted for: it ends too soon, it is no JSON, or it is JSON of another shape.
Records are objects, or arrays of their members in order; what is missing keeps its
default, and members with other names are skipped.
-/

namespace DeviceBrowser.Settings.Document

open Text

inductive Fault where
  | cutShort
  | malformed
  /-- A value is of another shape than the one it is wanted for. -/
  | mismatch
  deriving DecidableEq, Repr

def isSpace (c : Char) : Bool :=
  c == ' ' || c == '\n' || c == '\t' || c == '\r'

def skipSpace (text : List Char) : List Char :=
  text.dropWhile isSpace

def skipWord : List Char → List Char → Except Fault (List Char)
  | [], text => .ok text
  | _ :: _, [] => .error .cutShort
  | expected :: word, c :: text => if c == expected then skipWord word text else .error .malformed

def hexDigit? (c : Char) : Option Nat :=
  if c.isDigit then some (c.toNat - '0'.toNat)
  else if 'a' ≤ c && c ≤ 'f' then some (c.toNat - 'a'.toNat + 10)
  else if 'A' ≤ c && c ≤ 'F' then some (c.toNat - 'A'.toNat + 10)
  else none

def codeUnit (text : List Char) : Except Fault Nat :=
  match (text.take 4).mapM hexDigit? with
  | some [a, b, c, d] => .ok (((a * 16 + b) * 16 + c) * 16 + d)
  | _ =>
      if (String.ofList (text.take 4)).utf8ByteSize < 4 then .error .cutShort
      else .error .malformed

def shortEscape? : Char → Option Char
  | '"' => some '"'
  | '\\' => some '\\'
  | '/' => some '/'
  | 'b' => some '\x08'
  | 'f' => some '\x0c'
  | 'n' => some '\n'
  | 'r' => some '\r'
  | 't' => some '\t'
  | _ => none

def isHighSurrogate (unit : Nat) : Bool := 0xD800 ≤ unit && unit ≤ 0xDBFF
def isLowSurrogate (unit : Nat) : Bool := 0xDC00 ≤ unit && unit ≤ 0xDFFF

/-- Read an escape after its backslash: the character, and how much of the text it takes.
Surrogates have to come in pairs. -/
def escape : List Char → Except Fault (Char × Nat)
  | [] => .error .cutShort
  | 'u' :: digits => do
      let high ← codeUnit digits
      if isLowSurrogate high then throw .malformed
      if !isHighSurrogate high then return (Char.ofNat high, 5)
      match digits.drop 4 with
      | '\\' :: 'u' :: digits =>
          let low ← codeUnit digits
          if !isLowSurrogate low then throw .malformed
          return (Char.ofNat (0x10000 + (high - 0xD800) * 0x400 + (low - 0xDC00)), 11)
      | [] | ['\\'] => throw .cutShort
      | _ => throw .malformed
  | c :: _ =>
      match shortEscape? c with
      | some decoded => .ok (decoded, 1)
      | none => .error .malformed

def escapeWidth : List Char → Except Fault Nat
  | [] => .error .cutShort
  | 'u' :: digits => do
      let _ ← codeUnit digits
      return 5
  | c :: _ => if (shortEscape? c).isSome then .ok 1 else .error .malformed

/-- Read a string after its opening quote; `done` is what has been read, latest first. -/
def stringFrom (done : List Char) (text : List Char) : Except Fault (List Char × List Char) :=
  match text with
  | [] => .error .cutShort
  | c :: rest =>
      if c == '"' then .ok (done.reverse, rest)
      else if c == '\\' then
        match escape rest with
        | .ok (decoded, width) => stringFrom (decoded :: done) (rest.drop width)
        | .error fault => .error fault
      else if c.toNat < 0x20 then .error .malformed
      else stringFrom (c :: done) rest
termination_by text.length
decreasing_by
  · simp only [List.length_drop, List.length_cons]; omega
  · simp

def skipString (text : List Char) : Except Fault (List Char) :=
  match text with
  | [] => .error .cutShort
  | c :: rest =>
      if c == '"' then .ok rest
      else if c == '\\' then
        match escapeWidth rest with
        | .ok width => skipString (rest.drop width)
        | .error fault => .error fault
      else if c.toNat < 0x20 then .error .malformed
      else skipString rest
termination_by text.length
decreasing_by
  · simp only [List.length_drop, List.length_cons]; omega
  · simp

structure Numeral where
  isNegative : Bool
  whole : List Char
  fraction : List Char := []
  exponent : Option Int := none
  deriving DecidableEq, Repr

def someDigits (atEnd : Fault) (text : List Char) : Except Fault (List Char × List Char) :=
  match text.takeWhile Char.isDigit with
  | [] => .error (if text.isEmpty then atEnd else .malformed)
  | digits => .ok (digits, text.drop digits.length)

def numeralExponent (atEnd : Fault) (text : List Char) : Except Fault (Option Int × List Char) :=
  match text with
  | c :: rest =>
      if c == 'e' || c == 'E' then do
        let (isNegative, rest) := match rest with
          | '-' :: rest => (true, rest)
          | '+' :: rest => (false, rest)
          | _ => (false, rest)
        let (digits, rest) ← someDigits atEnd rest
        let value : Int := digitsValue digits
        return (some (if isNegative then -value else value), rest)
      else .ok (none, text)
  | [] => .ok (none, [])

/-- Read a number.  `atEnd` is the fault of one that ends too soon. -/
def numeral (atEnd : Fault) (text : List Char) : Except Fault (Numeral × List Char) := do
  let (isNegative, text) := match text with
    | '-' :: rest => (true, rest)
    | _ => (false, text)
  let (whole, text) ← match text with
    | '0' :: rest =>
        if (rest.head?.map Char.isDigit).getD false then throw .malformed
        else pure (['0'], rest)
    | _ => someDigits atEnd text
  let (fraction, text) ← match text with
    | '.' :: rest => someDigits atEnd rest
    | _ => pure ([], text)
  let (exponent, text) ← numeralExponent atEnd text
  return ({ isNegative, whole, fraction, exponent }, text)

/-- The significand of a number, as far as it fits 64 bits, and its power of ten. -/
structure Scaled where
  significand : Nat := 0
  power : Int := 0
  /-- A digit has not fitted, so those that follow do not count. -/
  isFull : Bool := false
  deriving DecidableEq, Repr

/-- Take one more digit.  The power changes by `kept` if the digit fits the significand, and
by `dropped` if it does not. -/
def Scaled.append (kept dropped : Int) (number : Scaled) (digit : Char) : Scaled :=
  let significand := 10 * number.significand + (digit.toNat - '0'.toNat)
  if number.isFull || UInt64.size ≤ significand then
    { number with power := number.power + dropped, isFull := true }
  else { number with significand, power := number.power + kept }

def Numeral.scaled (numeral : Numeral) : Scaled :=
  let whole := numeral.whole.foldl (Scaled.append 0 1) {}
  let number := numeral.fraction.foldl (Scaled.append (-1) 0) { whole with isFull := false }
  { number with power := number.power + numeral.exponent.getD 0 }

/-- The nearest number of at most 53 significant bits; of two equally near ones, the one
whose last bit is zero. -/
def nearestDouble (n : Nat) : Nat :=
  let unit := Nat.pow 2 (Nat.log2 n + 1 - 53)
  let below := n / unit
  let rest := 2 * (n % unit)
  if unit < rest || (rest == unit && below % 2 == 1) then (below + 1) * unit else below * unit

/-- The least number that is rounded to no finite double. -/
def doubleLimit : Nat :=
  Nat.pow 2 1024 - Nat.pow 2 970

/-- Whether a number is too large.  It is the product of two doubles, which are those
nearest to its significand and to its power of ten. -/
def Numeral.isTooLarge (numeral : Numeral) : Bool :=
  let number := numeral.scaled
  if number.significand == 0 || number.power < 0 then false
  else if 308 < number.power then true
  else
    doubleLimit ≤
      nearestDouble number.significand * nearestDouble (Nat.pow 10 number.power.toNat)

def Numeral.unsigned (numeral : Numeral) : Except Fault UInt64 :=
  let value := digitsValue numeral.whole
  if numeral.isTooLarge then .error .malformed
  else if numeral.isNegative || !numeral.fraction.isEmpty || numeral.exponent.isSome
      || UInt64.size ≤ value then .error .mismatch
  else .ok (UInt64.ofNat value)

def startsNumeral (c : Char) : Bool :=
  c == '-' || c.isDigit

/-- The fault of a value that is not of the shape wanted.  Scalars are read first, since
they may be malformed. -/
def misfit (text : List Char) : Fault :=
  let faultOf {Value : Type} : Except Fault Value → Fault
    | .error fault => fault
    | .ok _ => .mismatch
  match text with
  | 'n' :: rest => faultOf (skipWord "ull".toList rest)
  | 't' :: rest => faultOf (skipWord "rue".toList rest)
  | 'f' :: rest => faultOf (skipWord "alse".toList rest)
  | '"' :: rest => faultOf (stringFrom [] rest)
  | '[' :: _ | '\x7b' :: _ => .mismatch
  | c :: _ =>
      if startsNumeral c then
        faultOf (do
          let (numeral, _) ← numeral .cutShort text
          if numeral.isTooLarge then throw Fault.malformed)
      else .malformed
  | [] => .cutShort

def readString (text : List Char) : Except Fault (String × List Char) :=
  match skipSpace text with
  | '"' :: rest => do
      let (value, rest) ← stringFrom [] rest
      return (String.ofList value, rest)
  | text => .error (misfit text)

def readOptionalString (text : List Char) : Except Fault (Option String × List Char) :=
  match skipSpace text with
  | 'n' :: rest => do return (none, ← skipWord "ull".toList rest)
  | text => do
      let (value, rest) ← readString text
      return (some value, rest)

def readUnsigned (text : List Char) : Except Fault (UInt64 × List Char) := do
  let text := skipSpace text
  match text with
  | c :: _ =>
      if startsNumeral c then do
        let (numeral, rest) ← numeral .cutShort text
        return (← numeral.unsigned, rest)
      else throw (misfit text)
  | [] => throw .cutShort

mutual

def skipValue : Nat → List Char → Except Fault (List Char)
  | 0, _ => .error .cutShort
  | fuel + 1, text =>
      let text := skipSpace text
      match text with
      | [] => .error .cutShort
      | 'n' :: rest => skipWord "ull".toList rest
      | 't' :: rest => skipWord "rue".toList rest
      | 'f' :: rest => skipWord "alse".toList rest
      | '"' :: rest => skipString rest
      | '[' :: rest =>
          match skipSpace rest with
          | ']' :: rest => .ok rest
          | [] => .error .cutShort
          | rest => skipElements fuel rest
      | '\x7b' :: rest =>
          match skipSpace rest with
          | '\x7d' :: rest => .ok rest
          | rest => skipMembers fuel rest
      | c :: _ =>
          if startsNumeral c then do
            let (_, rest) ← numeral .malformed text
            return rest
          else .error .malformed

def skipElements : Nat → List Char → Except Fault (List Char)
  | 0, _ => .error .cutShort
  | fuel + 1, text => do
      let rest ← skipValue fuel text
      match skipSpace rest with
      | [] => throw .cutShort
      | ']' :: rest => return rest
      | ',' :: rest => skipElements fuel rest
      | _ => throw .malformed

def skipMembers : Nat → List Char → Except Fault (List Char)
  | 0, _ => .error .cutShort
  | fuel + 1, text => do
      match skipSpace text with
      | [] => throw .cutShort
      | '"' :: rest =>
          let rest ← skipString rest
          match skipSpace rest with
          | [] => throw .cutShort
          | ':' :: rest =>
              let rest ← skipValue fuel rest
              match skipSpace rest with
              | [] => throw .cutShort
              | '\x7d' :: rest => return rest
              | ',' :: rest => skipMembers fuel rest
              | _ => throw .malformed
          | _ => throw .malformed
      | _ => throw .malformed

end

/-- Skip a value of any shape.  Every character takes at most two steps. -/
def skipAny (text : List Char) : Except Fault (List Char) :=
  skipValue (2 * text.length + 2) text

structure Member (Record : Type) where
  name : String
  read : Record → List Char → Except Fault (Record × List Char)

variable {Record : Type}

def readElements (record : Record) (isFirst : Bool) :
    List (Member Record) → List Char → Except Fault (Record × List Char)
  | [], text =>
      match skipSpace text with
      | [] => .error .cutShort
      | ']' :: rest => .ok (record, rest)
      | _ => .error .malformed
  | member :: members, text => do
      match skipSpace text with
      | [] => throw .cutShort
      | ']' :: rest => return (record, rest)
      | c :: rest =>
          let text ← if isFirst then pure (c :: rest)
            else if c == ',' then
              match skipSpace rest with
              | [] => throw .cutShort
              | ']' :: _ => throw .malformed
              | rest => pure rest
            else throw .malformed
          let (record, rest) ← member.read record text
          readElements record false members rest

def nextMember (isFirst : Bool) (text : List Char) : Except Fault (Option (List Char)) := do
  match skipSpace text with
  | [] => throw .cutShort
  | '\x7d' :: _ => return none
  | c :: rest =>
      let text ← if isFirst then pure (c :: rest)
        else if c == ',' then pure (skipSpace rest)
        else throw .malformed
      match text with
      | [] => throw .cutShort
      | '"' :: rest => return some rest
      | _ => throw .malformed

def skipColon (text : List Char) : Except Fault (List Char) :=
  match skipSpace text with
  | [] => .error .cutShort
  | ':' :: rest => .ok rest
  | _ => .error .malformed

/-- Read the members of an object; `seen` names those that had a value. -/
def readMembers (members : List (Member Record)) :
    Nat → Bool → List String → Record → List Char → Except Fault (Record × List Char)
  | 0, _, _, _, _ => .error .cutShort
  | fuel + 1, isFirst, seen, record, text => do
      match ← nextMember isFirst text with
      | none => return (record, (skipSpace text).drop 1)
      | some rest =>
          let (name, rest) ← stringFrom [] rest
          let name := String.ofList name
          match members.find? (·.name == name) with
          | some member =>
              if seen.contains name then throw .mismatch
              let (record, rest) ← member.read record (← skipColon rest)
              readMembers members fuel false (name :: seen) record rest
          | none =>
              let rest ← skipAny (← skipColon rest)
              readMembers members fuel false seen record rest

def readRecord (members : List (Member Record)) (default : Record) (text : List Char) :
    Except Fault (Record × List Char) :=
  match skipSpace text with
  | '[' :: rest => readElements default true members rest
  | '\x7b' :: rest => readMembers members (rest.length + 1) true [] default rest
  | text => .error (misfit text)

def read (members : List (Member Record)) (default : Record) (text : List Char) :
    Except Fault Record := do
  let (record, rest) ← readRecord members default text
  if (skipSpace rest).isEmpty then return record
  throw .malformed

end DeviceBrowser.Settings.Document
