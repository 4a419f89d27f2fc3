import DeviceBrowser.Calendar.ListedTime
import DeviceBrowser.Listing.Entry

/-!
Rows of a long directory listing.

A row has seven columns and then a name, which may hold blanks; the name of a symbolic
link is followed by an arrow and its target.  Rows that name nothing are passed over:
totals, complaints about permissions, rows that could not be filled in, and the
directory's own names for itself and its parent.
-/

namespace DeviceBrowser.Listing

open DeviceBrowser.Text DeviceBrowser.Calendar

structure Reading where
  zone : Zone
  now : Timestamp

def typeLetters : List Char :=
  ['-', 'd', 'l', 'c', 'b', 'p', 's']

def byteLength (text : List Char) : Nat :=
  (String.ofList text).utf8ByteSize

/-- A permission column begins with a type letter and has at least ten bytes. -/
def isPermissions (column : List Char) : Bool :=
  match column with
  | [] => false
  | letter :: _ => typeLetters.contains letter && 10 ≤ byteLength column

def isRejected (line : List Char) : Bool :=
  occursIn "Permission denied".toList line || "total".toList.isPrefixOf line
    || line.contains '?'

/-- The size of an entry.  Device nodes have two numbers in its place, the first of them
with a comma, and count as empty. -/
def readSize? (text : List Char) : Option (UInt64 × List Char) := do
  let (column, rest) ← nextColumn? text
  if column.getLast? == some ',' then do
    let (_, rest) ← nextColumn? rest
    some (0, rest)
  else some (UInt64.ofNat ((readUnsigned? UInt64.size column).getD 0), rest)

/-- The date column, which is a column of numbers or a month's name and a day. -/
def readDate? (text : List Char) : Option (List Char × List Char) := do
  let (head, rest) ← nextColumn? text
  if (monthNumber? head).isSome then do
    let (day, rest) ← nextColumn? rest
    some (head ++ ' ' :: day, rest)
  else some (head, rest)

def dropSpace (text : List Char) : List Char :=
  match text with
  | ' ' :: rest => rest
  | _ => text

def linkArrow : List Char := " -> ".toList

def readName (isLink : Bool) (text : List Char) : List Char × Option (List Char) :=
  match isLink, splitFirst? linkArrow text with
  | true, some (name, target) => (name, some target)
  | _, _ => (text, none)

/-- The names of a directory for itself and its parent, and the empty name. -/
def isOwnName (name : List Char) : Bool :=
  name.isEmpty || name == ['.'] || name == ['.', '.']

/-- The kind that a permission column shows.  A link is taken to lead to a file until it is
known better. -/
def kindOf (permissions : List Char) : EntryKind :=
  match permissions with
  | 'd' :: _ => .directory
  | 'l' :: _ => .linkToFile
  | _ => .file

def readRow? (reading : Reading) (line : List Char) : Option Entry := do
  if isRejected line then none
  let (permissions, rest) ← nextColumn? line
  if !isPermissions permissions then none
  let (links, rest) ← nextColumn? rest
  let (owner, rest) ← nextColumn? rest
  let (group, rest) ← nextColumn? rest
  let (size, rest) ← readSize? rest
  let (date, rest) ← readDate? rest
  let (time, rest) ← nextColumn? rest
  let kind := kindOf permissions
  let (name, target) := readName kind.isLink (dropSpace rest)
  if isOwnName name then none
  some {
    name := String.ofList name
    kind
    permissions := String.ofList permissions
    size
    owner := String.ofList owner
    group := String.ofList group
    links := UInt32.ofNat ((readUnsigned? UInt32.size links).getD 1)
    modified := listedTime reading.zone reading.now date time
    target := target.map String.ofList }

end DeviceBrowser.Listing
