import DeviceBrowser.Listing.Entry
import DeviceBrowser.Shell.Command
import DeviceBrowser.Text.Blank
import DeviceBrowser.Text.Search

/-!
Records that say where symbolic links lead.

A record is a name, an arrow and a class letter.  It speaks of the last entry with its
name, and only if that is a symbolic link.
-/

namespace DeviceBrowser.Listing

open DeviceBrowser.Text

structure LinkRecord where
  name : List Char
  letter : Char
  deriving DecidableEq, Repr

namespace LinkRecord

/-- Read a record.  A name may itself hold the arrow, so the last one counts. -/
def read? (line : List Char) : Option LinkRecord :=
  match splitLast? Shell.arrow.toList line with
  | none => none
  | some (name, letterText) =>
      match trimEnd letterText with
      | [letter] => if name.isEmpty then none else some ⟨name, letter⟩
      | _ => none

def kind? (letter : Char) : Option EntryKind :=
  match letter with
  | 'D' => some .linkToDirectory
  | 'F' => some .linkToFile
  | 'B' => some .brokenLink
  | _ => none

def refine (letter : Char) (entry : Entry) : Entry :=
  if entry.kind.isLink then { entry with kind := (kind? letter).getD entry.kind } else entry

end LinkRecord

def modifyLast? {Element : Type} (test : Element → Bool) (change : Element → Element) :
    List Element → Option (List Element)
  | [] => none
  | head :: tail =>
      match modifyLast? test change tail with
      | some changed => some (head :: changed)
      | none => if test head then some (change head :: tail) else none

def applyRecord (entries : List Entry) (record : LinkRecord) : List Entry :=
  let name := String.ofList record.name
  (modifyLast? (·.name == name) (LinkRecord.refine record.letter) entries).getD entries

def applyRecords (entries : List Entry) (lines : List (List Char)) : List Entry :=
  (lines.filterMap LinkRecord.read?).foldl applyRecord entries

end DeviceBrowser.Listing
