import DeviceBrowser.Listing.Entry
import DeviceBrowser.Text.Decimal

/-!
Listings as a table: one row for each entry, directories with a slash at the end.
-/

namespace DeviceBrowser.Listing

open Text

def alignLeft (width : Nat) (text : String) : List Char :=
  text.toList.rightpad width ' '

def alignRight (width : Nat) (text : List Char) : List Char :=
  text.leftpad width ' '

def plainRow (entry : Entry) : List Char :=
  let columns :=
    [ entry.permissions.toList,
      alignRight 3 (decimal entry.links.toNat),
      alignLeft 8 entry.owner,
      alignLeft 8 entry.group,
      alignRight 10 (decimal entry.size.toNat),
      entry.modified.minute.toList,
      entry.name.toList ]
  let target := match entry.target with
    | some target => " -> ".toList ++ target.toList
    | none => []
  List.intercalate [' '] columns ++ target

def row (entry : Entry) : List Char :=
  plainRow entry ++ if entry.kind.isDirectory then ['/'] else []

def table (listing : Listing) : String :=
  String.ofList
    (listing.path.toList ++ ":\n".toList
      ++ listing.entries.flatMap fun entry => row entry ++ ['\n'])

end DeviceBrowser.Listing
