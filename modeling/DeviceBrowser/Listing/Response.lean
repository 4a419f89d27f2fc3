import DeviceBrowser.Failure.Basic
import DeviceBrowser.Listing.LinkRecord
import DeviceBrowser.Listing.Row

/-!
The answer to a listing command: a directory's path, its rows, a separator, and the
records of its symbolic links.
-/

namespace DeviceBrowser.Listing

open DeviceBrowser.Text

def isSeparator (line : List Char) : Bool :=
  trim line == Shell.separator.toList

/-- The lines of an answer that are not blank, without their line ends. -/
def inkedLines (text : List Char) : List (List Char) :=
  ((text.splitOn '\n').map trimLineEnds).filter (!isAllBlank ·)

/-- Read an answer.  Without a separator it is no answer to a listing command at all. -/
def read (reading : Reading) (response : String) : Except Failure Listing :=
  let text := inkedLines response.toList
  let before := text.takeWhile (!isSeparator ·)
  match text.dropWhile (!isSeparator ·) with
  | [] =>
      .error (.malformedListing
        ("separator missing from " ++ toString response.utf8ByteSize ++ " bytes of output"))
  | _ :: records =>
      .ok {
        path := String.ofList (before.headD [])
        entries := applyRecords (before.tail.filterMap (readRow? reading)) records }

end DeviceBrowser.Listing
