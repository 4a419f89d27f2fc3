import DeviceBrowser.Calendar.Timestamp

/-!
Directory entries, and listings of them.
-/

namespace DeviceBrowser

inductive EntryKind where
  | file
  | directory
  | linkToDirectory
  | linkToFile
  /-- A symbolic link that leads to no file or directory. -/
  | brokenLink
  deriving DecidableEq, Repr

namespace EntryKind

def isDirectory : EntryKind → Bool
  | .directory | .linkToDirectory => true
  | _ => false

def isLink : EntryKind → Bool
  | .linkToDirectory | .linkToFile | .brokenLink => true
  | _ => false

/-- A Unix mode for entries of this kind: the type bits, and permissions that depend on
the kind alone. -/
def unixMode : EntryKind → Nat
  | .directory => 0o040755
  | .file => 0o100644
  | .linkToDirectory | .linkToFile | .brokenLink => 0o120644

def name : EntryKind → String
  | .file => "file"
  | .directory => "directory"
  | .linkToDirectory => "symlink_to_directory"
  | .linkToFile => "symlink_to_file"
  | .brokenLink => "broken_symlink"

end EntryKind

structure Entry where
  name : String
  kind : EntryKind
  permissions : String
  size : UInt64
  owner : String
  group : String
  links : UInt32
  modified : Calendar.Timestamp
  /-- Where a symbolic link points, as it was printed. -/
  target : Option String
  deriving DecidableEq, Repr

structure Listing where
  path : String
  entries : List Entry
  deriving DecidableEq, Repr

def Listing.index? (listing : Listing) (name : String) : Option Nat :=
  listing.entries.findIdx? (·.name == name)

def Listing.find? (listing : Listing) (name : String) : Option Entry :=
  listing.entries.find? (·.name == name)

end DeviceBrowser
