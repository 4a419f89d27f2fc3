import DeviceBrowser.Shell.Quoting

/-!
The commands that are sent to a device's shell.

A listing is one command: it moves into the directory if it can, prints where it is, lists
what is there, prints a separator, and then says of every symbolic link whether it leads
to a directory, to a file, or nowhere.
-/

namespace DeviceBrowser.Shell

/-- The line between the rows of a listing and its symbolic link records. -/
def separator : String := "<<<SEP>>>"

/-- What stands between a name and its class letter in a symbolic link record. -/
def arrow : String := "->"

def classifyLinks : String :=
  "for f in * .[!.]* ..?*; do [ -L \"$f\" ] && ([ -d \"$f\" ] && echo \"$f" ++ arrow ++
  "D\" || ([ -f \"$f\" ] && echo \"$f" ++ arrow ++ "F\" || echo \"$f" ++ arrow ++ "B\")); done"

inductive Command where
  | workingDirectory
  /-- Move into a directory and print where that is; print nothing if it fails. -/
  | enter (path : String)
  /-- Move into a directory if possible and list the one reached. -/
  | list (path : String)
  | removeFile (path : String)
  | removeTree (path : String)
  | makeDirectory (path : String)
  deriving DecidableEq, Repr

def Command.text : Command → String
  | .workingDirectory => "pwd"
  | .enter path => "cd " ++ quoted path ++ " 2>/dev/null && pwd"
  | .list path =>
      "cd " ++ quoted path ++ " 2>/dev/null; pwd; ls -la; echo \"" ++ separator ++ "\"; "
        ++ classifyLinks
  | .removeFile path => "rm " ++ quoted path
  | .removeTree path => "rm -rf " ++ quoted path
  | .makeDirectory path => "mkdir -p " ++ quoted path

end DeviceBrowser.Shell
