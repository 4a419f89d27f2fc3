/-!
Double-quoted words of a POSIX shell.

Within double quotes four characters keep a meaning of their own; a backslash in front
takes it from them.  Every other character stands for itself, so a quoted word reaches
the command unchanged.
-/

namespace DeviceBrowser.Shell

def isSpecial (c : Char) : Bool :=
  c == '"' || c == '\\' || c == '$' || c == '\x60'

def escaped (c : Char) : List Char :=
  if isSpecial c then ['\\', c] else [c]

def quotedChars (word : List Char) : List Char :=
  '"' :: word.flatMap escaped ++ ['"']

def quoted (word : String) : String :=
  String.ofList (quotedChars word.toList)

end DeviceBrowser.Shell
