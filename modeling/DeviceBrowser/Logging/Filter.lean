import DeviceBrowser.Text.Blank
import DeviceBrowser.Text.Decimal
import DeviceBrowser.Text.Letter
import DeviceBrowser.Text.Search

/-!
Filters of log messages: which level of detail each part of a program is logged at.

A filter is a list of directives with commas between them.  A directive names a level, or a
target and its level; a target covers all whose names begin with it, and the directive
with the longest target that covers a message decides.  A message that no directive
covers is not logged.
-/

namespace DeviceBrowser.Logging

open Text

inductive Level where
  | off
  | error
  | warn
  | info
  | debug
  | trace
  deriving DecidableEq, Repr

namespace Level

def name : Level → String
  | .off => "off"
  | .error => "error"
  | .warn => "warn"
  | .info => "info"
  | .debug => "debug"
  | .trace => "trace"

def all : List Level := [.off, .error, .warn, .info, .debug, .trace]

def read? (text : List Char) : Option Level :=
  match readUnsigned? UInt64.size text with
  | some number => all[number]?
  | none => all.find? fun level => level.name.toList == text.map Char.toLower

/-- Read the level of a target.  A level left out is the highest. -/
def readAfterTarget? (text : List Char) : Option Level :=
  if text.isEmpty then some .trace else read? text

end Level

/-- A level for the targets that begin with `target`. -/
structure Directive where
  target : List Char
  level : Level
  /-- It is about messages inside certain spans, and does not decide about others. -/
  inSpan : Bool := false
  deriving DecidableEq, Repr

namespace Directive

def startsTarget (c : Char) : Bool :=
  c == '-' || c == ':' || c == '_' || isLetterOrNumber c

/-- What follows the bracket that closes a span.  A span may name values, in braces. -/
def afterSpan? (text : List Char) : Option (List Char) :=
  match text.dropWhile fun c => c != ']' && c != '\x7b' with
  | ']' :: rest => some rest
  | '\x7b' :: rest =>
      match rest.span (· != '\x7d') with
      | ([], _) => none
      | (_, '\x7d' :: ']' :: rest) => some rest
      | _ => none
  | _ => none

/-- Read a directive.  A word that is no level is a target at full detail.

Blanks around a directive belong to its words: none of them is a level then, and with
blanks in front no level can follow. -/
def read? (text : List Char) : Option Directive :=
  let levelFrom? (rest : List Char) : Option Level :=
    if text.head?.any isBlank then none else Level.readAfterTarget? rest
  let inSpan? (target rest : List Char) : Option Directive :=
    match afterSpan? rest with
    | some ('=' :: level) => (levelFrom? level).map (⟨target, ·, true⟩)
    | some rest => if rest.all isBlank then some ⟨target, .trace, true⟩ else none
    | none => none
  match text.dropWhile isBlank with
  | [] => none
  | '[' :: rest => inSpan? [] rest
  | first :: _ =>
      if !startsTarget first then none
      else
        match text.span fun c => c != '=' && c != '[' with
        | (target, '=' :: level) => (levelFrom? level).map (⟨target, ·, false⟩)
        | (target, '[' :: rest) => inSpan? target rest
        | _ =>
            match Level.read? text with
            | some level => some ⟨[], level, false⟩
            | none => some ⟨text, .trace, false⟩

end Directive

abbrev Filter := List Directive

namespace Filter

/-- Read a filter.  One without any directive lets nothing through. -/
def read? (text : String) : Option Filter :=
  ((text.toList.splitOn ',').filter (!·.isEmpty)).mapM Directive.read?

def ownTarget : String := "adb_shellfs"

def default : Filter := [⟨ownTarget.toList, .info, false⟩]

/-- Of two directives, the one that decides: the longer target, or the later of equals. -/
def stronger (first second : Directive) : Directive :=
  if second.target.length < first.target.length then first else second

def levelOf (filter : Filter) (target : String) : Level :=
  match filter.filter (fun directive =>
      !directive.inSpan && directive.target.isPrefixOf target.toList) with
  | [] => .off
  | first :: rest => (rest.foldl stronger first).level

/-- The filter for a given level.  A bare level is one for the program itself. -/
def ofLevel (level : String) : Filter :=
  let isBare := ["error", "warn", "info", "debug", "trace"].contains level
  (read? (if isBare then ownTarget ++ "=" ++ level else level)).getD default

def ofVariable (value : Option String) : Filter :=
  (value.bind read?).getD default

def install (inForce : Option Filter) (filter : Filter) : Bool × Option Filter :=
  match inForce with
  | none => (true, some filter)
  | some first => (false, some first)

end Filter

end DeviceBrowser.Logging
