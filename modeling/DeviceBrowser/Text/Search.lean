/-!
Finding one list inside another.  The functions serve bytes and characters alike.

The first occurrence is found by walking the text once from the left; the last one
is the first occurrence seen from the other end.
-/

namespace DeviceBrowser.Text

variable {Symbol : Type} [DecidableEq Symbol]

/-- Where `pattern` first begins in `text`, counting the head of `text` as `position`. -/
def firstIndexFrom? (pattern : List Symbol) (position : Nat) : List Symbol → Option Nat
  | [] => if pattern.isEmpty then some position else none
  | head :: tail =>
      if pattern.isPrefixOf (head :: tail) then some position
      else firstIndexFrom? pattern (position + 1) tail

def firstIndex? (pattern text : List Symbol) : Option Nat :=
  firstIndexFrom? pattern 0 text

def occursIn (pattern text : List Symbol) : Bool :=
  (firstIndex? pattern text).isSome

def splitFirst? (pattern text : List Symbol) : Option (List Symbol × List Symbol) :=
  (firstIndex? pattern text).map fun index =>
    (text.take index, text.drop (index + pattern.length))

def splitLast? (pattern text : List Symbol) : Option (List Symbol × List Symbol) :=
  (splitFirst? pattern.reverse text.reverse).map fun (after, before) =>
    (before.reverse, after.reverse)

end DeviceBrowser.Text
