/-!
White space, and the ways a text is cut along it: trimming, columns, words and lines.

A character is blank when Unicode gives it the property White_Space.
-/

namespace DeviceBrowser.Text

/-- The Unicode property White_Space. -/
def isBlank (c : Char) : Bool :=
  let code := c.toNat
  (0x09 ≤ code && code ≤ 0x0D) || code == 0x20 || code == 0x85 || code == 0xA0
    || code == 0x1680 || (0x2000 ≤ code && code ≤ 0x200A) || code == 0x2028
    || code == 0x2029 || code == 0x202F || code == 0x205F || code == 0x3000

def trimEndWhere (drop : Char → Bool) (text : List Char) : List Char :=
  (text.reverse.dropWhile drop).reverse

def trimStart (text : List Char) : List Char :=
  text.dropWhile isBlank

def trimEnd (text : List Char) : List Char :=
  trimEndWhere isBlank text

def trim (text : List Char) : List Char :=
  trimEnd (trimStart text)

def isAllBlank (text : List Char) : Bool :=
  text.all isBlank

/-- Split off the next column; what remains still begins with the blanks after it. -/
def nextColumn? (text : List Char) : Option (List Char × List Char) :=
  match trimStart text with
  | [] => none
  | head :: tail =>
      some (head :: tail.takeWhile (!isBlank ·), tail.dropWhile (!isBlank ·))

def consWord (word : List Char) (others : List (List Char)) : List (List Char) :=
  if word.isEmpty then others else word :: others

def words (text : List Char) : List (List Char) :=
  let (current, done) := text.foldr
    (fun c (current, done) =>
      if isBlank c then ([], consWord current done) else (c :: current, done))
    ([], [])
  consWord current done

def isLineEnd (c : Char) : Bool :=
  c == '\n' || c == '\r'

def trimLineEnds (text : List Char) : List Char :=
  trimEndWhere isLineEnd text

def dropReturn (line : List Char) : List Char :=
  match line.reverse with
  | '\r' :: rest => rest.reverse
  | _ => line

/-- The lines of a text: each ends with a line feed, or with a carriage return and a
line feed, and the last one may lack its end. -/
def lines (text : List Char) : List (List Char) :=
  let pieces := text.splitOn '\n'
  let ended := pieces.dropLast.map dropReturn
  match pieces.getLast? with
  | none | some [] => ended
  | some final => ended ++ [final]

end DeviceBrowser.Text
