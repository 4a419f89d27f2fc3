import DeviceBrowser.Proofs.Text.Blank
import DeviceBrowser.Text.Utf8

/-!
Lines, and the two ways in which a shell ends them.
-/

namespace DeviceBrowser.Text

inductive LineEnd where
  | feed
  | returnFeed
  deriving DecidableEq, Repr

def LineEnd.text : LineEnd → List Char
  | .feed => ['\n']
  | .returnFeed => ['\r', '\n']

def LineEnd.bytes (ending : LineEnd) : List UInt8 :=
  Utf8.encode ending.text

/-- Lines with their ends, each chosen by the number of lines that follow. -/
def printLines (endings : Nat → LineEnd) : List (List Char) → List Char
  | [] => []
  | line :: lines => line ++ ((endings lines.length).text ++ printLines endings lines)

def isLineText (text : List Char) : Bool :=
  !text.contains '\n' && text.getLast? != some '\r'

theorem isLineText_iff {text : List Char} :
    isLineText text = true ↔ '\n' ∉ text ∧ text.getLast? ≠ some '\r' := by
  simp [isLineText]

theorem trimLineEnds_of_isLineText {text : List Char} (line : isLineText text = true) :
    trimLineEnds text = text := by
  obtain ⟨feedless, returnless⟩ := isLineText_iff.mp line
  apply trimLineEnds_eq_self
  intro c last
  simp only [isLineEnd, Bool.or_eq_false_iff, beq_eq_false_iff_ne]
  constructor
  · rintro rfl
    exact feedless (List.mem_of_getLast? last)
  · rintro rfl
    exact returnless last

section Lines

variable {line : List Char}

theorem lines_append_feed (feedless : '\n' ∉ line) (rest : List Char) :
    lines (line ++ '\n' :: rest) = dropReturn line :: lines rest := by
  have pieces : (line ++ '\n' :: rest).splitOn '\n' = line :: rest.splitOn '\n' := by
    rw [List.splitOn_append_cons_self, List.splitOn_eq_singleton feedless, List.singleton_append]
  obtain ⟨first, others, found⟩ := List.exists_cons_of_ne_nil (List.splitOn_ne_nil '\n' rest)
  rw [lines, lines, pieces, found, List.dropLast_cons_cons, List.map_cons, List.getLast?_cons_cons]
  split <;> rfl

theorem lines_of_feedless (feedless : '\n' ∉ line) :
    lines line = if line.isEmpty then [] else [line] := by
  rw [lines, List.splitOn_eq_singleton feedless]
  cases line <;> rfl

theorem trimEndWhere_dropReturn (line : List Char) :
    trimEndWhere (· == '\r') (dropReturn line) = trimEndWhere (· == '\r') line := by
  unfold dropReturn
  split
  next rest ended =>
    rw [← List.reverse_reverse line, ended, List.reverse_cons]
    exact (List.rdropWhile_concat_pos _ _ _ rfl).symm
  next => rfl

/-- A line is found without its end, whichever of the two that is. -/
theorem map_lines_append (feedless : '\n' ∉ line) (ending : LineEnd) (rest : List Char) :
    (lines (line ++ (ending.text ++ rest))).map (trimEndWhere (· == '\r')) =
      trimEndWhere (· == '\r') line :: (lines rest).map (trimEndWhere (· == '\r')) := by
  cases ending with
  | feed =>
      have split : line ++ (LineEnd.feed.text ++ rest) = line ++ '\n' :: rest := rfl
      rw [split, lines_append_feed feedless, List.map_cons, trimEndWhere_dropReturn]
  | returnFeed =>
      have split : line ++ (LineEnd.returnFeed.text ++ rest) =
          (line ++ ['\r']) ++ '\n' :: rest := by
        simp [LineEnd.text]
      have returned : '\n' ∉ line ++ ['\r'] := by simp [feedless]
      rw [split, lines_append_feed returned, List.map_cons, trimEndWhere_dropReturn]
      congr 1
      exact List.rdropWhile_concat_pos _ _ _ rfl

end Lines

end DeviceBrowser.Text
