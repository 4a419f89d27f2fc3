import DeviceBrowser.Shell.Command

/-!
What a shell makes of a quoted path.

`readWord` reads a double-quoted word as a POSIX shell does.  A quoted path is read as one
word with the path as its value, whatever characters are in the path and whatever text
comes after it; so every command that is sent for a path is the same text around one word.
-/

namespace DeviceBrowser.Shell

/-- What a shell finds where a double-quoted word should be. -/
inductive Word where
  | closed (value rest : List Char)
  | expansion
  | unclosed
  | unquoted
  deriving DecidableEq, Repr

namespace Word

def push (c : Char) : Word → Word
  | .closed value rest => .closed (c :: value) rest
  | .expansion => .expansion
  | .unclosed => .unclosed
  | .unquoted => .unquoted

end Word

/-- Read on within double quotes.  After a backslash a line feed vanishes and any of the
four characters with a meaning stands for itself; before any other character the backslash
stands for itself. -/
def readWithin (afterBackslash : Bool) : List Char → Word
  | [] => .unclosed
  | c :: rest =>
      if afterBackslash then
        if c = '\n' then readWithin false rest
        else if c ∈ ['$', '\x60', '"', '\\'] then (readWithin false rest).push c
        else ((readWithin false rest).push c).push '\\'
      else if c = '\\' then readWithin true rest
      else if c = '"' then .closed [] rest
      else if c = '$' ∨ c = '\x60' then .expansion
      else (readWithin false rest).push c

def readWord : List Char → Word
  | [] => .unquoted
  | c :: rest => if c = '"' then readWithin false rest else .unquoted

theorem isSpecial_iff (c : Char) : isSpecial c = true ↔ c ∈ ['$', '\x60', '"', '\\'] := by
  simp only [isSpecial, Bool.or_eq_true, beq_iff_eq, List.mem_cons, List.not_mem_nil, or_false]
  grind

theorem readWithin_escaped (c : Char) (rest : List Char) :
    readWithin false (escaped c ++ rest) = (readWithin false rest).push c := by
  unfold escaped
  split
  next special =>
    have escapable := (isSpecial_iff c).mp special
    have printed : c ≠ '\n' := by
      rintro rfl
      exact absurd special (by decide)
    simp only [List.cons_append, List.nil_append, readWithin, if_pos escapable, if_neg printed,
      if_true, Bool.false_eq_true, if_false]
  next plain =>
    have literal : c ∉ ['$', '\x60', '"', '\\'] := by
      intro special
      exact plain ((isSpecial_iff c).mpr special)
    simp only [List.mem_cons, List.not_mem_nil, or_false, not_or] at literal
    obtain ⟨noDollar, noBackquote, noQuote, noBackslash⟩ := literal
    simp [readWithin, noDollar, noBackquote, noQuote, noBackslash]

theorem readWithin_flatMap (word rest : List Char) :
    readWithin false (word.flatMap escaped ++ '"' :: rest) = .closed word rest := by
  induction word with
  | nil => simp [readWithin]
  | cons c word inductionHypothesis =>
      rw [List.flatMap_cons, List.append_assoc, readWithin_escaped, inductionHypothesis]
      rfl

theorem readWord_quotedChars (word rest : List Char) :
    readWord (quotedChars word ++ rest) = .closed word rest := by
  have shape : quotedChars word ++ rest = '"' :: (word.flatMap escaped ++ '"' :: rest) := by
    simp [quotedChars]
  rw [shape, readWord, if_pos rfl, readWithin_flatMap]

theorem readWord_quoted (path : String) (rest : List Char) :
    readWord ((quoted path).toList ++ rest) = .closed path.toList rest := by
  rw [quoted, String.toList_ofList, readWord_quotedChars]

theorem quoted_injective : Function.Injective quoted := by
  intro path other same
  have read := readWord_quoted path []
  rw [same, readWord_quoted, Word.closed.injEq] at read
  exact String.toList_injective read.1.symm

/-- The path of a command stands in a fixed text, as a word of its own: before it there is a
program with its options and a space, and after it nothing or a space and more. -/
def EmbedsPath (command : String → Command) : Prop :=
  ∃ before after : List Char,
    (∀ c ∈ before, c.isAlpha ∨ c = '-' ∨ c = ' ') ∧ before.getLast? = some ' ' ∧
      (after = [] ∨ after.head? = some ' ') ∧
      ∀ path : String, ∃ word : List Char,
        (command path).text.toList = before ++ word ++ after ∧
          readWord (word ++ after) = .closed path.toList after

theorem embedsPath_of_text {command : String → Command} (before after : String)
    (plain : (before.toList.all fun c => c.isAlpha || c == '-' || c == ' ') = true)
    (apart : before.toList.getLast? = some ' ')
    (ends : after.toList = [] ∨ after.toList.head? = some ' ')
    (text : ∀ path, (command path).text = before ++ quoted path ++ after) :
    EmbedsPath command := by
  refine ⟨before.toList, after.toList, ?_, apart, ends, ?_⟩
  · intro c member
    have checked := List.all_eq_true.mp plain c member
    simpa [or_assoc] using checked
  · intro path
    refine ⟨(quoted path).toList, ?_, readWord_quoted path after.toList⟩
    rw [text, String.toList_append, String.toList_append]

/-- A quoted path is read as one word, without an expansion and up to its closing quote, and
the value of the word is the path. -/
theorem quoted_path_is_one_word :
    (∀ (path : String) (rest : List Char),
      readWord ((quoted path).toList ++ rest) = .closed path.toList rest) ∧
    Function.Injective quoted ∧
    EmbedsPath .list ∧ EmbedsPath .enter ∧
    EmbedsPath .removeFile ∧ EmbedsPath .removeTree ∧ EmbedsPath .makeDirectory := by
  refine ⟨readWord_quoted, quoted_injective, ?_, ?_, ?_, ?_, ?_⟩
  · have opens : " 2>/dev/null; pwd; ls -la; echo \"".toList.head? = some ' ' := by decide
    apply embedsPath_of_text "cd "
      (" 2>/dev/null; pwd; ls -la; echo \"" ++ (separator ++ ("\"; " ++ classifyLinks)))
    · decide
    · decide
    · right
      simp only [String.toList_append, List.head?_append, opens, Option.some_or]
    · intro path
      simp only [Command.text, String.append_assoc]
  · exact embedsPath_of_text "cd " " 2>/dev/null && pwd" (by decide) (by decide) (by decide)
      fun _ => rfl
  · exact embedsPath_of_text "rm " "" (by decide) (by decide) (by decide)
      fun _ => String.append_empty.symm
  · exact embedsPath_of_text "rm -rf " "" (by decide) (by decide) (by decide)
      fun _ => String.append_empty.symm
  · exact embedsPath_of_text "mkdir -p " "" (by decide) (by decide) (by decide)
      fun _ => String.append_empty.symm

end DeviceBrowser.Shell
