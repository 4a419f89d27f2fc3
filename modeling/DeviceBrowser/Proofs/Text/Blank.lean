import DeviceBrowser.Text.Blank
import Mathlib.Data.List.DropRight

/-!
Trimming and columns.

Trimming takes characters off the end one at a time, so whatever one line end at the end
of a text does not change, trimming does not change either.
-/

namespace DeviceBrowser.Text

variable {text column rest : List Char} {c : Char}

theorem isBlank_of_isLineEnd (lineEnd : isLineEnd c = true) : isBlank c = true := by
  simp only [isLineEnd, Bool.or_eq_true, beq_iff_eq] at lineEnd
  rcases lineEnd with rfl | rfl <;> rfl

theorem isBlank_of_isAlpha (letter : c.isAlpha = true) : isBlank c = false := by
  have bounds : 65 ≤ c.toNat ∧ c.toNat ≤ 122 := by
    rcases (Bool.or_eq_true c.isUpper c.isLower).mp letter with upper | lower
    · obtain ⟨low, high⟩ := of_decide_eq_true upper
      exact ⟨low, Nat.le_trans high (by decide)⟩
    · obtain ⟨low, high⟩ := (Bool.and_eq_true _ _).mp lower
      exact ⟨Nat.le_trans (by decide) (of_decide_eq_true low), of_decide_eq_true high⟩
  simp [isBlank]
  omega

theorem trimEndWhere_concat {drop : Char → Bool} (text : List Char) (dropped : drop c = true) :
    trimEndWhere drop (text ++ [c]) = trimEndWhere drop text :=
  List.rdropWhile_concat_pos drop text c dropped

theorem trimEndWhere_eq_self {drop : Char → Bool}
    (settled : ∀ c ∈ text.getLast?, drop c = false) : trimEndWhere drop text = text := by
  apply List.rdropWhile_eq_self_iff.mpr
  intro nonempty
  simp [settled _ (List.getLast?_eq_some_getLast nonempty)]

theorem trimLineEnds_concat (text : List Char) (lineEnd : isLineEnd c = true) :
    trimLineEnds (text ++ [c]) = trimLineEnds text :=
  trimEndWhere_concat text lineEnd

theorem trimLineEnds_eq_self (settled : ∀ c ∈ text.getLast?, isLineEnd c = false) :
    trimLineEnds text = text :=
  trimEndWhere_eq_self settled

theorem trimLineEnds_induction {motive : List Char → Prop}
    (shorter : ∀ text c, isLineEnd c = true → motive (text ++ [c]) → motive text)
    (text : List Char) (whole : motive text) : motive (trimLineEnds text) := by
  induction text using List.reverseRecOn with
  | nil => exact whole
  | append_singleton text c inductionHypothesis =>
      cases lineEnd : isLineEnd c with
      | true =>
          rw [trimLineEnds_concat text lineEnd]
          exact inductionHypothesis (shorter text c lineEnd whole)
      | false =>
          rw [trimLineEnds_eq_self (by simp [lineEnd])]
          exact whole

/-- What does not see a line end at the end of a text does not see its trimming. -/
theorem apply_trimLineEnds {Result : Type} {f : List Char → Result}
    (unseen : ∀ text c, isLineEnd c = true → f (text ++ [c]) = f text) (text : List Char) :
    f (trimLineEnds text) = f text :=
  trimLineEnds_induction
    (fun shorter c lineEnd whole => (unseen shorter c lineEnd).symm.trans whole) text rfl

theorem prefix_trimEndWhere {drop : Char → Bool} {start : List Char}
    (kept : ∀ c ∈ start.getLast?, drop c = false) (begins : start <+: text) :
    start <+: trimEndWhere drop text := by
  obtain ⟨rest, rfl⟩ := begins
  induction rest using List.reverseRecOn with
  | nil =>
      have same : trimEndWhere drop (start ++ []) = start := by
        rw [List.append_nil, trimEndWhere_eq_self kept]
      exact ⟨[], by rw [same, List.append_nil]⟩
  | append_singleton rest c inductionHypothesis =>
      rw [← List.append_assoc]
      cases dropped : drop c with
      | true => rwa [trimEndWhere_concat _ dropped]
      | false =>
          rw [trimEndWhere_eq_self (by simp [dropped]), List.append_assoc]
          exact List.prefix_append _ _

theorem trimLineEnds_append {ending : List Char} (lineEnds : ∀ c ∈ ending, isLineEnd c = true) :
    trimLineEnds (text ++ ending) = trimLineEnds text := by
  induction ending using List.reverseRecOn with
  | nil => rw [List.append_nil]
  | append_singleton ending c inductionHypothesis =>
      rw [List.forall_mem_append] at lineEnds
      rw [← List.append_assoc, trimLineEnds_concat _ (lineEnds.2 c List.mem_cons_self),
        inductionHypothesis lineEnds.1]

theorem trimStart_append (blanks : isAllBlank text = true) (rest : List Char) :
    trimStart (text ++ rest) = trimStart rest := by
  simp only [isAllBlank, List.all_eq_true] at blanks
  exact List.dropWhile_append_of_pos blanks

theorem trimStart_concat (inked : trimStart text ≠ []) (c : Char) :
    trimStart (text ++ [c]) = trimStart text ++ [c] := by
  have inked : text.dropWhile isBlank ≠ [] := inked
  simp [trimStart, List.dropWhile_append, inked]

theorem trimEnd_concat (text : List Char) (blank : isBlank c = true) :
    trimEnd (text ++ [c]) = trimEnd text :=
  trimEndWhere_concat text blank

theorem trim_concat (text : List Char) (blank : isBlank c = true) :
    trim (text ++ [c]) = trim text := by
  unfold trim
  cases blanks : isAllBlank text with
  | true =>
      rw [trimStart_append blanks, ← List.append_nil text, trimStart_append blanks]
      simp [trimStart, blank]
  | false =>
      have inked : trimStart text ≠ [] := by
        intro gone
        rw [trimStart, List.dropWhile_eq_nil_iff] at gone
        rw [isAllBlank, List.all_eq_true.mpr gone] at blanks
        contradiction
      rw [trimStart_concat inked, trimEnd_concat _ blank]

theorem isAllBlank_concat (text : List Char) (blank : isBlank c = true) :
    isAllBlank (text ++ [c]) = isAllBlank text := by
  simp [isAllBlank, blank]

theorem trim_trimLineEnds (text : List Char) : trim (trimLineEnds text) = trim text :=
  apply_trimLineEnds (fun text _ lineEnd => trim_concat text (isBlank_of_isLineEnd lineEnd)) text

theorem isAllBlank_trimLineEnds (text : List Char) :
    isAllBlank (trimLineEnds text) = isAllBlank text :=
  apply_trimLineEnds
    (fun text _ lineEnd => isAllBlank_concat text (isBlank_of_isLineEnd lineEnd)) text

/-- A column: one character or more, none of them blank. -/
def isColumn (text : List Char) : Bool :=
  !text.isEmpty && text.all (!isBlank ·)

theorem isColumn_append_cons {first second : List Char} (firstColumn : isColumn first = true)
    (inked : isBlank c = false) (secondColumn : isColumn second = true) :
    isColumn (first ++ c :: second) = true := by
  simp only [isColumn, Bool.and_eq_true, List.all_append, List.all_cons] at *
  exact ⟨by simp, firstColumn.2, by simp [inked], secondColumn.2⟩

theorem inked_of_isColumn (shape : isColumn text = true) : ∀ c ∈ text, isBlank c = false := by
  simp only [isColumn, Bool.and_eq_true, List.all_eq_true, Bool.not_eq_true'] at shape
  exact shape.2

theorem takeWhile_inked_append (inked : ∀ c ∈ text, isBlank c = false)
    (ended : ∀ c ∈ rest.head?, isBlank c = true) :
    (text ++ rest).takeWhile (!isBlank ·) = text := by
  rw [List.takeWhile_append_of_pos (by simpa using inked)]
  cases rest with
  | nil => simp
  | cons c rest => simp [ended c rfl]

theorem dropWhile_inked_append (inked : ∀ c ∈ text, isBlank c = false)
    (ended : ∀ c ∈ rest.head?, isBlank c = true) :
    (text ++ rest).dropWhile (!isBlank ·) = rest := by
  rw [List.dropWhile_append_of_pos (by simpa using inked)]
  cases rest with
  | nil => rfl
  | cons c rest => simp [ended c rfl]

theorem nextColumn?_append {blanks : List Char} (skipped : isAllBlank blanks = true)
    (isColumn : isColumn column = true) (ended : ∀ c ∈ rest.head?, isBlank c = true) :
    nextColumn? (blanks ++ (column ++ rest)) = some (column, rest) := by
  have inked := inked_of_isColumn isColumn
  cases column with
  | nil => simp [Text.isColumn] at isColumn
  | cons head tail =>
      rw [List.forall_mem_cons] at inked
      have started : trimStart (head :: (tail ++ rest)) = head :: (tail ++ rest) := by
        simp [trimStart, inked.1]
      rw [nextColumn?, trimStart_append skipped, List.cons_append, started]
      simp only [takeWhile_inked_append inked.2 ended, dropWhile_inked_append inked.2 ended]

theorem nextColumn?_concat (blank : isBlank c = true)
    (found : nextColumn? text = some (column, rest)) :
    nextColumn? (text ++ [c]) = some (column, rest ++ [c]) := by
  unfold nextColumn? at found ⊢
  cases trimmed : trimStart text with
  | nil => simp [trimmed] at found
  | cons head tail =>
      rw [trimStart_concat (by simp [trimmed]), trimmed]
      simp only [trimmed, Option.some.injEq, Prod.mk.injEq] at found
      obtain ⟨rfl, rfl⟩ := found
      have stops : [c].takeWhile (!isBlank ·) = [] := by simp [blank]
      have remains : [c].dropWhile (!isBlank ·) = [c] := by simp [blank]
      simp only [List.cons_append, Option.some.injEq, Prod.mk.injEq, List.cons.injEq, true_and]
      rw [List.takeWhile_append, List.dropWhile_append]
      constructor
      · split
        next inked => rw [stops, List.append_nil, (List.takeWhile_prefix _).eq_of_length inked]
        next => rfl
      · split
        next gone => rw [remains, List.isEmpty_iff.mp gone, List.nil_append]
        next => rfl

/-- A column that is found stands behind blanks, and there is none after it or a blank. -/
theorem exists_of_nextColumn? (found : nextColumn? text = some (column, rest)) :
    ∃ blanks, isAllBlank blanks = true ∧ isColumn column = true ∧
      (∀ c ∈ rest.head?, isBlank c = true) ∧ text = blanks ++ (column ++ rest) := by
  have whole : text.takeWhile isBlank ++ trimStart text = text := List.takeWhile_append_dropWhile
  unfold nextColumn? at found
  cases trimmed : trimStart text with
  | nil => simp [trimmed] at found
  | cons head tail =>
      simp only [trimmed, Option.some.injEq, Prod.mk.injEq] at found
      obtain ⟨rfl, rfl⟩ := found
      refine ⟨text.takeWhile isBlank, List.all_takeWhile, ?_, ?_, ?_⟩
      · have inked : isBlank head = false := by
          have first := List.head?_dropWhile_not isBlank text
          have shape : text.dropWhile isBlank = head :: tail := trimmed
          rw [shape] at first
          simpa using first
        simp [isColumn, inked]
      · intro c first
        have stops := List.head?_dropWhile_not (!isBlank ·) tail
        rw [Option.mem_def.mp first] at stops
        simpa using stops
      · rw [List.cons_append, List.takeWhile_append_dropWhile, ← trimmed, whole]

theorem nextColumn?_suffix (found : nextColumn? text = some (column, rest)) : rest <:+ text := by
  obtain ⟨blanks, -, -, -, rfl⟩ := exists_of_nextColumn? found
  rw [← List.append_assoc]
  exact List.suffix_append _ _

theorem isColumn_of_nextColumn? (found : nextColumn? text = some (column, rest)) :
    isColumn column = true := by
  obtain ⟨blanks, -, shape, -, -⟩ := exists_of_nextColumn? found
  exact shape

theorem trim_eq_self (first : ∀ c ∈ text.head?, isBlank c = false)
    (last : ∀ c ∈ text.getLast?, isBlank c = false) : trim text = text := by
  have started : trimStart text = text := by
    cases text with
    | nil => rfl
    | cons head tail => simp [trimStart, first head rfl]
  rw [trim, started]
  exact trimEndWhere_eq_self last

theorem trim_of_isColumn (shape : isColumn text = true) : trim text = text := by
  have inked := inked_of_isColumn shape
  apply trim_eq_self
  · exact fun c first => inked c (List.mem_of_head? first)
  · exact fun c last => inked c (List.mem_of_getLast? last)

/-! Words are gathered from the end of a text. -/

theorem foldr_words (text : List Char) :
    text.foldr
        (fun c (current, done) =>
          if isBlank c then ([], consWord current done) else (c :: current, done))
        ([], []) =
      (text.takeWhile (!isBlank ·), words (text.dropWhile (!isBlank ·))) := by
  induction text with
  | nil => rfl
  | cons c text inductionHypothesis =>
      cases blank : isBlank c with
      | true => simp [words, consWord, blank]
      | false => simp [inductionHypothesis, blank]

theorem words_append_blank {blanks : List Char} (skipped : isAllBlank blanks = true)
    (text : List Char) : words (blanks ++ text) = words text := by
  induction blanks with
  | nil => rfl
  | cons c blanks inductionHypothesis =>
      simp only [isAllBlank, List.all_cons, Bool.and_eq_true] at skipped
      rw [← inductionHypothesis skipped.2]
      simp [words, skipped.1, consWord]

theorem words_append (shape : isColumn column = true)
    (ended : ∀ c ∈ rest.head?, isBlank c = true) :
    words (column ++ rest) = column :: words rest := by
  have inked := inked_of_isColumn shape
  have nonempty : column.isEmpty = false := by
    simp only [isColumn, Bool.and_eq_true, Bool.not_eq_true'] at shape
    exact shape.1
  rw [words, foldr_words, takeWhile_inked_append inked ended, dropWhile_inked_append inked ended]
  simp [consWord, nonempty]

theorem words_cons_inked (inked : isBlank c = false) (text : List Char) :
    words (c :: text) =
      (c :: text.takeWhile (!isBlank ·)) :: words (text.dropWhile (!isBlank ·)) := by
  rw [words, foldr_words]
  simp [inked, consWord]

theorem isColumn_of_mem_words {word : List Char} (found : word ∈ words text) :
    isColumn word = true := by
  -- A word that is begun is cut off first, so the induction takes what is behind it along.
  suffices gathered : (∀ word ∈ words text, isColumn word = true) ∧
      ∀ word ∈ words (text.dropWhile (!isBlank ·)), isColumn word = true from
    gathered.1 word found
  clear found
  induction text with
  | nil => simp [words, consWord]
  | cons c text inductionHypothesis =>
      obtain ⟨all, behind⟩ := inductionHypothesis
      cases blank : isBlank c with
      | true =>
          have skipped : words (c :: text) = words text :=
            @words_append_blank [c] (by simp [isAllBlank, blank]) text
          rw [List.dropWhile_cons_of_neg (by simp [blank]), skipped]
          exact ⟨all, all⟩
      | false =>
          rw [List.dropWhile_cons_of_pos (by simp [blank]), words_cons_inked blank,
            List.forall_mem_cons]
          exact ⟨⟨by simp [isColumn, blank], behind⟩, behind⟩

/-- Columns, each of them behind the blanks that are given with it. -/
def spacedText (columns : List (List Char × List Char)) : List Char :=
  columns.flatMap fun (blanks, column) => blanks ++ column

def AreSpaced (columns : List (List Char × List Char)) : Prop :=
  ∀ entry ∈ columns, entry.1 ≠ [] ∧ isAllBlank entry.1 = true ∧ isColumn entry.2 = true

section Spaced

variable {blanks : List Char} {columns : List (List Char × List Char)}

theorem isBlank_of_head? (separated : blanks ≠ []) (allBlank : isAllBlank blanks = true)
    (rest : List Char) : ∀ c ∈ (blanks ++ rest).head?, isBlank c = true := by
  intro c first
  cases blanks with
  | nil => exact absurd rfl separated
  | cons head tail =>
      rw [isAllBlank, List.all_cons, Bool.and_eq_true] at allBlank
      rw [List.cons_append, List.head?_cons, Option.mem_some_iff] at first
      exact first ▸ allBlank.1

theorem AreSpaced.isBlank_of_head? (spaced : AreSpaced columns) :
    ∀ c ∈ (spacedText columns).head?, isBlank c = true := by
  cases columns with
  | nil => simp [spacedText]
  | cons entry columns =>
      obtain ⟨separated, allBlank, -⟩ := spaced entry List.mem_cons_self
      rw [spacedText, List.flatMap_cons, List.append_assoc]
      exact Text.isBlank_of_head? separated allBlank _

theorem words_append_spacedText (shape : isColumn column = true) (spaced : AreSpaced columns) :
    words (column ++ spacedText columns) = column :: columns.map Prod.snd := by
  induction columns generalizing column with
  | nil => exact words_append shape (by simp [spacedText])
  | cons entry columns inductionHypothesis =>
      obtain ⟨-, allBlank, next⟩ := spaced entry List.mem_cons_self
      have others : AreSpaced columns := fun other listed =>
        spaced other (List.mem_cons_of_mem _ listed)
      have whole : spacedText (entry :: columns) =
          entry.1 ++ (entry.2 ++ spacedText columns) := by
        rw [spacedText, List.flatMap_cons, List.append_assoc]
        rfl
      rw [words_append shape spaced.isBlank_of_head?, whole, words_append_blank allBlank,
        inductionHypothesis next others, List.map_cons]

theorem not_isBlank_of_getLast?_spacedText (shape : isColumn column = true)
    (spaced : AreSpaced columns) :
    ∀ c ∈ (column ++ spacedText columns).getLast?, isBlank c = false := by
  induction columns generalizing column with
  | nil =>
      rw [spacedText, List.flatMap_nil, List.append_nil]
      exact fun c last => inked_of_isColumn shape c (List.mem_of_getLast? last)
  | cons entry columns inductionHypothesis =>
      obtain ⟨-, -, next⟩ := spaced entry List.mem_cons_self
      have others : AreSpaced columns := fun other listed =>
        spaced other (List.mem_cons_of_mem _ listed)
      have nonempty : entry.2 ++ spacedText columns ≠ [] := by
        intro empty
        simp [(List.append_eq_nil_iff.mp empty).1, isColumn] at next
      have whole : column ++ spacedText (entry :: columns) =
          (column ++ entry.1) ++ (entry.2 ++ spacedText columns) := by
        simp [spacedText]
      rw [whole, List.getLast?_append_of_ne_nil _ nonempty]
      exact inductionHypothesis next others

end Spaced

/-- A text without blanks and a blank behind it begin a text only as its whole first column. -/
theorem eq_of_column_begins {first more : List Char} {c : Char}
    (firstInked : ∀ c ∈ first, isBlank c = false) (blank : isBlank c = true)
    (inked : ∀ c ∈ column, isBlank c = false) (ended : ∀ c ∈ rest.head?, isBlank c = true)
    (begins : first ++ c :: more <+: column ++ rest) : first = column ∧ c :: more <+: rest := by
  obtain ⟨after, whole⟩ := begins
  rw [List.append_assoc, List.cons_append] at whole
  have same := congrArg (List.takeWhile (!isBlank ·)) whole
  rw [takeWhile_inked_append firstInked (by simp [blank]),
    takeWhile_inked_append inked ended] at same
  rw [same] at whole
  exact ⟨same, after, List.append_cancel_left whole⟩

section Pattern

variable {first more : List Char}

/-- A pattern with a blank in it is found across the end of a column or behind it. -/
theorem isInfix_column_append_iff (firstInked : ∀ c ∈ first, isBlank c = false)
    (blank : isBlank c = true) (inked : ∀ c ∈ column, isBlank c = false)
    (ended : ∀ c ∈ rest.head?, isBlank c = true) :
    first ++ c :: more <:+: column ++ rest ↔
      (first <:+ column ∧ c :: more <+: rest) ∨ first ++ c :: more <:+: rest := by
  constructor
  · rintro ⟨before, after, whole⟩
    rw [List.append_assoc, List.append_eq_append_iff] at whole
    rcases whole with ⟨inside, rfl, begins⟩ | ⟨beyond, rfl, rfl⟩
    · have insideInked : ∀ c ∈ inside, isBlank c = false :=
        fun c present => inked c (List.mem_append_right _ present)
      obtain ⟨rfl, follows⟩ :=
        eq_of_column_begins firstInked blank insideInked ended ⟨after, begins⟩
      exact .inl ⟨List.suffix_append _ _, follows⟩
    · exact .inr ⟨beyond, after, List.append_assoc _ _ _⟩
  · rintro (⟨⟨before, rfl⟩, after, rfl⟩ | behind)
    · exact ⟨before, after, by simp⟩
    · exact behind.trans (List.suffix_append _ _).isInfix

theorem prefix_column_append_iff (firstInked : ∀ c ∈ first, isBlank c = false)
    (ended : ∀ c ∈ rest.head?, isBlank c = true) : first <+: column ++ rest ↔ first <+: column := by
  refine ⟨fun begins => ?_, fun begins => begins.trans (List.prefix_append _ _)⟩
  induction column generalizing first with
  | nil =>
      cases first with
      | nil => exact List.prefix_rfl
      | cons head first =>
          obtain ⟨after, rfl⟩ := begins
          have blank := ended head rfl
          rw [firstInked head List.mem_cons_self] at blank
          cases blank
  | cons head column inductionHypothesis =>
      cases first with
      | nil => exact List.nil_prefix
      | cons own first =>
          rw [List.forall_mem_cons] at firstInked
          rw [List.cons_append, List.cons_prefix_cons] at begins
          rw [List.cons_prefix_cons]
          exact ⟨begins.1, inductionHypothesis firstInked.2 begins.2⟩

theorem isInfix_blanks_append_iff {blanks pattern : List Char}
    (inked : ∃ c ∈ pattern.head?, isBlank c = false) (allBlank : isAllBlank blanks = true)
    (rest : List Char) : pattern <:+: blanks ++ rest ↔ pattern <:+: rest := by
  induction blanks with
  | nil => rfl
  | cons head blanks inductionHypothesis =>
      rw [isAllBlank, List.all_cons, Bool.and_eq_true] at allBlank
      rw [List.cons_append, List.infix_cons_iff, inductionHypothesis allBlank.2]
      refine or_iff_right fun begins => ?_
      obtain ⟨c, first, inked⟩ := inked
      cases pattern with
      | nil => cases first
      | cons own pattern =>
          obtain rfl := Option.some.inj first
          rw [(List.cons_prefix_cons.mp begins).1, allBlank.1] at inked
          cases inked

end Pattern

end DeviceBrowser.Text
