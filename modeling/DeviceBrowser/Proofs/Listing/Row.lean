import DeviceBrowser.Listing.Row
import DeviceBrowser.Proofs.Text.Blank
import DeviceBrowser.Proofs.Text.Search

/-!
The reading of a row in two steps: first its columns, then a judgement on them.

A line end at the end of a line gets into the text of the name and nowhere else.  So a line
that is passed over is still passed over when its line ends are trimmed away.
-/

namespace DeviceBrowser.Listing

open DeviceBrowser.Text DeviceBrowser.Calendar

variable {reading : Reading} {line : List Char} {c : Char}

/-- What is read from a line, column by column, with the text that the name is in. -/
structure RowColumns where
  permissions : List Char
  links : List Char
  owner : List Char
  group : List Char
  size : UInt64
  date : List Char
  time : List Char
  nameText : List Char

def readColumns? (line : List Char) : Option RowColumns := do
  let (permissions, rest) ← nextColumn? line
  let (links, rest) ← nextColumn? rest
  let (owner, rest) ← nextColumn? rest
  let (group, rest) ← nextColumn? rest
  let (size, rest) ← readSize? rest
  let (date, rest) ← readDate? rest
  let (time, rest) ← nextColumn? rest
  some ⟨permissions, links, owner, group, size, date, time, dropSpace rest⟩

/-- The entry that columns stand for, if they name anything. -/
def RowColumns.judged? (reading : Reading) (columns : RowColumns) : Option Entry :=
  let kind := kindOf columns.permissions
  let (name, target) := readName kind.isLink columns.nameText
  if !isPermissions columns.permissions || isOwnName name then none
  else some {
    name := String.ofList name
    kind
    permissions := String.ofList columns.permissions
    size := columns.size
    owner := String.ofList columns.owner
    group := String.ofList columns.group
    links := UInt32.ofNat ((readUnsigned? UInt32.size columns.links).getD 1)
    modified := listedTime reading.zone reading.now columns.date columns.time
    target := target.map String.ofList }

/-- Reading a row is reading its columns first and judging them afterwards. -/
theorem readRow?_eq (reading : Reading) (line : List Char) :
    readRow? reading line =
      if isRejected line then none else (readColumns? line).bind (·.judged? reading) := by
  unfold readRow? readColumns?
  cases isRejected line with
  | true => rfl
  | false =>
      cases nextColumn? line with
      | none => rfl
      | some column =>
          obtain ⟨permissions, rest⟩ := column
          cases shape : isPermissions permissions with
          | true => simp [Option.bind_assoc, RowColumns.judged?, shape]
          | false => simp [Option.bind_assoc, RowColumns.judged?, shape]

theorem RowColumns.judged?_eq_none_iff {columns : RowColumns} :
    columns.judged? reading = none ↔ isPermissions columns.permissions = false ∨
      isOwnName (readName (kindOf columns.permissions).isLink columns.nameText).1 = true := by
  unfold judged?
  cases isPermissions columns.permissions <;> simp

theorem RowColumns.judged?_eq_some_iff {columns : RowColumns} {entry : Entry} :
    columns.judged? reading = some entry ↔
      isPermissions columns.permissions = true ∧
        ∃ name target,
          readName (kindOf columns.permissions).isLink columns.nameText = (name, target) ∧
          isOwnName name = false ∧
          entry = {
            name := String.ofList name
            kind := kindOf columns.permissions
            permissions := String.ofList columns.permissions
            size := columns.size
            owner := String.ofList columns.owner
            group := String.ofList columns.group
            links := UInt32.ofNat ((readUnsigned? UInt32.size columns.links).getD 1)
            modified := listedTime reading.zone reading.now columns.date columns.time
            target := target.map String.ofList } := by
  unfold judged?
  rcases split : readName (kindOf columns.permissions).isLink columns.nameText with ⟨name, target⟩
  cases isPermissions columns.permissions with
  | false => simp
  | true =>
      cases own : isOwnName name with
      | true => simp [own, split]
      | false => simpa [own, split] using eq_comm

theorem not_isLineEnd_of_eq {letter : Char} (lineEnd : isLineEnd c = true)
    (plain : isLineEnd letter = false) : letter ≠ c := by
  rintro rfl
  simp [lineEnd] at plain

theorem isRejected_concat (lineEnd : isLineEnd c = true) :
    isRejected (line ++ [c]) = isRejected line := by
  have denied : occursIn "Permission denied".toList (line ++ [c]) =
      occursIn "Permission denied".toList line := by
    unfold occursIn
    rw [firstIndex?_concat rfl (not_isLineEnd_of_eq lineEnd (by decide) : 'd' ≠ c)]
  have counted : "total".toList.isPrefixOf (line ++ [c]) = "total".toList.isPrefixOf line := by
    rw [Bool.eq_iff_iff, List.isPrefixOf_iff_prefix, List.isPrefixOf_iff_prefix,
      List.prefix_concat_iff]
    apply or_iff_right
    intro whole
    have last := congrArg List.getLast? whole
    rw [List.getLast?_concat] at last
    exact not_isLineEnd_of_eq lineEnd (by decide : isLineEnd 'l' = false) (Option.some.inj last)
  have unknown : (line ++ [c]).contains '?' = line.contains '?' := by
    have different := not_isLineEnd_of_eq lineEnd (by decide : isLineEnd '?' = false)
    simp [different]
  rw [isRejected, denied, counted, unknown, isRejected]

theorem readSize?_eq_some_iff {size : UInt64} {rest : List Char} :
    readSize? line = some (size, rest) ↔
      ∃ column after, nextColumn? line = some (column, after) ∧
        (column.getLast? = some ',' ∧ 0 = size ∧
            (∃ minor, nextColumn? after = some (minor, rest)) ∨
          column.getLast? ≠ some ',' ∧
            UInt64.ofNat ((readUnsigned? UInt64.size column).getD 0) = size ∧ after = rest) := by
  simp only [readSize?, Option.bind_eq_bind, Option.bind_eq_some_iff, Prod.exists, beq_iff_eq]
  refine exists₂_congr fun column after => and_congr_right fun _ => ?_
  split
  next comma => simp [comma, Option.bind_eq_some_iff, and_comm]
  next plain => simp [plain]

theorem readDate?_eq_some_iff {date rest : List Char} :
    readDate? line = some (date, rest) ↔
      ∃ column after, nextColumn? line = some (column, after) ∧
        ((monthNumber? column).isSome = true ∧
            (∃ day, nextColumn? after = some (day, rest) ∧ column ++ ' ' :: day = date) ∨
          monthNumber? column = none ∧ column = date ∧ after = rest) := by
  simp only [readDate?, Option.bind_eq_bind, Option.bind_eq_some_iff, Prod.exists]
  refine exists₂_congr fun column after => and_congr_right fun _ => ?_
  cases monthNumber? column with
  | none => simp
  | some month => simp [Option.bind_eq_some_iff]

theorem readSize?_concat {size : UInt64} {rest : List Char} (blank : isBlank c = true)
    (found : readSize? line = some (size, rest)) :
    readSize? (line ++ [c]) = some (size, rest ++ [c]) := by
  obtain ⟨column, after, first, further⟩ := readSize?_eq_some_iff.mp found
  refine readSize?_eq_some_iff.mpr ⟨column, after ++ [c], nextColumn?_concat blank first, ?_⟩
  rcases further with ⟨comma, nothing, minor, second⟩ | ⟨plain, number, rfl⟩
  · exact .inl ⟨comma, nothing, minor, nextColumn?_concat blank second⟩
  · exact .inr ⟨plain, number, rfl⟩

theorem readDate?_concat {date rest : List Char} (blank : isBlank c = true)
    (found : readDate? line = some (date, rest)) :
    readDate? (line ++ [c]) = some (date, rest ++ [c]) := by
  obtain ⟨column, after, first, further⟩ := readDate?_eq_some_iff.mp found
  refine readDate?_eq_some_iff.mpr ⟨column, after ++ [c], nextColumn?_concat blank first, ?_⟩
  rcases further with ⟨known, day, second, rfl⟩ | ⟨nameless, rfl, rfl⟩
  · exact .inl ⟨known, day, nextColumn?_concat blank second, rfl⟩
  · exact .inr ⟨nameless, rfl, rfl⟩

theorem dropSpace_concat (text : List Char) (different : ' ' ≠ c) :
    dropSpace (text ++ [c]) = dropSpace text ++ [c] := by
  cases text with
  | nil =>
      rw [List.nil_append]
      unfold dropSpace
      split
      next rest starts => exact absurd (List.cons.inj starts).1.symm different
      next => rfl
  | cons head tail =>
      by_cases space : head = ' '
      · rw [space]
        rfl
      · simp [dropSpace, space]

theorem readColumns?_concat {columns : RowColumns} (lineEnd : isLineEnd c = true)
    (found : readColumns? line = some columns) :
    readColumns? (line ++ [c]) =
      some { columns with nameText := columns.nameText ++ [c] } := by
  have blank := isBlank_of_isLineEnd lineEnd
  simp only [readColumns?, Option.bind_eq_bind, Option.bind_eq_some_iff, Prod.exists,
    Option.some.injEq] at found ⊢
  obtain ⟨permissions, rest₁, first, links, rest₂, second, owner, rest₃, third, group, rest₄,
    fourth, size, rest₅, sized, date, rest₆, dated, time, rest₇, timed, rfl⟩ := found
  exact ⟨permissions, rest₁ ++ [c], nextColumn?_concat blank first,
    links, rest₂ ++ [c], nextColumn?_concat blank second,
    owner, rest₃ ++ [c], nextColumn?_concat blank third,
    group, rest₄ ++ [c], nextColumn?_concat blank fourth,
    size, rest₅ ++ [c], readSize?_concat blank sized,
    date, rest₆ ++ [c], readDate?_concat blank dated,
    time, rest₇ ++ [c], nextColumn?_concat blank timed,
    by rw [dropSpace_concat _ (not_isLineEnd_of_eq lineEnd rfl)]⟩

theorem isOwnName_readName_concat {isLink : Bool} {text : List Char}
    (lineEnd : isLineEnd c = true) (named : isOwnName (readName isLink text).1 = false) :
    isOwnName (readName isLink (text ++ [c])).1 = false := by
  have dot : '.' ≠ c := not_isLineEnd_of_eq lineEnd rfl
  have whole : isOwnName text = false → isOwnName (text ++ [c]) = false := by
    intro named
    cases text with
    | nil => simp [isOwnName] at named
    | cons head tail => cases tail <;> simp [isOwnName, dot.symm]
  have unmoved : firstIndex? linkArrow (text ++ [c]) = firstIndex? linkArrow text :=
    firstIndex?_concat rfl (not_isLineEnd_of_eq lineEnd rfl)
  cases isLink with
  | false => exact whole named
  | true =>
      cases found : firstIndex? linkArrow text with
      | none =>
          simp only [readName, splitFirst?, unmoved, found, Option.map_none] at named ⊢
          exact whole named
      | some index =>
          have within := (firstIndex?_eq_some_iff.mp found).1
          simp only [readName, splitFirst?, unmoved, found, Option.map_some] at named ⊢
          rwa [List.take_append_of_le_length within]

theorem readRow?_trimLineEnds (passed : readRow? reading line = none) :
    readRow? reading (trimLineEnds line) = none := by
  refine trimLineEnds_induction (motive := fun line => readRow? reading line = none) ?_ line passed
  intro line c lineEnd passed
  rw [readRow?_eq, isRejected_concat lineEnd] at passed
  rw [readRow?_eq]
  split
  next => rfl
  next kept =>
    rw [if_neg kept] at passed
    cases read : readColumns? line with
    | none => rfl
    | some columns =>
        rw [readColumns?_concat lineEnd read, Option.bind_some,
          RowColumns.judged?_eq_none_iff] at passed
        rw [Option.bind_some, RowColumns.judged?_eq_none_iff]
        apply passed.imp_right
        intro named
        by_contra unnamed
        rw [Bool.not_eq_true] at unnamed
        rw [isOwnName_readName_concat lineEnd unnamed] at named
        cases named

theorem readSize?_suffix {size : UInt64} {rest : List Char}
    (found : readSize? line = some (size, rest)) : rest <:+ line := by
  obtain ⟨column, after, first, further⟩ := readSize?_eq_some_iff.mp found
  rcases further with ⟨-, -, minor, second⟩ | ⟨-, -, rfl⟩
  · exact (nextColumn?_suffix second).trans (nextColumn?_suffix first)
  · exact nextColumn?_suffix first

theorem readDate?_suffix {date rest : List Char}
    (found : readDate? line = some (date, rest)) : rest <:+ line := by
  obtain ⟨column, after, first, further⟩ := readDate?_eq_some_iff.mp found
  rcases further with ⟨-, day, second, -⟩ | ⟨-, -, rfl⟩
  · exact (nextColumn?_suffix second).trans (nextColumn?_suffix first)
  · exact nextColumn?_suffix first

theorem dropSpace_suffix (text : List Char) : dropSpace text <:+ text := by
  unfold dropSpace
  split
  next rest => exact List.suffix_cons _ _
  next => exact List.suffix_rfl

theorem readColumns?_shape {columns : RowColumns} (found : readColumns? line = some columns) :
    isColumn columns.permissions = true ∧ isColumn columns.owner = true ∧
      isColumn columns.group = true ∧ columns.nameText <:+ line := by
  simp only [readColumns?, Option.bind_eq_bind, Option.bind_eq_some_iff, Prod.exists,
    Option.some.injEq] at found
  obtain ⟨permissions, rest₁, first, links, rest₂, second, owner, rest₃, third, group, rest₄,
    fourth, size, rest₅, sized, date, rest₆, dated, time, rest₇, timed, rfl⟩ := found
  refine ⟨isColumn_of_nextColumn? first, isColumn_of_nextColumn? third,
    isColumn_of_nextColumn? fourth, ?_⟩
  -- What each step leaves is the end of what the step before it left.
  exact (dropSpace_suffix rest₇).trans <| (nextColumn?_suffix timed).trans <|
    (readDate?_suffix dated).trans <| (readSize?_suffix sized).trans <|
    (nextColumn?_suffix fourth).trans <| (nextColumn?_suffix third).trans <|
    (nextColumn?_suffix second).trans (nextColumn?_suffix first)

/-- A target is there for links only, and then the name holds no arrow. -/
theorem readName_shape (isLink : Bool) (text : List Char) :
    (readName isLink text).1 <+: text ∧
      ((readName isLink text).2.isSome = true →
        isLink = true ∧ ¬ linkArrow <:+: (readName isLink text).1) := by
  unfold readName
  split
  next name target split =>
    simp only [splitFirst?, Option.map_eq_some_iff, Prod.mk.injEq] at split
    obtain ⟨index, found, rfl, rfl⟩ := split
    exact ⟨List.take_prefix _ _, fun _ => ⟨rfl, not_isInfix_take found (by decide)⟩⟩
  next => exact ⟨List.prefix_rfl, by simp⟩

end DeviceBrowser.Listing
