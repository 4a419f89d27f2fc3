import DeviceBrowser.Proofs.Calendar.ListedTime
import DeviceBrowser.Proofs.Listing.Row
import DeviceBrowser.Proofs.Text.Decimal
import DeviceBrowser.Proofs.Text.Lines

/-!
Rows as `ls` prints them, and the entries that are read from them.

A row is its columns with any number of spaces between them, a single space, and the name.
Whatever the columns and the padding are, the entry that is read has what was printed.
-/

namespace DeviceBrowser.Listing

open DeviceBrowser.Text DeviceBrowser.Calendar

/-- The number of spaces after a column that so many others follow.  There is a single one
before the name. -/
def gap (padding : Nat → Nat) : Nat → Nat
  | 0 => 1
  | following + 1 => padding following + 1

/-- Columns with spaces after each of them, and a text at the end. -/
def layOut (padding : Nat → Nat) (tail : List Char) : List (List Char) → List Char
  | [] => tail
  | column :: columns =>
      column ++ (List.replicate (gap padding columns.length) ' ' ++ layOut padding tail columns)

inductive SizeColumn where
  | bytes (size : UInt64)
  /-- The numbers of a device node, which has no size. -/
  | device (major minor : Nat)

namespace SizeColumn

def columns : SizeColumn → List (List Char)
  | .bytes size => [decimal size.toNat]
  | .device major minor => [decimal major ++ [','], decimal minor]

def value : SizeColumn → UInt64
  | .bytes size => size
  | .device _ _ => 0

end SizeColumn

/-- When a file was changed, as texts in one of three layouts. -/
inductive Moment where
  | numeric (year month day hour minute : List Char)
  | recent (month day hour minute : List Char)
  | older (month day year : List Char)

namespace Moment

def dateColumns : Moment → List (List Char)
  | .numeric year month day _ _ => [year ++ '-' :: (month ++ '-' :: day)]
  | .recent month day _ _ | .older month day _ => [month, day]

def date : Moment → List Char
  | .numeric year month day _ _ => year ++ '-' :: (month ++ '-' :: day)
  | .recent month day _ _ | .older month day _ => month ++ ' ' :: day

def time : Moment → List Char
  | .numeric _ _ _ hour minute | .recent _ _ hour minute => hour ++ ':' :: minute
  | .older _ _ year => year

/-- Months by name are known, and everything else is digits. -/
def isWellFormed : Moment → Bool
  | .numeric year month day hour minute =>
      [year, month, day, hour, minute].all isDigits
  | .recent month day hour minute =>
      (monthNumber? month).isSome && [day, hour, minute].all isDigits
  | .older month day year =>
      (monthNumber? month).isSome && [day, year].all isDigits

end Moment

/-- The columns of a row, and how many spaces beyond one stand between them. -/
structure Row where
  permissions : List Char
  links : UInt32
  owner : List Char
  group : List Char
  size : SizeColumn
  moment : Moment
  name : List Char
  target : Option (List Char)
  padding : Nat → Nat

namespace Row

def columns (row : Row) : List (List Char) :=
  row.permissions :: decimal row.links.toNat :: row.owner :: row.group ::
    (row.size.columns ++ (row.moment.dateColumns ++ [row.moment.time]))

def nameText (row : Row) : List Char :=
  match row.target with
  | none => row.name
  | some target => row.name ++ (linkArrow ++ target)

def text (row : Row) : List Char :=
  layOut row.padding row.nameText row.columns

/-- The columns are such as `ls` prints, and nothing in the row makes it be passed over. -/
structure WellFormed (row : Row) : Prop where
  permissionsColumn : isColumn row.permissions = true
  permissionsShape : isPermissions row.permissions = true
  ownerColumn : isColumn row.owner = true
  groupColumn : isColumn row.group = true
  momentShape : row.moment.isWellFormed = true
  named : isOwnName row.name = false
  nameLine : isLineText row.name = true
  targetLine : ∀ target ∈ row.target, isLineText target = true
  /-- Symbolic links have a target, and nothing else has. -/
  linked : row.target.isSome = (kindOf row.permissions).isLink
  arrowless : row.target.isSome = true → occursIn linkArrow (row.name ++ [' ']) = false
  known : row.text.contains '?' = false
  granted : occursIn "Permission denied".toList row.text = false

def entry (reading : Reading) (row : Row) : Entry where
  name := String.ofList row.name
  kind := kindOf row.permissions
  permissions := String.ofList row.permissions
  size := row.size.value
  owner := String.ofList row.owner
  group := String.ofList row.group
  links := row.links
  modified := listedTime reading.zone reading.now row.moment.date row.moment.time
  target := row.target.map String.ofList

end Row

variable {padding : Nat → Nat} {tail column : List Char} {columns : List (List Char)}
  {reading : Reading} {row : Row}

theorem nextColumn?_layOut (spaces : Nat) (isColumn : isColumn column = true) :
    nextColumn? (List.replicate spaces ' ' ++ layOut padding tail (column :: columns)) =
      some (column, List.replicate (gap padding columns.length) ' ' ++
        layOut padding tail columns) := by
  refine nextColumn?_append ?_ isColumn ?_
  · simp [isAllBlank, List.all_replicate, isBlank]
  · intro c first
    have space : c = ' ' := by
      cases following : columns.length with
      | zero => simpa [following, gap, eq_comm] using first
      | succ following => simpa [*, gap, List.replicate_succ, eq_comm] using first
    rw [space]
    rfl

theorem SizeColumn.isColumn_of_mem_columns {size : SizeColumn}
    (present : column ∈ size.columns) : isColumn column = true := by
  have number : ∀ n, isColumn (decimal n) = true :=
    fun n => isColumn_of_isDigits (isDigits_decimal n)
  cases size with
  | bytes size =>
      rw [columns, List.mem_singleton] at present
      exact present ▸ number _
  | device major minor =>
      rw [columns, List.mem_pair] at present
      rcases present with rfl | rfl
      · have digits := number major
        simp only [isColumn, Bool.and_eq_true, List.all_append] at digits ⊢
        exact ⟨by simp, digits.2, rfl⟩
      · exact number minor

theorem readSize?_layOut (spaces : Nat) (size : SizeColumn) :
    readSize? (List.replicate spaces ' ' ++ layOut padding tail (size.columns ++ columns)) =
      some (size.value, List.replicate (gap padding columns.length) ' ' ++
        layOut padding tail columns) := by
  have isColumn : ∀ column ∈ size.columns, isColumn column = true :=
    fun _ => SizeColumn.isColumn_of_mem_columns
  cases size with
  | bytes size =>
      have plain : (decimal size.toNat).getLast? ≠ some ',' := by
        intro comma
        have digits := isDigits_decimal size.toNat
        simp only [isDigits, Bool.and_eq_true, List.all_eq_true] at digits
        exact absurd (digits.2 ',' (List.mem_of_getLast? comma)) (by decide)
      simp only [SizeColumn.columns, List.forall_mem_singleton, List.singleton_append]
        at isColumn ⊢
      rw [readSize?, nextColumn?_layOut spaces isColumn]
      simp [plain, readUnsigned?_decimal size.toNat_lt, SizeColumn.value]
  | device major minor =>
      simp only [SizeColumn.columns, List.forall_mem_cons, List.cons_append, List.nil_append]
        at isColumn ⊢
      rw [readSize?, nextColumn?_layOut spaces isColumn.1]
      simp [nextColumn?_layOut _ isColumn.2.1, SizeColumn.value]

theorem Moment.isColumn_time {moment : Moment} (wellFormed : moment.isWellFormed = true) :
    isColumn moment.time = true := by
  have clock : ∀ {hour minute : List Char}, isDigits hour = true → isDigits minute = true →
      isColumn (hour ++ ':' :: minute) = true := fun hourDigits minuteDigits =>
    isColumn_append_cons (isColumn_of_isDigits hourDigits) rfl (isColumn_of_isDigits minuteDigits)
  cases moment with
  | numeric year month day hour minute =>
      simp only [isWellFormed, List.all_cons, Bool.and_eq_true] at wellFormed
      exact clock wellFormed.2.2.2.1 wellFormed.2.2.2.2.1
  | recent month day hour minute =>
      simp only [isWellFormed, List.all_cons, Bool.and_eq_true] at wellFormed
      exact clock wellFormed.2.2.1 wellFormed.2.2.2.1
  | older month day year =>
      simp only [isWellFormed, List.all_cons, Bool.and_eq_true] at wellFormed
      exact isColumn_of_isDigits wellFormed.2.2.1

theorem Moment.isColumn_of_mem_dateColumns {moment : Moment}
    (wellFormed : moment.isWellFormed = true) (present : column ∈ moment.dateColumns) :
    isColumn column = true := by
  cases moment with
  | numeric year month day hour minute =>
      simp only [isWellFormed, List.all_cons, Bool.and_eq_true] at wellFormed
      rw [dateColumns, List.mem_singleton] at present
      rw [present]
      exact isColumn_append_cons (isColumn_of_isDigits wellFormed.1) rfl
        (isColumn_append_cons (isColumn_of_isDigits wellFormed.2.1) rfl
          (isColumn_of_isDigits wellFormed.2.2.1))
  | recent month day hour minute =>
      simp only [isWellFormed, List.all_cons, Bool.and_eq_true] at wellFormed
      rw [dateColumns, List.mem_pair] at present
      rcases present with rfl | rfl
      · exact isColumn_of_monthNumber? wellFormed.1
      · exact isColumn_of_isDigits wellFormed.2.1
  | older month day year =>
      simp only [isWellFormed, List.all_cons, Bool.and_eq_true] at wellFormed
      rw [dateColumns, List.mem_pair] at present
      rcases present with rfl | rfl
      · exact isColumn_of_monthNumber? wellFormed.1
      · exact isColumn_of_isDigits wellFormed.2.1

theorem readDate?_layOut (spaces : Nat) {moment : Moment}
    (wellFormed : moment.isWellFormed = true) :
    readDate? (List.replicate spaces ' ' ++
        layOut padding tail (moment.dateColumns ++ columns)) =
      some (moment.date, List.replicate (gap padding columns.length) ' ' ++
        layOut padding tail columns) := by
  have isColumn : ∀ column ∈ moment.dateColumns, isColumn column = true :=
    fun _ => Moment.isColumn_of_mem_dateColumns wellFormed
  cases moment with
  | numeric year month day hour minute =>
      have unnamed : (monthNumber? (year ++ '-' :: (month ++ '-' :: day))).isSome = false := by
        apply Bool.eq_false_iff.mpr
        intro known
        exact absurd (isAlpha_of_monthNumber? known (c := '-') (by simp)) (by decide)
      simp only [Moment.dateColumns, List.forall_mem_singleton, List.singleton_append]
        at isColumn ⊢
      rw [readDate?, nextColumn?_layOut spaces isColumn]
      simp [unnamed, Moment.date]
  | recent month day hour minute | older month day year =>
      simp only [Moment.isWellFormed, Bool.and_eq_true] at wellFormed
      simp only [Moment.dateColumns, List.forall_mem_cons, List.cons_append, List.nil_append]
        at isColumn ⊢
      rw [readDate?, nextColumn?_layOut spaces isColumn.1]
      simp [wellFormed.1, nextColumn?_layOut _ isColumn.2.1, Moment.date]

theorem readColumns?_text (wellFormed : row.WellFormed) :
    readColumns? row.text =
      some {
        permissions := row.permissions
        links := decimal row.links.toNat
        owner := row.owner
        group := row.group
        size := row.size.value
        date := row.moment.date
        time := row.moment.time
        nameText := row.nameText } := by
  have linksColumn := isColumn_of_isDigits (isDigits_decimal row.links.toNat)
  have start : row.text = List.replicate 0 ' ' ++ layOut row.padding row.nameText row.columns :=
    rfl
  rw [readColumns?, start, Row.columns, nextColumn?_layOut 0 wellFormed.permissionsColumn]
  simp only [Option.bind_eq_bind, Option.bind_some, nextColumn?_layOut _ linksColumn,
    nextColumn?_layOut _ wellFormed.ownerColumn, nextColumn?_layOut _ wellFormed.groupColumn,
    readSize?_layOut, readDate?_layOut _ wellFormed.momentShape,
    nextColumn?_layOut _ (Moment.isColumn_time wellFormed.momentShape)]
  rfl

theorem readName_nameText (wellFormed : row.WellFormed) :
    readName (kindOf row.permissions).isLink row.nameText = (row.name, row.target) := by
  rw [← wellFormed.linked]
  cases pointed : row.target with
  | none => simp [readName, Row.nameText, pointed]
  | some target =>
      have clear : ¬ linkArrow <:+: row.name ++ [' '] :=
        occursIn_eq_false_iff.mp (wellFormed.arrowless (by simp [pointed]))
      have arrow : linkArrow = [' '] ++ '-' :: ['>', ' '] := rfl
      have found : firstIndex? linkArrow (row.name ++ (linkArrow ++ target)) =
          some row.name.length := by
        rw [arrow] at clear ⊢
        exact firstIndex?_append_unique (by decide) target clear
      have split : splitFirst? linkArrow (row.name ++ (linkArrow ++ target)) =
          some (row.name, target) := by
        simp only [splitFirst?, found, Option.map_some, List.take_left, ← List.drop_drop,
          List.drop_left]
      simp [readName, Row.nameText, pointed, split]

theorem inked_of_mem_typeLetters {letter : Char} (typed : letter ∈ typeLetters) :
    isBlank letter = false ∧ letter ≠ 't' ∧ letter ≠ '<' := by
  have letters : typeLetters.all (fun letter =>
      !isBlank letter && letter != 't' && letter != '<') = true := by decide
  simpa [and_assoc] using List.all_eq_true.mp letters letter typed

theorem Row.WellFormed.text_eq_cons (wellFormed : row.WellFormed) :
    ∃ letter ∈ typeLetters, ∃ rest, row.text = letter :: rest := by
  have shape := wellFormed.permissionsShape
  unfold isPermissions at shape
  cases letters : row.permissions with
  | nil => simp [letters] at shape
  | cons letter rest =>
      simp only [letters, Bool.and_eq_true, List.contains_iff_mem] at shape
      exact ⟨letter, shape.1, _, by rw [Row.text, Row.columns, letters]; rfl⟩

theorem Row.WellFormed.not_rejected (wellFormed : row.WellFormed) :
    isRejected row.text = false := by
  obtain ⟨letter, typed, rest, starts⟩ := wellFormed.text_eq_cons
  have counted : "total".toList.isPrefixOf row.text = false := by
    rw [starts]
    simp [List.isPrefixOf, (inked_of_mem_typeLetters typed).2.1.symm]
  simp only [isRejected, wellFormed.granted, counted, wellFormed.known, Bool.or_false]

/-- A printed row is read as the entry it prints. -/
theorem readRow?_text (reading : Reading) (wellFormed : row.WellFormed) :
    readRow? reading row.text = some (row.entry reading) := by
  have links : readUnsigned? UInt32.size (decimal row.links.toNat) = some row.links.toNat :=
    readUnsigned?_decimal row.links.toNat_lt
  rw [readRow?_eq, wellFormed.not_rejected, readColumns?_text wellFormed]
  simp [RowColumns.judged?, wellFormed.permissionsShape, readName_nameText wellFormed,
    wellFormed.named, links, Row.entry]

theorem Row.WellFormed.isColumn_of_mem_columns (wellFormed : row.WellFormed)
    (present : column ∈ row.columns) : isColumn column = true := by
  simp only [Row.columns, List.mem_cons, List.mem_append, List.not_mem_nil, or_false] at present
  rcases present with rfl | rfl | rfl | rfl | sized | dated | rfl
  · exact wellFormed.permissionsColumn
  · exact isColumn_of_isDigits (isDigits_decimal _)
  · exact wellFormed.ownerColumn
  · exact wellFormed.groupColumn
  · exact SizeColumn.isColumn_of_mem_columns sized
  · exact Moment.isColumn_of_mem_dateColumns wellFormed.momentShape dated
  · exact Moment.isColumn_time wellFormed.momentShape

theorem mem_layOut {c : Char} (present : c ∈ layOut padding tail columns) :
    c = ' ' ∨ c ∈ tail ∨ ∃ column ∈ columns, c ∈ column := by
  induction columns with
  | nil => exact .inr (.inl present)
  | cons column columns inductionHypothesis =>
      simp only [layOut, List.mem_append, List.mem_replicate] at present
      rcases present with here | ⟨_, space⟩ | later
      · exact .inr (.inr ⟨column, List.mem_cons_self, here⟩)
      · exact .inl space
      · rcases inductionHypothesis later with space | last | ⟨found, listed, there⟩
        · exact .inl space
        · exact .inr (.inl last)
        · exact .inr (.inr ⟨found, List.mem_cons_of_mem _ listed, there⟩)

theorem getLast?_layOut (nonempty : tail ≠ []) :
    (layOut padding tail columns).getLast? = tail.getLast? := by
  induction columns with
  | nil => rfl
  | cons column columns inductionHypothesis =>
      have last : tail.getLast?.isSome = true := by simpa using nonempty
      rw [layOut, List.getLast?_append, List.getLast?_append, inductionHypothesis,
        Option.or_of_isSome (by simp [last]), Option.or_of_isSome last]

theorem Row.WellFormed.isLineText_nameText (wellFormed : row.WellFormed) :
    isLineText row.nameText = true := by
  have nameLine := wellFormed.nameLine
  have targetLine := wellFormed.targetLine
  unfold nameText
  cases pointed : row.target with
  | none => exact nameLine
  | some target =>
      simp only [pointed, Option.mem_some_iff, forall_eq'] at targetLine
      rw [isLineText_iff] at nameLine targetLine ⊢
      have arrowFeedless : '\n' ∉ linkArrow := by decide
      have arrowEnd : linkArrow.getLast? = some ' ' := rfl
      constructor
      · simp [nameLine.1, arrowFeedless, targetLine.1]
      · rw [List.getLast?_append, List.getLast?_append, arrowEnd]
        cases last : target.getLast? with
        | none => simp
        | some c => simpa [last] using targetLine.2

theorem Row.WellFormed.isLineText_text (wellFormed : row.WellFormed) :
    isLineText row.text = true := by
  obtain ⟨feedless, returnless⟩ := isLineText_iff.mp wellFormed.isLineText_nameText
  have nonempty : row.nameText ≠ [] := by
    have named := wellFormed.named
    unfold nameText
    cases row.target with
    | none => rintro gone; simp [gone, isOwnName] at named
    | some target => simp [linkArrow]
  refine isLineText_iff.mpr ⟨fun present => ?_, ?_⟩
  · rcases mem_layOut present with space | last | ⟨column, listed, there⟩
    · exact absurd space (by decide)
    · exact feedless last
    · have inked := wellFormed.isColumn_of_mem_columns listed
      simp only [isColumn, Bool.and_eq_true, List.all_eq_true] at inked
      exact absurd (inked.2 _ there) (by decide)
  · rwa [text, getLast?_layOut nonempty]

end DeviceBrowser.Listing
