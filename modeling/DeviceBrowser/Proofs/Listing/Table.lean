import DeviceBrowser.Listing.Table
import DeviceBrowser.Proofs.Calendar.FullDate
import DeviceBrowser.Proofs.Listing.Lookup
import DeviceBrowser.Proofs.Listing.Refinement
import DeviceBrowser.Proofs.Listing.RowLayout

/-!
A table is itself a listing.

The columns of a table stand apart by spaces, however wide they are, so a row of it is laid out as
a line of a listing.  What is read from such a row is the entry that it was printed for, but for
what the records said of a link, and with a time in whole minutes.
-/

namespace DeviceBrowser.Listing

open DeviceBrowser.Text DeviceBrowser.Calendar

def SpacedColumn.padded (more : Nat) (column : List Char)
    (shape : Text.isColumn column = true) : SpacedColumn where
  blanks := List.replicate (more + 1) ' '
  column
  separated := by simp
  allBlank := by simp [isAllBlank, List.all_replicate, isBlank]
  isColumn := shape

theorem SpacedColumn.text_padded {more : Nat} {column : List Char}
    (shape : Text.isColumn column = true) :
    (SpacedColumn.padded more column shape).text = List.replicate (more + 1) ' ' ++ column :=
  rfl

def printedName (entry : Entry) : List Char :=
  entry.name.toList ++ match entry.target with
    | some target => linkArrow ++ target.toList
    | none => []

/-- The columns of an entry that are printed as they were read, and its year. -/
structure Tabular (entry : Entry) : Prop where
  permissions : isColumn entry.permissions.toList = true
  owner : isColumn entry.owner.toList = true
  group : isColumn entry.group.toList = true
  writable : entry.modified.date.IsWritable

theorem monthNumber?_dateText {date : Date} (writable : date.IsWritable) :
    monthNumber? (dateText date) = none := by
  rw [← Option.not_isSome_iff_eq_none]
  intro known
  have hyphen : '-' ∈ dateText date := by
    rw [dateText_of_isWritable writable]
    simp
  exact absurd (isAlpha_of_monthNumber? known hyphen) (by decide)

theorem isColumn_minuteText (secondOfDay : Nat) : isColumn (minuteText secondOfDay) = true :=
  isColumn_append_cons (isColumn_of_isDigits (isDigits_decimalWide _ _)) rfl
    (isColumn_of_isDigits (isDigits_decimalWide _ _))

theorem getLast?_decimal_ne_comma (n : Nat) : (decimal n).getLast? ≠ some ',' := by
  intro comma
  exact absurd (isDigit_of_isDigits (isDigits_decimal n) (List.mem_of_getLast? comma)) (by decide)

/-- How a row of a table is laid out.  What fills up a column behind it stands before the next. -/
def tableLayout (entry : Entry) (tabular : Tabular entry) : RowLayout where
  indent := []
  permissions := entry.permissions.toList
  links := .padded (3 - (decimal entry.links.toNat).length) (decimal entry.links.toNat)
    (isColumn_of_isDigits (isDigits_decimal _))
  owner := .padded 0 entry.owner.toList tabular.owner
  group := .padded (8 - entry.owner.toList.length) entry.group.toList tabular.group
  size := .single
    (.padded ((8 - entry.group.toList.length) + (10 - (decimal entry.size.toNat).length))
      (decimal entry.size.toNat) (isColumn_of_isDigits (isDigits_decimal _)))
    (getLast?_decimal_ne_comma _)
  date := .single (.padded 0 (dateText entry.modified.date) (isColumn_dateText tabular.writable))
    (monthNumber?_dateText tabular.writable)
  time := .padded 0 (minuteText entry.modified.secondOfDay) (isColumn_minuteText _)
  ending := .spaced (printedName entry)
  allBlank := rfl
  isColumn := tabular.permissions

variable {entry : Entry} {reading : Reading}

theorem text_tableLayout (tabular : Tabular entry) :
    (tableLayout entry tabular).text = plainRow entry := by
  -- A run of spaces is what fills up one column, the space between two, and what fills up the next.
  have spaces : ∀ (before after : Nat) (rest : List Char),
      List.replicate (before + after + 1) ' ' ++ rest =
        List.replicate before ' ' ++ ' ' :: (List.replicate after ' ' ++ rest) := by
    intro before after rest
    rw [Nat.add_assoc, List.replicate_add, List.replicate_succ, List.append_assoc,
      List.cons_append]
  have single := spaces 0 0
  have links := spaces 0 (3 - (decimal entry.links.toNat).length)
  have group := spaces (8 - entry.owner.toList.length) 0
  have size := spaces (8 - entry.group.toList.length) (10 - (decimal entry.size.toNat).length)
  simp only [Nat.add_zero, Nat.zero_add, List.replicate_zero, List.nil_append] at single links group
  simp only [RowLayout.text, tableLayout, SizeLayout.text, DateLayout.text, Ending.text,
    SpacedColumn.text_padded, List.nil_append, List.append_assoc, Nat.zero_add, single, links,
    group, size]
  cases pointed : entry.target <;>
    simp [plainRow, alignLeft, alignRight, List.rightpad, List.leftpad, List.intercalate,
      Timestamp.minute, printedName, linkArrow, pointed]

section Rows

variable {layout : RowLayout}

theorem RowLayout.Shows.tabular (shows : layout.Shows reading entry)
    (writable : entry.modified.date.IsWritable) : Tabular entry where
  permissions := shows.permissions ▸ layout.isColumn
  owner := shows.owner ▸ layout.owner.isColumn
  group := shows.group ▸ layout.group.isColumn
  writable

theorem RowLayout.Shows.printedName_eq (shows : layout.Shows reading entry) :
    printedName entry = layout.ending.nameText := by
  have whole := shows.nameText
  unfold printedName
  cases pointed : entry.target with
  | none =>
      rw [pointed] at whole
      rw [List.append_nil]
      exact whole.1.symm
  | some target =>
      rw [pointed] at whole
      exact whole.2.1.symm

def printedTime (zone : Zone) (now stamp : Timestamp) : Timestamp :=
  listedTime zone now (dateText stamp.date) (minuteText stamp.secondOfDay)

/-- A row of a table has the parts of the entry for which it was printed. -/
theorem RowLayout.Shows.tableLayout (shows : layout.Shows reading entry) (tabular : Tabular entry)
    (now : Timestamp) :
    (tableLayout entry tabular).Shows ⟨reading.zone, now⟩
      { entry with modified := printedTime reading.zone now entry.modified } where
  shape := by
    have shape := shows.shape
    rwa [shows.permissions] at shape
  permissions := rfl
  kind := by
    rw [shows.kind, shows.permissions]
    rfl
  links := by
    change entry.links.toNat = (readUnsigned? UInt32.size (decimal entry.links.toNat)).getD 1
    rw [readUnsigned?_decimal entry.links.toNat_lt, Option.getD_some]
  owner := rfl
  group := rfl
  size := by
    change entry.size.toNat = (readUnsigned? UInt64.size (decimal entry.size.toNat)).getD 0
    rw [readUnsigned?_decimal entry.size.toNat_lt, Option.getD_some]
  modified := rfl
  nameText := by
    have whole := shows.nameText
    rw [← shows.printedName_eq] at whole
    exact whole
  named := shows.named

end Rows

section Complaints

def complaint : List Char := "Permission denied".toList

def isFigure (c : Char) : Bool :=
  c.isDigit || c == '-' || c == ':'

def AreFigures (column : List Char) : Prop :=
  ∀ c ∈ column, isFigure c = true

variable {column rest : List Char}

theorem areFigures_of_isDigits (digits : isDigits column = true) : AreFigures column := by
  intro c present
  simp [isFigure, isDigit_of_isDigits digits present]

theorem areFigures_append_cons {first second : List Char} {c : Char} (figure : isFigure c = true)
    (before : AreFigures first) (after : AreFigures second) :
    AreFigures (first ++ c :: second) :=
  List.forall_mem_append.mpr ⟨before, List.forall_mem_cons.mpr ⟨figure, after⟩⟩

theorem areFigures_dateText {date : Date} (writable : date.IsWritable) :
    AreFigures (dateText date) := by
  have digits : ∀ width n, AreFigures (decimalWide width n) :=
    fun width n => areFigures_of_isDigits (isDigits_decimalWide width n)
  rw [dateText_of_isWritable writable, List.append_nil]
  exact areFigures_append_cons rfl (digits _ _)
    (areFigures_append_cons rfl (digits _ _) (digits _ _))

theorem areFigures_minuteText (secondOfDay : Nat) : AreFigures (minuteText secondOfDay) :=
  areFigures_append_cons rfl (areFigures_of_isDigits (isDigits_decimalWide _ _))
    (areFigures_of_isDigits (isDigits_decimalWide _ _))

/-- A complaint is found across a column and the blank behind it, or behind the column. -/
theorem isInfix_column_iff (shape : isColumn column = true) (ended : EndsColumn rest) :
    complaint <:+: column ++ rest ↔
      ("Permission".toList <:+ column ∧ " denied".toList <+: rest) ∨ complaint <:+: rest := by
  have whole : complaint = "Permission".toList ++ ' ' :: "denied".toList := by decide
  rw [whole]
  exact isInfix_column_append_iff (inked_of_isColumn (by decide)) rfl (inked_of_isColumn shape)
    ended

theorem SpacedColumn.isInfix_text_iff (spaced : SpacedColumn) (ended : EndsColumn rest) :
    complaint <:+: spaced.text ++ rest ↔
      ("Permission".toList <:+ spaced.column ∧ " denied".toList <+: rest) ∨
        complaint <:+: rest := by
  rw [text, List.append_assoc, isInfix_blanks_append_iff ⟨'P', rfl, rfl⟩ spaced.allBlank,
    isInfix_column_iff spaced.isColumn ended]

theorem SpacedColumn.isInfix_text_of_figures (spaced : SpacedColumn)
    (figures : AreFigures spaced.column) (ended : EndsColumn rest) :
    complaint <:+: spaced.text ++ rest ↔ complaint <:+: rest := by
  rw [spaced.isInfix_text_iff ended]
  refine or_iff_right fun across => ?_
  exact absurd (figures 'n' (across.1.subset (by decide))) (by decide)

theorem SpacedColumn.not_prefix_of_figures (spaced : SpacedColumn)
    (figures : AreFigures spaced.column) (rest : List Char) :
    ¬ " denied".toList <+: spaced.text ++ rest := by
  obtain ⟨blanks, column, separated, allBlank, shape⟩ := spaced
  have whole : " denied".toList = ' ' :: 'd' :: "enied".toList := by decide
  rw [text, whole, List.append_assoc]
  intro begins
  cases blanks with
  | nil => exact separated rfl
  | cons blank blanks =>
      have next := (List.cons_prefix_cons.mp begins).2
      cases blanks with
      | nil =>
          cases column with
          | nil => cases shape
          | cons head tail =>
              have figure := figures head List.mem_cons_self
              rw [← (List.cons_prefix_cons.mp next).1] at figure
              cases figure
      | cons second blanks =>
          rw [← (List.cons_prefix_cons.mp next).1] at allBlank
          simp [isAllBlank, isBlank] at allBlank

/-- Among columns of figures a complaint can be made up by an owner and what follows it only. -/
theorem isInfix_columns_iff {permissions last : List Char} {links owner group size date time :
    SpacedColumn} (shape : isColumn permissions = true) (ended : EndsColumn last)
    (linksFigures : AreFigures links.column) (sizeFigures : AreFigures size.column)
    (dateFigures : AreFigures date.column) (timeFigures : AreFigures time.column)
    (clean : ¬ complaint <:+: last) :
    complaint <:+: permissions ++ (links.text ++ (owner.text ++ (group.text ++ (size.text ++
        (date.text ++ (time.text ++ last)))))) ↔
      "Permission".toList <:+ owner.column ∧ " denied".toList <+: group.text ++ (size.text ++
        (date.text ++ (time.text ++ last))) := by
  have behind : ¬ complaint <:+:
      group.text ++ (size.text ++ (date.text ++ (time.text ++ last))) := by
    rw [group.isInfix_text_iff (size.endsColumn _),
      or_iff_right fun across => size.not_prefix_of_figures sizeFigures _ across.2,
      size.isInfix_text_of_figures sizeFigures (date.endsColumn _),
      date.isInfix_text_of_figures dateFigures (time.endsColumn _),
      time.isInfix_text_of_figures timeFigures ended]
    exact clean
  rw [isInfix_column_iff shape (links.endsColumn _),
    or_iff_right fun across => links.not_prefix_of_figures linksFigures _ across.2,
    links.isInfix_text_of_figures linksFigures (owner.endsColumn _),
    owner.isInfix_text_iff (group.endsColumn _), or_iff_left behind]

/-- Only a group right behind the owner goes on with the end of a long owner. -/
theorem across_owner_iff (tabular : Tabular entry) (ended : EndsColumn rest) :
    ("Permission".toList <:+ entry.owner.toList ∧
        " denied".toList <+: (tableLayout entry tabular).group.text ++ rest) ↔
      "Permission".toList <:+ entry.owner.toList ∧ "denied".toList <+: entry.group.toList := by
  refine and_congr_right fun ends => ?_
  have long : 8 - entry.owner.toList.length = 0 := by
    have size := ends.length_le
    have ten : "Permission".toList.length = 10 := by decide
    omega
  have text : (tableLayout entry tabular).group.text ++ rest =
      ' ' :: (entry.group.toList ++ rest) := by
    rw [tableLayout, SpacedColumn.text_padded, long]
    rfl
  have whole : " denied".toList = ' ' :: "denied".toList := by decide
  rw [text, whole, List.cons_prefix_cons, eq_self, true_and,
    prefix_column_append_iff (inked_of_isColumn (by decide)) ended]

/-- In a row of a table an owner and a group that stand side by side can make up a complaint, and
nothing else can. -/
theorem isInfix_plainRow_iff (tabular : Tabular entry)
    (clean : ¬ complaint <:+: printedName entry) :
    complaint <:+: plainRow entry ↔
      "Permission".toList <:+ entry.owner.toList ∧ "denied".toList <+: entry.group.toList := by
  have digits : ∀ n, AreFigures (decimal n) := fun n => areFigures_of_isDigits (isDigits_decimal n)
  have space : (Ending.spaced (printedName entry)).text = [' '] ++ printedName entry := rfl
  rw [← text_tableLayout tabular]
  refine (isInfix_columns_iff tabular.permissions (Ending.endsColumn _) (digits _) (digits _)
    (areFigures_dateText tabular.writable) (areFigures_minuteText _) ?_).trans
      (across_owner_iff tabular (SpacedColumn.endsColumn _ _))
  rw [tableLayout, space, isInfix_blanks_append_iff ⟨'P', rfl, rfl⟩ rfl]
  exact clean

end Complaints

section Reading

variable {layout : RowLayout} {line : List Char} {stamp : Timestamp} {zone : Zone}

theorem Ending.nameText_suffix (ending : Ending) : ending.nameText <:+ ending.text := by
  cases ending with
  | spaced nameText => exact List.suffix_cons ' ' nameText
  | unspaced nameText begins => exact List.suffix_rfl

theorem RowLayout.Shows.printedName_suffix (shows : layout.Shows reading entry) :
    printedName entry <:+ layout.text := by
  rw [shows.printedName_eq]
  refine layout.ending.nameText_suffix.trans ?_
  simp only [RowLayout.text, ← List.append_assoc]
  exact List.suffix_append _ _

/-- What is printed of an entry has been read, but for spaces and figures. -/
theorem RowLayout.Shows.mem_of_mem_plainRow (shows : layout.Shows reading entry)
    (writable : entry.modified.date.IsWritable) {c : Char} (present : c ∈ plainRow entry) :
    c = ' ' ∨ isFigure c = true ∨ c ∈ layout.text := by
  have digits : ∀ n, AreFigures (decimal n) := fun n => areFigures_of_isDigits (isDigits_decimal n)
  have read : c ∈ entry.permissions.toList ∨ c ∈ entry.owner.toList ∨ c ∈ entry.group.toList →
      c ∈ layout.text := by
    rw [← shows.permissions, ← shows.owner, ← shows.group]
    simp only [RowLayout.text, SpacedColumn.text, List.mem_append]
    rintro (present | present | present) <;> simp only [present, true_or, or_true]
  rw [← text_tableLayout (shows.tabular writable)] at present
  simp only [RowLayout.text, Listing.tableLayout, SizeLayout.text, DateLayout.text, Ending.text,
    SpacedColumn.text_padded, List.nil_append, List.mem_append, List.mem_cons,
    List.mem_replicate] at present
  rcases present with permissions | (space | links) | (space | owner) | (space | group) |
    (space | size) | (space | date) | (space | time) | space | name
  · exact .inr (.inr (read (.inl permissions)))
  · exact .inl space.2
  · exact .inr (.inl (digits _ c links))
  · exact .inl space.2
  · exact .inr (.inr (read (.inr (.inl owner))))
  · exact .inl space.2
  · exact .inr (.inr (read (.inr (.inr group))))
  · exact .inl space.2
  · exact .inr (.inl (digits _ c size))
  · exact .inl space.2
  · exact .inr (.inl (areFigures_dateText writable c date))
  · exact .inl space.2
  · exact .inr (.inl (areFigures_minuteText _ c time))
  · exact .inl space
  · exact .inr (.inr (shows.printedName_suffix.subset name))

theorem RowLayout.Shows.isRejected_plainRow (shows : layout.Shows reading entry)
    (kept : isRejected layout.text = false) (writable : entry.modified.date.IsWritable)
    (granted : ¬ complaint <:+: plainRow entry) : isRejected (plainRow entry) = false := by
  simp only [isRejected, Bool.or_eq_false_iff] at kept ⊢
  refine ⟨⟨occursIn_eq_false_iff.mpr granted, ?_⟩, ?_⟩
  · obtain ⟨⟨letter, typed, first⟩, -⟩ := isPermissions_iff.mp shows.shape
    obtain ⟨rest, permissions⟩ := List.head?_eq_some_iff.mp first
    rw [plainRow, ← shows.permissions, permissions]
    simp [List.isPrefixOf, (inked_of_mem_typeLetters typed).2.1.symm]
  · rw [Bool.eq_false_iff, ne_eq, List.contains_iff_mem]
    intro unknown
    rcases shows.mem_of_mem_plainRow writable unknown with space | figure | read
    · exact absurd space (by decide)
    · exact absurd figure (by decide)
    · exact absurd (List.contains_iff_mem.mpr read) (by rw [kept.2]; decide)

/-- A time in a table is read as the instant that its minute begins with, if the clock shows that
once. -/
theorem printedTime_of_showsOnce (offsets : zone.WithinDay) (writable : stamp.date.IsWritable)
    {instant : Int}
    (shown : zone.localSecond instant = stamp.localSecond - stamp.localSecond % 60)
    (once : zone.ShowsOnce instant) (now : Timestamp) :
    printedTime zone now stamp = Timestamp.inZone zone instant := by
  have civil : stamp.date.IsCivil := Date.isCivil_ofDayNumber _
  have limit := stamp.secondOfDay_lt
  have parts := stamp.localSecond_eq
  obtain ⟨⟨_, lastMonth⟩, _, lastDay⟩ := civil
  have days := Date.daysInMonth_le stamp.date.year stamp.date.month
  have tells : Tells now (dateText stamp.date) (minuteText stamp.secondOfDay) stamp.date
      (stamp.secondOfDay / 3600) (stamp.secondOfDay / 60 % 60) := by
    have numeric := @Tells.numeric now stamp.date _ _ (by omega) (by omega)
      (isDigits_decimalWide 2 (stamp.secondOfDay / 3600))
      (isDigits_decimalWide 2 (stamp.secondOfDay / 60 % 60))
    rwa [digitsValue_decimalWide, digitsValue_decimalWide] at numeric
  have clock : stamp.localSecond - stamp.localSecond % 60 =
      stamp.date.clockTime (stamp.secondOfDay / 3600) (stamp.secondOfDay / 60 % 60) := by
    rw [Date.clockTime]
    unfold secondsPerDay at *
    omega
  rw [clock] at shown
  rw [printedTime, listedTime, tells.listedTime?_of_showsOnce writable offsets
    (Date.isCivil_ofDayNumber _) (by omega) (by omega) shown once, Option.getD_some]

theorem readRow?_plainRow_of_readRow? (found : readRow? reading line = some entry)
    (writable : entry.modified.date.IsWritable) :
    (complaint <:+: plainRow entry ↔
        "Permission".toList <:+ entry.owner.toList ∧ "denied".toList <+: entry.group.toList) ∧
      (¬ complaint <:+: plainRow entry → ∀ now,
        readRow? ⟨reading.zone, now⟩ (plainRow entry) =
          some { entry with modified := printedTime reading.zone now entry.modified }) := by
  obtain ⟨kept, layout, rfl, shows⟩ := RowLayout.exists_of_readRow? found
  have tabular := shows.tabular writable
  constructor
  · apply isInfix_plainRow_iff tabular
    intro inside
    simp only [isRejected, Bool.or_eq_false_iff] at kept
    exact occursIn_eq_false_iff.mp kept.1.1 (inside.trans shows.printedName_suffix.isInfix)
  · intro granted now
    have kept := shows.isRejected_plainRow kept writable granted
    rw [← text_tableLayout tabular] at kept ⊢
    exact (shows.tableLayout tabular now).readRow?_text kept

end Reading

/-- A row that is printed for an entry of a listing is read as that entry again, with the kind that
it had before any record was heeded and with the minute of its time, if the clock shows that once.
It is passed over only if its owner and its group happen to make up a complaint. -/
theorem readRow?_plainRow {reading : Reading} {response : String} {listing : Listing}
    {entry : Entry} {place : Nat} (offsets : reading.zone.WithinDay)
    (answered : read reading response = .ok listing)
    (listed : listing.entries[place]? = some entry)
    (writable : entry.modified.date.IsWritable) :
    row entry = plainRow entry ++ (if entry.kind.isDirectory then ['/'] else []) ∧
      ("Permission denied".toList <:+: plainRow entry ↔
        "Permission".toList <:+ entry.owner.toList ∧ "denied".toList <+: entry.group.toList) ∧
      ∃ unrefined, (listedRows reading response)[place]? = some unrefined ∧
        entry = { unrefined with kind := entry.kind } ∧
        (¬ "Permission denied".toList <:+: plainRow entry → ∀ now, ∃ modified,
          readRow? ⟨reading.zone, now⟩ (plainRow entry) = some { unrefined with modified } ∧
            ∀ instant, reading.zone.localSecond instant =
                entry.modified.localSecond - entry.modified.localSecond % 60 →
              reading.zone.ShowsOnce instant →
                modified = Timestamp.inZone reading.zone instant) := by
  rw [entries_of_read answered, getElem?_settleAll, Option.map_eq_some_iff] at listed
  obtain ⟨unrefined, place, settled⟩ := listed
  obtain ⟨kind, -, refined⟩ := applied_endsAs _ unrefined _
  rw [linkRecords, refined] at settled
  subst settled
  obtain ⟨line, -, found⟩ := List.mem_filterMap.mp (List.mem_of_getElem? place)
  obtain ⟨complains, again⟩ := readRow?_plainRow_of_readRow? found writable
  refine ⟨rfl, complains, unrefined, place, rfl, fun granted now => ?_⟩
  refine ⟨_, again granted now, fun instant shown once => ?_⟩
  exact printedTime_of_showsOnce offsets writable shown once now

/-- A link whose time was unreadable, so it has that of the reading, and whose owner is half a
complaint. -/
theorem readRow?_plainRow_half_complaint :
    let zone := Zone.withSummer (-18000) ⟨-14400, ⟨3, 2, 0⟩, 7200, ⟨11, 1, 0⟩, 7200⟩
    let reading : Reading := ⟨zone, Timestamp.inZone zone 1718454896 123456789⟩
    let later := Timestamp.inZone zone 1718540000
    let response := "/d\nlrwxrwxrwx x Permission root 7 soon noon a b -> /x\n"
      ++ Shell.separator ++ "\na b->D\n"
    let entry : Entry :=
      { name := "a b", kind := .linkToDirectory, permissions := "lrwxrwxrwx", size := 7
        owner := "Permission", group := "root", links := 1, modified := reading.now
        target := some "/x" }
    zone.WithinDay ∧
      ∃ listing, read reading response = .ok listing ∧ listing.entries[0]? = some entry ∧
        entry.modified.date.IsWritable ∧ ¬ "Permission denied".toList <:+: plainRow entry ∧
          readRow? ⟨zone, later⟩ (plainRow entry) = some { entry with
            kind := .linkToFile, modified := Timestamp.inZone zone 1718454840 } := by
  intro zone reading later response entry
  have offsets : zone.WithinDay := by decide
  have first : ((read reading response).toOption.bind (·.entries[0]?)) = some entry := by
    decide +kernel
  have row : (listedRows reading response)[0]? = some { entry with kind := .linkToFile } := by
    decide +kernel
  have writable : entry.modified.date.IsWritable := by decide
  obtain ⟨listing, answered, listed⟩ := Option.bind_eq_some_iff.mp first
  cases answer : read reading response with
  | error failure =>
      rw [answer] at answered
      cases answered
  | ok found =>
      rw [answer] at answered
      obtain rfl := Option.some.inj answered
      obtain ⟨-, complains, unrefined, same, -, again⟩ :=
        readRow?_plainRow offsets answer listed writable
      obtain rfl := Option.some.inj (row.symm.trans same)
      have granted : ¬ "Permission denied".toList <:+: plainRow entry := by
        rw [complains]
        decide
      obtain ⟨modified, read, told⟩ := again granted later
      have shown : zone.localSecond 1718454840 =
          entry.modified.localSecond - entry.modified.localSecond % 60 := by decide
      have once : zone.ShowsOnce 1718454840 := Zone.showsOnce_of_offsets (by decide)
      rw [told 1718454840 shown once] at read
      exact ⟨offsets, found, rfl, listed, writable, granted, read⟩

end DeviceBrowser.Listing
