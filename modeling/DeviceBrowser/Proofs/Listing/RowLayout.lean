import DeviceBrowser.Proofs.Listing.Row
import DeviceBrowser.Proofs.Text.Decimal

/-!
How a line is made up that is read as an entry.

The layout of a line has one part for each step in which the line is read, and the line is
all of its parts, one behind the other.  A part ends where a blank follows, so the next one
begins with that blank.  Nothing behind the last column is lost but one space.
-/

namespace DeviceBrowser.Listing

open DeviceBrowser.Text DeviceBrowser.Calendar

/-- No column goes on at the start of a text. -/
def EndsColumn (rest : List Char) : Prop :=
  ∀ c ∈ rest.head?, isBlank c = true

structure SpacedColumn where
  blanks : List Char
  column : List Char
  separated : blanks ≠ []
  allBlank : isAllBlank blanks = true
  isColumn : isColumn column = true

namespace SpacedColumn

def text (spaced : SpacedColumn) : List Char :=
  spaced.blanks ++ spaced.column

end SpacedColumn

inductive SizeLayout where
  | single (column : SpacedColumn) (plain : column.column.getLast? ≠ some ',')
  | device (major minor : SpacedColumn) (comma : major.column.getLast? = some ',')

namespace SizeLayout

def text : SizeLayout → List Char
  | .single column _ => column.text
  | .device major minor _ => major.text ++ minor.text

/-- The size itself.  A device has none, and neither has a column that is no number. -/
def number : SizeLayout → Nat
  | .single column _ => (readUnsigned? UInt64.size column.column).getD 0
  | .device _ _ _ => 0

theorem number_lt (layout : SizeLayout) : layout.number < UInt64.size := by
  cases layout with
  | single column plain => exact getD_readUnsigned?_lt (by decide) _
  | device major minor comma => exact (by decide : 0 < UInt64.size)

end SizeLayout

inductive DateLayout where
  | single (column : SpacedColumn) (nameless : monthNumber? column.column = none)
  | named (month day : SpacedColumn) (known : (monthNumber? month.column).isSome = true)

namespace DateLayout

def text : DateLayout → List Char
  | .single column _ => column.text
  | .named month day _ => month.text ++ day.text

def date : DateLayout → List Char
  | .single column _ => column.column
  | .named month day _ => month.column ++ ' ' :: day.column

end DateLayout

/-- What stands behind the last column.  One space there is no part of the name. -/
inductive Ending where
  | spaced (nameText : List Char)
  | unspaced (nameText : List Char)
      (begins : ∀ c ∈ nameText.head?, isBlank c = true ∧ c ≠ ' ')

namespace Ending

def nameText : Ending → List Char
  | .spaced nameText | .unspaced nameText _ => nameText

def text : Ending → List Char
  | .spaced nameText => ' ' :: nameText
  | .unspaced nameText _ => nameText

end Ending

/-- The parts of a line, from which nothing is left out. -/
structure RowLayout where
  indent : List Char
  permissions : List Char
  links : SpacedColumn
  owner : SpacedColumn
  group : SpacedColumn
  size : SizeLayout
  date : DateLayout
  time : SpacedColumn
  ending : Ending
  allBlank : isAllBlank indent = true
  isColumn : isColumn permissions = true

/-- A text is a name, or it is the name of a link, an arrow and a target.  The first arrow
counts. -/
def IsNameText (isLink : Bool) (text name : List Char) : Option (List Char) → Prop
  | none => text = name ∧ (isLink = true → firstIndex? linkArrow text = none)
  | some target =>
      isLink = true ∧ text = name ++ (linkArrow ++ target) ∧
        firstIndex? linkArrow text = some name.length

namespace RowLayout

def text (layout : RowLayout) : List Char :=
  layout.indent ++ (layout.permissions ++ (layout.links.text ++ (layout.owner.text ++
    (layout.group.text ++ (layout.size.text ++ (layout.date.text ++ (layout.time.text ++
      layout.ending.text)))))))

def columns (layout : RowLayout) : RowColumns where
  permissions := layout.permissions
  links := layout.links.column
  owner := layout.owner.column
  group := layout.group.column
  size := UInt64.ofNat layout.size.number
  date := layout.date.date
  time := layout.time.column
  nameText := layout.ending.nameText

structure Shows (reading : Reading) (layout : RowLayout) (entry : Entry) : Prop where
  shape : isPermissions layout.permissions = true
  permissions : layout.permissions = entry.permissions.toList
  kind : entry.kind = kindOf layout.permissions
  links : entry.links.toNat = (readUnsigned? UInt32.size layout.links.column).getD 1
  owner : layout.owner.column = entry.owner.toList
  group : layout.group.column = entry.group.toList
  size : entry.size.toNat = layout.size.number
  modified : entry.modified =
    listedTime reading.zone reading.now layout.date.date layout.time.column
  nameText : IsNameText entry.kind.isLink layout.ending.nameText entry.name.toList
    (entry.target.map String.toList)
  named : isOwnName entry.name.toList = false

end RowLayout

variable {reading : Reading} {entry : Entry} {line text rest : List Char}

namespace SpacedColumn

variable {column : List Char}

theorem endsColumn (spaced : SpacedColumn) (rest : List Char) :
    EndsColumn (spaced.text ++ rest) := by
  rw [text, List.append_assoc]
  exact isBlank_of_head? spaced.separated spaced.allBlank _

theorem nextColumn?_text (spaced : SpacedColumn) (ended : EndsColumn rest) :
    nextColumn? (spaced.text ++ rest) = some (spaced.column, rest) := by
  rw [text, List.append_assoc]
  exact nextColumn?_append spaced.allBlank spaced.isColumn ended

theorem exists_of_nextColumn? (start : EndsColumn text)
    (found : nextColumn? text = some (column, rest)) :
    ∃ spaced : SpacedColumn, spaced.column = column ∧ EndsColumn rest ∧
      text = spaced.text ++ rest := by
  obtain ⟨blanks, allBlank, isColumn, ended, rfl⟩ := Text.exists_of_nextColumn? found
  have separated : blanks ≠ [] := by
    rintro rfl
    cases column with
    | nil => simp [Text.isColumn] at isColumn
    | cons head tail =>
        have inked := inked_of_isColumn isColumn head List.mem_cons_self
        rw [start head rfl] at inked
        cases inked
  exact ⟨⟨blanks, column, separated, allBlank, isColumn⟩, rfl, ended,
    (List.append_assoc _ _ _).symm⟩

end SpacedColumn

namespace SizeLayout

variable {size : UInt64}

theorem endsColumn (layout : SizeLayout) (rest : List Char) :
    EndsColumn (layout.text ++ rest) := by
  cases layout with
  | single column plain => exact column.endsColumn rest
  | device major minor comma =>
      rw [text, List.append_assoc]
      exact major.endsColumn _

theorem readSize?_text (layout : SizeLayout) (ended : EndsColumn rest) :
    readSize? (layout.text ++ rest) = some (UInt64.ofNat layout.number, rest) := by
  apply readSize?_eq_some_iff.mpr
  cases layout with
  | single column plain => exact ⟨_, _, column.nextColumn?_text ended, .inr ⟨plain, rfl, rfl⟩⟩
  | device major minor comma =>
      rw [text, List.append_assoc]
      exact ⟨_, _, major.nextColumn?_text (minor.endsColumn rest),
        .inl ⟨comma, rfl, _, minor.nextColumn?_text ended⟩⟩

theorem exists_of_readSize? (start : EndsColumn text)
    (found : readSize? text = some (size, rest)) :
    ∃ layout : SizeLayout, UInt64.ofNat layout.number = size ∧ EndsColumn rest ∧
      text = layout.text ++ rest := by
  obtain ⟨_, after, first, further⟩ := readSize?_eq_some_iff.mp found
  obtain ⟨head, rfl, ended, rfl⟩ := SpacedColumn.exists_of_nextColumn? start first
  rcases further with ⟨comma, rfl, _, second⟩ | ⟨plain, rfl, rfl⟩
  · obtain ⟨minor, rfl, minorEnded, rfl⟩ := SpacedColumn.exists_of_nextColumn? ended second
    exact ⟨.device head minor comma, rfl, minorEnded, (List.append_assoc _ _ _).symm⟩
  · exact ⟨.single head plain, rfl, ended, rfl⟩

end SizeLayout

namespace DateLayout

variable {date : List Char}

theorem endsColumn (layout : DateLayout) (rest : List Char) :
    EndsColumn (layout.text ++ rest) := by
  cases layout with
  | single column nameless => exact column.endsColumn rest
  | named month day known =>
      rw [text, List.append_assoc]
      exact month.endsColumn _

theorem readDate?_text (layout : DateLayout) (ended : EndsColumn rest) :
    readDate? (layout.text ++ rest) = some (layout.date, rest) := by
  apply readDate?_eq_some_iff.mpr
  cases layout with
  | single column nameless =>
      exact ⟨_, _, column.nextColumn?_text ended, .inr ⟨nameless, rfl, rfl⟩⟩
  | named month day known =>
      rw [text, List.append_assoc]
      exact ⟨_, _, month.nextColumn?_text (day.endsColumn rest),
        .inl ⟨known, _, day.nextColumn?_text ended, rfl⟩⟩

theorem exists_of_readDate? (start : EndsColumn text)
    (found : readDate? text = some (date, rest)) :
    ∃ layout : DateLayout, layout.date = date ∧ EndsColumn rest ∧
      text = layout.text ++ rest := by
  obtain ⟨_, after, first, further⟩ := readDate?_eq_some_iff.mp found
  obtain ⟨head, rfl, ended, rfl⟩ := SpacedColumn.exists_of_nextColumn? start first
  rcases further with ⟨known, _, second, rfl⟩ | ⟨nameless, rfl, rfl⟩
  · obtain ⟨day, rfl, dayEnded, rfl⟩ := SpacedColumn.exists_of_nextColumn? ended second
    exact ⟨.named head day known, rfl, dayEnded, (List.append_assoc _ _ _).symm⟩
  · exact ⟨.single head nameless, rfl, ended, rfl⟩

end DateLayout

namespace Ending

theorem endsColumn (ending : Ending) : EndsColumn ending.text := by
  intro c first
  cases ending with
  | spaced nameText =>
      obtain rfl : ' ' = c := by simpa [text] using first
      rfl
  | unspaced nameText begins => exact (begins c first).1

theorem dropSpace_text (ending : Ending) : dropSpace ending.text = ending.nameText := by
  cases ending with
  | spaced nameText => rfl
  | unspaced nameText begins =>
      cases nameText with
      | nil => rfl
      | cons head tail => simp [text, Ending.nameText, dropSpace, (begins head rfl).2]

theorem exists_of_endsColumn (ended : EndsColumn text) : ∃ ending : Ending, ending.text = text := by
  by_cases space : text.head? = some ' '
  · cases text with
    | nil => cases space
    | cons c nameText =>
        obtain rfl := Option.some.inj space
        exact ⟨.spaced nameText, rfl⟩
  · refine ⟨.unspaced text fun c first => ⟨ended c first, ?_⟩, rfl⟩
    rintro rfl
    exact space first

end Ending

namespace RowLayout

theorem readColumns?_text (layout : RowLayout) :
    readColumns? layout.text = some layout.columns := by
  have first := nextColumn?_append layout.allBlank layout.isColumn
    (layout.links.endsColumn (layout.owner.text ++ (layout.group.text ++ (layout.size.text ++
      (layout.date.text ++ (layout.time.text ++ layout.ending.text))))))
  rw [readColumns?, text, first]
  simp only [Option.bind_eq_bind, Option.bind_some,
    layout.links.nextColumn?_text (layout.owner.endsColumn _),
    layout.owner.nextColumn?_text (layout.group.endsColumn _),
    layout.group.nextColumn?_text (layout.size.endsColumn _),
    layout.size.readSize?_text (layout.date.endsColumn _),
    layout.date.readDate?_text (layout.time.endsColumn _),
    layout.time.nextColumn?_text layout.ending.endsColumn, layout.ending.dropSpace_text]
  rfl

theorem exists_of_readColumns? {columns : RowColumns}
    (found : readColumns? line = some columns) :
    ∃ layout : RowLayout, layout.text = line ∧ layout.columns = columns := by
  simp only [readColumns?, Option.bind_eq_bind, Option.bind_eq_some_iff, Prod.exists,
    Option.some.injEq] at found
  obtain ⟨permissions, rest₁, first, _, rest₂, second, _, rest₃, third, _, rest₄, fourth,
    _, rest₅, sized, _, rest₆, dated, _, rest₇, timed, rfl⟩ := found
  obtain ⟨indent, allBlank, isColumn, ended₁, rfl⟩ := exists_of_nextColumn? first
  obtain ⟨links, rfl, ended₂, rfl⟩ := SpacedColumn.exists_of_nextColumn? ended₁ second
  obtain ⟨owner, rfl, ended₃, rfl⟩ := SpacedColumn.exists_of_nextColumn? ended₂ third
  obtain ⟨group, rfl, ended₄, rfl⟩ := SpacedColumn.exists_of_nextColumn? ended₃ fourth
  obtain ⟨size, rfl, ended₅, rfl⟩ := SizeLayout.exists_of_readSize? ended₄ sized
  obtain ⟨date, rfl, ended₆, rfl⟩ := DateLayout.exists_of_readDate? ended₅ dated
  obtain ⟨time, rfl, ended₇, rfl⟩ := SpacedColumn.exists_of_nextColumn? ended₆ timed
  obtain ⟨ending, rfl⟩ := Ending.exists_of_endsColumn ended₇
  refine ⟨⟨indent, permissions, links, owner, group, size, date, time, ending, allBlank,
    isColumn⟩, rfl, ?_⟩
  rw [columns, ending.dropSpace_text]

end RowLayout

theorem readName_eq_iff {isLink : Bool} {name : List Char} {target : Option (List Char)} :
    readName isLink text = (name, target) ↔ IsNameText isLink text name target := by
  cases isLink with
  | false => cases target <;> simp [readName, IsNameText]
  | true =>
      cases found : firstIndex? linkArrow text with
      | none => cases target <;> simp [readName, splitFirst?, IsNameText, found]
      | some index =>
          have whole := eq_append_of_firstIndex? found
          have within := (firstIndex?_eq_some_iff.mp found).1
          simp only [readName, splitFirst?, found, Option.map_some, Prod.mk.injEq]
          cases target with
          | none => simp [IsNameText, found]
          | some target =>
              simp only [IsNameText, Option.some.injEq, true_and, found]
              constructor
              · rintro ⟨rfl, rfl⟩
                exact ⟨whole, by rw [List.length_take, Nat.min_eq_left within]⟩
              · rintro ⟨rfl, rfl⟩
                rw [List.take_left, ← List.drop_drop, List.drop_left, List.drop_left]
                exact ⟨rfl, rfl⟩

namespace RowLayout

theorem judged?_columns_iff {layout : RowLayout} :
    layout.columns.judged? reading = some entry ↔ layout.Shows reading entry := by
  rw [RowColumns.judged?_eq_some_iff]
  constructor
  · rintro ⟨shape, name, target, split, named, rfl⟩
    exact
      { shape
        permissions := String.toList_ofList.symm
        kind := rfl
        links := UInt32.toNat_ofNat_of_lt' (getD_readUnsigned?_lt (by decide) _)
        owner := String.toList_ofList.symm
        group := String.toList_ofList.symm
        size := UInt64.toNat_ofNat_of_lt' layout.size.number_lt
        modified := rfl
        nameText := by simpa [columns, Function.comp_def] using readName_eq_iff.mp split
        named := by rwa [String.toList_ofList] }
  · intro shows
    have split := readName_eq_iff.mpr shows.nameText
    rw [shows.kind] at split
    refine ⟨shows.shape, _, _, split, shows.named, ?_⟩
    dsimp only [columns]
    rw [← shows.kind, shows.permissions, shows.owner, shows.group, ← shows.links, ← shows.size,
      ← shows.modified, UInt32.ofNat_toNat, UInt64.ofNat_toNat, Option.map_map]
    simp [Function.comp_def]

theorem exists_of_readRow? (found : readRow? reading line = some entry) :
    isRejected line = false ∧ ∃ layout : RowLayout, layout.text = line ∧
      layout.Shows reading entry := by
  rw [readRow?_eq] at found
  split at found
  next => cases found
  next kept =>
    obtain ⟨columns, read, judged⟩ := Option.bind_eq_some_iff.mp found
    obtain ⟨layout, laidOut, rfl⟩ := exists_of_readColumns? read
    exact ⟨Bool.eq_false_iff.mpr kept, layout, laidOut, judged?_columns_iff.mp judged⟩

theorem Shows.readRow?_text {layout : RowLayout} (shows : layout.Shows reading entry)
    (kept : isRejected layout.text = false) : readRow? reading layout.text = some entry := by
  rw [readRow?_eq, kept, layout.readColumns?_text]
  exact judged?_columns_iff.mpr shows

end RowLayout

/-- A line is read as an entry exactly if it is no complaint and all of its parts, put one
behind the other, are those of the entry. -/
theorem readRow?_eq_some_iff :
    readRow? reading line = some entry ↔
      isRejected line = false ∧
        ∃ layout : RowLayout, layout.text = line ∧ layout.Shows reading entry := by
  constructor
  · exact RowLayout.exists_of_readRow?
  · rintro ⟨kept, layout, rfl, shows⟩
    exact shows.readRow?_text kept

/-- A tab is no space, and so it stays with the name. -/
example :
    (readRow? ⟨Zone.utc, ⟨0, 0, 0⟩⟩ "crw-rw-rw-\u3000x me us 1, z Jan 5 noon\tk".toList).map
        (·.name) =
      some "\tk" := by
  decide +kernel

end DeviceBrowser.Listing
