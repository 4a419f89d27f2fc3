import DeviceBrowser.Adb.Attached
import DeviceBrowser.Proofs.Text.Lines

/-!
The list of attached devices, as adb prints it and as it is read.

`Lists` says which devices a text lists: those of its rows, among lines that are about something
else.  A row has a serial, a state and fields, some of which have labels; whatever the values
behind the labels are and in whatever order the fields stand, the devices that are read are those
that are listed.
-/

namespace DeviceBrowser.Adb.Attached

open Text

inductive Label where
  | model
  | product
  | usb
  | transportId
  deriving DecidableEq

def Label.title : Label → String
  | .model => "model:"
  | .product => "product:"
  | .usb => "usb:"
  | .transportId => "transport_id:"

def Label.text (label : Label) : List Char :=
  label.title.toList

structure Description where
  serial : List Char
  state : List Char
  value? : Label → Option (List Char)

namespace Description

/-- The device of a description.  Only its place on the bus keeps the label. -/
def attached (description : Description) : Attached where
  serial := String.ofList description.serial
  state := String.ofList description.state
  model := (description.value? .model).map String.ofList
  product := (description.value? .product).map String.ofList
  usb := (description.value? .usb).map fun place => String.ofList (Label.usb.text ++ place)
  transportId := (description.value? .transportId).map String.ofList
  name := String.ofList ((description.value? .model).getD description.serial)

/-- A serial that cannot be taken for the start of another kind of line, and a state. -/
structure IsPrintable (description : Description) : Prop where
  serial : isColumn description.serial = true
  state : isColumn description.state = true
  unstarred : description.serial.head? ≠ some '*'
  noMessage : description.serial ≠ "adb".toList
  noHeading : description.serial ≠ "List".toList

end Description

inductive Field where
  | labelled (label : Label) (value : List Char)
  | other (text : List Char)

namespace Field

def text : Field → List Char
  | .labelled label value => label.text ++ value
  | .other text => text

def valueOf? (label : Label) : Field → Option (List Char)
  | .labelled own value => if own = label then some value else none
  | .other _ => none

/-- Fields have no blanks in them, and only those with a label begin with one. -/
def IsPrintable : Field → Prop
  | .labelled _ value => ∀ c ∈ value, isBlank c = false
  | .other text => isColumn text = true ∧ ∀ label : Label, ¬ label.text <+: text

end Field

def IsGap (blanks : List Char) : Prop :=
  blanks ≠ [] ∧ isAllBlank blanks = true ∧ '\n' ∉ blanks

instance (blanks : List Char) : Decidable (IsGap blanks) :=
  inferInstanceAs (Decidable (_ ∧ _ ∧ _))

/-- What stands behind the serial of a row: the state and the fields, with the blanks before each
of them. -/
def behindSerial (gap state : List Char) (fields : List (List Char × Field)) :
    List (List Char × List Char) :=
  (gap, state) :: fields.map fun entry => (entry.1, entry.2.text)

/-- Whether a line is a row for a description.  Its values stand behind their labels once each, in
any order and among any other fields. -/
inductive Prints (description : Description) : List Char → Prop
  | row {gap : List Char} {fields : List (List Char × Field)}
      (printable : description.IsPrintable) (separated : IsGap gap)
      (spaced : ∀ entry ∈ fields, IsGap entry.1 ∧ entry.2.IsPrintable)
      (values : ∀ label,
        fields.filterMap (·.2.valueOf? label) = (description.value? label).toList) :
      Prints description
        (description.serial ++ spacedText (behindSerial gap description.state fields))

/-- The lines that are about something else than a device. -/
inductive Chatter : List Char → Prop
  | blank {line : List Char} (blank : isAllBlank line = true) : Chatter line
  | heading (rest : List Char) : Chatter ("List of devices".toList ++ rest)
  | daemon (rest : List Char) : Chatter ('*' :: rest)
  | message (rest : List Char) : Chatter ("adb ".toList ++ rest)

/-- Which devices a text lists, in which order.  The last line may lack its end. -/
inductive Lists : List Char → List Description → Prop
  | nothing : Lists [] []
  | lastRow {line : List Char} {description : Description} (prints : Prints description line) :
      Lists line [description]
  | lastChatter {line : List Char} (chatter : Chatter line) (feedless : '\n' ∉ line) :
      Lists line []
  | row {line rest : List Char} {description : Description} {others : List Description}
      (prints : Prints description line) (ending : LineEnd) (lists : Lists rest others) :
      Lists (line ++ (ending.text ++ rest)) (description :: others)
  | chatter {line rest : List Char} {others : List Description} (chatter : Chatter line)
      (feedless : '\n' ∉ line) (ending : LineEnd) (lists : Lists rest others) :
      Lists (line ++ (ending.text ++ rest)) others

section Fields

variable {description : Description} {field : Field} {fields : List Field} {own label : Label}
  {text : List Char}

theorem Label.eq_of_begins {value : List Char} (begins : own.text <+: label.text ++ value) :
    own = label := by
  cases own <;> cases label <;> first
    | rfl
    | simp [Label.text, Label.title] at begins

theorem labelled?_eq_none (apart : ¬ own.text <+: text) : labelled? own.title text = none := by
  apply if_neg
  rwa [List.isPrefixOf_iff_prefix]

theorem labelled?_text (own label : Label) (value : List Char) :
    labelled? own.title (label.text ++ value) =
      if own = label then some (String.ofList value) else none := by
  split
  next same =>
    subst same
    have begins : own.title.toList.isPrefixOf (own.text ++ value) = true :=
      List.isPrefixOf_iff_prefix.mpr (List.prefix_append _ _)
    rw [labelled?, if_pos begins]
    exact congrArg (some ∘ String.ofList) List.drop_left
  next different => exact labelled?_eq_none fun begins => different (Label.eq_of_begins begins)

namespace Description

def withField (description : Description) : Field → Description
  | .labelled label value =>
      { description with value? := Function.update description.value? label (some value) }
  | .other _ => description

/-- A device as it is while its row is being read, when it has no name yet but its serial. -/
def unnamed (description : Description) : Attached :=
  { description.attached with name := String.ofList description.serial }

theorem withField_unnamed (description : Description) (printable : field.IsPrintable) :
    description.unnamed.withField field.text = (description.withField field).unnamed := by
  cases field with
  | other text =>
      have silent : ∀ own : Label, labelled? own.title text = none :=
        fun own => labelled?_eq_none (printable.2 own)
      have model := silent .model
      have product := silent .product
      have usb := silent .usb
      have transportId := silent .transportId
      simp only [Label.title] at model product usb transportId
      simp only [Attached.withField, Field.text, model, product, usb, transportId,
        Option.isSome_none, Bool.false_eq_true, if_false, withField]
  | labelled label value =>
      have read := fun own => labelled?_text own label value
      have model := read .model
      have product := read .product
      have usb := read .usb
      have transportId := read .transportId
      simp only [Label.title] at model product usb transportId
      simp only [Attached.withField, Field.text, model, product, usb, transportId]
      cases label <;> simp [unnamed, attached, withField, Function.update_of_ne]

theorem value?_foldl (fields : List Field) (description : Description) (label : Label) :
    (fields.foldl withField description).value? label =
      (fields.filterMap (·.valueOf? label)).getLast?.or (description.value? label) := by
  induction fields generalizing description with
  | nil => rfl
  | cons field fields inductionHypothesis =>
      rw [List.foldl_cons, inductionHypothesis]
      cases field with
      | other text => rfl
      | labelled own value =>
          by_cases same : own = label
          · subst same
            simp [withField, Field.valueOf?, List.getLast?_cons]
          · simp [withField, Field.valueOf?, same, Function.update_of_ne (Ne.symm same)]

theorem foldl_unnamed (printable : ∀ field ∈ fields, field.IsPrintable)
    (description : Description) :
    (fields.map Field.text).foldl Attached.withField description.unnamed =
      (fields.foldl withField description).unnamed := by
  induction fields generalizing description with
  | nil => rfl
  | cons field fields inductionHypothesis =>
      rw [List.forall_mem_cons] at printable
      rw [List.map_cons, List.foldl_cons, List.foldl_cons, withField_unnamed _ printable.1,
        inductionHypothesis printable.2]

theorem foldl_withField (fields : List Field) (description : Description) :
    (fields.foldl withField description).serial = description.serial ∧
      (fields.foldl withField description).state = description.state := by
  induction fields generalizing description with
  | nil => exact ⟨rfl, rfl⟩
  | cons field fields inductionHypothesis =>
      rw [List.foldl_cons]
      obtain ⟨serial, state⟩ := inductionHypothesis (description.withField field)
      rw [serial, state]
      cases field <;> exact ⟨rfl, rfl⟩

theorem foldl_withField_eq (values : ∀ label,
      fields.filterMap (·.valueOf? label) = (description.value? label).toList) :
    fields.foldl withField ⟨description.serial, description.state, fun _ => none⟩ =
      description := by
  have found : ∀ label, (fields.foldl withField
      ⟨description.serial, description.state, fun _ => none⟩).value? label =
        description.value? label := by
    intro label
    rw [value?_foldl, values, Option.or_none]
    cases description.value? label <;> rfl
  obtain ⟨serial, state⟩ :=
    foldl_withField fields ⟨description.serial, description.state, fun _ => none⟩
  generalize fields.foldl withField _ = read at *
  cases read
  cases description
  simp only [Description.mk.injEq] at *
  exact ⟨serial, state, funext found⟩

theorem named_unnamed (description : Description) :
    { description.unnamed with
      name := description.unnamed.model.getD (String.ofList description.serial) } =
      description.attached := by
  unfold unnamed attached
  cases description.value? .model <;> rfl

end Description

end Fields

section Rows

variable {description : Description} {descriptions : List Description} {line text : List Char}

theorem Field.isColumn_text {field : Field} (printable : field.IsPrintable) :
    isColumn field.text = true := by
  cases field with
  | other text => exact printable.1
  | labelled label value =>
      have shape : isColumn label.text = true := by cases label <;> decide
      simp only [isColumn, Bool.and_eq_true, Bool.not_eq_true', List.isEmpty_eq_false_iff] at shape
      simp only [isColumn, Field.text, List.all_append, Bool.and_eq_true, Bool.not_eq_true',
        List.isEmpty_eq_false_iff, ne_eq, List.append_eq_nil_iff, not_and]
      exact ⟨fun empty => absurd empty shape.1, shape.2,
        List.all_eq_true.mpr fun c present => by simp [printable c present]⟩

variable {gap : List Char} {fields : List (List Char × Field)}

theorem areSpaced_behindSerial (printable : description.IsPrintable) (separated : IsGap gap)
    (spaced : ∀ entry ∈ fields, IsGap entry.1 ∧ entry.2.IsPrintable) :
    AreSpaced (behindSerial gap description.state fields) := by
  intro entry listed
  rcases List.mem_cons.mp listed with rfl | field
  · exact ⟨separated.1, separated.2.1, printable.state⟩
  · obtain ⟨spacedField, present, rfl⟩ := List.mem_map.mp field
    obtain ⟨apart, fieldPrintable⟩ := spaced spacedField present
    exact ⟨apart.1, apart.2.1, Field.isColumn_text fieldPrintable⟩

theorem Prints.read? (prints : Prints description line) :
    Attached.read? line = some description.attached := by
  obtain @⟨gap, fields, printable, separated, spaced, values⟩ := prints
  have fieldsPrintable : ∀ field ∈ fields.map Prod.snd, field.IsPrintable := by
    intro field listed
    obtain ⟨entry, present, rfl⟩ := List.mem_map.mp listed
    exact (spaced entry present).2
  have columns : (behindSerial gap description.state fields).map Prod.snd =
      description.state :: (fields.map Prod.snd).map Field.text := by
    simp [behindSerial, Function.comp_def]
  have cut := words_append_spacedText printable.serial
    (areSpaced_behindSerial printable separated spaced)
  have whole := @Description.foldl_withField_eq _ (fields.map Prod.snd)
    (by simpa [List.filterMap_map, Function.comp_def] using values)
  have bare : (⟨description.serial, description.state, fun _ => none⟩ : Description).unnamed =
      ⟨String.ofList description.serial, String.ofList description.state, none, none, none, none,
        String.ofList description.serial⟩ := rfl
  have read := Description.foldl_unnamed fieldsPrintable
    ⟨description.serial, description.state, fun _ => none⟩
  rw [whole, bare] at read
  rw [Attached.read?, cut, columns]
  dsimp only
  rw [read, description.named_unnamed]

theorem Prints.feedless (prints : Prints description line) : '\n' ∉ line := by
  obtain @⟨gap, fields, printable, separated, spaced, values⟩ := prints
  have inked : ∀ column : List Char, isColumn column = true → '\n' ∉ column :=
    fun column shape present => absurd (inked_of_isColumn shape _ present) (by decide)
  intro present
  rcases List.mem_append.mp present with serial | behind
  · exact inked _ printable.serial serial
  · obtain ⟨entry, listed, within⟩ := List.mem_flatMap.mp behind
    have shape := (areSpaced_behindSerial printable separated spaced entry listed).2.2
    rcases List.mem_append.mp within with blank | column
    · rcases List.mem_cons.mp listed with rfl | field
      · exact separated.2.2 blank
      · obtain ⟨spacedField, member, rfl⟩ := List.mem_map.mp field
        exact (spaced spacedField member).1.2.2 blank
    · exact inked _ shape column

theorem Prints.trimEndWhere_eq (prints : Prints description line) :
    trimEndWhere (· == '\r') line = line := by
  obtain @⟨gap, fields, printable, separated, spaced, values⟩ := prints
  apply trimEndWhere_eq_self
  intro c last
  have inked := not_isBlank_of_getLast?_spacedText printable.serial
    (areSpaced_behindSerial printable separated spaced) c last
  rw [beq_eq_false_iff_ne]
  rintro rfl
  exact absurd inked (by decide)

theorem Prints.not_isChatter (prints : Prints description line) : isChatter line = false := by
  obtain @⟨gap, fields, printable, separated, spaced, values⟩ := prints
  have inked := inked_of_isColumn printable.serial
  have ended := (areSpaced_behindSerial printable separated spaced).isBlank_of_head?
  -- What a line begins with up to a blank is the serial of a row.
  have apart : ∀ title more : List Char, isColumn title = true → description.serial ≠ title →
      ((title ++ ' ' :: more).isPrefixOf (description.serial ++
        spacedText (behindSerial gap description.state fields))) = false := by
    intro title more shape different
    rw [Bool.eq_false_iff, ne_eq, List.isPrefixOf_iff_prefix]
    intro begins
    exact different
      (eq_of_column_begins (inked_of_isColumn shape) rfl inked ended begins).1.symm
  have heading := apart "List".toList "of devices".toList (by decide) printable.noHeading
  have message := apart "adb".toList [] (by decide) printable.noMessage
  have unstarred := printable.unstarred
  have shape := printable.serial
  cases serial : description.serial with
  | nil => simp [serial, isColumn] at shape
  | cons first rest =>
      rw [serial] at heading message inked unstarred
      have inkedFirst := inked first List.mem_cons_self
      have star : (first == '*') = false := by simpa using unstarred
      unfold isChatter
      rw [Bool.or_eq_false_iff, Bool.or_eq_false_iff, Bool.or_eq_false_iff]
      exact ⟨⟨⟨by simp [isAllBlank, inkedFirst], heading⟩, by simpa using star⟩, message⟩

theorem isAllBlank_trimEndWhere (drop : Char → Bool) (blank : isAllBlank line = true) :
    isAllBlank (trimEndWhere drop line) = true := by
  rw [isAllBlank, List.all_eq_true] at blank ⊢
  exact fun c present => blank c ((List.rdropWhile_prefix drop line).subset present)

theorem Chatter.isChatter (chatter : Chatter line) :
    isChatter (trimEndWhere (· == '\r') line) = true := by
  have begins : ∀ (start rest : List Char) (last : Char), start.getLast? = some last →
      last ≠ '\r' → start <+: trimEndWhere (· == '\r') (start ++ rest) := by
    intro start rest last ends different
    refine prefix_trimEndWhere ?_ (List.prefix_append start rest)
    rintro c ending
    obtain rfl : last = c := Option.some.inj (ends.symm.trans ending)
    exact beq_eq_false_iff_ne.mpr different
  unfold Attached.isChatter
  cases chatter with
  | blank blank => simp only [isAllBlank_trimEndWhere _ blank, Bool.true_or]
  | heading rest =>
      have heading := begins "List of devices".toList rest 's' (by decide) (by decide)
      simp only [List.isPrefixOf_iff_prefix.mpr heading, Bool.or_true, Bool.true_or]
  | daemon rest =>
      obtain ⟨more, whole⟩ := begins ['*'] rest '*' rfl (by decide)
      rw [List.singleton_append, List.singleton_append] at whole
      simp [← whole]
  | message rest =>
      have message := begins "adb ".toList rest ' ' (by decide) (by decide)
      simp only [List.isPrefixOf_iff_prefix.mpr message, Bool.or_true]

def readLine? (line : List Char) : Option Attached :=
  if isChatter line then none else Attached.read? line

theorem readAll_eq (text : String) :
    readAll text =
      ((lines text.toList).map (trimEndWhere (· == '\r'))).filterMap readLine? := by
  unfold readAll
  rw [List.filterMap_filter]
  congr 1
  funext line
  unfold readLine?
  cases isChatter line <;> rfl

theorem readAll_line (feedless : '\n' ∉ line) :
    readAll (String.ofList line) = (readLine? (trimEndWhere (· == '\r') line)).toList := by
  rw [readAll_eq, String.toList_ofList, lines_of_feedless feedless]
  cases line with
  | nil => rfl
  | cons head tail => rfl

theorem readAll_append (feedless : '\n' ∉ line) (ending : LineEnd) (rest : List Char) :
    readAll (String.ofList (line ++ (ending.text ++ rest))) =
      readAll (String.ofList line) ++ readAll (String.ofList rest) := by
  rw [readAll_line feedless, readAll_eq, readAll_eq, String.toList_ofList, String.toList_ofList,
    map_lines_append feedless]
  cases read : readLine? (trimEndWhere (· == '\r') line) with
  | none => rw [List.filterMap_cons_none read, Option.toList_none, List.nil_append]
  | some device => rw [List.filterMap_cons_some read, Option.toList_some, List.singleton_append]

theorem Prints.readAll (prints : Prints description line) :
    readAll (String.ofList line) = [description.attached] := by
  rw [readAll_line prints.feedless, prints.trimEndWhere_eq, readLine?, prints.not_isChatter,
    prints.read?]
  rfl

theorem Chatter.readAll (chatter : Chatter line) (feedless : '\n' ∉ line) :
    readAll (String.ofList line) = [] := by
  rw [readAll_line feedless, readLine?, if_pos chatter.isChatter]
  rfl

/-- The devices that are read are those that are listed. -/
theorem readAll_of_lists (lists : Lists text descriptions) :
    readAll (String.ofList text) = descriptions.map Description.attached := by
  induction lists with
  | nothing => rfl
  | lastRow prints => exact prints.readAll
  | lastChatter chatter feedless => exact chatter.readAll feedless
  | row prints ending lists inductionHypothesis =>
      rw [readAll_append prints.feedless, prints.readAll, inductionHypothesis, List.map_cons,
        List.singleton_append]
  | chatter chatter feedless ending lists inductionHypothesis =>
      rw [readAll_append feedless, chatter.readAll feedless, inductionHypothesis,
        List.nil_append]

end Rows

/-- The serials begin as other lines do, one model looks like a place on the bus, and that place has
no name. -/
theorem readAll_of_lists_misleading :
    let phone : Description := ⟨"adbd".toList, "device".toList, fun
      | .model => some "usb:1".toList
      | .product => none
      | .usb => some []
      | .transportId => some "3".toList⟩
    let tablet : Description := ⟨"Listing".toList, "offline".toList, fun _ => none⟩
    let text := "* daemon started".toList ++ (LineEnd.returnFeed.text
      ++ ("List of devices attached".toList ++ (LineEnd.feed.text
      ++ ("adbd\tdevice  transport_id:3\u3000model:usb:1 device:a34x usb:".toList
        ++ (LineEnd.returnFeed.text
      ++ (" \t".toList ++ (LineEnd.returnFeed.text
      ++ ("adb server is out of date".toList ++ (LineEnd.feed.text
      ++ "Listing offline".toList)))))))))
    Lists text [phone, tablet] ∧
      readAll (String.ofList text) = [phone.attached, tablet.attached] := by
  intro phone tablet text
  have phoneRow : Prints phone
      "adbd\tdevice  transport_id:3\u3000model:usb:1 device:a34x usb:".toList := by
    let fields : List (List Char × Field) :=
      [([' ', ' '], .labelled .transportId "3".toList),
        (['\u3000'], .labelled .model "usb:1".toList), ([' '], .other "device:a34x".toList),
        ([' '], .labelled .usb [])]
    have labelled : ∀ label value, isColumn value = true →
        (Field.labelled label value).IsPrintable := fun _ _ shape => inked_of_isColumn shape
    have empty : (Field.labelled .usb []).IsPrintable := List.forall_mem_nil _
    have unlabelled : (Field.other "device:a34x".toList).IsPrintable :=
      ⟨by decide, by intro label; cases label <;> decide⟩
    have spaced : ∀ entry ∈ fields, IsGap entry.1 ∧ entry.2.IsPrintable := by
      simp only [fields, List.forall_mem_cons]
      exact ⟨⟨by decide, labelled _ _ (by decide)⟩, ⟨by decide, labelled _ _ (by decide)⟩,
        ⟨by decide, unlabelled⟩, ⟨by decide, empty⟩, by simp⟩
    exact @Prints.row _ ['\t'] fields ⟨by decide, by decide, by decide, by decide, by decide⟩
      (by decide) spaced (by intro label; cases label <;> rfl)
  have tabletRow : Prints tablet "Listing offline".toList :=
    @Prints.row _ [' '] [] ⟨by decide, by decide, by decide, by decide, by decide⟩
      (by decide) (by simp) (fun _ => rfl)
  have lists : Lists text [phone, tablet] := by
    refine .chatter (.daemon " daemon started".toList) (by decide) .returnFeed ?_
    refine .chatter (.heading " attached".toList) (by decide) .feed ?_
    refine .row phoneRow .returnFeed ?_
    refine .chatter (.blank (by decide)) (by decide) .returnFeed ?_
    refine .chatter (.message "server is out of date".toList) (by decide) .feed ?_
    exact .lastRow tabletRow
  exact ⟨lists, readAll_of_lists lists⟩

end DeviceBrowser.Adb.Attached
