import DeviceBrowser.Proofs.Listing.LinkRecord

/-!
The laws of records.

What lines of records do to entries depends only on which kind they give to each name last.  So
lines may be applied all at once or in parts, once or twice, and lines for different names in
either order; and no entry is changed but in its kind.
-/

namespace DeviceBrowser.Listing

open DeviceBrowser.Text

variable {entries : List Entry} {lines : List (List Char)} {line : List Char} {name : String}
  {kind : EntryKind}

namespace LinkRecord

/-- Whether a line gives a kind to links of a name.  It is the name, an arrow and a class letter,
perhaps with blanks behind it. -/
def Gives (line : List Char) (name : String) (kind : EntryKind) : Prop :=
  name ≠ "" ∧ ∃ letter blanks, (letter, kind) ∈ classes ∧ isAllBlank blanks = true ∧
    line = name.toList ++ (Shell.arrow.toList ++ letter :: blanks)

theorem read?_append_blanks {blanks : List Char} (line : List Char)
    (blank : isAllBlank blanks = true) : read? (line ++ blanks) = read? line := by
  induction blanks using List.reverseRecOn with
  | nil => rw [List.append_nil]
  | append_singleton blanks c inductionHypothesis =>
      simp only [isAllBlank, List.all_append, Bool.and_eq_true, List.all_cons] at blank
      rw [← List.append_assoc, read?_concat _ blank.2.1, inductionHypothesis blank.1]

/-- A line is read as a record just if it is its text, perhaps with blanks behind it. -/
theorem read?_eq_some_iff {record : LinkRecord} :
    read? line = some record ↔
      record.name ≠ [] ∧ isBlank record.letter = false ∧
        ∃ blanks, isAllBlank blanks = true ∧ line = record.text ++ blanks := by
  constructor
  · intro found
    unfold read? at found
    split at found
    next => cases found
    next name letterText divided =>
      split at found
      next letter trimmed =>
        simp only [Option.ite_none_left_eq_some, List.isEmpty_iff, Option.some.injEq] at found
        obtain ⟨named, rfl⟩ := found
        have trimmed : letterText.rdropWhile isBlank = [letter] := trimmed
        have inked := List.rdropWhile_last_not isBlank letterText (by simp [trimmed])
        have letterFirst : letterText = letter :: letterText.rtakeWhile isBlank := by
          conv => lhs; rw [← List.rdropWhile_append_rtakeWhile (p := isBlank) (l := letterText)]
          rw [trimmed, List.singleton_append]
        refine ⟨named, by simpa [trimmed] using inked, letterText.rtakeWhile isBlank, ?_, ?_⟩
        · exact List.all_eq_true.mpr fun c present => List.mem_rtakeWhile_imp present
        · rw [eq_append_of_splitLast? divided]
          conv => lhs; rw [letterFirst]
          simp [text]
      next => cases found
  · rintro ⟨named, inked, blanks, blank, rfl⟩
    rw [read?_append_blanks _ blank, read?_text named inked]

def given? (line : List Char) (name : String) : Option EntryKind :=
  (read? line).bind fun record =>
    if name = String.ofList record.name then kind? record.letter else none

theorem given?_eq_some_iff : given? line name = some kind ↔ Gives line name kind := by
  simp only [given?, Option.bind_eq_some_iff, Option.ite_none_right_eq_some]
  constructor
  · rintro ⟨⟨letters, letter⟩, read, rfl, known⟩
    obtain ⟨named, -, blanks, blank, rfl⟩ := read?_eq_some_iff.mp read
    refine ⟨by simpa using named, letter, blanks, mem_classes_iff.mpr known, blank, ?_⟩
    simp [text]
  · rintro ⟨named, letter, blanks, known, blank, rfl⟩
    have inked : isBlank letter = false := by
      simp only [classes, List.mem_cons, Prod.mk.injEq, List.not_mem_nil, or_false] at known
      rcases known with ⟨rfl, -⟩ | ⟨rfl, -⟩ | ⟨rfl, -⟩ <;> rfl
    refine ⟨⟨name.toList, letter⟩, ?_, by simp, mem_classes_iff.mp known⟩
    exact read?_eq_some_iff.mpr ⟨by simpa using named, inked, blanks, blank, by simp [text]⟩

theorem given?_eq_none_iff : given? line name = none ↔ ∀ kind, ¬ Gives line name kind := by
  simp only [Option.eq_none_iff_forall_ne_some, ne_eq, given?_eq_some_iff]

theorem lastKind?_lines (lines : List (List Char)) (name : String) :
    lastKind? (lines.filterMap read?) name = lines.reverse.findSome? (given? · name) := by
  rw [lastKind?, List.filterMap_filterMap, List.getLast?_filterMap]
  rfl

theorem lastKind?_eq_some_iff :
    lastKind? (lines.filterMap read?) name = some kind ↔
      ∃ before line after, lines = before ++ line :: after ∧ Gives line name kind ∧
        ∀ later ∈ after, ∀ other, ¬ Gives later name other := by
  simp only [lastKind?_lines, List.findSome?_eq_some_iff, given?_eq_some_iff, given?_eq_none_iff,
    List.reverse_eq_iff, List.reverse_append, List.reverse_cons, List.append_assoc,
    List.singleton_append]
  constructor
  · rintro ⟨after, line, before, whole, gives, silent⟩
    exact ⟨before.reverse, line, after.reverse, whole, gives, by simpa using silent⟩
  · rintro ⟨before, line, after, whole, gives, silent⟩
    exact ⟨after.reverse, line, before.reverse, by simpa using whole, gives, by simpa using silent⟩

theorem lastKind?_eq_none_iff :
    lastKind? (lines.filterMap read?) name = none ↔
      ∀ line ∈ lines, ∀ kind, ¬ Gives line name kind := by
  simp only [lastKind?_lines, List.findSome?_eq_none_iff, List.mem_reverse, given?_eq_none_iff]

/-- Whether two lines are no records for the same name. -/
def Apart (one other : List Char) : Prop :=
  ∀ record ∈ read? one, ∀ otherRecord ∈ read? other, record.name ≠ otherRecord.name

theorem Apart.given?_eq_none {one other : List Char} (apart : Apart one other) (name : String) :
    given? one name = none ∨ given? other name = none := by
  by_contra both
  simp only [not_or, ← ne_eq, Option.ne_none_iff_exists', given?, Option.bind_eq_some_iff,
    Option.ite_none_right_eq_some] at both
  obtain ⟨⟨_, record, read, named, -⟩, ⟨_, otherRecord, otherRead, otherNamed, -⟩⟩ := both
  exact apart record read otherRecord otherRead
    (String.ofList_injective (named.symm.trans otherNamed))

end LinkRecord

open LinkRecord

def IsLastLink (entries : List Entry) (entry : Entry) : Prop :=
  ∃ before later, entries = before ++ entry :: later ∧ entry.kind.isLink = true ∧
    ∀ other ∈ later, other.name ≠ entry.name

theorem IsLastLink.cons {entry : Entry} (last : IsLastLink entries entry) (head : Entry) :
    IsLastLink (head :: entries) entry := by
  obtain ⟨before, later, rfl, link, different⟩ := last
  exact ⟨head :: before, later, rfl, link, different⟩

theorem settleAll_congr {records others : List LinkRecord}
    (same : ∀ entry, IsLastLink entries entry →
      lastKind? records entry.name = lastKind? others entry.name) :
    settleAll records entries = settleAll others entries := by
  induction entries with
  | nil => rfl
  | cons entry entries inductionHypothesis =>
      rw [settleAll, settleAll, inductionHypothesis fun other last => same other (last.cons entry)]
      congr 1
      cases repeated : entries.any (·.name == entry.name) with
      | true => rfl
      | false =>
          cases link : entry.kind.isLink with
          | false => simp [settle, link]
          | true =>
              have last : IsLastLink (entry :: entries) entry :=
                ⟨[], entries, rfl, link, by simpa using repeated⟩
              rw [settle, settle, same entry last]

theorem applyRecords_congr {others : List (List Char)}
    (same : ∀ entry, IsLastLink entries entry → lines.reverse.findSome? (given? · entry.name) =
      others.reverse.findSome? (given? · entry.name)) :
    applyRecords entries lines = applyRecords entries others := by
  rw [applyRecords, applyRecords, foldl_applyRecord, foldl_applyRecord]
  refine settleAll_congr fun entry last => ?_
  rw [lastKind?_lines, lastKind?_lines, same entry last]

theorem applyRecords_append (entries : List Entry) (first second : List (List Char)) :
    applyRecords entries (first ++ second) = applyRecords (applyRecords entries first) second := by
  rw [applyRecords, List.filterMap_append, List.foldl_append]
  rfl

theorem applyRecords_twice (entries : List Entry) (lines : List (List Char)) :
    applyRecords entries (lines ++ lines) = applyRecords entries lines := by
  apply applyRecords_congr
  intro entry _
  rw [List.reverse_append, List.findSome?_append, Option.or_self]

theorem applyRecords_swap {one other : List Char} (apart : Apart one other) (entries : List Entry)
    (first second : List (List Char)) :
    applyRecords entries (first ++ one :: other :: second) =
      applyRecords entries (first ++ other :: one :: second) := by
  apply applyRecords_congr
  intro entry _
  have either := apart.given?_eq_none entry.name
  simp only [List.reverse_append, List.reverse_cons, List.append_assoc, List.findSome?_append,
    List.findSome?_singleton]
  rcases either with silent | silent <;> simp [silent]

theorem length_applyRecords (entries : List Entry) (lines : List (List Char)) :
    (applyRecords entries lines).length = entries.length := by
  rw [applyRecords, foldl_applyRecord]
  induction entries with
  | nil => rfl
  | cons entry entries inductionHypothesis =>
      rw [settleAll, List.length_cons, List.length_cons, inductionHypothesis]

theorem getElem?_settleAll (records : List LinkRecord) (entries : List Entry) (place : Nat) :
    (settleAll records entries)[place]? = entries[place]?.map fun entry =>
      if (entries.drop (place + 1)).any (·.name == entry.name) then entry
      else settle records entry := by
  induction entries generalizing place with
  | nil => rfl
  | cons entry entries inductionHypothesis =>
      cases place with
      | zero => rfl
      | succ place => exact inductionHypothesis place

/-- Which kind an entry ends with, when lines are applied to it and to those after it. -/
inductive EndsAs (lines : List (List Char)) (entry : Entry) (later : List Entry) :
    EntryKind → Prop
  | noLink (noLink : entry.kind.isLink = false) : EndsAs lines entry later entry.kind
  | notLast {other : Entry} (listed : other ∈ later) (same : other.name = entry.name) :
      EndsAs lines entry later entry.kind
  | unrecorded (silent : ∀ line ∈ lines, ∀ kind, ¬ Gives line entry.name kind) :
      EndsAs lines entry later entry.kind
  | recorded {before after : List (List Char)} {line : List Char} {kind : EntryKind}
      (link : entry.kind.isLink = true) (last : ∀ other ∈ later, other.name ≠ entry.name)
      (whole : lines = before ++ line :: after) (gives : Gives line entry.name kind)
      (silent : ∀ later ∈ after, ∀ other, ¬ Gives later entry.name other) :
      EndsAs lines entry later kind

theorem applied_endsAs (lines : List (List Char)) (entry : Entry) (later : List Entry) :
    ∃ kind, EndsAs lines entry later kind ∧
      (if later.any (·.name == entry.name) then entry
        else settle (lines.filterMap read?) entry) = { entry with kind } := by
  cases repeated : later.any (·.name == entry.name) with
  | true =>
      simp only [List.any_eq_true, beq_iff_eq] at repeated
      obtain ⟨other, listed, same⟩ := repeated
      exact ⟨entry.kind, .notLast listed same, rfl⟩
  | false =>
      have last : ∀ other ∈ later, other.name ≠ entry.name := by simpa using repeated
      cases link : entry.kind.isLink with
      | false => exact ⟨entry.kind, .noLink link, by simp [settle, link]⟩
      | true =>
          cases recorded : lastKind? (lines.filterMap read?) entry.name with
          | none =>
              exact ⟨entry.kind, .unrecorded (lastKind?_eq_none_iff.mp recorded),
                by simp [settle, recorded]⟩
          | some kind =>
              obtain ⟨before, line, after, whole, gives, silent⟩ :=
                lastKind?_eq_some_iff.mp recorded
              exact ⟨kind, .recorded link last whole gives silent,
                by simp [settle, link, recorded]⟩

/-- Lines of records may be applied in parts, again, and in another order if they are for
different names.  They leave the entries in their places and change nothing but kinds: a link that
is the last entry with its name ends as the last line says that gives it a kind, and all other
entries stay as they are. -/
theorem laws_of_applyRecords (entries : List Entry) (lines more : List (List Char)) :
    applyRecords (applyRecords entries lines) more = applyRecords entries (lines ++ more) ∧
      applyRecords (applyRecords entries lines) lines = applyRecords entries lines ∧
      (∀ one other, Apart one other →
        applyRecords entries (lines ++ one :: other :: more) =
          applyRecords entries (lines ++ other :: one :: more)) ∧
      (applyRecords entries lines).length = entries.length ∧
      ∀ place entry, entries[place]? = some entry →
        ∃ kind, (applyRecords entries lines)[place]? = some { entry with kind } ∧
          EndsAs lines entry (entries.drop (place + 1)) kind := by
  refine ⟨(applyRecords_append entries lines more).symm, ?twice,
    fun one other apart => applyRecords_swap apart entries lines more,
    length_applyRecords entries lines, ?places⟩
  case twice => rw [← applyRecords_append, applyRecords_twice]
  case places =>
    intro place entry found
    obtain ⟨kind, ends, changed⟩ := applied_endsAs lines entry (entries.drop (place + 1))
    refine ⟨kind, ?_, ends⟩
    rw [applyRecords, foldl_applyRecord, getElem?_settleAll, found, Option.map_some, changed]

/-- Two of three links have the same name, and the third has a name that holds an arrow. -/
theorem laws_of_applyRecords_arrow_in_name :
    let link (name : String) : Entry :=
      ⟨name, .linkToFile, "lrwxrwxrwx", 1, "root", "root", 1, ⟨0, 0, 0⟩, some "/x"⟩
    let entries := [link "a", link "a->b", link "a"]
    let lines := ["a->D\r", "a->X"].map String.toList
    let one := "a->b->B".toList
    let other := "a->F".toList
    Apart one other ∧
      applyRecords entries (lines ++ [one, other]) =
        applyRecords entries (lines ++ [other, one]) ∧
      entries[2]? = some (link "a") ∧
      ∃ kind, (applyRecords entries lines)[2]? = some { link "a" with kind } ∧
        EndsAs lines (link "a") [] kind := by
  intro link entries lines one other
  have apart : Apart one other := by
    unfold Apart
    decide
  obtain ⟨-, -, swap, -, places⟩ := laws_of_applyRecords entries lines []
  exact ⟨apart, swap one other apart, rfl, places 2 (link "a") rfl⟩

end DeviceBrowser.Listing
