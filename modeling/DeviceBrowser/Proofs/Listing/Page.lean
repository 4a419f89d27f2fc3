import DeviceBrowser.Listing.Response
import DeviceBrowser.Proofs.Listing.LinkRecord
import DeviceBrowser.Proofs.Listing.PrintedRow
import Mathlib.Data.List.Nodup

/-!
Whole answers to a listing command, as they are printed and as they are read.

A page is a directory's path, rows among lines that are passed over, the separator, and
records of symbolic links.  Whatever ends its lines have, and also when the ends of its last
lines are gone, the listing that is read from a page is the one it prints.
-/

namespace DeviceBrowser.Listing

open DeviceBrowser.Text DeviceBrowser.Calendar

variable {reading : Reading}

@[simp]
theorem inkedLines_nil : inkedLines [] = [] :=
  rfl

theorem inkedLines_append_feed (before after : List Char) :
    inkedLines (before ++ '\n' :: after) = inkedLines before ++ inkedLines after := by
  simp only [inkedLines, List.splitOn_append_cons_self, List.map_append, List.filter_append]

theorem inkedLines_of_feedless {line : List Char} (feedless : '\n' ∉ line) :
    inkedLines line = if isAllBlank line then [] else [trimLineEnds line] := by
  rw [inkedLines, List.splitOn_eq_singleton feedless, List.map_singleton, List.filter_singleton,
    isAllBlank_trimLineEnds]
  cases isAllBlank line <;> rfl

theorem inkedLines_concat (text : List Char) (c : Char) (lineEnd : isLineEnd c = true) :
    inkedLines (text ++ [c]) = inkedLines text := by
  by_cases feed : c = '\n'
  · rw [feed, inkedLines_append_feed, inkedLines_nil, List.append_nil]
  · by_cases present : '\n' ∈ text
    · obtain ⟨before, after, rfl⟩ := List.append_of_mem present
      rw [List.append_assoc, List.cons_append, inkedLines_append_feed,
        inkedLines_concat after c lineEnd, ← inkedLines_append_feed]
    · rw [inkedLines_of_feedless present, inkedLines_of_feedless (by simp [present, Ne.symm feed]),
        trimLineEnds_concat text lineEnd, isAllBlank_concat text (isBlank_of_isLineEnd lineEnd)]
termination_by text.length
decreasing_by simp [*]; omega

theorem feedless_of_mem_inkedLines {text line : List Char} (listed : line ∈ inkedLines text) :
    '\n' ∉ line := by
  by_cases present : '\n' ∈ text
  · obtain ⟨before, after, rfl⟩ := List.append_of_mem present
    rw [inkedLines_append_feed, List.mem_append] at listed
    rcases listed with first | second
    · exact feedless_of_mem_inkedLines first
    · exact feedless_of_mem_inkedLines second
  · rw [inkedLines_of_feedless present] at listed
    split at listed
    next => cases listed
    next =>
      rw [List.mem_singleton] at listed
      subst listed
      exact fun feed => present ((List.rdropWhile_prefix _ _).subset feed)
termination_by text.length
decreasing_by
  · simp [*]
  · simp [*]
    omega

theorem inkedLines_trimLineEnds (text : List Char) :
    inkedLines (trimLineEnds text) = inkedLines text :=
  apply_trimLineEnds inkedLines_concat text

theorem inkedLines_printLines (endings : Nat → LineEnd) {lines : List (List Char)}
    (feedless : ∀ line ∈ lines, '\n' ∉ line) :
    inkedLines (printLines endings lines) =
      (lines.filter (!isAllBlank ·)).map trimLineEnds := by
  induction lines with
  | nil => rfl
  | cons line lines inductionHypothesis =>
      rw [List.forall_mem_cons] at feedless
      have ended : inkedLines (printLines endings (line :: lines)) =
          inkedLines line ++ inkedLines (printLines endings lines) := by
        rw [printLines]
        cases endings lines.length with
        | feed => exact inkedLines_append_feed _ _
        | returnFeed =>
            have split : line ++ (LineEnd.returnFeed.text ++ printLines endings lines) =
                (line ++ ['\r']) ++ '\n' :: printLines endings lines := by
              simp [LineEnd.text]
            rw [split, inkedLines_append_feed, inkedLines_concat line '\r' rfl]
      rw [ended, inductionHypothesis feedless.2, inkedLines_of_feedless feedless.1]
      cases blank : isAllBlank line <;> simp [blank]

/-- The first separator divides the lines of an answer. -/
theorem read_of_inkedLines_eq {text separator : List Char} {before records : List (List Char)}
    (found : inkedLines text = before ++ separator :: records)
    (clear : ∀ line ∈ before, isSeparator line = false) (separates : isSeparator separator = true) :
    read reading (String.ofList text) =
      .ok {
        path := String.ofList (before.headD [])
        entries := applyRecords (before.tail.filterMap (readRow? reading)) records } := by
  have clear : ∀ line ∈ before, (!isSeparator line) = true := by simpa using clear
  unfold read
  simp only [String.toList_ofList, found]
  rw [List.takeWhile_append_of_pos clear, List.takeWhile_cons_of_neg (by simp [separates]),
    List.append_nil, List.dropWhile_append_of_pos clear,
    List.dropWhile_cons_of_neg (by simp [separates])]

inductive BodyLine where
  | printed (row : Row)
  | other (line : List Char)

namespace BodyLine

def text : BodyLine → List Char
  | .printed row => row.text
  | .other line => line

def row? : BodyLine → Option Row
  | .printed row => some row
  | .other _ => none

/-- What is not a row is passed over and is not the separator. -/
def WellFormed (reading : Reading) : BodyLine → Prop
  | .printed row => row.WellFormed
  | .other line => '\n' ∉ line ∧ readRow? reading line = none ∧ isSeparator line = false

end BodyLine

inductive RecordLine where
  | printed (record : LinkRecord)
  | other (line : List Char)

namespace RecordLine

def text : RecordLine → List Char
  | .printed record => record.text
  | .other line => line

def record? : RecordLine → Option LinkRecord
  | .printed record => some record
  | .other _ => none

def WellFormed : RecordLine → Prop
  | .printed record =>
      record.name ≠ [] ∧ '\n' ∉ record.name ∧ isBlank record.letter = false
  | .other line => '\n' ∉ line ∧ LinkRecord.read? line = none

end RecordLine

structure Page where
  path : List Char
  body : List BodyLine
  records : List RecordLine

namespace Page

def rows (page : Page) : List Row :=
  page.body.filterMap BodyLine.row?

def linkRecords (page : Page) : List LinkRecord :=
  page.records.filterMap RecordLine.record?

def lines (page : Page) : List (List Char) :=
  page.path :: page.body.map BodyLine.text ++
    Shell.separator.toList :: page.records.map RecordLine.text

def text (endings : Nat → LineEnd) (page : Page) : List Char :=
  printLines endings page.lines

structure WellFormed (reading : Reading) (page : Page) : Prop where
  rooted : page.path.head? = some '/'
  pathLine : isLineText page.path = true
  body : ∀ line ∈ page.body, line.WellFormed reading
  records : ∀ line ∈ page.records, line.WellFormed
  distinct : (page.rows.map Row.name).Nodup

/-- The kind of a row's entry.  A symbolic link leads where the last record says that has its
name and a class letter, and to a file if there is none. -/
def kind (page : Page) (row : Row) : EntryKind :=
  match row.permissions.head? with
  | some 'd' => .directory
  | some 'l' =>
      (page.linkRecords.reverse.findSome? fun record =>
        if record.name = row.name then LinkRecord.classes.lookup record.letter else none).getD
        .linkToFile
  | _ => .file

def listing (reading : Reading) (page : Page) : Listing where
  path := String.ofList page.path
  entries := page.rows.map fun row => { row.entry reading with kind := page.kind row }

end Page

variable {page : Page}

theorem isSeparator_trimLineEnds (line : List Char) :
    isSeparator (trimLineEnds line) = isSeparator line := by
  rw [isSeparator, trim_trimLineEnds, isSeparator]

theorem isSeparator_cons {c : Char} {rest : List Char} (inked : isBlank c = false)
    (different : c ≠ '<') : isSeparator (c :: rest) = false := by
  apply Bool.eq_false_iff.mpr
  intro separates
  have started : trimStart (c :: rest) = c :: rest := by simp [trimStart, inked]
  simp only [isSeparator, trim, started, beq_iff_eq] at separates
  have start : Shell.separator.toList <+: c :: rest := by
    rw [← separates]
    exact List.rdropWhile_prefix _ _
  have shape : Shell.separator.toList = '<' :: Shell.separator.toList.tail := rfl
  rw [shape, List.cons_prefix_cons] at start
  exact different start.1.symm

theorem Row.WellFormed.isAllBlank_text {row : Row} (wellFormed : row.WellFormed) :
    isAllBlank row.text = false := by
  obtain ⟨letter, typed, rest, starts⟩ := wellFormed.text_eq_cons
  rw [starts, isAllBlank, List.all_cons, (inked_of_mem_typeLetters typed).1, Bool.false_and]

theorem Row.WellFormed.isSeparator_text {row : Row} (wellFormed : row.WellFormed) :
    isSeparator row.text = false := by
  obtain ⟨letter, typed, rest, starts⟩ := wellFormed.text_eq_cons
  have letterShape := inked_of_mem_typeLetters typed
  rw [starts]
  exact isSeparator_cons letterShape.1 letterShape.2.2

theorem filterMap_readRow? {body : List BodyLine}
    (wellFormed : ∀ line ∈ body, line.WellFormed reading) :
    (((body.map BodyLine.text).filter (!isAllBlank ·)).map trimLineEnds).filterMap
        (readRow? reading) =
      (body.filterMap BodyLine.row?).map (Row.entry reading) := by
  induction body with
  | nil => rfl
  | cons line body inductionHypothesis =>
      rw [List.forall_mem_cons] at wellFormed
      have rest := inductionHypothesis wellFormed.2
      cases line with
      | printed row =>
          have shape : row.WellFormed := wellFormed.1
          simp [BodyLine.text, BodyLine.row?, shape.isAllBlank_text,
            trimLineEnds_of_isLineText shape.isLineText_text, readRow?_text reading shape, rest]
      | other line =>
          have passed := readRow?_trimLineEnds wellFormed.1.2.1
          cases blank : isAllBlank line <;>
            simp [BodyLine.text, List.filterMap_cons, BodyLine.row?, blank, passed, rest]

theorem filterMap_read? {records : List RecordLine}
    (wellFormed : ∀ line ∈ records, line.WellFormed) :
    (((records.map RecordLine.text).filter (!isAllBlank ·)).map trimLineEnds).filterMap
        LinkRecord.read? =
      records.filterMap RecordLine.record? := by
  induction records with
  | nil => rfl
  | cons line records inductionHypothesis =>
      rw [List.forall_mem_cons] at wellFormed
      have rest := inductionHypothesis wellFormed.2
      cases line with
      | printed record =>
          have inked : isAllBlank record.text = false := by
            have letter := wellFormed.1.2.2
            simp [isAllBlank, LinkRecord.text, letter]
          have found := LinkRecord.read?_text wellFormed.1.1 wellFormed.1.2.2
          simp [RecordLine.text, RecordLine.record?, inked, LinkRecord.read?_trimLineEnds, found,
            rest]
      | other line =>
          have passed : LinkRecord.read? line = none := wellFormed.1.2
          cases blank : isAllBlank line <;>
            simp [RecordLine.text, List.filterMap_cons, RecordLine.record?, blank,
              LinkRecord.read?_trimLineEnds, passed, rest]

namespace Page

theorem WellFormed.path_eq_cons (wellFormed : page.WellFormed reading) :
    ∃ rest, page.path = '/' :: rest := by
  have rooted := wellFormed.rooted
  cases path : page.path with
  | nil => simp [path] at rooted
  | cons head rest =>
      simp only [path, List.head?_cons, Option.some.injEq] at rooted
      exact ⟨rest, by rw [rooted]⟩

theorem WellFormed.feedless (wellFormed : page.WellFormed reading) :
    ∀ line ∈ page.lines, '\n' ∉ line := by
  intro line present
  simp only [lines, List.cons_append, List.mem_cons, List.mem_append, List.mem_map] at present
  rcases present with rfl | ⟨bodyLine, listed, rfl⟩ | rfl | ⟨recordLine, listed, rfl⟩
  · exact (isLineText_iff.mp wellFormed.pathLine).1
  · have shape := wellFormed.body bodyLine listed
    cases bodyLine with
    | printed row => exact (isLineText_iff.mp (Row.WellFormed.isLineText_text shape)).1
    | other line => exact shape.1
  · decide
  · have shape := wellFormed.records recordLine listed
    cases recordLine with
    | printed record =>
        have arrowFeedless : '\n' ∉ Shell.arrow.toList := by decide
        have letterFeedless : '\n' ≠ record.letter := by
          intro feed
          have inked := shape.2.2
          rw [← feed] at inked
          exact absurd inked (by decide)
        simp [RecordLine.text, LinkRecord.text, shape.2.1, letterFeedless, arrowFeedless]
    | other line => exact shape.1

theorem settle_entry (reading : Reading) (page : Page) (row : Row) :
    LinkRecord.settle page.linkRecords (row.entry reading) =
      { row.entry reading with kind := page.kind row } := by
  unfold LinkRecord.settle kind
  rw [← LinkRecord.lastKind?_eq_findSome?]
  cases letters : row.permissions with
  | nil => simp [Row.entry, kindOf, letters, EntryKind.isLink]
  | cons letter rest =>
      by_cases directory : letter = 'd'
      · simp [Row.entry, kindOf, letters, directory, EntryKind.isLink]
      · by_cases link : letter = 'l'
        · simp [Row.entry, kindOf, letters, link, EntryKind.isLink]
        · simp [Row.entry, kindOf, letters, directory, link, EntryKind.isLink]

/-- What is read depends on the inked lines alone. -/
theorem read_of_same_inkedLines (wellFormed : page.WellFormed reading) (endings : Nat → LineEnd)
    {text : List Char} (same : inkedLines text = inkedLines (page.text endings)) :
    read reading (String.ofList text) = .ok (page.listing reading) := by
  obtain ⟨rest, rooted⟩ := wellFormed.path_eq_cons
  let body := ((page.body.map BodyLine.text).filter (!isAllBlank ·)).map trimLineEnds
  let records := ((page.records.map RecordLine.text).filter (!isAllBlank ·)).map trimLineEnds
  have found : inkedLines text = (page.path :: body) ++ Shell.separator.toList :: records := by
    have pathInked : isAllBlank page.path = false := by rw [rooted]; rfl
    have separatorInked : isAllBlank Shell.separator.toList = false := by decide
    have separatorTrimmed : trimLineEnds Shell.separator.toList = Shell.separator.toList := by
      decide
    rw [same, Page.text, inkedLines_printLines endings wellFormed.feedless]
    simp [lines, body, records, pathInked, separatorInked, separatorTrimmed,
      trimLineEnds_of_isLineText wellFormed.pathLine]
  have clear : ∀ line ∈ page.path :: body, isSeparator line = false := by
    rw [List.forall_mem_cons]
    constructor
    · rw [rooted]
      exact isSeparator_cons rfl (by decide)
    · intro line present
      obtain ⟨printed, kept, rfl⟩ := List.mem_map.mp present
      obtain ⟨bodyLine, listed, rfl⟩ := List.mem_map.mp (List.mem_filter.mp kept).1
      rw [isSeparator_trimLineEnds]
      have shape := wellFormed.body bodyLine listed
      cases bodyLine with
      | printed row => exact Row.WellFormed.isSeparator_text shape
      | other line => exact shape.2.2
  have separates : isSeparator Shell.separator.toList = true := by decide
  have entries : body.filterMap (readRow? reading) = page.rows.map (Row.entry reading) :=
    filterMap_readRow? wellFormed.body
  have found? : records.filterMap LinkRecord.read? = page.linkRecords :=
    filterMap_read? wellFormed.records
  have distinct : ((page.rows.map (Row.entry reading)).map (·.name)).Nodup := by
    rw [List.map_map]
    have names : page.rows.map ((·.name) ∘ Row.entry reading) =
        (page.rows.map Row.name).map String.ofList := by
      rw [List.map_map]
      rfl
    rw [names]
    exact List.Nodup.map (fun _ _ => String.ofList_injective) wellFormed.distinct
  have settled : (page.rows.map (Row.entry reading)).map (LinkRecord.settle page.linkRecords) =
      page.rows.map fun row => { row.entry reading with kind := page.kind row } := by
    rw [List.map_map]
    exact List.map_congr_left fun row _ => settle_entry reading page row
  rw [read_of_inkedLines_eq found clear separates, List.headD_cons, List.tail_cons,
    entries, applyRecords, found?, foldl_applyRecord, settleAll_eq_map _ distinct,
    settled]
  rfl

/-- A page is read as the listing it prints, with or without the ends of its last lines. -/
theorem read_text (wellFormed : page.WellFormed reading) (endings : Nat → LineEnd) :
    read reading (String.ofList (page.text endings)) = .ok (page.listing reading) ∧
      read reading (String.ofList (trimLineEnds (page.text endings))) =
        .ok (page.listing reading) :=
  ⟨read_of_same_inkedLines wellFormed endings rfl,
    read_of_same_inkedLines wellFormed endings (inkedLines_trimLineEnds _)⟩

/-- A symbolic link whose name begins with a blank and holds an arrow. -/
def sampleLink : Row where
  permissions := "lrwxrwxrwx".toList
  links := 1
  owner := "root".toList
  group := "sdcard_rw".toList
  size := .bytes 21
  moment := .older "Mar".toList "3".toList "2019".toList
  name := " a->b".toList
  target := some "/storage".toList
  padding := fun following => following % 3

def brokenSample : Row :=
  { sampleLink with name := "c".toList, target := some "gone".toList, padding := fun _ => 0 }

def sampleNode : Row where
  permissions := "crw-rw-rw-".toList
  links := 2
  owner := "root".toList
  group := "root".toList
  size := .device 1 3
  moment := .numeric "2024".toList "01".toList "15".toList "09".toList "30".toList
  name := "null".toList
  target := none
  padding := fun _ => 0

/-- The first link has three records, the last of which has no class letter. -/
def sample : Page where
  path := "/sdcard".toList
  body := [.other "total 8".toList, .printed sampleLink, .printed brokenSample, .printed sampleNode]
  records := [.printed ⟨" a->b".toList, 'B'⟩, .printed ⟨"c".toList, 'B'⟩, .other "c->".toList,
    .printed ⟨" a->b".toList, 'D'⟩, .printed ⟨" a->b".toList, 'X'⟩]

theorem sample_wellFormed : sample.WellFormed ⟨Zone.utc, ⟨0, 0, 0⟩⟩ where
  rooted := by decide
  pathLine := by decide
  body := by
    have total : BodyLine.WellFormed ⟨Zone.utc, ⟨0, 0, 0⟩⟩ (.other "total 8".toList) :=
      ⟨by decide, by decide, by decide⟩
    have link : sampleLink.WellFormed := by constructor <;> decide
    have broken : brokenSample.WellFormed := by constructor <;> decide
    have node : sampleNode.WellFormed := by constructor <;> decide
    rintro line (_ | ⟨_, _ | ⟨_, _ | ⟨_, _ | ⟨_, ⟨⟩⟩⟩⟩⟩)
    · exact total
    · exact link
    · exact broken
    · exact node
  records := by
    have printed (name : List Char) (letter : Char) (shape : name ≠ [] ∧ '\n' ∉ name)
        (inked : isBlank letter = false) : (RecordLine.printed ⟨name, letter⟩).WellFormed :=
      ⟨shape.1, shape.2, inked⟩
    have other : (RecordLine.other "c->".toList).WellFormed := ⟨by decide, by decide⟩
    rintro line (_ | ⟨_, _ | ⟨_, _ | ⟨_, _ | ⟨_, _ | ⟨_, ⟨⟩⟩⟩⟩⟩⟩)
    · exact printed _ _ (by decide) rfl
    · exact printed _ _ (by decide) rfl
    · exact other
    · exact printed _ _ (by decide) rfl
    · exact printed _ _ (by decide) rfl
  distinct := by decide

theorem read_text_sample :
    sample.WellFormed ⟨Zone.utc, ⟨0, 0, 0⟩⟩ ∧ ∃ listing,
      read ⟨Zone.utc, ⟨0, 0, 0⟩⟩ (String.ofList (sample.text fun _ => .returnFeed)) =
          .ok listing ∧
        listing.path = "/sdcard" ∧
        listing.entries.map (fun entry => (entry.name, entry.kind, entry.size, entry.target)) =
          [(" a->b", .linkToDirectory, 21, some "/storage"), ("c", .brokenLink, 21, some "gone"),
            ("null", .file, 0, none)] :=
  ⟨sample_wellFormed, _, (read_text sample_wellFormed fun _ => .returnFeed).1, by decide, by decide⟩

end Page

end DeviceBrowser.Listing
