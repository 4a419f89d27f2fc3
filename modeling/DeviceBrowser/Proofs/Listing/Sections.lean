import DeviceBrowser.Proofs.Listing.Page
import DeviceBrowser.Proofs.Listing.Refinement
import Mathlib.Logic.Relation

/-!
The sections of an answer to a listing command.

Any text with a separator in it is an answer, whatever else its lines are: the first separator
divides them, and each side is read on its own.  So lines that say nothing, wherever they are put
in, leave what is read from an answer as it was.
-/

namespace DeviceBrowser.Listing

open DeviceBrowser.Text LinkRecord

variable {reading : Reading} {response : String} {lines others : List (List Char)}
  {listing : Listing}

def linesOf (response : String) : List (List Char) :=
  response.toList.splitOn '\n'

/-- Lines without the carriage returns at their ends.  Blank lines are left out. -/
def tidied (lines : List (List Char)) : List (List Char) :=
  (lines.map trimLineEnds).filter (!isAllBlank ·)

theorem tidied_append (lines others : List (List Char)) :
    tidied (lines ++ others) = tidied lines ++ tidied others := by
  simp [tidied]

theorem tidied_cons (line : List Char) (lines : List (List Char)) :
    tidied (line :: lines) =
      if isAllBlank line then tidied lines else trimLineEnds line :: tidied lines := by
  cases blank : isAllBlank line <;> simp [tidied, isAllBlank_trimLineEnds, blank]

/-- The listing that lines show before and after a separator. -/
def shown (reading : Reading) (before after : List (List Char)) : Listing where
  path := String.ofList ((tidied before).headD [])
  entries := applyRecords ((tidied before).tail.filterMap (readRow? reading)) (tidied after)

/-- Whether lines show a listing: one of them is a separator, and the first that is divides
them. -/
def Shows (reading : Reading) (lines : List (List Char)) (listing : Listing) : Prop :=
  ∃ before separator after, lines = before ++ separator :: after ∧
    (∀ line ∈ before, isSeparator line = false) ∧ isSeparator separator = true ∧
    listing = shown reading before after

theorem not_isAllBlank_of_isSeparator {line : List Char} (separates : isSeparator line = true) :
    isAllBlank line = false := by
  apply Bool.eq_false_iff.mpr
  intro blank
  have empty : trim line = [] := by
    rw [trim, ← List.append_nil line, trimStart_append blank]
    rfl
  rw [isSeparator, empty] at separates
  exact absurd separates (by decide)

theorem isSeparator_of_mem_tidied {before : List (List Char)}
    (clear : ∀ line ∈ before, isSeparator line = false) :
    ∀ line ∈ tidied before, isSeparator line = false := by
  intro line listed
  obtain ⟨whole, present, rfl⟩ := List.mem_map.mp (List.mem_of_mem_filter listed)
  rw [isSeparator_trimLineEnds, clear whole present]

theorem read_of_divided {before after : List (List Char)} {separator : List Char}
    (divided : linesOf response = before ++ separator :: after)
    (clear : ∀ line ∈ before, isSeparator line = false) (separates : isSeparator separator = true) :
    read reading response = .ok (shown reading before after) := by
  have found : inkedLines response.toList =
      tidied before ++ trimLineEnds separator :: tidied after := by
    have whole : inkedLines response.toList = tidied (linesOf response) := rfl
    rw [whole, divided, tidied_append, tidied_cons,
      if_neg (by simp [not_isAllBlank_of_isSeparator separates])]
  have whole : String.ofList response.toList = response := String.ofList_toList
  rw [← whole]
  exact read_of_inkedLines_eq found (isSeparator_of_mem_tidied clear)
    (by rwa [isSeparator_trimLineEnds])

theorem read_of_undivided (clear : ∀ line ∈ linesOf response, isSeparator line = false) :
    read reading response = .error (.malformedListing
      ("separator missing from " ++ toString response.utf8ByteSize ++ " bytes of output")) := by
  have clear : ∀ line ∈ inkedLines response.toList, isSeparator line = false :=
    isSeparator_of_mem_tidied clear
  have nothing : (inkedLines response.toList).dropWhile (!isSeparator ·) = [] :=
    List.dropWhile_eq_nil_iff.mpr (by simpa using clear)
  unfold read
  simp only [nothing]

theorem exists_divided (present : ∃ line ∈ lines, isSeparator line = true) :
    ∃ before separator after, lines = before ++ separator :: after ∧
      (∀ line ∈ before, isSeparator line = false) ∧ isSeparator separator = true := by
  obtain ⟨separator, found⟩ := Option.isSome_iff_exists.mp (List.find?_isSome.mpr present)
  obtain ⟨separates, before, after, whole, clear⟩ := List.find?_eq_some_iff_append.mp found
  exact ⟨before, separator, after, whole, by simpa using clear, separates⟩

theorem read_eq_ok_iff : read reading response = .ok listing ↔
    Shows reading (linesOf response) listing := by
  constructor
  · intro answered
    by_cases present : ∃ line ∈ linesOf response, isSeparator line = true
    · obtain ⟨before, separator, after, divided, clear, separates⟩ := exists_divided present
      rw [read_of_divided divided clear separates, Except.ok.injEq] at answered
      exact ⟨before, separator, after, divided, clear, separates, answered.symm⟩
    · rw [read_of_undivided (by simpa using present)] at answered
      cases answered
  · rintro ⟨before, separator, after, divided, clear, separates, rfl⟩
    exact read_of_divided divided clear separates

theorem read_eq_error_iff {failure : Failure} : read reading response = .error failure ↔
    (∀ line ∈ linesOf response, isSeparator line = false) ∧ failure = .malformedListing
      ("separator missing from " ++ toString response.utf8ByteSize ++ " bytes of output") := by
  constructor
  · intro failed
    by_cases present : ∃ line ∈ linesOf response, isSeparator line = true
    · obtain ⟨before, separator, after, divided, clear, separates⟩ := exists_divided present
      rw [read_of_divided divided clear separates] at failed
      cases failed
    · have clear : ∀ line ∈ linesOf response, isSeparator line = false := by simpa using present
      rw [read_of_undivided clear, Except.error.injEq] at failed
      exact ⟨clear, failed.symm⟩
  · rintro ⟨clear, rfl⟩
    exact read_of_undivided clear

/-- Whether a line gives no kind to any link that is the last entry with its name. -/
def Unusable (entries : List Entry) (line : List Char) : Prop :=
  ∀ entry, IsLastLink entries entry → ∀ kind, ¬ Gives line entry.name kind

/-- Lines with one more line among them, from which nothing is read. -/
inductive Pads (reading : Reading) (entries : List Entry) :
    List (List Char) → List (List Char) → Prop
  | blank (before after : List (List Char)) {line : List Char} (blank : isAllBlank line = true) :
      Pads reading entries (before ++ after) (before ++ line :: after)
  | row (before after : List (List Char)) {line : List Char}
      (path : ∃ earlier ∈ before, isAllBlank earlier = false)
      (clear : ∀ earlier ∈ before, isSeparator earlier = false)
      (rejected : readRow? reading (trimLineEnds line) = none)
      (noSeparator : isSeparator line = false) :
      Pads reading entries (before ++ after) (before ++ line :: after)
  | record (before after : List (List Char)) {line : List Char}
      (behind : ∃ earlier ∈ before, isSeparator earlier = true)
      (unusable : Unusable entries line) :
      Pads reading entries (before ++ after) (before ++ line :: after)

section Padding

variable {before after rest : List (List Char)} {line separator : List Char}
  {entries : List Entry} {records : List LinkRecord}

theorem divided_of_append (divided : before ++ rest = lines ++ separator :: after) :
    (∃ more, lines = before ++ more ∧ rest = more ++ separator :: after) ∨
      ∃ start, before = lines ++ separator :: start ∧ after = start ++ rest := by
  rcases List.append_eq_append_iff.mp divided with ⟨more, whole, tail⟩ | ⟨more, whole, tail⟩
  · exact .inl ⟨more, whole, tail⟩
  · cases more with
    | nil => exact .inl ⟨[], by simpa using whole.symm, by simpa using tail.symm⟩
    | cons head start =>
        rw [List.cons_append, List.cons.injEq] at tail
        exact .inr ⟨start, by rw [whole, tail.1], tail.2⟩

theorem clear_of_padded (clear : ∀ other ∈ before ++ after, isSeparator other = false)
    (noSeparator : isSeparator line = false) :
    ∀ other ∈ before ++ line :: after, isSeparator other = false := by
  rw [List.forall_mem_append] at clear ⊢
  exact ⟨clear.1, List.forall_mem_cons.mpr ⟨noSeparator, clear.2⟩⟩

theorem tidied_of_blank (blank : isAllBlank line = true) (before after : List (List Char)) :
    tidied (before ++ line :: after) = tidied (before ++ after) := by
  rw [tidied_append, tidied_append, tidied_cons, if_pos blank]

theorem shown_of_rejected (path : ∃ earlier ∈ before, isAllBlank earlier = false)
    (rejected : readRow? reading (trimLineEnds line) = none) (rest after : List (List Char)) :
    shown reading (before ++ line :: rest) after = shown reading (before ++ rest) after := by
  obtain ⟨earlier, listed, inked⟩ := path
  have first : trimLineEnds earlier ∈ tidied before :=
    List.mem_filter.mpr ⟨List.mem_map_of_mem listed, by simp [isAllBlank_trimLineEnds, inked]⟩
  unfold shown
  rw [tidied_append, tidied_append, tidied_cons]
  cases heads : tidied before with
  | nil => simp [heads] at first
  | cons head tail => cases isAllBlank line <;> simp [rejected]

theorem isLink_settle (records : List LinkRecord) (entry : Entry) :
    (settle records entry).kind.isLink = entry.kind.isLink := by
  unfold settle
  split
  next link =>
    rw [link]
    cases known : lastKind? records entry.name with
    | none => exact link
    | some kind => exact isLink_of_lastKind? known
  next => rfl

theorem exists_settleAll_append (records : List LinkRecord) (first second : List Entry) :
    ∃ settled, settleAll records (first ++ second) = settled ++ settleAll records second := by
  induction first with
  | nil => exact ⟨[], rfl⟩
  | cons entry first inductionHypothesis =>
      obtain ⟨settled, whole⟩ := inductionHypothesis
      rw [List.cons_append, settleAll, whole]
      exact ⟨_ :: settled, rfl⟩

theorem IsLastLink.settled {entry : Entry} (last : IsLastLink entries entry)
    (records : List LinkRecord) :
    IsLastLink (settleAll records entries) (settle records entry) := by
  obtain ⟨before, later, rfl, link, different⟩ := last
  have single : later.any (·.name == entry.name) = false := by simpa using different
  obtain ⟨settled, whole⟩ := exists_settleAll_append records before (entry :: later)
  refine ⟨settled, settleAll records later, ?_, by rw [isLink_settle, link], ?_⟩
  · rw [whole, settleAll, single]
    rfl
  · rw [settle_name]
    rw [← any_name_settleAll records] at single
    simpa using single

theorem applyRecords_of_unusable {first second : List (List Char)}
    (unusable : Unusable (settleAll records entries) line) :
    applyRecords entries (first ++ trimLineEnds line :: second) =
      applyRecords entries (first ++ second) := by
  apply applyRecords_congr
  intro entry last
  have silent : given? line entry.name = none := by
    rw [given?_eq_none_iff, ← settle_name records]
    exact unusable _ (last.settled records)
  have trimmed : given? (trimLineEnds line) entry.name = none := by
    rw [← silent, given?, read?_trimLineEnds, given?]
  simp [List.findSome?_append, trimmed]

theorem shown_of_unusable
    (unusable : Unusable (shown reading before (after ++ rest)).entries line) :
    shown reading before (after ++ line :: rest) = shown reading before (after ++ rest) := by
  unfold shown at unusable ⊢
  rw [tidied_append] at unusable
  rw [tidied_append, tidied_append, tidied_cons]
  split
  · rfl
  · rw [applyRecords, foldl_applyRecord] at unusable
    rw [applyRecords_of_unusable unusable]

/-- Another line from which nothing is read leaves the listing as it was. -/
theorem Shows.of_pads (shows : Shows reading lines listing)
    (pads : Pads reading listing.entries lines others) : Shows reading others listing := by
  obtain ⟨before, separator, after, divided, clear, separates, rfl⟩ := shows
  cases pads with
  | @blank start rest line blank =>
      have noSeparator : isSeparator line = false := by
        apply Bool.eq_false_iff.mpr
        intro separates
        rw [not_isAllBlank_of_isSeparator separates] at blank
        cases blank
      rcases divided_of_append divided with ⟨more, rfl, rfl⟩ | ⟨more, rfl, rfl⟩
      · refine ⟨start ++ line :: more, separator, after, by simp,
          clear_of_padded clear noSeparator, separates, ?_⟩
        rw [shown, shown, tidied_of_blank blank]
      · refine ⟨before, separator, more ++ line :: rest, by simp, clear, separates, ?_⟩
        rw [shown, shown, tidied_of_blank blank]
  | @row start rest line path early rejected noSeparator =>
      rcases divided_of_append divided with ⟨more, rfl, rfl⟩ | ⟨more, rfl, rfl⟩
      · exact ⟨start ++ line :: more, separator, after, by simp,
          clear_of_padded clear noSeparator, separates,
          (shown_of_rejected path rejected more after).symm⟩
      · rw [early separator (by simp)] at separates
        cases separates
  | @record start rest line behind unusable =>
      rcases divided_of_append divided with ⟨more, rfl, rfl⟩ | ⟨more, rfl, rfl⟩
      · obtain ⟨earlier, listed, isSeparator⟩ := behind
        rw [clear earlier (List.mem_append_left _ listed)] at isSeparator
        cases isSeparator
      · exact ⟨before, separator, more ++ line :: rest, by simp, clear, separates,
          (shown_of_unusable unusable).symm⟩

theorem Shows.of_padded (shows : Shows reading lines listing)
    (padded : Relation.ReflTransGen (Pads reading listing.entries) lines others) :
    Shows reading others listing := by
  induction padded with
  | refl => exact shows
  | tail _ pads inductionHypothesis => exact inductionHypothesis.of_pads pads

end Padding

/-- An answer fails to be read just if no line of it is a separator.  Otherwise the first separator
divides it: before it are the path and the rows, behind it the records.  Lines from which nothing
is read may be put in anywhere. -/
theorem read_in_sections (reading : Reading) (response : String) :
    (∀ failure, read reading response = .error failure ↔
        (∀ line ∈ linesOf response, isSeparator line = false) ∧
          failure = .malformedListing ("separator missing from "
            ++ toString response.utf8ByteSize ++ " bytes of output")) ∧
      (∀ listing, read reading response = .ok listing ↔
        ∃ before separator after, linesOf response = before ++ separator :: after ∧
          (∀ line ∈ before, isSeparator line = false) ∧ isSeparator separator = true ∧
          listing.path = String.ofList ((tidied before).headD []) ∧
          listing.entries =
            applyRecords ((tidied before).tail.filterMap (readRow? reading)) (tidied after)) ∧
      ∀ listing padded, read reading response = .ok listing →
        Relation.ReflTransGen (Pads reading listing.entries) (linesOf response)
          (linesOf padded) →
          read reading padded = .ok listing := by
  refine ⟨fun failure => read_eq_error_iff, fun listing => ?_, ?_⟩
  · rw [read_eq_ok_iff]
    cases listing
    simp only [Shows, shown, Listing.mk.injEq]
  · intro listing padded answered pads
    exact read_eq_ok_iff.mpr ((read_eq_ok_iff.mp answered).of_padded pads)

/-- A blank line before the path, a total before the first row, and behind another separator a
record with an unknown letter. -/
theorem read_in_sections_padded :
    let reading : Reading := ⟨Calendar.Zone.utc, ⟨0, 0, 0⟩⟩
    let row := "lrwxrwxrwx 1 root root 2 2024-01-15 09:30 k -> /x\n"
    let response := "/d\n" ++ row ++ Shell.separator ++ "\nk->D\n" ++ Shell.separator
    let padded := "\r\n/d\ntotal 0\n" ++ row ++ Shell.separator ++ "\nk->D\n" ++ Shell.separator
      ++ "\nk->X"
    ∃ listing, read reading response = .ok listing ∧
      Relation.ReflTransGen (Pads reading listing.entries) (linesOf response) (linesOf padded) ∧
      read reading padded = .ok listing := by
  intro reading row response padded
  let rowLine := "lrwxrwxrwx 1 root root 2 2024-01-15 09:30 k -> /x".toList
  let separator := Shell.separator.toList
  have answers : (read reading response).toOption.isSome = true := by decide +kernel
  have lines : linesOf response = ["/d".toList, rowLine, separator, "k->D".toList, separator] := by
    decide +kernel
  have paddedLines : linesOf padded = ["\r".toList, "/d".toList, "total 0".toList, rowLine, separator,
      "k->D".toList, separator, "k->X".toList] := by
    decide +kernel
  cases answered : read reading response with
  | error failure => simp [answered, Except.toOption] at answers
  | ok listing =>
      have pads : Relation.ReflTransGen (Pads reading listing.entries) (linesOf response)
          (linesOf padded) := by
        rw [lines, paddedLines]
        have first : Pads reading listing.entries
            ["/d".toList, rowLine, separator, "k->D".toList, separator]
            ["\r".toList, "/d".toList, rowLine, separator, "k->D".toList, separator] :=
          .blank [] _ rfl
        have second : Pads reading listing.entries
            ["\r".toList, "/d".toList, rowLine, separator, "k->D".toList, separator]
            ["\r".toList, "/d".toList, "total 0".toList, rowLine, separator, "k->D".toList,
              separator] :=
          .row ["\r".toList, "/d".toList] _ (by decide) (by decide) (by decide +kernel)
            (by decide)
        have third : Pads reading listing.entries
            ["\r".toList, "/d".toList, "total 0".toList, rowLine, separator, "k->D".toList,
              separator]
            ["\r".toList, "/d".toList, "total 0".toList, rowLine, separator, "k->D".toList,
              separator, "k->X".toList] := by
          refine .record ["\r".toList, "/d".toList, "total 0".toList, rowLine, separator,
            "k->D".toList, separator] [] ⟨separator, by simp, by decide⟩ ?_
          intro entry _
          rw [← given?_eq_none_iff, given?, show read? "k->X".toList = some ⟨['k'], 'X'⟩ by decide]
          simp [kind?]
        exact .tail (.tail (.single first) second) third
      exact ⟨listing, rfl, pads, (read_in_sections reading response).2.2 listing padded answered pads⟩

end DeviceBrowser.Listing
