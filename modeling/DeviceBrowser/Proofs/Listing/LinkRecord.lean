import DeviceBrowser.Listing.LinkRecord
import DeviceBrowser.Proofs.Text.Blank
import DeviceBrowser.Proofs.Text.Search

/-!
What records make of the entries of a directory.

Applying records one after another comes to this: a symbolic link that is the last entry
with its name gets the kind of the last record with that name whose letter is known, and
everything else stays as it is.
-/

namespace DeviceBrowser.Listing

open DeviceBrowser.Text

namespace LinkRecord

def text (record : LinkRecord) : List Char :=
  record.name ++ (Shell.arrow.toList ++ [record.letter])

theorem read?_text {record : LinkRecord} (named : record.name ≠ [])
    (inked : isBlank record.letter = false) : read? record.text = some record := by
  have reversed : record.text.reverse =
      record.letter :: '>' :: '-' :: record.name.reverse := by
    simp [text, Shell.arrow]
  have found : firstIndex? Shell.arrow.toList.reverse record.text.reverse = some 1 := by
    have pattern : Shell.arrow.toList.reverse = ['>', '-'] := rfl
    rw [reversed, pattern, firstIndex?_cons, firstIndex?_cons]
    simp [List.isPrefixOf]
  have split : splitLast? Shell.arrow.toList record.text = some (record.name, [record.letter]) := by
    rw [splitLast?, splitFirst?, found, reversed]
    simp [Shell.arrow]
  have trimmed : trimEnd [record.letter] = [record.letter] := by
    simp [trimEnd, trimEndWhere, inked]
  rw [read?, split]
  simp [trimmed, named]

theorem read?_concat {c : Char} (line : List Char) (blank : isBlank c = true) :
    read? (line ++ [c]) = read? line := by
  have different : '>' ≠ c := by
    rintro rfl
    exact absurd blank (by decide)
  have pattern : Shell.arrow.toList.reverse = ['>', '-'] := rfl
  have split : splitLast? Shell.arrow.toList (line ++ [c]) =
      (splitLast? Shell.arrow.toList line).map fun parts => (parts.1, parts.2 ++ [c]) := by
    rw [splitLast?, splitFirst?, splitLast?, splitFirst?, List.reverse_concat, pattern,
      firstIndex?_cons, if_neg (by simp [List.isPrefixOf, different])]
    simp [Option.map_map, Function.comp_def, List.take_succ_cons]
  unfold read?
  rw [split]
  cases splitLast? Shell.arrow.toList line with
  | none => rfl
  | some parts => simp [trimEnd_concat parts.2 blank]

theorem read?_trimLineEnds (line : List Char) : read? (trimLineEnds line) = read? line :=
  apply_trimLineEnds (fun line _ lineEnd => read?_concat line (isBlank_of_isLineEnd lineEnd)) line

/-- The class letters, and what a link of each class is. -/
def classes : List (Char × EntryKind) :=
  [('D', .linkToDirectory), ('F', .linkToFile), ('B', .brokenLink)]

theorem mem_classes_iff {letter : Char} {kind : EntryKind} :
    (letter, kind) ∈ classes ↔ kind? letter = some kind := by
  unfold classes kind?
  split <;> simp_all [eq_comm]

theorem lookup_classes (letter : Char) : classes.lookup letter = kind? letter := by
  unfold kind?
  split
  next => rfl
  next => rfl
  next => rfl
  next directory file broken =>
    simp only [classes, List.lookup_cons, beq_false_of_ne directory, beq_false_of_ne file,
      beq_false_of_ne broken, List.lookup_nil]

theorem isLink_of_kind? {letter : Char} {kind : EntryKind} (known : kind? letter = some kind) :
    kind.isLink = true := by
  unfold kind? at known
  split at known <;> cases known <;> rfl

/-- The kind that records give to symbolic links of a name.  Later records go before earlier
ones. -/
def lastKind? (records : List LinkRecord) (name : String) : Option EntryKind :=
  (records.filterMap fun record =>
    if name = String.ofList record.name then kind? record.letter else none).getLast?

def settle (records : List LinkRecord) (entry : Entry) : Entry :=
  if entry.kind.isLink then
    { entry with kind := (lastKind? records entry.name).getD entry.kind }
  else entry

@[simp]
theorem settle_name (records : List LinkRecord) (entry : Entry) :
    (settle records entry).name = entry.name := by
  unfold settle
  split <;> rfl

theorem lastKind?_eq_findSome? (records : List LinkRecord) (name : List Char) :
    lastKind? records (String.ofList name) =
      records.reverse.findSome? fun record =>
        if record.name = name then classes.lookup record.letter else none := by
  rw [lastKind?, List.getLast?_filterMap]
  congr 1
  funext record
  rw [lookup_classes]
  exact if_congr (String.ofList_inj.trans eq_comm) rfl rfl

theorem lastKind?_concat (records : List LinkRecord) (record : LinkRecord) (name : String) :
    lastKind? (records ++ [record]) name =
      if name = String.ofList record.name then
        (kind? record.letter).or (lastKind? records name)
      else lastKind? records name := by
  unfold lastKind?
  rw [List.filterMap_append, List.getLast?_append]
  split
  next same =>
    congr 1
    cases known : kind? record.letter <;> simp [same, known]
  next different => simp [different]

theorem isLink_of_lastKind? {records : List LinkRecord} {name : String} {kind : EntryKind}
    (known : lastKind? records name = some kind) : kind.isLink = true := by
  obtain ⟨record, _, found⟩ := List.mem_filterMap.mp (List.mem_of_getLast? known)
  split at found
  next => exact isLink_of_kind? found
  next => cases found

theorem settle_concat (records : List LinkRecord) (record : LinkRecord) (entry : Entry) :
    settle (records ++ [record]) entry =
      if entry.name = String.ofList record.name then refine record.letter (settle records entry)
      else settle records entry := by
  have stays : entry.kind.isLink = true →
      ((lastKind? records entry.name).getD entry.kind).isLink = true := by
    intro link
    cases known : lastKind? records entry.name with
    | none => exact link
    | some kind => exact isLink_of_lastKind? known
  unfold settle refine
  rw [lastKind?_concat]
  by_cases same : entry.name = String.ofList record.name
  · rw [if_pos same, if_pos same]
    cases link : entry.kind.isLink with
    | false => simp [link]
    | true => cases kind? record.letter <;> simp [stays link]
  · rw [if_neg same, if_neg same]

end LinkRecord

theorem isSome_modifyLast? {Element : Type} (test : Element → Bool)
    (change : Element → Element) (elements : List Element) :
    (modifyLast? test change elements).isSome = elements.any test := by
  induction elements with
  | nil => rfl
  | cons head tail inductionHypothesis =>
      rw [List.any_cons, ← inductionHypothesis, modifyLast?]
      cases modifyLast? test change tail with
      | some changed => simp
      | none => cases test head <;> rfl

/-- A record is for the first entry only if no other has its name. -/
theorem applyRecord_cons (entry : Entry) (entries : List Entry) (record : LinkRecord) :
    applyRecord (entry :: entries) record =
      (if !entries.any (·.name == String.ofList record.name) &&
          entry.name == String.ofList record.name then
        LinkRecord.refine record.letter entry
      else entry) :: applyRecord entries record := by
  unfold applyRecord
  simp only
  rw [← isSome_modifyLast? (·.name == String.ofList record.name)
    (LinkRecord.refine record.letter) entries, modifyLast?]
  cases modifyLast? (·.name == String.ofList record.name)
      (LinkRecord.refine record.letter) entries with
  | some changed => simp
  | none => cases entry.name == String.ofList record.name <;> simp

def settleAll (records : List LinkRecord) : List Entry → List Entry
  | [] => []
  | entry :: entries =>
      (if entries.any (·.name == entry.name) then entry else LinkRecord.settle records entry) ::
        settleAll records entries

theorem any_name_settleAll (records : List LinkRecord) (entries : List Entry) (name : String) :
    (settleAll records entries).any (·.name == name) = entries.any (·.name == name) := by
  induction entries with
  | nil => rfl
  | cons entry entries inductionHypothesis =>
      rw [settleAll, List.any_cons, List.any_cons, inductionHypothesis]
      split <;> simp

theorem applyRecord_settleAll (records : List LinkRecord) (record : LinkRecord)
    (entries : List Entry) :
    applyRecord (settleAll records entries) record = settleAll (records ++ [record]) entries := by
  induction entries with
  | nil => rfl
  | cons entry entries inductionHypothesis =>
      rw [settleAll, applyRecord_cons, inductionHypothesis, settleAll, any_name_settleAll]
      congr 1
      by_cases same : entry.name = String.ofList record.name
      · rw [← same]
        cases repeated : entries.any (·.name == entry.name) with
        | true => simp
        | false => simp [LinkRecord.settle_concat, same]
      · cases repeated : entries.any (·.name == entry.name) with
        | true => simp [same]
        | false => simp [LinkRecord.settle_concat, same]

/-- Applying records in turn settles each entry on its own. -/
theorem foldl_applyRecord (records : List LinkRecord) (entries : List Entry) :
    records.foldl applyRecord entries = settleAll records entries := by
  induction records using List.reverseRecOn with
  | nil =>
      induction entries with
      | nil => rfl
      | cons entry entries inductionHypothesis =>
          rw [settleAll, ← inductionHypothesis]
          simp [LinkRecord.settle, LinkRecord.lastKind?]
  | append_singleton records record inductionHypothesis =>
      rw [List.foldl_concat, inductionHypothesis, applyRecord_settleAll]

theorem settleAll_eq_map {entries : List Entry} (records : List LinkRecord)
    (distinct : (entries.map (·.name)).Nodup) :
    settleAll records entries = entries.map (LinkRecord.settle records) := by
  induction entries with
  | nil => rfl
  | cons entry entries inductionHypothesis =>
      rw [List.map_cons, List.nodup_cons] at distinct
      have single : entries.any (·.name == entry.name) = false := by
        apply Bool.eq_false_iff.mpr
        intro repeated
        simp only [List.any_eq_true, beq_iff_eq] at repeated
        obtain ⟨other, listed, same⟩ := repeated
        exact distinct.1 (List.mem_map.mpr ⟨other, listed, same⟩)
      rw [settleAll, single, inductionHypothesis distinct.2, List.map_cons]
      rfl

end DeviceBrowser.Listing
