import DeviceBrowser.Proofs.Listing.Page

/-!
What holds of every entry that is read, whatever was printed.

`Entry.WellFormed` follows from the way in which a line is cut into columns, and a record of a
symbolic link keeps it up, since all that a record can do is to make one kind of link of another.
-/

namespace DeviceBrowser

open DeviceBrowser.Text DeviceBrowser.Calendar Listing

structure Entry.WellFormed (entry : Entry) : Prop where
  named : entry.name ≠ "" ∧ entry.name ≠ "." ∧ entry.name ≠ ".."
  nameLine : '\n' ∉ entry.name.toList ∧ '?' ∉ entry.name.toList
  permissionsColumn : isColumn entry.permissions.toList = true
  permissionsSize : 10 ≤ entry.permissions.utf8ByteSize
  typed : ∃ letter ∈ ['-', 'd', 'l', 'c', 'b', 'p', 's'],
    entry.permissions.toList.head? = some letter
  directory : entry.kind = .directory ↔ entry.permissions.toList.head? = some 'd'
  link : entry.kind.isLink = true ↔ entry.permissions.toList.head? = some 'l'
  pointed : entry.target.isSome = true →
    entry.permissions.toList.head? = some 'l' ∧ ¬ linkArrow <:+: entry.name.toList
  ownerColumn : isColumn entry.owner.toList = true
  groupColumn : isColumn entry.group.toList = true

namespace Listing

variable {reading : Reading} {line : List Char}

theorem kindOf_cons (letter : Char) (rest : List Char) :
    kindOf (letter :: rest) =
      if letter = 'd' then .directory else if letter = 'l' then .linkToFile else .file := by
  unfold kindOf
  grind

theorem kindOf_eq_directory_iff (permissions : List Char) :
    kindOf permissions = .directory ↔ permissions.head? = some 'd' := by
  cases permissions with
  | nil => simp [kindOf]
  | cons letter rest =>
      rw [kindOf_cons, List.head?_cons, Option.some.injEq]
      split
      next directory => simp [directory]
      next other => split <;> simp [other]

theorem isLink_kindOf_iff (permissions : List Char) :
    (kindOf permissions).isLink = true ↔ permissions.head? = some 'l' := by
  cases permissions with
  | nil => simp [kindOf, EntryKind.isLink]
  | cons letter rest =>
      rw [kindOf_cons, List.head?_cons, Option.some.injEq]
      split
      next directory => simp [directory, EntryKind.isLink]
      next => split <;> simp [*, EntryKind.isLink]

theorem isPermissions_iff {column : List Char} :
    isPermissions column = true ↔
      (∃ letter ∈ typeLetters, column.head? = some letter) ∧ 10 ≤ byteLength column := by
  cases column with
  | nil => simp [isPermissions]
  | cons letter rest => simp [isPermissions]

theorem named_of_isOwnName {name : List Char} (named : isOwnName name = false) :
    String.ofList name ≠ "" ∧ String.ofList name ≠ "." ∧ String.ofList name ≠ ".." := by
  have apart : ∀ other : String, name ≠ other.toList → String.ofList name ≠ other := by
    rintro other different rfl
    exact different String.toList_ofList.symm
  simp only [isOwnName, Bool.or_eq_false_iff, List.isEmpty_eq_false_iff,
    beq_eq_false_iff_ne] at named
  exact ⟨apart "" named.1.1, apart "." named.1.2, apart ".." named.2⟩

theorem RowColumns.wellFormed_of_judged? {columns : RowColumns} {entry : Entry}
    (judged : columns.judged? reading = some entry)
    (permissionsColumn : isColumn columns.permissions = true)
    (ownerColumn : isColumn columns.owner = true) (groupColumn : isColumn columns.group = true)
    (nameLine : '\n' ∉ columns.nameText ∧ '?' ∉ columns.nameText) : entry.WellFormed := by
  obtain ⟨shape, name, target, split, named, rfl⟩ := judged?_eq_some_iff.mp judged
  obtain ⟨isPrefix, pointed⟩ :=
    readName_shape (kindOf columns.permissions).isLink columns.nameText
  rw [split] at isPrefix pointed
  obtain ⟨typed, size⟩ := isPermissions_iff.mp shape
  refine
    { named := named_of_isOwnName named
      nameLine := ?_
      permissionsColumn := ?_
      permissionsSize := size
      typed := ?_
      directory := ?_
      link := ?_
      pointed := ?_
      ownerColumn := ?_
      groupColumn := ?_ }
  · rw [String.toList_ofList]
    exact ⟨fun feed => nameLine.1 (isPrefix.subset feed),
      fun mark => nameLine.2 (isPrefix.subset mark)⟩
  · rwa [String.toList_ofList]
  · rw [String.toList_ofList]
    exact typed
  · rw [String.toList_ofList]
    exact kindOf_eq_directory_iff _
  · rw [String.toList_ofList]
    exact isLink_kindOf_iff _
  · rw [String.toList_ofList, String.toList_ofList, Option.isSome_map]
    intro present
    obtain ⟨isLink, arrowless⟩ := pointed present
    exact ⟨(isLink_kindOf_iff _).mp isLink, arrowless⟩
  · rwa [String.toList_ofList]
  · rwa [String.toList_ofList]

theorem wellFormed_of_readRow? {entry : Entry} (feedless : '\n' ∉ line)
    (found : readRow? reading line = some entry) : entry.WellFormed := by
  rw [readRow?_eq] at found
  split at found
  next => cases found
  next kept =>
    obtain ⟨columns, read, judged⟩ := Option.bind_eq_some_iff.mp found
    obtain ⟨permissionsColumn, ownerColumn, groupColumn, suffix⟩ := readColumns?_shape read
    have known : '?' ∉ line := by
      simp only [isRejected, Bool.or_eq_true, not_or] at kept
      simpa using kept.2
    exact columns.wellFormed_of_judged? judged permissionsColumn ownerColumn groupColumn
      ⟨fun feed => feedless (suffix.subset feed), fun mark => known (suffix.subset mark)⟩

namespace LinkRecord

/-- A record changes nothing about an entry but which kind of link it is. -/
theorem wellFormed_refine {entry : Entry} (wellFormed : entry.WellFormed) (letter : Char) :
    (refine letter entry).WellFormed := by
  unfold refine
  split
  next link =>
    have stays : ((kind? letter).getD entry.kind).isLink = true := by
      cases known : kind? letter with
      | none => exact link
      | some kind => exact isLink_of_kind? known
    have letters := wellFormed.link.mp link
    refine { wellFormed with directory := ?_, link := ?_ }
    · refine iff_of_false ?_ (by simp [letters])
      intro directory
      dsimp only at directory
      rw [directory] at stays
      cases stays
    · exact iff_of_true stays letters
  next => exact wellFormed

end LinkRecord

theorem forall_of_modifyLast? {Element : Type} {property : Element → Prop}
    {test : Element → Bool} {change : Element → Element} {elements changed : List Element}
    (kept : ∀ element, property element → property (change element))
    (all : ∀ element ∈ elements, property element)
    (modified : modifyLast? test change elements = some changed) :
    ∀ element ∈ changed, property element := by
  induction elements generalizing changed with
  | nil => cases modified
  | cons head tail inductionHypothesis =>
      rw [List.forall_mem_cons] at all
      rw [modifyLast?] at modified
      split at modified
      next rest found =>
        obtain rfl := Option.some.inj modified
        exact List.forall_mem_cons.mpr ⟨all.1, inductionHypothesis all.2 found⟩
      next =>
        split at modified
        next =>
          obtain rfl := Option.some.inj modified
          exact List.forall_mem_cons.mpr ⟨kept head all.1, all.2⟩
        next => cases modified

theorem wellFormed_applyRecord {entries : List Entry} (record : LinkRecord)
    (wellFormed : ∀ entry ∈ entries, entry.WellFormed) :
    ∀ entry ∈ applyRecord entries record, entry.WellFormed := by
  unfold applyRecord
  dsimp only
  cases modified : modifyLast? (·.name == String.ofList record.name)
      (LinkRecord.refine record.letter) entries with
  | none => exact wellFormed
  | some changed =>
      exact forall_of_modifyLast?
        (fun _ shape => LinkRecord.wellFormed_refine shape record.letter) wellFormed modified

theorem wellFormed_applyRecords {entries : List Entry} (lines : List (List Char))
    (wellFormed : ∀ entry ∈ entries, entry.WellFormed) :
    ∀ entry ∈ applyRecords entries lines, entry.WellFormed := by
  unfold applyRecords
  generalize lines.filterMap LinkRecord.read? = records
  induction records generalizing entries with
  | nil => exact wellFormed
  | cons record records inductionHypothesis =>
      exact inductionHypothesis (wellFormed_applyRecord record wellFormed)

/-- Whatever a shell has printed, every entry of a listing that is read from it is well formed,
and no record of a symbolic link changes that. -/
theorem wellFormed_of_mem_entries {response : String} {listing : Listing}
    (found : read reading response = .ok listing) :
    ∀ entry ∈ listing.entries, entry.WellFormed := by
  unfold read at found
  dsimp only at found
  split at found
  next => cases found
  next separator records lines =>
    obtain rfl := Except.ok.inj found
    apply wellFormed_applyRecords
    intro entry listed
    obtain ⟨line, present, row⟩ := List.mem_filterMap.mp listed
    apply wellFormed_of_readRow? _ row
    have among := (List.takeWhile_prefix _).subset (List.mem_of_mem_tail present)
    exact feedless_of_mem_inkedLines among

/-- The records contradict each other, and one of them speaks of a directory. -/
theorem wellFormed_of_mem_entries_contradicted :
    let reading : Reading := ⟨Zone.utc, ⟨0, 0, 0⟩⟩
    let response := "no path\nlrwxrwxrwx\u2003x me us ?\n"
      ++ "lrwxrwxrwx\u2003x me us 4, z 0 noon  k -> a -> b\r\n"
      ++ "drwxr-xr-x 2 me us 1 May 5 2019 d -> e\n"
      ++ Shell.separator ++ "\nk->D\nd -> e->F\n k->B\n k->D\n"
    ∃ listing, read reading response = .ok listing ∧
      listing.entries.map (·.name) = [" k", "d -> e"] ∧
      ∀ entry ∈ listing.entries, entry.WellFormed := by
  intro reading response
  have names : (read reading response).toOption.map (fun listing =>
      listing.entries.map (·.name)) = some [" k", "d -> e"] := by
    decide +kernel
  cases found : read reading response with
  | error failure =>
      rw [found] at names
      cases names
  | ok listing =>
      rw [found] at names
      exact ⟨listing, rfl, Option.some.inj names, wellFormed_of_mem_entries found⟩

end Listing

end DeviceBrowser
