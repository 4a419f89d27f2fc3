import DeviceBrowser.Proofs.Listing.Entry

/-!
Looking up a symbolic link by its name, and what the records say of it.

A lookup finds the first entry with a name and a record speaks of the last one.  So what is
found is what the records made of it only where no other entry has the name; if there are
several, the first of them is left as a link to a file.
-/

namespace DeviceBrowser.Listing

open DeviceBrowser.Text

def linkRecords (response : String) : List LinkRecord :=
  ((inkedLines response.toList).dropWhile (!isSeparator ·)).tail.filterMap LinkRecord.read?

/-- The entries of its rows, before any record is heeded. -/
def listedRows (reading : Reading) (response : String) : List Entry :=
  ((inkedLines response.toList).takeWhile (!isSeparator ·)).tail.filterMap (readRow? reading)

variable {reading : Reading} {entries : List Entry} {name : String} {entry : Entry}

/-- Among settled entries the first with a name is found, and it is settled if it is the only
one. -/
theorem find?_settleAll (records : List LinkRecord) (entries : List Entry) (name : String) :
    (settleAll records entries).find? (·.name == name) =
      (entries.find? (·.name == name)).map fun entry =>
        if entries.countP (·.name == name) = 1 then LinkRecord.settle records entry
        else entry := by
  induction entries with
  | nil => rfl
  | cons entry entries inductionHypothesis =>
      rw [settleAll]
      by_cases named : entry.name = name
      · subst named
        cases repeated : entries.any (·.name == entry.name) with
        | true =>
            have several : entries.countP (·.name == entry.name) ≠ 0 := by
              simpa [List.countP_eq_zero] using repeated
            simp [several]
        | false =>
            have alone : entries.countP (·.name == entry.name) = 0 := by
              simpa [List.countP_eq_zero] using repeated
            simp [alone]
      · have passed : ∀ head : Entry, head.name = entry.name → (head.name == name) = false := by
          intro head same
          rw [same, beq_eq_false_iff_ne]
          exact named
        rw [List.find?_cons_of_neg (by split <;> simp [named]),
          List.find?_cons_of_neg (by simp [named]), inductionHypothesis,
          List.countP_cons_of_neg (by simp [named])]

theorem countP_name_settleAll (records : List LinkRecord) (entries : List Entry)
    (name : String) :
    (settleAll records entries).countP (·.name == name) =
      entries.countP (·.name == name) := by
  induction entries with
  | nil => rfl
  | cons entry entries inductionHypothesis =>
      rw [settleAll, List.countP_cons, List.countP_cons, inductionHypothesis]
      split <;> simp

theorem LinkRecord.kind_settle {records : List LinkRecord} {kind : EntryKind}
    (link : (settle records entry).kind.isLink = true)
    (recorded : lastKind? records entry.name = some kind) :
    (settle records entry).kind = kind := by
  unfold settle at link ⊢
  split
  next => simp [recorded]
  next other => exact absurd (by rwa [if_neg other] at link) other

theorem kind_of_readRow? {line : List Char} (found : readRow? reading line = some entry)
    (link : entry.kind.isLink = true) : entry.kind = .linkToFile := by
  rw [readRow?_eq] at found
  split at found
  next => cases found
  next =>
    obtain ⟨columns, -, judged⟩ := Option.bind_eq_some_iff.mp found
    obtain ⟨-, name, target, -, -, rfl⟩ := RowColumns.judged?_eq_some_iff.mp judged
    dsimp only at link ⊢
    unfold kindOf at link ⊢
    split at link
    next directory => cases link
    next => rfl
    next file => cases link

theorem entries_of_read {response : String} {listing : Listing}
    (answered : read reading response = .ok listing) :
    listing.entries = settleAll (linkRecords response) (listedRows reading response) := by
  unfold read at answered
  dsimp only at answered
  split at answered
  next => cases answered
  next separator recordLines lines =>
    obtain rfl := Except.ok.inj answered
    rw [← foldl_applyRecord, linkRecords, lines, List.tail_cons]
    rfl

/-- A link that is found by its name is of the kind that the last record for that name gives it
if no other entry has the name, and counts as a link to a file otherwise. -/
theorem kind_of_find? {response : String} {listing : Listing} {kind : EntryKind}
    (answered : read reading response = .ok listing) (found : listing.find? name = some entry)
    (link : entry.kind.isLink = true)
    (recorded : LinkRecord.lastKind? (linkRecords response) name = some kind) :
    entry.kind =
      if listing.entries.countP (·.name == name) = 1 then kind else .linkToFile := by
  rw [Listing.find?, entries_of_read answered, find?_settleAll] at found
  rw [entries_of_read answered, countP_name_settleAll]
  obtain ⟨row, rowFound, rfl⟩ := Option.map_eq_some_iff.mp found
  split at link
  next single =>
    rw [if_pos single, if_pos single]
    have named : row.name = name := by simpa using List.find?_some rowFound
    exact LinkRecord.kind_settle link (named ▸ recorded)
  next several =>
    rw [if_neg several, if_neg several]
    obtain ⟨line, -, row⟩ := List.mem_filterMap.mp (List.mem_of_find?_eq_some rowFound)
    exact kind_of_readRow? row link

/-- The last record has an unknown letter, and the one before it counts. -/
theorem kind_of_find?_rerecorded :
    let reading : Reading := ⟨Calendar.Zone.utc, ⟨0, 0, 0⟩⟩
    let response := "/d\nlrwxrwxrwx 1 root root 2 2024-01-15 09:30 k -> /x\n"
      ++ Shell.separator ++ "\nk->B\nk->D\nk->X\n"
    ∃ listing entry, read reading response = .ok listing ∧ listing.find? "k" = some entry ∧
      entry.kind.isLink = true ∧
      LinkRecord.lastKind? (linkRecords response) "k" = some .linkToDirectory ∧
      entry.kind =
        if listing.entries.countP (·.name == "k") = 1 then .linkToDirectory else .linkToFile := by
  intro reading response
  have link : ((read reading response).toOption.bind fun listing =>
      (listing.find? "k").map (·.kind.isLink)) = some true := by
    decide +kernel
  have recorded : LinkRecord.lastKind? (linkRecords response) "k" = some .linkToDirectory := by
    decide +kernel
  obtain ⟨listing, answered, linked⟩ := Option.bind_eq_some_iff.mp link
  obtain ⟨entry, found, isLink⟩ := Option.map_eq_some_iff.mp linked
  cases answer : read reading response with
  | error failure =>
      rw [answer] at answered
      cases answered
  | ok read =>
      rw [answer] at answered
      obtain rfl := Option.some.inj answered
      exact ⟨read, entry, rfl, found, isLink, recorded,
        kind_of_find? answer found isLink recorded⟩

/-- A link to `/x` and one whose name holds an arrow are both read as links named `a`.  The
first is found, and what the record makes a link to a directory is the second. -/
theorem find?_misses_record :
    let reading : Reading := ⟨Calendar.Zone.utc, ⟨0, 0, 0⟩⟩
    let response := "/d\nlrwxrwxrwx 1 root root 2 2024-01-15 09:30 a -> /x\n"
      ++ "lrwxrwxrwx 1 root root 1 2024-01-15 09:30 a -> b -> c\n"
      ++ Shell.separator ++ "\na->D\na -> b->F\n"
    ((read reading response).toOption.bind fun listing =>
        (listing.find? "a").map (·.kind)) = some .linkToFile ∧
      LinkRecord.lastKind? (linkRecords response) "a" = some .linkToDirectory := by
  decide +kernel

end DeviceBrowser.Listing
