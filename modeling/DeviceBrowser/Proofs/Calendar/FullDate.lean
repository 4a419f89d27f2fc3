import DeviceBrowser.Proofs.Calendar.ShortDate

/-!
Full dates, which say their year.

A date in numbers goes with a time of day, and a date by name with a year in the place of the
time.  Either is read as the instant at which the clock shows it.  What no calendar or clock shows
is not read at all, but for one kind of time: the moment at which the clock is put forward, which
some zones still count to the clock before.
-/

namespace DeviceBrowser.Calendar

open DeviceBrowser.Text

namespace Zone

variable {zone : Zone} {second : Int}

def Shows (zone : Zone) (second : Int) : Prop :=
  ∃ instant, zone.localSecond instant = second

def WithinDay (zone : Zone) : Prop :=
  ∀ offset ∈ zone.offsets, -secondsPerDay < offset ∧ offset < secondsPerDay

instance (zone : Zone) : Decidable zone.WithinDay :=
  inferInstanceAs (Decidable (∀ offset ∈ zone.offsets,
    -secondsPerDay < offset ∧ offset < secondsPerDay))

theorem find?_offsets_eq_none_iff :
    (zone.offsets.find? fun offset => zone.offsetAt (second - offset) == offset) = none ↔
      ¬ zone.Shows second := by
  simp only [List.find?_eq_none, beq_iff_eq]
  constructor
  · rintro missing ⟨instant, rfl⟩
    apply missing _ (zone.offsetAt_mem instant)
    congr 1
    rw [localSecond]
    omega
  · intro skipped offset _ shown
    exact skipped ⟨second - offset, by rw [localSecond, shown]; omega⟩

theorem readingOffset?_of_skipped (skipped : ¬ zone.Shows second) :
    zone.readingOffset? second =
      if zone.countsBefore second then
        zone.offsets.find? fun offset => zone.offsetAt (second - 1 - offset) == offset
      else none := by
  have before : ∀ offset, second - offset - 1 = second - 1 - offset := by omega
  unfold readingOffset?
  dsimp only
  rw [find?_offsets_eq_none_iff.mpr skipped, Option.none_or]
  simp only [before]

theorem stampOf?_of_skipped (skipped : ¬ zone.Shows second)
    (apart : zone.countsBefore second = true → ¬ zone.Shows (second - 1)) :
    zone.stampOf? second = none := by
  rw [stampOf?, readingOffset?_of_skipped skipped]
  split
  next counts => rw [find?_offsets_eq_none_iff.mpr (apart counts), Option.bind_none]
  next => rfl

theorem exists_reading_of_skipped (skipped : ¬ zone.Shows second)
    (before : zone.Shows (second - 1)) (counts : zone.countsBefore second = true) :
    ∃ instant, zone.localSecond instant = second - 1 ∧
      zone.readingOffset? second = some (zone.offsetAt instant) := by
  rw [readingOffset?_of_skipped skipped, if_pos counts]
  cases found : zone.offsets.find? fun offset => zone.offsetAt (second - 1 - offset) == offset with
  | none => exact absurd before (find?_offsets_eq_none_iff.mp found)
  | some offset =>
      have shown : zone.offsetAt (second - 1 - offset) = offset := by
        simpa using List.find?_some found
      exact ⟨second - 1 - offset, by rw [localSecond, shown]; omega, by rw [shown]⟩

theorem readingOffset?_mem {offset : Int} (found : zone.readingOffset? second = some offset) :
    offset ∈ zone.offsets := by
  rcases Option.or_eq_some_iff.mp found with shown | ⟨-, ending⟩
  · exact List.mem_of_find?_eq_some shown
  · exact List.mem_of_find?_eq_some (Option.ite_none_right_eq_some.mp ending).2

end Zone

namespace Date

variable {date : Date}

/-- What a clock shows on a date, in seconds from local 1 January 1970. -/
def clockTime (date : Date) (hour minute : Nat) : Int :=
  secondsPerDay * date.dayNumber + (3600 * hour + 60 * minute)

/-- Whether a year has four digits at most, and no sign. -/
def IsWritable (date : Date) : Prop :=
  0 ≤ date.year ∧ date.year ≤ 9999

instance (date : Date) : Decidable date.IsWritable :=
  inferInstanceAs (Decidable (0 ≤ date.year ∧ date.year ≤ 9999))

theorem isReckoned_iff : date.isReckoned = true ↔ -262143 ≤ date.year ∧ date.year ≤ 262142 := by
  rw [isReckoned, Bool.and_eq_true, decide_eq_true_eq, decide_eq_true_eq, earliestYear, latestYear]

theorem IsWritable.isReckoned (writable : date.IsWritable) : date.isReckoned = true := by
  obtain ⟨low, high⟩ := writable
  rw [isReckoned_iff]
  omega

theorem IsCivil.dayNumber_bounds (civil : date.IsCivil) (writable : date.IsWritable) :
    -1000000 < date.dayNumber ∧ date.dayNumber < 4000000 := by
  obtain ⟨⟨_, _⟩, _, lastDay⟩ := civil
  obtain ⟨_, _⟩ := writable
  have days := daysInMonth_le date.year date.month
  unfold dayNumber epochDay
  dsimp only
  split <;> omega

theorem IsCivil.isReckoned_of_dayNumber (civil : date.IsCivil) (low : -2000000 < date.dayNumber)
    (high : date.dayNumber < 5000000) : date.isReckoned = true := by
  obtain ⟨⟨_, _⟩, _, lastDay⟩ := civil
  have days := daysInMonth_le date.year date.month
  rw [isReckoned_iff]
  unfold dayNumber epochDay at low high
  dsimp only at low high
  split at low <;> omega

end Date

/-- A local time of a date with four digits for its year is never out of reach. -/
theorem Zone.stampOf?_clockTime {zone : Zone} (offsets : zone.WithinDay) {date : Date}
    (civil : date.IsCivil) (writable : date.IsWritable) {hour minute : Nat} (hours : hour < 24)
    (minutes : minute < 60) :
    zone.stampOf? (date.clockTime hour minute) =
      (zone.readingOffset? (date.clockTime hour minute)).map fun offset =>
        ⟨date.clockTime hour minute - offset, 0, offset⟩ := by
  rw [stampOf?, Option.map_eq_bind]
  apply Option.bind_congr
  intro offset found
  have bounds := offsets offset (readingOffset?_mem found)
  have days := civil.dayNumber_bounds writable
  unfold Date.clockTime secondsPerDay at *
  refine if_pos ((Date.isCivil_ofDayNumber _).isReckoned_of_dayNumber ?_ ?_)
  all_goals
    rw [Date.dayNumber_ofDayNumber]
    dsimp only [secondsPerDay]
    omega

section Reading

variable {text rest : List Char} {most : Nat}

theorem splitDigits?_append (digits : isDigits text = true) (rest : List Char) :
    splitDigits? text.length (text ++ rest) = some (digitsValue text, rest) := by
  have all : text.takeWhile Char.isDigit = text :=
    List.takeWhile_eq_self_iff.mpr fun c present => isDigit_of_isDigits digits present
  unfold splitDigits?
  rw [List.take_left, all]
  cases text with
  | nil => simp [isDigits] at digits
  | cons head tail => simp

theorem splitDigits?_decimalWide {n : Nat} (positive : 0 < most) (small : n < 10 ^ most)
    (rest : List Char) : splitDigits? most (decimalWide most n ++ rest) = some (n, rest) := by
  have split := splitDigits?_append (isDigits_decimalWide most n) rest
  rwa [length_decimalWide positive small, digitsValue_decimalWide] at split

theorem trimStart_digits (digits : isDigits text = true) (rest : List Char) :
    trimStart (text ++ rest) = text ++ rest := by
  cases text with
  | nil => simp [isDigits] at digits
  | cons head tail =>
      have inked := isBlank_of_isDigit (isDigit_of_isDigits digits List.mem_cons_self)
      simp [trimStart, inked]

theorem readYear?_digits (digits : isDigits text = true) (rest : List Char) :
    readYear? (text ++ rest) =
      (splitDigits? 4 (text ++ rest)).map fun (n, rest) => ((n : Int), rest) := by
  unfold readYear?
  rw [trimStart_digits digits]
  cases text with
  | nil => simp [isDigits] at digits
  | cons head tail =>
      have digit := isDigit_of_isDigits digits List.mem_cons_self
      split
      next sign =>
        rw [List.cons_append, List.cons.injEq] at sign
        exact absurd (sign.1 ▸ digit) (by decide)
      next sign =>
        rw [List.cons_append, List.cons.injEq] at sign
        exact absurd (sign.1 ▸ digit) (by decide)
      next => rfl

variable {date : Date}

theorem dateText_of_isWritable (writable : date.IsWritable) :
    dateText date = decimalWide 4 date.year.toNat ++
      '-' :: (decimalWide 2 date.month ++ '-' :: (decimalWide 2 date.day ++ [])) := by
  have range : 0 ≤ date.year ∧ date.year ≤ 9999 := writable
  rw [dateText, yearText, if_pos range, List.append_nil, List.append_assoc, List.cons_append]

theorem readNumericDate?_dateText (writable : date.IsWritable) (month : date.month < 100)
    (day : date.day < 100) :
    readNumericDate? (dateText date) = Date.ofParts? date.year date.month date.day := by
  obtain ⟨low, high⟩ := writable
  have year : date.year.toNat < 10 ^ 4 := by omega
  have same : (date.year.toNat : Int) = date.year := by omega
  rw [dateText_of_isWritable ⟨low, high⟩, readNumericDate?,
    readYear?_digits (isDigits_decimalWide _ _), splitDigits?_decimalWide (by decide) year]
  simp only [Option.map_some, Option.bind_eq_bind, Option.bind_some, same]
  rw [trimStart_digits (isDigits_decimalWide _ _), splitDigits?_decimalWide (by decide) month,
    Option.bind_some]
  simp only [trimStart_digits (isDigits_decimalWide 2 date.day),
    splitDigits?_decimalWide (by decide : 0 < 2) day]
  rfl

theorem isColumn_dateText (writable : date.IsWritable) : isColumn (dateText date) = true := by
  rw [dateText_of_isWritable writable, List.append_nil]
  have digits : ∀ width n, isColumn (decimalWide width n) = true := fun width n =>
    isColumn_of_isDigits (isDigits_decimalWide width n)
  exact isColumn_append_cons (digits _ _) rfl (isColumn_append_cons (digits _ _) rfl (digits _ _))

theorem TimeColumn.read?_year {year : Nat} (small : year < 10000) :
    TimeColumn.read? (trim (decimalWide 4 year)) = some (.inYear year) := by
  have digits := isDigits_decimalWide 4 year
  have colonless : ':' ∉ decimalWide 4 year := fun present =>
    absurd (isDigit_of_isDigits digits present) (by decide)
  have length : (decimalWide 4 year).length = 4 := length_decimalWide (by decide) small
  rw [trim_of_isColumn (isColumn_of_isDigits digits), read?, splitFirst?_eq_none colonless]
  simp [digits, length, digitsValue_decimalWide]

end Reading

/-- A month's name in any case, and a day in digits, with blanks between them. -/
structure NamedDay.Writes (named : NamedDay) (month day : Nat) : Prop where
  known : 1 ≤ month ∧ month ≤ 12
  name : named.name.map Char.toLower = (monthTitle month).map Char.toLower
  blanks : isAllBlank named.blanks = true
  apart : named.blanks ≠ []
  digits : isDigits named.day = true
  value : digitsValue named.day = day

theorem NamedDay.Writes.spells {named : NamedDay} {month day : Nat}
    (writes : named.Writes month day) : named.Spells month day where
  name := by
    rw [← monthNumber?_monthTitle month writes.known.2 writes.known.1, monthNumber?, monthNumber?,
      writes.name]
  blanks := writes.blanks
  apart := writes.apart
  digits := writes.digits
  value := writes.value

/-- Which date, hour and minute a date and a time column say, whether there are such or not. -/
inductive Tells (now : Timestamp) : List Char → List Char → Date → Nat → Nat → Prop
  | numeric {date : Date} {hour minute : List Char} (month : date.month < 100)
      (day : date.day < 100) (hourDigits : isDigits hour = true)
      (minuteDigits : isDigits minute = true) :
      Tells now (dateText date) (hour ++ ':' :: minute) date (digitsValue hour) (digitsValue minute)
  | inYear {named : NamedDay} {date : Date} (writes : named.Writes date.month date.day) :
      Tells now named.text (decimalWide 4 date.year.toNat) date 0 0
  | thisYear {named : NamedDay} {month day : Nat} {hour minute : List Char}
      (writes : named.Writes month day) (hourDigits : isDigits hour = true)
      (minuteDigits : isDigits minute = true) :
      Tells now named.text (hour ++ ':' :: minute) ⟨now.date.year, month, day⟩ (digitsValue hour)
        (digitsValue minute)

section Tells

variable {zone : Zone} {now : Timestamp} {dateColumn timeColumn : List Char} {date : Date}
  {hour minute : Nat}

theorem Tells.listedTime?_eq (tells : Tells now dateColumn timeColumn date hour minute)
    (writable : date.IsWritable) (zone : Zone) :
    listedTime? zone now dateColumn timeColumn =
      if hour < 24 ∧ minute < 60 then
        (Date.ofParts? date.year date.month date.day).bind fun date =>
          zone.stampOf? (date.clockTime hour minute)
      else none := by
  cases tells with
  | numeric month day hourDigits minuteDigits =>
      have hyphen : (dateText date).contains '-' = true := by
        rw [dateText_of_isWritable writable]
        simp
      unfold listedTime?
      simp only [TimeColumn.read?_digits hourDigits minuteDigits,
        trim_of_isColumn (isColumn_dateText writable), hyphen,
        readNumericDate?_dateText writable month day]
      split <;> rfl
  | inYear writes =>
      obtain ⟨low, high⟩ := writable
      have same : (date.year.toNat : Int) = date.year := by omega
      have small : date.year.toNat < 10000 := by omega
      unfold listedTime?
      simp only [TimeColumn.read?_year small,
        writes.spells.trim_text, writes.spells.not_contains_hyphen, writes.spells.readNamedDate?,
        Option.bind_eq_bind, Option.bind_some, same]
      rfl
  | thisYear writes hourDigits minuteDigits =>
      unfold listedTime?
      simp only [TimeColumn.read?_digits hourDigits minuteDigits, writes.spells.trim_text,
        writes.spells.not_contains_hyphen, writes.spells.readNamedDate?]
      split <;> rfl

theorem Tells.listedTime?_eq_none (tells : Tells now dateColumn timeColumn date hour minute)
    (writable : date.IsWritable)
    (missing : ¬ date.IsCivil ∨ 24 ≤ hour ∨ 60 ≤ minute ∨
      zone.stampOf? (date.clockTime hour minute) = none) :
    listedTime? zone now dateColumn timeColumn = none := by
  rw [tells.listedTime?_eq writable zone]
  split
  next inDay =>
    by_cases civil : date.IsCivil
    · rw [Date.ofParts?_of_isCivil civil writable.isReckoned, Option.bind_some]
      rcases missing with noDate | noHour | noMinute | skipped
      · exact absurd civil noDate
      · omega
      · omega
      · exact skipped
    · rw [Date.ofParts?_of_not_isCivil civil, Option.bind_none]
  next => rfl

theorem Tells.listedTime?_of_isCivil (tells : Tells now dateColumn timeColumn date hour minute)
    (writable : date.IsWritable) (offsets : zone.WithinDay) (civil : date.IsCivil)
    (hours : hour < 24) (minutes : minute < 60) :
    listedTime? zone now dateColumn timeColumn =
      (zone.readingOffset? (date.clockTime hour minute)).map fun offset =>
        ⟨date.clockTime hour minute - offset, 0, offset⟩ := by
  rw [tells.listedTime?_eq writable zone, if_pos ⟨hours, minutes⟩,
    Date.ofParts?_of_isCivil civil writable.isReckoned, Option.bind_some,
    Zone.stampOf?_clockTime offsets civil writable hours minutes]

theorem Tells.listedTime?_of_showsOnce (tells : Tells now dateColumn timeColumn date hour minute)
    (writable : date.IsWritable) (offsets : zone.WithinDay) (civil : date.IsCivil)
    (hours : hour < 24) (minutes : minute < 60) {instant : Int}
    (shown : zone.localSecond instant = date.clockTime hour minute)
    (once : zone.ShowsOnce instant) :
    listedTime? zone now dateColumn timeColumn = some (Timestamp.inZone zone instant) := by
  have here : zone.localSecond instant - zone.offsetAt instant = instant := by
    rw [Zone.localSecond]
    omega
  rw [tells.listedTime?_of_isCivil writable offsets civil hours minutes, ← shown,
    Zone.readingOffset?_of_showsOnce once, Option.map_some, here]
  rfl

end Tells

/-- A time that is listed with its year is read as the instant at which the clock shows it, if it
does so once.  There is none for a date or a time of day that does not exist, nor while the clock
is put forward.  Only at the moment when that begins the clock before may still count: then this is
read as the instant that follows the second before. -/
theorem listedTime?_fullDate {zone : Zone} {now : Timestamp} {dateColumn timeColumn : List Char}
    {date : Date} {hour minute : Nat} (offsets : zone.WithinDay) (writable : date.IsWritable)
    (tells : Tells now dateColumn timeColumn date hour minute) :
    (date.IsCivil → hour < 24 → minute < 60 →
        (∀ instant, zone.localSecond instant = date.clockTime hour minute →
          zone.ShowsOnce instant →
          listedTime? zone now dateColumn timeColumn = some (Timestamp.inZone zone instant)) ∧
        (¬ zone.Shows (date.clockTime hour minute) →
          zone.Shows (date.clockTime hour minute - 1) →
          zone.countsBefore (date.clockTime hour minute) = true →
          ∃ instant, zone.localSecond instant = date.clockTime hour minute - 1 ∧
            listedTime? zone now dateColumn timeColumn =
              some ⟨instant + 1, 0, zone.offsetAt instant⟩)) ∧
      (¬ date.IsCivil ∨ 24 ≤ hour ∨ 60 ≤ minute ∨
          ¬ zone.Shows (date.clockTime hour minute) ∧
            (zone.countsBefore (date.clockTime hour minute) = true →
              ¬ zone.Shows (date.clockTime hour minute - 1)) →
        listedTime? zone now dateColumn timeColumn = none ∧
          listedTime zone now dateColumn timeColumn = now) := by
  refine ⟨fun civil hours minutes => ⟨?shown, ?begins⟩, ?missing⟩
  case shown =>
    exact fun instant shown once =>
      tells.listedTime?_of_showsOnce writable offsets civil hours minutes shown once
  case begins =>
    intro skipped before counts
    obtain ⟨instant, shown, read⟩ := Zone.exists_reading_of_skipped skipped before counts
    refine ⟨instant, shown, ?_⟩
    have here : date.clockTime hour minute - zone.offsetAt instant = instant + 1 := by
      rw [Zone.localSecond] at shown
      omega
    rw [tells.listedTime?_of_isCivil writable offsets civil hours minutes, read, Option.map_some,
      here]
  case missing =>
    intro missing
    have none : listedTime? zone now dateColumn timeColumn = none := by
      apply tells.listedTime?_eq_none writable
      rcases missing with noDate | noHour | noMinute | ⟨skipped, apart⟩
      · exact .inl noDate
      · exact .inr (.inl noHour)
      · exact .inr (.inr (.inl noMinute))
      · exact .inr (.inr (.inr (Zone.stampOf?_of_skipped skipped apart)))
    exact ⟨none, by rw [listedTime, none, Option.getD_none]⟩

theorem listedTime?_fullDate_leap_day :
    let zone := Zone.withSummer (-18000) ⟨-14400, ⟨3, 2, 0⟩, 7200, ⟨11, 1, 0⟩, 7200⟩
    let now := Timestamp.inZone zone 1718454896 123456789
    let named : NamedDay := ⟨"fEB".toList, [' ', '\t'], "29".toList⟩
    let date : Date := ⟨2024, 2, 29⟩
    zone.WithinDay ∧ date.IsWritable ∧ Tells now named.text "2024".toList date 0 0 ∧
      date.IsCivil ∧ zone.localSecond 1709182800 = date.clockTime 0 0 ∧
      zone.ShowsOnce 1709182800 ∧
      listedTime? zone now named.text "2024".toList =
        some (Timestamp.inZone zone 1709182800) := by
  intro zone now named date
  have offsets : zone.WithinDay := by decide
  have writable : date.IsWritable := by decide
  have year : decimalWide 4 date.year.toNat = "2024".toList := by decide
  have writes : named.Writes date.month date.day :=
    ⟨by decide, by decide, by decide, by decide, by decide, by decide⟩
  have tells : Tells now named.text "2024".toList date 0 0 := year ▸ .inYear writes
  have civil : date.IsCivil := ⟨by decide, by decide⟩
  have shown : zone.localSecond 1709182800 = date.clockTime 0 0 := by decide
  have once : zone.ShowsOnce 1709182800 := Zone.showsOnce_of_offsets (by decide)
  exact ⟨offsets, writable, tells, civil, shown, once,
    ((listedTime?_fullDate offsets writable tells).1 civil (by decide) (by decide)).1 _ shown once⟩

/-- Where summer time lasts over the new year, the moment at which it begins is not read. -/
example :
    let zone := Zone.withSummer 36000 ⟨39600, ⟨10, 1, 0⟩, 7200, ⟨4, 1, 0⟩, 10800⟩
    listedTime? zone (Timestamp.inZone zone 0) (dateText ⟨2024, 10, 6⟩) (minuteText 7200) =
      none := by
  decide

/-- The moment at which the clock is put forward is shown by no clock, and still read. -/
theorem listedTime?_clock_put_forward :
    let zone := Zone.withSummer (-18000) ⟨-14400, ⟨3, 2, 0⟩, 7200, ⟨11, 1, 0⟩, 7200⟩
    let now := Timestamp.inZone zone 1718454896 123456789
    let date : Date := ⟨2024, 3, 10⟩
    date.IsCivil ∧ ¬ zone.Shows (date.clockTime 2 0) ∧
      listedTime? zone now (dateText date) (minuteText 7200) = some ⟨1710054000, 0, -18000⟩ := by
  intro zone now date
  exact ⟨⟨by decide, by decide⟩, Zone.find?_offsets_eq_none_iff.mp (by decide), by decide⟩

end DeviceBrowser.Calendar
