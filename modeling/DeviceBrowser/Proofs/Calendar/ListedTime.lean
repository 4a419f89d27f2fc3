import DeviceBrowser.Calendar.ListedTime
import DeviceBrowser.Proofs.Calendar.Date
import DeviceBrowser.Proofs.Text.Decimal
import DeviceBrowser.Proofs.Text.Search

/-!
What the columns of a listing say about a time, and how a clock's reading becomes an instant.

A date and a time of day are first put together to what a clock shows.  If the clock shows it
only once, that is the instant which is read, wherever else the zone changes its clocks.
-/

namespace DeviceBrowser.Calendar

open DeviceBrowser.Text

theorem isAlpha_of_monthNumber? {name : List Char} (known : (monthNumber? name).isSome = true)
    {c : Char} (present : c ∈ name) : c.isAlpha = true := by
  have letters : monthNames.all (·.toList.all Char.isLower) = true := by decide
  simp only [List.all_eq_true] at letters
  simp only [monthNumber?, Option.isSome_map, List.findIdx?_isSome, List.any_eq_true,
    beq_iff_eq] at known
  obtain ⟨month, listed, spelled⟩ := known
  have lower : c.toLower.isLower = true :=
    letters month listed _ (spelled ▸ List.mem_map_of_mem present)
  apply (Bool.or_eq_true c.isUpper c.isLower).mpr
  cases upper : c.isUpper with
  | true => exact .inl rfl
  | false =>
      have same : c.toLower = c := by
        unfold Char.toLower
        rw [dif_neg (of_decide_eq_false upper)]
      exact .inr (same ▸ lower)

theorem isColumn_of_monthNumber? {name : List Char} (known : (monthNumber? name).isSome = true) :
    isColumn name = true := by
  have nonempty : name ≠ [] := by
    rintro rfl
    exact absurd known (by decide)
  simp only [isColumn, Bool.and_eq_true, List.all_eq_true]
  refine ⟨by simp [nonempty], fun c present => ?_⟩
  simp [isBlank_of_isAlpha (isAlpha_of_monthNumber? known present)]

theorem isDigit_of_isDigits {text : List Char} (digits : isDigits text = true) {c : Char}
    (present : c ∈ text) : c.isDigit = true := by
  simp only [isDigits, Bool.and_eq_true, List.all_eq_true] at digits
  exact digits.2 c present

theorem TimeColumn.read?_digits {hour minute : List Char} (hourDigits : isDigits hour = true)
    (minuteDigits : isDigits minute = true) :
    TimeColumn.read? (trim (hour ++ ':' :: minute)) =
      if digitsValue hour < 24 ∧ digitsValue minute < 60 then
        some (.clock (digitsValue hour) (digitsValue minute))
      else none := by
  have shape : isColumn (hour ++ ':' :: minute) = true :=
    isColumn_append_cons (isColumn_of_isDigits hourDigits) rfl (isColumn_of_isDigits minuteDigits)
  have colonless : ':' ∉ hour := fun present =>
    absurd (isDigit_of_isDigits hourDigits present) (by decide)
  have size : UInt32.size = 4294967296 := rfl
  rw [trim_of_isColumn shape, TimeColumn.read?, splitFirst?_singleton colonless]
  dsimp only
  rw [readUnsigned?_digits _ hourDigits, readUnsigned?_digits _ minuteDigits]
  by_cases hours : digitsValue hour < 24
  · by_cases minutes : digitsValue minute < 60
    · rw [if_pos (by omega), if_pos (by omega)]
      simp [hours, minutes]
    · split <;> split <;> simp [minutes]
  · split <;> split <;> simp [hours]

theorem TimeColumn.read?_clock {hour minute : List Char} (hourDigits : isDigits hour = true)
    (minuteDigits : isDigits minute = true) (hourLimit : digitsValue hour < 24)
    (minuteLimit : digitsValue minute < 60) :
    TimeColumn.read? (trim (hour ++ ':' :: minute)) =
      some (.clock (digitsValue hour) (digitsValue minute)) := by
  rw [read?_digits hourDigits minuteDigits, if_pos ⟨hourLimit, minuteLimit⟩]

/-- The texts of a month's name and a day, with blanks between them. -/
structure NamedDay where
  name : List Char
  blanks : List Char
  day : List Char
  deriving DecidableEq, Repr

namespace NamedDay

def text (named : NamedDay) : List Char :=
  named.name ++ (named.blanks ++ named.day)

structure Spells (named : NamedDay) (month day : Nat) : Prop where
  name : monthNumber? named.name = some month
  blanks : isAllBlank named.blanks = true
  apart : named.blanks ≠ []
  digits : isDigits named.day = true
  value : digitsValue named.day = day

variable {named : NamedDay} {month day : Nat}

theorem Spells.nameColumn (spells : named.Spells month day) : isColumn named.name = true :=
  isColumn_of_monthNumber? (by simp [spells.name])

theorem Spells.words (spells : named.Spells month day) :
    words named.text = [named.name, named.day] := by
  have ended : ∀ c ∈ (named.blanks ++ named.day).head?, isBlank c = true := by
    have blanks := spells.blanks
    cases first : named.blanks with
    | nil => exact absurd first spells.apart
    | cons head tail =>
        simp only [first, isAllBlank, List.all_cons, Bool.and_eq_true] at blanks
        simpa using blanks.1
  have last : Text.words (named.day ++ []) = [named.day] :=
    words_append (isColumn_of_isDigits spells.digits) (by simp)
  rw [text, words_append spells.nameColumn ended, words_append_blank spells.blanks,
    ← List.append_nil named.day, last, List.append_nil]

theorem Spells.trim_text (spells : named.Spells month day) : trim named.text = named.text := by
  have nameInked := inked_of_isColumn spells.nameColumn
  have dayInked := inked_of_isColumn (isColumn_of_isDigits spells.digits)
  apply trim_eq_self
  · intro c first
    cases letters : named.name with
    | nil => exact absurd spells.nameColumn (by simp [letters, isColumn])
    | cons head tail =>
        rw [text, letters] at first
        obtain rfl : head = c := by simpa using first
        exact nameInked head (by simp [letters])
  · intro c last
    have ends : named.day ≠ [] := by
      rintro empty
      exact absurd spells.digits (by simp [empty, isDigits])
    rw [text, ← List.append_assoc, List.getLast?_append_of_ne_nil _ ends] at last
    exact dayInked c (List.mem_of_getLast? last)

theorem Spells.not_contains_hyphen (spells : named.Spells month day) :
    named.text.contains '-' = false := by
  apply Bool.eq_false_iff.mpr
  intro hyphen
  rw [List.contains_iff_mem, text, List.mem_append, List.mem_append] at hyphen
  rcases hyphen with letter | blank | digit
  · exact absurd (isAlpha_of_monthNumber? (by simp [spells.name]) letter) (by decide)
  · exact absurd (List.all_eq_true.mp spells.blanks '-' blank) (by decide)
  · exact absurd (isDigit_of_isDigits spells.digits digit) (by decide)

theorem Spells.readNamedDate? (spells : named.Spells month day) (year : Int) :
    readNamedDate? year named.text = Date.ofParts? year month day := by
  rw [Calendar.readNamedDate?, spells.words]
  simp only [spells.name, Option.bind_eq_bind, Option.bind_some,
    readUnsigned?_digits UInt32.size spells.digits, spells.value]
  split
  next => rfl
  next large =>
    have size : UInt32.size = 4294967296 := rfl
    have days := Date.daysInMonth_le year month
    rw [Date.ofParts?_of_not_isCivil, Option.bind_none]
    rintro ⟨-, fromDay, toDay⟩
    dsimp only at toDay
    omega

end NamedDay

namespace Zone

variable {zone : Zone} {instant : Int}

/-- Whether the clock shows no other instant as it shows this one. -/
def ShowsOnce (zone : Zone) (instant : Int) : Prop :=
  ∀ other, zone.localSecond other = zone.localSecond instant → other = instant

/-- Only the instants to which the zone's offsets lead can be shown as this one is. -/
theorem showsOnce_of_offsets
    (once : ∀ offset ∈ zone.offsets,
      zone.offsetAt (zone.localSecond instant - offset) = offset →
        zone.localSecond instant - offset = instant) : zone.ShowsOnce instant := by
  intro other same
  have here : zone.localSecond instant - zone.offsetAt other = other := by
    rw [← same, localSecond]
    omega
  have only := once (zone.offsetAt other) (zone.offsetAt_mem other) (by rw [here])
  rw [← only, here]

theorem readingOffset?_of_showsOnce (once : zone.ShowsOnce instant) :
    zone.readingOffset? (zone.localSecond instant) = some (zone.offsetAt instant) := by
  have only : ∀ offset, zone.offsetAt (zone.localSecond instant - offset) = offset →
      offset = zone.offsetAt instant := by
    intro offset shown
    have same := once (zone.localSecond instant - offset) (by rw [localSecond, shown]; omega)
    rw [← shown, same]
  have here : zone.localSecond instant - zone.offsetAt instant = instant := by
    rw [localSecond]
    omega
  unfold readingOffset?
  dsimp only
  cases found : zone.offsets.find? fun offset =>
      zone.offsetAt (zone.localSecond instant - offset) == offset with
  | none =>
      have missed := List.find?_eq_none.mp found _ (zone.offsetAt_mem instant)
      simp [here] at missed
  | some offset =>
      have shown := List.find?_some found
      rw [Option.some_or, only offset (by simpa using shown)]

def stampOf? (zone : Zone) (second : Int) : Option Timestamp :=
  (zone.readingOffset? second).bind fun offset =>
    let stamp : Timestamp := ⟨second - offset, 0, offset⟩
    if stamp.isReckoned then some stamp else none

theorem stampOf?_of_showsOnce (once : zone.ShowsOnce instant)
    (reckoned : (Timestamp.inZone zone instant).isReckoned = true) :
    zone.stampOf? (zone.localSecond instant) = some (Timestamp.inZone zone instant) := by
  have here : zone.localSecond instant - zone.offsetAt instant = instant := by
    rw [localSecond]
    omega
  rw [stampOf?, readingOffset?_of_showsOnce once, Option.bind_some, here]
  exact if_pos reckoned

theorem localSecond_of_stampOf? {second : Int}
    (found : zone.stampOf? second = some (Timestamp.inZone zone instant)) :
    zone.localSecond instant = second := by
  obtain ⟨offset, -, read⟩ := Option.bind_eq_some_iff.mp found
  simp only [Option.ite_none_right_eq_some, Option.some.injEq, Timestamp.inZone,
    Timestamp.mk.injEq] at read
  obtain ⟨-, here, -, offsetHere⟩ := read
  rw [localSecond]
  omega

end Zone

/-- A date by name with a time of day is read as a local time of the current year. -/
theorem listedTime?_named {named : NamedDay} {month day hour minute : Nat} {timeColumn : List Char}
    (zone : Zone) (now : Timestamp) (spells : named.Spells month day)
    (clock : TimeColumn.read? (trim timeColumn) = some (.clock hour minute)) :
    listedTime? zone now named.text timeColumn =
      (Date.ofParts? now.date.year month day).bind fun date =>
        zone.stampOf? (secondsPerDay * date.dayNumber + (3600 * hour + 60 * minute)) := by
  unfold listedTime?
  simp only [clock, spells.trim_text, spells.not_contains_hyphen, spells.readNamedDate?]
  rfl

end DeviceBrowser.Calendar
