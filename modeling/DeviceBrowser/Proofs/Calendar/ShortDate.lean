import DeviceBrowser.Proofs.Calendar.ListedTime

/-!
Short dates, which say nothing of the year.

A listing prints a time of the last half year by month, day and time of day.  The year is then
taken to be the current one, so a time of the year before is read as one that is yet to come.
-/

namespace DeviceBrowser.Calendar

open DeviceBrowser.Text

def monthTitles : List String :=
  ["Jan", "Feb", "Mar", "Apr", "May", "Jun", "Jul", "Aug", "Sep", "Oct", "Nov", "Dec"]

def monthTitle (month : Nat) : List Char :=
  (monthTitles.getD (month - 1) "").toList

/-- A date as it is printed without its year.  The day may be filled up with a space or a zero. -/
def shortDates (date : Date) : List NamedDay :=
  let title := monthTitle date.month
  [⟨title, [' '], decimal date.day⟩, ⟨title, [' '], decimalWide 2 date.day⟩,
    ⟨title, ' ' :: List.replicate (2 - (decimal date.day).length) ' ', decimal date.day⟩]

theorem monthNumber?_monthTitle :
    ∀ month ≤ 12, 1 ≤ month → monthNumber? (monthTitle month) = some month := by
  decide

theorem spells_of_mem_shortDates {date : Date} {printed : NamedDay} (civil : date.IsCivil)
    (present : printed ∈ shortDates date) : printed.Spells date.month date.day := by
  have title := monthNumber?_monthTitle date.month civil.month.2 civil.month.1
  have spaces : ∀ count, isAllBlank (' ' :: List.replicate count ' ') = true := by
    intro count
    simp [isAllBlank, List.all_replicate, isBlank]
  simp only [shortDates, List.mem_cons, List.not_mem_nil, or_false] at present
  rcases present with rfl | rfl | rfl
  · exact ⟨title, spaces 0, by simp, isDigits_decimal _, digitsValue_decimal _⟩
  · exact ⟨title, spaces 0, by simp, isDigits_decimalWide _ _, digitsValue_decimalWide _ _⟩
  · exact ⟨title, spaces _, by simp, isDigits_decimal _, digitsValue_decimal _⟩

namespace Timestamp

theorem secondOfDay_lt (stamp : Timestamp) : stamp.secondOfDay < 86400 := by
  unfold secondOfDay secondsPerDay
  omega

theorem localSecond_eq (stamp : Timestamp) :
    stamp.localSecond = secondsPerDay * stamp.date.dayNumber + stamp.secondOfDay := by
  rw [date, Date.dayNumber_ofDayNumber]
  unfold secondOfDay secondsPerDay
  omega

theorem read?_minuteText (stamp : Timestamp) :
    TimeColumn.read? (trim (minuteText stamp.secondOfDay)) =
      some (.clock (stamp.secondOfDay / 3600) (stamp.secondOfDay / 60 % 60)) := by
  have limit := stamp.secondOfDay_lt
  have read := TimeColumn.read?_clock (isDigits_decimalWide 2 (stamp.secondOfDay / 3600))
    (isDigits_decimalWide 2 (stamp.secondOfDay / 60 % 60))
  simp only [digitsValue_decimalWide] at read
  exact read (by omega) (by omega)

end Timestamp

/-- An instant at a whole minute of a clock that shows it once, within reach of the calendar. -/
structure Zone.Printable (zone : Zone) (instant : Int) : Prop where
  wholeMinute : zone.localSecond instant % 60 = 0
  once : zone.ShowsOnce instant
  reckoned : (Timestamp.inZone zone instant).isReckoned = true
  dateReckoned : (Timestamp.inZone zone instant).date.isReckoned = true

/-- A time that is printed without its year is read as that time just if its year is the
current one. -/
theorem listedTime?_shortDate {zone : Zone} {instant : Int} (now : Timestamp)
    (printable : zone.Printable instant) {printed : NamedDay}
    (short : printed ∈ shortDates (Timestamp.inZone zone instant).date) :
    listedTime? zone now printed.text
        (minuteText (Timestamp.inZone zone instant).secondOfDay) =
      some (Timestamp.inZone zone instant) ↔
        (Timestamp.inZone zone instant).date.year = now.date.year := by
  obtain ⟨wholeMinute, once, reckoned, dateReckoned⟩ := printable
  have civil : (Timestamp.inZone zone instant).date.IsCivil := Date.isCivil_ofDayNumber _
  rw [listedTime?_named zone now (spells_of_mem_shortDates civil short)
    (Timestamp.inZone zone instant).read?_minuteText]
  have stamped := Zone.stampOf?_of_showsOnce once reckoned
  have shownAs : ∀ second, zone.stampOf? second = some (Timestamp.inZone zone instant) →
      zone.localSecond instant = second := fun _ => Zone.localSecond_of_stampOf?
  have parts : zone.localSecond instant = _ := (Timestamp.inZone zone instant).localSecond_eq
  generalize Timestamp.inZone zone instant = stamp at *
  have clock : 3600 * ((stamp.secondOfDay / 3600 : Nat) : Int) +
      60 * ((stamp.secondOfDay / 60 % 60 : Nat) : Int) = stamp.secondOfDay := by
    unfold secondsPerDay at parts
    omega
  rw [clock]
  constructor
  · intro read
    obtain ⟨date, found, dated⟩ := Option.bind_eq_some_iff.mp read
    have same := shownAs _ dated
    have number : stamp.date.dayNumber = date.dayNumber := by
      unfold secondsPerDay at parts same
      omega
    have fields := Date.eq_of_ofParts? found
    have years : stamp.date.year = date.year :=
      Date.year_eq_of_dayNumber_eq (by rw [fields]) (by rw [fields]) number
    rw [years, fields]
  · intro current
    rw [← current, Date.ofParts?_of_isCivil civil dateReckoned, Option.bind_some, ← parts]
    exact stamped

/-- Half an hour after the clocks were put forward. -/
theorem listedTime?_shortDate_after_change :
    let zone := Zone.withSummer (-18000) ⟨-14400, ⟨3, 2, 0⟩, 7200, ⟨11, 1, 0⟩, 7200⟩
    let stamp := Timestamp.inZone zone 1710055800
    let now := Timestamp.inZone zone 1718454896 123456789
    let printed : NamedDay := ⟨"Mar".toList, [' '], "10".toList⟩
    zone.Printable stamp.second ∧ printed ∈ shortDates stamp.date ∧
      stamp.date.year = now.date.year ∧
      (listedTime? zone now printed.text (minuteText stamp.secondOfDay) = some stamp ↔
        stamp.date.year = now.date.year) := by
  intro zone stamp now printed
  have printable : zone.Printable stamp.second :=
    ⟨by decide, Zone.showsOnce_of_offsets (by decide), by decide, by decide⟩
  have short : printed ∈ shortDates stamp.date := by decide
  exact ⟨printable, short, by decide, listedTime?_shortDate now printable short⟩

/-- A time of last December is read as one of next December. -/
theorem listedTime?_last_december :
    let stamp := Timestamp.inZone Zone.utc 1703068200
    let now := Timestamp.inZone Zone.utc 1705320000
    let printed : NamedDay := ⟨"Dec".toList, [' '], "20".toList⟩
    Zone.utc.Printable stamp.second ∧ printed ∈ shortDates stamp.date ∧
      now.second - 182 * secondsPerDay ≤ stamp.second ∧ stamp.second ≤ now.second ∧
      listedTime? Zone.utc now printed.text (minuteText stamp.secondOfDay) =
        some (Timestamp.inZone Zone.utc 1734690600) ∧
      stamp ≠ Timestamp.inZone Zone.utc 1734690600 := by
  intro stamp now printed
  have printable : Zone.utc.Printable stamp.second :=
    ⟨by decide, Zone.showsOnce_of_offsets (by decide), by decide, by decide⟩
  exact ⟨printable, by decide, by decide, by decide, by decide, by decide⟩

end DeviceBrowser.Calendar
