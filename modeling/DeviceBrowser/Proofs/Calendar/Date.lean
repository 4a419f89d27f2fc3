import DeviceBrowser.Calendar.Date
import Mathlib.Tactic.IntervalCases

/-!
Every day has a date, and its date has the number of the day.

An era of 400 years is cut into centuries, these into four years each and these into single
years, with the leap day at the end of each.  Only the last piece of a kind can be longer or
shorter than the others, and that is what the reckoning of years rests on.
-/

namespace DeviceBrowser.Calendar.Date

/-- A date of the calendar: a month of the year and a day of that month. -/
structure IsCivil (date : Date) : Prop where
  month : 1 ≤ date.month ∧ date.month ≤ 12
  day : 1 ≤ date.day ∧ date.day ≤ daysInMonth date.year date.month

theorem ofParts?_of_isCivil {date : Date} (civil : date.IsCivil)
    (reckoned : date.isReckoned = true) :
    ofParts? date.year date.month date.day = some date := by
  simp [ofParts?, reckoned, civil.month, civil.day]

theorem daysInMonth_le (year : Int) (month : Nat) : daysInMonth year month ≤ 31 := by
  unfold daysInMonth
  split
  next => split <;> decide
  all_goals decide

theorem ofParts?_of_not_isCivil {year : Int} {month day : Nat}
    (missing : ¬ IsCivil ⟨year, month, day⟩) : ofParts? year month day = none := by
  apply if_neg
  simp only [Bool.and_eq_true, decide_eq_true_eq, not_and, and_imp]
  exact fun _ fromMonth toMonth fromDay toDay =>
    missing ⟨⟨fromMonth, toMonth⟩, fromDay, toDay⟩

theorem eq_of_ofParts? {year : Int} {month day : Nat} {date : Date}
    (found : ofParts? year month day = some date) : date = ⟨year, month, day⟩ := by
  simp only [ofParts?, Option.ite_none_right_eq_some, Option.some.injEq] at found
  exact found.2.symm

/-- In different years the same day of the year has different numbers. -/
theorem year_eq_of_dayNumber_eq {first second : Date} (month : first.month = second.month)
    (day : first.day = second.day) (number : first.dayNumber = second.dayNumber) :
    first.year = second.year := by
  unfold dayNumber at number
  rw [month, day] at number
  dsimp only at number
  split at number <;> omega

/-- Where a day stands within an era. -/
structure Place where
  century : Int
  fourYears : Int
  year : Int
  day : Int

namespace Place

def dayOfEra (place : Place) : Int :=
  36524 * place.century + 1461 * place.fourYears + 365 * place.year + place.day

def yearOfEra (place : Place) : Int :=
  100 * place.century + 4 * place.fourYears + place.year

structure Regular (place : Place) : Prop where
  century : 0 ≤ place.century ∧ place.century ≤ 3
  fourYears : 0 ≤ place.fourYears ∧ place.fourYears ≤ 24
  year : 0 ≤ place.year ∧ place.year ≤ 3
  day : 0 ≤ place.day ∧ place.day ≤ 365
  /-- A leap day ends four years, and a century only where it ends the era. -/
  leapDay : place.day = 365 → place.year = 3 ∧ (place.fourYears = 24 → place.century = 3)

end Place

theorem exists_place {day : Int} (first : 0 ≤ day) (last : day < 146097) :
    ∃ place : Place, place.Regular ∧ place.dayOfEra = day := by
  let century := min (day / 36524) 3
  let dayOfCentury := day - 36524 * century
  let fourYears := dayOfCentury / 1461
  let dayOfFour := dayOfCentury - 1461 * fourYears
  let year := min (dayOfFour / 365) 3
  refine ⟨⟨century, fourYears, year, dayOfFour - 365 * year⟩, ⟨?_, ?_, ?_, ?_, ?_⟩, ?_⟩
  all_goals
    dsimp only [Place.dayOfEra]
    omega

namespace Place

variable {place : Place}

theorem Regular.yearOfEra_bounds (regular : place.Regular) :
    0 ≤ place.yearOfEra ∧ place.yearOfEra ≤ 399 := by
  obtain ⟨century, fourYears, year, -, -⟩ := regular
  unfold yearOfEra
  omega

theorem Regular.daysBefore (regular : place.Regular) :
    365 * place.yearOfEra + place.yearOfEra / 4 - place.yearOfEra / 100 + place.day =
      place.dayOfEra := by
  obtain ⟨century, fourYears, year, -, -⟩ := regular
  unfold yearOfEra dayOfEra
  omega

/-- The leap days before a day are taken away first; what is left are years of 365 days. -/
theorem Regular.yearOfEra_eq (regular : place.Regular) :
    (place.dayOfEra - place.dayOfEra / 1460 + place.dayOfEra / 36524
      - place.dayOfEra / 146096) / 365 = place.yearOfEra := by
  obtain ⟨century, fourYears, year, day, leapDay⟩ := regular
  have whole : place.dayOfEra =
      36524 * place.century + 1461 * place.fourYears + 365 * place.year + place.day := rfl
  unfold yearOfEra
  generalize place.dayOfEra = number at whole ⊢
  by_cases last : number = 146096
  · subst last
    omega
  · have eras : number / 146096 = 0 := by omega
    have centuries : number / 36524 = place.century := by omega
    have leaps : number / 1460 = 25 * place.century + place.fourYears ∨
        number / 1460 = 25 * place.century + place.fourYears + 1 ∧
          1460 ≤ 24 * place.century + place.fourYears + 365 * place.year + place.day := by
      omega
    rw [eras, centuries]
    rcases leaps with few | ⟨more, late⟩
    · rw [few]
      omega
    · rw [more]
      omega

theorem Regular.isLeapYear_of_leapDay (regular : place.Regular) (era : Int)
    (last : place.day = 365) : isLeapYear (400 * era + place.yearOfEra + 1) = true := by
  obtain ⟨century, fourYears, -, -, leapDay⟩ := regular
  obtain ⟨ends, endsEra⟩ := leapDay last
  simp only [yearOfEra, isLeapYear, ends, Bool.and_eq_true, Bool.or_eq_true, beq_iff_eq,
    bne_iff_ne]
  by_cases endsCentury : place.fourYears = 24
  · have endsAll := endsEra endsCentury
    omega
  · omega

end Place

/-- The date of a day of a year that begins in March. -/
def ofMarch (year dayOfYear : Int) : Date :=
  let month := (5 * dayOfYear + 2) / 153
  let day := dayOfYear - (153 * month + 2) / 5 + 1
  let civilMonth := if month < 10 then month + 3 else month - 9
  ⟨if civilMonth ≤ 2 then year + 1 else year, civilMonth.toNat, day.toNat⟩

theorem exists_ofDayNumber_eq (number : Int) :
    ∃ (era : Int) (place : Place), place.Regular ∧
      number + epochDay = 146097 * era + place.dayOfEra ∧
      ofDayNumber number = ofMarch (400 * era + place.yearOfEra) place.day := by
  have first : 0 ≤ (number + epochDay) % 146097 := Int.emod_nonneg _ (by decide)
  have last : (number + epochDay) % 146097 < 146097 := Int.emod_lt_of_pos _ (by decide)
  obtain ⟨place, regular, whole⟩ := exists_place first last
  refine ⟨(number + epochDay) / 146097, place, regular, ?_, ?_⟩
  · rw [whole]
    exact (Int.mul_ediv_add_emod _ _).symm
  · have day : place.dayOfEra -
        (365 * place.yearOfEra + place.yearOfEra / 4 - place.yearOfEra / 100) = place.day := by
      have before := regular.daysBefore
      omega
    unfold ofDayNumber ofMarch
    simp only [← whole, regular.yearOfEra_eq, day]

section March

variable {dayOfYear : Int}

theorem exists_month (first : 0 ≤ dayOfYear) (last : dayOfYear ≤ 365) :
    ∃ month : Int, (5 * dayOfYear + 2) / 153 = month ∧ 0 ≤ month ∧ month ≤ 11 ∧
      (153 * month + 2) / 5 ≤ dayOfYear ∧ dayOfYear < (153 * (month + 1) + 2) / 5 :=
  ⟨_, rfl, by omega, by omega, by omega, by omega⟩

theorem dayNumber_ofMarch (year : Int) (first : 0 ≤ dayOfYear) (last : dayOfYear ≤ 365) :
    (ofMarch year dayOfYear).dayNumber =
      365 * year + year / 4 - year / 100 + year / 400 + dayOfYear - epochDay := by
  obtain ⟨month, chosen, fromMonth, toMonth, fromDay, toDay⟩ := exists_month first last
  unfold ofMarch dayNumber
  simp only [chosen]
  interval_cases month <;> simp <;> omega

theorem isCivil_ofMarch {year : Int} (first : 0 ≤ dayOfYear) (last : dayOfYear ≤ 365)
    (leapDay : dayOfYear = 365 → isLeapYear (year + 1) = true) :
    (ofMarch year dayOfYear).IsCivil := by
  obtain ⟨month, chosen, fromMonth, toMonth, fromDay, toDay⟩ := exists_month first last
  unfold ofMarch
  simp only [chosen]
  by_cases february : month = 11
  · subst february
    have length : dayOfYear - 337 + 1 ≤ if isLeapYear (year + 1) then 29 else 28 := by
      split
      next => omega
      next common =>
        have short : dayOfYear ≠ 365 := fun last => common (leapDay last)
        omega
    refine ⟨by simp, ?_⟩
    simp only [daysInMonth]
    grind
  · refine ⟨?_, ?_⟩ <;> interval_cases month <;> simp [daysInMonth] <;> omega

end March

/-- The date of a day has that day's number. -/
@[simp]
theorem dayNumber_ofDayNumber (number : Int) : (ofDayNumber number).dayNumber = number := by
  obtain ⟨era, place, regular, whole, found⟩ := exists_ofDayNumber_eq number
  have before := regular.daysBefore
  have bounds := regular.yearOfEra_bounds
  rw [found, dayNumber_ofMarch _ regular.day.1 regular.day.2]
  omega

theorem isCivil_ofDayNumber (number : Int) : (ofDayNumber number).IsCivil := by
  obtain ⟨era, place, regular, -, found⟩ := exists_ofDayNumber_eq number
  rw [found]
  exact isCivil_ofMarch regular.day.1 regular.day.2 (regular.isLeapYear_of_leapDay era)

end DeviceBrowser.Calendar.Date
