import Mathlib.Tactic.Ring
import X3Hal.Gps.LibcClock

/-!
# The clock of a device in UTC

The executable time functions count the days of a date from a year that starts in March, so
that a leap day is the last day of its year.  They conform to the zone without an offset.
-/

namespace X3Hal.Gps

open X3Hal.Calendar

/-! ## Years that start in March -/

/-- A date in years that start in March: the month and the day of the year count from 0. -/
structure MarchDate (date : Date) (year month day : Int) : Prop where
  isYear : date.year = if month < 10 then year else year + 1
  isMonth : (date.month : Int) = if month < 10 then month + 3 else month - 9
  isDay : (date.day : Int) = day - (153 * month + 2) / 5 + 1
  inYear : 0 ≤ day ∧ (day ≤ 364 ∨ day = 365 ∧ IsLeap (year + 1))
  month_range : 0 ≤ month ∧ month < 12
  inMonth : month = (5 * day + 2) / 153
  number : date.dayNumber = yearStart (year + 1) - 306 + day

/-- The days of a year before a month, from March on. -/
theorem monthStart_march (year : Int) {month : Nat} (least : 3 ≤ month) (atMost : month ≤ 12) :
    (monthStart year month : Int) = (153 * (month - 3 : Int) + 2) / 5 + daysInYear year - 306 := by
  by_cases leap : IsLeap year
  · interval_cases month <;> simp [monthStart, daysInMonth, daysInYear, leap]
  · interval_cases month <;> simp [monthStart, daysInMonth, daysInYear, leap]

/-- A month has no more days than the formula gives it. -/
theorem daysInMonth_march (year : Int) {month : Nat} (least : 3 ≤ month) (atMost : month ≤ 12) :
    (daysInMonth year month : Int) ≤
      (153 * (month - 2 : Int) + 2) / 5 - (153 * (month - 3 : Int) + 2) / 5 := by
  interval_cases month <;> simp [daysInMonth]

theorem exists_marchDate (date : Date) : ∃ year month day, MarchDate date year month day := by
  rcases date with ⟨year, month, day, month_pos, month_le, day_pos, day_le⟩
  have next := yearStart_succ year
  by_cases early : month < 3
  · refine ⟨year - 1, month + 9, (153 * (month + 9) + 2) / 5 + day - 1, ?_⟩
    interval_cases month
    · have within : day ≤ 31 := day_le
      constructor <;> simp [Date.dayNumber, Date.offset, monthStart, daysInMonth] <;> omega
    · rw [daysInMonth] at day_le
      split at day_le
      case isTrue leap =>
        constructor <;> simp [Date.dayNumber, Date.offset, monthStart, daysInMonth, leap] <;> omega
      case isFalse =>
        constructor <;> simp [Date.dayNumber, Date.offset, monthStart, daysInMonth] <;> omega
  · have least := not_lt.mp early
    have start := monthStart_march year least month_le
    have length := daysInMonth_march year least month_le
    refine ⟨year, month - 3, (153 * (month - 3 : Int) + 2) / 5 + day - 1, ?_⟩
    constructor
    · dsimp only
      rw [if_pos (by omega)]
    · dsimp only
      omega
    · dsimp only
      omega
    · omega
    · omega
    · omega
    · rw [Date.dayNumber, Date.offset]
      dsimp only
      omega

theorem yearStart_add_one (year : Int) :
    yearStart (year + 1) = 365 * year + year / 4 - year / 100 + year / 400 := by
  unfold yearStart
  rw [Int.add_sub_cancel]

/-- The days up to 1970 that the functions add and take off. -/
theorem dayNumber_unixDay : unixDay.dayNumber = 719162 := by
  decide +kernel

theorem daysFromCivil_eq (date : Date) :
    daysFromCivil date.year date.month date.day = date.dayNumber - unixDay.dayNumber := by
  rcases exists_marchDate date with ⟨year, month, day, isYear, isMonth, isDay, -, range, -, number⟩
  rw [yearStart_add_one] at number
  rw [dayNumber_unixDay, number, isDay, daysFromCivil]
  by_cases early : month < 10
  · rw [if_pos early] at isYear isMonth
    have late : ¬ (date.month : Int) ≤ 2 := by omega
    rw [isYear, if_neg late, if_pos (not_le.mp late), isMonth, add_sub_cancel_right]
    omega
  · rw [if_neg early] at isYear isMonth
    have late : (date.month : Int) ≤ 2 := by omega
    rw [isYear, if_pos late, if_neg (not_lt.mpr late), isMonth, add_sub_cancel_right,
      sub_add_cancel]
    omega

/-! ## The estimates -/

/-- The year of an era that the estimate finds, from centuries, leap cycles and years. -/
theorem year_of_day {century cycle year day : Int} (isCentury : 0 ≤ century ∧ century < 4)
    (isCycle : 0 ≤ cycle ∧ cycle < 25) (isYear : 0 ≤ year ∧ year < 4)
    (isDay : 0 ≤ day ∧ (day ≤ 364 ∨ day = 365 ∧ year = 3 ∧ (cycle ≠ 24 ∨ century = 3)))
    {number : Int} (is : number = century * 36524 + cycle * 1461 + year * 365 + day) :
    (number - number / 1460 + number / 36524 - number / 146096) / 365 =
      century * 100 + cycle * 4 + year := by
  have bounds : century * 36524 ≤ number ∧
      (number < century * 36524 + 36524 ∨ century = 3 ∧ number = 146096) := by omega
  have centuries : number / 36524 - number / 146096 = century := by
    rcases bounds with ⟨least, inside | last⟩
    · omega
    · omega
  have cycles : number / 1460 =
      century * 25 + cycle + (century * 24 + cycle + year * 365 + day) / 1460 := by omega
  have rest : 0 ≤ day - (century * 24 + cycle + year * 365 + day) / 1460 ∧
      day - (century * 24 + cycle + year * 365 + day) / 1460 < 365 := by omega
  omega

/-- A day in eras of 400 years, from the year of the era and the day of the year. -/
theorem era_of_day {year day : Int}
    (inYear : 0 ≤ day ∧ (day ≤ 364 ∨ day = 365 ∧ IsLeap (year + 1))) {number : Int}
    (is : number = 365 * year + year / 4 - year / 100 + year / 400 + day) :
    number / 146097 = year / 400 ∧
      number - year / 400 * 146097 =
        year % 400 / 100 * 36524 + year % 100 / 4 * 1461 + year % 4 * 365 + day ∧
      (day ≤ 364 ∨ day = 365 ∧ year % 4 = 3 ∧ (year % 100 / 4 ≠ 24 ∨ year % 400 / 100 = 3)) := by
  have cut : number - year / 400 * 146097 =
      year % 400 / 100 * 36524 + year % 100 / 4 * 1461 + year % 4 * 365 + day := by omega
  have last : day ≤ 364 ∨
      day = 365 ∧ year % 4 = 3 ∧ (year % 100 / 4 ≠ 24 ∨ year % 400 / 100 = 3) := by
    unfold IsLeap at inYear
    omega
  have within : 0 ≤ number - year / 400 * 146097 ∧ number - year / 400 * 146097 < 146097 := by
    rw [cut]
    omega
  exact ⟨by omega, cut, last⟩

/-- The days of an era before a year of it. -/
theorem daysOfEra (year : Int) :
    year % 400 / 100 * 36524 + year % 100 / 4 * 1461 + year % 4 * 365 =
      365 * (year % 400) + year % 400 / 4 - year % 400 / 100 := by
  omega

/-- The estimates find the era, the year of the era and the day of the year. -/
theorem estimates {year day : Int}
    (inYear : 0 ≤ day ∧ (day ≤ 364 ∨ day = 365 ∧ IsLeap (year + 1))) {number : Int}
    (is : number = 365 * year + year / 4 - year / 100 + year / 400 + day) :
    number / 146097 = year / 400 ∧
      ((number - year / 400 * 146097) - (number - year / 400 * 146097) / 1460 +
          (number - year / 400 * 146097) / 36524 - (number - year / 400 * 146097) / 146096) / 365 =
        year % 400 ∧
      number - year / 400 * 146097 -
        (365 * (year % 400) + year % 400 / 4 - year % 400 / 100) = day := by
  have century : 0 ≤ year % 400 / 100 ∧ year % 400 / 100 < 4 := by omega
  have cycle : 0 ≤ year % 100 / 4 ∧ year % 100 / 4 < 25 := by omega
  have yearOfCycle : 0 ≤ year % 4 ∧ year % 4 < 4 := by omega
  have whole : year % 400 / 100 * 100 + year % 100 / 4 * 4 + year % 4 = year % 400 := by omega
  rcases era_of_day inYear is with ⟨era, dayOfEra, last⟩
  refine ⟨era, ?_, ?_⟩
  · rw [← whole]
    exact year_of_day century cycle yearOfCycle ⟨inYear.1, last⟩ dayOfEra
  · rw [dayOfEra, daysOfEra]
    exact add_sub_cancel_left _ _

/-- The month that counts from March, in the calendar's numbering. -/
theorem MarchDate.fields {date : Date} {year month day : Int}
    (is : MarchDate date year month day) :
    (if month < 10 then month + 3 else month - 9) = date.month ∧
      year % 400 + year / 400 * 400 + (if (date.month : Int) ≤ 2 then 1 else 0) = date.year ∧
        day - (153 * month + 2) / 5 + 1 = date.day := by
  rcases is with ⟨isYear, isMonth, isDay, -, range, -, -⟩
  refine ⟨isMonth.symm, ?_, isDay.symm⟩
  rw [isYear]
  by_cases early : month < 10
  · rw [if_pos early] at isMonth
    rw [if_pos early, if_neg (by omega)]
    omega
  · rw [if_neg early] at isMonth
    rw [if_neg early, if_pos (by omega)]
    omega

theorem utcFields_eq {date : Date} {seconds : Int}
    (is : date.dayNumber - unixDay.dayNumber = seconds / 86400) :
    utcFields seconds =
      { sec := seconds % 86400 % 60
        min := seconds % 86400 % 3600 / 60
        hour := seconds % 86400 / 3600
        mday := date.day
        mon := (date.month : Int) - 1
        year := date.year - 1900
        isdst := 0 } := by
  rcases exists_marchDate date with ⟨year, month, day, march⟩
  rcases march.fields with ⟨isMonth, isYear, isDay⟩
  have days : seconds / 86400 + 719468 =
      365 * year + year / 4 - year / 100 + year / 400 + day := by
    rw [← is, dayNumber_unixDay, march.number, yearStart_add_one]
    ring
  rcases estimates march.inYear days with ⟨era, yearOfEra, dayOfYear⟩
  unfold utcFields
  simp only [era, yearOfEra, dayOfYear, ← march.inMonth, isMonth, isYear, isDay]

/-! ## The zone -/

theorem means_utcFields (seconds : Int) : (utcFields seconds).Means seconds := by
  rcases Date.exists_dayNumber (unixDay.dayNumber + seconds / 86400) with ⟨date, number⟩
  rw [@utcFields_eq date _ (by omega)]
  refine ⟨?_, ?_, ?_, date, rfl, rfl, rfl, ?_⟩
  · dsimp only
    omega
  · dsimp only
    omega
  · dsimp only
    omega
  · simp only [civilSeconds, number]
    omega

def utcZone : Zone :=
  .fixed 0 (by decide)

theorem reading_utcZone (instant : Int) : utcZone.reading instant = instant :=
  Int.add_zero instant

/-- The seconds that `mktime` computes are those that the fields stand for. -/
theorem mktime_utc {tm : Tm} {seconds : Int} (means : tm.Means seconds) :
    (LibcTime.utc.mktime tm).1 = seconds := by
  rcases means.date with ⟨date, year, month, day, is⟩
  have number := daysFromCivil_eq date
  simp only [LibcTime.utc]
  rw [year, month, day, sub_add_cancel, sub_add_cancel, number, is, civilSeconds]

theorem conforms_utc : LibcTime.utc.Conforms utcZone where
  gmtime := means_utcFields
  localtime := fun instant => (reading_utcZone instant).symm ▸ means_utcFields instant
  gmtoff := fun _ => rfl
  mktime := fun _ _ means _ _ => (reading_utcZone _).trans (mktime_utc means)
  normalises := fun _ _ _ _ => Or.inl rfl
  mktime_localtime := fun instant => by
    rw [reading_utcZone, reading_utcZone]
    exact mktime_utc (means_utcFields instant)

end X3Hal.Gps
