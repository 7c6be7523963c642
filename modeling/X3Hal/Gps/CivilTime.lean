import Mathlib.Data.List.GetD
import X3Hal.Calendar.Gregorian
import X3Hal.Gps.Time

/-!
# GPS time is civil time

The loop that decides the year takes whole years off the days since 1980, and the table
`doy` holds the starts of the months, so what `GpsToUtcTime` hands to `mktime` is the date
and the time of day of the GPS time.
-/

namespace X3Hal.Gps

open X3Hal.Calendar

/-- The fields of a moment as `mktime` takes them, with daylight saving time unknown. -/
def tmOf (moment : Moment) : Tm where
  sec := moment.time.second
  min := moment.time.minute
  hour := moment.time.hour
  mday := moment.date.day
  mon := (moment.date.month : Int) - 1
  year := moment.date.year - 1900
  isdst := -1

/-- 1980-01-06 00:00:00, where GPS time starts. -/
def gpsEpoch : Moment where
  date := .ofFields 1980 1 6 (by decide)
  time := .ofSeconds 0

/-! ## Years -/

theorem epochYearDays_eq (years : Nat) : epochYearDays years = daysInYear (1980 + years) := by
  unfold epochYearDays daysInYear
  by_cases leap : IsLeap (1980 + years)
  · rw [if_pos leap]
    unfold IsLeap at leap
    split
    · rw [if_pos (by omega)]
    · rw [if_pos (by omega)]
  · rw [if_neg leap]
    unfold IsLeap at leap
    split
    · rw [if_neg (by omega)]
    · rw [if_neg (by omega)]

theorem epochYearDays_bounds (years : Nat) :
    365 ≤ epochYearDays years ∧ epochYearDays years ≤ 366 := by
  rw [epochYearDays_eq]
  unfold daysInYear
  split
  · decide
  · decide

/-- What the loop has found when it ends: the year that holds the day. -/
structure YearDecided (years days : Nat) (found : Nat × Nat) : Prop where
  sameDay : yearStart (1980 + found.1) + found.2 = yearStart (1980 + years) + days
  within : found.2 < daysInYear (1980 + found.1)

theorem yearDecided {fuel years days : Nat} (enough : days ≤ fuel) :
    YearDecided years days (decideYear fuel years days) := by
  induction fuel generalizing years days with
  | zero =>
      have bounds := epochYearDays_bounds years
      constructor
      · rfl
      · show days < daysInYear (1980 + years)
        rw [← epochYearDays_eq]
        omega
  | succ fuel ih =>
      have bounds := epochYearDays_bounds years
      rw [decideYear]
      split
      case isTrue short =>
        constructor
        · rfl
        · show days < daysInYear (1980 + years)
          rw [← epochYearDays_eq]
          omega
      case isFalse =>
        split
        case isTrue short =>
          constructor
          · rfl
          · show days < daysInYear (1980 + years)
            rw [← epochYearDays_eq]
            exact short
        case isFalse long =>
          have later := @ih (years + 1) (days - epochYearDays years) (by omega)
          constructor
          · have next := yearStart_succ (1980 + years)
            rw [← epochYearDays_eq] at next
            rw [later.sameDay, Nat.cast_succ, ← add_assoc, next]
            omega
          · exact later.within

theorem YearDecided.loopLeft {years days : Nat} {found : Nat × Nat}
    (decided : YearDecided years days found) : YearLoopLeft found.1 found.2 := by
  right
  rw [epochYearDays_eq]
  exact decided.within

/-- A day is in one year. -/
theorem YearDecided.unique {years days : Nat} {found other : Nat × Nat}
    (decided : YearDecided years days found) (otherDecided : YearDecided years days other) :
    found = other := by
  have within := decided.within
  have otherWithin := otherDecided.within
  have same := decided.sameDay
  have otherSame := otherDecided.sameDay
  have year : (1980 + found.1 : Int) = 1980 + other.1 := by
    apply @eq_of_year _ _ (yearStart (1980 + years) + days)
    · omega
    · rw [yearStart_succ]
      omega
    · omega
    · rw [yearStart_succ]
      omega
  rw [year] at same
  exact Prod.ext (by omega) (by omega)

/-! ## Months -/

/-- The table `doy` holds the starts of the months. -/
theorem monthStarts_eq (years : Nat) :
    monthStarts years = (List.range 12).map fun index =>
      monthStart (1980 + years) (index + 1) := by
  unfold monthStarts
  rw [epochYearDays_eq, daysInYear]
  by_cases leap : IsLeap (1980 + years)
  · simp [leap, dayOfYear, List.range_succ, monthStart, daysInMonth]
  · simp [leap, dayOfYear, List.range_succ, monthStart, daysInMonth]

theorem decideMonth_eq {years day month : Nat} (atMost : month ≤ 12)
    (starts : monthStart (1980 + years) month ≤ day)
    (ends : day < monthStart (1980 + years) (month + 1)) :
    decideMonth (monthStarts years) day = month := by
  have earlier : ∀ index < month, monthStart (1980 + years) (index + 1) ≤ day :=
    fun index less => (monthStart_monotone _ (Nat.succ_le_of_lt less)).trans starts
  rw [decideMonth, monthStarts_eq]
  rcases Nat.lt_or_eq_of_le atMost with less | rfl
  · rw [List.findIdx_eq (by simpa using less)]
    constructor
    · simpa using ends
    · intro index before
      simpa using earlier index before
  · rw [List.findIdx_eq_length.mpr]
    · simp
    · intro start occurs
      rcases List.mem_map.mp occurs with ⟨index, inRange, rfl⟩
      simpa using earlier index (List.mem_range.mp inRange)

/-! ## GPS time -/

/-- The days since 1980-01-01 of a GPS time. -/
def daysElapsed (week tow : Nat) : Nat :=
  week * 7 + tow / 86400 + 5

/-- The year, the day of the year and the month that the loops decide are those of a date. -/
theorem decided_date {week tow : Nat} {date : Date}
    (is : date.dayNumber = gpsEpoch.date.dayNumber + ((week * 7 + tow / 86400 : Nat) : Int)) :
    date.year = 1980 + (decideYear (daysElapsed week tow) 0 (daysElapsed week tow)).1 ∧
      date.offset = (decideYear (daysElapsed week tow) 0 (daysElapsed week tow)).2 := by
  have decided := @yearDecided _ 0 _ (le_refl (daysElapsed week tow))
  have sameDay := decided.sameDay
  have within := decided.within
  have inYear := date.dayNumber_lt_year
  have epoch : gpsEpoch.date.dayNumber = yearStart 1980 + 5 := rfl
  have number : yearStart date.year + date.offset = yearStart 1980 + daysElapsed week tow := by
    rw [← Date.dayNumber, is, epoch, daysElapsed]
    omega
  rw [Nat.cast_zero, add_zero] at sameDay
  have year :
      date.year = 1980 + (decideYear (daysElapsed week tow) 0 (daysElapsed week tow)).1 := by
    apply eq_of_year date.yearStart_le inYear
    · rw [Date.dayNumber]
      omega
    · rw [yearStart_succ, Date.dayNumber]
      omega
  refine ⟨year, ?_⟩
  rw [year] at number
  omega

/-- What `GpsToUtcTime` hands to `mktime` is the GPS epoch plus that many weeks and seconds. -/
theorem gpsToTm_eq_tmOf (week tow : Nat) (fits : daysElapsed week tow < 2 ^ 31) :
    gpsToTm week tow = tmOf (gpsEpoch.addSeconds (week * 604800 + tow)) := by
  have midnight : gpsEpoch.time.seconds = 0 := rfl
  have days : (week * 604800 + tow) / 86400 = week * 7 + tow / 86400 := by omega
  have rest : (week * 604800 + tow) % 86400 = tow % 86400 := by omega
  have unsigned :
      (((week : Int) * 7 + tow / 86400 + 5) % 2 ^ 32).toNat = daysElapsed week tow := by
    unfold daysElapsed at fits ⊢
    omega
  let date := gpsEpoch.date.addDays (week * 7 + tow / 86400)
  have moment : gpsEpoch.addSeconds (week * 604800 + tow) =
      ⟨date, .ofSeconds (tow % 86400)⟩ := by
    rw [Moment.addSeconds, midnight, zero_add, days, rest]
  rcases @decided_date week tow date (gpsEpoch.date.dayNumber_addDays _) with ⟨year, offset⟩
  have month : decideMonth
      (monthStarts (decideYear (daysElapsed week tow) 0 (daysElapsed week tow)).1)
      (decideYear (daysElapsed week tow) 0 (daysElapsed week tow)).2 = date.month := by
    apply decideMonth_eq date.month_le
    · rw [← year, ← offset]
      exact Nat.le_add_right _ _
    · rw [← year, ← offset]
      exact date.offset_lt_month
  have start : (monthStarts (decideYear (daysElapsed week tow) 0
      (daysElapsed week tow)).1).getD (date.month - 1) 0 = monthStart date.year date.month := by
    have positive := date.month_pos
    have atMost := date.month_le
    have within : date.month - 1 < ((List.range 12).map fun index =>
        monthStart date.year (index + 1)).length := by
      rw [List.length_map, List.length_range]
      omega
    rw [monthStarts_eq, ← year, List.getD_eq_getElem _ _ within, List.getElem_map,
      List.getElem_range, Nat.sub_add_cancel positive]
  have someMonth : 0 < date.month := date.month_pos
  have someDay := date.day_pos
  rw [moment, gpsToTm, unsigned]
  dsimp only
  rw [month, if_pos someMonth, start, ← offset]
  simp only [tmOf, TimeOfDay.ofSeconds, Date.offset, Tm.mk.injEq]
  refine ⟨?_, ?_, ?_, ?_, trivial, ?_, trivial, trivial⟩
  · omega
  · omega
  · omega
  · omega
  · omega

/-- The loop that decides the year is left, with as many turns as there are days or more, and what
`GpsToUtcTime` hands to `mktime` is the GPS epoch plus that many weeks and seconds. -/
theorem gpsToTm_civil (week tow : Nat) (fits : daysElapsed week tow < 2 ^ 31) :
    (∀ fuel, daysElapsed week tow ≤ fuel →
      decideYear fuel 0 (daysElapsed week tow) =
          decideYear (daysElapsed week tow) 0 (daysElapsed week tow) ∧
        YearLoopLeft (decideYear fuel 0 (daysElapsed week tow)).1
          (decideYear fuel 0 (daysElapsed week tow)).2) ∧
      gpsToTm week tow = tmOf (gpsEpoch.addSeconds (week * 604800 + tow)) := by
  constructor
  · intro fuel enough
    have decided := @yearDecided _ 0 _ enough
    exact ⟨decided.unique (yearDecided (le_refl (daysElapsed week tow))), decided.loopLeft⟩
  · exact gpsToTm_eq_tmOf week tow fits

/-- Noon of the first 29th of February -/
theorem gpsToTm_civil_leapDay :
    (decideYear 1000 0 59 = decideYear 59 0 59 ∧
        YearLoopLeft (decideYear 1000 0 59).1 (decideYear 1000 0 59).2) ∧
      gpsToTm 7 475200 =
        { sec := 0, min := 0, hour := 12, mday := 29, mon := 1, year := 80, isdst := -1 } := by
  rcases gpsToTm_civil 7 475200 (by decide) with ⟨ends, fields⟩
  constructor
  · exact ends 1000 (by decide)
  · exact fields.trans (by decide +kernel)

end X3Hal.Gps
