import Mathlib.Data.Int.ConditionallyCompleteOrder
import Mathlib.Data.Int.LeastGreatest
import Mathlib.Data.Int.SuccPred
import Mathlib.Data.Nat.Find
import Mathlib.Order.SuccPred.IntervalSucc
import Mathlib.Tactic.IntervalCases

/-!
# The proleptic Gregorian calendar

A date is a day of a month of a year, and each date has a next one.  The day number
counts days: it is a bijection between dates and integers that takes the next date to
the next number, so a number of days after a date is found by adding.
-/

namespace X3Hal.Calendar

/-- Whether a year has a 29th of February. -/
def IsLeap (year : Int) : Prop :=
  year % 4 = 0 ∧ (year % 100 ≠ 0 ∨ year % 400 = 0)

instance (year : Int) : Decidable (IsLeap year) :=
  inferInstanceAs (Decidable (_ ∧ _))

/-- The length of a month, which is 0 where there is none. -/
def daysInMonth (year : Int) : Nat → Nat
  | 2 => if IsLeap year then 29 else 28
  | 4 | 6 | 9 | 11 => 30
  | 1 | 3 | 5 | 7 | 8 | 10 | 12 => 31
  | _ => 0

def daysInYear (year : Int) : Nat :=
  if IsLeap year then 366 else 365

/-- The days of a year before a month. -/
def monthStart (year : Int) : Nat → Nat
  | 0 => 0
  | month + 1 => monthStart year month + daysInMonth year month

/-- The days before a year, from the first day of year 1. -/
def yearStart (year : Int) : Int :=
  365 * (year - 1) + (year - 1) / 4 - (year - 1) / 100 + (year - 1) / 400

@[ext]
structure Date where
  year : Int
  month : Nat
  day : Nat
  month_pos : 1 ≤ month
  month_le : month ≤ 12
  day_pos : 1 ≤ day
  day_le : day ≤ daysInMonth year month
  deriving DecidableEq

/-! ## Years and months -/

@[simp]
theorem monthStart_zero (year : Int) : monthStart year 0 = 0 :=
  rfl

theorem monthStart_succ (year : Int) (month : Nat) :
    monthStart year (month + 1) = monthStart year month + daysInMonth year month :=
  rfl

@[simp]
theorem monthStart_one (year : Int) : monthStart year 1 = 0 :=
  rfl

theorem monthStart_monotone (year : Int) : Monotone (monthStart year) := by
  apply monotone_nat_of_le_succ
  intro month
  rw [monthStart_succ]
  exact Nat.le_add_right _ _

theorem monthStart_end (year : Int) : monthStart year 13 = daysInYear year := by
  unfold daysInYear
  by_cases leap : IsLeap year
  · simp [monthStart, daysInMonth, leap]
  · simp [monthStart, daysInMonth, leap]

theorem daysInMonth_pos (year : Int) {month : Nat} (positive : 1 ≤ month) (atMost : month ≤ 12) :
    1 ≤ daysInMonth year month := by
  by_cases leap : IsLeap year
  · interval_cases month <;> simp [daysInMonth, leap]
  · interval_cases month <;> simp [daysInMonth, leap]

theorem daysInMonth_le (year : Int) (month : Nat) : daysInMonth year month ≤ 31 := by
  unfold daysInMonth
  split
  · split
    · decide
    · decide
  all_goals decide

theorem yearStart_succ (year : Int) : yearStart (year + 1) = yearStart year + daysInYear year := by
  unfold yearStart daysInYear
  by_cases leap : IsLeap year
  · rw [if_pos leap]
    unfold IsLeap at leap
    omega
  · rw [if_neg leap]
    unfold IsLeap at leap
    omega

theorem yearStart_strictMono : StrictMono yearStart := by
  apply strictMono_int_of_lt_succ
  intro year
  rw [yearStart_succ]
  unfold daysInYear
  split <;> omega

/-- Every day is in a year. -/
theorem exists_year (number : Int) :
    ∃ year, yearStart year ≤ number ∧ number < yearStart (year + 1) := by
  have above : ∃ bound, ∀ year, yearStart year ≤ number → year ≤ bound := by
    refine ⟨max number 0 + 1, fun year starts => ?_⟩
    unfold yearStart at starts
    omega
  have below : ∃ year, yearStart year ≤ number := by
    refine ⟨min number 0 - 1, ?_⟩
    unfold yearStart
    omega
  rcases Int.exists_greatest_of_bdd above below with ⟨year, starts, greatest⟩
  refine ⟨year, starts, ?_⟩
  by_contra later
  have next := greatest (year + 1) (not_lt.mp later)
  omega

/-- Every day of a year is in a month. -/
theorem exists_month {year : Int} {offset : Nat} (within : offset < daysInYear year) :
    ∃ month, 1 ≤ month ∧ month ≤ 12 ∧ monthStart year month ≤ offset ∧
      offset < monthStart year (month + 1) := by
  let month := Nat.findGreatest (fun month => monthStart year month ≤ offset) 12
  have atMost : month ≤ 12 := Nat.findGreatest_le 12
  have starts : monthStart year month ≤ offset :=
    Nat.findGreatest_spec (P := fun month => monthStart year month ≤ offset) (Nat.zero_le 12)
      (Nat.zero_le offset)
  have positive : 1 ≤ month := Nat.le_findGreatest (by decide) (Nat.zero_le offset)
  refine ⟨month, positive, atMost, starts, ?_⟩
  by_contra later
  rcases Nat.lt_or_eq_of_le atMost with less | last
  · exact Nat.findGreatest_is_greatest (P := fun month => monthStart year month ≤ offset)
      (Nat.lt_succ_self month) less (not_lt.mp later)
  · rw [last, monthStart_end] at later
    exact later within

theorem eq_of_month {year : Int} {month other offset : Nat}
    (starts : monthStart year month ≤ offset) (ends : offset < monthStart year (month + 1))
    (otherStarts : monthStart year other ≤ offset)
    (otherEnds : offset < monthStart year (other + 1)) :
    month = other := by
  by_contra apart
  exact Set.disjoint_left.mp ((monthStart_monotone year).pairwise_disjoint_on_Ico_succ apart)
    ⟨starts, ends⟩ ⟨otherStarts, otherEnds⟩

theorem eq_of_year {year other number : Int} (starts : yearStart year ≤ number)
    (ends : number < yearStart (year + 1)) (otherStarts : yearStart other ≤ number)
    (otherEnds : number < yearStart (other + 1)) : year = other := by
  by_contra apart
  exact Set.disjoint_left.mp (yearStart_strictMono.monotone.pairwise_disjoint_on_Ico_succ apart)
    ⟨starts, ends⟩ ⟨otherStarts, otherEnds⟩

/-! ## Dates -/

namespace Date

/-- A date from fields that are in range. -/
def ofFields (year : Int) (month day : Nat)
    (valid : (1 ≤ month ∧ month ≤ 12) ∧ 1 ≤ day ∧ day ≤ daysInMonth year month) : Date :=
  ⟨year, month, day, valid.1.1, valid.1.2, valid.2.1, valid.2.2⟩

/-- The days of the year before a date. -/
def offset (date : Date) : Nat :=
  monthStart date.year date.month + (date.day - 1)

/-- The days before a date, from the first day of year 1. -/
def dayNumber (date : Date) : Int :=
  yearStart date.year + date.offset

theorem offset_lt_month (date : Date) : date.offset < monthStart date.year (date.month + 1) := by
  have positive := date.day_pos
  have atMost := date.day_le
  rw [offset, monthStart_succ]
  omega

theorem offset_lt_year (date : Date) : date.offset < daysInYear date.year := by
  rw [← monthStart_end]
  have atMost : date.month + 1 ≤ 13 := Nat.succ_le_succ date.month_le
  exact date.offset_lt_month.trans_le (monthStart_monotone date.year atMost)

theorem dayNumber_lt_year (date : Date) : date.dayNumber < yearStart (date.year + 1) := by
  have within := date.offset_lt_year
  rw [dayNumber, yearStart_succ]
  omega

theorem yearStart_le (date : Date) : yearStart date.year ≤ date.dayNumber :=
  Int.le_add_of_nonneg_right (Int.natCast_nonneg _)

theorem monthStart_le (date : Date) : monthStart date.year date.month ≤ date.offset :=
  Nat.le_add_right _ _

theorem dayNumber_injective : Function.Injective dayNumber := by
  intro date other same
  have year : date.year = other.year := by
    apply eq_of_year date.yearStart_le date.dayNumber_lt_year
    · rw [same]
      exact other.yearStart_le
    · rw [same]
      exact other.dayNumber_lt_year
  have offset : date.offset = other.offset := by
    rw [dayNumber, dayNumber, year] at same
    omega
  have month : date.month = other.month := by
    apply eq_of_month date.monthStart_le date.offset_lt_month
    · rw [offset, year]
      exact other.monthStart_le
    · rw [offset, year]
      exact other.offset_lt_month
  have day : date.day = other.day := by
    have positive := date.day_pos
    have otherPositive := other.day_pos
    rw [Date.offset, Date.offset, year, month] at offset
    omega
  exact Date.ext year month day

/-- Every number is the number of a date. -/
theorem exists_dayNumber (number : Int) : ∃ date : Date, date.dayNumber = number := by
  rcases exists_year number with ⟨year, starts, ends⟩
  have within : (number - yearStart year).toNat < daysInYear year := by
    rw [yearStart_succ] at ends
    omega
  rcases exists_month within with ⟨month, positive, atMost, monthStarts, monthEnds⟩
  rw [monthStart_succ] at monthEnds
  let day := (number - yearStart year).toNat - monthStart year month + 1
  have isDay : 1 ≤ day ∧ day ≤ daysInMonth year month := by
    constructor
    · exact Nat.le_add_left 1 _
    · omega
  refine ⟨⟨year, month, day, positive, atMost, isDay.1, isDay.2⟩, ?_⟩
  simp only [dayNumber, offset]
  omega

/-- The day after a date. -/
def next (date : Date) : Date :=
  if inMonth : date.day < daysInMonth date.year date.month then
    { date with
      day := date.day + 1
      day_pos := Nat.le_add_left 1 _
      day_le := inMonth }
  else if inYear : date.month < 12 then
    { year := date.year
      month := date.month + 1
      day := 1
      month_pos := Nat.le_add_left 1 _
      month_le := inYear
      day_pos := le_rfl
      day_le := daysInMonth_pos date.year (Nat.le_add_left 1 _) inYear }
  else
    { year := date.year + 1
      month := 1
      day := 1
      month_pos := le_rfl
      month_le := by decide
      day_pos := le_rfl
      day_le := daysInMonth_pos (date.year + 1) le_rfl (by decide) }

theorem dayNumber_next (date : Date) : date.next.dayNumber = date.dayNumber + 1 := by
  have positive := date.day_pos
  have atMost := date.day_le
  unfold next
  split
  case isTrue inMonth =>
    simp only [dayNumber, offset]
    omega
  case isFalse outOfMonth =>
    split
    case isTrue inYear =>
      simp only [dayNumber, offset, monthStart_succ]
      omega
    case isFalse outOfYear =>
      have last : date.month = 12 := le_antisymm date.month_le (not_lt.mp outOfYear)
      have whole := monthStart_end date.year
      rw [monthStart_succ] at whole
      rw [last] at outOfMonth atMost
      simp only [dayNumber, offset, monthStart_one, yearStart_succ, last]
      omega

/-- The date that comes a number of days after a date. -/
def addDays (date : Date) (days : Nat) : Date :=
  next^[days] date

theorem dayNumber_addDays (date : Date) (days : Nat) :
    (date.addDays days).dayNumber = date.dayNumber + days := by
  induction days with
  | zero => exact (Int.add_zero _).symm
  | succ days ih =>
      unfold addDays at ih ⊢
      rw [Function.iterate_succ_apply', dayNumber_next, ih]
      omega

end Date

/-! ## Times of day -/

@[ext]
structure TimeOfDay where
  hour : Nat
  minute : Nat
  second : Nat
  hour_lt : hour < 24
  minute_lt : minute < 60
  second_lt : second < 60
  deriving DecidableEq

namespace TimeOfDay

/-- The seconds since midnight. -/
def seconds (time : TimeOfDay) : Nat :=
  time.hour * 3600 + time.minute * 60 + time.second

def ofSeconds (seconds : Nat) : TimeOfDay where
  hour := seconds / 3600 % 24
  minute := seconds / 60 % 60
  second := seconds % 60
  hour_lt := Nat.mod_lt _ (by decide)
  minute_lt := Nat.mod_lt _ (by decide)
  second_lt := Nat.mod_lt _ (by decide)

theorem seconds_lt (time : TimeOfDay) : time.seconds < 86400 := by
  have hour := time.hour_lt
  have minute := time.minute_lt
  have second := time.second_lt
  unfold seconds
  omega

theorem seconds_ofSeconds {seconds : Nat} (within : seconds < 86400) :
    (ofSeconds seconds).seconds = seconds := by
  simp only [TimeOfDay.seconds, ofSeconds]
  omega

theorem seconds_injective : Function.Injective seconds := by
  intro time other same
  have minute := time.minute_lt
  have otherMinute := other.minute_lt
  have second := time.second_lt
  have otherSecond := other.second_lt
  unfold seconds at same
  apply TimeOfDay.ext
  · omega
  · omega
  · omega

end TimeOfDay

/-- A date with a time of day. -/
@[ext]
structure Moment where
  date : Date
  time : TimeOfDay
  deriving DecidableEq

namespace Moment

/-- The seconds before a moment, from the start of year 1. -/
def seconds (moment : Moment) : Int :=
  moment.date.dayNumber * 86400 + moment.time.seconds

theorem seconds_injective : Function.Injective seconds := by
  intro moment other same
  have within := moment.time.seconds_lt
  have otherWithin := other.time.seconds_lt
  unfold seconds at same
  apply Moment.ext
  · apply Date.dayNumber_injective
    omega
  · apply TimeOfDay.seconds_injective
    omega

theorem exists_seconds (number : Int) : ∃ moment : Moment, moment.seconds = number := by
  rcases Date.exists_dayNumber (number / 86400) with ⟨date, day⟩
  have within : (number % 86400).toNat < 86400 := by omega
  refine ⟨⟨date, .ofSeconds (number % 86400).toNat⟩, ?_⟩
  rw [seconds, day, TimeOfDay.seconds_ofSeconds within]
  omega

/-- The moment that comes a number of seconds after a moment. -/
def addSeconds (moment : Moment) (seconds : Nat) : Moment where
  date := moment.date.addDays ((moment.time.seconds + seconds) / 86400)
  time := .ofSeconds ((moment.time.seconds + seconds) % 86400)

theorem seconds_addSeconds (moment : Moment) (seconds : Nat) :
    (moment.addSeconds seconds).seconds = moment.seconds + seconds := by
  have within : (moment.time.seconds + seconds) % 86400 < 86400 := Nat.mod_lt _ (by decide)
  simp only [Moment.seconds, addSeconds, Date.dayNumber_addDays,
    TimeOfDay.seconds_ofSeconds within]
  omega

end Moment

end X3Hal.Calendar
