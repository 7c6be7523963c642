import Mathlib.Algebra.Order.Ring.Int

/-!
# GPS time and broken-down time

`GpsToUtcTime` splits a GPS week and time of week into calendar fields, which the
C library's `mktime` turns into seconds.  The library functions depend on the
device's time zone and are a parameter.
-/

namespace X3Hal.Gps

/-- The fields of `struct tm` the HAL reads and writes. -/
structure Tm where
  sec : Int := 0
  min : Int := 0
  hour : Int := 0
  mday : Int := 0
  mon : Int := 0
  year : Int := 0
  isdst : Int := 0
  gmtoff : Int := 0
  deriving DecidableEq, Repr

/-- The time functions of the C library; `mktime` also leaves its argument normalised. -/
structure LibcTime where
  gmtime : Int → Tm
  localtime : Int → Tm
  mktime : Tm → Int × Tm

/-- The days of the year that starts `years` after 1980, as the conversion loop
counts them. -/
def epochYearDays (years : Nat) : Nat :=
  if years % 100 = 20 then
    if years % 400 = 20 then 366 else 365
  else if years % 4 = 0 then 366
  else 365

/-- The loop of `GpsToUtcTime` that decides the year: the years since 1980 and the
days left.  Each turn takes off at least 365 days, so `fuel` may be the days. -/
def decideYear : Nat → Nat → Nat → Nat × Nat
  | 0, years, days => (years, days)
  | fuel + 1, years, days =>
      if days < 365 then (years, days)
      else if days < epochYearDays years then (years, days)
      else decideYear fuel (years + 1) (days - epochYearDays years)

/-- Where the loop is left: by its condition, or by a `break` in a leap year. -/
def YearLoopLeft (years days : Nat) : Prop :=
  days < 365 ∨ days < epochYearDays years

instance (years days : Nat) : Decidable (YearLoopLeft years days) :=
  inferInstanceAs (Decidable (_ ∨ _))

/-- The days before each month of a common year. -/
def dayOfYear : List Nat :=
  [0, 31, 59, 90, 120, 151, 181, 212, 243, 273, 304, 334]

/-- The table `doy` for the year that starts `years` after 1980. -/
def monthStarts (years : Nat) : List Nat :=
  if epochYearDays years = 366 then
    dayOfYear.mapIdx fun i days => if 2 ≤ i then days + 1 else days
  else dayOfYear

/-- The first month whose start lies after the day, or 12. -/
def decideMonth (starts : List Nat) (day : Nat) : Nat :=
  starts.findIdx fun start => day < start

/-- The calendar fields `GpsToUtcTime` passes to `mktime`. -/
def gpsToTm (week : Int) (tow : Nat) : Tm :=
  let daysElapsed := ((week * 7 + tow / 86400 + 5) % 2 ^ 32).toNat
  let secElapsed := tow - tow / 86400 * 86400
  let (years, day) := decideYear daysElapsed 0 daysElapsed
  let starts := monthStarts years
  let month := decideMonth starts day
  let mday : Int := if 0 < month then (day : Int) - starts.getD (month - 1) 0 + 1 else 0
  { sec := (secElapsed - secElapsed / 60 * 60 : Nat)
    min := (secElapsed % 3600 / 60 : Nat)
    hour := (secElapsed / 3600 : Nat)
    mday := mday
    mon := (month : Int) - 1
    year := 1980 + years - 1900
    isdst := -1 }

/-- `GpsToUtcTime` -/
def gpsToUtcTime (libc : LibcTime) (week : Int) (tow : Nat) : Int :=
  (libc.mktime (gpsToTm week tow)).1

/-! ## A device whose time zone is UTC -/

/-- The days from 1970-01-01 to a date of the Gregorian calendar. -/
def daysFromCivil (year month day : Int) : Int :=
  let shifted := if month ≤ 2 then year - 1 else year
  let era := shifted / 400
  let yearOfEra := shifted - era * 400
  let dayOfYear := (153 * (if 2 < month then month - 3 else month + 9) + 2) / 5 + day - 1
  let dayOfEra := yearOfEra * 365 + yearOfEra / 4 - yearOfEra / 100 + dayOfYear
  era * 146097 + dayOfEra - 719468

/-- The broken-down time of a number of seconds, in UTC. -/
def utcFields (seconds : Int) : Tm :=
  let days := seconds / 86400 + 719468
  let rest := seconds % 86400
  let era := days / 146097
  let dayOfEra := days - era * 146097
  let yearOfEra := (dayOfEra - dayOfEra / 1460 + dayOfEra / 36524 - dayOfEra / 146096) / 365
  let dayOfYear := dayOfEra - (365 * yearOfEra + yearOfEra / 4 - yearOfEra / 100)
  let shiftedMonth := (5 * dayOfYear + 2) / 153
  let month := if shiftedMonth < 10 then shiftedMonth + 3 else shiftedMonth - 9
  let year := yearOfEra + era * 400 + if month ≤ 2 then 1 else 0
  { sec := rest % 60
    min := rest % 3600 / 60
    hour := rest / 3600
    mday := dayOfYear - (153 * shiftedMonth + 2) / 5 + 1
    mon := month - 1
    year := year - 1900
    isdst := 0 }

/-- The time functions where the zone is UTC, for fields in range. -/
def LibcTime.utc : LibcTime where
  gmtime := utcFields
  localtime := utcFields
  mktime tm :=
    let seconds := daysFromCivil (tm.year + 1900) (tm.mon + 1) tm.mday * 86400 + tm.hour * 3600 +
      tm.min * 60 + tm.sec
    (seconds, utcFields seconds)

end X3Hal.Gps
