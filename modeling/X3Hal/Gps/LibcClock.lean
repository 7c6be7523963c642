import X3Hal.Calendar.LocalTime
import X3Hal.Gps.CivilTime

/-!
# The time functions of the C library

What `gmtime_r`, `localtime_r` and `mktime` mean in a zone.  A local time that comes twice
may stand for either instant.  One that never comes is answered with the fields of some
instant, or with an error.
-/

namespace X3Hal.Gps

open X3Hal.Calendar

/-- 1970-01-01, from which the seconds of `time_t` count. -/
def unixDay : Date :=
  .ofFields 1970 1 1 (by decide)

/-- The seconds from 1970 to a time of a day. -/
def civilSeconds (date : Date) (hour minute second : Int) : Int :=
  (date.dayNumber - unixDay.dayNumber) * 86400 + hour * 3600 + minute * 60 + second

/-- The fields of `tm` are in the ranges that C gives them, and stand for a number of
seconds; second 60 is a leap second. -/
structure Tm.Means (tm : Tm) (seconds : Int) : Prop where
  hour : 0 ≤ tm.hour ∧ tm.hour < 24
  min : 0 ≤ tm.min ∧ tm.min < 60
  sec : 0 ≤ tm.sec ∧ tm.sec ≤ 60
  date : ∃ date : Date, tm.year = date.year - 1900 ∧ tm.mon = (date.month : Int) - 1 ∧
    tm.mday = date.day ∧ seconds = civilSeconds date tm.hour tm.min tm.sec

/-- The time functions of a C library on a device in a zone. -/
structure LibcTime.Conforms (libc : LibcTime) (zone : Zone) : Prop where
  gmtime : ∀ instant, (libc.gmtime instant).Means instant
  localtime : ∀ instant, (libc.localtime instant).Means (zone.reading instant)
  gmtoff : ∀ instant, (libc.localtime instant).gmtoff = zone.offset instant
  /-- A local time that comes stands for an instant at which it comes. -/
  mktime : ∀ tm seconds, tm.Means seconds → tm.isdst < 0 → zone.Occurs seconds →
    zone.reading (libc.mktime tm).1 = seconds
  /-- The fields are left as those of the result, or unchanged after an error. -/
  normalises : ∀ tm seconds, tm.Means seconds → tm.isdst < 0 →
    (libc.mktime tm).2 = libc.localtime (libc.mktime tm).1 ∨ libc.mktime tm = (-1, tm)
  /-- The fields of an instant stand for one with the same fields. -/
  mktime_localtime : ∀ instant,
    zone.reading (libc.mktime (libc.localtime instant)).1 = zone.reading instant

theorem Tm.Means.unique {tm : Tm} {seconds other : Int} (means : tm.Means seconds)
    (alsoMeans : tm.Means other) : seconds = other := by
  rcases means.date with ⟨date, year, month, day, isSeconds⟩
  rcases alsoMeans.date with ⟨otherDate, otherYear, otherMonth, otherDay, isOther⟩
  have same : date = otherDate := by
    apply Date.ext
    · omega
    · omega
    · omega
  rw [isSeconds, isOther, same]

/-! ## Every zone has a C library -/

theorem Tm.Means.of_eq {tm other : Tm} {seconds : Int} (means : tm.Means seconds)
    (same : { other with isdst := 0, gmtoff := 0 } = { tm with isdst := 0, gmtoff := 0 }) :
    other.Means seconds := by
  rw [Tm.mk.injEq] at same
  rcases same with ⟨sec, min, hour, mday, mon, year, -, -⟩
  rcases means with ⟨isHour, isMin, isSec, date, isYear, isMon, isMday, isSeconds⟩
  refine ⟨hour ▸ isHour, min ▸ isMin, sec ▸ isSec, date, ?_, ?_, ?_, ?_⟩
  · rw [year, isYear]
  · rw [mon, isMon]
  · rw [mday, isMday]
  · rw [hour, min, sec, isSeconds]

/-- The fields of a moment stand for its seconds. -/
theorem means_tmOf (moment : Moment) :
    (tmOf moment).Means (moment.seconds - unixDay.dayNumber * 86400) := by
  have hour := moment.time.hour_lt
  have minute := moment.time.minute_lt
  have second := moment.time.second_lt
  refine ⟨?_, ?_, ?_, moment.date, rfl, rfl, rfl, ?_⟩
  · simp only [tmOf]
    omega
  · simp only [tmOf]
    omega
  · simp only [tmOf]
    omega
  · simp only [tmOf, civilSeconds]
    rw [Moment.seconds, TimeOfDay.seconds]
    push_cast
    omega

/-- Every number of seconds has its fields. -/
theorem exists_means (seconds : Int) : ∃ tm : Tm, tm.Means seconds := by
  rcases Moment.exists_seconds (unixDay.dayNumber * 86400 + seconds) with ⟨moment, is⟩
  have same : moment.seconds - unixDay.dayNumber * 86400 = seconds := by omega
  exact ⟨tmOf moment, same ▸ means_tmOf moment⟩

section Library

variable (zone : Zone) (nowhere : Int)

/-- The fields of a number of seconds. -/
noncomputable def clockFields (seconds : Int) : Tm :=
  (exists_means seconds).choose

theorem means_clockFields (seconds : Int) : (clockFields seconds).Means seconds :=
  (exists_means seconds).choose_spec

/-- What the clocks of a zone show at an instant. -/
noncomputable def localFields (instant : Int) : Tm :=
  { clockFields (zone.reading instant) with gmtoff := zone.offset instant }

theorem means_localFields (instant : Int) :
    (localFields zone instant).Means (zone.reading instant) :=
  (means_clockFields _).of_eq rfl

open Classical in
/-- An instant for the fields of a local time, and `nowhere` if it never comes. -/
noncomputable def instantOf (tm : Tm) : Int :=
  if comes : ∃ instant, tm.Means (zone.reading instant) then comes.choose else nowhere

theorem reading_instantOf {tm : Tm} {seconds : Int} (means : tm.Means seconds)
    (occurs : zone.Occurs seconds) : zone.reading (instantOf zone nowhere tm) = seconds := by
  have comes : ∃ instant, tm.Means (zone.reading instant) := by
    rcases occurs with ⟨instant, shows⟩
    exact ⟨instant, shows ▸ means⟩
  rw [instantOf, dif_pos comes]
  exact comes.choose_spec.unique means

theorem instantOf_nowhere {tm : Tm} {seconds : Int} (means : tm.Means seconds)
    (never : ¬ zone.Occurs seconds) : instantOf zone nowhere tm = nowhere := by
  rw [instantOf, dif_neg]
  rintro ⟨instant, comes⟩
  exact never ⟨instant, comes.unique means⟩

/-- A C library for the zone. -/
noncomputable def zoneLibc : LibcTime where
  gmtime := clockFields
  localtime := localFields zone
  mktime tm := (instantOf zone nowhere tm, localFields zone (instantOf zone nowhere tm))

theorem conforms_zoneLibc : (zoneLibc zone nowhere).Conforms zone where
  gmtime := means_clockFields
  localtime := means_localFields zone
  gmtoff := fun _ => rfl
  mktime := fun _ _ means _ occurs => reading_instantOf zone nowhere means occurs
  normalises := fun _ _ _ _ => Or.inl rfl
  mktime_localtime := fun instant =>
    reading_instantOf zone nowhere (means_localFields zone instant) (zone.occurs_reading instant)

end Library

end X3Hal.Gps
