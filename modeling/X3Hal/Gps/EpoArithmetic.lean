import X3Hal.Gps.Epo
import X3Hal.Gps.UtcClock

/-!
# The times of EPO records

The first three bytes of a record count hours.  They are multiplied up to seconds in an
`unsigned int`, and the data ends six hours after the hours of the last record.  What is
reported is what `mktime` makes of the calendar fields of these seconds, in the zone of the
device.
-/

namespace X3Hal.Gps

open X3Hal.Calendar

/-- `*u4GpsSecs` and `*uSecond` -/
structure EpoPeriod where
  gpsSecs : Nat
  second : Int
  deriving DecidableEq, Repr

def epoPeriod (libc : LibcTime) (gpsSecs : Nat) : EpoPeriod :=
  ⟨gpsSecs, gpsSecsToUtc libc gpsSecs⟩

/-- `mtk_gps_sys_epo_period_start`, on the bytes of the file. -/
def mtkGpsSysEpoPeriodStart (libc : LibcTime) (bytes : List UInt8) : Option EpoPeriod :=
  if bytes.length < mtkEpoOneSvSize then none
  else some (epoPeriod libc (recordGpsSecs bytes))

/-- The last record of a file. -/
def lastRecord (bytes : List UInt8) : List UInt8 :=
  bytes.drop (bytes.length - mtkEpoOneSvSize)

/-- `mtk_gps_sys_epo_period_end` -/
def mtkGpsSysEpoPeriodEnd (libc : LibcTime) (bytes : List UInt8) : Option EpoPeriod :=
  if bytes.length < mtkEpoOneSvSize then none
  else some (epoPeriod libc ((recordGpsSecs (lastRecord bytes) + 21600) % 2 ^ 32))

/-- The functions for the pieces of a download do the same. -/
theorem pieceDataStart_eq (libc : LibcTime) (bytes : List UInt8) :
    pieceDataStart libc bytes = (mtkGpsSysEpoPeriodStart libc bytes).map EpoPeriod.second := by
  unfold pieceDataStart mtkGpsSysEpoPeriodStart
  split
  · rfl
  · rfl

theorem pieceDataEnd_eq (libc : LibcTime) (bytes : List UInt8) :
    pieceDataEnd libc bytes = (mtkGpsSysEpoPeriodEnd libc bytes).map EpoPeriod.second := by
  unfold pieceDataEnd mtkGpsSysEpoPeriodEnd
  split
  · rfl
  · rfl

/-! ## Civil time -/

/-- The UTC second, from 1970, at which a number of GPS seconds has passed. -/
def utcSecond (gpsSecs : Nat) : Int :=
  (gpsEpoch.addSeconds gpsSecs).seconds - unixDay.dayNumber * 86400

theorem utcSecond_eq (gpsSecs : Nat) : utcSecond gpsSecs = 315964800 + gpsSecs := by
  have epoch : gpsEpoch.seconds - unixDay.dayNumber * 86400 = 315964800 := by decide +kernel
  rw [utcSecond, Moment.seconds_addSeconds, ← epoch]
  omega

/-- Seconds that fit an `unsigned int` are handed to `mktime` as the civil time they are. -/
theorem gpsSecsToUtc_eq (libc : LibcTime) {gpsSecs : Nat} (fits : gpsSecs < 2 ^ 32) :
    gpsSecsToUtc libc gpsSecs = (libc.mktime (tmOf (gpsEpoch.addSeconds gpsSecs))).1 := by
  have days : daysElapsed (gpsSecs / 604800) (gpsSecs % 604800) < 2 ^ 31 := by
    unfold daysElapsed
    omega
  have whole : gpsSecs / 604800 * 604800 + gpsSecs % 604800 = gpsSecs := by omega
  rw [gpsSecsToUtc, gpsToUtcTime, gpsToTm_eq_tmOf _ _ days, whole]

/-! ## The zone -/

/-- The clocks of the zone show these seconds at the UTC second they name, and at no other. -/
def ShowsAsUtc (zone : Zone) (seconds : Int) : Prop :=
  ∀ instant, zone.reading instant = seconds ↔ instant = seconds

theorem showsAsUtc_utcZone (seconds : Int) : ShowsAsUtc utcZone seconds := by
  intro instant
  rw [reading_utcZone]

/-- A C library that answers one local time with a given instant. -/
noncomputable def libcAnswering (zone : Zone) (tm : Tm) (answer : Int) : LibcTime :=
  { zoneLibc zone 0 with
    mktime := fun other =>
      if other = tm then (answer, localFields zone answer) else (zoneLibc zone 0).mktime other }

theorem mktime_libcAnswering (zone : Zone) (tm : Tm) (answer : Int) :
    ((libcAnswering zone tm answer).mktime tm).1 = answer := by
  simp only [libcAnswering, if_pos]

/-- It conforms if the local time never comes or comes at that instant. -/
theorem conforms_libcAnswering {zone : Zone} {tm : Tm} {seconds answer : Int}
    (means : tm.Means seconds) (comes : zone.Occurs seconds → zone.reading answer = seconds) :
    (libcAnswering zone tm answer).Conforms zone := by
  have conforms := conforms_zoneLibc zone 0
  constructor
  · exact conforms.gmtime
  · exact conforms.localtime
  · exact conforms.gmtoff
  · intro other otherSeconds otherMeans unknown occurs
    simp only [libcAnswering]
    split
    case isTrue same =>
      rw [same] at otherMeans
      rw [otherMeans.unique means] at occurs ⊢
      exact comes occurs
    case isFalse => exact conforms.mktime other otherSeconds otherMeans unknown occurs
  · intro other otherSeconds otherMeans unknown
    simp only [libcAnswering]
    split
    case isTrue => exact Or.inl rfl
    case isFalse => exact conforms.normalises other otherSeconds otherMeans unknown
  · intro instant
    simp only [libcAnswering]
    split
    case isTrue same =>
      have shown : zone.reading instant = seconds := by
        have local_means := conforms.localtime instant
        rw [same] at local_means
        exact local_means.unique means
      rw [shown]
      exact comes ⟨instant, shown⟩
    case isFalse => exact conforms.mktime_localtime instant

/-- Every conforming library takes the fields for the UTC second just if the clocks show it then
and at no other instant. -/
theorem gpsSecsToUtc_exact_iff (zone : Zone) {gpsSecs : Nat} (fits : gpsSecs < 2 ^ 32) :
    (∀ libc : LibcTime, libc.Conforms zone → gpsSecsToUtc libc gpsSecs = utcSecond gpsSecs) ↔
      ShowsAsUtc zone (utcSecond gpsSecs) := by
  have means : (tmOf (gpsEpoch.addSeconds gpsSecs)).Means (utcSecond gpsSecs) := means_tmOf _
  constructor
  · intro exact
    have answered : ∀ answer : Int,
        (zone.Occurs (utcSecond gpsSecs) → zone.reading answer = utcSecond gpsSecs) →
          answer = utcSecond gpsSecs := by
      intro answer comes
      have reported := exact _ (conforms_libcAnswering means comes)
      rwa [gpsSecsToUtc_eq _ fits, mktime_libcAnswering] at reported
    have occurs : zone.Occurs (utcSecond gpsSecs) := by
      by_contra never
      have other := answered (utcSecond gpsSecs + 1) fun occurs => absurd occurs never
      omega
    have only :
        ∀ instant, zone.reading instant = utcSecond gpsSecs → instant = utcSecond gpsSecs :=
      fun instant shows => answered instant fun _ => shows
    intro instant
    constructor
    · exact only instant
    · rintro rfl
      rcases occurs with ⟨other, shows⟩
      rw [only other shows] at shows
      exact shows
  · intro shows libc conforms
    rw [gpsSecsToUtc_eq _ fits]
    apply (shows _).mp
    have unknown : (tmOf (gpsEpoch.addSeconds gpsSecs)).isdst < 0 := Int.negSucc_lt_zero 0
    exact conforms.mktime _ _ means unknown ⟨_, (shows _).mpr rfl⟩

/-! ## The records of a file -/

/-- The three bytes that count the hours. -/
def recordHours (record : List UInt8) : Nat :=
  (record.getD 0 0).toNat + (record.getD 1 0).toNat * 2 ^ 8 + (record.getD 2 0).toNat * 2 ^ 16

theorem recordGpsSecs_eq (record : List UInt8) :
    recordGpsSecs record = recordHours record * 3600 % 2 ^ 32 :=
  rfl

/-- What is reported for a number of GPS seconds is that number and its civil time. -/
structure EpoPeriod.IsExact (period : EpoPeriod) (gpsSecs : Nat) : Prop where
  gpsSecs_eq : period.gpsSecs = gpsSecs
  second_eq : period.second = utcSecond gpsSecs

/-- On a device in the zone, the start is that of the first record, and the end is six hours after
that of the last one. -/
def EpoTimesExact (zone : Zone) (bytes : List UInt8) : Prop :=
  ∀ libc : LibcTime, libc.Conforms zone →
    (∀ period, mtkGpsSysEpoPeriodStart libc bytes = some period →
      period.IsExact (recordHours bytes * 3600)) ∧
    ∀ period, mtkGpsSysEpoPeriodEnd libc bytes = some period →
      period.IsExact (recordHours (lastRecord bytes) * 3600 + 21600)

/-- Seconds that may have wrapped are exact if they have not and their civil time is. -/
theorem isExact_epoPeriod_iff (zone : Zone) (gpsSecs : Nat) :
    (∀ libc : LibcTime, libc.Conforms zone →
        (epoPeriod libc (gpsSecs % 2 ^ 32)).IsExact gpsSecs) ↔
      gpsSecs < 2 ^ 32 ∧ ShowsAsUtc zone (utcSecond gpsSecs) := by
  constructor
  · intro exact
    have fits : gpsSecs < 2 ^ 32 := by
      have same : gpsSecs % 2 ^ 32 = gpsSecs := (exact _ (conforms_zoneLibc zone 0)).gpsSecs_eq
      rw [← same]
      exact Nat.mod_lt _ (Nat.two_pow_pos 32)
    refine ⟨fits, (gpsSecsToUtc_exact_iff zone fits).mp fun libc conforms => ?_⟩
    have second := (exact libc conforms).second_eq
    rwa [Nat.mod_eq_of_lt fits] at second
  · rintro ⟨fits, shows⟩ libc conforms
    rw [Nat.mod_eq_of_lt fits]
    constructor
    · rfl
    · exact (gpsSecsToUtc_exact_iff zone fits).mpr shows libc conforms

section File

variable {bytes : List UInt8} (hasRecord : mtkEpoOneSvSize ≤ bytes.length)
include hasRecord

theorem mtkGpsSysEpoPeriodStart_eq (libc : LibcTime) : mtkGpsSysEpoPeriodStart libc bytes =
    some (epoPeriod libc (recordHours bytes * 3600 % 2 ^ 32)) := by
  rw [mtkGpsSysEpoPeriodStart, if_neg (not_lt.mpr hasRecord), recordGpsSecs_eq]

theorem mtkGpsSysEpoPeriodEnd_eq (libc : LibcTime) : mtkGpsSysEpoPeriodEnd libc bytes =
    some (epoPeriod libc ((recordHours (lastRecord bytes) * 3600 + 21600) % 2 ^ 32)) := by
  rw [mtkGpsSysEpoPeriodEnd, if_neg (not_lt.mpr hasRecord), recordGpsSecs_eq, Nat.mod_add_mod]

/-- The times of a file are exact just if its hours are few enough for 32 bits, 21600 seconds more
for the last record, and the device's clocks show UTC at these times. -/
theorem epoTimesExact_iff (zone : Zone) :
    EpoTimesExact zone bytes ↔
      (recordHours bytes ≤ 1193046 ∧ ShowsAsUtc zone (utcSecond (recordHours bytes * 3600))) ∧
      recordHours (lastRecord bytes) ≤ 1193040 ∧
        ShowsAsUtc zone (utcSecond (recordHours (lastRecord bytes) * 3600 + 21600)) := by
  have startFits (hours : Nat) : hours ≤ 1193046 ↔ hours * 3600 < 2 ^ 32 := by omega
  have endFits (hours : Nat) : hours ≤ 1193040 ↔ hours * 3600 + 21600 < 2 ^ 32 := by omega
  rw [startFits, endFits, ← isExact_epoPeriod_iff, ← isExact_epoPeriod_iff, EpoTimesExact]
  constructor
  · intro exact
    constructor
    · intro libc conforms
      exact (exact libc conforms).1 _ (mtkGpsSysEpoPeriodStart_eq hasRecord libc)
    · intro libc conforms
      exact (exact libc conforms).2 _ (mtkGpsSysEpoPeriodEnd_eq hasRecord libc)
  · rintro ⟨startExact, endExact⟩ libc conforms
    constructor
    · intro period reported
      rw [mtkGpsSysEpoPeriodStart_eq hasRecord, Option.some_inj] at reported
      exact reported ▸ startExact libc conforms
    · intro period reported
      rw [mtkGpsSysEpoPeriodEnd_eq hasRecord, Option.some_inj] at reported
      exact reported ▸ endExact libc conforms

end File

/-- A file of one record. -/
def oneRecordFile (b0 b1 b2 : UInt8) : List UInt8 :=
  b0 :: b1 :: b2 :: List.replicate 69 0

/-- A record of 2026: the hours 0x0631d4. -/
theorem epoTimesExact_iff_year2026 :
    72 ≤ (oneRecordFile 0xd4 0x31 0x06).length ∧
      EpoTimesExact utcZone (oneRecordFile 0xd4 0x31 0x06) := by
  constructor
  · decide
  · have hasRecord : mtkEpoOneSvSize ≤ (oneRecordFile 0xd4 0x31 0x06).length := by decide
    apply (epoTimesExact_iff hasRecord utcZone).mpr
    constructor
    · exact ⟨by decide, showsAsUtc_utcZone _⟩
    · exact ⟨by decide, showsAsUtc_utcZone _⟩

/-- 16777215 hours come to 268431856 seconds, in 1988, on a device in UTC. -/
theorem epoTimes_wrapped :
    72 ≤ (oneRecordFile 0xff 0xff 0xff).length ∧
      ¬ EpoTimesExact utcZone (oneRecordFile 0xff 0xff 0xff) := by
  constructor
  · decide
  · intro exact
    have hasRecord : mtkEpoOneSvSize ≤ (oneRecordFile 0xff 0xff 0xff).length := by decide
    have start := (exact LibcTime.utc conforms_utc).1 _ (mtkGpsSysEpoPeriodStart_eq hasRecord _)
    exact absurd start.gpsSecs_eq (by decide)

end X3Hal.Gps
