import X3Hal.Gps.Epo
import X3Hal.Gps.NmeaText
import X3Hal.Gps.UtcClock

/-!
# The expiry of EPO data

`mtk_epo_is_expired` sets a deadline from the start of the data.  Without wifi the deadline is
cut down to what the file covers; over wifi it is the configured period, however little the
file covers.
-/

namespace X3Hal.Gps

/-! ## Configuration -/

/-- `gps_epo_period` and `wifi_epo_period`, in days. -/
structure EpoPeriods where
  gps : Int
  wifi : Int
  gps_mem : gps = 3 ∨ gps = 15 ∨ gps = 30
  wifi_mem : wifi = 1 ∨ wifi = 3 ∨ wifi = 15 ∨ wifi = 30

/-- `gps_download_epo_enable` on the values of the EPO control file, where it has them: others
than 3, 15 and 30 are replaced. -/
def downloadEpoPeriods (gpsEpoPeriod wifiEpoPeriod : Option Int) (periods : EpoPeriods) :
    EpoPeriods where
  gps := gpsEpoPeriod.elim periods.gps fun days =>
    if days ≠ 30 ∧ days ≠ 3 ∧ days ≠ 15 then 3 else days
  wifi := wifiEpoPeriod.elim periods.wifi fun days =>
    if days ≠ 30 ∧ days ≠ 3 ∧ days ≠ 15 then 1 else days
  gps_mem := by
    cases gpsEpoPeriod with
    | none => exact periods.gps_mem
    | some days =>
        rw [Option.elim_some]
        split
        · exact Or.inl rfl
        · omega
  wifi_mem := by
    cases wifiEpoPeriod with
    | none => exact periods.wifi_mem
    | some days =>
        rw [Option.elim_some]
        split
        · exact Or.inl rfl
        · omega

/-- The initial values of the periods. -/
def defaultEpoPeriods : EpoPeriods :=
  ⟨3, 1, by decide, by decide⟩

/-! ## Times -/

/-- `uTime[0]` and `uTime[2]`: where the data starts and where it ends. -/
structure EpoTimes where
  start : Int
  finish : Int
  deriving DecidableEq, Repr

/-- `mtk_gps_epo_file_time_hal` on `EPO_FILE_HAL` or else `EPO_FILE`, when the one that exists can
be read; what it does not set is still 0. -/
def mtkGpsEpoFileTimeHal (libc : LibcTime) (file : Option (List UInt8)) : EpoTimes :=
  match file with
  | none => ⟨0, 0⟩
  | some bytes =>
      match pieceDataStart libc bytes with
      | none => ⟨0, 0⟩
      | some start => ⟨start, (pieceDataEnd libc bytes).getD 0⟩

/-- `time_utc`: `mktime` of the fields of `gmtime_r` -/
def currentTime (libc : LibcTime) (now : Int) : Int :=
  (libc.mktime (libc.gmtime now)).1

/-- `expired_set` -/
def expiredSet (periods : EpoPeriods) (wifiTrigger : Bool) (times : EpoTimes) : Int :=
  let etime := periods.gps * 24 * 60 * 60
  if wifiTrigger then periods.wifi * 24 * 60 * 60
  else if times.finish - times.start < etime then
    let downloadDay := wrap32 ((times.finish - times.start).tdiv (24 * 60 * 60))
    if downloadDay < 3 then 0
    else if downloadDay < 6 then 2 * 24 * 60 * 60
    else if 6 ≤ downloadDay ∧ downloadDay < 9 then 5 * 24 * 60 * 60
    else 7 * 24 * 60 * 60
  else etime

/-- `mtk_epo_is_expired`: its result and `gps_epo_file_count`.  Both sides of the comparison are
converted to `unsigned long`. -/
def mtkEpoIsExpired (libc : LibcTime) (now : Int) (file : Option (List UInt8))
    (periods : EpoPeriods) (wifiTrigger : Bool) (fileCount : Nat) : Int × Nat :=
  let times := mtkGpsEpoFileTimeHal libc file
  if (expiredSet periods wifiTrigger times + times.start) % 2 ^ 64 ≤
      currentTime libc now % 2 ^ 64 then
    (1, 0)
  else (0, fileCount)

/-! ## The deadline -/

theorem expiredSet_nonneg (periods : EpoPeriods) (wifiTrigger : Bool) (times : EpoTimes) :
    0 ≤ expiredSet periods wifiTrigger times ∧
      expiredSet periods wifiTrigger times ≤ 30 * daySeconds := by
  have gps := periods.gps_mem
  have wifi := periods.wifi_mem
  unfold expiredSet daySeconds
  dsimp only
  split
  · omega
  · split
    · split
      · omega
      · split
        · omega
        · split
          · omega
          · omega
    · omega

/-- Without wifi the deadline is within the coverage. -/
theorem expiredSet_le_coverage (periods : EpoPeriods) {times : EpoTimes}
    (ordered : times.start ≤ times.finish) :
    expiredSet periods false times ≤ times.finish - times.start := by
  have gps := periods.gps_mem
  unfold expiredSet
  dsimp only
  rw [if_neg (by decide)]
  split
  case isTrue short =>
    have nonneg : 0 ≤ times.finish - times.start := by omega
    have days : wrap32 ((times.finish - times.start).tdiv (24 * 60 * 60)) =
        (times.finish - times.start) / 86400 := by
      rw [Int.tdiv_eq_ediv_of_nonneg nonneg, wrap32_of_lt (by omega) (by omega)]
      rfl
    rw [days]
    split
    · omega
    · split
      · omega
      · split
        · omega
        · omega
  case isFalse long => omega

section Expiry

variable (libc : LibcTime) {file : Option (List UInt8)} (periods : EpoPeriods) (wifiTrigger : Bool)
  (fileCount : Nat)

/-- A result of 0 comes before the deadline. -/
theorem mtkEpoIsExpired_eq_zero_iff (nonneg : 0 ≤ (mtkGpsEpoFileTimeHal libc file).start)
    (range : (mtkGpsEpoFileTimeHal libc file).start < 2 ^ 62) {now : Int} :
    (mtkEpoIsExpired libc now file periods wifiTrigger fileCount).1 = 0 ↔
      currentTime libc now % 2 ^ 64 <
        expiredSet periods wifiTrigger (mtkGpsEpoFileTimeHal libc file) +
          (mtkGpsEpoFileTimeHal libc file).start := by
  have bounds := expiredSet_nonneg periods wifiTrigger (mtkGpsEpoFileTimeHal libc file)
  have small : (expiredSet periods wifiTrigger (mtkGpsEpoFileTimeHal libc file) +
      (mtkGpsEpoFileTimeHal libc file).start) % 2 ^ 64 =
        expiredSet periods wifiTrigger (mtkGpsEpoFileTimeHal libc file) +
          (mtkGpsEpoFileTimeHal libc file).start := by
    unfold daySeconds at bounds
    apply Int.emod_eq_of_lt
    · omega
    · omega
  unfold mtkEpoIsExpired
  dsimp only
  rw [small]
  split
  case isTrue late => simpa using late
  case isFalse early => simpa using early

/-- The data is never reported as valid at its end or later. -/
def NeverValidPastEnd (file : Option (List UInt8)) : Prop :=
  ∀ now, currentTime libc now < 2 ^ 63 →
    (mtkEpoIsExpired libc now file periods wifiTrigger fileCount).1 = 0 →
      currentTime libc now < (mtkGpsEpoFileTimeHal libc file).finish

/-- The data is never reported as valid past its end just if over wifi the period is not longer
than the coverage. -/
theorem epo_expiry_iff (clock : ∀ time, 0 ≤ time → ∃ now, currentTime libc now = time)
    (ordered : (mtkGpsEpoFileTimeHal libc file).start ≤ (mtkGpsEpoFileTimeHal libc file).finish)
    (nonneg : 0 ≤ (mtkGpsEpoFileTimeHal libc file).start)
    (range : (mtkGpsEpoFileTimeHal libc file).finish < 2 ^ 62) :
    NeverValidPastEnd libc periods wifiTrigger fileCount file ↔
      (wifiTrigger = true → (mtkGpsEpoFileTimeHal libc file).start + periods.wifi * daySeconds ≤
        (mtkGpsEpoFileTimeHal libc file).finish) := by
  have valid := fun now => @mtkEpoIsExpired_eq_zero_iff libc file periods wifiTrigger fileCount
    nonneg (lt_of_le_of_lt ordered range) now
  have unsigned : ∀ time : Int, 0 ≤ time → time < 2 ^ 63 → time % 2 ^ 64 = time :=
    fun time positive small => Int.emod_eq_of_lt positive (by omega)
  constructor
  · intro never overWifi
    subst overWifi
    rcases clock _ (nonneg.trans ordered) with ⟨now, atEnd⟩
    by_contra longer
    have notYet : (mtkEpoIsExpired libc now file periods true fileCount).1 = 0 := by
      rw [valid now, atEnd, unsigned _ (nonneg.trans ordered) (by omega)]
      simp only [expiredSet, if_true]
      unfold daySeconds at longer
      omega
    have before := never now (by omega) notYet
    omega
  · intro covered now small isValid
    rw [valid now] at isValid
    by_cases positive : 0 ≤ currentTime libc now
    · rw [unsigned _ positive small] at isValid
      cases wifiTrigger with
      | false =>
          have within := expiredSet_le_coverage periods ordered
          omega
      | true =>
          have within := covered rfl
          simp only [expiredSet, if_true] at isValid
          unfold daySeconds at within
          omega
    · omega

end Expiry

/-! ## A file of three days -/

/-- A record of the data with its hour of GPS time. -/
def epoRecord (hours : Nat) : List UInt8 :=
  [UInt8.ofNat hours, UInt8.ofNat (hours / 2 ^ 8), UInt8.ofNat (hours / 2 ^ 16)] ++
    List.replicate 69 0

/-- Data for three days: the last record starts six hours before the end. -/
def threeDayFile : Option (List UInt8) :=
  some (epoRecord 361320 ++ epoRecord (361320 + 66))

theorem currentTime_utc (now : Int) : currentTime LibcTime.utc now = now :=
  mktime_utc (means_utcFields now)

theorem epo_expiry_iff_withoutWifi :
    NeverValidPastEnd LibcTime.utc defaultEpoPeriods false 0 threeDayFile := by
  have condition := @epo_expiry_iff LibcTime.utc threeDayFile defaultEpoPeriods false 0
    (fun time _ => ⟨time, currentTime_utc time⟩) (by decide +kernel) (by decide +kernel)
    (by decide +kernel)
  exact condition.mpr fun overWifi => absurd overWifi (by decide)

/-- Over wifi, with a period of thirty days, the file is still valid when its three days are
over. -/
theorem epo_valid_past_end :
    ¬ ∀ (libc : LibcTime) (periods : EpoPeriods) (wifiTrigger : Bool) (fileCount : Nat)
      (file : Option (List UInt8)), (mtkGpsEpoFileTimeHal libc file).start ≤
        (mtkGpsEpoFileTimeHal libc file).finish →
      NeverValidPastEnd libc periods wifiTrigger fileCount file := by
  intro never
  have atEnd := never LibcTime.utc (downloadEpoPeriods none (some 30) defaultEpoPeriods) true 0
    threeDayFile (by decide +kernel) (mtkGpsEpoFileTimeHal LibcTime.utc threeDayFile).finish
  rw [currentTime_utc] at atEnd
  exact absurd (atEnd (by decide +kernel) (by decide +kernel)) (lt_irrefl _)

end X3Hal.Gps
