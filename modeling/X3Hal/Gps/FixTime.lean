import X3Hal.Gps.Decimal
import X3Hal.Gps.LibcClock
import X3Hal.Gps.Reader

/-!
# The time of the fix

`nmea_reader_update_time` passes UTC fields through `mktime`, which takes them for local
time, and adds the offset of the instant it gets.  That is the reading of this instant, so
the sum is right just if the clocks of the zone show the UTC fields at some instant.
-/

namespace X3Hal.Gps

open X3Hal.Calendar

/-! ## Dates and times in sentences -/

/-- A number below 100 as two digits. -/
def twoDigits (number : Nat) : List UInt8 :=
  [digitByte (Fin.ofNat 10 (number / 10)), digitByte (Fin.ofNat 10 number)]

/-- A date as `ddmmyy`. -/
structure SentenceDate where
  date : Date
  century : 2000 ≤ date.year ∧ date.year < 2100

def SentenceDate.text (carried : SentenceDate) : List UInt8 :=
  twoDigits carried.date.day ++ twoDigits carried.date.month ++
    twoDigits (carried.date.year - 2000).toNat

/-- A time of day as `hhmmss`, with a fraction of the second or without; second 60 is a leap
second. -/
structure SentenceTime where
  hour : Nat
  minute : Nat
  second : Nat
  fraction : Option (List (Fin 10))
  hour_lt : hour < 24
  minute_lt : minute < 60
  second_le : second ≤ 60

namespace SentenceTime

variable (time : SentenceTime)

/-- The bytes from the seconds on. -/
def secondText : List UInt8 :=
  twoDigits time.second ++
    time.fraction.elim [] fun digits => point :: digits.map digitByte

def text : List UInt8 :=
  twoDigits time.hour ++ twoDigits time.minute ++ time.secondText

/-- The milliseconds that the fraction denotes. -/
def millisecond : Nat :=
  time.fraction.elim 0 fun digits => NumberField.valueFrom 0 digits * 1000 / 10 ^ digits.length

/-- The seconds from 1970 to the time on a date, all in UTC. -/
def epochSeconds (date : Date) : Int :=
  civilSeconds date time.hour time.minute time.second

def epochMilliseconds (date : Date) : Int :=
  time.epochSeconds date * 1000 + time.millisecond

/-- The second that `str2float` reads: its buffer has sixteen bytes. -/
def readSecond : Nat :=
  if 16 ≤ time.secondText.length then 0 else time.second

end SentenceTime

/-- The reader has the date of an earlier sentence. -/
def NmeaReader.HasDate (r : NmeaReader) (date : Date) : Prop :=
  r.utcYear = date.year ∧ r.utcMon = date.month ∧ r.utcDay = date.day

/-! ## What the functions read -/

theorem valueFrom_twoDigits {number : Nat} (small : number < 100) :
    NumberField.valueFrom 0 [Fin.ofNat 10 (number / 10), Fin.ofNat 10 number] = number := by
  change (0 * 10 + number / 10 % 10) * 10 + number % 10 = number
  omega

theorem str2int_twoDigits {number : Nat} (small : number < 100) :
    str2int (twoDigits number) = number := by
  have field := str2int_text ⟨[Fin.ofNat 10 (number / 10), Fin.ofNat 10 number], by simp⟩
  rw [NumberField.value, valueFrom_twoDigits small] at field
  exact field

theorem digitsValue_twoDigits {number : Nat} (small : number < 100) :
    digitsValue 10 (twoDigits number) = number :=
  (digitsValue_digits 0 [Fin.ofNat 10 (number / 10), Fin.ofNat 10 number]).trans
    (valueFrom_twoDigits small)

theorem isDigit_map_digitByte (digits : List (Fin 10)) :
    ∀ byte ∈ digits.map digitByte, isDigit byte = true := by
  intro byte member
  rcases List.mem_map.mp member with ⟨digit, -, rfl⟩
  exact isDigit_digitByte digit

theorem isDigit_twoDigits (number : Nat) : ∀ byte ∈ twoDigits number, isDigit byte = true :=
  isDigit_map_digitByte [Fin.ofNat 10 (number / 10), Fin.ofNat 10 number]

theorem toInt_of_floor {value : ℚ} {second : Nat} (floor : ⌊value⌋ = second) (nonneg : 0 ≤ value)
    (small : second < 100) : (Real64.finite value).toInt = second := by
  rw [Real64.toInt, if_neg (not_lt.mpr nonneg), floor]
  omega

theorem six_le_length (time : SentenceTime) : 6 ≤ time.text.length := by
  simp [SentenceTime.text, SentenceTime.secondText, twoDigits]

/-- The conversion to `int` takes off the fraction. -/
theorem toInt_secondText (time : SentenceTime) :
    (str2float time.secondText).toInt = time.readSecond := by
  have small : time.second < 100 := lt_of_le_of_lt time.second_le (by decide)
  unfold SentenceTime.readSecond
  split
  case isTrue long =>
    rw [str2float, if_pos long]
    simp [Real64.zero, Real64.toInt]
  case isFalse short =>
    unfold SentenceTime.secondText at short ⊢
    cases fraction : time.fraction with
    | none =>
        rw [fraction, Option.elim_none, List.append_nil] at short
        rw [Option.elim_none, List.append_nil, str2float, if_neg short,
          strtod_of_digits (isDigit_twoDigits _), digitsValue_twoDigits small]
        exact toInt_of_floor (Int.floor_natCast _) (Nat.cast_nonneg _) small
    | some digits =>
        rw [fraction, Option.elim_some] at short
        rw [Option.elim_some,
          str2float_decimal (isDigit_twoDigits _) (isDigit_map_digitByte digits)
          (not_le.mp short)]
        apply toInt_of_floor _ (decimalValue_nonneg _ _) small
        rw [floor_decimalValue (isDigit_map_digitByte digits), digitsValue_twoDigits small]

/-- `nmea_reader_update_date` takes the date, and goes on with the time. -/
theorem nmeaReaderUpdateDate_text (libc : LibcTime) (now : Int) (r : NmeaReader)
    (carried : SentenceDate) (next : UInt8) (time : Token) :
    nmeaReaderUpdateDate libc now r ⟨carried.text, next⟩ time =
      nmeaReaderUpdateTime libc now
        { r with
          utcYear := carried.date.year
          utcMon := carried.date.month
          utcDay := carried.date.day } time := by
  have day : carried.date.day < 100 :=
    lt_of_le_of_lt (carried.date.day_le.trans (daysInMonth_le _ _)) (by decide)
  have month : carried.date.month < 100 := lt_of_le_of_lt carried.date.month_le (by decide)
  have year : (carried.date.year - 2000).toNat < 100 := by
    have century := carried.century
    omega
  have isYear : ((carried.date.year - 2000).toNat : Int) + 2000 = carried.date.year := by
    have century := carried.century
    omega
  have readDay : str2int (carried.text.take 2) = carried.date.day := str2int_twoDigits day
  have readMonth : str2int ((carried.text.drop 2).take 2) = carried.date.month :=
    str2int_twoDigits month
  have readYear : str2int (carried.text.drop 4) = ((carried.date.year - 2000).toNat : Nat) :=
    str2int_twoDigits year
  have noSign : ¬ ((carried.date.day : Int) < 0 ∨ (carried.date.month : Int) < 0 ∨
      carried.date.year < 0) := by
    have century := carried.century
    omega
  have six : ¬ carried.text.length ≠ 6 := not_not.mpr rfl
  rw [nmeaReaderUpdateDate, if_neg six]
  simp only [readDay, readMonth, readYear, isYear, if_neg noSign]

/-! ## The time stamp -/

/-- The fields that `nmea_reader_update_time` hands to `mktime`. -/
def timeFields (date : Date) (time : SentenceTime) : Tm where
  sec := time.readSecond
  min := time.minute
  hour := time.hour
  mday := date.day
  mon := (date.month : Int) - 1
  year := date.year - 1900
  isdst := -1

/-- The seconds that these fields stand for. -/
def readSeconds (date : Date) (time : SentenceTime) : Int :=
  civilSeconds date time.hour time.minute time.readSecond

theorem means_timeFields (date : Date) (time : SentenceTime) :
    (timeFields date time).Means (readSeconds date time) := by
  have hour := time.hour_lt
  have minute := time.minute_lt
  have second : time.readSecond ≤ 60 := by
    unfold SentenceTime.readSecond
    split
    · decide
    · exact time.second_le
  refine ⟨?_, ?_, ?_, date, rfl, rfl, rfl, rfl⟩
  · simp only [timeFields]
    omega
  · simp only [timeFields]
    omega
  · simp only [timeFields]
    omega

section Stamp

variable {libc : LibcTime} {zone : Zone} (conforms : libc.Conforms zone)
  (now : Int) {r : NmeaReader}
  {date : Date} (time : SentenceTime) (next : UInt8)

include conforms

/-- The second call of `mktime` changes nothing, and adding the offset of the instant gives
what the clocks show at it. -/
theorem reading_second_mktime (date : Date) :
    zone.reading (libc.mktime (libc.mktime (timeFields date time)).2).1 =
      zone.reading (libc.mktime (timeFields date time)).1 := by
  rcases conforms.normalises _ _ (means_timeFields date time) (by decide : (-1 : Int) < 0) with
    normalised | failed
  · rw [normalised, conforms.mktime_localtime]
  · rw [failed, failed]

theorem timestamp_eq (has : r.HasDate date) (century : 0 ≤ date.year) :
    (nmeaReaderUpdateTime libc now r ⟨time.text, next⟩).2.fix.timestamp =
      zone.reading (libc.mktime (timeFields date time)).1 * 1000 := by
  rcases has with ⟨year, month, day⟩
  have long : ¬ time.text.length < 6 := not_lt.mpr (six_le_length time)
  have hour : str2int (time.text.take 2) = time.hour :=
    str2int_twoDigits (lt_trans time.hour_lt (by decide))
  have minute : str2int ((time.text.drop 2).take 2) = time.minute :=
    str2int_twoDigits (lt_trans time.minute_lt (by decide))
  have second : (str2float (time.text.drop 4)).toInt = time.readSecond := toInt_secondText time
  have known : ¬ r.utcYear < 0 := by
    rw [year]
    exact not_lt.mpr century
  have stamp : (nmeaReaderUpdateTime libc now r ⟨time.text, next⟩).2.fix.timestamp =
      ((libc.mktime (libc.mktime (timeFields date time)).2).1 + (libc.localtime
        (libc.mktime (libc.mktime (timeFields date time)).2).1).gmtoff) * 1000 := by
    rw [nmeaReaderUpdateTime, if_neg long, if_neg known]
    simp only [hour, minute, second, year, month, day]
    rfl
  rw [stamp, conforms.gmtoff, ← reading_second_mktime conforms time date, Zone.reading]

/-- Where the UTC fields occur as local time, the time stamp is the time that was read. -/
theorem timestamp_of_occurs (has : r.HasDate date) (century : 0 ≤ date.year)
    (occurs : zone.Occurs (readSeconds date time)) :
    (nmeaReaderUpdateTime libc now r ⟨time.text, next⟩).2.fix.timestamp =
      readSeconds date time * 1000 := by
  rw [timestamp_eq conforms now time next has century,
    conforms.mktime _ _ (means_timeFields date time) (by decide : (-1 : Int) < 0) occurs]

end Stamp

/-- The sentence carries whole seconds, few digits behind the point if the second is not 0, and a
UTC time that the clocks of the zone show at some instant. -/
def StampedExactly (zone : Zone) (date : Date) (time : SentenceTime) : Prop :=
  time.millisecond = 0 ∧ (time.secondText.length < 16 ∨ time.second = 0) ∧
    zone.Occurs (time.epochSeconds date)

/-- `nmea_reader_update_time` sets the time stamp of the date and time, with every C library of
the zone and in every reader that has the date or is given it with the time. -/
def AlwaysExact (zone : Zone) (carried : SentenceDate) (time : SentenceTime) : Prop :=
  ∀ libc : LibcTime, libc.Conforms zone → ∀ (now : Int) (r : NmeaReader) (next nextDate : UInt8),
    (r.HasDate carried.date →
      (nmeaReaderUpdateTime libc now r ⟨time.text, next⟩).2.fix.timestamp =
        time.epochMilliseconds carried.date) ∧
    (nmeaReaderUpdateDate libc now r ⟨carried.text, nextDate⟩ ⟨time.text, next⟩).2.fix.timestamp =
      time.epochMilliseconds carried.date

theorem readSecond_eq_iff (time : SentenceTime) :
    time.readSecond = time.second ↔ time.secondText.length < 16 ∨ time.second = 0 := by
  unfold SentenceTime.readSecond
  split <;> omega

theorem millisecond_lt (time : SentenceTime) : time.millisecond < 1000 := by
  unfold SentenceTime.millisecond
  cases time.fraction with
  | none => decide
  | some digits =>
      have small := NumberField.valueFrom_lt 0 digits
      rw [Option.elim_some, Nat.div_lt_iff_lt_mul (by positivity)]
      omega

/-- What an exact time stamp says, for each answer to local times that never come. -/
theorem AlwaysExact.reads {zone : Zone} {carried : SentenceDate} {time : SentenceTime}
    (exact : AlwaysExact zone carried time) (nowhere : Int) :
    time.millisecond = 0 ∧
      zone.reading (instantOf zone nowhere (timeFields carried.date time)) =
        time.epochSeconds carried.date := by
  let r : NmeaReader :=
    { nmeaReaderInit with
      utcYear := carried.date.year
      utcMon := carried.date.month
      utcDay := carried.date.day }
  have century : 0 ≤ carried.date.year := le_trans (by decide) carried.century.1
  have conforms := conforms_zoneLibc zone nowhere
  have small := millisecond_lt time
  have stamp := timestamp_eq conforms 0 (r := r) time 44 ⟨rfl, rfl, rfl⟩ century
  rw [(exact _ conforms 0 r 44 44).1 ⟨rfl, rfl, rfl⟩] at stamp
  change time.epochSeconds carried.date * 1000 + time.millisecond =
    zone.reading (instantOf zone nowhere (timeFields carried.date time)) * 1000 at stamp
  constructor
  · omega
  · omega

/-- Since a local time that never comes may be answered with any instant, what was read is a local
time that comes. -/
theorem AlwaysExact.readSeconds_eq {zone : Zone} {carried : SentenceDate} {time : SentenceTime}
    (exact : AlwaysExact zone carried time) :
    readSeconds carried.date time = time.epochSeconds carried.date := by
  have means := means_timeFields carried.date time
  have occurs : zone.Occurs (readSeconds carried.date time) := by
    by_contra never
    rcases zone.exists_reading_ne (time.epochSeconds carried.date) with ⟨nowhere, other⟩
    have answer := (exact.reads nowhere).2
    rw [instantOf_nowhere zone nowhere means never] at answer
    exact other answer
  rw [← (exact.reads 0).2]
  exact (reading_instantOf zone 0 means occurs).symm

/-- The time stamp is exact just if the fraction is less than a millisecond, the second is read as
it is, and the clocks show the UTC time at some instant. -/
theorem timestamp_exact_iff (zone : Zone) (carried : SentenceDate) (time : SentenceTime) :
    AlwaysExact zone carried time ↔ StampedExactly zone carried.date time := by
  have century : 0 ≤ carried.date.year := le_trans (by decide) carried.century.1
  unfold StampedExactly
  rw [← readSecond_eq_iff]
  constructor
  · intro exact
    have same := exact.readSeconds_eq
    unfold readSeconds SentenceTime.epochSeconds civilSeconds at same
    refine ⟨(exact.reads 0).1, ?_, _, (exact.reads 0).2⟩
    omega
  · rintro ⟨whole, few, occurs⟩ libc conforms now r next nextDate
    have same : readSeconds carried.date time = time.epochSeconds carried.date := by
      rw [readSeconds, few, SentenceTime.epochSeconds]
    have stamped : ∀ r : NmeaReader, r.HasDate carried.date →
        (nmeaReaderUpdateTime libc now r ⟨time.text, next⟩).2.fix.timestamp =
          time.epochMilliseconds carried.date := by
      intro r has
      rw [timestamp_of_occurs conforms now time next has century (same ▸ occurs), same,
        SentenceTime.epochMilliseconds, whole, Nat.cast_zero, add_zero]
    constructor
    · exact stamped r
    · rw [nmeaReaderUpdateDate_text]
      exact stamped _ ⟨rfl, rfl, rfl⟩

/-- 2021-03-28, when the clocks of Central Europe went from 02:00 to 03:00. -/
def springDate : SentenceDate where
  date := .ofFields 2021 3 28 (by decide)
  century := by decide

def halfPastTwo : SentenceTime where
  hour := 2
  minute := 30
  second := 0
  fraction := none
  hour_lt := by decide
  minute_lt := by decide
  second_le := by decide

def centralEurope : Zone :=
  .changing 1616893200 3600 7200 (by decide) (by decide)

/-- The clocks of Central Europe never showed 02:30 on this day. -/
theorem timestamp_inexact_in_spring : ¬ AlwaysExact centralEurope springDate halfPastTwo := by
  intro exact
  have seconds : halfPastTwo.epochSeconds springDate.date = 1616898600 := by decide +kernel
  have shown : centralEurope.Occurs 1616898600 := ⟨_, (exact.reads 0).2.trans seconds⟩
  exact Zone.not_occurs_changing (by decide) (by decide) shown

end X3Hal.Gps
