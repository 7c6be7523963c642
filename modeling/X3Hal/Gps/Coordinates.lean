import Mathlib.Tactic.Linarith
import X3Hal.Gps.Decimal
import X3Hal.Gps.Reader

/-!
# Coordinates

A coordinate comes as degrees and minutes, `ddmm.mmmm`.  `str2float` reads every text as
some number, and one of sixteen bytes and more as 0, so only the length is checked.
-/

namespace X3Hal.Gps

/-! ## What the tokens say -/

/-- The degrees that `ddmm.mmmm` denotes, where the text has this form. -/
def coordinateOf (text : List UInt8) : Option ℚ :=
  match text.dropWhile isDigit with
  | 46 :: fraction =>
      if fraction.all isDigit then
        let degreesAndMinutes := digitsValue 10 (text.takeWhile isDigit)
        let minutes : ℚ :=
          (degreesAndMinutes % 100 : Nat) + digitsValue 10 fraction / 10 ^ fraction.length
        some ((degreesAndMinutes / 100 : Nat) + minutes / 60)
      else none
  | _ => none

/-- The sign of a hemisphere, where it is one of two. -/
def hemisphereSign (positive negative : UInt8) (token : Token) : Option ℚ :=
  if token.first = positive then some 1 else if token.first = negative then some (-1) else none

/-- A coordinate with the sign of its hemisphere. -/
def signedCoordinateOf (positive negative : UInt8) (coordinate hemisphere : Token) : Option ℚ :=
  (hemisphereSign positive negative hemisphere).bind fun sign =>
    (coordinateOf coordinate.text).map fun degrees => sign * degrees

/-- `nmea_reader_update_latlong` returns -1 and leaves the fix unchanged, or sets the
coordinates that the tokens say. -/
def LatlongExact (r : NmeaReader) (latitude latitudeHemi longitude longitudeHemi : Token) : Prop :=
  let result := nmeaReaderUpdateLatlong r latitude latitudeHemi.first longitude longitudeHemi.first
  result = (-1, r) ∨
    ∃ north ∈ signedCoordinateOf 78 83 latitude latitudeHemi,
      ∃ east ∈ signedCoordinateOf 69 87 longitude longitudeHemi,
        result = (0, { r with fix := { r.fix with
          flags := r.fix.flags ||| hasLatLong
          latitude := .finite north
          longitude := .finite east } })

/-! ## When the code reads what the tokens say -/

/-- The text is `ddmm.mmmm`, and it fits the buffer of `str2float` and its degrees an `int`,
or it denotes 0. -/
def ReadsExactly (text : List UInt8) : Prop :=
  ∃ degrees ∈ coordinateOf text, degrees = 0 ∨
    (text.length < 16 ∧ digitsValue 10 (text.takeWhile isDigit) / 100 < 2 ^ 31)

/-- What every branch for two tokens asks for -/
def LatlongReadable (latitude latitudeHemi longitude longitudeHemi : Token) : Prop :=
  latitude.text.length < 6 ∨ longitude.text.length < 6 ∨
    ((ReadsExactly latitude.text ∧ (hemisphereSign 78 83 latitudeHemi).isSome) ∧
      (ReadsExactly longitude.text ∧ (hemisphereSign 69 87 longitudeHemi).isSome))

/-- A text of the form `ddmm.mmmm` -/
theorem coordinateOf_eq_some {text : List UInt8} {degrees : ℚ}
    (is : coordinateOf text = some degrees) :
    ∃ whole fraction, (∀ byte ∈ whole, isDigit byte = true) ∧
      (∀ byte ∈ fraction, isDigit byte = true) ∧ text = whole ++ point :: fraction ∧
        text.takeWhile isDigit = whole ∧
          degrees = (digitsValue 10 whole / 100 : Nat) +
            ((digitsValue 10 whole % 100 : Nat) +
              digitsValue 10 fraction / (10 : ℚ) ^ fraction.length) / 60 := by
  unfold coordinateOf at is
  split at is
  case h_1 fraction behind =>
    split at is
    case isTrue allDigits =>
      refine ⟨text.takeWhile isDigit, fraction, ?_, ?_, ?_, rfl, (Option.some.inj is).symm⟩
      · intro byte member
        exact List.mem_takeWhile_imp member
      · exact List.all_eq_true.mp allDigits
      · rw [point, ← behind, List.takeWhile_append_dropWhile]
    case isFalse => cases is
  case h_2 => cases is

/-! ## What the code computes -/

theorem toInt_natCast_div (value : Nat) :
    (Real64.finite ((value : ℚ) / 100)).toInt = min (2 ^ 31 - 1) ((value / 100 : Nat) : Int) := by
  have nonneg : ¬ (value : ℚ) / 100 < 0 := not_lt.mpr (by positivity)
  have floor : ⌊(value : ℚ) / 100⌋ = ((value / 100 : Nat) : Int) := by
    have quotient := Rat.floor_intCast_div_natCast (value : ℤ) 100
    simpa using quotient
  rw [Real64.toInt, if_neg nonneg, floor]
  omega

/-- `convert_from_hhmm` on digits, a point and digits -/
theorem convertFromHhmm_decimal {token : Token} {whole fraction : List UInt8}
    (isWhole : ∀ byte ∈ whole, isDigit byte = true)
    (isFraction : ∀ byte ∈ fraction, isDigit byte = true)
    (text : token.text = whole ++ point :: fraction) (short : token.text.length < 16) :
    convertFromHhmm token =
      .finite ((min (2 ^ 31 - 1) ((digitsValue 10 whole / 100 : Nat) : Int) : Int) +
        (decimalValue whole fraction -
          (min (2 ^ 31 - 1) ((digitsValue 10 whole / 100 : Nat) : Int) : Int) * 100) / 60) := by
  have floor : ⌊decimalValue whole fraction⌋ = _ := floor_decimalValue isFraction
  rw [text] at short
  rw [convertFromHhmm, text, str2float_decimal isWhole isFraction short]
  simp only [Real64.mapFinite, floor, Int.cast_natCast, toInt_natCast_div]

/-- The code reads the coordinate of a text of the form `ddmm.mmmm` in just these cases. -/
theorem convertFromHhmm_eq_iff {token : Token} {degrees : ℚ}
    (is : coordinateOf token.text = some degrees) :
    convertFromHhmm token = .finite degrees ↔ degrees = 0 ∨
      (token.text.length < 16 ∧ digitsValue 10 (token.text.takeWhile isDigit) / 100 < 2 ^ 31) := by
  rcases coordinateOf_eq_some is with ⟨whole, fraction, isWhole, isFraction, text, front, value⟩
  by_cases short : token.text.length < 16
  · rw [convertFromHhmm_decimal isWhole isFraction text short, front, Real64.finite.injEq]
    have split : (digitsValue 10 whole : ℚ) =
        (digitsValue 10 whole / 100 : Nat) * 100 + (digitsValue 10 whole % 100 : Nat) := by
      exact_mod_cast (Nat.div_add_mod' (digitsValue 10 whole) 100).symm
    by_cases fits : digitsValue 10 whole / 100 < 2 ^ 31
    · have exact : min (2 ^ 31 - 1) ((digitsValue 10 whole / 100 : Nat) : Int) =
          (digitsValue 10 whole / 100 : Nat) := by omega
      rw [exact, value, decimalValue, split]
      simp only [fits, short, and_self, or_true, iff_true, Int.cast_natCast]
      ring
    · have cut : min (2 ^ 31 - 1) ((digitsValue 10 whole / 100 : Nat) : Int) = 2 ^ 31 - 1 := by
        omega
      have large : (2 : ℚ) ^ 31 ≤ (digitsValue 10 whole / 100 : Nat) := by
        exact_mod_cast not_lt.mp fits
      have positive : (0 : ℚ) ≤ (digitsValue 10 whole % 100 : Nat) +
          digitsValue 10 fraction / (10 : ℚ) ^ fraction.length := by positivity
      rw [cut, value, decimalValue, split]
      simp only [fits, and_false, or_false]
      push_cast
      constructor
      · intro same
        linarith
      · intro none
        linarith
  · have zero : convertFromHhmm token = .finite 0 := by
      rw [convertFromHhmm, str2float, if_pos (not_lt.mp short)]
      simp [Real64.zero, Real64.mapFinite, Real64.toInt]
    rw [zero, Real64.finite.injEq]
    simp only [short, false_and, or_false]
    exact eq_comm

/-- The sign of the hemisphere is the one that the code gives. -/
theorem signedCoordinate_eq_iff {positive negative : UInt8} (apart : positive ≠ negative)
    {hemisphere : Token} {sign : ℚ} (is : hemisphereSign positive negative hemisphere = some sign)
    (coordinate : Real64) (degrees : ℚ) :
    signedCoordinate (hemisphere.first = negative) coordinate = .finite (sign * degrees) ↔
      coordinate = .finite degrees := by
  unfold hemisphereSign at is
  split at is
  case isTrue isPositive =>
    cases is
    rw [isPositive, signedCoordinate, if_neg (by simpa using apart), one_mul]
  case isFalse =>
    split at is
    case isTrue isNegative =>
      cases is
      rw [isNegative, signedCoordinate, if_pos (by simp), neg_one_mul]
      cases coordinate with
      | finite value => simp [Real64.neg]
      | infinite sign => simp [Real64.neg]
      | nan => simp [Real64.neg]
    case isFalse => cases is

/-- One coordinate is what its tokens say just if the text is read exactly and the hemisphere is
one of two. -/
theorem coordinate_exact_iff {positive negative : UInt8} (apart : positive ≠ negative)
    (coordinate hemisphere : Token) :
    (∃ degrees ∈ signedCoordinateOf positive negative coordinate hemisphere,
      signedCoordinate (hemisphere.first = negative) (convertFromHhmm coordinate) =
        .finite degrees) ↔
      ReadsExactly coordinate.text ∧ (hemisphereSign positive negative hemisphere).isSome := by
  unfold signedCoordinateOf ReadsExactly
  cases signed : hemisphereSign positive negative hemisphere with
  | none => simp
  | some sign =>
      cases said : coordinateOf coordinate.text with
      | none => simp
      | some degrees =>
          simp only [Option.bind_some, Option.map_some, Option.mem_def, Option.some.injEq,
            exists_eq_left', Option.isSome_some, and_true]
          rw [signedCoordinate_eq_iff apart signed, convertFromHhmm_eq_iff said]

/-- `nmea_reader_update_latlong` does what the tokens say just if one of them is too short, or
both are of the form `ddmm.mmmm`, fit, and name their hemispheres. -/
theorem latlong_exact_iff (r : NmeaReader)
    (latitude latitudeHemi longitude longitudeHemi : Token) :
    LatlongExact r latitude latitudeHemi longitude longitudeHemi ↔
      LatlongReadable latitude latitudeHemi longitude longitudeHemi := by
  unfold LatlongExact LatlongReadable nmeaReaderUpdateLatlong
  by_cases shortLatitude : latitude.text.length < 6
  · simp [shortLatitude]
  · by_cases shortLongitude : longitude.text.length < 6
    · simp [shortLatitude, shortLongitude]
    · simp only [shortLatitude, shortLongitude, if_false, false_or]
      rw [← coordinate_exact_iff (by decide), ← coordinate_exact_iff (by decide)]
      constructor
      · rintro (failed | ⟨north, isNorth, east, isEast, same⟩)
        · have status : (0 : Int) = -1 := congrArg Prod.fst failed
          contradiction
        · simp only [Prod.mk.injEq, NmeaReader.mk.injEq, GpsLocation.mk.injEq, true_and,
            and_true] at same
          exact ⟨⟨north, isNorth, same.1⟩, ⟨east, isEast, same.2⟩⟩
      · rintro ⟨⟨north, isNorth, isLatitude⟩, ⟨east, isEast, isLongitude⟩⟩
        exact Or.inr ⟨north, isNorth, east, isEast, by rw [isLatitude, isLongitude]⟩

/-- A latitude of sixteen bytes is reported as 0, with the flag set. -/
theorem long_latitude_inexact :
    ¬ LatlongExact nmeaReaderInit
      ⟨ascii ['4', '9', '1', '6', '.', '4', '5', '0', '0', '0', '0', '0', '0', '0', '0', '0'], 44⟩
      ⟨ascii ['N'], 44⟩ ⟨ascii ['1', '2', '3', '1', '1', '.', '1', '2'], 44⟩
        ⟨ascii ['W'], 44⟩ := by
  rintro (failed | ⟨north, isNorth, east, -, same⟩)
  · have status : (0 : Int) = -1 := congrArg Prod.fst failed
    contradiction
  · have said : signedCoordinateOf 78 83
        ⟨ascii ['4', '9', '1', '6', '.', '4', '5', '0', '0', '0', '0', '0', '0', '0', '0', '0'],
          44⟩
        ⟨ascii ['N'], 44⟩ = some (1 * (49 + (16 + 45 / 100) / 60)) := by decide +kernel
    have read : convertFromHhmm
        ⟨ascii ['4', '9', '1', '6', '.', '4', '5', '0', '0', '0', '0', '0', '0', '0', '0', '0'],
          44⟩ =
          .finite north := congrArg (fun result => result.2.fix.latitude) same
    rw [said, Option.mem_def, Option.some.injEq] at isNorth
    rw [← isNorth] at read
    exact absurd read (by decide +kernel)

end X3Hal.Gps
