import X3Hal.Ygps.JavaNumbers

/-!
# Numeric fields

The functions of the parser that read a number take the zeros off the front of the string and
hand what is left to Java.  They catch what Java throws, but not what `removeFirstZero` throws at
the end of a string of zeros; and what is left may be a number although the string is none.
-/

namespace X3Hal.Ygps

open Gps (Real64 digitByte isDigit digitsValue point)

/-- A string as its UTF-16 code units. -/
abbrev JavaString := List UInt16

/-- The digits beyond Latin-1 that `Character.digit` knows. -/
abbrev OtherDigits := UInt16 → Option (Fin 10)

/-- A character, with one for all those beyond Latin-1: none of them is part of a float. -/
def latinByte (unit : UInt16) : UInt8 :=
  if unit < 256 then unit.toUInt8 else 128

/-- A character of an integer, with digits of other scripts as decimal digits. -/
def decimalByte (others : OtherDigits) (unit : UInt16) : UInt8 :=
  if unit < 256 then unit.toUInt8 else (others unit).elim 128 digitByte

namespace JavaString

/-- `removeFirstZero` -/
def removeFirstZero : JavaString → Option JavaString
  | [] => none
  | unit :: rest => if unit = 48 then removeFirstZero rest else some (unit :: rest)

/-- The functions of the parser; only the call of Java stands inside the `try`. -/
def parseField {α : Type} (valueOf : JavaString → Option α) (zero : α) (str : JavaString) :
    Option α :=
  if str = [] then some zero
  else (removeFirstZero str).map fun mStr => (valueOf mStr).getD zero

/-- `Integer.valueOf` -/
def integerValueOf (others : OtherDigits) (str : JavaString) : Option Int :=
  Ygps.integerValueOf (str.map (decimalByte others))

/-- `Long.parseLong` -/
def longParseLong (others : OtherDigits) (str : JavaString) : Option Int :=
  Ygps.longParseLong (str.map (decimalByte others))

/-- `Float.parseFloat`, with the exact value -/
def floatParseFloat (str : JavaString) : Option Real64 :=
  Ygps.floatParseFloat (str.map latinByte)

/-- `Double.parseDouble`, which takes the same texts -/
def doubleParseDouble (str : JavaString) : Option Real64 :=
  Ygps.floatParseFloat (str.map latinByte)

/-- `parseInt` -/
def parseInt (others : OtherDigits) : JavaString → Option Int :=
  parseField (integerValueOf others) 0

/-- `parseLong` -/
def parseLong (others : OtherDigits) : JavaString → Option Int :=
  parseField (longParseLong others) 0

/-- `parseFloat` -/
def parseFloat : JavaString → Option Real64 :=
  parseField floatParseFloat .zero

/-- `parseDouble` -/
def parseDouble : JavaString → Option Real64 :=
  parseField doubleParseDouble .zero

/-! ## Zeros in front -/

/-- What follows the zeros in front of a string. -/
def afterZeros (str : JavaString) : JavaString :=
  str.dropWhile (· = 48)

/-- A string of zeros. -/
def AllZeros (str : JavaString) : Prop :=
  str ≠ [] ∧ afterZeros str = []

instance (str : JavaString) : Decidable (AllZeros str) :=
  inferInstanceAs (Decidable (_ ∧ _))

theorem removeFirstZero_eq (str : JavaString) :
    removeFirstZero str = if afterZeros str = [] then none else some (afterZeros str) := by
  induction str with
  | nil => rfl
  | cons unit rest ih =>
      rw [removeFirstZero, afterZeros]
      by_cases isZero : unit = 48
      · rw [if_pos isZero, ih, List.dropWhile_cons_of_pos (by simpa using isZero), afterZeros]
      · rw [if_neg isZero, List.dropWhile_cons_of_neg (by simpa using isZero),
          if_neg (List.cons_ne_nil _ _)]

theorem parseField_of_ne_nil {α : Type} (valueOf : JavaString → Option α) (zero : α)
    {str : JavaString} (nonempty : str ≠ []) (notZeros : ¬ AllZeros str) :
    parseField valueOf zero str = some ((valueOf (afterZeros str)).getD zero) := by
  rw [parseField, if_neg nonempty, removeFirstZero_eq,
    if_neg fun none => notZeros ⟨nonempty, none⟩, Option.map_some]

theorem parseField_of_allZeros {α : Type} (valueOf : JavaString → Option α) (zero : α)
    {str : JavaString} (zeros : AllZeros str) : parseField valueOf zero str = none := by
  rw [parseField, if_neg zeros.1, removeFirstZero_eq, if_pos zeros.2, Option.map_none]

/-- Zeros and what follows them. -/
theorem exists_zeros (str : JavaString) :
    ∃ zeros : JavaString, (∀ unit ∈ zeros, unit = 48) ∧ str = zeros ++ afterZeros str ∧
      (str.head? = some 48 ↔ zeros ≠ []) := by
  refine ⟨str.takeWhile (· = 48), ?_, List.takeWhile_append_dropWhile.symm, ?_⟩
  · intro unit member
    simpa using List.mem_takeWhile_imp member
  · cases str with
    | nil => simp
    | cons unit rest =>
        by_cases isZero : unit = 48
        · simp [isZero]
        · simp [isZero]

theorem afterZeros_of_head_ne {str : JavaString} (first : str.head? ≠ some 48) :
    afterZeros str = str := by
  cases str with
  | nil => rfl
  | cons unit rest =>
      rw [afterZeros, List.dropWhile_cons_of_neg]
      simpa using first

/-! ## Reading a field -/

/-- What is asked of a function that reads a number: it does not throw, a malformed string is 0,
and a number that the type holds is itself. -/
structure ReadsField {α : Type} (result : Option α) (zero : α) (Malformed : Prop)
    (Denotes : α → Prop) : Prop where
  returns : result.isSome = true
  malformed : Malformed → result = some zero
  exact : ∀ value, Denotes value → result = some value

/-- A function of Java that reads a number, with the strings that are malformed, the numbers that
strings denote, and the characters in front of a number that may not stand behind a digit. -/
structure FieldReader (α : Type) where
  valueOf : JavaString → Option α
  zero : α
  Malformed : JavaString → Prop
  Denotes : JavaString → α → Prop
  begins : UInt16 → Bool
  malformed_nil : Malformed []
  rejects : ∀ str, Malformed str → valueOf str = none
  exact : ∀ str value, Denotes str value → ¬ AllZeros str →
    (valueOf (afterZeros str)).getD zero = value
  malformed_behind : ∀ str unit rest, str.head? = some 48 → afterZeros str = unit :: rest →
    (valueOf (unit :: rest)).isSome = true → (Malformed str ↔ begins unit = true)

namespace FieldReader

variable {α : Type} (reader : FieldReader α)

/-- What `parseField` is to do with a string. -/
def Reads (str : JavaString) : Prop :=
  ReadsField (parseField reader.valueOf reader.zero str) reader.zero (reader.Malformed str)
    (reader.Denotes str)

/-- Zeros, then a number other than 0 whose first character may not stand behind a digit. -/
def NumberBehindZeros (str : JavaString) : Prop :=
  str.head? = some 48 ∧ ∃ unit rest value, afterZeros str = unit :: rest ∧
    reader.begins unit = true ∧ reader.valueOf (unit :: rest) = some value ∧ value ≠ reader.zero

theorem reads_nil : reader.Reads [] where
  returns := rfl
  malformed := fun _ => rfl
  exact := by
    intro value denotes
    have notZeros : ¬ AllZeros [] := fun zeros => zeros.1 rfl
    have same := reader.exact [] value denotes notZeros
    have none : reader.valueOf (afterZeros []) = none := reader.rejects [] reader.malformed_nil
    rw [none, Option.getD_none] at same
    rw [← same]
    rfl

theorem reads_iff (str : JavaString) :
    reader.Reads str ↔ ¬ AllZeros str ∧ ¬ reader.NumberBehindZeros str := by
  by_cases isEmpty : str = []
  · apply iff_of_true (isEmpty ▸ reader.reads_nil)
    rw [isEmpty]
    exact ⟨fun zeros => zeros.1 rfl, fun behind => absurd behind.1 (Option.some_ne_none _).symm⟩
  · constructor
    · intro reads
      have notZeros : ¬ AllZeros str := by
        intro zeros
        have returns := reads.returns
        rw [parseField_of_allZeros _ _ zeros] at returns
        exact Bool.false_ne_true returns
      refine ⟨notZeros, ?_⟩
      rintro ⟨isZero, unit, rest, value, behind, begins, read, other⟩
      have malformed :=
        (reader.malformed_behind str unit rest isZero behind (read ▸ rfl)).mpr begins
      have result := reads.malformed malformed
      rw [parseField_of_ne_nil _ _ isEmpty notZeros, behind, read, Option.getD_some,
        Option.some_inj] at result
      exact other result
    · rintro ⟨notZeros, notBehind⟩
      have result := parseField_of_ne_nil reader.valueOf reader.zero isEmpty notZeros
      constructor
      · rw [result]
        rfl
      · intro malformed
        rw [result, Option.some_inj]
        by_cases isZero : str.head? = some 48
        · cases read : reader.valueOf (afterZeros str) with
          | none => rfl
          | some value =>
              cases behind : afterZeros str with
              | nil => exact absurd ⟨isEmpty, behind⟩ notZeros
              | cons unit rest =>
                  rw [behind] at read
                  have begins := (reader.malformed_behind str unit rest isZero behind
                    (read ▸ rfl)).mp malformed
                  by_contra other
                  exact notBehind ⟨isZero, unit, rest, value, behind, begins, read, other⟩
        · rw [afterZeros_of_head_ne isZero, reader.rejects str malformed, Option.getD_none]
      · intro value denotes
        rw [result, reader.exact str value denotes notZeros]

end FieldReader

/-! ## Integers -/

theorem toUInt8_eq_iff {unit : UInt16} (small : unit < 256) (byte : UInt8) :
    unit.toUInt8 = byte ↔ unit = byte.toUInt16 := by
  rw [← UInt8.toNat_inj, ← UInt16.toNat_inj]
  rw [UInt16.lt_iff_toNat_lt] at small
  simp at small ⊢
  omega

theorem ne_toUInt16 {unit : UInt16} (large : ¬ unit < 256) (byte : UInt8) :
    unit ≠ byte.toUInt16 := by
  rintro rfl
  apply large
  rw [UInt16.lt_iff_toNat_lt]
  exact byte.toNat_lt

theorem latinByte_eq_iff {byte : UInt8} (ascii : byte < 128) (unit : UInt16) :
    latinByte unit = byte ↔ unit = byte.toUInt16 := by
  rw [latinByte]
  split
  case isTrue small => exact toUInt8_eq_iff small byte
  case isFalse large =>
    apply iff_of_false
    · rintro rfl
      exact absurd ascii (by decide)
    · exact ne_toUInt16 large byte

theorem decimalByte_eq_iff (others : OtherDigits) {byte : UInt8} (ascii : byte < 128)
    (notDigit : isDigit byte = false) (unit : UInt16) :
    decimalByte others unit = byte ↔ unit = byte.toUInt16 := by
  rw [decimalByte]
  split
  case isTrue small => exact toUInt8_eq_iff small byte
  case isFalse large =>
    apply iff_of_false
    · rintro rfl
      cases digit : others unit with
      | none =>
          rw [digit] at ascii
          exact absurd ascii (by decide)
      | some value =>
          rw [digit, Option.elim_some, Gps.isDigit_digitByte] at notDigit
          exact absurd notDigit.symm Bool.false_ne_true
    · exact ne_toUInt16 large byte

theorem isSign_decimalByte (others : OtherDigits) (unit : UInt16) :
    isSign (decimalByte others unit) = (unit = 43 || unit = 45) := by
  rw [isSign, decide_eq_decide.mpr (decimalByte_eq_iff others (by decide) (by decide) unit),
    decide_eq_decide.mpr (decimalByte_eq_iff others (by decide) (by decide) unit)]
  rfl

section Integers

variable (others : OtherDigits) (bound : Int)

/-- The text that `Integer.valueOf` and `Long.parseLong` see. -/
def decimalText (str : JavaString) : Text :=
  str.map (decimalByte others)

/-- No optional sign with digits. -/
def MalformedInteger (str : JavaString) : Prop :=
  ¬ ∃ numeral : IntegerNumeral, numeral.text = decimalText others str

/-- An optional sign and digits, for a number from `-bound` to `bound - 1`. -/
def DenotesInteger (str : JavaString) (value : Int) : Prop :=
  ∃ numeral : IntegerNumeral, numeral.text = decimalText others str ∧ numeral.value = value ∧
    -bound ≤ value ∧ value < bound

theorem decimalText_zeros {zeros : JavaString} (areZeros : ∀ unit ∈ zeros, unit = 48) :
    ∀ byte ∈ decimalText others zeros, byte = zero := by
  intro byte member
  rcases List.mem_map.mp member with ⟨unit, inZeros, rfl⟩
  rw [areZeros unit inZeros]
  rfl

/-- A numeral that begins with 0 has no sign. -/
theorem digits_of_head {numeral : IntegerNumeral} {rest : Text}
    (isZero : numeral.text = zero :: rest) :
    numeral.sign = .none ∧ numeral.digits = zero :: rest := by
  rw [IntegerNumeral.text] at isZero
  cases sign : numeral.sign with
  | none =>
      rw [sign] at isZero
      exact ⟨rfl, isZero⟩
  | plus =>
      rw [sign] at isZero
      exact absurd (List.cons.inj isZero).1 (by decide)
  | minus =>
      rw [sign] at isZero
      exact absurd (List.cons.inj isZero).1 (by decide)

/-- Zeros may be taken off the front of the digits of an unsigned numeral, or put there. -/
theorem unsigned_zeros_iff {zeros rest : Text} (areZeros : ∀ byte ∈ zeros, byte = zero)
    (nonempty : rest ≠ []) (value : Int) :
    (∃ numeral : IntegerNumeral, numeral.sign = .none ∧ numeral.digits = zeros ++ rest ∧
        numeral.value = value) ↔
      ∃ numeral : IntegerNumeral, numeral.sign = .none ∧ numeral.digits = rest ∧
        numeral.value = value := by
  constructor
  · rintro ⟨⟨_, _, areDigits, _⟩, rfl, rfl, is⟩
    refine ⟨⟨.none, rest, ?_, nonempty⟩, rfl, rfl, ?_⟩
    · exact fun byte member => areDigits byte (List.mem_append_right zeros member)
    · rw [← is, IntegerNumeral.value, IntegerNumeral.value, digitsValue_zeros_append areZeros]
  · rintro ⟨⟨_, _, areDigits, _⟩, rfl, rfl, is⟩
    refine ⟨⟨.none, zeros ++ _, ?_, List.append_ne_nil_of_right_ne_nil zeros nonempty⟩, rfl, rfl,
      ?_⟩
    · intro byte member
      rcases List.mem_append.mp member with inZeros | inDigits
      · exact digits_of_zeros areZeros byte inZeros
      · exact areDigits byte inDigits
    · rw [← is, IntegerNumeral.value, IntegerNumeral.value, digitsValue_zeros_append areZeros]

/-- The text of a string that begins with 0, and what stands behind the zeros. -/
theorem exists_textZeros {str : JavaString} (isZero : str.head? = some 48) :
    ∃ zeros rest : Text, (∀ byte ∈ zero :: zeros, byte = zero) ∧
      decimalText others str = (zero :: zeros) ++ decimalText others (afterZeros str) ∧
      decimalText others str = zero :: rest := by
  rcases exists_zeros str with ⟨zeros, areZeros, whole, nonempty⟩
  cases zeros with
  | nil => exact absurd rfl (nonempty.mp isZero)
  | cons unit zeros =>
      have first : unit = 48 := areZeros unit List.mem_cons_self
      have areTextZeros := decimalText_zeros others areZeros
      have text : decimalText others str =
          decimalText others (unit :: zeros) ++ decimalText others (afterZeros str) := by
        rw [decimalText, decimalText, decimalText, ← List.map_append, ← whole]
      subst first
      exact ⟨decimalText others zeros, _, areTextZeros, text, text⟩

/-- `Integer.valueOf` and `Long.parseLong` behind `removeFirstZero`. -/
def integerReader : FieldReader Int where
  valueOf str := signedNumeral bound (decimalText others str)
  zero := 0
  Malformed := MalformedInteger others
  Denotes := DenotesInteger others bound
  begins unit := unit = 43 || unit = 45
  malformed_nil := by
    rintro ⟨numeral, isEmpty⟩
    exact numeral.nonempty (List.append_eq_nil_iff.mp isEmpty).2
  rejects str malformed := by
    rw [← Option.not_isSome_iff_eq_none, Option.isSome_iff_exists]
    rintro ⟨value, read⟩
    rcases signedNumeral_eq_some_iff.mp read with ⟨numeral, isText, -⟩
    exact malformed ⟨numeral, isText⟩
  exact str value denotes notZeros := by
    rcases denotes with ⟨numeral, isText, is, least, most⟩
    have read : signedNumeral bound (decimalText others (afterZeros str)) = some value := by
      by_cases isZero : str.head? = some 48
      · rcases exists_textZeros others isZero with ⟨zeros, rest, areZeros, whole, first⟩
        rcases digits_of_head (isText.trans first) with ⟨unsigned, digits⟩
        have nonempty : decimalText others (afterZeros str) ≠ [] := by
          intro none
          refine notZeros ⟨?_, List.map_eq_nil_iff.mp none⟩
          rintro rfl
          exact Option.some_ne_none _ isZero.symm
        rcases (unsigned_zeros_iff areZeros nonempty value).mp
          ⟨numeral, unsigned, digits.trans (first.symm.trans whole), is⟩ with
          ⟨shorter, plain, isRest, same⟩
        refine signedNumeral_eq_some_iff.mpr ⟨shorter, ?_, same, least, most⟩
        rw [IntegerNumeral.text, plain, isRest]
        rfl
      · rw [afterZeros_of_head_ne isZero]
        exact signedNumeral_eq_some_iff.mpr ⟨numeral, isText, is, least, most⟩
    rw [read, Option.getD_some]
  malformed_behind str unit rest isZero behind read := by
    rcases exists_textZeros others isZero with ⟨zeros, more, areZeros, whole, first⟩
    rw [behind] at whole
    rw [← isSign_decimalByte others]
    constructor
    · intro malformed
      rcases Option.isSome_iff_exists.mp read with ⟨value, reads⟩
      rcases signedNumeral_eq_some_iff.mp reads with ⟨numeral, isText, is, -⟩
      by_contra notSign
      have unsigned : numeral.sign = .none := by
        rw [IntegerNumeral.text] at isText
        cases sign : numeral.sign with
        | none => rfl
        | plus =>
            rw [sign] at isText
            rw [← (List.cons.inj isText).1] at notSign
            exact absurd rfl notSign
        | minus =>
            rw [sign] at isText
            rw [← (List.cons.inj isText).1] at notSign
            exact absurd rfl notSign
      have digits : numeral.digits = decimalText others (unit :: rest) := by
        rw [← isText, IntegerNumeral.text, unsigned]
        rfl
      have nonempty : decimalText others (unit :: rest) ≠ [] := List.cons_ne_nil _ _
      rcases (unsigned_zeros_iff areZeros nonempty value).mpr ⟨numeral, unsigned, digits, is⟩ with
        ⟨longer, plain, isWhole, -⟩
      apply malformed
      refine ⟨longer, ?_⟩
      rw [whole, ← isWhole, IntegerNumeral.text, plain]
      rfl
    · rintro isSign ⟨numeral, isText⟩
      rcases digits_of_head (isText.trans first) with ⟨-, digits⟩
      have member : decimalByte others unit ∈ numeral.digits := by
        rw [digits, ← first, whole]
        exact List.mem_append_right _ List.mem_cons_self
      rw [isSign_of_isDigit (numeral.areDigits _ member)] at isSign
      exact Bool.false_ne_true isSign

end Integers

/-! ## Floats -/

/-- The text that `Float.parseFloat` and `Double.parseDouble` see. -/
def latinText (str : JavaString) : Text :=
  str.map latinByte

/-- A numeral of digits, with a value of at most `max` either way. -/
def DenotesDecimal (max : ℚ) (str : JavaString) (value : Real64) : Prop :=
  ∃ numeral : DecimalNumeral, numeral.text = latinText str ∧ value = .finite numeral.value ∧
    -max ≤ numeral.value ∧ numeral.value ≤ max

theorem latinText_afterZeros (str : JavaString) :
    latinText (afterZeros str) = (latinText str).dropWhile (· = zero) := by
  have isZero (unit : UInt16) : (latinByte unit = zero) = (unit = 48) :=
    propext (latinByte_eq_iff (by decide) unit)
  rw [latinText, latinText, List.dropWhile_map, afterZeros]
  simp only [Function.comp_def, isZero]

/-- What is left of an unsigned numeral has the value of the numeral, or no digit if that is 0. -/
theorem floatParseFloat_dropZeros {whole : Text} (isWhole : ∀ byte ∈ whole, isDigit byte = true)
    {fraction : Option Text} (isFraction : ∀ byte ∈ fraction.getD [], isDigit byte = true)
    (exponent : Option Exponent) :
    (Ygps.floatParseFloat
        ((whole ++ decimalTail fraction exponent).dropWhile (· = zero))).getD .zero =
      .finite (decimalNumber whole fraction exponent) := by
  have stops : (decimalTail fraction exponent).dropWhile (· = zero) =
      decimalTail fraction exponent := by
    cases fraction with
    | some digits => exact List.dropWhile_cons_of_neg (by decide)
    | none =>
        cases exponent with
        | none => rfl
        | some exponent =>
            have letter : exponent.letter ≠ zero := by
              intro isZero
              have isE := exponent.isE
              rw [isZero] at isE
              exact absurd isE (by decide)
            exact List.dropWhile_cons_of_neg (by simpa using letter)
  have dropped : (whole ++ decimalTail fraction exponent).dropWhile (· = zero) =
      Sign.none.text ++ (whole.dropWhile (· = zero) ++ decimalTail fraction exponent) := by
    rw [List.dropWhile_append, stops]
    split
    case isTrue empty =>
      rw [List.isEmpty_iff.mp empty]
      rfl
    case isFalse => rfl
  have isLeft : ∀ byte ∈ whole.dropWhile (· = zero), isDigit byte = true :=
    fun byte member => isWhole byte ((List.dropWhile_sublist _).subset member)
  have same : decimalNumber (whole.dropWhile (· = zero)) fraction exponent =
      decimalNumber whole fraction exponent := by
    rw [decimalNumber, decimalValue_dropZeros, decimalNumber]
  rw [dropped, floatParseFloat_decimalTail .none isLeft isFraction, same]
  by_cases empty : whole.dropWhile (· = zero) = [] ∧ fraction.getD [] = []
  · rw [if_pos empty, ← same, decimalNumber, empty.1, empty.2]
    simp [Gps.decimalValue, digitsValue, Real64.zero]
  · rw [if_neg empty]
    rfl

/-- `Float.parseFloat` and `Double.parseDouble` behind `removeFirstZero`. -/
def decimalReader (max : ℚ) : FieldReader Real64 where
  valueOf str := Ygps.floatParseFloat (latinText str)
  zero := .zero
  Malformed str := Ygps.floatParseFloat (latinText str) = none
  Denotes := DenotesDecimal max
  begins unit := beginsFloat (latinByte unit)
  malformed_nil := rfl
  rejects _ malformed := malformed
  exact str value denotes _ := by
    rcases denotes with ⟨numeral, isText, rfl, -⟩
    rw [latinText_afterZeros, ← isText]
    cases sign : numeral.sign with
    | none =>
        have unsigned : numeral.text =
            numeral.whole ++ decimalTail numeral.fraction numeral.exponent := by
          rw [DecimalNumeral.text, sign]
          rfl
        have plain : numeral.value =
            decimalNumber numeral.whole numeral.fraction numeral.exponent := by
          rw [DecimalNumeral.value, sign]
          rfl
        rw [unsigned, plain]
        exact floatParseFloat_dropZeros numeral.isWhole numeral.isFraction numeral.exponent
    | plus =>
        have kept : numeral.text.dropWhile (· = zero) = numeral.text := by
          rw [DecimalNumeral.text, sign]
          exact List.dropWhile_cons_of_neg (by decide)
        rw [kept, numeral.floatParseFloat_text, Option.getD_some]
    | minus =>
        have kept : numeral.text.dropWhile (· = zero) = numeral.text := by
          rw [DecimalNumeral.text, sign]
          exact List.dropWhile_cons_of_neg (by decide)
        rw [kept, numeral.floatParseFloat_text, Option.getD_some]
  malformed_behind str unit rest isZero behind read := by
    rcases exists_zeros str with ⟨zeros, areZeros, whole, nonempty⟩
    have someZeros : latinText zeros ≠ [] := fun none =>
      nonempty.mp isZero (List.map_eq_nil_iff.mp none)
    have areTextZeros : ∀ byte ∈ latinText zeros, byte = zero := by
      intro byte member
      rcases List.mem_map.mp member with ⟨other, inZeros, rfl⟩
      rw [areZeros other inZeros]
      rfl
    have text : latinText str = latinText zeros ++ latinByte unit :: latinText rest := by
      rw [whole, behind, latinText, List.map_append]
      rfl
    have notZero : latinByte unit ≠ zero := by
      have first : (afterZeros str).head? = some unit := by
        rw [behind]
        rfl
      have stops := List.head?_dropWhile_not (· = 48) str
      rw [← afterZeros, first] at stops
      intro isZero
      rw [latinByte_eq_iff (by decide)] at isZero
      exact of_decide_eq_false stops isZero
    rw [text]
    constructor
    · intro malformed
      by_contra notBegins
      have accepted : (Ygps.floatParseFloat
          (latinText zeros ++ latinByte unit :: latinText rest)).isSome = true :=
        isSome_floatParseFloat_zeros_append_of_not_begins areTextZeros someZeros
          (Bool.eq_false_of_not_eq_true notBegins) notZero read
      rw [malformed] at accepted
      exact Bool.false_ne_true accepted
    · intro begins
      exact floatParseFloat_zeros_append_eq_none areTextZeros someZeros begins read

/-! ## The four functions -/

/-- `Float.MAX_VALUE` -/
def floatMax : ℚ :=
  (2 ^ 24 - 1) * 2 ^ 104

/-- `Double.MAX_VALUE` -/
def doubleMax : ℚ :=
  (2 ^ 53 - 1) * 2 ^ 971

/-- A float is malformed if Java throws. -/
def MalformedFloat (str : JavaString) : Prop :=
  floatParseFloat str = none

def MalformedDouble (str : JavaString) : Prop :=
  doubleParseDouble str = none

/-- All four functions read a string as it is. -/
structure NumericFieldsExact (others : OtherDigits) (str : JavaString) : Prop where
  parseInt : ReadsField (parseInt others str) 0 (MalformedInteger others str)
    (DenotesInteger others (2 ^ 31) str)
  parseLong : ReadsField (parseLong others str) 0 (MalformedInteger others str)
    (DenotesInteger others (2 ^ 63) str)
  parseFloat : ReadsField (parseFloat str) .zero (MalformedFloat str) (DenotesDecimal floatMax str)
  parseDouble : ReadsField (parseDouble str) .zero (MalformedDouble str)
    (DenotesDecimal doubleMax str)

/-- Zeros, a sign and digits, with a number of type `long` other than 0 behind the zeros. -/
def SignedBehindZeros (others : OtherDigits) (str : JavaString) : Prop :=
  (integerReader others (2 ^ 63)).NumberBehindZeros str

/-- Zeros, then a sign, a blank, `N` or `I` with which a text begins that Java reads as a float
other than 0. -/
def FloatBehindZeros (str : JavaString) : Prop :=
  (decimalReader floatMax).NumberBehindZeros str

/-- A number of type `int` is one of type `long`. -/
theorem SignedBehindZeros.of_int {others : OtherDigits} {str : JavaString}
    (behind : (integerReader others (2 ^ 31)).NumberBehindZeros str) :
    SignedBehindZeros others str := by
  rcases behind with ⟨isZero, unit, rest, value, after, begins, read, other⟩
  rcases signedNumeral_eq_some_iff.mp read with ⟨numeral, isText, is, least, most⟩
  refine ⟨isZero, unit, rest, value, after, begins, ?_, other⟩
  exact signedNumeral_eq_some_iff.mpr ⟨numeral, isText, is, by omega, by omega⟩

/-- All strings are read as they are but those of zeros, and those with a number behind zeros that
may not stand there. -/
theorem numericFieldsExact_iff (others : OtherDigits) (str : JavaString) :
    NumericFieldsExact others str ↔
      ¬ AllZeros str ∧ ¬ SignedBehindZeros others str ∧ ¬ FloatBehindZeros str := by
  have int := (integerReader others (2 ^ 31)).reads_iff str
  have long := (integerReader others (2 ^ 63)).reads_iff str
  have float := (decimalReader floatMax).reads_iff str
  have double := (decimalReader doubleMax).reads_iff str
  constructor
  · rintro ⟨-, readsLong, readsFloat, -⟩
    exact ⟨(long.mp readsLong).1, (long.mp readsLong).2, (float.mp readsFloat).2⟩
  · rintro ⟨notZeros, notSigned, notFloat⟩
    constructor
    · exact int.mpr ⟨notZeros, fun behind => notSigned (.of_int behind)⟩
    · exact long.mpr ⟨notZeros, notSigned⟩
    · exact float.mpr ⟨notZeros, notFloat⟩
    · exact double.mpr ⟨notZeros, notFloat⟩

/-- `"0"` is thrown at, and `"0-5"` is no number but is read as -5. -/
theorem numericFields_zeros :
    ¬ NumericFieldsExact (fun _ => none) [48] ∧
      ¬ NumericFieldsExact (fun _ => none) [48, 45, 53] := by
  constructor
  · intro exact
    exact absurd exact.parseInt.returns (by decide)
  · intro exact
    have malformed : MalformedFloat [48, 45, 53] := by
      unfold MalformedFloat
      decide +kernel
    have result := exact.parseFloat.malformed malformed
    exact absurd result (by decide +kernel)

/-! ## Strings of NMEA sentences -/

/-- On a string without characters beyond Latin-1 the functions are those that the sentences
use. -/
theorem removeFirstZero_latin (str : JavaString) :
    (removeFirstZero str).map latinText = Ygps.removeFirstZero (latinText str) := by
  induction str with
  | nil => rfl
  | cons unit rest ih =>
      have isZero : latinByte unit = zero ↔ unit = 48 := latinByte_eq_iff (by decide) unit
      have text : latinText (unit :: rest) = latinByte unit :: latinText rest := rfl
      rw [removeFirstZero, text, Ygps.removeFirstZero]
      by_cases first : unit = 48
      · rw [if_pos first, if_pos (isZero.mpr first), ih]
      · rw [if_neg first, if_neg (first ∘ isZero.mp), Option.map_some, text]

theorem parseFloat_latin (str : JavaString) :
    parseFloat str = Ygps.parseFloat (latinText str) := by
  have isEmpty : latinText str = [] ↔ str = [] := List.map_eq_nil_iff
  rw [parseFloat, parseField, Ygps.parseFloat, ← removeFirstZero_latin, Option.map_map]
  simp only [isEmpty]
  rfl

theorem parseInt_latin (others : OtherDigits) {str : JavaString}
    (latin : ∀ unit ∈ str, unit < 256) :
    parseInt others str = Ygps.parseInt (latinText str) := by
  have isEmpty : latinText str = [] ↔ str = [] := List.map_eq_nil_iff
  have text : (removeFirstZero str).map (decimalText others) =
      (removeFirstZero str).map latinText := by
    rw [removeFirstZero_eq]
    split
    · rfl
    · rw [Option.map_some, Option.map_some, Option.some_inj]
      apply List.map_congr_left
      intro unit member
      have small := latin unit ((List.dropWhile_sublist _).subset member)
      rw [decimalByte, latinByte, if_pos small, if_pos small]
  rw [parseInt, parseField, Ygps.parseInt, ← removeFirstZero_latin, ← text, Option.map_map]
  simp only [isEmpty]
  rfl

end JavaString

end X3Hal.Ygps
