import X3Hal.Ygps.Sentences

/-!
# Numerals that Java reads

What `Integer.valueOf`, `Long.parseLong` and `Float.parseFloat` take for a number, as a grammar,
and what they do with zeros in front of a text.
-/

namespace X3Hal.Ygps

open Gps (Real64 isDigit digitsValue readSign readExponent readMantissa toLower point decimalValue)
open Memory (ascii forall_byte)

/-! ## Signs -/

inductive Sign
  | none
  | plus
  | minus
  deriving DecidableEq, Repr

namespace Sign

def text : Sign → Text
  | .none => []
  | .plus => [43]
  | .minus => [45]

/-- A magnitude with the sign. -/
def apply {α : Type} [Neg α] (sign : Sign) (magnitude : α) : α :=
  if sign = .minus then -magnitude else magnitude

end Sign

def isSign (byte : UInt8) : Bool :=
  byte = 43 || byte = 45

theorem readSign_text {sign : Sign} {text : Text}
    (unsigned : sign = .none → text.head?.any isSign = false) :
    readSign (sign.text ++ text) = (decide (sign = .minus), text) := by
  cases sign with
  | none =>
      have plain := unsigned rfl
      rw [Sign.text, List.nil_append]
      unfold readSign
      split
      · exact absurd plain.symm Bool.false_ne_true
      · exact absurd plain.symm Bool.false_ne_true
      · rfl
  | plus => rfl
  | minus => rfl

/-- Every text has at most one sign in front. -/
theorem exists_sign (text : Text) :
    ∃ sign : Sign, text = sign.text ++ (readSign text).2 ∧
      (readSign text).1 = decide (sign = .minus) := by
  unfold readSign
  split
  · exact ⟨.minus, rfl, rfl⟩
  · exact ⟨.plus, rfl, rfl⟩
  · exact ⟨.none, rfl, rfl⟩

theorem isSign_of_isDigit {byte : UInt8} (digit : isDigit byte = true) : isSign byte = false := by
  rw [isSign, Bool.or_eq_false_iff]
  constructor
  · exact decide_eq_false (Gps.ne_of_isDigit digit (by decide))
  · exact decide_eq_false (Gps.ne_of_isDigit digit (by decide))

/-! ## Integers -/

/-- An integer of a type that holds the numbers from `-bound` to `bound - 1`. -/
def signedNumeral (bound : Int) (text : Text) : Option Int :=
  let (negative, digits) := readSign text
  let value : Int := if negative then -digitsValue 10 digits else digitsValue 10 digits
  if digits ≠ [] ∧ digits.all isDigit ∧ -bound ≤ value ∧ value < bound then some value else none

theorem integerValueOf_eq (text : Text) : integerValueOf text = signedNumeral (2 ^ 31) text :=
  rfl

/-- `Long.parseLong` -/
def longParseLong (text : Text) : Option Int :=
  signedNumeral (2 ^ 63) text

/-- Digits with an optional sign. -/
structure IntegerNumeral where
  sign : Sign
  digits : Text
  areDigits : ∀ byte ∈ digits, isDigit byte = true
  nonempty : digits ≠ []

namespace IntegerNumeral

def text (numeral : IntegerNumeral) : Text :=
  numeral.sign.text ++ numeral.digits

def value (numeral : IntegerNumeral) : Int :=
  numeral.sign.apply (digitsValue 10 numeral.digits : Int)

theorem readSign_text (numeral : IntegerNumeral) :
    readSign numeral.text = (decide (numeral.sign = .minus), numeral.digits) := by
  apply Ygps.readSign_text
  intro _
  cases isEmpty : numeral.digits with
  | nil => rfl
  | cons byte rest =>
      exact isSign_of_isDigit (numeral.areDigits byte (isEmpty ▸ List.mem_cons_self))

/-- A text denotes at most one number. -/
theorem value_unique {numeral other : IntegerNumeral} (same : numeral.text = other.text) :
    numeral.value = other.value := by
  have read := numeral.readSign_text
  rw [same, other.readSign_text, Prod.mk.injEq, decide_eq_decide] at read
  rw [value, value, Sign.apply, Sign.apply, read.2]
  simp only [read.1]

end IntegerNumeral

theorem signedNumeral_eq_some_iff {bound : Int} {text : Text} {value : Int} :
    signedNumeral bound text = some value ↔
      ∃ numeral : IntegerNumeral, numeral.text = text ∧ numeral.value = value ∧
        -bound ≤ value ∧ value < bound := by
  constructor
  · intro read
    rcases exists_sign text with ⟨sign, whole, negative⟩
    unfold signedNumeral at read
    rw [Option.ite_none_right_eq_some] at read
    rcases read with ⟨⟨nonempty, digits, least, most⟩, is⟩
    rw [Option.some_inj] at is
    rw [is] at least most
    refine ⟨⟨sign, (readSign text).2, List.all_eq_true.mp digits, nonempty⟩, whole.symm, ?_, least,
      most⟩
    rw [← is, negative]
    simp [IntegerNumeral.value, Sign.apply]
  · rintro ⟨numeral, rfl, rfl, least, most⟩
    have read := numeral.readSign_text
    unfold signedNumeral
    rw [read]
    have is : (if decide (numeral.sign = .minus) = true then -(digitsValue 10 numeral.digits : Int)
        else digitsValue 10 numeral.digits) = numeral.value := by
      simp [IntegerNumeral.value, Sign.apply]
    dsimp only
    rw [is, if_pos ⟨numeral.nonempty, List.all_eq_true.mpr numeral.areDigits, least, most⟩]

/-! ## Decimals -/

/-- The letter `e` and an integer. -/
structure Exponent where
  letter : UInt8
  power : IntegerNumeral
  isE : toLower letter = 101

namespace Exponent

def text (exponent : Exponent) : Text :=
  exponent.letter :: exponent.power.text

theorem isExponent_text (exponent : Exponent) : isExponent 101 exponent.text = true := by
  have digits := exponent.power.areDigits
  rw [text, isExponent, exponent.power.readSign_text, exponent.isE]
  simpa using And.intro exponent.power.nonempty digits

theorem readExponent_text (exponent : Exponent) :
    readExponent 101 exponent.text = exponent.power.value := by
  have whole : exponent.power.digits.takeWhile isDigit = exponent.power.digits :=
    List.takeWhile_eq_self_iff.mpr exponent.power.areDigits
  rw [text, readExponent, if_pos exponent.isE, exponent.power.readSign_text]
  dsimp only
  rw [whole]
  simp [IntegerNumeral.value, Sign.apply]

end Exponent

/-- The bytes of decimals: digits, points, signs and the letter `e`. -/
def isNumeric (byte : UInt8) : Bool :=
  isDigit byte || byte = point || isSign byte || toLower byte = 101

theorem not_isNumeric : ∀ byte : UInt8, isNumeric byte = true →
    ¬ byte ≤ 32 ∧ byte ≠ 78 ∧ byte ≠ 73 ∧ toLower byte ≠ 120 ∧ isTypeSuffix byte = false :=
  forall_byte (by decide +kernel)

/-- What follows the digits of the whole part. -/
def decimalTail (fraction : Option Text) (exponent : Option Exponent) : Text :=
  fraction.elim [] (point :: ·) ++ exponent.elim [] Exponent.text

/-- The power of ten. -/
def powerOf (exponent : Option Exponent) : Int :=
  exponent.elim 0 (·.power.value)

/-- The number, with 0 where there is no digit. -/
def decimalNumber (whole : Text) (fraction : Option Text) (exponent : Option Exponent) : ℚ :=
  decimalValue whole (fraction.getD []) * 10 ^ powerOf exponent

theorem isNumeric_of_isDigit {byte : UInt8} (digit : isDigit byte = true) :
    isNumeric byte = true := by
  rw [isNumeric, digit]
  rfl

theorem isNumeric_of_isSign {byte : UInt8} (sign : isSign byte = true) :
    isNumeric byte = true := by
  rw [isNumeric, sign, Bool.or_true, Bool.true_or]

theorem isSign_of_mem {sign : Sign} {byte : UInt8} (member : byte ∈ sign.text) :
    isSign byte = true := by
  cases sign with
  | none => exact absurd member List.not_mem_nil
  | plus => exact (List.mem_singleton.mp member) ▸ rfl
  | minus => exact (List.mem_singleton.mp member) ▸ rfl

theorem Exponent.isNumeric_text (exponent : Exponent) :
    ∀ byte ∈ exponent.text, isNumeric byte = true := by
  intro byte member
  rw [text, IntegerNumeral.text, List.mem_cons, List.mem_append] at member
  rcases member with rfl | inSign | inDigits
  · rw [isNumeric, exponent.isE, decide_eq_true rfl, Bool.or_true]
  · exact isNumeric_of_isSign (isSign_of_mem inSign)
  · exact isNumeric_of_isDigit (exponent.power.areDigits byte inDigits)

section Decimal

variable {whole : Text} (isWhole : ∀ byte ∈ whole, isDigit byte = true)
  {fraction : Option Text} (isFraction : ∀ byte ∈ fraction.getD [], isDigit byte = true)
  (exponent : Option Exponent)

/-- Behind the fraction comes the letter of the exponent or nothing. -/
theorem head_exponent : ∀ byte ∈ (exponent.elim [] Exponent.text).head?,
    isDigit byte = false ∧ byte ≠ point := by
  intro byte first
  cases exponent with
  | none => exact absurd first (Option.not_mem_none byte)
  | some exponent =>
      have isLetter : exponent.letter = byte := Option.some_inj.mp first
      have letter : ∀ byte : UInt8, toLower byte = 101 → isDigit byte = false ∧ byte ≠ point :=
        forall_byte (by decide +kernel)
      exact letter byte (isLetter ▸ exponent.isE)

theorem dropWhile_exponent :
    (exponent.elim [] Exponent.text).dropWhile isDigit = exponent.elim [] Exponent.text := by
  have first := head_exponent exponent
  cases whole : exponent.elim [] Exponent.text with
  | nil => rfl
  | cons byte rest =>
      rw [whole] at first
      rw [List.dropWhile_cons_of_neg]
      simpa using (first byte rfl).1

theorem takeWhile_exponent : (exponent.elim [] Exponent.text).takeWhile isDigit = [] := by
  have first := head_exponent exponent
  cases whole : exponent.elim [] Exponent.text with
  | nil => rfl
  | cons byte rest =>
      rw [whole] at first
      rw [List.takeWhile_cons_of_neg]
      simpa using (first byte rfl).1

include isWhole

theorem dropWhile_decimal :
    (whole ++ decimalTail fraction exponent).dropWhile isDigit =
      decimalTail fraction exponent := by
  rw [List.dropWhile_append_of_pos isWhole, decimalTail]
  cases fraction with
  | none => exact dropWhile_exponent exponent
  | some digits => exact List.dropWhile_cons_of_neg (by decide)

theorem takeWhile_decimal :
    (whole ++ decimalTail fraction exponent).takeWhile isDigit = whole := by
  have behind : (decimalTail fraction exponent).takeWhile isDigit = [] := by
    rw [decimalTail]
    cases fraction with
    | none => exact takeWhile_exponent exponent
    | some digits => exact List.takeWhile_cons_of_neg (by decide)
  rw [List.takeWhile_append_of_pos isWhole, behind, List.append_nil]

include isFraction

theorem afterMantissa_decimalTail :
    afterMantissa isDigit (whole ++ decimalTail fraction exponent) =
      exponent.elim [] Exponent.text := by
  rw [afterMantissa, dropWhile_decimal isWhole]
  cases fraction with
  | none =>
      rw [decimalTail, Option.elim_none, List.nil_append, if_neg]
      intro isPoint
      exact (head_exponent exponent point isPoint).2 rfl
  | some digits =>
      rw [Option.getD_some] at isFraction
      rw [decimalTail, Option.elim_some, List.cons_append, List.head?_cons, if_pos rfl,
        List.tail_cons, List.dropWhile_append_of_pos isFraction, dropWhile_exponent]

theorem readMantissa_decimalTail :
    readMantissa 10 isDigit 101 10 (whole ++ decimalTail fraction exponent) =
      if whole = [] ∧ fraction.getD [] = [] then none
      else some (decimalNumber whole fraction exponent) := by
  have power : readExponent 101 (exponent.elim [] Exponent.text) = powerOf exponent := by
    cases exponent with
    | none => rfl
    | some exponent => exact exponent.readExponent_text
  have scaled (digits : Text) : (digitsValue 10 (whole ++ digits) : ℚ) / 10 ^ digits.length =
      decimalValue whole digits := by
    have scale : (10 : ℚ) ^ digits.length ≠ 0 := by positivity
    rw [Gps.digitsValue_append, decimalValue]
    push_cast
    field_simp
  unfold readMantissa
  simp only [takeWhile_decimal isWhole, dropWhile_decimal isWhole]
  cases fraction with
  | none =>
      have noPoint : ¬ (decimalTail none exponent).head? = some 46 := by
        intro isPoint
        exact (head_exponent exponent point isPoint).2 rfl
      have same : decimalTail none exponent = exponent.elim [] Exponent.text := rfl
      rw [if_neg noPoint, if_neg noPoint, same, power, Option.getD_none]
      have none := scaled []
      rw [List.length_nil] at none ⊢
      rw [Nat.cast_ofNat, none]
      rfl
  | some digits =>
      rw [Option.getD_some] at isFraction
      have isPoint : (decimalTail (some digits) exponent).head? = some 46 := rfl
      have behind : (digits ++ exponent.elim [] Exponent.text).takeWhile isDigit = digits := by
        rw [List.takeWhile_append_of_pos isFraction, takeWhile_exponent, List.append_nil]
      have rest : (digits ++ exponent.elim [] Exponent.text).dropWhile isDigit =
          exponent.elim [] Exponent.text := by
        rw [List.dropWhile_append_of_pos isFraction, dropWhile_exponent]
      have tail : (decimalTail (some digits) exponent).tail =
          digits ++ exponent.elim [] Exponent.text := rfl
      rw [if_pos isPoint, if_pos isPoint, tail, behind, rest, power, Nat.cast_ofNat, scaled]
      rfl

theorem isNumeric_decimalTail :
    ∀ byte ∈ whole ++ decimalTail fraction exponent, isNumeric byte = true := by
  intro byte member
  rw [decimalTail, List.mem_append, List.mem_append] at member
  rcases member with inWhole | inFraction | inExponent
  · exact isNumeric_of_isDigit (isWhole byte inWhole)
  · cases fraction with
    | none => exact absurd inFraction List.not_mem_nil
    | some digits =>
        rcases List.mem_cons.mp inFraction with rfl | inDigits
        · rfl
        · exact isNumeric_of_isDigit (isFraction byte inDigits)
  · cases exponent with
    | none => exact absurd inExponent List.not_mem_nil
    | some exponent => exact exponent.isNumeric_text byte inExponent

omit isFraction in
theorem unsigned_decimalTail :
    (whole ++ decimalTail fraction exponent).head?.any isSign = false := by
  have letter : ∀ byte : UInt8, toLower byte = 101 → isSign byte = false :=
    forall_byte (by decide +kernel)
  cases whole with
  | cons byte rest => exact isSign_of_isDigit (isWhole byte List.mem_cons_self)
  | nil =>
      cases fraction with
      | some digits => rfl
      | none =>
          cases exponent with
          | none => rfl
          | some exponent => exact letter exponent.letter exponent.isE

end Decimal

theorem floatMagnitude_of_isNumeric {text : Text} (numeric : ∀ byte ∈ text, isNumeric byte = true)
    (ends : afterMantissa isDigit text = [] ∨ isExponent 101 (afterMantissa isDigit text) = true) :
    floatMagnitude text = (readMantissa 10 isDigit 101 10 text).map .finite := by
  have notNaN : text ≠ ascii "NaN" := by
    rintro rfl
    exact (not_isNumeric 78 (numeric 78 (by decide))).2.1 rfl
  have notInfinity : text ≠ ascii "Infinity" := by
    rintro rfl
    exact (not_isNumeric 73 (numeric 73 (by decide))).2.2.1 rfl
  have noSuffix : text.getLast?.any isTypeSuffix = false := by
    cases last : text.getLast? with
    | none => rfl
    | some byte => exact (not_isNumeric byte (numeric byte (List.mem_of_getLast? last))).2.2.2.2
  have noHex : [48, 120].isPrefixOf (text.map toLower) = false := by
    rw [← Bool.not_eq_true, List.isPrefixOf_iff_prefix]
    intro isPrefix
    rcases List.mem_map.mp (isPrefix.subset (by decide : (120 : UInt8) ∈ [48, 120])) with
      ⟨byte, inText, lowered⟩
    exact (not_isNumeric byte (numeric byte inText)).2.2.2.1 lowered
  rw [floatMagnitude, if_neg notNaN, if_neg notInfinity, noSuffix, if_neg Bool.false_ne_true,
    numeral, noHex, if_neg Bool.false_ne_true, if_pos ends]

/-- `Float.parseFloat` of digits with an optional sign, point and exponent; one digit is needed
before or behind the point. -/
theorem floatParseFloat_decimalTail (sign : Sign) {whole : Text}
    (isWhole : ∀ byte ∈ whole, isDigit byte = true) {fraction : Option Text}
    (isFraction : ∀ byte ∈ fraction.getD [], isDigit byte = true) (exponent : Option Exponent) :
    floatParseFloat (sign.text ++ (whole ++ decimalTail fraction exponent)) =
      if whole = [] ∧ fraction.getD [] = [] then none
      else some (.finite (sign.apply (decimalNumber whole fraction exponent))) := by
  have numeric := isNumeric_decimalTail isWhole isFraction exponent
  have after := afterMantissa_decimalTail isWhole isFraction exponent
  have ends : exponent.elim [] Exponent.text = [] ∨
      isExponent 101 (exponent.elim [] Exponent.text) = true := by
    cases exponent with
    | none => exact Or.inl rfl
    | some exponent => exact Or.inr exponent.isExponent_text
  have visible : ∀ byte ∈ sign.text ++ (whole ++ decimalTail fraction exponent), ¬ byte ≤ 32 := by
    intro byte member
    rcases List.mem_append.mp member with inSign | inRest
    · exact (not_isNumeric byte (isNumeric_of_isSign (isSign_of_mem inSign))).1
    · exact (not_isNumeric byte (numeric byte inRest)).1
  unfold floatParseFloat
  rw [trim_of_visible visible, readSign_text fun _ => unsigned_decimalTail isWhole exponent]
  dsimp only
  rw [floatMagnitude_of_isNumeric numeric (after ▸ ends),
    readMantissa_decimalTail isWhole isFraction exponent]
  by_cases empty : whole = [] ∧ fraction.getD [] = []
  · rw [if_pos empty, if_pos empty]
    rfl
  · rw [if_neg empty, if_neg empty]
    cases sign with
    | none => rfl
    | plus => rfl
    | minus => rfl

/-- Digits with an optional sign, point and exponent. -/
structure DecimalNumeral where
  sign : Sign
  whole : Text
  fraction : Option Text
  exponent : Option Exponent
  isWhole : ∀ byte ∈ whole, isDigit byte = true
  isFraction : ∀ byte ∈ fraction.getD [], isDigit byte = true
  someDigit : ¬ (whole = [] ∧ fraction.getD [] = [])

namespace DecimalNumeral

def text (numeral : DecimalNumeral) : Text :=
  numeral.sign.text ++ (numeral.whole ++ decimalTail numeral.fraction numeral.exponent)

def value (numeral : DecimalNumeral) : ℚ :=
  numeral.sign.apply (decimalNumber numeral.whole numeral.fraction numeral.exponent)

theorem floatParseFloat_text (numeral : DecimalNumeral) :
    floatParseFloat numeral.text = some (.finite numeral.value) := by
  rw [text, floatParseFloat_decimalTail numeral.sign numeral.isWhole numeral.isFraction
    numeral.exponent, if_neg numeral.someDigit, value]

end DecimalNumeral

/-! ## Zeros in front -/

section Zeros

variable {zeros : Text} (areZeros : ∀ byte ∈ zeros, byte = zero)
include areZeros

theorem digits_of_zeros : ∀ byte ∈ zeros, isDigit byte = true := by
  intro byte member
  rw [areZeros byte member]
  rfl

theorem digitsValue_zeros_append (digits : Text) :
    digitsValue 10 (zeros ++ digits) = digitsValue 10 digits := by
  have front := digitsValue_dropZeros zeros
  have none : zeros.dropWhile (· = zero) = [] := by
    rw [List.dropWhile_eq_nil_iff]
    simpa using areZeros
  rw [none] at front
  rw [Gps.digitsValue_append, ← front]
  exact (Nat.zero_mul _).symm ▸ Nat.zero_add _

theorem afterMantissa_zeros_append (text : Text) :
    afterMantissa isDigit (zeros ++ text) = afterMantissa isDigit text := by
  rw [afterMantissa, List.dropWhile_append_of_pos (digits_of_zeros areZeros), afterMantissa]

/-- Behind a zero a numeral needs no digit. -/
theorem isSome_numeral_zeros_append (nonempty : zeros ≠ []) {text : Text}
    (notX : ∀ byte ∈ text.head?, toLower byte ≠ 120) :
    (numeral (zeros ++ text)).isSome = true ↔
      afterMantissa isDigit text = [] ∨ isExponent 101 (afterMantissa isDigit text) = true := by
  have noHex : [48, 120].isPrefixOf ((zeros ++ text).map toLower) = false := by
    rw [← Bool.not_eq_true, List.isPrefixOf_iff_prefix]
    intro isPrefix
    match zeros, text with
    | [], _ => exact nonempty rfl
    | [first], [] => exact absurd isPrefix.length_le (by simp)
    | [first], byte :: rest =>
        rw [List.singleton_append, List.map_cons, List.map_cons, List.cons_prefix_cons,
          List.cons_prefix_cons] at isPrefix
        exact notX byte rfl isPrefix.2.1.symm
    | first :: second :: more, _ =>
        rw [List.cons_append, List.cons_append, List.map_cons, List.map_cons,
          List.cons_prefix_cons, List.cons_prefix_cons,
          areZeros second (List.mem_cons_of_mem _ List.mem_cons_self)] at isPrefix
        exact absurd isPrefix.2.1 (by decide)
  have someDigit : (zeros ++ text).takeWhile isDigit ≠ [] := by
    rw [List.takeWhile_append_of_pos (digits_of_zeros areZeros)]
    exact List.append_ne_nil_of_left_ne_nil nonempty _
  have mantissa : (readMantissa 10 isDigit 101 10 (zeros ++ text)).isSome = true := by
    unfold readMantissa
    rw [if_neg fun empty => someDigit empty.1]
    rfl
  rw [numeral, noHex, if_neg Bool.false_ne_true, afterMantissa_zeros_append areZeros]
  split
  case isTrue ends => exact iff_of_true mantissa ends
  case isFalse ends => exact iff_of_false Bool.false_ne_true ends

end Zeros

/-! ### Blanks and suffixes -/

/-- A numeral without the letter of its type. -/
def withoutSuffix (text : Text) : Text :=
  if text.getLast?.any isTypeSuffix then text.dropLast else text

theorem withoutSuffix_append (front : Text) {text : Text} (nonempty : text ≠ []) :
    withoutSuffix (front ++ text) = front ++ withoutSuffix text := by
  rw [withoutSuffix, withoutSuffix, List.getLast?_append_of_ne_nil _ nonempty]
  split
  · exact List.dropLast_append_of_ne_nil nonempty
  · rfl

theorem floatMagnitude_eq {text : Text} {byte : UInt8} (first : text.head? = some byte)
    (notN : byte ≠ 78) (notI : byte ≠ 73) :
    floatMagnitude text = (numeral (withoutSuffix text)).map .finite := by
  have notNaN : text ≠ ascii "NaN" := by
    rintro rfl
    exact notN (Option.some_inj.mp first).symm
  have notInfinity : text ≠ ascii "Infinity" := by
    rintro rfl
    exact notI (Option.some_inj.mp first).symm
  rw [floatMagnitude, if_neg notNaN, if_neg notInfinity, withoutSuffix]
  split
  · rfl
  · rfl

/-- Blanks behind a text, of which the front has none. -/
theorem rdropWhile_append {front : Text} (visible : ∀ byte ∈ front, ¬ byte ≤ 32) (text : Text) :
    (front ++ text).rdropWhile (· ≤ 32) = front ++ text.rdropWhile (· ≤ 32) := by
  have kept : front.reverse.dropWhile (· ≤ 32) = front.reverse := by
    cases reversed : front.reverse with
    | nil => rfl
    | cons byte rest =>
        have member : byte ∈ front := List.mem_reverse.mp (reversed ▸ List.mem_cons_self)
        rw [List.dropWhile_cons_of_neg]
        simpa using visible byte member
  rw [List.rdropWhile, List.rdropWhile, List.reverse_append, List.dropWhile_append, kept]
  split
  case isTrue empty =>
    rw [List.isEmpty_iff.mp empty, List.reverse_reverse]
    exact (List.append_nil front).symm
  case isFalse => rw [List.reverse_append, List.reverse_reverse]

theorem trim_append {front : Text} (nonempty : front ≠ []) (visible : ∀ byte ∈ front, ¬ byte ≤ 32)
    (text : Text) : trim (front ++ text) = front ++ text.rdropWhile (· ≤ 32) := by
  have kept : (front ++ text).dropWhile (· ≤ 32) = front ++ text := by
    cases front with
    | nil => exact absurd rfl nonempty
    | cons byte rest =>
        rw [List.cons_append, List.dropWhile_cons_of_neg]
        simpa using visible byte List.mem_cons_self
  rw [trim, kept, rdropWhile_append visible]

/-! ### Reading behind zeros -/

section Zeros

variable {zeros : Text} (areZeros : ∀ byte ∈ zeros, byte = zero) (nonempty : zeros ≠ [])
include areZeros nonempty

theorem head_zeros_append (text : Text) : (zeros ++ text).head? = some zero := by
  cases zeros with
  | nil => exact absurd rfl nonempty
  | cons byte rest => rw [List.cons_append, List.head?_cons, areZeros byte List.mem_cons_self]

theorem isSome_floatParseFloat_zeros_append {text : Text}
    (visible : text.rdropWhile (· ≤ 32) ≠ [])
    (notX : ∀ byte ∈ (withoutSuffix (text.rdropWhile (· ≤ 32))).head?, toLower byte ≠ 120) :
    (floatParseFloat (zeros ++ text)).isSome = true ↔
      afterMantissa isDigit (withoutSuffix (text.rdropWhile (· ≤ 32))) = [] ∨
        isExponent 101 (afterMantissa isDigit (withoutSuffix (text.rdropWhile (· ≤ 32)))) =
          true := by
  have zerosVisible : ∀ byte ∈ zeros, ¬ byte ≤ 32 := by
    intro byte member
    rw [areZeros byte member]
    decide
  have first := head_zeros_append areZeros nonempty (text.rdropWhile (· ≤ 32))
  have unsigned : (zeros ++ text.rdropWhile (· ≤ 32)).head?.any isSign = false := by
    rw [first]
    rfl
  have read := @readSign_text .none _ fun _ => unsigned
  rw [Sign.text, List.nil_append] at read
  unfold floatParseFloat
  rw [trim_append nonempty zerosVisible, read]
  dsimp only
  rw [floatMagnitude_eq first (by decide) (by decide), withoutSuffix_append zeros visible,
    Option.isSome_map, Option.isSome_map, isSome_numeral_zeros_append areZeros nonempty notX]

end Zeros

/-- The bytes in front of a text that `Float.parseFloat` takes which may not stand behind a digit:
signs, blanks, and the first letters of `NaN` and `Infinity`. -/
def beginsFloat (byte : UInt8) : Bool :=
  isSign byte || byte ≤ 32 || byte = 78 || byte = 73

theorem floatParseFloat_blank {text : Text} (blank : text.rdropWhile (· ≤ 32) = []) :
    floatParseFloat text = none := by
  have front : text.dropWhile (· ≤ 32) = [] := by
    rw [List.dropWhile_eq_nil_iff]
    exact List.rdropWhile_eq_nil_iff.mp blank
  have none : trim text = [] := by
    rw [trim, front]
    rfl
  rw [floatParseFloat, none]
  rfl

/-- The first byte stays when blanks are dropped behind a text. -/
theorem rdropWhile_cons {byte : UInt8} {rest : Text}
    (visible : (byte :: rest).rdropWhile (· ≤ 32) ≠ []) :
    ∃ more, (byte :: rest).rdropWhile (· ≤ 32) = byte :: more := by
  cases dropped : (byte :: rest).rdropWhile (· ≤ 32) with
  | nil => exact absurd dropped visible
  | cons first more =>
      have isPrefix := List.rdropWhile_prefix (· ≤ 32) (byte :: rest)
      rw [dropped, List.cons_prefix_cons] at isPrefix
      exact ⟨more, by rw [isPrefix.1]⟩

/-- The first byte stays when the letter of a type is dropped, unless it is that letter. -/
theorem withoutSuffix_cons {byte : UInt8} (notSuffix : isTypeSuffix byte = false) (rest : Text) :
    ∃ more, withoutSuffix (byte :: rest) = byte :: more := by
  rw [withoutSuffix]
  split
  case isTrue suffix =>
    cases rest with
    | nil =>
        rw [List.getLast?_singleton, Option.any_some, notSuffix] at suffix
        exact absurd suffix Bool.false_ne_true
    | cons second more => exact ⟨_, List.dropLast_cons_cons⟩
  case isFalse => exact ⟨rest, rfl⟩

theorem beginsFloat_not : ∀ byte : UInt8, beginsFloat byte = true →
    isTypeSuffix byte = false ∧ isDigit byte = false ∧ byte ≠ point ∧ toLower byte ≠ 101 ∧
      toLower byte ≠ 120 :=
  forall_byte (by decide +kernel)

theorem afterMantissa_cons {byte : UInt8} (notDigit : isDigit byte = false)
    (notPoint : byte ≠ point)
    (rest : Text) : afterMantissa isDigit (byte :: rest) = byte :: rest := by
  have kept : (byte :: rest).dropWhile isDigit = byte :: rest :=
    List.dropWhile_cons_of_neg (by rw [notDigit]; exact Bool.false_ne_true)
  rw [afterMantissa, kept, List.head?_cons, if_neg]
  intro isPoint
  exact notPoint (Option.some_inj.mp isPoint)

theorem head_withoutSuffix {byte : UInt8} {rest : Text} :
    ∀ first ∈ (withoutSuffix (byte :: rest)).head?, first = byte := by
  intro first isFirst
  rw [withoutSuffix] at isFirst
  split at isFirst
  case isTrue =>
    cases rest with
    | nil => exact absurd isFirst (Option.not_mem_none first)
    | cons second more => exact (Option.some_inj.mp isFirst).symm
  case isFalse => exact (Option.some_inj.mp isFirst).symm

theorem isNumeral_start :
    ∀ byte : UInt8, toLower byte = 120 → isDigit byte = false ∧ byte ≠ point :=
  forall_byte (by decide +kernel)

/-- A numeral that does not begin with 0 is one of decimal digits. -/
theorem ends_of_isSome_numeral {text : Text} (read : (numeral text).isSome = true)
    (notZero : ∀ byte ∈ text.head?, byte ≠ zero) :
    (afterMantissa isDigit text = [] ∨ isExponent 101 (afterMantissa isDigit text) = true) ∧
      ∀ byte ∈ text.head?, toLower byte ≠ 120 := by
  have noHex : [48, 120].isPrefixOf (text.map toLower) = false := by
    have low : ∀ byte : UInt8, toLower byte = 48 → byte = zero := forall_byte (by decide +kernel)
    rw [← Bool.not_eq_true, List.isPrefixOf_iff_prefix]
    intro isPrefix
    cases text with
    | nil => exact absurd isPrefix.length_le (by decide)
    | cons byte rest =>
        rw [List.map_cons, List.cons_prefix_cons] at isPrefix
        exact notZero byte rfl (low byte isPrefix.1.symm)
  rw [numeral, noHex, if_neg Bool.false_ne_true] at read
  split at read
  case isTrue ends =>
    refine ⟨ends, fun byte first isX => ?_⟩
    rcases isNumeral_start byte isX with ⟨notDigit, notPoint⟩
    cases text with
    | nil => exact absurd first (Option.not_mem_none byte)
    | cons other rest =>
        obtain rfl : other = byte := Option.some_inj.mp first
        have none : (other :: rest).takeWhile isDigit = [] :=
          List.takeWhile_cons_of_neg (by rw [notDigit]; exact Bool.false_ne_true)
        have all : (other :: rest).dropWhile isDigit = other :: rest :=
          List.dropWhile_cons_of_neg (by rw [notDigit]; exact Bool.false_ne_true)
        have noPoint : ¬ (other :: rest).head? = some 46 := fun isPoint =>
          notPoint (Option.some_inj.mp isPoint)
        unfold readMantissa at read
        dsimp only at read
        rw [none, all, if_neg noPoint, if_pos ⟨rfl, rfl⟩] at read
        exact absurd read Bool.false_ne_true
  case isFalse => exact absurd read Bool.false_ne_true

section Behind

variable {zeros : Text} (areZeros : ∀ byte ∈ zeros, byte = zero) (nonempty : zeros ≠ [])
  {byte : UInt8} {rest : Text}
include areZeros nonempty

/-- A sign, a blank, `NaN` or `Infinity` behind zeros makes the text malformed. -/
theorem floatParseFloat_zeros_append_eq_none (begins : beginsFloat byte = true)
    (read : (floatParseFloat (byte :: rest)).isSome = true) :
    floatParseFloat (zeros ++ byte :: rest) = none := by
  rcases beginsFloat_not byte begins with ⟨notSuffix, notDigit, notPoint, notE, notX⟩
  have visible : (byte :: rest).rdropWhile (· ≤ 32) ≠ [] := by
    intro blank
    rw [floatParseFloat_blank blank] at read
    exact absurd read Bool.false_ne_true
  rcases rdropWhile_cons visible with ⟨more, dropped⟩
  rcases withoutSuffix_cons notSuffix more with ⟨numeral, isNumeral⟩
  have whole := afterMantissa_cons notDigit notPoint numeral
  have accepted := isSome_floatParseFloat_zeros_append areZeros nonempty visible
  rw [dropped, isNumeral] at accepted
  rw [← Option.not_isSome_iff_eq_none, accepted (by
    intro first isFirst
    rwa [← Option.some_inj.mp isFirst]), whole]
  rintro (empty | exponent)
  · exact absurd empty (List.cons_ne_nil _ _)
  · rw [isExponent, decide_eq_false notE] at exponent
    exact absurd exponent Bool.false_ne_true

/-- Zeros in front of any other number leave it a number. -/
theorem isSome_floatParseFloat_zeros_append_of_not_begins (begins : beginsFloat byte = false)
    (notZero : byte ≠ zero) (read : (floatParseFloat (byte :: rest)).isSome = true) :
    (floatParseFloat (zeros ++ byte :: rest)).isSome = true := by
  simp only [beginsFloat, Bool.or_eq_false_iff, decide_eq_false_iff_not] at begins
  rcases begins with ⟨⟨⟨notSign, notBlank⟩, notN⟩, notI⟩
  have visible : ∀ other ∈ [byte], ¬ other ≤ 32 := by
    intro other member
    rwa [List.mem_singleton.mp member]
  have dropped := rdropWhile_append visible rest
  have trimmed := trim_append (List.cons_ne_nil byte []) visible rest
  rw [List.singleton_append, List.singleton_append] at dropped trimmed
  have unsigned := @readSign_text .none (byte :: rest.rdropWhile (· ≤ 32)) fun _ => notSign
  rw [Sign.text, List.nil_append] at unsigned
  unfold floatParseFloat at read
  rw [trimmed, unsigned] at read
  dsimp only at read
  rw [floatMagnitude_eq rfl notN notI, Option.isSome_map, Option.isSome_map] at read
  have first := @head_withoutSuffix byte (rest.rdropWhile (· ≤ 32))
  rcases ends_of_isSome_numeral read fun other isFirst => (first other isFirst).symm ▸ notZero with
    ⟨ends, notX⟩
  have accepted := isSome_floatParseFloat_zeros_append areZeros nonempty
    (dropped.symm ▸ List.cons_ne_nil _ _)
  rw [dropped] at accepted
  exact (accepted notX).mpr ends

end Behind

end X3Hal.Ygps
