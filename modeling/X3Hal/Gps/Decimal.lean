import Mathlib.Algebra.Order.Field.Rat
import Mathlib.Tactic.FieldSimp
import Mathlib.Tactic.Positivity
import Mathlib.Tactic.Ring
import X3Hal.Gps.NmeaText

/-!
# Decimal numerals with a point

`strtod` reads digits, a point and digits as the decimal that they denote.
-/

namespace X3Hal.Gps

/-! ## The number that digits denote -/

theorem digitValue_lt {byte : UInt8} (digit : isDigit byte = true) : digitValue byte < 10 := by
  rw [digitValue, if_pos digit]
  simp only [isDigit, Bool.and_eq_true, decide_eq_true_eq, UInt8.le_iff_toNat_le] at digit
  simp at digit
  omega

theorem digitsValue_append {base : Nat} (digits more : List UInt8) :
    digitsValue base (digits ++ more) =
      digitsValue base digits * base ^ more.length + digitsValue base more := by
  induction more using List.reverseRecOn with
  | nil => simp [digitsValue]
  | append_singleton more byte ih =>
      have last : ∀ front : List UInt8,
          digitsValue base (front ++ [byte]) =
            digitsValue base front * base + digitValue byte := by
        intro front
        simp [digitsValue]
      rw [← List.append_assoc, last, last, ih, List.length_append, List.length_singleton, pow_succ]
      ring

theorem digitsValue_lt {digits : List UInt8} (areDigits : ∀ byte ∈ digits, isDigit byte = true) :
    digitsValue 10 digits < 10 ^ digits.length := by
  induction digits using List.reverseRecOn with
  | nil => decide
  | append_singleton front byte ih =>
      have before := ih fun other member => areDigits other (List.mem_append_left _ member)
      have last := digitValue_lt (areDigits byte (by simp))
      have single : digitsValue 10 [byte] = digitValue byte := by simp [digitsValue]
      rw [digitsValue_append, single, List.length_append, List.length_singleton, pow_one, pow_succ]
      omega

/-- The decimal of digits before and behind the point. -/
def decimalValue (whole fraction : List UInt8) : ℚ :=
  digitsValue 10 whole + digitsValue 10 fraction / 10 ^ fraction.length

theorem decimalValue_nonneg (whole fraction : List UInt8) : 0 ≤ decimalValue whole fraction := by
  unfold decimalValue
  positivity

section Decimal

variable {whole fraction : List UInt8} (isWhole : ∀ byte ∈ whole, isDigit byte = true)
  (isFraction : ∀ byte ∈ fraction, isDigit byte = true)

include isFraction in
theorem floor_decimalValue : ⌊decimalValue whole fraction⌋ = digitsValue 10 whole := by
  have small : (digitsValue 10 fraction : ℚ) < 10 ^ fraction.length := by
    exact_mod_cast digitsValue_lt isFraction
  have scale : (0 : ℚ) < 10 ^ fraction.length := by positivity
  rw [Int.floor_eq_iff, decimalValue]
  constructor
  · have positive : (0 : ℚ) ≤ digitsValue 10 fraction / 10 ^ fraction.length := by positivity
    simpa using positive
  · have below : (digitsValue 10 fraction : ℚ) / 10 ^ fraction.length < 1 :=
      (div_lt_one scale).mpr small
    simpa using below

/-! ## What `strtod` reads -/

include isWhole isFraction

theorem mem_decimal {byte : UInt8} (member : byte ∈ whole ++ point :: fraction) :
    isDigit byte = true ∨ byte = point := by
  rw [List.mem_append, List.mem_cons] at member
  rcases member with inWhole | isPoint | inFraction
  · exact Or.inl (isWhole byte inWhole)
  · exact Or.inr isPoint
  · exact Or.inl (isFraction byte inFraction)

theorem readMantissa_of_decimal :
    readMantissa 10 isDigit 101 10 (whole ++ point :: fraction) =
      if whole = [] ∧ fraction = [] then none else some (decimalValue whole fraction) := by
  have notDigit : isDigit point = false := by decide
  have front : (whole ++ point :: fraction).takeWhile isDigit = whole := by
    rw [List.takeWhile_append_of_pos isWhole, List.takeWhile_cons_of_neg (by simp [notDigit]),
      List.append_nil]
  have back : (whole ++ point :: fraction).dropWhile isDigit = point :: fraction := by
    rw [List.dropWhile_append_of_pos isWhole, List.dropWhile_cons_of_neg (by simp [notDigit])]
  have behind : fraction.takeWhile isDigit = fraction := List.takeWhile_eq_self_iff.mpr isFraction
  have rest : fraction.dropWhile isDigit = [] := List.dropWhile_eq_nil_iff.mpr isFraction
  have isPoint : (point :: fraction).head? = some 46 := rfl
  unfold readMantissa
  simp only [front, back, isPoint, List.tail_cons, if_true, behind, rest]
  by_cases empty : whole = [] ∧ fraction = []
  · rw [if_pos empty, if_pos empty]
  · have scale : (10 : ℚ) ^ fraction.length ≠ 0 := by positivity
    rw [if_neg empty, if_neg empty, digitsValue_append, decimalValue]
    simp only [readExponent, zpow_zero, mul_one]
    congr 1
    push_cast
    field_simp

/-- Without a digit the numeral reads as 0, which it denotes. -/
theorem readMantissa_of_decimal_elim :
    (readMantissa 10 isDigit 101 10 (whole ++ point :: fraction)).elim .zero Real64.finite =
      .finite (decimalValue whole fraction) := by
  rw [readMantissa_of_decimal isWhole isFraction]
  by_cases empty : whole = [] ∧ fraction = []
  · rw [if_pos empty, empty.1, empty.2]
    simp [decimalValue, digitsValue, Real64.zero]
  · rw [if_neg empty, Option.elim_some]

end Decimal

/-- `str2float` on a decimal that fits its buffer. -/
theorem str2float_decimal {whole fraction : List UInt8}
    (isWhole : ∀ byte ∈ whole, isDigit byte = true)
    (isFraction : ∀ byte ∈ fraction, isDigit byte = true)
    (short : (whole ++ point :: fraction).length < 16) :
    str2float (whole ++ point :: fraction) = .finite (decimalValue whole fraction) := by
  rw [str2float, if_neg (not_le.mpr short),
    strtod_of_numeric fun _ => mem_decimal isWhole isFraction,
    readMantissa_of_decimal_elim isWhole isFraction]

end X3Hal.Gps
