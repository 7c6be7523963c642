import Mathlib.Data.Rat.Floor

/-!
# Numbers in NMEA fields

`str2int` and `str2float` read a field of a sentence.  `strtod` is the C library's,
with the exact value of the text: rounding to the nearest double is left out.
-/

namespace X3Hal.Gps

/-- The value of a 32-bit signed expression. -/
def wrap32 (value : Int) : Int :=
  value.bmod (2 ^ 32)

theorem wrap32_natCast_le (count : Nat) : wrap32 (count : Int) ≤ count := by
  unfold wrap32
  have below := @Int.bmod_lt (count : Int) (2 ^ 32) (by decide)
  by_cases small : (count : Int) < 2 ^ 31
  · rw [Int.bmod_eq_of_le_mul_two (by omega) (by omega)]
  · omega

/-- The decimal digits `'0'` to `'9'`. -/
def isDigit (byte : UInt8) : Bool :=
  48 ≤ byte && byte ≤ 57

/-- The loop of `str2int`: `none` is its jump to `Fail`. -/
def accumulateDigits : Int → List UInt8 → Option Int
  | result, [] => some result
  | result, byte :: rest =>
      if isDigit byte then accumulateDigits (wrap32 (result * 10 + (byte.toNat - 48))) rest
      else none

/-- `str2int` on the text of a field.  A field is never empty before a `'-'`, so the
test of the first byte is one of the text. -/
def str2int : List UInt8 → Int
  | 45 :: rest => (accumulateDigits 0 rest).elim (-1) fun result => wrap32 (-result)
  | text => (accumulateDigits 0 text).getD (-1)

/-- The values of a `double`. -/
inductive Real64
  | finite (value : ℚ)
  | infinite (negative : Bool)
  | nan
  deriving DecidableEq, Repr

namespace Real64

def zero : Real64 := .finite 0

instance : Inhabited Real64 := ⟨zero⟩

def neg : Real64 → Real64
  | .finite value => .finite (-value)
  | .infinite negative => .infinite !negative
  | .nan => .nan

/-- Apply a function of real numbers that tends to infinities of the same sign. -/
def mapFinite (f : ℚ → ℚ) : Real64 → Real64
  | .finite value => .finite (f value)
  | other => other

/-- Conversion to `int`: towards zero, and to the nearest bound outside the range. -/
def toInt : Real64 → Int
  | .finite value =>
      max (-2 ^ 31) (min (2 ^ 31 - 1) (if value < 0 then ⌈value⌉ else ⌊value⌋))
  | .infinite true => -2 ^ 31
  | .infinite false => 2 ^ 31 - 1
  | .nan => 0

end Real64

/-! ## The C library's `strtod` -/

def isSpace (byte : UInt8) : Bool :=
  byte = 32 || (9 ≤ byte && byte ≤ 13)

def toLower (byte : UInt8) : UInt8 :=
  if 65 ≤ byte && byte ≤ 90 then byte + 32 else byte

/-- The value of a digit in bases up to sixteen. -/
def digitValue (byte : UInt8) : Nat :=
  if isDigit byte then byte.toNat - 48 else (toLower byte).toNat - 87

def isHexDigit (byte : UInt8) : Bool :=
  isDigit byte || (97 ≤ toLower byte && toLower byte ≤ 102)

/-- The number that digits denote, most significant first. -/
def digitsValue (base : Nat) (digits : List UInt8) : Nat :=
  digits.foldl (fun value byte => value * base + digitValue byte) 0

/-- The number that a text denotes: digits after an optional sign -/
def decimalOf : List UInt8 → Option Int
  | 45 :: digits =>
      if digits ≠ [] ∧ digits.all isDigit then some (-(digitsValue 10 digits : Int)) else none
  | digits => if digits ≠ [] ∧ digits.all isDigit then some (digitsValue 10 digits) else none

section Decimal

theorem wrap32_step (value digit : Int) :
    wrap32 (wrap32 value * 10 + digit) = wrap32 (value * 10 + digit) := by
  unfold wrap32
  rw [← Int.bmod_add_bmod, Int.bmod_mul_bmod, Int.bmod_add_bmod]

theorem wrap32_neg (value : Int) : wrap32 (-wrap32 value) = wrap32 (-value) := by
  unfold wrap32
  rw [Int.bmod_neg_bmod]

theorem toNat_sub_eq_digitValue {byte : UInt8} (digit : isDigit byte = true) :
    (byte.toNat : Int) - 48 = digitValue byte := by
  have least : 48 ≤ byte.toNat := by
    simp only [isDigit, Bool.and_eq_true, decide_eq_true_eq] at digit
    exact digit.1
  rw [digitValue, if_pos digit]
  omega

theorem accumulateDigits_wrap32 (start : Nat) (text : List UInt8) :
    accumulateDigits (wrap32 start) text =
      if text.all isDigit then
        some (wrap32 (text.foldl (fun value byte => value * 10 + digitValue byte) start : Nat))
      else none := by
  induction text generalizing start with
  | nil => rfl
  | cons byte rest ih =>
      rw [accumulateDigits, List.all_cons, List.foldl_cons]
      cases digit : isDigit byte with
      | false => rfl
      | true =>
          have next : wrap32 (wrap32 start * 10 + (byte.toNat - 48)) =
              wrap32 ((start * 10 + digitValue byte : Nat) : Int) := by
            rw [wrap32_step, toNat_sub_eq_digitValue digit]
            push_cast
            rfl
          rw [if_pos rfl, next, ih, Bool.true_and]

theorem accumulateDigits_zero (text : List UInt8) :
    accumulateDigits 0 text =
      if text.all isDigit then some (wrap32 (digitsValue 10 text : Int)) else none :=
  accumulateDigits_wrap32 0 text

/-- `str2int` reads the number of a text modulo 2³²; no digits are 0, and other texts −1. -/
theorem str2int_eq_decimalOf (text : List UInt8) :
    str2int text =
      if text = [] ∨ text = [45] then 0 else (decimalOf text).elim (-1) wrap32 := by
  fun_cases str2int text with
  | case1 digits =>
      rw [accumulateDigits_zero, decimalOf]
      cases digits with
      | nil => rfl
      | cons byte rest =>
          have sign : ¬(45 :: byte :: rest = [] ∨ 45 :: byte :: rest = [45]) := by simp
          rw [if_neg sign]
          by_cases all : (byte :: rest).all isDigit = true
          · rw [if_pos all, if_pos ⟨List.cons_ne_nil _ _, all⟩, Option.elim_some,
              Option.elim_some, wrap32_neg]
          · rw [if_neg all, if_neg fun both => all both.2]
            rfl
  | case2 text notMinus =>
      rw [accumulateDigits_zero, decimalOf]
      · cases text with
        | nil => rfl
        | cons byte rest =>
            have sign : ¬(byte :: rest = [] ∨ byte :: rest = [45]) := by
              rintro (empty | minus)
              · cases empty
              · exact notMinus [] minus
            rw [if_neg sign]
            by_cases all : (byte :: rest).all isDigit = true
            · rw [if_pos all, if_pos ⟨List.cons_ne_nil _ _, all⟩]
              rfl
            · rw [if_neg all, if_neg fun both => all both.2]
              rfl
      · exact notMinus

end Decimal

/-- An optional sign, and what follows it. -/
def readSign : List UInt8 → Bool × List UInt8
  | 45 :: rest => (true, rest)
  | 43 :: rest => (false, rest)
  | text => (false, text)

/-- The exponent after the letter, or 0 when no exponent follows. -/
def readExponent (letter : UInt8) : List UInt8 → Int
  | first :: rest =>
      if toLower first = letter then
        let (negative, digits) := readSign rest
        let value : Int := digitsValue 10 (digits.takeWhile isDigit)
        if negative then -value else value
      else 0
  | [] => 0

/-- Digits with an optional point and exponent; `none` when there is no digit. -/
def readMantissa (base : Nat) (isBaseDigit : UInt8 → Bool) (letter : UInt8) (exponentBase : ℚ)
    (text : List UInt8) : Option ℚ :=
  let whole := text.takeWhile isBaseDigit
  let afterWhole := text.dropWhile isBaseDigit
  let fraction := if afterWhole.head? = some 46 then afterWhole.tail.takeWhile isBaseDigit else []
  let afterFraction :=
    if afterWhole.head? = some 46 then afterWhole.tail.dropWhile isBaseDigit else afterWhole
  if whole = [] ∧ fraction = [] then none
  else some (digitsValue base (whole ++ fraction) / (base : ℚ) ^ fraction.length *
    exponentBase ^ readExponent letter afterFraction)

/-- The magnitude of a number without sign and leading blanks. -/
def readMagnitude (text : List UInt8) : Real64 :=
  let lower := text.map toLower
  if [105, 110, 102].isPrefixOf lower then .infinite false
  else if [110, 97, 110].isPrefixOf lower then .nan
  else if [48, 120].isPrefixOf lower then
    -- without a hexadecimal digit behind it, the `0` is all that is read
    ((readMantissa 16 isHexDigit 112 2 (text.drop 2)).elim .zero .finite)
  else (readMantissa 10 isDigit 101 10 text).elim .zero .finite

/-- `strtod` on a buffer that ends at its first NUL. -/
def strtod (buffer : List UInt8) : Real64 :=
  let text := (buffer.takeWhile (· ≠ 0)).dropWhile isSpace
  let (negative, magnitude) := readSign text
  if negative then (readMagnitude magnitude).neg else readMagnitude magnitude

/-- `str2float` on the text of a field: sixteen bytes and more read as 0. -/
def str2float (text : List UInt8) : Real64 :=
  if 16 ≤ text.length then .zero else strtod text

end X3Hal.Gps
