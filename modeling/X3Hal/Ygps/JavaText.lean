import Mathlib.Data.List.DropRight
import Mathlib.Data.List.Infix
import X3Hal.Gps.Decimal
import X3Hal.Memory.Strings

/-!
# Java strings and their numbers

The functions of `String`, `Integer` and `Float` that the parser of YGPS calls.  NMEA
sentences are ASCII, so that a character is its byte.  A result `none` is an exception.
-/

namespace X3Hal.Ygps

open Gps (Real64 isDigit isHexDigit digitsValue readSign readMantissa toLower comma point
  decimalValue)
open Memory (ascii)

abbrev Text := List UInt8

/-- The byte `'*'` -/
def star : UInt8 := 42

/-- The byte `'0'` -/
def zero : UInt8 := 48

/-- `String.contains` -/
def contains (text word : Text) : Bool :=
  word <:+: text

/-- `String.split` at a character: a text without it stays whole, and empty parts at the end
are left out. -/
def splitAt (separator : UInt8) (text : Text) : List Text :=
  if separator ∈ text then (text.splitOn separator).rdropWhile (·.isEmpty) else [text]

/-- `Integer.valueOf` -/
def integerValueOf (text : Text) : Option Int :=
  let (negative, digits) := readSign text
  let value : Int := if negative then -digitsValue 10 digits else digitsValue 10 digits
  if digits ≠ [] ∧ digits.all isDigit ∧ -2 ^ 31 ≤ value ∧ value < 2 ^ 31 then some value else none

/-! ## `Float.parseFloat`, with the exact value of the text -/

/-- What follows the digits and the point of a numeral. -/
def afterMantissa (isBaseDigit : UInt8 → Bool) (text : Text) : Text :=
  let afterWhole := text.dropWhile isBaseDigit
  if afterWhole.head? = some point then afterWhole.tail.dropWhile isBaseDigit else afterWhole

/-- A letter and an integer. -/
def isExponent (letter : UInt8) : Text → Bool
  | first :: rest =>
      toLower first = letter && (readSign rest).2 ≠ [] && (readSign rest).2.all isDigit
  | [] => false

/-- A numeral without sign; one of hexadecimal digits needs its exponent. -/
def numeral (text : Text) : Option ℚ :=
  if [48, 120].isPrefixOf (text.map toLower) then
    if isExponent 112 (afterMantissa isHexDigit (text.drop 2)) then
      readMantissa 16 isHexDigit 112 2 (text.drop 2)
    else none
  else if afterMantissa isDigit text = [] ∨ isExponent 101 (afterMantissa isDigit text) then
    readMantissa 10 isDigit 101 10 text
  else none

/-- The letters that may end a numeral. -/
def isTypeSuffix (byte : UInt8) : Bool :=
  toLower byte = 100 || toLower byte = 102

def floatMagnitude (text : Text) : Option Real64 :=
  if text = ascii "NaN" then some .nan
  else if text = ascii "Infinity" then some (.infinite false)
  else if text.getLast?.any isTypeSuffix then (numeral text.dropLast).map .finite
  else (numeral text).map .finite

/-- `String.trim` -/
def trim (text : Text) : Text :=
  (text.dropWhile (· ≤ 32)).rdropWhile (· ≤ 32)

/-- `Float.parseFloat` -/
def floatParseFloat (text : Text) : Option Real64 :=
  let (negative, magnitude) := readSign (trim text)
  (floatMagnitude magnitude).map fun value => if negative then value.neg else value

example : floatParseFloat (ascii "-12.50") = some (.finite (-25 / 2)) := by decide +kernel

/-! ## Words in a text -/

/-- A word without the separator is in one of the two parts. -/
theorem infix_append_cons_iff {word front back : Text} {separator : UInt8}
    (without : separator ∉ word) :
    word <:+: front ++ separator :: back ↔ word <:+: front ∨ word <:+: back := by
  constructor
  · rintro ⟨before, after, whole⟩
    rcases List.append_eq_append_iff.mp whole with ⟨rest, isFront, -⟩ | ⟨rest, isWord, isBack⟩
    · exact .inl ⟨before, rest, isFront.symm⟩
    · cases rest with
      | nil =>
          rw [List.append_nil] at isWord
          exact .inl ⟨before, [], by rw [List.append_nil, isWord]⟩
      | cons first rest =>
          rw [List.cons_append, List.cons.injEq] at isBack
          rcases isBack with ⟨rfl, rfl⟩
          rcases List.append_eq_append_iff.mp isWord with ⟨gap, -, across⟩ | ⟨gap, -, behind⟩
          · rw [across] at without
            exact absurd (List.mem_append_right gap List.mem_cons_self) without
          · cases gap with
            | nil =>
                rw [List.nil_append] at behind
                rw [← behind] at without
                exact absurd List.mem_cons_self without
            | cons other gap =>
                rw [List.cons_append, List.cons.injEq] at behind
                exact .inr ⟨gap, after, by rw [behind.2]⟩
  · rintro (inFront | inBack)
    · exact inFront.trans (List.infix_append' [] front (separator :: back))
    · exact inBack.trans (List.infix_append' (front ++ [separator]) back [] |>.trans (by simp))

/-- A word is not in a text without its first letter. -/
theorem not_infix_of_notMem {letter : UInt8} {word text : Text} (without : letter ∉ text) :
    ¬ letter :: word <:+: text :=
  fun isInfix => without (isInfix.subset List.mem_cons_self)

/-- Fields with separators between them are what a split gives back, unless the last is empty. -/
theorem splitAt_intercalate {separator : UInt8} {fields : List Text}
    (without : ∀ field ∈ fields, separator ∉ field) (many : 1 < fields.length)
    (ends : fields.getLast? ≠ some []) :
    splitAt separator ([separator].intercalate fields) = fields := by
  match fields with
  | first :: second :: rest =>
      have member : separator ∈ [separator].intercalate (first :: second :: rest) := by
        rw [List.intercalate_cons_cons]
        exact List.mem_append_left _ (List.mem_append_right _ (List.mem_singleton_self separator))
      rw [splitAt, if_pos member, List.splitOn_intercalate separator without
        (List.cons_ne_nil _ _), List.rdropWhile_eq_self_iff]
      intro nonempty isEmpty
      rw [List.isEmpty_iff] at isEmpty
      exact ends (by rw [List.getLast?_eq_some_getLast nonempty, isEmpty])

/-! ## Numerals -/

theorem trim_of_visible {text : Text} (visible : ∀ byte ∈ text, ¬ byte ≤ 32) :
    trim text = text := by
  have front : text.dropWhile (· ≤ 32) = text := by
    cases text with
    | nil => rfl
    | cons byte rest =>
        rw [List.dropWhile_cons_of_neg]
        simpa using visible byte List.mem_cons_self
  rw [trim, front, List.rdropWhile_eq_self_iff]
  intro nonempty
  simpa using visible _ (List.getLast_mem nonempty)

theorem integerValueOf_of_digits {text : Text} (digits : ∀ byte ∈ text, isDigit byte = true)
    (nonempty : text ≠ []) :
    integerValueOf text =
      if digitsValue 10 text < 2 ^ 31 then some (digitsValue 10 text : Int) else none := by
  have unsigned := Gps.readSign_of_numeric fun byte member => .inl (digits byte member)
  unfold integerValueOf
  simp only [unsigned, if_neg Bool.false_ne_true]
  by_cases small : digitsValue 10 text < 2 ^ 31
  · rw [if_pos small, if_pos ⟨nonempty, List.all_eq_true.mpr digits, by omega, by omega⟩]
  · rw [if_neg small, if_neg (by omega)]

section Numeric

variable {text : Text} (numeric : ∀ byte ∈ text, isDigit byte = true ∨ byte = point)

include numeric

theorem numeric_ne {byte other : UInt8} (member : byte ∈ text) (notDigit : isDigit other = false)
    (notPoint : other ≠ point) : byte ≠ other := by
  rcases numeric byte member with digit | isPoint
  · exact Gps.ne_of_isDigit digit notDigit
  · rw [isPoint]
    exact notPoint.symm

theorem numeric_visible (byte : UInt8) (member : byte ∈ text) : ¬ byte ≤ 32 := by
  rcases numeric byte member with digit | rfl
  · simp only [isDigit, Bool.and_eq_true, decide_eq_true_eq, UInt8.le_iff_toNat_le] at digit ⊢
    simp at digit ⊢
    omega
  · decide

theorem floatMagnitude_of_numeric (ends : afterMantissa isDigit text = []) :
    floatMagnitude text = (readMantissa 10 isDigit 101 10 text).map .finite := by
  have noWord : ∀ word : Text, (∃ byte ∈ word, isDigit byte = false ∧ byte ≠ point) →
      text ≠ word := by
    rintro word ⟨byte, inWord, notDigit, notPoint⟩ rfl
    exact numeric_ne numeric inWord notDigit notPoint rfl
  have noSuffix : text.getLast?.any isTypeSuffix = false := by
    cases last : text.getLast? with
    | none => rfl
    | some byte =>
        rcases numeric byte (List.mem_of_getLast? last) with digit | rfl
        · rw [Option.any_some, isTypeSuffix, Gps.toLower_of_isDigit digit]
          simpa using And.intro (Gps.ne_of_isDigit digit (by decide : isDigit 100 = false))
            (Gps.ne_of_isDigit digit (by decide : isDigit 102 = false))
        · rfl
  have noHex : [48, 120].isPrefixOf (text.map toLower) = false := by
    rw [← Bool.not_eq_true, List.isPrefixOf_iff_prefix]
    intro isPrefix
    rcases List.mem_map.mp (isPrefix.subset (by decide : (120 : UInt8) ∈ [48, 120])) with
      ⟨byte, inText, lowered⟩
    rcases numeric byte inText with digit | rfl
    · rw [Gps.toLower_of_isDigit digit] at lowered
      exact Gps.ne_of_isDigit digit (by decide : isDigit 120 = false) lowered
    · exact absurd lowered (by decide)
  rw [floatMagnitude, if_neg (noWord _ (by decide)), if_neg (noWord _ (by decide)), noSuffix,
    if_neg Bool.false_ne_true, numeral, noHex, if_neg Bool.false_ne_true, if_pos (.inl ends)]

/-- A sign before a numeral of digits and a point -/
theorem floatParseFloat_of_numeric (negative : Bool) (ends : afterMantissa isDigit text = []) :
    floatParseFloat ((if negative then [45] else []) ++ text) =
      (readMantissa 10 isDigit 101 10 text).map fun value =>
        .finite (if negative then -value else value) := by
  have magnitude := floatMagnitude_of_numeric numeric ends
  have visible := numeric_visible numeric
  unfold floatParseFloat
  cases negative with
  | false =>
      rw [if_neg Bool.false_ne_true, List.nil_append, trim_of_visible visible,
        Gps.readSign_of_numeric numeric]
      simp [magnitude, Function.comp_def]
  | true =>
      rw [if_pos rfl, List.singleton_append, trim_of_visible]
      · simp [readSign, magnitude, Real64.neg, Function.comp_def]
      · rw [List.forall_mem_cons]
        exact ⟨by decide, visible⟩

end Numeric

section Decimal

variable {whole fraction : Text} (isWhole : ∀ byte ∈ whole, isDigit byte = true)
  (isFraction : ∀ byte ∈ fraction, isDigit byte = true)

include isWhole

theorem afterMantissa_digits : afterMantissa isDigit whole = [] := by
  rw [afterMantissa, List.dropWhile_eq_nil_iff.mpr isWhole]
  rfl

include isFraction

theorem afterMantissa_decimal : afterMantissa isDigit (whole ++ point :: fraction) = [] := by
  have notDigit : isDigit point = false := by decide
  have back : (whole ++ point :: fraction).dropWhile isDigit = point :: fraction := by
    rw [List.dropWhile_append_of_pos isWhole, List.dropWhile_cons_of_neg (by simp [notDigit])]
  rw [afterMantissa, back, List.head?_cons, if_pos rfl, List.tail_cons,
    List.dropWhile_eq_nil_iff.mpr isFraction]

end Decimal

end X3Hal.Ygps
