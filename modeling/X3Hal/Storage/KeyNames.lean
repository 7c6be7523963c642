import Mathlib.Data.List.Basic
import Mathlib.Logic.Function.Basic

/-!
# The names of keys

A key is stored in a file whose name is the digest of the key's UTF-8 text in hexadecimal
digits.  A temporary file is named after the key itself.  Strings are UTF-16: `getBytes` puts a
question mark for a surrogate without its partner, so that such keys may share a text.
-/

namespace X3Hal.Storage

/-- A Java string as its UTF-16 units. -/
abbrev Units := List UInt16

/-! ## UTF-16 and UTF-8 -/

def isHighSurrogate (unit : UInt16) : Bool :=
  0xd800 ≤ unit && unit < 0xdc00

def isLowSurrogate (unit : UInt16) : Bool :=
  0xdc00 ≤ unit && unit < 0xe000

/-- The character of a unit that is not part of a pair. -/
def unitChar (unit : UInt16) : Char :=
  if isHighSurrogate unit || isLowSurrogate unit then '?' else Char.ofNat unit.toNat

/-- The character of a pair of surrogates. -/
def pairChar (high low : UInt16) : Char :=
  Char.ofNat (0x10000 + (high.toNat - 0xd800) * 0x400 + (low.toNat - 0xdc00))

/-- The characters of a string, as `getBytes` reads them. -/
def characters : Units → List Char
  | [] => []
  | [unit] => [unitChar unit]
  | unit :: next :: rest =>
      if isHighSurrogate unit && isLowSurrogate next then pairChar unit next :: characters rest
      else unitChar unit :: characters (next :: rest)

/-- `getBytes("UTF-8")` -/
def utf8Bytes (key : Units) : List UInt8 :=
  (characters key).flatMap String.utf8EncodeChar

/-- The units of a character -/
def charUnits (char : Char) : Units :=
  if char.toNat < 0x10000 then [UInt16.ofNat char.toNat]
  else
    [UInt16.ofNat (0xd800 + (char.toNat - 0x10000) / 0x400),
      UInt16.ofNat (0xdc00 + (char.toNat - 0x10000) % 0x400)]

/-- A string of whole characters has no surrogate without its partner. -/
def WellFormed (key : Units) : Prop :=
  ∃ chars : List Char, key = chars.flatMap charUnits

theorem isHighSurrogate_ofNat {number : Nat} (small : number < 0x10000) :
    isHighSurrogate (UInt16.ofNat number) = decide (0xd800 ≤ number ∧ number < 0xdc00) := by
  have unit : (UInt16.ofNat number).toNat = number := UInt16.toNat_ofNat_of_lt' small
  rw [isHighSurrogate, ← Bool.decide_and, decide_eq_decide, UInt16.le_iff_toNat_le,
    UInt16.lt_iff_toNat_lt, unit]
  rfl

theorem isLowSurrogate_ofNat {number : Nat} (small : number < 0x10000) :
    isLowSurrogate (UInt16.ofNat number) = decide (0xdc00 ≤ number ∧ number < 0xe000) := by
  have unit : (UInt16.ofNat number).toNat = number := UInt16.toNat_ofNat_of_lt' small
  rw [isLowSurrogate, ← Bool.decide_and, decide_eq_decide, UInt16.le_iff_toNat_le,
    UInt16.lt_iff_toNat_lt, unit]
  rfl

/-- A character is no surrogate. -/
theorem char_bounds (char : Char) :
    char.toNat < 0xd800 ∨ 0xe000 ≤ char.toNat ∧ char.toNat < 0x110000 := by
  rcases char.valid with low | high
  · exact .inl low
  · exact .inr ⟨high.1, high.2⟩

theorem characters_char_append (char : Char) (rest : Units) :
    characters (charUnits char ++ rest) = char :: characters rest := by
  have bounds := char_bounds char
  rw [charUnits]
  split
  case isTrue single =>
    have notHigh := isHighSurrogate_ofNat single
    have notLow := isLowSurrogate_ofNat single
    rw [decide_eq_false (by omega)] at notHigh notLow
    have unit : unitChar (UInt16.ofNat char.toNat) = char := by
      rw [unitChar, notHigh, notLow, Bool.or_false, if_neg Bool.false_ne_true,
        UInt16.toNat_ofNat_of_lt' single, Char.ofNat_toNat]
    cases rest with
    | nil => exact congrArg ([·]) unit
    | cons next rest =>
        rw [List.singleton_append, characters, notHigh, Bool.false_and,
          if_neg Bool.false_ne_true, unit]
  case isFalse pair =>
    have highSmall : 0xd800 + (char.toNat - 0x10000) / 0x400 < 0x10000 := by omega
    have lowSmall : 0xdc00 + (char.toNat - 0x10000) % 0x400 < 0x10000 := by omega
    have isHigh := isHighSurrogate_ofNat highSmall
    have isLow := isLowSurrogate_ofNat lowSmall
    rw [decide_eq_true (by omega)] at isHigh isLow
    have both : pairChar (UInt16.ofNat (0xd800 + (char.toNat - 0x10000) / 0x400))
        (UInt16.ofNat (0xdc00 + (char.toNat - 0x10000) % 0x400)) = char := by
      have number : 0x10000 + (char.toNat - 0x10000) / 0x400 * 0x400 +
          (char.toNat - 0x10000) % 0x400 = char.toNat := by omega
      rw [pairChar, UInt16.toNat_ofNat_of_lt' highSmall, UInt16.toNat_ofNat_of_lt' lowSmall,
        Nat.add_sub_cancel_left, Nat.add_sub_cancel_left, number, Char.ofNat_toNat]
    rw [List.cons_append, List.singleton_append, characters, isHigh, isLow, Bool.and_true,
      if_pos rfl, both]

theorem characters_flatMap (chars : List Char) : characters (chars.flatMap charUnits) = chars := by
  induction chars with
  | nil => rfl
  | cons char chars ih => rw [List.flatMap_cons, characters_char_append, ih]

theorem utf8_injective :
    Function.Injective fun chars : List Char => chars.flatMap String.utf8EncodeChar := by
  intro chars others same
  have encoded : chars.utf8Encode = others.utf8Encode := congrArg List.toByteArray same
  have decoded := congrArg ByteArray.utf8Decode? encoded
  rw [List.utf8Decode?_utf8Encode, List.utf8Decode?_utf8Encode, Option.some.injEq] at decoded
  exact congrArg Array.toList decoded

/-- Keys of whole characters with one UTF-8 text are one key. -/
theorem utf8Bytes_injOn {key other : Units} (wellFormed : WellFormed key)
    (otherWellFormed : WellFormed other) (same : utf8Bytes key = utf8Bytes other) :
    key = other := by
  rcases wellFormed with ⟨chars, rfl⟩
  rcases otherWellFormed with ⟨otherChars, rfl⟩
  have chars_eq := utf8_injective same
  rw [characters_flatMap, characters_flatMap] at chars_eq
  rw [chars_eq]

/-! ## File names -/

/-- A digit of `%02x` -/
def hexDigit (digit : Nat) : UInt16 :=
  UInt16.ofNat (if digit < 10 then 48 + digit else 87 + digit)

/-- `String.format("%02x", b & 0xff)` -/
def hexByte (byte : UInt8) : Units :=
  [hexDigit (byte.toNat / 16), hexDigit (byte.toNat % 16)]

/-- `encode`, for a digest of keys -/
def encode (digest : List UInt8 → List UInt8) (key : Units) : Units :=
  (digest (utf8Bytes key)).flatMap hexByte

/-- The letters of `"tmp"` -/
def tmpSuffix : Units :=
  [116, 109, 112]

/-- The name that `createTempFile` makes of the key, with what it puts between. -/
def tempName (key middle : Units) : Units :=
  key ++ middle ++ tmpSuffix

theorem hexDigit_injOn {digit other : Nat} (small : digit < 16) (otherSmall : other < 16)
    (same : hexDigit digit = hexDigit other) : digit = other := by
  revert same
  revert other
  revert digit
  decide

theorem hexByte_injective : Function.Injective hexByte := by
  intro byte other same
  rw [hexByte, hexByte, List.cons.injEq, List.cons.injEq] at same
  have bound := byte.toNat_lt
  have otherBound := other.toNat_lt
  have high := hexDigit_injOn (by omega) (by omega) same.1
  have low := hexDigit_injOn (by omega) (by omega) same.2.1
  rw [← UInt8.toNat_inj]
  omega

theorem hexText_injective :
    Function.Injective fun bytes : List UInt8 => bytes.flatMap hexByte := by
  intro bytes
  induction bytes with
  | nil =>
      intro others same
      cases others with
      | nil => rfl
      | cons other others => cases same
  | cons byte bytes ih =>
      intro others same
      cases others with
      | nil => cases same
      | cons other others =>
          dsimp only at same
          rw [List.flatMap_cons, List.flatMap_cons] at same
          have parts := List.append_inj same rfl
          rw [hexByte_injective parts.1, ih parts.2]

/-- The names of two keys differ if their texts do. -/
theorem encode_eq_iff {digest : List UInt8 → List UInt8} (injective : Function.Injective digest)
    {key other : Units} :
    encode digest key = encode digest other ↔ utf8Bytes key = utf8Bytes other := by
  constructor
  · intro same
    exact injective (hexText_injective same)
  · intro same
    rw [encode, encode, same]

theorem hexDigit_ne_p {digit : Nat} (small : digit < 16) : hexDigit digit ≠ 112 := by
  revert digit
  decide

/-- No temporary file has the name of a key. -/
theorem tempName_ne_encode (digest : List UInt8 → List UInt8) (key middle other : Units) :
    tempName key middle ≠ encode digest other := by
  intro same
  have member : (112 : UInt16) ∈ encode digest other := by
    rw [← same, tempName]
    exact List.mem_append_right _ (by decide)
  rcases List.mem_flatMap.mp member with ⟨byte, -, inByte⟩
  have bound := byte.toNat_lt
  rw [hexByte, List.mem_cons, List.mem_singleton] at inByte
  rcases inByte with high | low
  · exact hexDigit_ne_p (by omega) high.symm
  · exact hexDigit_ne_p (by omega) low.symm

end X3Hal.Storage
