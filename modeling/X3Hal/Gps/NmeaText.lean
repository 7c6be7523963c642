import Mathlib.Data.List.TakeWhile
import X3Hal.Gps.HalThread

/-!
# Sentences as text

Fields, endings and sentences that the daemon sends, and what the reader's functions
find in them.
-/

namespace X3Hal.Gps

/-! ## Numbers -/

/-- The base of decimal digits, so that they have literals. -/
instance neZero_ten : NeZero 10 :=
  ⟨by decide⟩

/-- The base of the digits of a checksum. -/
instance neZero_sixteen : NeZero 16 :=
  ⟨by decide⟩

/-- The digit as a byte. -/
def digitByte (digit : Fin 10) : UInt8 :=
  UInt8.ofNat (48 + digit)

/-- A field with a number of at most three digits, which may have leading zeros or be
empty. -/
structure NumberField where
  digits : List (Fin 10)
  short : digits.length ≤ 3
  deriving DecidableEq, Repr

namespace NumberField

def text (field : NumberField) : List UInt8 :=
  field.digits.map digitByte

/-- The number that digits denote after earlier ones; no digits denote 0. -/
def valueFrom (value : Nat) (digits : List (Fin 10)) : Nat :=
  digits.foldl (fun value digit => value * 10 + digit) value

def value (field : NumberField) : Nat :=
  valueFrom 0 field.digits

theorem valueFrom_lt (value : Nat) (digits : List (Fin 10)) :
    valueFrom value digits < (value + 1) * 10 ^ digits.length := by
  induction digits generalizing value with
  | nil => simp [valueFrom]
  | cons digit digits ih =>
      have next : value * 10 + digit + 1 ≤ (value + 1) * 10 := by omega
      calc valueFrom (value * 10 + digit) digits
          < (value * 10 + digit + 1) * 10 ^ digits.length := ih _
        _ ≤ (value + 1) * 10 * 10 ^ digits.length := Nat.mul_le_mul_right _ next
        _ = (value + 1) * 10 ^ (digit :: digits).length := by
          rw [List.length_cons, pow_succ', Nat.mul_assoc]

theorem le_valueFrom (value : Nat) (digits : List (Fin 10)) : value ≤ valueFrom value digits := by
  induction digits generalizing value with
  | nil => exact le_rfl
  | cons digit digits ih => exact le_trans (by omega) (ih (value * 10 + digit))

theorem value_lt (field : NumberField) : field.value < 1000 := by
  have bound := valueFrom_lt 0 field.digits
  have digits : 10 ^ field.digits.length ≤ 10 ^ 3 := Nat.pow_le_pow_right (by omega) field.short
  rw [value]
  omega

@[simp]
theorem length_text (field : NumberField) : field.text.length = field.digits.length :=
  List.length_map _

end NumberField

@[simp]
theorem toNat_digitByte (digit : Fin 10) : (digitByte digit).toNat = 48 + digit := by
  rw [digitByte, UInt8.toNat_ofNat']
  omega

@[simp]
theorem isDigit_digitByte (digit : Fin 10) : isDigit (digitByte digit) = true := by
  revert digit
  decide

theorem wrap32_of_lt {value : Int} (nonneg : 0 ≤ value) (small : value < 2 ^ 31) :
    wrap32 value = value := by
  unfold wrap32
  rw [Int.bmod_eq_of_le]
  · omega
  · omega

theorem accumulateDigits_digits (value : Nat) (digits : List (Fin 10))
    (small : NumberField.valueFrom value digits < 2 ^ 31) :
    accumulateDigits value (digits.map digitByte) =
      some (NumberField.valueFrom value digits : Int) := by
  induction digits generalizing value with
  | nil => rfl
  | cons digit digits ih =>
      have below : value * 10 + digit < 2 ^ 31 :=
        lt_of_le_of_lt (NumberField.le_valueFrom _ digits) small
      have next : wrap32 ((value : Int) * 10 + ((digitByte digit).toNat - 48)) =
          ((value * 10 + digit : Nat) : Int) := by
        rw [toNat_digitByte, wrap32_of_lt (by omega) (by omega)]
        omega
      rw [List.map_cons, accumulateDigits, if_pos (isDigit_digitByte digit), next]
      exact ih _ small

theorem str2int_text (field : NumberField) : str2int field.text = field.value := by
  have read : accumulateDigits 0 field.text = some (field.value : Int) :=
    accumulateDigits_digits 0 field.digits (lt_trans field.value_lt (by omega))
  unfold str2int
  split
  · rename_i rest negative
    have digit : (45 : UInt8) ∈ field.text := by rw [negative]; exact List.mem_cons_self
    obtain ⟨digit, -, equal⟩ := List.mem_map.mp digit
    exact absurd equal (by revert digit; decide)
  · rw [read]
    rfl

theorem digitsValue_digits (value : Nat) (digits : List (Fin 10)) :
    (digits.map digitByte).foldl (fun value byte => value * 10 + digitValue byte) value =
      NumberField.valueFrom value digits := by
  induction digits generalizing value with
  | nil => rfl
  | cons digit digits ih =>
      have digitIs : digitValue (digitByte digit) = digit := by
        rw [digitValue, if_pos (isDigit_digitByte digit), toNat_digitByte]
        omega
      rw [List.map_cons, List.foldl_cons, ih, digitIs]
      rfl

/-- Text that consists of digits. -/
theorem mem_text {field : NumberField} {byte : UInt8} (member : byte ∈ field.text) :
    isDigit byte = true := by
  obtain ⟨digit, -, rfl⟩ := List.mem_map.mp member
  exact isDigit_digitByte digit

/-- A digit is none of the bytes that `strtod` looks for before a number. -/
theorem ne_of_isDigit {byte other : UInt8} (digit : isDigit byte = true)
    (notDigit : isDigit other = false) : byte ≠ other := by
  rintro rfl
  rw [digit] at notDigit
  contradiction

theorem isSpace_of_isDigit {byte : UInt8} (digit : isDigit byte = true) :
    isSpace byte = false := by
  simp only [isDigit, isSpace, Bool.and_eq_true, decide_eq_true_eq, Bool.or_eq_false_iff,
    decide_eq_false_iff_not, Bool.and_eq_false_iff, UInt8.le_iff_toNat_le, ← UInt8.toNat_inj] at *
  simp at *
  omega

theorem toLower_of_isDigit {byte : UInt8} (digit : isDigit byte = true) : toLower byte = byte := by
  simp only [isDigit, Bool.and_eq_true, decide_eq_true_eq, UInt8.le_iff_toNat_le] at digit
  rw [toLower, if_neg]
  simp only [Bool.and_eq_true, decide_eq_true_eq, UInt8.le_iff_toNat_le]
  simp at *
  omega

/-- The byte `'.'` -/
def point : UInt8 := 46

section Numeric

variable {text : List UInt8} (numeric : ∀ byte ∈ text, isDigit byte = true ∨ byte = point)

include numeric

/-- Digits and points begin no other word that `strtod` knows. -/
theorem readMagnitude_of_numeric :
    readMagnitude text = (readMantissa 10 isDigit 101 10 text).elim .zero .finite := by
  have lower : text.map toLower = text := by
    conv_rhs => rw [← List.map_id text]
    apply List.map_congr_left
    intro byte member
    rcases numeric byte member with digit | rfl
    · exact toLower_of_isDigit digit
    · rfl
  have noPrefix : ∀ word : List UInt8, (∃ byte ∈ word, isDigit byte = false ∧ byte ≠ point) →
      word.isPrefixOf text = false := by
    rintro word ⟨byte, inWord, notDigit, notPoint⟩
    rw [← Bool.not_eq_true, List.isPrefixOf_iff_prefix]
    intro isPrefix
    rcases numeric byte (isPrefix.subset inWord) with digit | isPoint
    · rw [digit] at notDigit
      contradiction
    · exact notPoint isPoint
  unfold readMagnitude
  dsimp only
  rw [lower, noPrefix _ (by decide), noPrefix _ (by decide), noPrefix _ (by decide)]
  rfl

theorem readSign_of_numeric : readSign text = (false, text) := by
  unfold readSign
  split
  · exact absurd (numeric 45 List.mem_cons_self) (by decide)
  · exact absurd (numeric 43 List.mem_cons_self) (by decide)
  · rfl

theorem strtod_of_numeric :
    strtod text = (readMantissa 10 isDigit 101 10 text).elim .zero .finite := by
  have noNul : text.takeWhile (· ≠ 0) = text := by
    rw [List.takeWhile_eq_self_iff]
    intro byte member
    rcases numeric byte member with digit | rfl
    · simpa using ne_of_isDigit digit (by decide : isDigit 0 = false)
    · rfl
  have noSpace : text.dropWhile isSpace = text := by
    cases text with
    | nil => rfl
    | cons byte rest =>
        rw [List.dropWhile_cons_of_neg]
        rcases numeric byte List.mem_cons_self with digit | rfl
        · simp [isSpace_of_isDigit digit]
        · decide
  unfold strtod
  simp only [noNul, noSpace, readSign_of_numeric numeric]
  exact readMagnitude_of_numeric numeric

end Numeric

section Digits

variable {text : List UInt8} (digits : ∀ byte ∈ text, isDigit byte = true)

include digits

theorem readMantissa_of_digits :
    readMantissa 10 isDigit 101 10 text =
      if text = [] then none else some (digitsValue 10 text : ℚ) := by
  have whole : text.takeWhile isDigit = text := List.takeWhile_eq_self_iff.mpr digits
  have after : text.dropWhile isDigit = [] := List.dropWhile_eq_nil_iff.mpr digits
  simp [readMantissa, whole, after, readExponent]

theorem strtod_of_digits : strtod text = .finite (digitsValue 10 text) := by
  rw [strtod_of_numeric fun byte member => .inl (digits byte member),
    readMantissa_of_digits digits]
  by_cases empty : text = []
  · subst empty
    rfl
  · rw [if_neg empty, Option.elim_some]

end Digits

theorem str2float_text (field : NumberField) : str2float field.text = .finite field.value := by
  have short := field.short
  have value : digitsValue 10 field.text = field.value := digitsValue_digits 0 field.digits
  rw [str2float, if_neg (by rw [field.length_text]; omega), strtod_of_digits fun _ => mem_text,
    value]

/-! ## Sentences -/

/-- A byte that is not part of the structure of a sentence. -/
def Plain (byte : UInt8) : Prop :=
  byte ≠ comma ∧ byte ≠ newline ∧ byte ≠ 13 ∧ byte ≠ 42

instance (byte : UInt8) : Decidable (Plain byte) :=
  inferInstanceAs (Decidable (_ ∧ _ ∧ _ ∧ _))

/-- A short field of any text. -/
structure TextField where
  text : List UInt8
  plain : ∀ byte ∈ text, Plain byte
  short : text.length ≤ 5

/-- The end of a sentence: a checksum or none, and the line break. -/
structure Ending where
  checksum : Option (Fin 16 × Fin 16)
  carriageReturn : Bool
  deriving DecidableEq, Repr

def hexByte (digit : Fin 16) : UInt8 :=
  UInt8.ofNat (if digit < 10 then 48 + digit else 55 + digit)

/-- The bytes of a checksum. -/
def Ending.checksumBytes (ending : Ending) : List UInt8 :=
  ending.checksum.elim [] fun digits => [42, hexByte digits.1, hexByte digits.2]

/-- The bytes before the newline. -/
def Ending.beforeNewline (ending : Ending) : List UInt8 :=
  ending.checksumBytes ++ if ending.carriageReturn then [13] else []

/-- The bytes of a sentence with the given fields, without its newline. -/
def sentenceLine (fields : List (List UInt8)) (ending : Ending) : List UInt8 :=
  36 :: joinFields fields ++ ending.beforeNewline

theorem plain_of_isDigit {byte : UInt8} (digit : isDigit byte = true) : Plain byte :=
  ⟨ne_of_isDigit digit (by decide), ne_of_isDigit digit (by decide),
    ne_of_isDigit digit (by decide), ne_of_isDigit digit (by decide)⟩

theorem plain_hexByte (digit : Fin 16) : Plain (hexByte digit) := by
  revert digit
  decide

/-- The bytes of joined fields are bytes of the fields and commas. -/
theorem mem_joinFields {fields : List (List UInt8)} {byte : UInt8}
    (member : byte ∈ joinFields fields) : byte = comma ∨ ∃ field ∈ fields, byte ∈ field := by
  induction fields with
  | nil => simp [joinFields] at member
  | cons field fields ih =>
      cases fields with
      | nil => exact .inr ⟨field, List.mem_cons_self, member⟩
      | cons next rest =>
          rw [joinFields, List.mem_append, List.mem_cons] at member
          rcases member with inField | isComma | later
          · exact .inr ⟨field, List.mem_cons_self, inField⟩
          · exact .inl isComma
          · rcases ih later with isComma | ⟨other, isField, inOther⟩
            · exact .inl isComma
            · exact .inr ⟨other, List.mem_cons_of_mem _ isField, inOther⟩

theorem length_joinFields (field : List UInt8) (fields : List (List UInt8)) :
    (joinFields (field :: fields)).length =
      field.length + (fields.map fun field => field.length + 1).sum := by
  induction fields generalizing field with
  | nil => simp [joinFields]
  | cons next rest ih =>
      rw [joinFields, List.length_append, List.length_cons, ih next]
      simp
      omega

section Line

variable {fields : List (List UInt8)} (plain : ∀ field ∈ fields, ∀ byte ∈ field, Plain byte)

include plain

theorem joinFields_ne {byte other : UInt8} (member : byte ∈ joinFields fields)
    (notPlain : ¬Plain other) (notComma : other ≠ comma) : byte ≠ other := by
  rintro rfl
  rcases mem_joinFields member with isComma | ⟨field, isField, inField⟩
  · exact notComma isComma
  · exact notPlain (plain field isField byte inField)

/-- A sentence has no newline before its end. -/
theorem newline_notMem_sentenceLine (ending : Ending) :
    newline ∉ sentenceLine fields ending := by
  intro member
  rw [sentenceLine, List.cons_append, List.mem_cons, List.mem_append, Ending.beforeNewline,
    List.mem_append] at member
  rcases member with dollar | inFields | inChecksum | inBreak
  · exact absurd dollar (by decide)
  · exact joinFields_ne plain inFields (by decide : ¬Plain newline) (by decide) rfl
  · unfold Ending.checksumBytes at inChecksum
    cases checksum : ending.checksum with
    | none => simp [checksum] at inChecksum
    | some digits =>
        simp only [checksum, Option.elim_some, List.mem_cons, List.not_mem_nil, or_false]
          at inChecksum
        rcases inChecksum with star | first | second
        · exact absurd star (by decide)
        · exact (plain_hexByte digits.1).2.1 first.symm
        · exact (plain_hexByte digits.2).2.1 second.symm
  · cases carriageReturn : ending.carriageReturn with
    | false => simp [carriageReturn] at inBreak
    | true =>
        simp only [carriageReturn, if_true, List.mem_singleton] at inBreak
        exact absurd inBreak (by decide)

theorem dropChecksum_joinFields (ending : Ending) :
    dropChecksum (joinFields fields ++ ending.checksumBytes) = joinFields fields := by
  unfold dropChecksum Ending.checksumBytes
  cases ending.checksum with
  | some digits =>
      rw [if_pos]
      · simp
      · simp
  | none =>
      rw [if_neg]
      · simp
      · rintro ⟨-, star⟩
        simp only [Option.elim_none, List.append_nil] at star
        exact joinFields_ne plain (List.mem_of_getElem? star) (by decide : ¬Plain 42)
          (by decide) rfl

/-- The fields of a sentence are what the tokenizer cuts up. -/
theorem sentenceBody_sentenceLine (ending : Ending) :
    sentenceBody (sentenceLine fields ending ++ [newline]) = joinFields fields := by
  have noReturn : (joinFields fields ++ ending.checksumBytes).getLast? ≠ some 13 := by
    intro last
    rcases List.mem_append.mp (List.mem_of_getLast? last) with inFields | inChecksum
    · exact joinFields_ne plain inFields (by decide : ¬Plain 13) (by decide) rfl
    · unfold Ending.checksumBytes at inChecksum
      cases checksum : ending.checksum with
      | none => simp [checksum] at inChecksum
      | some digits =>
          simp only [checksum, Option.elim_some, List.mem_cons, List.not_mem_nil, or_false]
            at inChecksum
          rcases inChecksum with star | first | second
          · exact absurd star (by decide)
          · exact (plain_hexByte digits.1).2.2.1 first.symm
          · exact (plain_hexByte digits.2).2.2.1 second.symm
  have noBreak : dropNewline (joinFields fields ++ ending.beforeNewline ++ [newline]) =
      joinFields fields ++ ending.checksumBytes := by
    unfold dropNewline Ending.beforeNewline
    rw [if_pos (by simp [newline]), List.dropLast_concat]
    cases ending.carriageReturn with
    | true =>
        rw [if_pos rfl, ← List.append_assoc, dropLastByte, if_pos (by simp),
          List.dropLast_concat]
    | false =>
        rw [if_neg (by simp), List.append_nil, dropLastByte, if_neg noReturn]
  rw [sentenceBody, sentenceLine, List.cons_append, List.cons_append, dropDollar, noBreak,
    dropChecksum_joinFields plain]

/-- The tokens of a sentence are its fields. -/
theorem text_token (ending : Ending) {index : Nat} (within : index < maxNmeaTokens) :
    (nmeaTokenizerGet (nmeaTokenizerInit (sentenceLine fields ending ++ [newline])) index).text =
      fields.getD index [] :=
  text_nmeaTokenizerGet (sentenceBody_sentenceLine plain ending)
    (fun field isField isComma => (plain field isField comma isComma).1 rfl) within

end Line

end X3Hal.Gps
