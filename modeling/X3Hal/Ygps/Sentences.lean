import X3Hal.Ygps.NmeaParser

/-!
# GSA and GSV sentences

Well-formed sentences of the four talkers, and what the functions of the parser read in their
text.  Numbers are digits with any leading zeros; a field may be empty.
-/

namespace X3Hal.Ygps

open Gps (Real64 comma point digitByte hexByte digitsValue decimalValue isDigit)
open Memory (ascii)

/-! ## Fields -/

/-- A number as its digits. -/
abbrev Digits := List (Fin 10)

namespace Digits

def text (digits : Digits) : Text :=
  digits.map digitByte

def value (digits : Digits) : Nat :=
  digitsValue 10 digits.text

end Digits

/-- A decimal, or an empty field. -/
structure Decimal where
  negative : Bool
  whole : Digits
  fraction : Option Digits
  wellFormed : whole = [] → negative = false ∧ fraction = none
  deriving DecidableEq

namespace Decimal

/-- The text behind the sign -/
def magnitudeText (decimal : Decimal) : Text :=
  decimal.whole.text ++ decimal.fraction.elim [] fun digits => point :: digits.text

def text (decimal : Decimal) : Text :=
  (if decimal.negative then [45] else []) ++ decimal.magnitudeText

def magnitude (decimal : Decimal) : ℚ :=
  decimalValue decimal.whole.text (decimal.fraction.elim [] Digits.text)

/-- The number, with 0 for an empty field. -/
def value (decimal : Decimal) : ℚ :=
  if decimal.negative then -decimal.magnitude else decimal.magnitude

end Decimal

/-- A checksum with the line end that may follow it. -/
structure Checksum where
  first : Fin 16
  second : Fin 16
  lineEnd : Bool
  deriving DecidableEq

def Checksum.text (checksum : Checksum) : Text :=
  star :: hexByte checksum.first :: hexByte checksum.second ::
    if checksum.lineEnd then [13, 10] else []

/-- A text behind the last field. -/
def endWith (ending : Text) : List Text → List Text
  | [] => []
  | [field] => [field ++ ending]
  | field :: next :: fields => field :: endWith ending (next :: fields)

/-! ## Sentences -/

inductive GsaMode
  | manual
  | automatic
  deriving DecidableEq, Repr

def GsaMode.text : GsaMode → Text
  | .manual => ascii "M"
  | .automatic => ascii "A"

structure GsaSentence where
  talker : Talker
  mode : Option GsaMode
  fixType : Digits
  /-- Fields 3 to 14 -/
  ids : List Digits
  twelve : ids.length = 12
  pdop : Decimal
  hdop : Decimal
  vdop : Decimal
  checksum : Checksum

/-- The four fields of a satellite. -/
structure GsvSatellite where
  number : Digits
  elevation : Decimal
  azimuth : Decimal
  snr : Decimal

structure GsvSentence where
  talker : Talker
  total : Digits
  number : Digits
  inView : Digits
  satellites : List GsvSatellite
  checksum : Checksum

/-- The first field: the talker and the kind of the sentence. -/
def addressText (talker : Talker) (kind : Text) : Text :=
  ascii "$" ++ talker.text ++ kind

/-- The text of fields of which the last is followed by the checksum. -/
def recordText (fields : List Text) (checksum : Checksum) : Text :=
  [comma].intercalate (endWith checksum.text fields)

namespace GsaSentence

def fields (sentence : GsaSentence) : List Text :=
  addressText sentence.talker (ascii "GSA") :: sentence.mode.elim [] GsaMode.text ::
    sentence.fixType.text :: sentence.ids.map Digits.text ++
      [sentence.pdop.text, sentence.hdop.text, sentence.vdop.text]

def record (sentence : GsaSentence) : Text :=
  recordText sentence.fields sentence.checksum

end GsaSentence

namespace GsvSatellite

def fields (satellite : GsvSatellite) : List Text :=
  [satellite.number.text, satellite.elevation.text, satellite.azimuth.text, satellite.snr.text]

end GsvSatellite

namespace GsvSentence

def fields (sentence : GsvSentence) : List Text :=
  addressText sentence.talker (ascii "GSV") :: sentence.total.text :: sentence.number.text ::
    sentence.inView.text :: sentence.satellites.flatMap GsvSatellite.fields

def record (sentence : GsvSentence) : Text :=
  recordText sentence.fields sentence.checksum

end GsvSentence

inductive Sentence
  | gsa (sentence : GsaSentence)
  | gsv (sentence : GsvSentence)

namespace Sentence

def talker : Sentence → Talker
  | .gsa sentence => sentence.talker
  | .gsv sentence => sentence.talker

def record : Sentence → Text
  | .gsa sentence => sentence.record
  | .gsv sentence => sentence.record

end Sentence

/-! ## Reading numbers -/

/-- A text of zeros, at which `removeFirstZero` throws. -/
def Zeros (text : Text) : Prop :=
  text ≠ [] ∧ ∀ byte ∈ text, byte = zero

instance (text : Text) : Decidable (Zeros text) :=
  @instDecidableAnd _ _ _ (List.decidableBAll (· = zero) text)

theorem removeFirstZero_eq (text : Text) :
    removeFirstZero text =
      if text.all (· = zero) then none else some (text.dropWhile (· = zero)) := by
  induction text with
  | nil => rfl
  | cons byte rest ih =>
      rw [removeFirstZero]
      by_cases isZero : byte = zero
      · rw [if_pos isZero, ih, List.dropWhile_cons_of_pos (by simpa using isZero), List.all_cons,
          decide_eq_true isZero, Bool.true_and]
      · rw [if_neg isZero, List.dropWhile_cons_of_neg (by simpa using isZero), List.all_cons,
          decide_eq_false isZero, Bool.false_and, if_neg Bool.false_ne_true]

theorem removeFirstZero_of_not_zeros {text : Text} (nonempty : text ≠ [])
    (notZeros : ¬ Zeros text) :
    removeFirstZero text = some (text.dropWhile (· = zero)) := by
  rw [removeFirstZero_eq, if_neg]
  intro all
  exact notZeros ⟨nonempty, by simpa using all⟩

theorem removeFirstZero_of_zeros {text : Text} (zeros : Zeros text) :
    removeFirstZero text = none := by
  rw [removeFirstZero_eq, if_pos]
  simpa using zeros.2

theorem digitsValue_dropZeros (text : Text) :
    digitsValue 10 (text.dropWhile (· = zero)) = digitsValue 10 text := by
  induction text with
  | nil => rfl
  | cons byte rest ih =>
      by_cases isZero : byte = zero
      · rw [List.dropWhile_cons_of_pos (by simpa using isZero), ih, isZero]
        rfl
      · rw [List.dropWhile_cons_of_neg (by simpa using isZero)]

theorem dropZeros_ne_nil {text : Text} (nonempty : text ≠ []) (notZeros : ¬ Zeros text) :
    text.dropWhile (· = zero) ≠ [] := by
  intro isEmpty
  apply notZeros
  rw [List.dropWhile_eq_nil_iff] at isEmpty
  exact ⟨nonempty, fun byte member => by simpa using isEmpty byte member⟩

namespace Digits

theorem isDigit_text (digits : Digits) : ∀ byte ∈ digits.text, isDigit byte = true := by
  intro byte member
  rcases List.mem_map.mp member with ⟨digit, -, rfl⟩
  exact Gps.isDigit_digitByte digit

theorem text_eq_nil_iff (digits : Digits) : digits.text = [] ↔ digits = [] :=
  List.map_eq_nil_iff

theorem parseInt_text {digits : Digits} (notZeros : ¬ Zeros digits.text) :
    parseInt digits.text = some (if digits.value < 2 ^ 31 then (digits.value : Int) else 0) := by
  rw [parseInt]
  by_cases empty : digits.text = []
  · rw [if_pos empty, value, empty]
    rfl
  · have isDigits : ∀ byte ∈ digits.text.dropWhile (· = zero), isDigit byte = true :=
      fun byte member => digits.isDigit_text byte ((List.dropWhile_sublist _).subset member)
    rw [if_neg empty, removeFirstZero_of_not_zeros empty notZeros, Option.map_some,
      integerValueOf_of_digits isDigits (dropZeros_ne_nil empty notZeros), digitsValue_dropZeros,
      value]
    split
    · rfl
    · rfl

theorem parseInt_text_of_zeros {digits : Digits} (zeros : Zeros digits.text) :
    parseInt digits.text = none := by
  rw [parseInt, if_neg zeros.1, removeFirstZero_of_zeros zeros, Option.map_none]

end Digits

theorem decimalValue_nil (whole : Text) : decimalValue whole [] = digitsValue 10 whole := by
  rw [decimalValue, List.length_nil, pow_zero, div_one]
  exact add_zero _

/-- What is left of a decimal without its first zeros may have no digit, and is 0 then. -/
theorem floatParseFloat_decimal (negative : Bool) {whole : Text}
    (isWhole : ∀ byte ∈ whole, isDigit byte = true) (fraction : Option Digits) :
    (floatParseFloat ((if negative then [45] else []) ++
        (whole ++ fraction.elim [] fun digits => point :: digits.text))).getD .zero =
      .finite (if negative then -decimalValue whole (fraction.elim [] Digits.text)
        else decimalValue whole (fraction.elim [] Digits.text)) := by
  cases fraction with
  | none =>
      rw [Option.elim_none, Option.elim_none, List.append_nil,
        floatParseFloat_of_numeric (fun byte member => .inl (isWhole byte member)) negative
          (afterMantissa_digits isWhole),
        Gps.readMantissa_of_digits isWhole, decimalValue_nil]
      by_cases empty : whole = []
      · simp [empty, digitsValue, Real64.zero]
      · rw [if_neg empty, Option.map_some, Option.getD_some]
  | some digits =>
      have isFraction := digits.isDigit_text
      rw [Option.elim_some, Option.elim_some,
        floatParseFloat_of_numeric (fun _ => Gps.mem_decimal isWhole isFraction) negative
          (afterMantissa_decimal isWhole isFraction),
        Gps.readMantissa_of_decimal isWhole isFraction]
      by_cases empty : whole = [] ∧ digits.text = []
      · rw [if_pos empty, empty.1, empty.2]
        simp [decimalValue, digitsValue, Real64.zero]
      · rw [if_neg empty, Option.map_some, Option.getD_some]

theorem decimalValue_dropZeros (whole fraction : Text) :
    decimalValue (whole.dropWhile (· = zero)) fraction = decimalValue whole fraction := by
  rw [decimalValue, decimalValue, digitsValue_dropZeros]

namespace Decimal

theorem dropZeros_magnitudeText (decimal : Decimal) :
    decimal.magnitudeText.dropWhile (· = zero) =
      decimal.whole.text.dropWhile (· = zero) ++
        decimal.fraction.elim [] fun digits => point :: digits.text := by
  have stops : (decimal.fraction.elim [] fun digits => point :: digits.text).dropWhile (· = zero) =
      decimal.fraction.elim [] fun digits => point :: digits.text := by
    cases decimal.fraction with
    | none => rfl
    | some digits => exact List.dropWhile_cons_of_neg (by decide)
  rw [magnitudeText, List.dropWhile_append, stops]
  split
  case isTrue empty => rw [List.isEmpty_iff.mp empty, List.nil_append]
  case isFalse => rfl

/-- The first zeros of a negative decimal stay behind its sign. -/
theorem parseFloat_text {decimal : Decimal} (notZeros : ¬ Zeros decimal.text) :
    parseFloat decimal.text = some (.finite decimal.value) := by
  rw [parseFloat]
  by_cases empty : decimal.text = []
  · rw [text, List.append_eq_nil_iff, magnitudeText, List.append_eq_nil_iff] at empty
    have whole : decimal.whole = [] := decimal.whole.text_eq_nil_iff.mp empty.2.1
    have shape := decimal.wellFormed whole
    rw [if_pos (by rw [text, shape.1, magnitudeText, whole, shape.2]; rfl), value, shape.1,
      magnitude, whole, shape.2]
    simp [decimalValue, Digits.text, digitsValue, Real64.zero]
  · rw [if_neg empty, removeFirstZero_of_not_zeros empty notZeros, Option.map_some, value, text]
    cases sign : decimal.negative with
    | true =>
        have kept : (([45] : Text) ++ decimal.magnitudeText).dropWhile (· = zero) =
            [45] ++ decimal.magnitudeText := List.dropWhile_cons_of_neg (by decide)
        have read := floatParseFloat_decimal true decimal.whole.isDigit_text decimal.fraction
        rw [if_pos rfl] at read
        rw [if_pos rfl, if_pos rfl, kept]
        exact congrArg some read
    | false =>
        have isWhole : ∀ byte ∈ decimal.whole.text.dropWhile (· = zero), isDigit byte = true :=
          fun byte member => decimal.whole.isDigit_text byte
            ((List.dropWhile_sublist _).subset member)
        have read := floatParseFloat_decimal false isWhole decimal.fraction
        rw [decimalValue_dropZeros, if_neg Bool.false_ne_true, List.nil_append] at read
        rw [if_neg Bool.false_ne_true, if_neg Bool.false_ne_true, List.nil_append,
          dropZeros_magnitudeText]
        exact congrArg some read

end Decimal

/-! ## Splitting -/

/-- A byte of a field behind the address: no comma, and none of the letters that the words
sought in a sentence begin with. -/
def Inner (byte : UInt8) : Prop :=
  byte ≠ comma ∧ byte ≠ 71 ∧ byte ≠ 82

instance (byte : UInt8) : Decidable (Inner byte) :=
  inferInstanceAs (Decidable (_ ∧ _ ∧ _))

theorem inner_of_isDigit {byte : UInt8} (digit : isDigit byte = true) : Inner byte :=
  ⟨Gps.ne_of_isDigit digit (by decide), Gps.ne_of_isDigit digit (by decide),
    Gps.ne_of_isDigit digit (by decide)⟩

theorem Digits.inner_text (digits : Digits) : ∀ byte ∈ digits.text, Inner byte :=
  fun byte member => inner_of_isDigit (digits.isDigit_text byte member)

/-- The bytes of a decimal are digits, a sign and a point. -/
theorem Decimal.mem_text {decimal : Decimal} {byte : UInt8} (member : byte ∈ decimal.text) :
    isDigit byte = true ∨ byte = 45 ∨ byte = point := by
  rw [text, magnitudeText, List.mem_append, List.mem_append] at member
  rcases member with inSign | inWhole | inFraction
  · cases sign : decimal.negative with
    | true =>
        rw [sign, if_pos rfl, List.mem_singleton] at inSign
        exact .inr (.inl inSign)
    | false =>
        rw [sign, if_neg Bool.false_ne_true] at inSign
        exact absurd inSign List.not_mem_nil
  · exact .inl (decimal.whole.isDigit_text byte inWhole)
  · cases fraction : decimal.fraction with
    | none =>
        rw [fraction] at inFraction
        exact absurd inFraction List.not_mem_nil
    | some digits =>
        rw [fraction, Option.elim_some, List.mem_cons] at inFraction
        rcases inFraction with isPoint | inDigits
        · exact .inr (.inr isPoint)
        · exact .inl (digits.isDigit_text byte inDigits)

theorem Decimal.inner_text (decimal : Decimal) : ∀ byte ∈ decimal.text, Inner byte := by
  intro byte member
  rcases mem_text member with digit | rfl | rfl
  · exact inner_of_isDigit digit
  · decide
  · decide

theorem Decimal.star_notMem_text (decimal : Decimal) : star ∉ decimal.text := by
  intro member
  rcases mem_text member with digit | isSign | isPoint
  · exact absurd digit (by decide)
  · exact absurd isSign (by decide)
  · exact absurd isPoint (by decide)

namespace Checksum

theorem inner_text (checksum : Checksum) : ∀ byte ∈ checksum.text, Inner byte := by
  have hexDigit : ∀ digit : Fin 16, Inner (hexByte digit) := by decide
  rw [text]
  simp only [List.forall_mem_cons]
  refine ⟨by decide, hexDigit checksum.first, hexDigit checksum.second, ?_⟩
  cases checksum.lineEnd with
  | true => decide +kernel
  | false => decide +kernel

theorem text_ne_nil (checksum : Checksum) : checksum.text ≠ [] :=
  List.cons_ne_nil _ _

/-- The text behind the star -/
def digitsText (checksum : Checksum) : Text :=
  hexByte checksum.first :: hexByte checksum.second :: if checksum.lineEnd then [13, 10] else []

theorem star_notMem_digitsText (checksum : Checksum) : star ∉ checksum.digitsText := by
  have hexDigit : ∀ digit : Fin 16, star ≠ hexByte digit := by decide
  rw [digitsText, List.mem_cons, List.mem_cons]
  rintro (first | second | inEnd)
  · exact hexDigit _ first
  · exact hexDigit _ second
  · cases ends : checksum.lineEnd with
    | true =>
        rw [ends, if_pos rfl] at inEnd
        exact absurd inEnd (by decide)
    | false =>
        rw [ends, if_neg Bool.false_ne_true] at inEnd
        exact absurd inEnd List.not_mem_nil

end Checksum

theorem contains_star (text : Text) : contains text [star] = true ↔ star ∈ text := by
  rw [contains, decide_eq_true_iff, List.singleton_infix_iff]

theorem Decimal.parseSnr_text (decimal : Decimal) :
    parseSnr decimal.text = parseFloat decimal.text := by
  rw [parseSnr, if_neg]
  rw [contains_star]
  exact decimal.star_notMem_text

theorem Decimal.parseSnr_text_checksum (decimal : Decimal) (checksum : Checksum) :
    parseSnr (decimal.text ++ checksum.text) = parseFloat decimal.text := by
  have parts : decimal.text ++ checksum.text =
      [star].intercalate [decimal.text, checksum.digitsText] := by
    rw [List.intercalate_cons_cons, List.append_assoc]
    exact congrArg (decimal.text ++ ·) (by simp [Checksum.text, Checksum.digitsText])
  have cut : splitAt star (decimal.text ++ checksum.text) =
      [decimal.text, checksum.digitsText] := by
    rw [parts]
    apply splitAt_intercalate
    · rw [List.forall_mem_cons, List.forall_mem_singleton]
      exact ⟨decimal.star_notMem_text, checksum.star_notMem_digitsText⟩
    · exact Nat.lt_succ_self 1
    · exact fun empty => List.cons_ne_nil _ _ (Option.some.inj empty)
  have member : star ∈ decimal.text ++ checksum.text :=
    List.mem_append_right _ List.mem_cons_self
  rw [parseSnr, if_pos ((contains_star _).mpr member), cut]
  rfl

section EndWith

variable {ending : Text}

theorem endWith_append {front back : List Text} (nonempty : back ≠ []) :
    endWith ending (front ++ back) = front ++ endWith ending back := by
  induction front with
  | nil => rfl
  | cons field front ih =>
      rcases List.exists_cons_of_ne_nil (List.append_ne_nil_of_right_ne_nil front nonempty) with
        ⟨next, fields, shape⟩
      rw [List.cons_append, shape, endWith, ← shape, ih, List.cons_append]

theorem length_endWith (fields : List Text) : (endWith ending fields).length = fields.length := by
  induction fields with
  | nil => rfl
  | cons field fields ih =>
      cases fields with
      | nil => rfl
      | cons next fields => exact congrArg (· + 1) ih

theorem endWith_forall {P : UInt8 → Prop} (inEnding : ∀ byte ∈ ending, P byte) {fields : List Text}
    (inFields : ∀ field ∈ fields, ∀ byte ∈ field, P byte) :
    ∀ field ∈ endWith ending fields, ∀ byte ∈ field, P byte := by
  induction fields with
  | nil => exact fun field member => absurd member List.not_mem_nil
  | cons first fields ih =>
      rw [List.forall_mem_cons] at inFields
      cases fields with
      | nil =>
          rw [endWith, List.forall_mem_singleton]
          intro byte member
          rcases List.mem_append.mp member with inFirst | inEnd
          · exact inFields.1 byte inFirst
          · exact inEnding byte inEnd
      | cons next fields =>
          rw [endWith, List.forall_mem_cons]
          exact ⟨inFields.1, ih inFields.2⟩

theorem getLast?_endWith (nonempty : ending ≠ []) (fields : List Text) :
    (endWith ending fields).getLast? ≠ some [] := by
  induction fields with
  | nil => exact fun none => Option.some_ne_none _ none.symm
  | cons field fields ih =>
      cases fields with
      | nil =>
          intro empty
          exact List.append_ne_nil_of_right_ne_nil field nonempty (Option.some.inj empty)
      | cons next fields =>
          have more : endWith ending (next :: fields) ≠ [] := by
            rw [← List.length_pos_iff, length_endWith]
            exact Nat.succ_pos _
          rw [endWith, List.getLast?_cons_of_ne_nil more]
          exact ih

end EndWith

theorem mem_intercalate {separator byte : UInt8} {fields : List Text}
    (member : byte ∈ [separator].intercalate fields) :
    byte = separator ∨ ∃ field ∈ fields, byte ∈ field := by
  induction fields with
  | nil => exact absurd member List.not_mem_nil
  | cons field fields ih =>
      by_cases isLast : fields = []
      · subst isLast
        exact .inr ⟨field, List.mem_cons_self, by simpa using member⟩
      · rw [List.intercalate_cons_of_ne_nil isLast, List.mem_append, List.mem_append,
          List.mem_singleton] at member
        rcases member with (inField | isSeparator) | later
        · exact .inr ⟨field, List.mem_cons_self, inField⟩
        · exact .inl isSeparator
        · rcases ih later with isSeparator | ⟨other, isField, inOther⟩
          · exact .inl isSeparator
          · exact .inr ⟨other, List.mem_cons_of_mem _ isField, inOther⟩

section Record

variable (talker : Talker) {kind : Text} {field : Text} {fields : List Text} (checksum : Checksum)
  (isKind : kind = ascii "GSA" ∨ kind = ascii "GSV")
  (inner : ∀ other ∈ field :: fields, ∀ byte ∈ other, Inner byte)

theorem recordText_cons (address : Text) :
    recordText (address :: field :: fields) checksum =
      address ++ comma :: [comma].intercalate (endWith checksum.text (field :: fields)) := by
  have more : endWith checksum.text (field :: fields) ≠ [] := by
    rw [← List.length_pos_iff, length_endWith]
    exact Nat.succ_pos _
  rw [recordText, endWith, List.intercalate_cons_of_ne_nil more, List.append_assoc,
    List.singleton_append]

include isKind in
theorem contains_addressText (other : Talker) :
    contains (addressText talker kind) other.text = decide (talker = other) := by
  rcases isKind with rfl | rfl
  · cases talker <;> cases other <;> decide
  · cases talker <;> cases other <;> decide

include inner

/-- A word that begins with `G` or `R` is in a sentence only if it is in its address. -/
theorem contains_recordText {letter : UInt8} {word : Text} (address : Text)
    (isLetter : letter = 71 ∨ letter = 82) (without : comma ∉ letter :: word) :
    contains (recordText (address :: field :: fields) checksum) (letter :: word) =
      contains address (letter :: word) := by
  have notIn : letter ∉ [comma].intercalate (endWith checksum.text (field :: fields)) := by
    intro member
    rcases mem_intercalate member with isComma | ⟨other, isField, inOther⟩
    · exact without (isComma ▸ List.mem_cons_self)
    · have byte := endWith_forall checksum.inner_text inner other isField letter inOther
      rcases isLetter with rfl | rfl
      · exact byte.2.1 rfl
      · exact byte.2.2 rfl
  rw [contains, contains, decide_eq_decide, recordText_cons checksum,
    infix_append_cons_iff without]
  constructor
  · rintro (inAddress | inRest)
    · exact inAddress
    · exact absurd inRest (not_infix_of_notMem notIn)
  · exact .inl

include isKind

theorem contains_talker {other : Talker} (notBd : other ≠ .bd) :
    contains (recordText (addressText talker kind :: field :: fields) checksum) other.text =
      decide (talker = other) := by
  rw [← contains_addressText talker isKind other]
  cases other with
  | gp => exact contains_recordText checksum inner _ (.inl rfl) (by decide)
  | gl => exact contains_recordText checksum inner _ (.inl rfl) (by decide)
  | ga => exact contains_recordText checksum inner _ (.inl rfl) (by decide)
  | bd => exact absurd rfl notBd

/-- The checksum may be `BD`, but the other talkers are sought first. -/
theorem checkTalker_recordText :
    checkTalker (recordText (addressText talker kind :: field :: fields) checksum) =
      some talker := by
  have found : contains (recordText (addressText talker kind :: field :: fields) checksum)
      talker.text = true := by
    have inAddress : contains (addressText talker kind) talker.text = true := by
      rw [contains_addressText talker isKind, decide_eq_true_iff]
    rw [contains, decide_eq_true_iff] at inAddress ⊢
    rw [recordText_cons]
    exact inAddress.trans (List.prefix_append _ _).isInfix
  have absent : ∀ other, other ≠ .bd → talker ≠ other →
      contains (recordText (addressText talker kind :: field :: fields) checksum) other.text =
        false := by
    intro other notBd apart
    rw [contains_talker talker checksum isKind inner notBd, decide_eq_false_iff_not]
    exact apart
  rw [checkTalker, mTalker]
  cases talker with
  | gp => simp [List.find?, found]
  | gl => simp [List.find?, absent .gp, found]
  | ga => simp [List.find?, absent .gp, absent .gl, found]
  | bd => simp [List.find?, absent .gp, absent .gl, absent .ga, found]

/-- The kind is the only one of the words sought that is in the sentence. -/
theorem contains_kind {sought : Text}
    (isSought : sought ∈ [ascii "RMC", ascii "GSA", ascii "GGA", ascii "GSV"]) :
    contains (recordText (addressText talker kind :: field :: fields) checksum) sought =
      decide (kind = sought) := by
  have inAddress : contains (addressText talker kind) sought = decide (kind = sought) := by
    simp only [List.mem_cons, List.not_mem_nil, or_false] at isSought
    rcases isKind with rfl | rfl
    · rcases isSought with rfl | rfl | rfl | rfl <;> cases talker <;> decide
    · rcases isSought with rfl | rfl | rfl | rfl <;> cases talker <;> decide
  rw [← inAddress]
  simp only [List.mem_cons, List.not_mem_nil, or_false] at isSought
  rcases isSought with rfl | rfl | rfl | rfl
  · exact contains_recordText checksum inner _ (.inr rfl) (by decide)
  · exact contains_recordText checksum inner _ (.inl rfl) (by decide)
  · exact contains_recordText checksum inner _ (.inl rfl) (by decide)
  · exact contains_recordText checksum inner _ (.inl rfl) (by decide)

theorem split_recordText :
    split (recordText (addressText talker kind :: field :: fields) checksum) =
      addressText talker kind :: endWith checksum.text (field :: fields) := by
  apply splitAt_intercalate
  · rw [endWith, List.forall_mem_cons]
    constructor
    · rcases isKind with rfl | rfl
      · cases talker <;> decide
      · cases talker <;> decide
    · intro other isField member
      exact (endWith_forall checksum.inner_text inner other isField comma member).1 rfl
  · rw [length_endWith]
    exact Nat.succ_lt_succ (Nat.succ_pos _)
  · exact getLast?_endWith checksum.text_ne_nil _

end Record

end X3Hal.Ygps
