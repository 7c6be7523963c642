import X3Hal.Gps.Number
import X3Hal.Gps.Tokenizer

/-!
# The fields of a sentence

A sentence is its fields with commas between them, in a dressing of a dollar sign, a
checksum and a line end.  The tokens are the first fields; a checksum is any two bytes
behind a star.
-/

namespace X3Hal.Gps

/-- `nmea_tokenizer_get` with its `int` index -/
def nmeaTokenizerAt (tokenizer : NmeaTokenizer) (index : Int) : Token :=
  if index < 0 ∨ tokenizer.tokens.length ≤ index then ⟨[], 0⟩
  else nmeaTokenizerGet tokenizer index.toNat

/-! ## What the sentence says -/

/-- The text without an LF or CRLF at its end. -/
def withoutLineEnd (text : List UInt8) : List UInt8 :=
  match text.reverse with
  | 10 :: 13 :: rest => rest.reverse
  | 10 :: rest => rest.reverse
  | _ => text

/-- The text without a star and two digits at its end. -/
def withoutChecksum (isCheckDigit : UInt8 → Bool) (text : List UInt8) : List UInt8 :=
  match text.reverse with
  | second :: first :: 42 :: rest =>
      if isCheckDigit first && isCheckDigit second then rest.reverse else text
  | _ => text

/-- The comma-separated fields of a sentence. -/
def sentenceFields (isCheckDigit : UInt8 → Bool) (sentence : List UInt8) : List (List UInt8) :=
  (withoutChecksum isCheckDigit (withoutLineEnd (dropDollar sentence))).splitOn comma

/-- The tokens of a sentence are its fields as far as the table goes, and empty beyond. -/
def TokensAreFields (isCheckDigit : UInt8 → Bool) (sentence : List UInt8) : Prop :=
  ∀ index : Int, (nmeaTokenizerAt (nmeaTokenizerInit sentence) index).text =
    if index < 0 then []
    else ((sentenceFields isCheckDigit sentence).take maxNmeaTokens).getD index.toNat []

/-! ## The dressing -/

theorem dropNewline_eq (text : List UInt8) : dropNewline text = withoutLineEnd text := by
  rcases List.reverse_surjective text with ⟨reversed, rfl⟩
  unfold dropNewline dropLastByte withoutLineEnd
  rw [List.reverse_reverse]
  cases reversed with
  | nil => rfl
  | cons last before =>
      by_cases isNewline : last = 10
      · subst isNewline
        cases before with
        | nil => rfl
        | cons previous rest =>
            by_cases isReturn : previous = 13
            · subst isReturn
              simp
            · simp [isReturn]
      · simp [isNewline]

theorem dropChecksum_eq (text : List UInt8) :
    dropChecksum text = withoutChecksum (fun _ => true) text := by
  rcases List.reverse_surjective text with ⟨reversed, rfl⟩
  unfold dropChecksum withoutChecksum
  rw [List.reverse_reverse]
  match reversed with
  | [] => rfl
  | [_] => rfl
  | [_, _] => rfl
  | second :: first :: star :: rest =>
      by_cases isStar : star = 42
      · subst isStar
        simp
      · simp [isStar]

/-! ## The fields -/

/-- The fields that the loop cuts out; only an empty last field may be missing. -/
theorem getD_fieldsOf (text : List UInt8) (index : Nat) :
    (fieldsOf text).getD index [] = (text.splitOn comma).getD index [] := by
  induction text generalizing index with
  | nil => cases index <;> rfl
  | cons byte rest ih =>
      rw [List.splitOn_cons_eq_if_modifyHead, fieldsOf]
      by_cases isComma : byte = comma
      · rw [if_pos isComma, if_pos (beq_iff_eq.mpr isComma)]
        cases index with
        | zero => rfl
        | succ index => exact ih index
      · rw [if_neg isComma, if_neg (by simpa using isComma)]
        rcases List.exists_cons_of_ne_nil (List.splitOn_ne_nil comma rest) with
          ⟨field, fields, cut⟩
        rw [cut] at ih ⊢
        cases found : fieldsOf rest with
        | nil =>
            rw [found] at ih
            have empty : [] = field := ih 0
            cases index with
            | zero => exact congrArg (byte :: ·) empty
            | succ index => exact ih (index + 1)
        | cons first others =>
            rw [found] at ih
            have same : first = field := ih 0
            cases index with
            | zero => exact congrArg (byte :: ·) same
            | succ index => exact ih (index + 1)

/-- For every sentence, `nmea_tokenizer_get` returns its fields up to the limit and then empty
tokens; what stands beyond the limit has no influence. -/
theorem tokens_are_fields (sentence : List UInt8) : TokensAreFields (fun _ => true) sentence := by
  intro index
  have token : (nmeaTokenizerAt (nmeaTokenizerInit sentence) index).text =
      if index < 0 then []
      else ((fieldsOf (sentenceBody sentence)).take maxNmeaTokens).getD index.toNat [] := by
    unfold nmeaTokenizerAt nmeaTokenizerGet
    rw [List.getD_eq_getElem?_getD]
    by_cases negative : index < 0
    · rw [if_pos (Or.inl negative), if_pos negative]
    · rw [if_neg negative]
      by_cases beyond : ((nmeaTokenizerInit sentence).tokens.length : Int) ≤ index
      · have outside : (nmeaTokenizerInit sentence).tokens.length ≤ index.toNat := by omega
        rw [if_pos (Or.inr beyond)]
        exact congrArg (Option.getD · []) (List.getElem?_eq_none outside).symm
      · rw [if_neg (not_or.mpr ⟨negative, beyond⟩)]
        rw [nmeaTokenizerInit]
        dsimp only
        cases ((fieldsOf (sentenceBody sentence)).take maxNmeaTokens)[index.toNat]? <;> rfl
  have body : sentenceBody sentence =
      withoutChecksum (fun _ => true) (withoutLineEnd (dropDollar sentence)) := by
    rw [sentenceBody, dropNewline_eq, dropChecksum_eq]
  rw [token, body, sentenceFields]
  by_cases within : index.toNat < maxNmeaTokens
  · simp only [List.getD_eq_getElem?_getD, List.getElem?_take_of_lt within]
    simp only [← List.getD_eq_getElem?_getD, getD_fieldsOf]
  · simp [List.getD_eq_getElem?_getD, within]

/-- A star two bytes before the end takes the last fields away, where no checksum is. -/
theorem tokens_not_fields : ¬ ∀ sentence, TokensAreFields isHexDigit sentence := by
  intro exact
  -- "$GPTXT,*,A\n" has the fields "GPTXT", "*" and "A"
  have second := exact [36, 71, 80, 84, 88, 84, 44, 42, 44, 65, 10] 2
  revert second
  decide +kernel

end X3Hal.Gps
