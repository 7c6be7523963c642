import Mathlib.Data.List.Basic

/-!
# The NMEA tokenizer

`nmea_tokenizer_init` cuts a sentence into at most `MAX_NMEA_TOKENS` fields and
`nmea_tokenizer_get` returns one of them.  A field is the list of its bytes.
-/

namespace X3Hal.Gps

/-- `MAX_NMEA_TOKENS` -/
def maxNmeaTokens : Nat := 24

def comma : UInt8 := 44

/-- The bytes from `p` to `end`, and the byte that `p[0]` reads when there are none. -/
structure Token where
  text : List UInt8
  next : UInt8
  deriving DecidableEq, Repr

/-- `tok.p[0]` -/
def Token.first (token : Token) : UInt8 :=
  token.text.headD token.next

/-- The fields cut out of a sentence, never more than the table holds. -/
structure NmeaTokenizer where
  tokens : List (List UInt8)
  bound : tokens.length ≤ maxNmeaTokens

/-- The loop of `nmea_tokenizer_init`.  A comma at the very end starts no field. -/
def fieldsOf : List UInt8 → List (List UInt8)
  | [] => []
  | byte :: rest =>
      if byte = comma then [] :: fieldsOf rest
      else
        match fieldsOf rest with
        | [] => [[byte]]
        | field :: fields => (byte :: field) :: fields

/-- Remove the initial `'$'`. -/
def dropDollar : List UInt8 → List UInt8
  | 36 :: rest => rest
  | text => text

/-- Remove the last byte where it is the given one. -/
def dropLastByte (byte : UInt8) (text : List UInt8) : List UInt8 :=
  if text.getLast? = some byte then text.dropLast else text

/-- Remove the trailing newline, and a carriage return before it. -/
def dropNewline (text : List UInt8) : List UInt8 :=
  if text.getLast? = some 10 then dropLastByte 13 text.dropLast else text

/-- Remove the checksum at the end of the sentence. -/
def dropChecksum (text : List UInt8) : List UInt8 :=
  if 3 ≤ text.length ∧ text[text.length - 3]? = some 42 then text.take (text.length - 3) else text

/-- The part of a sentence that holds its fields. -/
def sentenceBody (sentence : List UInt8) : List UInt8 :=
  dropChecksum (dropNewline (dropDollar sentence))

/-- `nmea_tokenizer_init` -/
def nmeaTokenizerInit (sentence : List UInt8) : NmeaTokenizer where
  tokens := (fieldsOf (sentenceBody sentence)).take maxNmeaTokens
  bound := List.length_take_le _ _

/-- `nmea_tokenizer_get`: an empty field of the sentence is followed by its comma, the
dummy by the end of a string. -/
def nmeaTokenizerGet (tokenizer : NmeaTokenizer) (index : Nat) : Token :=
  match tokenizer.tokens[index]? with
  | none => ⟨[], 0⟩
  | some text => ⟨text, comma⟩

/-! ## Sentences put together from fields -/

/-- Fields with a comma between each two. -/
def joinFields : List (List UInt8) → List UInt8
  | [] => []
  | [field] => field
  | field :: next :: rest => field ++ comma :: joinFields (next :: rest)

@[simp]
theorem fieldsOf_nil : fieldsOf [] = [] :=
  rfl

@[simp]
theorem fieldsOf_comma_cons (rest : List UInt8) :
    fieldsOf (comma :: rest) = [] :: fieldsOf rest := by
  simp [fieldsOf]

/-- A field without commas comes first, when a comma follows it. -/
theorem fieldsOf_append_comma {field : List UInt8} (noComma : comma ∉ field) (rest : List UInt8) :
    fieldsOf (field ++ comma :: rest) = field :: fieldsOf rest := by
  induction field with
  | nil => simp
  | cons byte field ih =>
      simp only [List.mem_cons, not_or] at noComma
      rw [List.cons_append, fieldsOf, if_neg (Ne.symm noComma.1), ih noComma.2]

/-- A last field without commas is a field unless it is empty. -/
theorem fieldsOf_of_not_mem {field : List UInt8} (noComma : comma ∉ field) :
    fieldsOf field = if field = [] then [] else [field] := by
  induction field with
  | nil => rfl
  | cons byte field ih =>
      simp only [List.mem_cons, not_or] at noComma
      rw [fieldsOf, if_neg (Ne.symm noComma.1), ih noComma.2, if_neg (List.cons_ne_nil _ _)]
      cases field <;> rfl

/-- Each field of a joined sentence is found at its index. -/
theorem fieldsOf_joinFields {fields : List (List UInt8)}
    (noComma : ∀ field ∈ fields, comma ∉ field)
    (index : Nat) : (fieldsOf (joinFields fields)).getD index [] = fields.getD index [] := by
  induction fields generalizing index with
  | nil => rfl
  | cons field fields ih =>
      have first : comma ∉ field := noComma field List.mem_cons_self
      have others : ∀ other ∈ fields, comma ∉ other :=
        fun other member => noComma other (List.mem_cons_of_mem _ member)
      cases fields with
      | nil =>
          rw [joinFields, fieldsOf_of_not_mem first]
          split
          · rename_i empty
            cases index <;> simp [empty]
          · rfl
      | cons next rest =>
          rw [joinFields, fieldsOf_append_comma first]
          cases index with
          | zero => rfl
          | succ index => simpa using ih others index

/-- `nmea_tokenizer_get` finds the fields that the table holds. -/
theorem text_nmeaTokenizerGet {sentence : List UInt8} {fields : List (List UInt8)}
    (body : sentenceBody sentence = joinFields fields)
    (noComma : ∀ field ∈ fields, comma ∉ field) {index : Nat} (within : index < maxNmeaTokens) :
    (nmeaTokenizerGet (nmeaTokenizerInit sentence) index).text = fields.getD index [] := by
  rw [← fieldsOf_joinFields noComma index, ← body]
  simp only [nmeaTokenizerGet, nmeaTokenizerInit, List.getElem?_take_of_lt within,
    List.getD_eq_getElem?_getD]
  cases (fieldsOf (sentenceBody sentence))[index]? <;> rfl

end X3Hal.Gps
