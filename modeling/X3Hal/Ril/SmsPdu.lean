import X3Hal.Ril.ModemPayload

/-!
# PDUs of text messages

The modem sends a PDU as a string of hexadecimal digits.  `convertHexStringToBytes` writes each
byte twice into a buffer of as many bytes as there are digits, and the handlers pass the first
half on.
-/

namespace X3Hal.Ril

open X3Hal.Memory
open X3Hal.Gps (wrap32 wrap32_natCast_le isHexDigit digitValue)

/-! ## The handlers -/

/-- 16 is `INVALID_HEX_CHAR`. -/
def hexCharToInt (c : UInt8) : UInt8 :=
  if 48 ≤ c ∧ c ≤ 57 then c - 48
  else if 65 ≤ c ∧ c ≤ 70 then c - 65 + 10
  else if 97 ≤ c ∧ c ≤ 102 then c - 97 + 10
  else 16

/-- The loop over so many pairs from the index `i`; `none` where a digit is invalid -/
def convertPairs (hexString : List UInt8) (responseLen : Nat) :
    Nat → Nat → List UInt8 → Checked (Option (List UInt8))
  | 0, _, bytes => pure (some bytes)
  | pairs + 1, i, bytes => do
      let hexChar1 := hexCharToInt (← element hexString i)
      let hexChar2 := hexCharToInt (← element hexString (i + 1))
      if hexChar1 = 16 ∨ hexChar2 = 16 then pure none
      else
        let byte := (hexChar1 <<< 4) ||| hexChar2
        let once ← update bytes (i / 2) byte
        let twice ← update once ((responseLen + i) / 2) byte
        convertPairs hexString responseLen pairs (i + 2) twice

/-- `calloc` is the size for which there is memory. -/
def convertHexStringToBytes (calloc : Nat → Bool) (response : List UInt8) (responseLen : Nat) :
    Checked (Option (List UInt8)) :=
  if responseLen % 2 ≠ 0 then pure none
  else if calloc responseLen then
    convertPairs response responseLen (responseLen / 2) 0 (List.replicate responseLen 0)
  else pure none

/-- The PDU that the framework gets, if any -/
def deliverPdu (calloc : Nat → Bool) (response : Option (List UInt8)) (responseLen : Nat) :
    Checked (Option (List UInt8)) :=
  match response with
  | none => pure none
  | some memory =>
      if responseLen = 0 then pure none
      else do
        let pduLen := wrap32 ((← stringAt memory).length : Int)
        -- the conversion takes a `size_t`
        match ← convertHexStringToBytes calloc memory (pduLen % 2 ^ 64).toNat with
        | none => pure none
        | some bytes => do
            let pdu ← front bytes (← vectorSize (pduLen.tdiv 2))
            pure (some pdu)

def newSmsInd := deliverPdu

def newSmsStatusReportInd := deliverPdu

/-! ## What the string says -/

def hexDigit (c : UInt8) : Option Nat :=
  if isHexDigit c then some (digitValue c) else none

/-- The bytes of pairs of hexadecimal digits; `none` for a digit without another one and for other
characters -/
def hexBytes : List UInt8 → Option (List UInt8)
  | [] => some []
  | [_] => none
  | first :: second :: rest => do
      let high ← hexDigit first
      let low ← hexDigit second
      let bytes ← hexBytes rest
      some (UInt8.ofNat (16 * high + low) :: bytes)

theorem length_of_hexBytes {text pdu : List UInt8} (denotes : hexBytes text = some pdu) :
    text.length = 2 * pdu.length := by
  induction text using hexBytes.induct generalizing pdu with
  | case1 =>
      cases denotes
      rfl
  | case2 => cases denotes
  | case3 first second rest ih =>
      simp only [hexBytes, Option.bind_eq_bind, Option.bind_eq_some_iff] at denotes
      obtain ⟨high, -, low, -, bytes, isBytes, same⟩ := denotes
      cases same
      simp only [List.length_cons, ih isBytes]
      omega

/-- A character is a digit of the value that the code gives it, or an invalid one. -/
theorem hexDigit_eq (c : UInt8) :
    hexDigit c = if hexCharToInt c = 16 then none else some (hexCharToInt c).toNat := by
  revert c
  apply forall_byte
  decide +kernel

theorem hexCharToInt_lt {c : UInt8} : hexCharToInt c ≠ 16 → (hexCharToInt c).toNat < 16 := by
  revert c
  apply forall_byte
  decide +kernel

theorem digits_joined {high low : UInt8} (highLt : high.toNat < 16) (lowLt : low.toNat < 16) :
    (high <<< 4) ||| low = UInt8.ofNat (16 * high.toNat + low.toNat) := by
  have joined : ∀ first second : Fin 16,
      (UInt8.ofNat first <<< 4) ||| UInt8.ofNat second = UInt8.ofNat (16 * first + second) := by
    decide +kernel
  have both := joined ⟨high.toNat, highLt⟩ ⟨low.toNat, lowLt⟩
  simpa using both

/-! ## The conversion -/

/-- The buffer while the loop runs: what is converted stands at the front of each half. -/
def halves (converted : List UInt8) (pairs : Nat) : List UInt8 :=
  (converted ++ List.replicate pairs 0) ++ (converted ++ List.replicate pairs 0)

theorem set_front (converted : List UInt8) (pairs : Nat) (byte : UInt8) :
    (converted ++ List.replicate (pairs + 1) 0).set converted.length byte =
      (converted ++ [byte]) ++ List.replicate pairs 0 := by
  rw [List.set_append_right _ _ le_rfl, Nat.sub_self, List.replicate_succ, List.set_cons_zero,
    List.append_assoc]
  rfl

theorem length_half (converted : List UInt8) (pairs : Nat) :
    (converted ++ List.replicate pairs 0).length = converted.length + pairs := by
  rw [List.length_append, List.length_replicate]

/-- The first write of a round is in the first half. -/
theorem update_first (converted : List UInt8) (pairs : Nat) (byte : UInt8) :
    update (halves converted (pairs + 1)) converted.length byte =
      .ok (((converted ++ [byte]) ++ List.replicate pairs 0) ++
        (converted ++ List.replicate (pairs + 1) 0)) := by
  have half := length_half converted (pairs + 1)
  rw [update, halves, if_pos (by rw [List.length_append, half]; omega),
    List.set_append_left _ _ (by omega), set_front]

/-- The second write is at the same place of the second half. -/
theorem update_second (converted : List UInt8) (pairs : Nat) (byte : UInt8) :
    update (((converted ++ [byte]) ++ List.replicate pairs 0) ++
        (converted ++ List.replicate (pairs + 1) 0)) (2 * converted.length + pairs + 1) byte =
      .ok (halves (converted ++ [byte]) pairs) := by
  have half := length_half converted (pairs + 1)
  have firstHalf : ((converted ++ [byte]) ++ List.replicate pairs 0).length =
      converted.length + 1 + pairs := by
    rw [length_half, List.length_append, List.length_singleton]
  have behind : 2 * converted.length + pairs + 1 - (converted.length + 1 + pairs) =
      converted.length := by omega
  rw [update, if_pos (by rw [List.length_append, half, firstHalf]; omega),
    List.set_append_right _ _ (by omega), firstHalf, behind, set_front]
  rfl

/-- The loop converts the pairs that are left. -/
theorem convertPairs_eq (before rest after converted : List UInt8) (pairs : Nat)
    (place : before.length = 2 * converted.length) (left : rest.length = 2 * pairs) :
    convertPairs (before ++ rest ++ after) (before.length + rest.length) pairs before.length
        (halves converted pairs) =
      .ok ((hexBytes rest).map fun more => halves (converted ++ more) 0) := by
  induction pairs generalizing before rest converted with
  | zero =>
      obtain rfl := List.length_eq_zero_iff.mp left
      simp [convertPairs, hexBytes, pure, Except.pure]
  | succ pairs ih =>
      match rest, left with
      | first :: second :: rest, left =>
          have later : rest.length = 2 * pairs := by
            simp only [List.length_cons] at left
            omega
          have readFirst : (before ++ first :: second :: rest ++ after)[before.length]? =
              some first := by simp
          have readSecond : (before ++ first :: second :: rest ++ after)[before.length + 1]? =
              some second := by simp
          rw [convertPairs, element_eq readFirst, ok_bind, element_eq readSecond, ok_bind,
            hexBytes, hexDigit_eq, hexDigit_eq]
          by_cases firstInvalid : hexCharToInt first = 16
          · simp [firstInvalid, pure, Except.pure]
          · by_cases secondInvalid : hexCharToInt second = 16
            · simp [secondInvalid, pure, Except.pure]
            · have joined := digits_joined (hexCharToInt_lt firstInvalid)
                (hexCharToInt_lt secondInvalid)
              have firstPlace : before.length / 2 = converted.length := by omega
              have secondPlace : (before.length + (first :: second :: rest).length +
                  before.length) / 2 = 2 * converted.length + pairs + 1 := by
                rw [left]
                omega
              have sameText : before ++ first :: second :: rest ++ after =
                  before ++ [first, second] ++ rest ++ after := by simp
              have sameLength : before.length + (first :: second :: rest).length =
                  (before ++ [first, second]).length + rest.length := by
                simp only [List.length_append, List.length_cons, List.length_nil]
                omega
              have nextPlace : before.length + 2 = (before ++ [first, second]).length := by simp
              rw [if_neg (not_or.mpr ⟨firstInvalid, secondInvalid⟩), if_neg firstInvalid,
                if_neg secondInvalid, firstPlace, secondPlace, joined]
              dsimp only
              rw [update_first, ok_bind, update_second, ok_bind, sameText, sameLength, nextPlace,
                ih _ _ _ (by simp; omega) later]
              cases hexBytes rest <;> simp

section Delivered

variable {calloc : Nat → Bool} {text : List UInt8}

theorem convertHexStringToBytes_eq (given : calloc text.length = true) (after : List UInt8) :
    convertHexStringToBytes calloc (text ++ after) text.length =
      .ok ((hexBytes text).map fun pdu => pdu ++ pdu) := by
  unfold convertHexStringToBytes
  by_cases odd : text.length % 2 ≠ 0
  · have none : hexBytes text = none := by
      cases denotes : hexBytes text with
      | none => rfl
      | some pdu =>
          have length := length_of_hexBytes denotes
          omega
    rw [if_pos odd, none]
    rfl
  · have pairs : text.length = 2 * (text.length / 2) := by omega
    have buffer : List.replicate text.length (0 : UInt8) = halves [] (text.length / 2) := by
      rw [halves, List.nil_append, ← List.replicate_add]
      congr 1
      omega
    have converts := convertPairs_eq [] text after [] (text.length / 2) rfl pairs
    simp only [List.nil_append, List.length_nil, Nat.zero_add] at converts
    rw [if_neg odd, if_pos given, buffer, converts]
    simp [halves]

theorem stringAt_eq (nonzero : 0 ∉ text) (rest : List UInt8) :
    stringAt (text ++ 0 :: rest) = .ok text := by
  rw [stringAt, if_pos (by simp), takeWhile_nul nonzero]

/-- What is delivered: the length that the code goes by is an `int`. -/
theorem deliverPdu_eq (enough : ∀ size < 2 ^ 31, calloc size = true)
    (tooMuch : ∀ size, 2 ^ 63 ≤ size → calloc size = false) (nonzero : 0 ∉ text)
    (rest : List UInt8) {responseLen : Nat} (given : 0 < responseLen) :
    deliverPdu calloc (some (text ++ 0 :: rest)) responseLen =
      .ok (if wrap32 (text.length : Int) < 0 then none
        else hexBytes (text.take (wrap32 (text.length : Int)).toNat)) := by
  have atMost := wrap32_natCast_le text.length
  have below : wrap32 (text.length : Int) < 2 ^ 31 :=
    @Int.bmod_lt (text.length : Int) (2 ^ 32) (by decide)
  have above : -2 ^ 31 ≤ wrap32 (text.length : Int) :=
    @Int.le_bmod (text.length : Int) (2 ^ 32) (by decide)
  unfold deliverPdu
  dsimp only
  rw [if_neg (Nat.pos_iff_ne_zero.mp given), stringAt_eq nonzero, ok_bind]
  generalize wrap32 (text.length : Int) = pduLen at atMost below above ⊢
  by_cases negative : pduLen < 0
  · have huge : calloc (pduLen % 2 ^ 64).toNat = false := tooMuch _ (by omega)
    rw [if_pos negative, convertHexStringToBytes]
    split
    case isTrue => rfl
    case isFalse =>
      rw [if_neg (by rw [huge]; decide)]
      rfl
  · obtain ⟨count, rfl⟩ := Int.eq_ofNat_of_zero_le (Int.not_lt.mp negative)
    have whole : ((count : Int) % 2 ^ 64).toNat = count := by omega
    have taken : (text.take count).length = count := List.length_take_of_le (by omega)
    have parts : text ++ 0 :: rest = text.take count ++ (text.drop count ++ 0 :: rest) := by
      rw [← List.append_assoc, List.take_append_drop]
    have given : calloc (text.take count).length = true := enough _ (by rw [taken]; omega)
    have converts := convertHexStringToBytes_eq given (text.drop count ++ 0 :: rest)
    rw [← parts, taken] at converts
    rw [whole, converts, ok_bind, if_neg negative, Int.toNat_natCast]
    cases denotes : hexBytes (text.take count) with
    | none => rfl
    | some pdu =>
        have length := length_of_hexBytes denotes
        have half : (count : Int).tdiv 2 = (pdu.length : Nat) := by
          rw [show pdu.length = count / 2 by omega]
          exact (Int.ofNat_tdiv count 2).symm
        have size : vectorSize (pdu.length : Int) = .ok pdu.length := if_neg (by omega)
        have read : front (pdu ++ pdu) (pdu.length : Int) = .ok pdu := by
          rw [front, if_pos (by rw [List.length_append]; omega), Int.toNat_natCast, List.take_left]
        rw [Option.map_some]
        dsimp only
        rw [half, size, ok_bind, read]
        rfl

/-- Both handlers deliver the bytes that the string denotes, if it denotes any. -/
def DeliversPdu (calloc : Nat → Bool) (text rest : List UInt8) (responseLen : Nat) : Prop :=
  newSmsInd calloc (some (text ++ 0 :: rest)) responseLen = .ok (hexBytes text) ∧
    newSmsStatusReportInd calloc (some (text ++ 0 :: rest)) responseLen = .ok (hexBytes text)

/-- A string of so many characters is not cut, or it denotes nothing and neither does what is left
of it. -/
def ReadWhole (text : List UInt8) : Prop :=
  text.length < 2 ^ 31 ∨ (hexBytes text = none ∧
    (0 ≤ wrap32 (text.length : Int) →
      hexBytes (text.take (wrap32 (text.length : Int)).toNat) = none))

theorem deliversPdu_iff (enough : ∀ size < 2 ^ 31, calloc size = true)
    (tooMuch : ∀ size, 2 ^ 63 ≤ size → calloc size = false) (nonzero : 0 ∉ text)
    (rest : List UInt8) {responseLen : Nat} (given : 0 < responseLen) :
    DeliversPdu calloc text rest responseLen ↔ ReadWhole text := by
  have delivers := deliverPdu_eq enough tooMuch nonzero rest given
  unfold DeliversPdu ReadWhole newSmsInd newSmsStatusReportInd
  rw [delivers, and_self, Except.ok.injEq]
  by_cases fits : text.length < 2 ^ 31
  · have exact : wrap32 (text.length : Int) = text.length :=
      Int.bmod_eq_of_le_mul_two (by omega) (by omega)
    rw [exact, if_neg (by omega), Int.toNat_natCast, List.take_length]
    exact iff_of_true rfl (Or.inl fits)
  · have below : wrap32 (text.length : Int) < 2 ^ 31 :=
      @Int.bmod_lt (text.length : Int) (2 ^ 32) (by decide)
    generalize wrap32 (text.length : Int) = pduLen at below ⊢
    rw [or_iff_right fits]
    by_cases negative : pduLen < 0
    · rw [if_pos negative, eq_comm]
      exact (and_iff_left fun nonneg => absurd negative (Int.not_lt.mpr nonneg)).symm
    · rw [if_neg negative]
      constructor
      · intro same
        cases denotes : hexBytes text with
        | none => exact ⟨rfl, fun _ => same.trans denotes⟩
        | some pdu =>
            -- a part of the string has too few digits for all of its bytes
            have all := length_of_hexBytes denotes
            have part := length_of_hexBytes (same.trans denotes)
            have atMost := List.length_take_le pduLen.toNat text
            omega
      · rintro ⟨none, cut⟩
        rw [none, cut (Int.not_lt.mp negative)]

end Delivered

/-- A PDU of two bytes -/
theorem deliversPdu_iff_twoBytes :
    DeliversPdu (fun size => size < 2 ^ 63) (ascii "07fA") [] 5 ↔ ReadWhole (ascii "07fA") :=
  deliversPdu_iff (by intro size small; exact decide_eq_true (by omega))
    (by intro size large; exact decide_eq_false (by omega)) (by decide) [] (by decide)

/-- Of four billion digits and two more, the first two are delivered. -/
theorem deliversPdu_cut :
    ¬ DeliversPdu (fun size => size < 2 ^ 63) (List.replicate (2 ^ 32 + 2) 48) []
      (2 ^ 32 + 3) := by
  generalize isCount : 2 ^ 32 + 2 = count
  rintro ⟨delivered, -⟩
  have nonzero : 0 ∉ List.replicate count (48 : UInt8) := by
    intro among
    exact absurd (List.eq_of_mem_replicate among) (by decide)
  have two : wrap32 ((List.replicate count (48 : UInt8)).length : Int) = 2 := by
    rw [List.length_replicate, ← isCount]
    decide
  have digits : (List.replicate count (48 : UInt8)).take (2 : Int).toNat = [48, 48] := by
    rw [List.take_replicate, Nat.min_eq_left (by omega)]
    rfl
  rw [newSmsInd, deliverPdu_eq (by intro size small; exact decide_eq_true (by omega))
    (by intro size large; exact decide_eq_false (by omega)) nonzero [] (by decide), two, digits,
    if_neg (by decide)] at delivered
  have one : hexBytes [48, 48] = some [0] := by decide
  have length := length_of_hexBytes ((Except.ok.inj delivered).symm.trans one)
  rw [List.length_replicate, List.length_singleton] at length
  omega

end X3Hal.Ril
