import X3Hal.Gps.Constellation

/-!
# The arithmetic of GSV sentences

`str2int` and the loop over the satellites of a GSV sentence compute in an `int`, whose
overflow is undefined.  Here the same computations stop at an overflow.  They go through
exactly when the fields denote numbers that are small enough, and the tokens that they
ask for are the sentence's when the sentence is as long as it says.
-/

namespace X3Hal.Gps

/-! ## An `int` that must not overflow -/

/-- The values of an `int`. -/
def FitsInt (value : Int) : Prop :=
  -2 ^ 31 ≤ value ∧ value < 2 ^ 31

instance (value : Int) : Decidable (FitsInt value) :=
  inferInstanceAs (Decidable (_ ∧ _))

/-- The value of an `int` expression; `none` is an overflow. -/
def withoutOverflow (value : Int) : Option Int :=
  if FitsInt value then some value else none

@[simp]
theorem withoutOverflow_eq_some_iff {value result : Int} :
    withoutOverflow value = some result ↔ FitsInt value ∧ value = result := by
  simp [withoutOverflow]

theorem withoutOverflow_of_fitsInt {value : Int} (fits : FitsInt value) :
    withoutOverflow value = some value :=
  if_pos fits

theorem wrap32_of_fitsInt {value : Int} (fits : FitsInt value) : wrap32 value = value := by
  rw [wrap32, Int.bmod_eq_of_le_mul_two]
  · have least := fits.1
    omega
  · have greatest := fits.2
    omega

/-! ## `str2int` -/

/-- The sign that `str2int` tests for, and what follows it. -/
def readMinus : List UInt8 → Bool × List UInt8
  | 45 :: rest => (true, rest)
  | text => (false, text)

/-- The loop of `str2int` up to an overflow, the outer `none`.  The inner one is the jump to
`Fail`. -/
def accumulateExactly : Int → List UInt8 → Option (Option Int)
  | result, [] => some (some result)
  | result, byte :: rest =>
      if isDigit byte then do
        let shifted ← withoutOverflow (result * 10)
        let next ← withoutOverflow (shifted + (byte.toNat - 48))
        accumulateExactly next rest
      else some none

/-- `str2int` up to an overflow. -/
def str2intExactly (text : List UInt8) : Option Int :=
  let signed := readMinus text
  let sign : Int := if signed.1 then -1 else 1
  (accumulateExactly 0 signed.2).bind fun
    | none => some (-1)
    | some result => withoutOverflow (sign * result)

theorem accumulateDigits_of_exactly {result : Int} {text : List UInt8} {outcome : Option Int}
    (exactly : accumulateExactly result text = some outcome) :
    accumulateDigits result text = outcome := by
  induction text generalizing result with
  | nil => exact Option.some.inj exactly
  | cons byte rest ih =>
      rw [accumulateExactly] at exactly
      rw [accumulateDigits]
      by_cases digit : isDigit byte
      · rw [if_pos digit] at exactly ⊢
        rcases Option.bind_eq_some_iff.mp exactly with ⟨shifted, isShifted, afterShift⟩
        rcases Option.bind_eq_some_iff.mp afterShift with ⟨next, isNext, afterNext⟩
        rw [withoutOverflow_eq_some_iff] at isShifted isNext
        rw [isShifted.2, wrap32_of_fitsInt isNext.1, isNext.2]
        exact ih afterNext
      · rw [if_neg digit] at exactly ⊢
        exact Option.some.inj exactly

theorem str2int_eq (text : List UInt8) :
    str2int text =
      if (readMinus text).1 then
        (accumulateDigits 0 (readMinus text).2).elim (-1) fun result => wrap32 (-result)
      else (accumulateDigits 0 (readMinus text).2).getD (-1) := by
  fun_cases str2int text with
  | case1 rest => rfl
  | case2 text notMinus =>
      rw [readMinus]
      · rfl
      · exact notMinus

/-- Where nothing overflows, `str2int` returns what it computes without wrapping. -/
theorem str2int_of_exactly {text : List UInt8} {value : Int}
    (exactly : str2intExactly text = some value) : str2int text = value := by
  rcases Option.bind_eq_some_iff.mp exactly with ⟨outcome, accumulated, returned⟩
  rw [str2int_eq, accumulateDigits_of_exactly accumulated]
  cases outcome with
  | none =>
      rw [← Option.some.inj returned]
      exact ite_self (-1)
  | some result =>
      rw [withoutOverflow_eq_some_iff] at returned
      rcases returned with ⟨fits, isValue⟩
      by_cases negative : (readMinus text).1
      · rw [if_pos negative, neg_one_mul] at fits isValue
        rw [if_pos negative, Option.elim_some, wrap32_of_fitsInt fits]
        exact isValue
      · rw [if_neg negative, one_mul] at isValue
        rw [if_neg negative]
        exact isValue

/-! ## The number that a field denotes -/

/-- The number in a field; `blank` is what a field without a digit denotes, if anything. -/
def fieldNumber (blank : Option Int) (text : List UInt8) : Option Int :=
  if (readMinus text).2 = [] then blank else decimalOf text

/-- The number in a field, or the error value of `str2int` where there is none. -/
def numberOf (blank : Option Int) (text : List UInt8) : Int :=
  (fieldNumber blank text).getD (-1)

/-- `str2int` returns the number in the field or its error value, and nothing overflows. -/
def Str2intExact (blank : Option Int) (text : List UInt8) : Prop :=
  str2intExactly text = some (numberOf blank text)

/-- The digits that the loop of `str2int` comes to are those of an `int`.  Without a digit it
returns 0. -/
def FieldFits (blank : Option Int) (text : List UInt8) : Prop :=
  digitsValue 10 ((readMinus text).2.takeWhile isDigit) < 2 ^ 31 ∧
    ((readMinus text).2 = [] → blank = some 0)

instance (blank : Option Int) (text : List UInt8) : Decidable (FieldFits blank text) :=
  inferInstanceAs (Decidable (_ ∧ _))

/-- Go on from a value with more digits. -/
def appendDigits (value : Nat) (digits : List UInt8) : Nat :=
  digits.foldl (fun value byte => value * 10 + digitValue byte) value

theorem le_appendDigits (value : Nat) (digits : List UInt8) :
    value ≤ appendDigits value digits := by
  induction digits generalizing value with
  | nil => exact le_rfl
  | cons byte rest ih =>
      have first : value ≤ value * 10 + digitValue byte := by omega
      exact first.trans (ih _)

section Step

variable {result : Nat} {byte : UInt8} (digit : isDigit byte = true) (rest : List UInt8)

include digit

/-- A turn of the loop of `str2int` takes a digit. -/
theorem accumulateExactly_of_lt (fits : result * 10 + digitValue byte < 2 ^ 31) :
    accumulateExactly result (byte :: rest) =
      accumulateExactly ((result * 10 + digitValue byte : Nat) : Int) rest := by
  have shifted : FitsInt ((result : Int) * 10) := by
    unfold FitsInt
    omega
  have added : FitsInt ((result : Int) * 10 + digitValue byte) := by
    unfold FitsInt
    omega
  rw [accumulateExactly, if_pos digit, toNat_sub_eq_digitValue digit,
    withoutOverflow_of_fitsInt shifted, Option.bind_eq_bind, Option.bind_some,
    withoutOverflow_of_fitsInt added, Option.bind_some]
  push_cast
  rfl

/-- A digit too many overflows in one of the two operations. -/
theorem accumulateExactly_of_le (overflows : 2 ^ 31 ≤ result * 10 + digitValue byte) :
    accumulateExactly result (byte :: rest) = none := by
  rw [accumulateExactly, if_pos digit, toNat_sub_eq_digitValue digit, Option.bind_eq_bind,
    Option.bind_eq_none_iff]
  intro shifted isShifted
  rw [withoutOverflow_eq_some_iff] at isShifted
  have tooLarge : ¬FitsInt (shifted + digitValue byte) := by
    unfold FitsInt
    omega
  rw [withoutOverflow, if_neg tooLarge]
  rfl

end Step

/-- The loop overflows exactly when the digits up to the first other byte are too many. -/
theorem accumulateExactly_eq {result : Nat} (fits : result < 2 ^ 31) (text : List UInt8) :
    accumulateExactly result text =
      if appendDigits result (text.takeWhile isDigit) < 2 ^ 31 then
        some (if text.all isDigit then some ((appendDigits result text : Nat) : Int) else none)
      else none := by
  induction text generalizing result with
  | nil =>
      rw [List.takeWhile_nil, if_pos (by exact fits)]
      rfl
  | cons byte rest ih =>
      by_cases digit : isDigit byte
      · rw [List.takeWhile_cons_of_pos digit, List.all_cons, digit, Bool.true_and]
        change _ =
          if appendDigits (result * 10 + digitValue byte) (rest.takeWhile isDigit) < 2 ^ 31
          then some (if rest.all isDigit then
            some ((appendDigits (result * 10 + digitValue byte) rest : Nat) : Int) else none)
          else none
        by_cases next : result * 10 + digitValue byte < 2 ^ 31
        · rw [accumulateExactly_of_lt digit rest next]
          exact ih next
        · have grows := le_appendDigits (result * 10 + digitValue byte) (rest.takeWhile isDigit)
          rw [accumulateExactly_of_le digit rest (not_lt.mp next), if_neg (by omega)]
      · rw [accumulateExactly, if_neg digit, List.takeWhile_cons_of_neg digit, List.all_cons,
          if_pos (by exact fits)]
        simp [digit]

theorem decimalOf_eq (text : List UInt8) :
    decimalOf text =
      if (readMinus text).2 ≠ [] ∧ (readMinus text).2.all isDigit then
        some ((if (readMinus text).1 then -1 else 1) * (digitsValue 10 (readMinus text).2 : Int))
      else none := by
  fun_cases decimalOf text with
  | case1 digits isNumber => rw [readMinus, if_pos isNumber, if_pos rfl, neg_one_mul]
  | case2 digits noNumber => rw [readMinus, if_neg noNumber]
  | case3 text notMinus isNumber =>
      rw [readMinus, if_pos isNumber, if_neg Bool.false_ne_true, one_mul]
      exact notMinus
  | case4 text notMinus noNumber =>
      rw [readMinus, if_neg noNumber]
      exact notMinus

/-- Without an overflow `str2int` returns the number in the field, where no digits are 0. -/
theorem str2intExactly_eq (text : List UInt8) :
    str2intExactly text =
      if digitsValue 10 ((readMinus text).2.takeWhile isDigit) < 2 ^ 31 then
        some (numberOf (some 0) text)
      else none := by
  have loop := @accumulateExactly_eq 0 (by decide) (readMinus text).2
  unfold str2intExactly numberOf fieldNumber
  rw [decimalOf_eq]
  generalize readMinus text = signed at loop ⊢
  rcases signed with ⟨negative, digits⟩
  dsimp only at loop ⊢
  rw [← Nat.cast_zero, loop]
  change _ = if appendDigits 0 (digits.takeWhile isDigit) < 2 ^ 31 then _ else none
  by_cases fits : appendDigits 0 (digits.takeWhile isDigit) < 2 ^ 31
  · rw [if_pos fits, if_pos fits, Option.bind_some]
    by_cases all : digits.all isDigit
    · have whole : digits.takeWhile isDigit = digits :=
        List.takeWhile_eq_self_iff.mpr (List.all_eq_true.mp all)
      have number : (if digits = [] then some ((0 : Nat) : Int)
          else if digits ≠ [] ∧ digits.all isDigit then
            some ((if negative then -1 else 1) * (digitsValue 10 digits : Int))
          else none) = some ((if negative then -1 else 1) * (appendDigits 0 digits : Int)) := by
        by_cases empty : digits = []
        · rw [if_pos empty, empty]
          exact congrArg some (mul_zero _).symm
        · rw [if_neg empty, if_pos ⟨empty, all⟩]
          rfl
      rw [whole] at fits
      rw [if_pos all, number, Option.getD_some, withoutOverflow_eq_some_iff]
      refine ⟨?_, rfl⟩
      unfold FitsInt
      split
      · omega
      · omega
    · have nonempty : digits ≠ [] := by
        rintro rfl
        exact all rfl
      rw [if_neg all, if_neg nonempty, if_neg (not_and_of_not_right _ all)]
      rfl
  · rw [if_neg fits, if_neg fits]
    rfl

theorem numberOf_zero_eq_iff (blank : Option Int) (text : List UInt8) :
    numberOf (some 0) text = numberOf blank text ↔
      ((readMinus text).2 = [] → blank = some 0) := by
  unfold numberOf fieldNumber
  by_cases empty : (readMinus text).2 = []
  · rw [if_pos empty, if_pos empty, Option.getD_some, forall_prop_of_true empty]
    cases blank with
    | none => decide
    | some value =>
        constructor
        · intro zero
          exact congrArg some zero.symm
        · intro zero
          exact (Option.some.inj zero).symm
  · rw [if_neg empty, if_neg empty]
    exact iff_of_true rfl fun isEmpty => absurd isEmpty empty

/-- `str2int` is exact on the fields that fit, and on no others. -/
theorem str2intExact_iff (blank : Option Int) (text : List UInt8) :
    Str2intExact blank text ↔ FieldFits blank text := by
  rw [Str2intExact, FieldFits, str2intExactly_eq, ← numberOf_zero_eq_iff]
  split
  case isTrue fits => rw [Option.some_inj, and_iff_right fits]
  case isFalse overflows =>
    constructor
    · intro exact
      exact absurd exact (Option.some_ne_none _).symm
    · rintro ⟨fits, -⟩
      exact absurd fits overflows

theorem fitsInt_of_exactly {text : List UInt8} {value : Int}
    (exactly : str2intExactly text = some value) : FitsInt value := by
  rcases Option.bind_eq_some_iff.mp exactly with ⟨outcome, -, returned⟩
  cases outcome with
  | none =>
      rw [← Option.some.inj returned]
      decide
  | some result =>
      rw [withoutOverflow_eq_some_iff] at returned
      rw [← returned.2]
      exact returned.1

theorem str2int_of_fits {blank : Option Int} {text : List UInt8} (fits : FieldFits blank text) :
    str2int text = numberOf blank text :=
  str2int_of_exactly ((str2intExact_iff blank text).mpr fits)

/-! ## The loop over the satellites -/

/-- `sv_base` and `sv_num` -/
structure GsvWindow where
  svBase : Int
  svNum : Int
  deriving DecidableEq, Repr

/-- `sv_base` and `sv_num` up to an overflow. -/
def GsvHeader.window (header : GsvHeader) : Option GsvWindow := do
  let before ← withoutOverflow (header.seq - 1)
  let svBase ← withoutOverflow (before * nmeaMaxSvInfo)
  let svNum ← withoutOverflow (header.cnt - svBase)
  some ⟨svBase, min svNum nmeaMaxSvInfo⟩

/-- The indices of the tokens that a turn of the loop asks for, and the number it hands the
satellite over with. -/
structure GsvTurn where
  tokens : List Int
  svIndex : Int
  deriving DecidableEq, Repr

/-- A turn of the loop up to an overflow. -/
def GsvWindow.turn (window : GsvWindow) (idx : Nat) : Option GsvTurn := do
  let next ← withoutOverflow (idx + 1)
  let baseIdx ← withoutOverflow (4 * next)
  let tokens ← [baseIdx, baseIdx + 1, baseIdx + 2, baseIdx + 3].mapM withoutOverflow
  let svIndex ← withoutOverflow (window.svBase + idx)
  some ⟨tokens, svIndex⟩

/-- The satellites of the sentences before. -/
def GsvHeader.earlier (header : GsvHeader) : Int :=
  (header.seq - 1) * nmeaMaxSvInfo

/-- The satellites of the sentence and those after it. -/
def GsvHeader.remaining (header : GsvHeader) : Int :=
  header.cnt - header.earlier

/-- The satellites of the sentence. -/
def GsvHeader.inSentence (header : GsvHeader) : Int :=
  min header.remaining nmeaMaxSvInfo

theorem fitsInt_earlier_iff (header : GsvHeader) :
    FitsInt header.earlier ↔ -2 ^ 29 < header.seq ∧ header.seq ≤ 2 ^ 29 := by
  unfold FitsInt GsvHeader.earlier nmeaMaxSvInfo
  omega

theorem window_eq_some_iff {header : GsvHeader} {window : GsvWindow} :
    header.window = some window ↔
      FitsInt header.earlier ∧ FitsInt header.remaining ∧
        window = ⟨header.earlier, header.inSentence⟩ := by
  constructor
  · intro computed
    rcases Option.bind_eq_some_iff.mp computed with ⟨before, isBefore, afterBefore⟩
    rcases Option.bind_eq_some_iff.mp afterBefore with ⟨svBase, isBase, afterBase⟩
    rcases Option.bind_eq_some_iff.mp afterBase with ⟨svNum, isNum, isWindow⟩
    rw [withoutOverflow_eq_some_iff] at isBefore isBase isNum
    rcases isBefore with ⟨-, rfl⟩
    rcases isBase with ⟨baseFits, rfl⟩
    rcases isNum with ⟨numFits, rfl⟩
    exact ⟨baseFits, numFits, (Option.some.inj isWindow).symm⟩
  · rintro ⟨baseFits, numFits, rfl⟩
    have beforeFits : FitsInt (header.seq - 1) := by
      simp only [FitsInt, GsvHeader.earlier, nmeaMaxSvInfo] at baseFits ⊢
      omega
    have numFits : FitsInt (header.cnt - header.earlier) := numFits
    unfold GsvHeader.window
    rw [withoutOverflow_of_fitsInt beforeFits, Option.bind_eq_bind, Option.bind_some]
    change (withoutOverflow header.earlier).bind _ = _
    rw [withoutOverflow_of_fitsInt baseFits, Option.bind_some, withoutOverflow_of_fitsInt numFits]
    rfl

example : (GsvHeader.mk 1 1000000000 4).window = none := by decide

/-- Where nothing overflows, the loop takes the satellites that the wrapping one takes. -/
theorem svNum_of_window {header : GsvHeader} {window : GsvWindow}
    (computed : header.window = some window) : header.svNum = window.svNum := by
  rcases window_eq_some_iff.mp computed with ⟨baseFits, numFits, rfl⟩
  unfold GsvHeader.remaining at numFits
  unfold GsvHeader.earlier at baseFits numFits
  rw [GsvHeader.svNum, wrap32_of_fitsInt baseFits, wrap32_of_fitsInt numFits]
  rfl

theorem mapM_withoutOverflow {values : List Int} (fit : ∀ value ∈ values, FitsInt value) :
    values.mapM withoutOverflow = some values := by
  induction values with
  | nil => rfl
  | cons value rest ih =>
      rw [List.mapM_cons, withoutOverflow_of_fitsInt (fit value List.mem_cons_self),
        ih fun other member => fit other (List.mem_cons_of_mem _ member)]
      rfl

/-- A turn asks for four tokens in a row. -/
theorem turn_eq {header : GsvHeader} (inView : FitsInt header.cnt)
    (baseFits : FitsInt header.earlier) {idx : Nat} (within : idx < header.inSentence.toNat) :
    GsvWindow.turn ⟨header.earlier, header.inSentence⟩ idx =
      some ⟨[4 * (idx + 1), 4 * (idx + 1) + 1, 4 * (idx + 1) + 2, 4 * (idx + 1) + 3],
        header.earlier + idx⟩ := by
  have few : idx < 4 ∧ header.earlier + idx < header.cnt := by
    simp only [GsvHeader.inSentence, GsvHeader.remaining, nmeaMaxSvInfo] at within
    omega
  have next : FitsInt (idx + 1) := by
    unfold FitsInt
    omega
  have baseIdx : FitsInt (4 * (idx + 1)) := by
    unfold FitsInt
    omega
  have tokens : ∀ index ∈ [4 * ((idx : Int) + 1), 4 * (idx + 1) + 1, 4 * (idx + 1) + 2,
      4 * (idx + 1) + 3], FitsInt index := by
    intro index isToken
    simp only [List.mem_cons, List.not_mem_nil, or_false] at isToken
    unfold FitsInt
    omega
  have svIndex : FitsInt (header.earlier + idx) := by
    unfold FitsInt at inView baseFits ⊢
    omega
  unfold GsvWindow.turn
  rw [withoutOverflow_of_fitsInt next, Option.bind_eq_bind, Option.bind_some,
    withoutOverflow_of_fitsInt baseIdx, Option.bind_some, mapM_withoutOverflow tokens,
    Option.bind_eq_bind, Option.bind_some, withoutOverflow_of_fitsInt svIndex, Option.bind_some]

/-- The turns ask for tokens of the sentence when it has those of its satellites. -/
theorem turns_iff {header : GsvHeader} (inView : FitsInt header.cnt)
    (baseFits : FitsInt header.earlier) (count : Nat) :
    (∀ idx < header.inSentence.toNat,
      ∃ turn ∈ GsvWindow.turn ⟨header.earlier, header.inSentence⟩ idx,
        ∀ index ∈ turn.tokens, 0 ≤ index ∧ index < count) ↔
    (0 < header.inSentence → 4 * (header.inSentence + 1) ≤ count) := by
  constructor
  · intro turns some
    have last : header.inSentence.toNat - 1 < header.inSentence.toNat := by omega
    rcases turns _ last with ⟨turn, isTurn, inSentence⟩
    rw [turn_eq inView baseFits last] at isTurn
    rw [← Option.some.inj isTurn] at inSentence
    have greatest := (inSentence (4 * (((header.inSentence.toNat - 1 : Nat) : Int) + 1) + 3)
      (by simp)).2
    omega
  · intro complete idx within
    refine ⟨_, turn_eq inView baseFits within, ?_⟩
    intro index isToken
    simp only [List.mem_cons, List.not_mem_nil, or_false] at isToken
    have enough := complete (by omega)
    omega

/-- A turn stays in the table of tokens, whatever the sentence says of its satellites. -/
theorem turn_within_table {header : GsvHeader} {window : GsvWindow} (inView : FitsInt header.cnt)
    (computed : header.window = some window) {idx : Nat} (within : idx < window.svNum.toNat) :
    ∃ turn ∈ window.turn idx, ∀ index ∈ turn.tokens, 0 ≤ index ∧ index < maxNmeaTokens := by
  rcases window_eq_some_iff.mp computed with ⟨earlier, -, rfl⟩
  have few : header.inSentence ≤ 4 := min_le_right _ _
  apply (turns_iff inView earlier maxNmeaTokens).mpr ?_ idx within
  intro _
  unfold maxNmeaTokens
  omega

/-! ## The fields that the loop reads -/

section Reads

variable (cfg : GpsConfig)

/-- The function that the branch for GSV sentences hands a satellite to. -/
def gsvUpdate : Int → Token → Token → Token → NmeaReader → Parsed :=
  if cfg.gpsMode = 0 then nmeaReaderUpdateSvStatusGnss cfg else nmeaReaderUpdateSvStatusGps cfg

/-- The ids that it does not take. -/
def IgnoredId (id : Int) : Prop :=
  if cfg.gpsMode = 0 then RejectedId cfg id
  else id ≤ 0 ∨ (id < 65 ∧ cfg.gpsMaxSvs < id) ∨ 96 < id

instance (id : Int) : Decidable (IgnoredId cfg id) := by
  unfold IgnoredId
  infer_instance

/-- The size of its table. -/
def tableSize : Int :=
  if cfg.gpsMode = 0 then cfg.gnssMaxSvs else cfg.gpsMaxSvs

/-- The entries of the table from counted sets. -/
def NmeaReader.counted (r : NmeaReader) : Int :=
  if cfg.gpsMode = 0 then r.svStatusGnss.numSvs else r.svStatusGps.numSvs

/-- There is room for more satellites. -/
def NmeaReader.HasRoom (r : NmeaReader) (satellites : Nat) : Prop :=
  r.svCount + satellites ≤ tableSize cfg ∧ r.svCount + r.counted cfg + satellites ≤ tableSize cfg

/-- What the loop over the satellites hands to `str2int`: every id, and the elevation and azimuth
of a satellite whose entry is written. -/
def gsvReads (isBds : Bool) (tzer : NmeaTokenizer) (count : Nat) (r : NmeaReader) :
    List (List UInt8) :=
  (List.range count).flatMap fun idx =>
    let before := (gsvSatellites isBds tzer (gsvUpdate cfg) idx r).1
    let tokId := nmeaTokenizerGet tzer (4 * (idx + 1))
    let tokEle := nmeaTokenizerGet tzer (4 * (idx + 1) + 1)
    let tokAzi := nmeaTokenizerGet tzer (4 * (idx + 1) + 2)
    let tokSnr := nmeaTokenizerGet tzer (4 * (idx + 1) + 3)
    let written := (gsvUpdate cfg (gsvId isBds tzer idx) tokEle tokAzi tokSnr before).2
    tokId.text :: if written.isEmpty then [] else [tokEle.text, tokAzi.text]

variable {cfg}

theorem isEmpty_gsvUpdate {id : Int} (ignored : IgnoredId cfg id) (elevation azimuth snr : Token)
    (r : NmeaReader) : (gsvUpdate cfg id elevation azimuth snr r).2.isEmpty := by
  unfold IgnoredId RejectedId at ignored
  unfold gsvUpdate
  split at ignored
  case isTrue gnss =>
    rw [if_pos gnss, nmeaReaderUpdateSvStatusGnss, if_pos (by tauto)]
    rfl
  case isFalse gps =>
    rw [if_neg gps, nmeaReaderUpdateSvStatusGps, if_pos (by tauto)]
    rfl

theorem not_isEmpty_gsvUpdate {id : Int} (taken : ¬IgnoredId cfg id)
    (elevation azimuth snr : Token) {r : NmeaReader} {satellites : Nat}
    (room : r.HasRoom cfg (satellites + 1)) :
    ¬(gsvUpdate cfg id elevation azimuth snr r).2.isEmpty := by
  unfold IgnoredId RejectedId at taken
  unfold NmeaReader.HasRoom tableSize NmeaReader.counted at room
  unfold gsvUpdate
  split at taken
  case isTrue gnss =>
    rw [if_pos gnss, if_pos gnss] at room
    rw [if_pos gnss, nmeaReaderUpdateSvStatusGnss, if_neg (by omega)]
    dsimp only
    rw [if_neg (by omega)]
    exact Bool.false_ne_true
  case isFalse gps =>
    rw [if_neg gps, if_neg gps] at room
    rw [if_neg gps, nmeaReaderUpdateSvStatusGps, if_neg (by omega)]
    dsimp only
    rw [if_neg (by omega)]
    exact Bool.false_ne_true

theorem gsvUpdate_counts (id : Int) (elevation azimuth snr : Token) (r : NmeaReader) :
    (gsvUpdate cfg id elevation azimuth snr r).1.svCount ≤ r.svCount + 1 ∧
      (gsvUpdate cfg id elevation azimuth snr r).1.counted cfg = r.counted cfg := by
  have unchanged : r.svCount ≤ r.svCount + 1 := by omega
  unfold gsvUpdate
  split
  case isTrue =>
    unfold nmeaReaderUpdateSvStatusGnss
    split
    case isTrue => exact ⟨unchanged, rfl⟩
    case isFalse =>
      dsimp only
      split
      case isTrue => exact ⟨unchanged, rfl⟩
      case isFalse => exact ⟨le_rfl, rfl⟩
  case isFalse =>
    unfold nmeaReaderUpdateSvStatusGps
    split
    case isTrue => exact ⟨unchanged, rfl⟩
    case isFalse =>
      dsimp only
      split
      case isTrue => exact ⟨unchanged, rfl⟩
      case isFalse => exact ⟨le_rfl, rfl⟩

/-- A satellite takes the room of one. -/
theorem hasRoom_gsvUpdate (id : Int) (elevation azimuth snr : Token) {r : NmeaReader}
    {satellites : Nat} (room : r.HasRoom cfg (satellites + 1)) :
    (gsvUpdate cfg id elevation azimuth snr r).1.HasRoom cfg satellites := by
  have counts := @gsvUpdate_counts cfg id elevation azimuth snr r
  unfold NmeaReader.HasRoom at room ⊢
  omega

theorem hasRoom_gsvSatellites (isBds : Bool) (tzer : NmeaTokenizer) {r : NmeaReader}
    {satellites : Nat} (count : Nat) (room : r.HasRoom cfg (satellites + count)) :
    (gsvSatellites isBds tzer (gsvUpdate cfg) count r).1.HasRoom cfg satellites := by
  induction count generalizing satellites with
  | zero => exact room
  | succ count ih =>
      rw [gsvSatellites, List.range_succ, List.foldl_append]
      apply hasRoom_gsvUpdate
      apply ih
      rw [Nat.add_right_comm]
      exact room

theorem exists_hasRoom (cfg : GpsConfig) (satellites : Nat) :
    ∃ r : NmeaReader, r.HasRoom cfg satellites := by
  let r : NmeaReader := { nmeaReaderInit with svCount := tableSize cfg - satellites }
  have svCount : r.svCount = tableSize cfg - satellites := rfl
  have counted : r.counted cfg = 0 := ite_self 0
  use r
  rw [NmeaReader.HasRoom, svCount, counted]
  omega

variable {isBds : Bool} {tzer : NmeaTokenizer} {count : Nat}

theorem mem_gsvReads {r : NmeaReader} {text : List UInt8}
    (read : text ∈ gsvReads cfg isBds tzer count r) :
    ∃ idx < count, text = (nmeaTokenizerGet tzer (4 * (idx + 1))).text ∨
      ¬IgnoredId cfg (gsvId isBds tzer idx) ∧
        (text = (nmeaTokenizerGet tzer (4 * (idx + 1) + 1)).text ∨
          text = (nmeaTokenizerGet tzer (4 * (idx + 1) + 2)).text) := by
  rcases List.mem_flatMap.mp read with ⟨idx, within, inTurn⟩
  refine ⟨idx, List.mem_range.mp within, ?_⟩
  rcases List.mem_cons.mp inTurn with isId | isPosition
  · exact Or.inl isId
  · right
    split at isPosition
    case isTrue => exact absurd isPosition List.not_mem_nil
    case isFalse written =>
      refine ⟨fun ignored => written (isEmpty_gsvUpdate ignored _ _ _ _), ?_⟩
      simpa using isPosition

/-- The ids are read whatever the table holds. -/
theorem id_mem_gsvReads {idx : Nat} (within : idx < count) (r : NmeaReader) :
    (nmeaTokenizerGet tzer (4 * (idx + 1))).text ∈ gsvReads cfg isBds tzer count r :=
  List.mem_flatMap.mpr ⟨idx, List.mem_range.mpr within, List.mem_cons_self⟩

/-- With room in the table, the elevation and the azimuth of every other satellite are read. -/
theorem position_mem_gsvReads {idx : Nat} (within : idx < count)
    (taken : ¬IgnoredId cfg (gsvId isBds tzer idx)) {r : NmeaReader} (room : r.HasRoom cfg count) :
    (nmeaTokenizerGet tzer (4 * (idx + 1) + 1)).text ∈ gsvReads cfg isBds tzer count r ∧
      (nmeaTokenizerGet tzer (4 * (idx + 1) + 2)).text ∈ gsvReads cfg isBds tzer count r := by
  have before : (gsvSatellites isBds tzer (gsvUpdate cfg) idx r).1.HasRoom cfg
      (count - idx - 1 + 1) := by
    apply hasRoom_gsvSatellites
    have all : count - idx - 1 + 1 + idx = count := by omega
    rw [all]
    exact room
  have written := not_isEmpty_gsvUpdate taken (nmeaTokenizerGet tzer (4 * (idx + 1) + 1))
    (nmeaTokenizerGet tzer (4 * (idx + 1) + 2)) (nmeaTokenizerGet tzer (4 * (idx + 1) + 3)) before
  unfold gsvReads
  constructor
  · rw [List.mem_flatMap]
    use idx, List.mem_range.mpr within
    simp [written]
  · rw [List.mem_flatMap]
    use idx, List.mem_range.mpr within
    simp [written]

end Reads

/-! ## Sentences -/

/-- How a sentence is read: what number a field without a digit denotes, if any, and how many
tokens the sentence has. -/
structure FieldReading where
  blank : Option Int
  count : List UInt8 → Nat

theorem gpsMode_of_gsvGnss {cfg : GpsConfig} {field : List UInt8}
    (kind : sentenceKind cfg field = .gsvGnss) : cfg.gpsMode = 0 := by
  by_contra other
  revert kind
  simp only [sentenceKind, other]
  repeat' split
  all_goals simp_all

section Sentence

variable (reading : FieldReading) (cfg : GpsConfig) (sentence : List UInt8)

/-- The text of a token of the sentence. -/
def tokenText (index : Nat) : List UInt8 :=
  (nmeaTokenizerGet (nmeaTokenizerInit sentence) index).text

/-- `sv_type == BDS_SV` -/
def isBdsSv : Bool :=
  startsWith (tokenText sentence 0) ['B', 'D']

/-- `nmea_reader_parse` comes to a branch for GSV sentences. -/
def IsGsv : Prop :=
  9 ≤ sentence.length ∧ 5 ≤ (tokenText sentence 0).length ∧
    (sentenceKind cfg (tokenText sentence 0) = .gsvGnss ∨
      sentenceKind cfg (tokenText sentence 0) = .gsvGps)

instance : Decidable (IsGsv cfg sentence) :=
  inferInstanceAs (Decidable (_ ∧ _ ∧ (_ ∨ _)))

/-- Whatever the reader holds, `str2int` is exact in each turn of the loop, and the turns compute
without an overflow the indices of tokens of the sentence. -/
structure GsvLoopExact (window : GsvWindow) : Prop where
  fields : ∀ r, ∀ text ∈
    gsvReads cfg (isBdsSv sentence) (nmeaTokenizerInit sentence) window.svNum.toNat r,
      Str2intExact reading.blank text
  turns : ∀ idx < window.svNum.toNat, ∃ turn ∈ window.turn idx,
    ∀ index ∈ turn.tokens, 0 ≤ index ∧ index < reading.count sentence

/-- The header of a GSV sentence is read exactly, `sv_base` and `sv_num` come without an
overflow, and the loop is exact. -/
structure GsvExact : Prop where
  header : ∀ index ∈ [1, 2, 3], Str2intExact reading.blank (tokenText sentence index)
  loop : ∃ window ∈ (gsvHeader (nmeaTokenizerInit sentence)).window,
    GsvLoopExact reading cfg sentence window

/-- The arithmetic of a sentence, where it is a GSV sentence, is exact. -/
def GsvArithmeticLaw : Prop :=
  IsGsv cfg sentence → GsvExact reading cfg sentence

/-! ## The sentences that keep the law -/

/-- The numbers in the header of a GSV sentence. -/
def gsvNumbers : GsvHeader where
  num := numberOf reading.blank (tokenText sentence 1)
  seq := numberOf reading.blank (tokenText sentence 2)
  cnt := numberOf reading.blank (tokenText sentence 3)

/-- The number in the id field of a satellite, in the reader's numbering. -/
def idNumber (idx : Nat) : Int :=
  readerId (isBdsSv sentence) (numberOf reading.blank (tokenText sentence (4 * (idx + 1))))

/-- The numbers of a GSV sentence are small enough, and it has the fields of its satellites. -/
@[mk_iff]
structure GsvFits : Prop where
  header : ∀ index ∈ [1, 2, 3], FieldFits reading.blank (tokenText sentence index)
  seq : -2 ^ 29 < (gsvNumbers reading sentence).seq ∧ (gsvNumbers reading sentence).seq ≤ 2 ^ 29
  remaining : FitsInt (gsvNumbers reading sentence).remaining
  complete : 0 < (gsvNumbers reading sentence).inSentence →
    4 * ((gsvNumbers reading sentence).inSentence + 1) ≤ reading.count sentence
  ids : ∀ idx < (gsvNumbers reading sentence).inSentence.toNat,
    FieldFits reading.blank (tokenText sentence (4 * (idx + 1)))
  positions : ∀ idx < (gsvNumbers reading sentence).inSentence.toNat,
    IgnoredId cfg (idNumber reading sentence idx) ∨
      (FieldFits reading.blank (tokenText sentence (4 * (idx + 1) + 1)) ∧
        FieldFits reading.blank (tokenText sentence (4 * (idx + 1) + 2)))

instance : Decidable (GsvFits reading cfg sentence) :=
  decidable_of_iff' _ (gsvFits_iff reading cfg sentence)

variable {reading cfg sentence}

theorem gsvHeader_of_fits
    (fits : ∀ index ∈ [1, 2, 3], FieldFits reading.blank (tokenText sentence index)) :
    gsvHeader (nmeaTokenizerInit sentence) = gsvNumbers reading sentence := by
  simp only [List.forall_mem_cons] at fits
  rw [gsvHeader, gsvNumbers, ← str2int_of_fits fits.1, ← str2int_of_fits fits.2.1,
    ← str2int_of_fits fits.2.2.1]
  rfl

theorem gsvId_of_fits {idx : Nat}
    (fits : FieldFits reading.blank (tokenText sentence (4 * (idx + 1)))) :
    gsvId (isBdsSv sentence) (nmeaTokenizerInit sentence) idx = idNumber reading sentence idx := by
  rw [gsvId, idNumber, ← str2int_of_fits fits]
  rfl

/-- The texts that the loop reads, whatever the reader holds, are those that the condition
speaks of. -/
theorem fields_exact_iff {count : Nat} :
    (∀ r, ∀ text ∈ gsvReads cfg (isBdsSv sentence) (nmeaTokenizerInit sentence) count r,
      Str2intExact reading.blank text) ↔
    (∀ idx < count, FieldFits reading.blank (tokenText sentence (4 * (idx + 1)))) ∧
      ∀ idx < count, IgnoredId cfg (idNumber reading sentence idx) ∨
        (FieldFits reading.blank (tokenText sentence (4 * (idx + 1) + 1)) ∧
          FieldFits reading.blank (tokenText sentence (4 * (idx + 1) + 2))) := by
  simp only [str2intExact_iff]
  constructor
  · intro exact
    rcases exists_hasRoom cfg count with ⟨r, room⟩
    have ids : ∀ idx < count, FieldFits reading.blank (tokenText sentence (4 * (idx + 1))) :=
      fun idx within => exact r _ (id_mem_gsvReads within r)
    constructor
    · exact ids
    · intro idx within
      rw [← gsvId_of_fits (ids idx within), or_iff_not_imp_left]
      intro taken
      have read := position_mem_gsvReads within taken room
      exact ⟨exact r _ read.1, exact r _ read.2⟩
  · rintro ⟨ids, positions⟩ r text read
    rcases mem_gsvReads read with ⟨idx, within, rfl | ⟨taken, isPosition⟩⟩
    · exact ids idx within
    · rw [gsvId_of_fits (ids idx within)] at taken
      have fits := (positions idx within).resolve_left taken
      rcases isPosition with rfl | rfl
      · exact fits.1
      · exact fits.2

/-- The arithmetic of a GSV sentence is exact if and only if its numbers fit and it has the fields
of its satellites. -/
theorem gsvExact_iff : GsvExact reading cfg sentence ↔ GsvFits reading cfg sentence := by
  constructor
  · rintro ⟨header, window, computed, fields, turns⟩
    simp only [str2intExact_iff] at header
    rw [Option.mem_def, gsvHeader_of_fits header] at computed
    rcases window_eq_some_iff.mp computed with ⟨earlier, remaining, rfl⟩
    have inView := fitsInt_of_exactly ((str2intExact_iff _ _).mpr (header 3 (by simp)))
    have read := fields_exact_iff.mp fields
    exact ⟨header, (fitsInt_earlier_iff _).mp earlier, remaining,
      (turns_iff inView earlier _).mp turns, read.1, read.2⟩
  · intro fits
    have inView := fitsInt_of_exactly ((str2intExact_iff _ _).mpr (fits.header 3 (by simp)))
    have earlier := (fitsInt_earlier_iff (gsvNumbers reading sentence)).mpr fits.seq
    have computed : (gsvHeader (nmeaTokenizerInit sentence)).window =
        some ⟨(gsvNumbers reading sentence).earlier,
          (gsvNumbers reading sentence).inSentence⟩ := by
      rw [gsvHeader_of_fits fits.header]
      exact window_eq_some_iff.mpr ⟨earlier, fits.remaining, rfl⟩
    constructor
    · intro index isHeader
      exact (str2intExact_iff _ _).mpr (fits.header index isHeader)
    · exact ⟨_, computed, fields_exact_iff.mpr ⟨fits.ids, fits.positions⟩,
        (turns_iff inView earlier _).mpr fits.complete⟩

/-- With exact arithmetic the sentence goes through the loop that the law speaks of. -/
theorem parseSentence_of_gsvExact (libc : LibcTime) (now : Int) (gsv : IsGsv cfg sentence)
    (exact : GsvExact reading cfg sentence) (r : NmeaReader) :
    ∃ window ∈ (gsvHeader (nmeaTokenizerInit sentence)).window,
      parseSentence cfg libc now (tokenText sentence 0) (nmeaTokenizerInit sentence) r =
        ((gsvOpen (gsvHeader (nmeaTokenizerInit sentence)) r).andThen
          (gsvSatellites (isBdsSv sentence) (nmeaTokenizerInit sentence) (gsvUpdate cfg)
            window.svNum.toNat)).andThen
          (if cfg.gpsMode = 0 then gsvCloseGnss (gsvHeader (nmeaTokenizerInit sentence))
            else gsvCloseGps (gsvHeader (nmeaTokenizerInit sentence))) := by
  rcases exact.loop with ⟨window, computed, -⟩
  use window, computed
  rw [← svNum_of_window computed]
  unfold parseSentence gsvUpdate
  rcases gsv.2.2 with kind | kind
  · have gnss := gpsMode_of_gsvGnss kind
    simp only [kind, if_pos gnss]
    rfl
  · have gps : cfg.gpsMode ≠ 0 := fun gnss => sentenceKind_ne_gsvGps gnss _ kind
    simp only [kind, if_neg gps]
    rfl

end Sentence

/-- `str2int` is exact on the tokens that fit, whatever the sentence is; and the sentences that
keep the law are those that fit where they are GSV sentences. -/
theorem gsvArithmetic_exact_iff (reading : FieldReading) (cfg : GpsConfig)
    (sentence : List UInt8) :
    (∀ index, Str2intExact reading.blank (tokenText sentence index) ↔
      FieldFits reading.blank (tokenText sentence index)) ∧
    (GsvArithmeticLaw reading cfg sentence ↔
      (IsGsv cfg sentence → GsvFits reading cfg sentence)) :=
  ⟨fun _ => str2intExact_iff _ _, forall_congr' fun _ => gsvExact_iff⟩

/-- The tokens are those of the tokenizer, and one without a digit is no number. -/
def tokenizerReading : FieldReading :=
  ⟨none, fun sentence => (nmeaTokenizerInit sentence).tokens.length⟩

example : IsGsv gnssConfig oneGpsSatellite ∧
    GsvFits tokenizerReading gnssConfig oneGpsSatellite := by
  decide +kernel

/-- A GSV sentence with ten digits in its last field -/
def tenDigits : List UInt8 :=
  ascii ['$', 'G', 'P', 'G', 'S', 'V', ',', '1', ',', '1', ',', '9', '9', '9', '9', '9', '9', '9',
    '9', '9', '9', '\n']

/-- Ten digits overflow the `int` of `str2int`. -/
theorem gsvArithmetic_overflows :
    ¬ ∃ reading, ∀ cfg sentence, sentence.length ≤ nmeaMaxSize →
      GsvArithmeticLaw reading cfg sentence := by
  rintro ⟨reading, law⟩
  have exact := law gnssConfig tenDigits (by decide) (by decide +kernel)
  have overflow : str2intExactly (tokenText tenDigits 3) = none := by decide +kernel
  have returned := exact.header 3 (by simp)
  rw [Str2intExact, overflow] at returned
  exact Option.some_ne_none _ returned.symm

end X3Hal.Gps
