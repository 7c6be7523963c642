import X3Hal.Memory.Faults
import X3Hal.Memory.Numbers
import Mathlib.Data.List.TakeWhile

/-!
# CDMA information records

`cdmaInfoRecInd` converts the records of a payload one after the other and returns without
delivering any of them at the first that it cannot convert.  The count and the lengths are plain
`char`s, which are signed on some machines; a negative length passes the check against the size of
the buffer and makes the allocation or the copy too large.
-/

namespace X3Hal.Ril

open X3Hal.Memory

/-! ## The payload -/

/-- `RIL_CDMA_InfoRecName` -/
inductive CdmaInfoRecName
  | display | calledPartyNumber | callingPartyNumber | connectedNumber | signal
  | redirectingNumber | lineControl | extendedDisplay | t53Clir | t53Release | t53AudioControl
  deriving DecidableEq, Repr

def CdmaInfoRecName.ofInt : Int → Option CdmaInfoRecName
  | 0 => some .display
  | 1 => some .calledPartyNumber
  | 2 => some .callingPartyNumber
  | 3 => some .connectedNumber
  | 4 => some .signal
  | 5 => some .redirectingNumber
  | 6 => some .lineControl
  | 7 => some .extendedDisplay
  | 8 => some .t53Clir
  | 9 => some .t53Release
  | 10 => some .t53AudioControl
  | _ => none

/-- `RIL_CDMA_InformationRecord`, with the bytes of the union that follows the name -/
structure RilCdmaInformationRecord where
  name : Int
  body : Vector UInt8 92
  deriving DecidableEq

/-- `RIL_CDMA_InformationRecords` -/
structure RilCdmaInformationRecords where
  numberOfInfoRecs : UInt8
  infoRec : Vector RilCdmaInformationRecord 10
  deriving DecidableEq

/-- The value of a plain `char` -/
def charValue (charSigned : Bool) (c : UInt8) : Int :=
  if charSigned then signed 1 c.toNat else c.toNat

namespace RilCdmaInformationRecord

variable (charSigned : Bool) (infoRec : RilCdmaInformationRecord)

def kind : Option CdmaInfoRecName :=
  CdmaInfoRecName.ofInt infoRec.name

/-- `display.alpha_len`, `number.len` and `redir.redirectingNumber.len`, which are one byte -/
def len : Int :=
  charValue charSigned infoRec.body[0]

/-- `display.alpha_buf` -/
def alphaBuf : List UInt8 :=
  (infoRec.body.toList.drop 1).take 64

/-- `number.buf` and `redir.redirectingNumber.buf` -/
def numberBuf : List UInt8 :=
  (infoRec.body.toList.drop 1).take 81

end RilCdmaInformationRecord

/-! ## The framework's records -/

structure CdmaNumberInfoRecord where
  number : List UInt8
  numberType : UInt8
  numberPlan : UInt8
  pi : UInt8
  si : UInt8
  deriving DecidableEq

structure CdmaSignalInfoRecord where
  isPresent : Bool
  signalType : UInt8
  alertPitch : UInt8
  signal : UInt8
  deriving DecidableEq

structure CdmaRedirectingNumberInfoRecord where
  redirectingNumber : CdmaNumberInfoRecord
  redirectingReason : Int
  deriving DecidableEq

structure CdmaLineControlInfoRecord where
  lineCtrlPolarityIncluded : UInt8
  lineCtrlToggle : UInt8
  lineCtrlReverse : UInt8
  lineCtrlPowerDenial : UInt8
  deriving DecidableEq

structure CdmaT53ClirInfoRecord where
  cause : UInt8
  deriving DecidableEq

structure CdmaT53AudioControlInfoRecord where
  upLink : UInt8
  downLink : UInt8
  deriving DecidableEq

structure CdmaInformationRecord where
  name : Int
  display : List (List UInt8) := []
  number : List CdmaNumberInfoRecord := []
  signal : List CdmaSignalInfoRecord := []
  redir : List CdmaRedirectingNumberInfoRecord := []
  lineCtrl : List CdmaLineControlInfoRecord := []
  clir : List CdmaT53ClirInfoRecord := []
  audioCtrl : List CdmaT53AudioControlInfoRecord := []
  deriving DecidableEq

/-! ## The conversion -/

/-- The string that a C string is for the framework -/
def cText (string8 : List UInt8) : List UInt8 :=
  string8.takeWhile (· ≠ 0)

section Conversion

variable (malloc : Nat → Bool) (charSigned : Bool)

/-- The text of a record in memory of its own; `none` where the handler returns.  `malloc` is the
size for which there is memory. -/
def copyText (len : Int) (buf : List UInt8) : Checked (Option (List UInt8)) := do
  if len > buf.length then
    return none
  else if malloc ((len + 1) % 2 ^ 64).toNat then
    let string8 ← front buf (len % 2 ^ 64)
    return some (cText string8)
  else
    return none

/-- The fields of a number around its text -/
def numberInfo (body : Vector UInt8 92) (number : List UInt8) : CdmaNumberInfoRecord :=
  ⟨number, body[82], body[83], body[84], body[85]⟩

/-- A round of the loop; `none` where the handler returns. -/
def convertInfoRec (infoRec : RilCdmaInformationRecord) :
    Checked (Option CdmaInformationRecord) := do
  let record : CdmaInformationRecord := { name := infoRec.name }
  let body := infoRec.body
  match infoRec.kind with
  | some .display | some .extendedDisplay =>
      let string8 ← copyText malloc (infoRec.len charSigned) infoRec.alphaBuf
      return string8.map fun text => { record with display := [text] }
  | some .calledPartyNumber | some .callingPartyNumber | some .connectedNumber =>
      let string8 ← copyText malloc (infoRec.len charSigned) infoRec.numberBuf
      return string8.map fun text => { record with number := [numberInfo body text] }
  | some .signal =>
      return some { record with signal := [⟨body[0] ≠ 0, body[1], body[2], body[3]⟩] }
  | some .redirectingNumber =>
      let string8 ← copyText malloc (infoRec.len charSigned) infoRec.numberBuf
      return string8.map fun text => { record with
        redir := [⟨numberInfo body text, signed 4 (numberAt body.toList 88 4)⟩] }
  | some .lineControl =>
      return some { record with lineCtrl := [⟨body[0], body[1], body[2], body[3]⟩] }
  | some .t53Clir => return some { record with clir := [⟨body[0]⟩] }
  | some .t53AudioControl => return some { record with audioCtrl := [⟨body[0], body[1]⟩] }
  | some .t53Release | none => return none

/-- The loop over the records -/
def convertInfoRecs : List RilCdmaInformationRecord → Checked (Option (List CdmaInformationRecord))
  | [] => .ok (some [])
  | infoRec :: rest => do
      match ← convertInfoRec malloc charSigned infoRec with
      | none => return none
      | some record => return (← convertInfoRecs rest).map (record :: ·)

/-- What `cdmaInfoRecInd` delivers; `none` when it delivers nothing -/
def cdmaInfoRecInd (response : RilCdmaInformationRecords) :
    Checked (Option (List CdmaInformationRecord)) := do
  let num ← vectorSize (min (charValue charSigned response.numberOfInfoRecs) 10)
  convertInfoRecs malloc charSigned (response.infoRec.toList.take num)

end Conversion

/-! ## What the records are -/

namespace RilCdmaInformationRecord

variable (charSigned : Bool) (infoRec : RilCdmaInformationRecord)

/-- The buffer of a record that has one -/
def textBuf : Option (List UInt8) :=
  match infoRec.kind with
  | some .display | some .extendedDisplay => some infoRec.alphaBuf
  | some .calledPartyNumber | some .callingPartyNumber | some .connectedNumber
  | some .redirectingNumber => some infoRec.numberBuf
  | _ => none

/-- The kind is not one that is delivered, or the length is over its limit. -/
def Rejected : Prop :=
  infoRec.kind = none ∨ infoRec.kind = some .t53Release ∨
    ∃ buf ∈ infoRec.textBuf, buf.length < infoRec.len charSigned

/-- The record around a text: each vector has one element for its own kinds and none for the
others. -/
def around (text : List UInt8) : CdmaInformationRecord where
  name := infoRec.name
  display :=
    if infoRec.kind = some .display ∨ infoRec.kind = some .extendedDisplay then [text] else []
  number :=
    if infoRec.kind = some .calledPartyNumber ∨ infoRec.kind = some .callingPartyNumber ∨
        infoRec.kind = some .connectedNumber then
      [numberInfo infoRec.body text]
    else []
  signal :=
    if infoRec.kind = some .signal then
      [⟨infoRec.body[0] ≠ 0, infoRec.body[1], infoRec.body[2], infoRec.body[3]⟩]
    else []
  redir :=
    if infoRec.kind = some .redirectingNumber then
      [⟨numberInfo infoRec.body text, signed 4 (numberAt infoRec.body.toList 88 4)⟩]
    else []
  lineCtrl :=
    if infoRec.kind = some .lineControl then
      [⟨infoRec.body[0], infoRec.body[1], infoRec.body[2], infoRec.body[3]⟩]
    else []
  clir := if infoRec.kind = some .t53Clir then [⟨infoRec.body[0]⟩] else []
  audioCtrl :=
    if infoRec.kind = some .t53AudioControl then [⟨infoRec.body[0], infoRec.body[1]⟩] else []

/-- As many bytes of the buffer as the length says -/
def lenBytes : List UInt8 :=
  (infoRec.textBuf.getD []).take (infoRec.len charSigned).toNat

/-- The handler returns at this record. -/
def Stops : Prop :=
  infoRec.Rejected charSigned ∨ (infoRec.textBuf.isSome ∧ infoRec.len charSigned < -1)

instance : DecidablePred (Rejected charSigned) := fun _ =>
  inferInstanceAs (Decidable (_ ∨ _ ∨ _))

instance : DecidablePred (Stops charSigned) := fun _ =>
  inferInstanceAs (Decidable (_ ∨ (_ ∧ _)))

/-- The allocation succeeds and the copy leaves the payload. -/
def Overruns : Prop :=
  infoRec.textBuf.isSome ∧ infoRec.len charSigned = -1

/-- The text is a string of its length. -/
def Plain : Prop :=
  infoRec.textBuf.isSome → 0 ≤ infoRec.len charSigned ∧ 0 ∉ infoRec.lenBytes charSigned

end RilCdmaInformationRecord

theorem charValue_bounds (charSigned : Bool) (c : UInt8) :
    -128 ≤ charValue charSigned c ∧ charValue charSigned c ≤ 255 := by
  have byte := c.toNat_lt
  unfold charValue signed
  split
  · split <;> omega
  · omega

section CopyText

variable {malloc : Nat → Bool} {len : Int} {buf : List UInt8}

theorem copyText_over (overLimit : buf.length < len) : copyText malloc len buf = .ok none :=
  if_pos overLimit

theorem copyText_huge (tooMuch : ∀ size, 2 ^ 63 ≤ size → malloc size = false) (negative : len < -1)
    (lower : -128 ≤ len) : copyText malloc len buf = .ok none := by
  have notOver : ¬ len > buf.length := by omega
  have refused : malloc ((len + 1) % 2 ^ 64).toNat = false := tooMuch _ (by omega)
  rw [copyText, if_neg notOver, refused]
  rfl

theorem copyText_outside (enough : ∀ size ≤ 82, malloc size = true) (short : buf.length ≤ 81) :
    copyText malloc (-1) buf = .error .outside := by
  have notOver : ¬ (-1 : Int) > buf.length := by omega
  have leaves : ¬ (0 ≤ (-1 : Int) % 2 ^ 64 ∧ (-1 : Int) % 2 ^ 64 ≤ buf.length) := by omega
  rw [copyText, if_neg notOver, if_pos (enough _ (by decide)), front, if_neg leaves]
  rfl

theorem copyText_within (enough : ∀ size ≤ 82, malloc size = true) (short : buf.length ≤ 81)
    (nonneg : 0 ≤ len) (within : len ≤ buf.length) :
    copyText malloc len buf = .ok (some (cText (buf.take len.toNat))) := by
  have notOver : ¬ len > buf.length := by omega
  have given : malloc ((len + 1) % 2 ^ 64).toNat = true := enough _ (by omega)
  have same : len % 2 ^ 64 = len := by omega
  rw [copyText, if_neg notOver, if_pos given, same, front, if_pos ⟨nonneg, within⟩]
  rfl

end CopyText

section Records

variable {malloc : Nat → Bool} {charSigned : Bool} {infoRec : RilCdmaInformationRecord}
  {buf : List UInt8} (enough : ∀ size ≤ 82, malloc size = true)
  (tooMuch : ∀ size, 2 ^ 63 ≤ size → malloc size = false)

open RilCdmaInformationRecord

/-- The kinds of records with a text, and the buffer of each -/
theorem textBuf_eq_some_iff :
    infoRec.textBuf = some buf ↔
      ((infoRec.kind = some .display ∨ infoRec.kind = some .extendedDisplay) ∧
        infoRec.alphaBuf = buf) ∨
      ((infoRec.kind = some .calledPartyNumber ∨ infoRec.kind = some .callingPartyNumber ∨
        infoRec.kind = some .connectedNumber ∨ infoRec.kind = some .redirectingNumber) ∧
        infoRec.numberBuf = buf) := by
  unfold textBuf
  cases infoRec.kind with
  | none => simp
  | some name => cases name <;> simp

/-- The kinds without one that are delivered -/
theorem kind_of_fields (fields : infoRec.textBuf = none)
    (accepted : ¬ infoRec.Rejected charSigned) :
    infoRec.kind = some .signal ∨ infoRec.kind = some .lineControl ∨
      infoRec.kind = some .t53Clir ∨ infoRec.kind = some .t53AudioControl := by
  unfold textBuf at fields
  unfold Rejected at accepted
  cases kindIs : infoRec.kind with
  | none => exact absurd (.inl kindIs) accepted
  | some name =>
      rw [kindIs] at accepted fields
      cases name
      case t53Release => exact absurd (.inr (.inl rfl)) accepted
      case signal | lineControl | t53Clir | t53AudioControl => simp
      all_goals cases fields

theorem textBuf_length_le (holds : infoRec.textBuf = some buf) : buf.length ≤ 81 := by
  rcases textBuf_eq_some_iff.mp holds with ⟨-, rfl⟩ | ⟨-, rfl⟩
  · simp [alphaBuf]
  · simp [numberBuf]

/-- The records with a text -/
theorem convertInfoRec_text (holds : infoRec.textBuf = some buf) :
    convertInfoRec malloc charSigned infoRec = (do
      let string8 ← copyText malloc (infoRec.len charSigned) buf
      return string8.map infoRec.around) := by
  unfold convertInfoRec
  rcases textBuf_eq_some_iff.mp holds with ⟨is | is, rfl⟩ | ⟨is | is | is | is, rfl⟩
  all_goals
    rw [is]
    refine bind_congr fun string8 => ?_
    cases string8 <;> simp [around, is]

/-- The records without one -/
theorem convertInfoRec_fields (fields : infoRec.textBuf = none)
    (accepted : ¬ infoRec.Rejected charSigned) (text : List UInt8) :
    convertInfoRec malloc charSigned infoRec = .ok (some (infoRec.around text)) := by
  unfold convertInfoRec around
  rcases kind_of_fields fields accepted with is | is | is | is
  all_goals
    simp only [is]
    rfl

theorem rejected_iff_of_text (holds : infoRec.textBuf = some buf) :
    infoRec.Rejected charSigned ↔ buf.length < infoRec.len charSigned := by
  have delivered : infoRec.kind ≠ none ∧ infoRec.kind ≠ some .t53Release := by
    rcases textBuf_eq_some_iff.mp holds with ⟨is | is, -⟩ | ⟨is | is | is | is, -⟩
    all_goals simp [is]
  simp [Rejected, delivered.1, delivered.2, holds]

theorem rejected_iff_of_fields (fields : infoRec.textBuf = none) :
    infoRec.Rejected charSigned ↔ infoRec.kind = none ∨ infoRec.kind = some .t53Release := by
  simp [Rejected, fields]

theorem len_nonneg_of_text (holds : infoRec.textBuf = some buf)
    (goesOn : ¬ infoRec.Stops charSigned) (inside : ¬ infoRec.Overruns charSigned) :
    0 ≤ infoRec.len charSigned := by
  have text : infoRec.textBuf.isSome := holds ▸ rfl
  have notLess : ¬ infoRec.len charSigned < -1 := fun less => goesOn (.inr ⟨text, less⟩)
  have notMinusOne : infoRec.len charSigned ≠ -1 := fun same => inside ⟨text, same⟩
  omega

include tooMuch in
/-- A record that is not delivered in any form -/
theorem convertInfoRec_stops (stops : infoRec.Stops charSigned) :
    convertInfoRec malloc charSigned infoRec = .ok none := by
  cases holds : infoRec.textBuf with
  | none =>
      rcases stops with rejected | ⟨text, -⟩
      · rcases (rejected_iff_of_fields holds).mp rejected with is | is
        all_goals
          rw [convertInfoRec, is]
          rfl
      · rw [holds] at text
        cases text
  | some buf =>
      rw [convertInfoRec_text holds]
      rcases stops with rejected | ⟨-, negative⟩
      · rw [copyText_over ((rejected_iff_of_text holds).mp rejected)]
        rfl
      · rw [copyText_huge tooMuch negative (charValue_bounds _ _).1]
        rfl

include enough in
theorem convertInfoRec_overruns (overruns : infoRec.Overruns charSigned) :
    convertInfoRec malloc charSigned infoRec = .error .outside := by
  obtain ⟨text, negative⟩ := overruns
  obtain ⟨buf, holds⟩ := Option.isSome_iff_exists.mp text
  rw [convertInfoRec_text holds, negative, copyText_outside enough (textBuf_length_le holds)]
  rfl

include enough in
/-- The text of any other record is cut at its first NUL. -/
theorem convertInfoRec_converts (goesOn : ¬ infoRec.Stops charSigned)
    (inside : ¬ infoRec.Overruns charSigned) :
    convertInfoRec malloc charSigned infoRec =
      .ok (some (infoRec.around (cText (infoRec.lenBytes charSigned)))) := by
  have accepted : ¬ infoRec.Rejected charSigned := fun rejected => goesOn (.inl rejected)
  cases holds : infoRec.textBuf with
  | none => exact convertInfoRec_fields holds accepted _
  | some buf =>
      have within := Int.not_lt.mp (mt (rejected_iff_of_text holds).mpr accepted)
      rw [convertInfoRec_text holds, copyText_within enough (textBuf_length_le holds)
        (len_nonneg_of_text holds goesOn inside) within, lenBytes, holds]
      rfl

end Records

/-! ## The loop -/

section Loop

variable {malloc : Nat → Bool} {charSigned : Bool} {infoRecs : List RilCdmaInformationRecord}
  (enough : ∀ size ≤ 82, malloc size = true)
  (tooMuch : ∀ size, 2 ^ 63 ≤ size → malloc size = false)

open RilCdmaInformationRecord

/-- The record that is delivered, with its text cut at the first NUL -/
def converted (charSigned : Bool) (infoRec : RilCdmaInformationRecord) : CdmaInformationRecord :=
  infoRec.around (cText (infoRec.lenBytes charSigned))

/-- No record overruns before the handler returns. -/
def CopiesInside (charSigned : Bool) (infoRecs : List RilCdmaInformationRecord) : Prop :=
  ∀ infoRec ∈ infoRecs.takeWhile fun infoRec => ¬ infoRec.Stops charSigned,
    ¬ infoRec.Overruns charSigned

theorem copiesInside_cons_of_goesOn {infoRec : RilCdmaInformationRecord}
    (goesOn : ¬ infoRec.Stops charSigned) (rest : List RilCdmaInformationRecord) :
    CopiesInside charSigned (infoRec :: rest) ↔
      ¬ infoRec.Overruns charSigned ∧ CopiesInside charSigned rest := by
  simp only [CopiesInside, List.takeWhile_cons, goesOn, not_false_eq_true, decide_true, if_true,
    List.forall_mem_cons]

include enough tooMuch in
/-- The loop delivers every record, or none when it comes to one at which the handler returns. -/
theorem convertInfoRecs_ok (inside : CopiesInside charSigned infoRecs) :
    convertInfoRecs malloc charSigned infoRecs = .ok
      (if ∃ infoRec ∈ infoRecs, infoRec.Stops charSigned then none
        else some (infoRecs.map (converted charSigned))) := by
  induction infoRecs with
  | nil => rfl
  | cons infoRec rest ih =>
      rw [convertInfoRecs]
      by_cases stops : infoRec.Stops charSigned
      · rw [convertInfoRec_stops tooMuch stops, if_pos ⟨infoRec, List.mem_cons_self, stops⟩]
        rfl
      · obtain ⟨fits, insideRest⟩ := (copiesInside_cons_of_goesOn stops rest).mp inside
        rw [convertInfoRec_converts enough stops fits, ok_bind, ih insideRest]
        simp only [ok_bind, List.exists_mem_cons_iff, stops, false_or]
        split <;> rfl

include enough in
theorem convertInfoRecs_error (outside : ¬ CopiesInside charSigned infoRecs) :
    convertInfoRecs malloc charSigned infoRecs = .error .outside := by
  induction infoRecs with
  | nil => exact absurd (by simp [CopiesInside]) outside
  | cons infoRec rest ih =>
      have goesOn : ¬ infoRec.Stops charSigned := by
        intro stops
        apply outside
        rw [CopiesInside, List.takeWhile_cons_of_neg (by simpa using stops)]
        simp
      rw [convertInfoRecs]
      by_cases overruns : infoRec.Overruns charSigned
      · rw [convertInfoRec_overruns enough overruns]
        rfl
      · have outsideRest : ¬ CopiesInside charSigned rest := fun inside =>
          outside ((copiesInside_cons_of_goesOn goesOn rest).mpr ⟨overruns, inside⟩)
        rw [convertInfoRec_converts enough goesOn overruns, ok_bind]
        simp only [ih outsideRest]
        rfl

end Loop

/-! ## Records that are delivered -/

section Delivered

variable {malloc : Nat → Bool} {charSigned : Bool}

open RilCdmaInformationRecord

/-- The number of records that are looked at -/
def infoRecCount (charSigned : Bool) (response : RilCdmaInformationRecords) : Int :=
  min (charValue charSigned response.numberOfInfoRecs) 10

/-- The records that are looked at -/
def infoRecsOf (charSigned : Bool) (response : RilCdmaInformationRecords) :
    List RilCdmaInformationRecord :=
  response.infoRec.toList.take (infoRecCount charSigned response).toNat

/-- The record with the first bytes of its buffer -/
def expected (charSigned : Bool) (infoRec : RilCdmaInformationRecord) : CdmaInformationRecord :=
  infoRec.around (infoRec.lenBytes charSigned)

/-- Nothing is delivered when a record is rejected, and all records, as many as the payload counts
up to the limit, when none is.  No access leaves the payload either way. -/
def CdmaInfoRecsDelivered (malloc : Nat → Bool) (charSigned : Bool)
    (response : RilCdmaInformationRecords) : Prop :=
  ∃ delivered, cdmaInfoRecInd malloc charSigned response = .ok delivered ∧
    ((∃ infoRec ∈ infoRecsOf charSigned response, infoRec.Rejected charSigned) →
      delivered = none) ∧
    ((∀ infoRec ∈ infoRecsOf charSigned response, ¬ infoRec.Rejected charSigned) →
      ∃ records, delivered = some records ∧
        records.length = infoRecCount charSigned response ∧
        records = (infoRecsOf charSigned response).map (expected charSigned))

/-- The count is not negative, no length is −1 before the handler returns, and where no record is
rejected the texts are strings of their lengths. -/
structure InfoRecsPlain (charSigned : Bool) (response : RilCdmaInformationRecords) : Prop where
  count : 0 ≤ charValue charSigned response.numberOfInfoRecs
  inside : CopiesInside charSigned (infoRecsOf charSigned response)
  plain : (∀ infoRec ∈ infoRecsOf charSigned response, ¬ infoRec.Rejected charSigned) →
    ∀ infoRec ∈ infoRecsOf charSigned response, infoRec.Plain charSigned

theorem around_inj {infoRec : RilCdmaInformationRecord} {buf text other : List UInt8}
    (holds : infoRec.textBuf = some buf) :
    infoRec.around text = infoRec.around other ↔ text = other := by
  rcases textBuf_eq_some_iff.mp holds with ⟨is | is, -⟩ | ⟨is | is | is | is, -⟩
  all_goals simp [around, is, numberInfo]

/-- A text is delivered as it is just if it has no NUL. -/
theorem converted_eq_iff {infoRec : RilCdmaInformationRecord}
    (goesOn : ¬ infoRec.Stops charSigned) (inside : ¬ infoRec.Overruns charSigned) :
    converted charSigned infoRec = expected charSigned infoRec ↔ infoRec.Plain charSigned := by
  unfold converted expected
  cases holds : infoRec.textBuf with
  | none =>
      have noText : infoRec.lenBytes charSigned = [] := by simp [lenBytes, holds]
      rw [noText]
      exact iff_of_true rfl (by simp [Plain, holds])
  | some buf =>
      have nonneg := len_nonneg_of_text holds goesOn inside
      have plainIff : infoRec.Plain charSigned ↔ 0 ∉ infoRec.lenBytes charSigned := by
        simp [Plain, holds, nonneg]
      rw [around_inj holds, plainIff, cText, List.takeWhile_eq_self_iff]
      simp only [decide_eq_true_eq]
      exact ⟨fun nonzero zero => nonzero 0 zero rfl,
        fun free byte among same => free (same ▸ among)⟩

theorem not_stops_of_plain {infoRec : RilCdmaInformationRecord}
    (accepted : ¬ infoRec.Rejected charSigned) (plain : infoRec.Plain charSigned) :
    ¬ infoRec.Stops charSigned := by
  rintro (rejected | ⟨text, negative⟩)
  · exact accepted rejected
  · have nonneg := (plain text).1
    omega

theorem not_overruns_of_plain {infoRec : RilCdmaInformationRecord}
    (plain : infoRec.Plain charSigned) : ¬ infoRec.Overruns charSigned := by
  rintro ⟨text, minusOne⟩
  have nonneg := (plain text).1
  omega

theorem length_infoRecsOf {response : RilCdmaInformationRecords}
    (nonneg : 0 ≤ charValue charSigned response.numberOfInfoRecs) :
    ((infoRecsOf charSigned response).length : Int) = infoRecCount charSigned response := by
  rw [infoRecsOf, List.length_take, Vector.length_toList, infoRecCount]
  omega

theorem cdmaInfoRecInd_negative {response : RilCdmaInformationRecords}
    (negative : charValue charSigned response.numberOfInfoRecs < 0) :
    cdmaInfoRecInd malloc charSigned response = .error .negativeSize := by
  have below : min (charValue charSigned response.numberOfInfoRecs) 10 < 0 := by omega
  rw [cdmaInfoRecInd, vectorSize, if_pos below]
  rfl

theorem cdmaInfoRecInd_nonneg {response : RilCdmaInformationRecords}
    (nonneg : 0 ≤ charValue charSigned response.numberOfInfoRecs) :
    cdmaInfoRecInd malloc charSigned response =
      convertInfoRecs malloc charSigned (infoRecsOf charSigned response) := by
  have notBelow : ¬ min (charValue charSigned response.numberOfInfoRecs) 10 < 0 := by omega
  rw [cdmaInfoRecInd, vectorSize, if_neg notBelow]
  rfl

/-- Records that are delivered with the first bytes of their buffers have no NUL among them. -/
theorem plain_of_delivered {infoRecs : List RilCdmaInformationRecord}
    {records : List CdmaInformationRecord} (inside : CopiesInside charSigned infoRecs)
    (runs : (if ∃ infoRec ∈ infoRecs, infoRec.Stops charSigned then none
      else some (infoRecs.map (converted charSigned))) = some records)
    (same : records = infoRecs.map (expected charSigned)) :
    ∀ infoRec ∈ infoRecs, infoRec.Plain charSigned := by
  split at runs
  case isTrue => cases runs
  case isFalse goesOn =>
    rw [← Option.some.inj runs, List.map_inj_left] at same
    intro infoRec among
    have stays : ∀ infoRec ∈ infoRecs, ¬ infoRec.Stops charSigned := fun infoRec among stops =>
      goesOn ⟨infoRec, among, stops⟩
    have all : (infoRecs.takeWhile fun infoRec => ¬ infoRec.Stops charSigned) = infoRecs :=
      List.takeWhile_eq_self_iff.mpr fun infoRec among => decide_eq_true (stays infoRec among)
    rw [CopiesInside, all] at inside
    exact (converted_eq_iff (stays infoRec among) (inside infoRec among)).mp (same infoRec among)

/-- The records are delivered just if they are plain. -/
theorem cdmaInfoRecsDelivered_iff (enough : ∀ size ≤ 82, malloc size = true)
    (tooMuch : ∀ size, 2 ^ 63 ≤ size → malloc size = false)
    (response : RilCdmaInformationRecords) :
    CdmaInfoRecsDelivered malloc charSigned response ↔ InfoRecsPlain charSigned response := by
  constructor
  · rintro ⟨delivered, runs, -, whenAccepted⟩
    by_cases nonneg : 0 ≤ charValue charSigned response.numberOfInfoRecs
    · rw [cdmaInfoRecInd_nonneg nonneg] at runs
      by_cases inside : CopiesInside charSigned (infoRecsOf charSigned response)
      · refine ⟨nonneg, inside, fun accepted => ?_⟩
        obtain ⟨records, rfl, -, same⟩ := whenAccepted accepted
        rw [convertInfoRecs_ok enough tooMuch inside] at runs
        exact plain_of_delivered inside (Except.ok.inj runs) same
      · rw [convertInfoRecs_error enough inside] at runs
        cases runs
    · rw [cdmaInfoRecInd_negative (Int.not_le.mp nonneg)] at runs
      cases runs
  · rintro ⟨nonneg, inside, plain⟩
    refine ⟨_, (cdmaInfoRecInd_nonneg nonneg).trans (convertInfoRecs_ok enough tooMuch inside),
      ?_, fun accepted => ?_⟩
    · rintro ⟨infoRec, among, rejected⟩
      exact if_pos ⟨infoRec, among, .inl rejected⟩
    · have goesOn : ¬ ∃ infoRec ∈ infoRecsOf charSigned response, infoRec.Stops charSigned := by
        rintro ⟨infoRec, among, stops⟩
        exact not_stops_of_plain (accepted infoRec among) (plain accepted infoRec among) stops
      rw [if_neg goesOn]
      refine ⟨_, rfl, by rw [List.length_map, length_infoRecsOf nonneg], ?_⟩
      apply List.map_congr_left
      intro infoRec among
      have isPlain := plain accepted infoRec among
      exact (converted_eq_iff (not_stops_of_plain (accepted infoRec among) isPlain)
        (not_overruns_of_plain isPlain)).mpr isPlain

end Delivered

/-- Memory for sizes up to `PTRDIFF_MAX` -/
def mallocBelow (size : Nat) : Bool :=
  size < 2 ^ 63

def emptyInfoRec : RilCdmaInformationRecord :=
  ⟨0, Vector.replicate _ 0⟩

/-- A payload with one record of a display, which has three bytes -/
def displayPayload (first second third : UInt8) : RilCdmaInformationRecords where
  numberOfInfoRecs := 1
  infoRec := (Vector.replicate 10 emptyInfoRec).set 0
    { emptyInfoRec with
      body := (((emptyInfoRec.body.set 0 3).set 1 first).set 2 second).set 3 third }

theorem cdmaInfoRecsDelivered_iff_display :
    CdmaInfoRecsDelivered mallocBelow true (displayPayload 65 66 67) ↔
      InfoRecsPlain true (displayPayload 65 66 67) :=
  cdmaInfoRecsDelivered_iff (fun size small => decide_eq_true (by omega))
    (fun size large => decide_eq_false (by omega)) _

/-- The display is cut at the NUL, which is one of its three bytes. -/
theorem cdmaInfoRecs_cut : ¬ CdmaInfoRecsDelivered mallocBelow false (displayPayload 65 0 67) := by
  rintro ⟨delivered, runs, -, whenAccepted⟩
  have cut : cdmaInfoRecInd mallocBelow false (displayPayload 65 0 67) =
      .ok (some [{ name := 0, display := [[65]] }]) := by
    decide +kernel
  obtain ⟨records, rfl, -, same⟩ := whenAccepted (by decide +kernel)
  rw [cut] at runs
  rw [← Option.some.inj (Except.ok.inj runs)] at same
  exact absurd same (by decide +kernel)

end X3Hal.Ril
