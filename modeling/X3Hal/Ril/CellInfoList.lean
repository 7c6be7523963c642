import X3Hal.Ril.CellIdentity
import Mathlib

/-!
# Lists of cells

The modem gives an array of `RIL_CellInfo`, a technology and a union that is kept as its words.
Built for the MTK modems the loop that converts the cells never moves its pointer on, so every
record is one of the first cell.
-/

namespace X3Hal.Ril

open X3Hal.Memory
open X3Hal.Gps (wrap32)

/-! ## Cells -/

structure RilCellInfo where
  cellInfoType : Int
  registered : Int
  timeStampType : Int
  timeStamp : Nat
  /-- the union, of which `RIL_CellInfoLte` is the largest structure -/
  words : Vector Int 11
  deriving DecidableEq

/-- `sizeof(RIL_CellInfo)`, with its padding -/
def sizeOfCellInfo : Nat := 72

/-- `sizeof(RIL_CellInfo_v12)`, which has no padding at its end -/
def sizeOfCellInfoV12 : Nat := 72

structure GsmSignalStrength where
  signalStrength : Int
  bitErrorRate : Int
  timingAdvance : Int
  deriving DecidableEq

structure WcdmaSignalStrength where
  signalStrength : Int
  bitErrorRate : Int
  deriving DecidableEq

structure CdmaSignalStrength where
  dbm : Int
  ecio : Int
  deriving DecidableEq

structure EvdoSignalStrength where
  dbm : Int
  ecio : Int
  signalNoiseRatio : Int
  deriving DecidableEq

structure LteSignalStrength where
  signalStrength : Int
  rsrp : Int
  rsrq : Int
  rssnr : Int
  cqi : Int
  timingAdvance : Int
  deriving DecidableEq

structure CellInfo where
  cellInfoType : Int
  registered : Bool
  timeStampType : Int
  timeStamp : Nat
  gsm : List (CellIdentityGsm × GsmSignalStrength)
  wcdma : List (CellIdentityWcdma × WcdmaSignalStrength)
  cdma : List (CellIdentityCdma × CdmaSignalStrength × EvdoSignalStrength)
  lte : List (CellIdentityLte × LteSignalStrength)
  tdscdma : List (CellIdentityTdscdma × Int)
  deriving DecidableEq

/-- One round of the loop of `convertRilCellInfoListToHal`: fields that are not in a `RIL_CellInfo`
stay 0. -/
def convertRilCellInfo (cell : RilCellInfo) : CellInfo :=
  let words := cell.words
  let record : CellInfo := ⟨cell.cellInfoType, cell.registered ≠ 0, cell.timeStampType,
    cell.timeStamp, [], [], [], [], []⟩
  match cellTechnology cell.cellInfoType with
  | none => record
  | some .gsm => { record with
      gsm := [(⟨toString words[0], toString words[1], words[2], words[3], 0, 0⟩,
        ⟨words[4], words[5], 0⟩)] }
  | some .wcdma => { record with
      wcdma := [(⟨toString words[0], toString words[1], words[2], words[3], words[4], 0⟩,
        ⟨words[5], words[6]⟩)] }
  | some .cdma => { record with
      cdma := [(⟨words[0], words[1], words[2], words[3], words[4]⟩, ⟨words[5], words[6]⟩,
        ⟨words[7], words[8], words[9]⟩)] }
  | some .lte => { record with
      lte := [(⟨toString words[0], toString words[1], words[2], words[3], words[4], 0⟩,
        ⟨words[5], words[6], words[7], words[8], words[9], 0⟩)] }
  | some .tdscdma => { record with
      tdscdma := [(⟨toString words[0], toString words[1], words[2], words[3], words[4]⟩,
        words[5])] }

/-! ## Payloads -/

/-- An array of cells, with its length in bytes -/
structure CellPayload where
  responseLen : Nat
  cells : List RilCellInfo
  cells_length : cells.length = responseLen / sizeOfCellInfo

/-- The loop of `convertRilCellInfoListToHal`, so many rounds from a pointer that only another
build moves on. -/
def convertFrom (cells : List RilCellInfo) (rilCellInfo : Nat) : Nat → Checked (List CellInfo)
  | 0 => pure []
  | rounds + 1 => do
      let cell ← element cells rilCellInfo
      let records ← convertFrom cells rilCellInfo rounds
      pure (convertRilCellInfo cell :: records)

def convertRilCellInfoListToHal (payload : CellPayload) : Checked (List CellInfo) := do
  let num ← vectorSize (wrap32 ((payload.responseLen / sizeOfCellInfo : Nat) : Int))
  convertFrom payload.cells 0 num

def getCellInfoListResponse (responseType serial e : Int) (response : Option CellPayload) :
    Checked (RadioResponseInfo × List CellInfo) :=
  let info := populateResponseInfo responseType serial e
  match response with
  | none => pure (info.invalidate, [])
  | some payload =>
      if payload.responseLen % sizeOfCellInfoV12 ≠ 0 then pure (info.invalidate, [])
      else do pure (info, ← convertRilCellInfoListToHal payload)

/-- The records that the framework gets; `none` when it gets nothing. -/
def cellInfoListInd (response : Option CellPayload) : Checked (Option (List CellInfo)) :=
  match response with
  | none => pure none
  | some payload =>
      if payload.responseLen % sizeOfCellInfoV12 ≠ 0 then pure none
      else do pure (some (← convertRilCellInfoListToHal payload))

/-! ## Records and the cells they are of -/

/-- How many words of the union the conversion reads -/
def CellTechnology.wordsRead : CellTechnology → Nat
  | gsm => 6
  | cdma => 10
  | lte => 10
  | wcdma => 7
  | tdscdma => 6

/-- The cells agree in all that the conversion reads. -/
structure SameCell (cell other : RilCellInfo) : Prop where
  cellInfoType : cell.cellInfoType = other.cellInfoType
  registered : cell.registered = 0 ↔ other.registered = 0
  timeStampType : cell.timeStampType = other.timeStampType
  timeStamp : cell.timeStamp = other.timeStamp
  words : ∀ technology ∈ cellTechnology cell.cellInfoType, ∀ i : Fin 11, i < technology.wordsRead →
    cell.words[i] = other.words[i]

theorem toString_inj {value other : Int} : toString value = toString other ↔ value = other :=
  Int.repr_inj

section Record

variable (cell other : RilCellInfo)

@[simp]
theorem cellInfoType_convertRilCellInfo :
    (convertRilCellInfo cell).cellInfoType = cell.cellInfoType := by
  unfold convertRilCellInfo
  split <;> rfl

@[simp]
theorem registered_convertRilCellInfo :
    (convertRilCellInfo cell).registered = decide (cell.registered ≠ 0) := by
  unfold convertRilCellInfo
  split <;> rfl

@[simp]
theorem timeStampType_convertRilCellInfo :
    (convertRilCellInfo cell).timeStampType = cell.timeStampType := by
  unfold convertRilCellInfo
  split <;> rfl

@[simp]
theorem timeStamp_convertRilCellInfo : (convertRilCellInfo cell).timeStamp = cell.timeStamp := by
  unfold convertRilCellInfo
  split <;> rfl

/-- Two cells have the same record just if they agree in all that is read. -/
theorem convertRilCellInfo_eq_iff :
    convertRilCellInfo cell = convertRilCellInfo other ↔ SameCell cell other := by
  constructor
  · intro same
    have sameType : cell.cellInfoType = other.cellInfoType := by
      simpa using congrArg CellInfo.cellInfoType same
    refine ⟨sameType, ?_, ?_, ?_, ?_⟩
    · simpa using congrArg CellInfo.registered same
    · simpa using congrArg CellInfo.timeStampType same
    · simpa using congrArg CellInfo.timeStamp same
    · intro technology found
      rw [Option.mem_def] at found
      unfold convertRilCellInfo at same
      rw [← sameType, found] at same
      cases technology
      all_goals
        simp only [CellInfo.mk.injEq, List.cons.injEq, Prod.mk.injEq, CellIdentityGsm.mk.injEq,
          CellIdentityWcdma.mk.injEq, CellIdentityCdma.mk.injEq, CellIdentityLte.mk.injEq,
          CellIdentityTdscdma.mk.injEq, GsmSignalStrength.mk.injEq, WcdmaSignalStrength.mk.injEq,
          CdmaSignalStrength.mk.injEq, EvdoSignalStrength.mk.injEq, LteSignalStrength.mk.injEq,
          toString_inj] at same
        simp [Fin.forall_fin_succ, CellTechnology.wordsRead, same]
  · rintro ⟨sameType, registered, timeStampType, timeStamp, words⟩
    unfold convertRilCellInfo
    rw [← sameType]
    simp only [ne_eq, registered, timeStampType, timeStamp]
    cases found : cellTechnology cell.cellInfoType with
    | none => rfl
    | some technology =>
        have agree := words technology found
        cases technology
        all_goals
          simp only [Fin.forall_fin_succ, CellTechnology.wordsRead] at agree
          simp_all

end Record

/-- One vector has an element. -/
structure OneVector (technology : CellTechnology) (record : CellInfo) : Prop where
  gsm : record.gsm.length = if technology = .gsm then 1 else 0
  wcdma : record.wcdma.length = if technology = .wcdma then 1 else 0
  cdma : record.cdma.length = if technology = .cdma then 1 else 0
  lte : record.lte.length = if technology = .lte then 1 else 0
  tdscdma : record.tdscdma.length = if technology = .tdscdma then 1 else 0

theorem oneVector_convertRilCellInfo {cell : RilCellInfo} {technology : CellTechnology}
    (found : cellTechnology cell.cellInfoType = some technology) :
    OneVector technology (convertRilCellInfo cell) := by
  unfold convertRilCellInfo
  rw [found]
  cases technology <;> exact ⟨rfl, rfl, rfl, rfl, rfl⟩

/-! ## What is delivered -/

/-- The payload that the cells fill -/
def cellPayload (cells : List RilCellInfo) : CellPayload :=
  ⟨cells.length * sizeOfCellInfo, cells,
    (Nat.mul_div_cancel _ (by decide : 0 < sizeOfCellInfo)).symm⟩

/-- One record for each cell, in order, with the vector of its technology -/
structure CellsDelivered (responseType serial e : Int) (cells : List RilCellInfo) : Prop where
  response : getCellInfoListResponse responseType serial e (some (cellPayload cells)) =
    .ok (populateResponseInfo responseType serial e, cells.map convertRilCellInfo)
  indication : cellInfoListInd (some (cellPayload cells)) =
    .ok (some (cells.map convertRilCellInfo))
  vectors : ∀ cell ∈ cells, ∀ technology ∈ cellTechnology cell.cellInfoType,
    OneVector technology (convertRilCellInfo cell)

/-- The pointer stays, and so each round converts the same cell. -/
theorem convertFrom_eq {cells : List RilCellInfo} {rilCellInfo : Nat} {cell : RilCellInfo}
    (pointsTo : cells[rilCellInfo]? = some cell) (rounds : Nat) :
    convertFrom cells rilCellInfo rounds =
      .ok (List.replicate rounds (convertRilCellInfo cell)) := by
  induction rounds with
  | zero => rfl
  | succ rounds ih =>
      rw [convertFrom, element_eq pointsTo, ok_bind, ih, ok_bind, List.replicate_succ]
      rfl

section Delivered

variable {responseType serial e : Int} {cells : List RilCellInfo} {records : List CellInfo}

/-- Both handlers deliver what the conversion gives. -/
theorem cellsDelivered_iff_convert :
    CellsDelivered responseType serial e cells ↔
      convertRilCellInfoListToHal (cellPayload cells) = .ok (cells.map convertRilCellInfo) := by
  have whole : (cellPayload cells).responseLen % sizeOfCellInfoV12 = 0 := Nat.mul_mod_left _ _
  have response : getCellInfoListResponse responseType serial e (some (cellPayload cells)) =
      convertRilCellInfoListToHal (cellPayload cells) >>= fun records =>
        pure (populateResponseInfo responseType serial e, records) :=
    if_neg (not_not.mpr whole)
  have indication : cellInfoListInd (some (cellPayload cells)) =
      convertRilCellInfoListToHal (cellPayload cells) >>= fun records => pure (some records) :=
    if_neg (not_not.mpr whole)
  constructor
  · intro delivered
    have same := delivered.indication
    rw [indication] at same
    cases converted : convertRilCellInfoListToHal (cellPayload cells) with
    | error fault =>
        rw [converted] at same
        cases same
    | ok records =>
        rw [converted] at same
        cases same
        rfl
  · intro converted
    refine ⟨?_, ?_, ?_⟩
    · rw [response, converted]
      rfl
    · rw [indication, converted]
      rfl
    · exact fun cell _ technology found => oneVector_convertRilCellInfo found

/-- The number of rounds is the number of cells in an `int`. -/
theorem convertRilCellInfoListToHal_eq (first : RilCellInfo) (rest : List RilCellInfo) :
    convertRilCellInfoListToHal (cellPayload (first :: rest)) =
      if wrap32 ((first :: rest).length : Int) < 0 then .error .negativeSize
      else .ok (List.replicate (wrap32 ((first :: rest).length : Int)).toNat
        (convertRilCellInfo first)) := by
  have count : (cellPayload (first :: rest)).responseLen / sizeOfCellInfo =
      (first :: rest).length := (cellPayload (first :: rest)).cells_length.symm
  rw [convertRilCellInfoListToHal, count, vectorSize]
  split
  case isTrue => rfl
  case isFalse =>
    rw [ok_bind]
    exact convertFrom_eq rfl _

theorem forall_mem_eq_iff_replicate {first : RilCellInfo} {rest : List RilCellInfo} :
    List.replicate (first :: rest).length (convertRilCellInfo first) =
        (first :: rest).map convertRilCellInfo ↔
      ∀ cell ∈ first :: rest, SameCell cell first := by
  rw [eq_comm, List.eq_replicate_iff, List.length_map]
  simp only [true_and, List.forall_mem_map, convertRilCellInfo_eq_iff]

theorem wrap32_zero : wrap32 0 = 0 := by
  decide

/-- Every cell is delivered just if their number fits an `int` and all of them agree with the first
one. -/
theorem cellsDelivered_iff :
    CellsDelivered responseType serial e cells ↔
      cells.length < 2 ^ 31 ∧ ∀ first ∈ cells.head?, ∀ cell ∈ cells, SameCell cell first := by
  rw [cellsDelivered_iff_convert]
  cases cells with
  | nil =>
      have none : convertRilCellInfoListToHal (cellPayload []) = .ok [] := by
        unfold convertRilCellInfoListToHal
        exact congrArg (fun num => vectorSize num >>= convertFrom [] 0) wrap32_zero
      exact iff_of_true none ⟨by decide, nofun⟩
  | cons first rest =>
      rw [convertRilCellInfoListToHal_eq]
      simp only [List.head?_cons, Option.mem_def, Option.some.injEq, forall_eq']
      by_cases fits : (first :: rest).length < 2 ^ 31
      · have exact : wrap32 ((first :: rest).length : Int) = (first :: rest).length :=
          Int.bmod_eq_of_le_mul_two (by omega) (by omega)
        rw [exact, if_neg (by omega), Int.toNat_natCast, Except.ok.injEq,
          forall_mem_eq_iff_replicate]
        exact (and_iff_right fits).symm
      · apply iff_of_false _ fun both => fits both.1
        intro delivered
        have below : wrap32 ((first :: rest).length : Int) < 2 ^ 31 := by
          have half := @Int.bmod_lt ((first :: rest).length : Int) (2 ^ 32) (by decide)
          rw [wrap32]
          omega
        split at delivered
        case isTrue => cases delivered
        case isFalse nonneg =>
          have count := congrArg List.length (Except.ok.inj delivered)
          rw [List.length_replicate, List.length_map] at count
          omega

end Delivered

/-- A cell with nothing but its technology -/
def bareCell (technology : CellTechnology) : RilCellInfo :=
  ⟨technology.cellInfoType, 1, 0, 0, Vector.replicate 11 0⟩

/-- A GSM cell and an LTE cell give two records of the GSM cell. -/
theorem cellsDelivered_first_only :
    ¬ CellsDelivered 0 1 0 [bareCell .gsm, bareCell .lte] := by
  intro delivered
  rw [cellsDelivered_iff_convert, convertRilCellInfoListToHal_eq] at delivered
  have two : wrap32 (([bareCell .gsm, bareCell .lte].length : Nat) : Int) = 2 := by decide
  rw [two, if_neg (by decide)] at delivered
  have types := congrArg (List.map CellInfo.cellInfoType) (Except.ok.inj delivered)
  simp [bareCell, CellTechnology.cellInfoType] at types

end X3Hal.Ril
