import X3Hal.Memory.Strings
import X3Hal.Ril.ModemPayload
import Mathlib.Data.List.TakeWhile

/-!
# Settings that are read back

The framework sets broadcast configurations, call forwarding, the allowed carriers and the radio
capability, and a get response brings them back.  Each goes through a structure of the vendor
library in either direction; its strings are C strings, in blocks of their own or in an array of
the structure.

A request is one that the vendor library gets at once.  No list has 2^31 elements.
-/

namespace X3Hal.Ril.Settings

open X3Hal.Memory

/-! ## Strings -/

/-- The memory behind `c_str()` -/
def cStr (src : List UInt8) : Option (List UInt8) :=
  some (src ++ [0])

/-- `copyHidlStringToRil`, with enough memory -/
def copyHidlStringToRil (src : List UInt8) : Option (List UInt8) :=
  if src = [] then none else some (strncpy (src.length + 1) src)

/-- `convertCharPtrToHidlString`, on the memory behind the pointer -/
def hidlStringAt : Option (List UInt8) → Checked (List UInt8)
  | none => pure []
  | some memory => stringAt memory

/-! ## Lists of structures -/

/-- The memory behind a response, as an array of pointers to structures -/
structure PointerArray (α : Type) where
  responseLen : Nat
  elements : List α
  elements_length : elements.length = responseLen / 8

/-- What a request passes: an array of pointers to the structures of a list. -/
def PointerArray.ofList {α : Type} (elements : List α) : PointerArray α :=
  ⟨elements.length * 8, elements, by omega⟩

/-- The get responses that bring a list -/
def listResponse {α β : Type} (convert : β → Checked α) (responseType serial e : Int)
    (response : Option (PointerArray β)) : Checked (RadioResponseInfo × List α) :=
  let info := populateResponseInfo responseType serial e
  match response with
  | none => pure (info.invalidate, [])
  | some array =>
      if array.responseLen % 8 ≠ 0 then pure (info.invalidate, [])
      else do
        let elements ← array.elements.mapM convert
        pure (info, elements)

/-! ## Broadcast configurations -/

structure GsmBroadcastSmsConfigInfo where
  fromServiceId : Int
  toServiceId : Int
  fromCodeScheme : Int
  toCodeScheme : Int
  selected : Bool
  deriving DecidableEq

/-- `RIL_GSM_BroadcastSmsConfigInfo` -/
structure RilGsmBroadcastSmsConfigInfo where
  fromServiceId : Int
  toServiceId : Int
  fromCodeScheme : Int
  toCodeScheme : Int
  selected : UInt8

structure CdmaBroadcastSmsConfigInfo where
  serviceCategory : Int
  language : Int
  selected : Bool
  deriving DecidableEq

/-- `RIL_CDMA_BroadcastSmsConfigInfo` -/
structure RilCdmaBroadcastSmsConfigInfo where
  serviceCategory : Int
  language : Int
  selected : UInt8

/-- `BOOL_TO_INT` -/
def boolToInt (value : Bool) : UInt8 :=
  if value then 1 else 0

def setGsmBroadcastConfig (configInfo : List GsmBroadcastSmsConfigInfo) :
    PointerArray RilGsmBroadcastSmsConfigInfo :=
  .ofList (configInfo.map fun config =>
    ⟨config.fromServiceId, config.toServiceId, config.fromCodeScheme, config.toCodeScheme,
      boolToInt config.selected⟩)

def getGsmBroadcastConfigResponse (responseType serial e : Int) :
    Option (PointerArray RilGsmBroadcastSmsConfigInfo) →
      Checked (RadioResponseInfo × List GsmBroadcastSmsConfigInfo) :=
  listResponse (fun resp =>
    pure ⟨resp.fromServiceId, resp.toServiceId, resp.fromCodeScheme, resp.toCodeScheme,
      resp.selected = 1⟩) responseType serial e

def setCdmaBroadcastConfig (configInfo : List CdmaBroadcastSmsConfigInfo) :
    PointerArray RilCdmaBroadcastSmsConfigInfo :=
  .ofList (configInfo.map fun config =>
    ⟨config.serviceCategory, config.language, boolToInt config.selected⟩)

def getCdmaBroadcastConfigResponse (responseType serial e : Int) :
    Option (PointerArray RilCdmaBroadcastSmsConfigInfo) →
      Checked (RadioResponseInfo × List CdmaBroadcastSmsConfigInfo) :=
  listResponse (fun resp => pure ⟨resp.serviceCategory, resp.language, resp.selected = 1⟩)
    responseType serial e

/-! ## Call forwarding -/

structure CallForwardInfo where
  status : Int
  reason : Int
  serviceClass : Int
  toa : Int
  number : List UInt8
  timeSeconds : Int
  deriving DecidableEq

/-- `RIL_CallForwardInfo` -/
structure RilCallForwardInfo where
  status : Int
  reason : Int
  serviceClass : Int
  toa : Int
  number : Option (List UInt8)
  timeSeconds : Int

/-- The structure that `dispatchCallForwardStatus` passes -/
def callForwardStatus (callInfo : CallForwardInfo) : RilCallForwardInfo :=
  ⟨callInfo.status, callInfo.reason, callInfo.serviceClass, callInfo.toa,
    copyHidlStringToRil callInfo.number, callInfo.timeSeconds⟩

def halCallForwardInfo (resp : RilCallForwardInfo) : Checked CallForwardInfo := do
  let number ← hidlStringAt resp.number
  pure ⟨resp.status, resp.reason, resp.serviceClass, resp.toa, number, resp.timeSeconds⟩

def getCallForwardStatusResponse (responseType serial e : Int) :
    Option (PointerArray RilCallForwardInfo) →
      Checked (RadioResponseInfo × List CallForwardInfo) :=
  listResponse halCallForwardInfo responseType serial e

/-! ## Allowed carriers -/

structure Carrier where
  mcc : List UInt8
  mnc : List UInt8
  matchType : Int
  matchData : List UInt8
  deriving DecidableEq

structure CarrierRestrictions where
  allowedCarriers : List Carrier
  excludedCarriers : List Carrier
  deriving DecidableEq

/-- `RIL_Carrier` -/
structure RilCarrier where
  mcc : Option (List UInt8)
  mnc : Option (List UInt8)
  matchType : Int
  matchData : Option (List UInt8)

/-- `RIL_CarrierRestrictions`; its lengths are those of the arrays. -/
structure RilCarrierRestrictions where
  allowedCarriers : List RilCarrier
  excludedCarriers : List RilCarrier

/-- `sizeof(RIL_CarrierRestrictions)` -/
def sizeOfCarrierRestrictions : Nat := 24

def rilCarrier (carrier : Carrier) : RilCarrier :=
  ⟨cStr carrier.mcc, cStr carrier.mnc, carrier.matchType, cStr carrier.matchData⟩

/-- `setAllowedCarriers`, with enough memory.  Nobody looks at its `allAllowed`. -/
def setAllowedCarriers (_allAllowed : Bool) (carriers : CarrierRestrictions) :
    Nat × RilCarrierRestrictions :=
  (sizeOfCarrierRestrictions,
    ⟨carriers.allowedCarriers.map rilCarrier, carriers.excludedCarriers.map rilCarrier⟩)

def halCarrier (carrier : RilCarrier) : Checked Carrier := do
  let mcc ← hidlStringAt carrier.mcc
  let mnc ← hidlStringAt carrier.mnc
  let matchData ← hidlStringAt carrier.matchData
  pure ⟨mcc, mnc, carrier.matchType, matchData⟩

/-- `getAllowedCarriersResponse`, with its `allAllowed` -/
def getAllowedCarriersResponse (responseType serial e : Int) :
    Option (Nat × RilCarrierRestrictions) →
      Checked (RadioResponseInfo × Bool × CarrierRestrictions)
  | none => pure (populateResponseInfo responseType serial e, true, ⟨[], []⟩)
  | some (responseLen, cr) =>
      let info := populateResponseInfo responseType serial e
      if responseLen ≠ sizeOfCarrierRestrictions then pure (info.invalidate, true, ⟨[], []⟩)
      else do
        let allAllowed := !(0 < cr.allowedCarriers.length || 0 < cr.excludedCarriers.length)
        let allowed ← cr.allowedCarriers.mapM halCarrier
        let excluded ← cr.excludedCarriers.mapM halCarrier
        pure (info, allAllowed, ⟨allowed, excluded⟩)

/-! ## The radio capability -/

structure RadioCapability where
  session : Int
  phase : Int
  raf : Int
  logicalModemUuid : List UInt8
  status : Int
  deriving DecidableEq

/-- `MAX_UUID_LENGTH` -/
def maxUuidLength : Nat := 64

/-- `RIL_RadioCapability`, and the memory behind it -/
structure RilRadioCapability where
  version : Int
  session : Int
  phase : Int
  rat : Int
  logicalModemUuid : List UInt8
  status : Int
  beyond : List UInt8

/-- `sizeof(RIL_RadioCapability)` -/
def sizeOfRadioCapability : Nat := 84

/-- What `setRadioCapability` passes.  The array is not always terminated. -/
def setRadioCapability (rc : RadioCapability) (beyond : List UInt8) : Nat × RilRadioCapability :=
  (sizeOfRadioCapability, ⟨0, rc.session, rc.phase, rc.raf,
    strncpy maxUuidLength rc.logicalModemUuid, rc.status, beyond⟩)

/-- The bytes of an `int` -/
def intMemory (value : Int) : List UInt8 :=
  leBytes 4 (value % 2 ^ 32).toNat

/-- A string that is not terminated goes on in the status and behind the structure. -/
def convertRilRadioCapabilityToHal (response : RilRadioCapability) : Checked RadioCapability := do
  let logicalModemUuid ← stringAt
    (response.logicalModemUuid ++ (intMemory response.status ++ response.beyond))
  pure ⟨response.session, response.phase, response.rat, logicalModemUuid, response.status⟩

/-- `responseRadioCapability`, of the get and of the set response -/
def responseRadioCapability (responseType serial e : Int) :
    Option (Nat × RilRadioCapability) → Checked (RadioResponseInfo × RadioCapability)
  | some (responseLen, response) =>
      if responseLen ≠ sizeOfRadioCapability then
        pure ((populateResponseInfo responseType serial e).invalidate, ⟨0, 0, 0, [], 0⟩)
      else do
        let rc ← convertRilRadioCapabilityToHal response
        pure (populateResponseInfo responseType serial e, rc)
  | none => pure ((populateResponseInfo responseType serial e).invalidate, ⟨0, 0, 0, [], 0⟩)

/-! ## What comes back -/

/-- What is set comes back exactly under these conditions, with the error of the response. -/
structure SettingsExact (responseType serial e : Int) : Prop where
  gsmBroadcast (configs : List GsmBroadcastSmsConfigInfo) :
    getGsmBroadcastConfigResponse responseType serial e (some (setGsmBroadcastConfig configs)) =
      .ok (populateResponseInfo responseType serial e, configs)
  cdmaBroadcast (configs : List CdmaBroadcastSmsConfigInfo) :
    getCdmaBroadcastConfigResponse responseType serial e (some (setCdmaBroadcastConfig configs)) =
      .ok (populateResponseInfo responseType serial e, configs)
  callForward (infos : List CallForwardInfo) :
    getCallForwardStatusResponse responseType serial e
        (some (.ofList (infos.map callForwardStatus))) =
      .ok (populateResponseInfo responseType serial e, infos) ↔ ∀ info ∈ infos, 0 ∉ info.number
  allowedCarriers (allAllowed : Bool) (carriers : CarrierRestrictions) :
    getAllowedCarriersResponse responseType serial e
        (some (setAllowedCarriers allAllowed carriers)) =
      .ok (populateResponseInfo responseType serial e, allAllowed, carriers) ↔
    (allAllowed = true ↔ carriers = ⟨[], []⟩) ∧
      ∀ carrier ∈ carriers.allowedCarriers ++ carriers.excludedCarriers,
        0 ∉ carrier.mcc ∧ 0 ∉ carrier.mnc ∧ 0 ∉ carrier.matchData
  radioCapability (rc : RadioCapability) (beyond : List UInt8) :
    responseRadioCapability responseType serial e (some (setRadioCapability rc beyond)) =
      .ok (populateResponseInfo responseType serial e, rc) ↔
    0 ∉ rc.logicalModemUuid ∧ (rc.logicalModemUuid.length < maxUuidLength ∨
      stringAt (intMemory rc.status ++ beyond) = .ok (rc.logicalModemUuid.drop maxUuidLength))

/-! ## Strings, there and back -/

theorem takeWhile_eq_self_iff_plain {src : List UInt8} :
    src.takeWhile (fun byte => byte ≠ 0) = src ↔ 0 ∉ src := by
  rw [List.takeWhile_eq_self_iff]
  constructor
  · intro plain occurs
    exact absurd (plain 0 occurs) (by decide)
  · intro plain byte among
    exact decide_eq_true fun zero => plain (zero ▸ among)

theorem not_mem_takeWhile_nul (src : List UInt8) : 0 ∉ src.takeWhile fun byte => byte ≠ 0 := by
  intro occurs
  have nonzero := List.mem_takeWhile_imp occurs
  simp at nonzero

theorem hidlStringAt_cStr (src : List UInt8) :
    hidlStringAt (cStr src) = .ok (src.takeWhile fun byte => byte ≠ 0) := by
  show stringAt (src ++ [0]) = _
  rw [stringAt, if_pos (List.mem_append_right _ (List.mem_singleton_self 0))]
  exact congrArg _ (takeWhile_append_nul src [])

theorem hidlStringAt_copyHidlStringToRil (src : List UInt8) :
    hidlStringAt (copyHidlStringToRil src) = .ok (src.takeWhile fun byte => byte ≠ 0) := by
  by_cases empty : src = []
  · rw [copyHidlStringToRil, if_pos empty, empty]
    rfl
  · have short : (src.takeWhile fun byte => byte ≠ 0).length ≤ src.length + 1 :=
      (List.takeWhile_prefix _).length_le.trans (Nat.le_succ _)
    have room : src.length + 1 - (src.takeWhile fun byte => byte ≠ 0).length ≠ 0 := by
      have bound := (List.takeWhile_prefix (l := src) fun byte => byte ≠ 0).length_le
      omega
    have ends : 0 ∈ List.replicate
        (src.length + 1 - (src.takeWhile fun byte => byte ≠ 0).length) (0 : UInt8) :=
      List.mem_replicate.mpr ⟨room, rfl⟩
    rw [copyHidlStringToRil, if_neg empty]
    show stringAt (strncpy (src.length + 1) src) = _
    rw [strncpy, List.take_of_length_le short, stringAt,
      if_pos (List.mem_append_right _ ends),
      takeWhile_append_replicate (not_mem_takeWhile_nul src)]

/-- A list goes there and back element by element. -/
theorem mapM_map_eq_ok_iff {α β : Type} {convert : β → Checked α} {structured : α → β}
    {items : List α} :
    (items.map structured).mapM convert = .ok items ↔
      ∀ item ∈ items, convert (structured item) = .ok item := by
  induction items with
  | nil => simp [pure, Except.pure]
  | cons item items ih =>
      rw [List.map_cons, List.mapM_cons, List.forall_mem_cons, ← ih]
      cases convert (structured item) with
      | error fault => simp [bind, Except.bind]
      | ok first =>
          cases (items.map structured).mapM convert with
          | error fault => simp [bind, Except.bind]
          | ok rest => simp [bind, Except.bind, pure, Except.pure]

/-! ## The settings -/

section Exact

variable {responseType serial e : Int}

theorem listResponse_eq_ok_iff {α β : Type} {convert : β → Checked α} {structured : α → β}
    {items : List α} :
    listResponse convert responseType serial e (some (.ofList (items.map structured))) =
        .ok (populateResponseInfo responseType serial e, items) ↔
      ∀ item ∈ items, convert (structured item) = .ok item := by
  have aligned : ¬ (PointerArray.ofList (items.map structured)).responseLen % 8 ≠ 0 :=
    not_not.mpr (Nat.mul_mod_left _ 8)
  rw [listResponse, if_neg aligned, ← mapM_map_eq_ok_iff]
  show (((items.map structured).mapM convert).bind fun elements =>
    .ok (populateResponseInfo responseType serial e, elements)) = _ ↔ _
  cases (items.map structured).mapM convert with
  | error fault => simp [Except.bind]
  | ok elements => simp [Except.bind]

theorem boolToInt_eq_one (value : Bool) : decide (boolToInt value = 1) = value := by
  cases value <;> rfl

theorem callForwardStatus_survives_iff (info : CallForwardInfo) :
    halCallForwardInfo (callForwardStatus info) = .ok info ↔ 0 ∉ info.number := by
  rw [halCallForwardInfo, callForwardStatus, hidlStringAt_copyHidlStringToRil, ok_bind,
    ← takeWhile_eq_self_iff_plain]
  cases info
  simp [pure, Except.pure]

theorem halCarrier_rilCarrier_iff (carrier : Carrier) :
    halCarrier (rilCarrier carrier) = .ok carrier ↔
      0 ∉ carrier.mcc ∧ 0 ∉ carrier.mnc ∧ 0 ∉ carrier.matchData := by
  rw [halCarrier, rilCarrier, hidlStringAt_cStr, hidlStringAt_cStr, hidlStringAt_cStr, ok_bind,
    ok_bind, ok_bind, ← takeWhile_eq_self_iff_plain, ← takeWhile_eq_self_iff_plain,
    ← takeWhile_eq_self_iff_plain]
  cases carrier
  simp [pure, Except.pure]

/-- The flag that comes back says whether the lists are empty. -/
theorem getAllowedCarriersResponse_iff (allAllowed : Bool) (carriers : CarrierRestrictions) :
    getAllowedCarriersResponse responseType serial e
        (some (setAllowedCarriers allAllowed carriers)) =
      .ok (populateResponseInfo responseType serial e, allAllowed, carriers) ↔
    (allAllowed = true ↔ carriers = ⟨[], []⟩) ∧
      ∀ carrier ∈ carriers.allowedCarriers ++ carriers.excludedCarriers,
        0 ∉ carrier.mcc ∧ 0 ∉ carrier.mnc ∧ 0 ∉ carrier.matchData := by
  obtain ⟨allowed, excluded⟩ := carriers
  have kept (list : List Carrier) : (list.map rilCarrier).mapM halCarrier = .ok list ↔
      ∀ carrier ∈ list, 0 ∉ carrier.mcc ∧ 0 ∉ carrier.mnc ∧ 0 ∉ carrier.matchData := by
    rw [mapM_map_eq_ok_iff]
    exact forall₂_congr fun carrier _ => halCarrier_rilCarrier_iff carrier
  have flag : (!(0 < (allowed.map rilCarrier).length || 0 < (excluded.map rilCarrier).length)) =
        allAllowed ↔
      (allAllowed = true ↔ (⟨allowed, excluded⟩ : CarrierRestrictions) = ⟨[], []⟩) := by
    cases allowed <;> cases excluded <;> cases allAllowed <;> simp
  rw [List.forall_mem_append, ← kept allowed, ← kept excluded, ← flag]
  rw [setAllowedCarriers, getAllowedCarriersResponse, if_neg (not_not.mpr rfl)]
  cases (allowed.map rilCarrier).mapM halCarrier with
  | error fault => simp [bind, Except.bind]
  | ok first =>
      cases (excluded.map rilCarrier).mapM halCarrier with
      | error fault => simp [bind, Except.bind]
      | ok second => simp [bind, Except.bind, pure, Except.pure]

/-- The memory that the string of a capability is read from. -/
theorem strncpy_eq (size : Nat) (src : List UInt8) :
    (∃ count, strncpy size src =
      (src.takeWhile fun byte => byte ≠ 0) ++ List.replicate (count + 1) 0 ∧
        (src.takeWhile fun byte => byte ≠ 0).length < size) ∨
    strncpy size src = (src.takeWhile fun byte => byte ≠ 0).take size ∧
      size ≤ (src.takeWhile fun byte => byte ≠ 0).length := by
  rcases Nat.lt_or_ge (src.takeWhile fun byte => byte ≠ 0).length size with short | long
  · left
    refine ⟨size - (src.takeWhile fun byte => byte ≠ 0).length - 1, ?_, short⟩
    rw [strncpy, List.take_of_length_le short.le,
      Nat.sub_add_cancel (Nat.sub_pos_of_lt short)]
  · right
    constructor
    · rw [strncpy, List.length_take, Nat.min_eq_left long, Nat.sub_self]
      exact List.append_nil _
    · exact long

/-- A string that fills its array is read on behind it. -/
theorem convertRilRadioCapabilityToHal_iff (rc : RadioCapability) (beyond : List UInt8) :
    convertRilRadioCapabilityToHal (setRadioCapability rc beyond).2 = .ok rc ↔
      0 ∉ rc.logicalModemUuid ∧ (rc.logicalModemUuid.length < maxUuidLength ∨
        stringAt (intMemory rc.status ++ beyond) =
          .ok (rc.logicalModemUuid.drop maxUuidLength)) := by
  obtain ⟨session, phase, raf, uuid, status⟩ := rc
  generalize behind : intMemory status ++ beyond = rest
  have delivered : convertRilRadioCapabilityToHal
        (setRadioCapability ⟨session, phase, raf, uuid, status⟩ beyond).2 =
          .ok ⟨session, phase, raf, uuid, status⟩ ↔
      stringAt (strncpy maxUuidLength uuid ++ rest) = .ok uuid := by
    rw [← behind, setRadioCapability, convertRilRadioCapabilityToHal]
    cases stringAt (strncpy maxUuidLength uuid ++ (intMemory status ++ beyond)) with
    | error fault => simp [bind, Except.bind]
    | ok text => simp [bind, Except.bind, pure, Except.pure]
  rw [delivered]
  have plain := not_mem_takeWhile_nul uuid
  rcases strncpy_eq maxUuidLength uuid with ⟨count, copied, short⟩ | ⟨copied, long⟩
  · rw [copied, stringAt, if_pos (by simp), List.append_assoc, List.replicate_succ,
      List.cons_append, takeWhile_nul plain, Except.ok.injEq, takeWhile_eq_self_iff_plain]
    constructor
    · intro whole
      rw [takeWhile_eq_self_iff_plain.mpr whole] at short
      exact ⟨whole, Or.inl short⟩
    · exact And.left
  · have cut : 0 ∉ (uuid.takeWhile fun byte => byte ≠ 0).take maxUuidLength :=
      fun occurs => plain (List.mem_of_mem_take occurs)
    rw [copied]
    constructor
    · intro reads
      by_cases ends : 0 ∈ rest
      · rw [stringAt, if_pos (List.mem_append_right _ ends), takeWhile_append_plain cut,
          Except.ok.injEq] at reads
        have whole : 0 ∉ uuid := by
          rw [← reads]
          intro occurs
          rcases List.mem_append.mp occurs with first | later
          · exact cut first
          · exact not_mem_takeWhile_nul rest later
        rw [takeWhile_eq_self_iff_plain.mpr whole] at reads long
        constructor
        · exact whole
        · right
          rw [stringAt, if_pos ends, Except.ok.injEq]
          have joined := reads.trans (List.take_append_drop maxUuidLength uuid).symm
          exact List.append_cancel_left joined
      · have absent : 0 ∉ (uuid.takeWhile fun byte => byte ≠ 0).take maxUuidLength ++ rest := by
          intro occurs
          exact (List.mem_append.mp occurs).elim cut ends
        rw [stringAt, if_neg absent] at reads
        cases reads
    · rintro ⟨whole, short | reads⟩
      · rw [takeWhile_eq_self_iff_plain.mpr whole] at long
        exact absurd short (Nat.not_lt.mpr long)
      · rw [takeWhile_eq_self_iff_plain.mpr whole] at cut ⊢
        by_cases ends : 0 ∈ rest
        · rw [stringAt, if_pos ends, Except.ok.injEq] at reads
          rw [stringAt, if_pos (List.mem_append_right _ ends), takeWhile_append_plain cut, reads,
            List.take_append_drop]
        · rw [stringAt, if_neg ends] at reads
          cases reads

/-- Settings come back as they were set, except for texts with a NUL, a flag of the carriers that
their lists do not say, and an identifier that fills its array. -/
theorem settings_exact (responseType serial e : Int) : SettingsExact responseType serial e where
  gsmBroadcast := by
    intro configs
    apply listResponse_eq_ok_iff.mpr
    intro config _
    cases config
    simp [boolToInt_eq_one, pure, Except.pure]
  cdmaBroadcast := by
    intro configs
    apply listResponse_eq_ok_iff.mpr
    intro config _
    cases config
    simp [boolToInt_eq_one, pure, Except.pure]
  callForward := by
    intro infos
    rw [getCallForwardStatusResponse, listResponse_eq_ok_iff]
    exact forall₂_congr fun info _ => callForwardStatus_survives_iff info
  allowedCarriers := getAllowedCarriersResponse_iff
  radioCapability := by
    intro rc beyond
    rw [← convertRilRadioCapabilityToHal_iff, setRadioCapability, responseRadioCapability,
      if_neg (not_not.mpr rfl)]
    cases convertRilRadioCapabilityToHal _ with
    | error fault => simp [bind, Except.bind]
    | ok converted => simp [bind, Except.bind, pure, Except.pure]

end Exact

end X3Hal.Ril.Settings
