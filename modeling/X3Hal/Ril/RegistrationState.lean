import X3Hal.Ril.CellIdentity

/-!
# Payloads that are read by index

The handlers of the registration states, of logical channels and of calls read strings or `int`s
of their payloads by fixed indices.  Some check the length before, for fewer elements than they
read, and two do not check it or check it in bytes.
-/

namespace X3Hal.Ril

open X3Hal.Memory
open X3Hal.Gps (wrap32)
open X3Hal.Wpa (atoi)

/-! ## Registration states -/

structure VoiceRegStateResult where
  regState : Int
  rat : Int
  cssSupported : Bool
  roamingIndicator : Int
  systemIsInPrl : Int
  defaultRoamingIndicator : Int
  reasonForDenial : Int
  cellIdentity : CellIdentity
  deriving DecidableEq

/-- The result with nothing set -/
def VoiceRegStateResult.empty : VoiceRegStateResult :=
  ⟨0, 0, false, 0, 0, 0, 0, .empty 0⟩

structure DataRegStateResult where
  regState : Int
  rat : Int
  reasonDataDenied : Int
  maxDataCalls : Int
  cellIdentity : CellIdentity
  deriving DecidableEq

def DataRegStateResult.empty : DataRegStateResult :=
  ⟨0, 0, 0, 0, .empty 0⟩

/-- `ATOI_NULL_HANDLED_DEF`, which with -1 is `ATOI_NULL_HANDLED`, on a string of the payload -/
def atoiNullHandledDef (payload : ModemPayload) (i : Nat) (defaultVal : Int) : Checked Int := do
  pure ((← element payload.strings i).elim defaultVal atoi)

/-- A string that is read when there are more than four -/
def beyondFour (payload : ModemPayload) (i : Nat) (defaultVal otherwise : Int) : Checked Int :=
  if 4 < payload.numStrings then atoiNullHandledDef payload i defaultVal else pure otherwise

def voiceRegFromStrings (payload : ModemPayload) : Checked VoiceRegStateResult := do
  let regState ← atoiNullHandledDef payload 0 4
  let rat ← atoiNullHandledDef payload 3 (-1)
  let cssSupported ← beyondFour payload 7 0 0
  let roamingIndicator ← beyondFour payload 10 (-1) (-1)
  let systemIsInPrl ← beyondFour payload 11 0 0
  let defaultRoamingIndicator ← beyondFour payload 12 0 0
  let reasonForDenial ← beyondFour payload 13 0 0
  let cellIdentity ← fillCellIdentityFromVoiceRegStateResponseString payload
  pure ⟨regState, rat, cssSupported ≠ 0, roamingIndicator, systemIsInPrl, defaultRoamingIndicator,
    reasonForDenial, cellIdentity⟩

/-- A `RIL_VoiceRegistrationStateResponse` of fourteen words -/
def voiceRegFromStructure (payload : ModemPayload) : Checked VoiceRegStateResult := do
  let regState ← element payload.ints 0
  let rat ← element payload.ints 1
  let cssSupported ← element payload.ints 2
  let roamingIndicator ← element payload.ints 3
  let systemIsInPrl ← element payload.ints 4
  let defaultRoamingIndicator ← element payload.ints 5
  let reasonForDenial ← element payload.ints 6
  let cellInfoType ← element payload.ints 7
  let cellIdentity ← fillCellIdentityResponse cellInfoType fun i => element payload.ints (8 + i)
  pure ⟨regState, rat, cssSupported ≠ 0, roamingIndicator, systemIsInPrl, defaultRoamingIndicator,
    reasonForDenial, cellIdentity⟩

def getVoiceRegistrationStateResponse (version responseType serial e : Int)
    (response : Option ModemPayload) : Checked (RadioResponseInfo × VoiceRegStateResult) :=
  let info := populateResponseInfo responseType serial e
  match response with
  | none => pure (info.invalidate, .empty)
  | some payload =>
      if version ≤ 14 then
        if payload.numStrings < 4 then pure (info.invalidate, .empty)
        else do pure (info, ← voiceRegFromStrings payload)
      else if payload.responseLen ≠ 56 then pure (info.invalidate, .empty)
      else do pure (info, ← voiceRegFromStructure payload)

def dataRegFromStrings (payload : ModemPayload) : Checked DataRegStateResult := do
  let regState ← atoiNullHandledDef payload 0 4
  let rat ← atoiNullHandledDef payload 3 0
  let reasonDataDenied ← beyondFour payload 4 (-1) (-1)
  let maxDataCalls ← beyondFour payload 5 1 1
  let cellIdentity ← fillCellIdentityFromDataRegStateResponseString payload
  -- the vendor library's own technologies stand for HSPAP
  pure ⟨regState, if 128 ≤ rat then 15 else rat, reasonDataDenied, maxDataCalls, cellIdentity⟩

/-- A `RIL_DataRegistrationStateResponse` of eleven words -/
def dataRegFromStructure (payload : ModemPayload) : Checked DataRegStateResult := do
  let regState ← element payload.ints 0
  let rat ← element payload.ints 1
  let reasonDataDenied ← element payload.ints 2
  let maxDataCalls ← element payload.ints 3
  let cellInfoType ← element payload.ints 4
  let cellIdentity ← fillCellIdentityResponse cellInfoType fun i => element payload.ints (5 + i)
  pure ⟨regState, rat, reasonDataDenied, maxDataCalls, cellIdentity⟩

def getDataRegistrationStateResponse (version responseType serial e : Int)
    (response : Option ModemPayload) : Checked (RadioResponseInfo × DataRegStateResult) :=
  let info := populateResponseInfo responseType serial e
  match response with
  | none => pure (info.invalidate, .empty)
  | some payload =>
      if version ≤ 14 then
        if payload.numStrings ≠ 4 ∧ payload.numStrings ≠ 6 ∧ payload.numStrings ≠ 11 then
          pure (info.invalidate, .empty)
        else do pure (info, ← dataRegFromStrings payload)
      else if payload.responseLen ≠ 44 then pure (info.invalidate, .empty)
      else do pure (info, ← dataRegFromStructure payload)

/-! ## Logical channels and calls -/

structure OpenLogicalChannelResult where
  info : RadioResponseInfo
  channelId : Int
  selectResponse : List Int
  deriving DecidableEq

def iccOpenLogicalChannelResponse (responseType serial e : Int) (response : Option ModemPayload) :
    Checked OpenLogicalChannelResult :=
  let info := populateResponseInfo responseType serial e
  match response with
  | none => pure ⟨info.invalidate, -1, []⟩
  | some payload =>
      if payload.responseLen % 4 ≠ 0 then pure ⟨info.invalidate, -1, []⟩
      else do
        let channelId ← element payload.ints 0
        let count ← vectorSize (payload.numInts - 1)
        let selectResponse ← (List.range count).mapM fun i => do
          pure ((← element payload.ints (i + 1)).bmod 256)
        pure ⟨info, channelId, selectResponse⟩

/-- The three numbers of the request that answers an incoming call, of which the framework is
told, too. -/
def incomingCallInd (payload : ModemPayload) : Checked (List Int) := do
  let p0 := atoi (← target (← element payload.strings 3))
  let p1 := atoi (← target (← element payload.strings 0))
  let p2 := atoi (← target (← element payload.strings 4))
  pure [p0, p1, p2]

/-- Whether the framework is told of a call.  The length is one in bytes. -/
def callInfoInd (payload : ModemPayload) : Checked Bool :=
  if 2 ≤ payload.responseLen then do
    pure ((← target (← element payload.strings 1)) = ascii "129")
  else pure false

/-! ## Which payloads are read inside -/

section Accesses

variable {payload : ModemPayload} {β : Type} {P : Prop} {next : Int → Checked β}

theorem stays_atoiNullHandledDef_bind_iff {i : Nat} {defaultVal : Int}
    (follows : ∀ value, Stays (next value) ↔ P) :
    Stays (atoiNullHandledDef payload i defaultVal >>= next) ↔ i < payload.strings.length ∧ P := by
  have joined : (atoiNullHandledDef payload i defaultVal >>= next) =
      element payload.strings i >>= fun pointer => next (pointer.elim defaultVal atoi) := by
    unfold atoiNullHandledDef
    cases element payload.strings i <;> rfl
  rw [joined]
  exact stays_element_bind_iff fun pointer _ => follows _

theorem stays_beyondFour_bind_iff {i : Nat} {defaultVal otherwise : Int}
    (follows : ∀ value, Stays (next value) ↔ P) :
    Stays (beyondFour payload i defaultVal otherwise >>= next) ↔
      (4 < payload.numStrings → i < payload.strings.length) ∧ P := by
  unfold beyondFour
  split
  case isTrue more =>
    rw [stays_atoiNullHandledDef_bind_iff follows]
    simp [more]
  case isFalse fewer => simpa [fewer] using follows otherwise

theorem stays_bind_pure_iff {α : Type} {run : Checked α} (f : α → β) :
    Stays (run >>= fun value => pure (f value)) ↔ Stays run := by
  cases run with
  | error fault => simp [Stays, bind, Except.bind]
  | ok value => exact iff_of_true (stays_ok _) (stays_ok _)

theorem stays_voiceRegFromStrings_iff :
    Stays (voiceRegFromStrings payload) ↔ 3 < payload.strings.length ∧
      (4 < payload.numStrings → 13 < payload.strings.length) := by
  refine (stays_atoiNullHandledDef_bind_iff fun _ => stays_atoiNullHandledDef_bind_iff fun _ =>
    stays_beyondFour_bind_iff fun _ => stays_beyondFour_bind_iff fun _ =>
    stays_beyondFour_bind_iff fun _ => stays_beyondFour_bind_iff fun _ =>
    stays_beyondFour_bind_iff fun _ => (stays_bind_pure_iff _).trans
      (stays_fillCellIdentityFrom_iff voiceEntries payload)).trans ?_
  constructor
  · rintro ⟨-, inside, -, -, -, -, last, -⟩
    exact ⟨inside, last⟩
  · rintro ⟨inside, last⟩
    refine ⟨by omega, inside, ?_, ?_, ?_, ?_, last, inside⟩
    all_goals
      intro more
      have within := last more
      omega

theorem stays_dataRegFromStrings_iff :
    Stays (dataRegFromStrings payload) ↔ 3 < payload.strings.length ∧
      (4 < payload.numStrings → 5 < payload.strings.length) := by
  refine (stays_atoiNullHandledDef_bind_iff fun _ => stays_atoiNullHandledDef_bind_iff fun _ =>
    stays_beyondFour_bind_iff fun _ => stays_beyondFour_bind_iff fun _ =>
    (stays_bind_pure_iff _).trans (stays_fillCellIdentityFrom_iff dataEntries payload)).trans ?_
  constructor
  · rintro ⟨-, inside, -, last, -⟩
    exact ⟨inside, last⟩
  · rintro ⟨inside, last⟩
    refine ⟨by omega, inside, ?_, last, inside⟩
    intro more
    have within := last more
    omega

/-- The words of a structure are those of its size. -/
theorem stays_voiceRegFromStructure (whole : payload.responseLen = 56) :
    Stays (voiceRegFromStructure payload) := by
  have words := payload.ints_length
  rw [whole] at words
  unfold voiceRegFromStructure
  repeat
    apply stays_bind (stays_element (by omega))
    intro value read
  apply stays_bind
  · apply stays_fillCellIdentityResponse
    intro i small
    exact stays_element (by omega)
  · exact fun cellIdentity _ => stays_ok _

theorem stays_dataRegFromStructure (whole : payload.responseLen = 44) :
    Stays (dataRegFromStructure payload) := by
  have words := payload.ints_length
  rw [whole] at words
  unfold dataRegFromStructure
  repeat
    apply stays_bind (stays_element (by omega))
    intro value read
  apply stays_bind
  · apply stays_fillCellIdentityResponse
    intro i small
    exact stays_element (by omega)
  · exact fun cellIdentity _ => stays_ok _

variable {version responseType serial e : Int}

theorem stays_getVoiceRegistrationStateResponse_iff :
    Stays (getVoiceRegistrationStateResponse version responseType serial e (some payload)) ↔
      14 < version ∨ payload.numStrings ≤ 4 ∨ 14 ≤ payload.responseLen / 8 := by
  have within := payload.numStrings_le
  have count := payload.strings_length
  unfold getVoiceRegistrationStateResponse
  by_cases old : version ≤ 14
  · by_cases few : payload.numStrings < 4
    · simp only [old, few, if_true]
      exact iff_of_true (stays_ok _) (Or.inr (Or.inl (by omega)))
    · simp only [old, few, if_true, if_false]
      rw [stays_bind_pure_iff, stays_voiceRegFromStrings_iff]
      omega
  · simp only [old, if_false]
    split
    case isTrue => exact iff_of_true (stays_ok _) (Or.inl (by omega))
    case isFalse whole =>
      rw [stays_bind_pure_iff]
      exact iff_of_true (stays_voiceRegFromStructure (not_not.mp whole)) (Or.inl (by omega))

/-- Four, six or eleven strings are enough for what is read. -/
theorem stays_getDataRegistrationStateResponse :
    Stays (getDataRegistrationStateResponse version responseType serial e (some payload)) := by
  have within := payload.numStrings_le
  unfold getDataRegistrationStateResponse
  by_cases old : version ≤ 14
  · simp only [old, if_true]
    split
    case isTrue => exact stays_ok _
    case isFalse counts =>
      rw [stays_bind_pure_iff, stays_dataRegFromStrings_iff]
      omega
  · simp only [old, if_false]
    split
    case isTrue => exact stays_ok _
    case isFalse whole =>
      rw [stays_bind_pure_iff]
      exact stays_dataRegFromStructure (not_not.mp whole)

theorem stays_iccOpenLogicalChannelResponse_iff :
    Stays (iccOpenLogicalChannelResponse responseType serial e (some payload)) ↔
      payload.responseLen % 4 ≠ 0 ∨ 1 ≤ payload.numInts := by
  have within := payload.numInts_le
  unfold iccOpenLogicalChannelResponse
  dsimp only
  by_cases ragged : payload.responseLen % 4 ≠ 0
  · rw [if_pos ragged]
    exact iff_of_true (stays_ok _) (Or.inl ragged)
  · rw [if_neg ragged]
    refine (stays_element_bind_iff (P := 1 ≤ payload.numInts) ?_).trans (by omega)
    intro channelId _
    refine stays_vectorSize_bind_iff.trans ?_
    rw [Int.sub_nonneg]
    apply and_iff_left_of_imp
    intro holdsOne
    apply stays_bind
    · apply stays_mapM
      intro i among
      rw [List.mem_range] at among
      apply stays_bind (stays_element (by omega))
      exact fun value _ => stays_ok _
    · exact fun selectResponse _ => stays_ok _

/-- What comes behind a null string is not read. -/
theorem stays_incomingCallInd_iff :
    Stays (incomingCallInd payload) ↔ 3 < payload.strings.length ∧
      (payload.strings[3]? = some none ∨ payload.strings[0]? = some none ∨
        4 < payload.strings.length) := by
  unfold incomingCallInd
  apply stays_element_bind_iff
  intro fourth isFourth
  rw [isFourth]
  cases fourth with
  | none => exact iff_of_true ⟨nofun, nofun⟩ (Or.inl rfl)
  | some text =>
      have present : 3 < payload.strings.length := (List.getElem?_eq_some_iff.mp isFourth).1
      simp only [target_some, ok_bind, Option.some.injEq, reduceCtorEq, false_or]
      refine (stays_element_bind_iff (P := payload.strings[0]? = some none ∨
        4 < payload.strings.length) ?_).trans (and_iff_right (by omega))
      intro first isFirst
      rw [isFirst]
      cases first with
      | none => exact iff_of_true ⟨nofun, nofun⟩ (Or.inl rfl)
      | some text =>
          simp only [target_some, ok_bind, Option.some.injEq, reduceCtorEq, false_or]
          refine (stays_element_bind_iff (P := True) ?_).trans (and_true _).to_iff
          intro fifth _
          cases fifth with
          | none => exact iff_of_true ⟨nofun, nofun⟩ trivial
          | some text => exact iff_of_true (stays_ok _) trivial

theorem stays_callInfoInd_iff :
    Stays (callInfoInd payload) ↔ payload.responseLen < 2 ∨ 16 ≤ payload.responseLen := by
  have count := payload.strings_length
  unfold callInfoInd
  split
  case isTrue checked =>
    refine (stays_element_bind_iff (P := True) ?_).trans ((and_true _).to_iff.trans (by omega))
    intro pointer _
    rw [stays_bind_pure_iff]
    cases pointer with
    | none => exact iff_of_true ⟨nofun, nofun⟩ trivial
    | some text => exact iff_of_true (stays_ok _) trivial
  case isFalse short => exact iff_of_true (stays_ok _) (Or.inl (by omega))

end Accesses

/-! ## The handlers together -/

inductive PayloadHandler
  | voiceRegistration (version : Int)
  | dataRegistration (version : Int)
  | openLogicalChannel
  | incomingCall
  | callInfo
  deriving DecidableEq

/-- Every string and `int` that the handler reads is in the payload, and every vector gets a length
that is not negative. -/
def PayloadHandler.InBounds (responseType serial e : Int) (payload : ModemPayload) :
    PayloadHandler → Prop
  | voiceRegistration version =>
      Stays (getVoiceRegistrationStateResponse version responseType serial e (some payload))
  | dataRegistration version =>
      Stays (getDataRegistrationStateResponse version responseType serial e (some payload))
  | openLogicalChannel =>
      Stays (iccOpenLogicalChannelResponse responseType serial e (some payload))
  | incomingCall => Stays (incomingCallInd payload)
  | callInfo => Stays (callInfoInd payload)

/-- Which payloads are long enough for what the handler reads -/
def PayloadHandler.LongEnough (payload : ModemPayload) : PayloadHandler → Prop
  | voiceRegistration version =>
      14 < version ∨ payload.numStrings ≤ 4 ∨ 14 ≤ payload.responseLen / 8
  | dataRegistration _ => True
  | openLogicalChannel => payload.responseLen % 4 ≠ 0 ∨ 1 ≤ payload.numInts
  | incomingCall => 3 < payload.strings.length ∧
      (payload.strings[3]? = some none ∨ payload.strings[0]? = some none ∨
        4 < payload.strings.length)
  | callInfo => payload.responseLen < 2 ∨ 16 ≤ payload.responseLen

theorem payload_inBounds_iff (handler : PayloadHandler) (responseType serial e : Int)
    (payload : ModemPayload) :
    handler.InBounds responseType serial e payload ↔ handler.LongEnough payload := by
  cases handler with
  | voiceRegistration version => exact stays_getVoiceRegistrationStateResponse_iff
  | dataRegistration version => exact iff_of_true stays_getDataRegistrationStateResponse trivial
  | openLogicalChannel => exact stays_iccOpenLogicalChannelResponse_iff
  | incomingCall => exact stays_incomingCallInd_iff
  | callInfo => exact stays_callInfoInd_iff

/-- Six strings are accepted for the voice registration, and the eighth one is read. -/
theorem voiceRegistration_outside :
    ¬ PayloadHandler.InBounds 0 1 0
      ⟨48, List.replicate 6 (some (ascii "1")), List.replicate 12 0, rfl, rfl⟩
      (.voiceRegistration 12) := by
  rintro ⟨inside, -⟩
  exact inside (by decide +kernel)

end X3Hal.Ril
