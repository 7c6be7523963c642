import X3Hal.Ril.EarlyCache
import X3Hal.Transition.Core
import X3Hal.Transition.Justified
import Mathlib.Data.List.ReduceOption
import Mathlib.Logic.Function.Basic
import Mathlib.Tactic.Common

/-!
# The emulated device identity

Built for MTK hardware, `getDeviceIdentity` asks for the IMEI and the IMEISV before it asks for
the identity.  The completions of the first two leave their strings in `Device_ID`, from which
an identity that is not supported is answered.

`Device_ID` holds the addresses that the vendor library passed.  A completion call is one step
that opens it and one step for its return; the library keeps what it passed until then.
-/

namespace X3Hal.Ril

open X3Hal.Transition

/-- `RIL_REQUEST_GET_IMEI`, `RIL_REQUEST_GET_IMEISV` and `RIL_REQUEST_DEVICE_IDENTITY` -/
inductive IdentityRequestNumber
  | getImei | getImeisv | deviceIdentity
  deriving DecidableEq

/-- The errors of a completion, as far as the emulation depends on them. -/
inductive IdentityErrno
  | success | requestNotSupported | other
  deriving DecidableEq

/-- A `RequestInfo` in the pending list. -/
structure IdentityRequest where
  /-- which allocation it is -/
  number : Nat
  slot : Nat
  token : Int
  requestNumber : IdentityRequestNumber
  deriving DecidableEq

/-- `addRequestToList` marks a request with serial -1. -/
def IdentityRequest.isLocal (request : IdentityRequest) : Bool :=
  request.token = -1

/-- A string that the vendor library passed, with the call that passed it. -/
structure PassedString where
  address : Nat
  call : Nat
  error : IdentityErrno
  deriving DecidableEq

/-- `response`, by the type it has for its request. -/
inductive IdentityResponse
  | string (response : Option Nat)
  | strings (response : Option (List (Option Nat)))
  deriving DecidableEq

structure IdentityState where
  /-- `Device_ID` -/
  deviceId : Nat → Option PassedString
  /-- the strings of the vendor library, by address -/
  memory : Nat → List UInt8
  /-- `mRadioResponse` -/
  client : Nat → ClientState
  /-- what a `getDeviceIdentity` has still to dispatch, with slots and serials -/
  dispatching : List (Nat × Int × IdentityRequestNumber)
  pending : List IdentityRequest
  requests : Nat
  /-- what was passed by the completion calls that have not returned -/
  passing : List PassedString
  calls : Nat

inductive IdentityEvent
  | setResponseFunctions (slot : Nat)
  | dies (slot : Nat)
  /-- Another callback resets the objects of a dead client. -/
  | checkReturnStatus (slot : Nat)
  | getDeviceIdentity (slot : Nat) (serial : Int)
  | dispatchVoid (allocated : Bool)
  | onRequestComplete (request : IdentityRequest) (error : IdentityErrno)
      (response : IdentityResponse)
  | returns (call : Nat)
  /-- The vendor library reuses its memory. -/
  | rewrite (address : Nat) (bytes : List UInt8)
  deriving DecidableEq

inductive IdentityOutput
  /-- A request for a string has completed with success. -/
  | succeeded (slot : Nat) (requestNumber : IdentityRequestNumber) (contents : List UInt8)
  /-- The client of the slot got these strings. -/
  | identity (slot : Nat) (serial : Int) (error : IdentityErrno) (strings : List (List UInt8))
  /-- The client of the slot got empty strings for a response without strings. -/
  | invalid (slot : Nat) (serial : Int) (error : IdentityErrno)
  /-- A string was read whose call had returned. -/
  | readAfterReturn (passed : PassedString)
  deriving DecidableEq

namespace IdentityRequestNumber

/-- Where a completion leaves its string among the four of its slot. -/
def savedAt : IdentityRequestNumber → Option Nat
  | getImei => some 0
  | getImeisv => some 1
  | deviceIdentity => none

end IdentityRequestNumber

namespace IdentityState

def setClient (slot : Nat) (client : ClientState) (state : IdentityState) : IdentityState :=
  { state with client := Function.update state.client slot client }

/-- `convertCharPtrToHidlString` -/
def read (state : IdentityState) (string : Option PassedString) : List UInt8 :=
  match string with
  | some passed => state.memory passed.address
  | none => []

/-- The reads of strings that nobody passes any more. -/
def staleReads (state : IdentityState) (strings : List (Option PassedString)) :
    List IdentityOutput :=
  (strings.reduceOption.filter fun passed => passed ∉ state.passing).map .readAfterReturn

/-- `getDeviceIdentityResponse` -/
def getDeviceIdentityResponse (slot : Nat) (serial : Int) (error : IdentityErrno)
    (response : Option (List (Option PassedString))) (state : IdentityState) :
    IdentityState × List IdentityOutput :=
  let strings := (response.filter fun strings => strings.length = 4)
  let reads := (strings.map state.staleReads).getD []
  match state.client slot with
  | .null => (state, [])
  | .alive =>
      match strings with
      | none => (state, [.invalid slot serial error])
      | some strings => (state, reads ++ [.identity slot serial error (strings.map state.read)])
  | .dead => (state.setClient slot .null, reads)

def saveString (index : Nat) (string : Option PassedString) (state : IdentityState) :
    IdentityState :=
  { state with deviceId := Function.update state.deviceId index string }

/-- The strings that a completion passes, for its call. -/
def passedStrings (error : IdentityErrno) (state : IdentityState) :
    IdentityResponse → List (Option PassedString)
  | .string response => [response.map (⟨·, state.calls, error⟩)]
  | .strings response =>
      (response.getD []).map fun string => string.map (⟨·, state.calls, error⟩)

/-- What an identity is answered with: an identity that is not supported has the four saved
strings of its slot. -/
def answer (slot : Nat) (error : IdentityErrno) (response : Option (List (Option PassedString)))
    (state : IdentityState) : IdentityErrno × Option (List (Option PassedString)) :=
  if error = .requestNotSupported then
    (.success, some ([0, 1, 2, 3].map fun index => state.deviceId (slot * 4 + index)))
  else (error, response)

/-- `RIL_onRequestComplete` for a request that was in the list -/
def onRequestComplete (request : IdentityRequest) (error : IdentityErrno)
    (response : IdentityResponse) (state : IdentityState) :
    IdentityState × List IdentityOutput :=
  let passed := state.passedStrings error response
  let opened := { state with
    passing := state.passing ++ passed.reduceOption, calls := state.calls + 1 }
  if request.isLocal then
    match request.requestNumber.savedAt with
    | some offset =>
        let string := passed.headD none
        -- whatever the error
        (opened.saveString (request.slot * 4 + offset) string,
          if error = .success then
            [.succeeded request.slot request.requestNumber (state.read string)]
          else [])
    | none => (opened, [])
  else
    match response with
    | .strings response =>
        let answered := opened.answer request.slot error (response.map fun _ => passed)
        opened.getDeviceIdentityResponse request.slot request.token answered.1 answered.2
    -- a request for a string has no response function
    | .string _ => (opened, [])

/-- Whether the response has the type of the request. -/
def Fits (request : IdentityRequest) : IdentityResponse → Prop
  | .string _ => request.requestNumber ≠ .deviceIdentity
  | .strings _ => request.requestNumber = .deviceIdentity

instance (request : IdentityRequest) (response : IdentityResponse) :
    Decidable (Fits request response) :=
  match response with
  | .string _ => inferInstanceAs (Decidable (_ ≠ _))
  | .strings _ => inferInstanceAs (Decidable (_ = _))

def step (state : IdentityState) :
    IdentityEvent → Option (IdentityState × List IdentityOutput)
  | .setResponseFunctions slot => some (state.setClient slot .alive, [])
  | .dies slot =>
      if state.client slot = .alive then some (state.setClient slot .dead, []) else none
  | .checkReturnStatus slot =>
      if state.client slot = .dead then some (state.setClient slot .null, []) else none
  | .getDeviceIdentity slot serial =>
      if state.dispatching = [] then
        some ({ state with
          dispatching := [(slot, -1, .getImei), (slot, -1, .getImeisv),
            (slot, serial, .deviceIdentity)] }, [])
      else none
  | .dispatchVoid allocated =>
      match state.dispatching with
      | (slot, serial, requestNumber) :: rest =>
          let request : IdentityRequest := ⟨state.requests, slot, serial, requestNumber⟩
          -- without memory the request is not issued
          some ({ state with
            dispatching := rest
            pending := if allocated then state.pending ++ [request] else state.pending
            requests := state.requests + 1 }, [])
      | [] => none
  | .onRequestComplete request error response =>
      if request ∈ state.pending ∧ Fits request response then
        some ({ state with pending := state.pending.erase request }.onRequestComplete request
          error response)
      else none
  | .returns call =>
      some ({ state with passing := state.passing.filter fun passed => passed.call ≠ call }, [])
  | .rewrite address bytes =>
      if ∀ passed ∈ state.passing, passed.address ≠ address then
        some ({ state with memory := Function.update state.memory address bytes }, [])
      else none

end IdentityState

/-- No string is saved, and the vendor library has some memory. -/
def identityInit (memory : Nat → List UInt8) : IdentityState :=
  ⟨fun _ => none, memory, fun _ => .null, [], [], 0, [], 0⟩

def identitySystem (memory : Nat → List UInt8) :
    System IdentityState IdentityEvent IdentityOutput where
  Init := fun state => state = identityInit memory
  step := IdentityState.step

/-! ## What the clients are told -/

/-- The contents of the last successful response to a request of a slot, if there is one. -/
def lastSuccess (slot : Nat) (requestNumber : IdentityRequestNumber)
    (outputs : List IdentityOutput) : List UInt8 :=
  ((outputs.filterMap fun output =>
    match output with
    | .succeeded other number contents =>
        if other = slot ∧ number = requestNumber then some contents else none
    | .identity _ _ _ _ | .invalid _ _ _ | .readAfterReturn _ => none).getLast?).getD []

/-- An identity has the IMEI and the IMEISV of the last successful responses, and no string is
read whose call has returned. -/
def IdentityDue (before : List IdentityOutput) : IdentityOutput → Prop
  | .identity slot _ _ strings =>
      strings.take 2 = [lastSuccess slot .getImei before, lastSuccess slot .getImeisv before]
  | .readAfterReturn _ => False
  | .succeeded _ _ _ | .invalid _ _ _ => True

/-- A saved string was passed by a successful call that has not returned; or none is saved, and
no successful response had a text. -/
def SavedFresh (saved : Option PassedString) (last : List UInt8) (passing : List PassedString) :
    Prop :=
  match saved with
  | some passed => passed ∈ passing ∧ passed.error = .success
  | none => last = []

/-- What the vendor library answers itself begins with the last IMEI and IMEISV. -/
def OwnAnswer (slot : Nat) (outputs : List IdentityOutput) (state : IdentityState) :
    IdentityResponse → Prop
  | .strings (some strings) => strings.length = 4 →
      (strings.take 2).map (fun string => (string.map state.memory).getD []) =
        [lastSuccess slot .getImei outputs, lastSuccess slot .getImeisv outputs]
  | .strings none | .string _ => True

/-- The strings that an identity is answered from are there and up to date. -/
def AnswersFresh (slot : Nat) (outputs : List IdentityOutput) (state : IdentityState)
    (response : IdentityResponse) : IdentityErrno → Prop
  | .requestNotSupported =>
      SavedFresh (state.deviceId (slot * 4)) (lastSuccess slot .getImei outputs) state.passing ∧
        SavedFresh (state.deviceId (slot * 4 + 1)) (lastSuccess slot .getImeisv outputs)
          state.passing
  | .success | .other => OwnAnswer slot outputs state response

/-- Every identity that a client gets is answered from fresh strings. -/
def StringsStay : System.Guard IdentityState IdentityEvent IdentityOutput
  | history, state, .onRequestComplete request error response =>
      request.isLocal = false → state.client request.slot ≠ .null →
        AnswersFresh request.slot history.outputs state response error
  | _, _, .setResponseFunctions _ | _, _, .dies _ | _, _, .checkReturnStatus _
  | _, _, .getDeviceIdentity _ _ | _, _, .dispatchVoid _ | _, _, .returns _
  | _, _, .rewrite _ _ => True

instance (before : List IdentityOutput) (output : IdentityOutput) :
    Decidable (IdentityDue before output) :=
  match output with
  | .identity _ _ _ _ => inferInstanceAs (Decidable (_ = _))
  | .readAfterReturn _ => inferInstanceAs (Decidable False)
  | .succeeded _ _ _ | .invalid _ _ _ => inferInstanceAs (Decidable True)

instance (saved : Option PassedString) (last : List UInt8) (passing : List PassedString) :
    Decidable (SavedFresh saved last passing) :=
  match saved with
  | some _ => inferInstanceAs (Decidable (_ ∧ _))
  | none => inferInstanceAs (Decidable (_ = _))

instance (slot : Nat) (outputs : List IdentityOutput) (state : IdentityState)
    (response : IdentityResponse) : Decidable (OwnAnswer slot outputs state response) :=
  match response with
  | .strings (some _) => inferInstanceAs (Decidable (_ → _ = _))
  | .strings none | .string _ => inferInstanceAs (Decidable True)

instance (slot : Nat) (outputs : List IdentityOutput) (state : IdentityState)
    (response : IdentityResponse) (error : IdentityErrno) :
    Decidable (AnswersFresh slot outputs state response error) :=
  match error with
  | .requestNotSupported => inferInstanceAs (Decidable (SavedFresh _ _ _ ∧ SavedFresh _ _ _))
  | .success | .other => inferInstanceAs (Decidable (OwnAnswer _ _ _ _))

instance (history : History IdentityEvent IdentityOutput) (state : IdentityState)
    (event : IdentityEvent) : Decidable (StringsStay history state event) :=
  match event with
  | .onRequestComplete _ _ _ => inferInstanceAs (Decidable (_ → _ → AnswersFresh _ _ _ _ _))
  | .setResponseFunctions _ | .dies _ | .checkReturnStatus _ | .getDeviceIdentity _ _
  | .dispatchVoid _ | .returns _ | .rewrite _ _ => inferInstanceAs (Decidable True)

/-! ## The invariant -/

/-- A saved string of a successful call has the contents of the last successful response while
the call has not returned. -/
structure IdentitySound (outputs : List IdentityOutput) (state : IdentityState) : Prop where
  due : Justified IdentityDue outputs
  numbered : ∀ index passed, state.deviceId index = some passed → passed.call < state.calls
  unused : ∀ slot, state.deviceId (slot * 4 + 2) = none ∧ state.deviceId (slot * 4 + 3) = none
  held : ∀ slot (requestNumber : IdentityRequestNumber), ∀ offset ∈ requestNumber.savedAt,
    ∀ passed, state.deviceId (slot * 4 + offset) = some passed → passed ∈ state.passing →
      passed.error = .success →
        state.memory passed.address = lastSuccess slot requestNumber outputs

section Outputs

variable (slot other : Nat) (requestNumber number : IdentityRequestNumber)
  (outputs : List IdentityOutput)

theorem lastSuccess_succeeded (contents : List UInt8) :
    lastSuccess slot requestNumber (outputs ++ [.succeeded other number contents]) =
      if other = slot ∧ number = requestNumber then contents
      else lastSuccess slot requestNumber outputs := by
  by_cases same : other = slot ∧ number = requestNumber <;> simp [lastSuccess, same]

@[simp]
theorem lastSuccess_identity (serial : Int) (error : IdentityErrno)
    (strings : List (List UInt8)) :
    lastSuccess slot requestNumber (outputs ++ [.identity other serial error strings]) =
      lastSuccess slot requestNumber outputs := by
  simp [lastSuccess]

@[simp]
theorem lastSuccess_invalid (serial : Int) (error : IdentityErrno) :
    lastSuccess slot requestNumber (outputs ++ [.invalid other serial error]) =
      lastSuccess slot requestNumber outputs := by
  simp [lastSuccess]

end Outputs

theorem savedAt_lt {requestNumber : IdentityRequestNumber} {offset : Nat}
    (saved : offset ∈ requestNumber.savedAt) : offset < 2 := by
  cases requestNumber <;> simp [IdentityRequestNumber.savedAt] at saved <;> omega

/-- Two requests are saved at one index only if they are one request of one slot. -/
theorem savedAt_injective {requestNumber number : IdentityRequestNumber} {slot other : Nat}
    {offset otherOffset : Nat} (saved : offset ∈ requestNumber.savedAt)
    (otherSaved : otherOffset ∈ number.savedAt)
    (same : slot * 4 + offset = other * 4 + otherOffset) :
    slot = other ∧ requestNumber = number := by
  have small := savedAt_lt saved
  have otherSmall := savedAt_lt otherSaved
  obtain rfl : slot = other := by omega
  obtain rfl : offset = otherOffset := by omega
  refine ⟨rfl, ?_⟩
  cases requestNumber <;> cases number <;>
    simp only [IdentityRequestNumber.savedAt, Option.mem_def, Option.some.injEq, reduceCtorEq]
      at saved otherSaved ⊢ <;> omega

namespace IdentitySound

variable {outputs : List IdentityOutput} {state after : IdentityState}

/-- A step that leaves the strings alone. -/
theorem frame (sound : IdentitySound outputs state) (deviceId : after.deviceId = state.deviceId)
    (memory : after.memory = state.memory) (passing : after.passing = state.passing)
    (calls : after.calls = state.calls) : IdentitySound outputs after := by
  constructor
  · exact sound.due
  · rw [deviceId, calls]
    exact sound.numbered
  · rw [deviceId]
    exact sound.unused
  · rw [deviceId, memory, passing]
    exact sound.held

/-- A completion call passes its strings. -/
theorem opens (sound : IdentitySound outputs state) {passed : List PassedString}
    (new : ∀ string ∈ passed, string.call = state.calls) :
    IdentitySound outputs
      { state with passing := state.passing ++ passed, calls := state.calls + 1 } := by
  constructor
  · exact sound.due
  · intro index string saved
    exact Nat.lt_succ_of_lt (sound.numbered index string saved)
  · exact sound.unused
  · intro slot requestNumber offset savedAt string saved passing
    apply sound.held slot requestNumber offset savedAt string saved
    rcases List.mem_append.mp passing with earlier | own
    · exact earlier
    · have less := sound.numbered _ string saved
      rw [new string own] at less
      exact absurd less (Nat.lt_irrefl _)

theorem returns (sound : IdentitySound outputs state) (call : Nat) :
    IdentitySound outputs
      { state with passing := state.passing.filter fun passed => passed.call ≠ call } := by
  refine ⟨sound.due, sound.numbered, sound.unused, ?_⟩
  intro slot requestNumber offset savedAt passed saved passing
  exact sound.held slot requestNumber offset savedAt passed saved (List.mem_of_mem_filter passing)

theorem rewrite (sound : IdentitySound outputs state) {address : Nat} (bytes : List UInt8)
    (unused : ∀ passed ∈ state.passing, passed.address ≠ address) :
    IdentitySound outputs
      { state with memory := Function.update state.memory address bytes } := by
  refine ⟨sound.due, sound.numbered, sound.unused, ?_⟩
  intro slot requestNumber offset savedAt passed saved passing succeeded
  simp only [Function.update_of_ne (unused passed passing)]
  exact sound.held slot requestNumber offset savedAt passed saved passing succeeded

/-- A completed request leaves its string, and its contents if it has succeeded. -/
theorem saves (sound : IdentitySound outputs state) {requestNumber : IdentityRequestNumber}
    {slot offset : Nat} (savedAt : offset ∈ requestNumber.savedAt) {error : IdentityErrno}
    {string : Option PassedString}
    (own : ∀ passed ∈ string, passed.call < state.calls ∧ passed.error = error) :
    IdentitySound
      (outputs ++ if error = .success then [.succeeded slot requestNumber (state.read string)]
        else [])
      (state.saveString (slot * 4 + offset) string) := by
  have small := savedAt_lt savedAt
  have kept : ∀ index, index ≠ slot * 4 + offset →
      (state.saveString (slot * 4 + offset) string).deviceId index = state.deviceId index :=
    fun index apart => Function.update_of_ne apart ..
  have newest : (state.saveString (slot * 4 + offset) string).deviceId (slot * 4 + offset) =
      string :=
    Function.update_self ..
  constructor
  · split
    · exact justified_snoc_iff.mpr ⟨sound.due, trivial⟩
    · rw [List.append_nil]
      exact sound.due
  · intro index passed saved
    by_cases same : index = slot * 4 + offset
    · rw [same, newest] at saved
      exact (own passed saved).1
    · rw [kept index same] at saved
      exact sound.numbered index passed saved
  · intro other
    rw [kept _ (by omega), kept _ (by omega)]
    exact sound.unused other
  · intro other number otherOffset otherSaved passed saved passing succeeded
    by_cases same : other * 4 + otherOffset = slot * 4 + offset
    · obtain ⟨rfl, rfl⟩ := savedAt_injective otherSaved savedAt same
      rw [same, newest] at saved
      have isSuccess : error = .success := (own passed saved).2.symm.trans succeeded
      rw [if_pos isSuccess, lastSuccess_succeeded, if_pos ⟨rfl, rfl⟩, saved]
      rfl
    · rw [kept _ same] at saved
      have apart : ¬ (slot = other ∧ requestNumber = number) := by
        rintro ⟨rfl, rfl⟩
        exact same (by rw [Option.some.inj (otherSaved.symm.trans savedAt)])
      have held := sound.held other number otherOffset otherSaved passed saved passing succeeded
      split
      · rw [lastSuccess_succeeded, if_neg apart]
        exact held
      · rw [List.append_nil]
        exact held

/-- An answer with the last strings, all read from calls that have not returned. -/
theorem answers (sound : IdentitySound outputs state) {slot : Nat} {serial : Int}
    {error : IdentityErrno} {response : Option (List (Option PassedString))}
    (passing : ∀ strings ∈ response, ∀ passed, some passed ∈ strings → passed ∈ state.passing)
    (own : ∀ strings ∈ response, strings.length = 4 → (strings.map state.read).take 2 =
      [lastSuccess slot .getImei outputs, lastSuccess slot .getImeisv outputs]) :
    IdentitySound
      (outputs ++ (state.getDeviceIdentityResponse slot serial error response).2)
      (state.getDeviceIdentityResponse slot serial error response).1 := by
  have fresh : ∀ strings ∈ response, state.staleReads strings = [] := by
    intro strings isResponse
    rw [IdentityState.staleReads, List.map_eq_nil_iff, List.filter_eq_nil_iff]
    intro passed occurs
    have within := List.reduceOption_mem_iff.mp occurs
    simpa using passing strings isResponse passed within
  have reads : (((response.filter fun strings => strings.length = 4).map
      state.staleReads).getD []) = [] := by
    cases response with
    | none => rfl
    | some strings =>
        by_cases four : strings.length = 4
        · simp [Option.filter, four, fresh strings rfl]
        · simp [Option.filter, four]
  cases client : state.client slot with
  | null =>
      simp only [IdentityState.getDeviceIdentityResponse, client, List.append_nil]
      exact sound
  | dead =>
      simp only [IdentityState.getDeviceIdentityResponse, client, reads, List.append_nil]
      exact sound.frame rfl rfl rfl rfl
  | alive =>
      cases strings : response.filter fun strings => strings.length = 4 with
      | none =>
          simp only [IdentityState.getDeviceIdentityResponse, client, strings]
          refine ⟨justified_snoc_iff.mpr ⟨sound.due, trivial⟩, sound.numbered, sound.unused, ?_⟩
          simp only [lastSuccess_invalid]
          exact sound.held
      | some four =>
          obtain ⟨isResponse, length⟩ := Option.filter_eq_some_iff.mp strings
          rw [strings] at reads
          simp only [IdentityState.getDeviceIdentityResponse, client, strings, reads,
            List.nil_append]
          have due := own four isResponse (by simpa using length)
          refine ⟨justified_snoc_iff.mpr ⟨sound.due, due⟩, sound.numbered, sound.unused, ?_⟩
          simp only [lastSuccess_identity]
          exact sound.held

/-- What a call passes is its own. -/
theorem own_of_passed {error : IdentityErrno} {response : IdentityResponse}
    {passed : PassedString} (occurs : some passed ∈ state.passedStrings error response) :
    passed.call = state.calls ∧ passed.error = error := by
  cases response with
  | string response =>
      cases response with
      | none => simp [IdentityState.passedStrings] at occurs
      | some address =>
          simp only [IdentityState.passedStrings, Option.map_some, List.mem_singleton,
            Option.some.injEq] at occurs
          rw [occurs]
          exact ⟨rfl, rfl⟩
  | strings response =>
      obtain ⟨string, -, isPassed⟩ := List.mem_map.mp occurs
      obtain ⟨address, -, rfl⟩ := Option.map_eq_some_iff.mp isPassed
      exact ⟨rfl, rfl⟩

/-- The saved strings answer an identity that is not supported. -/
theorem saved_answers (sound : IdentitySound outputs state) {slot : Nat}
    (imei : SavedFresh (state.deviceId (slot * 4)) (lastSuccess slot .getImei outputs)
      state.passing)
    (imeisv : SavedFresh (state.deviceId (slot * 4 + 1)) (lastSuccess slot .getImeisv outputs)
      state.passing) :
    (∀ index < 4, ∀ passed, state.deviceId (slot * 4 + index) = some passed →
        passed ∈ state.passing) ∧
      state.read (state.deviceId (slot * 4)) = lastSuccess slot .getImei outputs ∧
      state.read (state.deviceId (slot * 4 + 1)) = lastSuccess slot .getImeisv outputs := by
  have one : ∀ (requestNumber : IdentityRequestNumber), ∀ offset ∈ requestNumber.savedAt,
      SavedFresh (state.deviceId (slot * 4 + offset)) (lastSuccess slot requestNumber outputs)
        state.passing →
      (∀ passed, state.deviceId (slot * 4 + offset) = some passed → passed ∈ state.passing) ∧
        state.read (state.deviceId (slot * 4 + offset)) =
          lastSuccess slot requestNumber outputs := by
    intro requestNumber offset savedAt fresh
    cases saved : state.deviceId (slot * 4 + offset) with
    | none =>
        rw [saved] at fresh
        exact ⟨nofun, fresh.symm⟩
    | some passed =>
        rw [saved] at fresh
        constructor
        · rintro other same
          cases same
          exact fresh.1
        · exact sound.held slot requestNumber offset savedAt passed saved fresh.1 fresh.2
  obtain ⟨imeiPassing, imeiRead⟩ := one .getImei 0 rfl imei
  obtain ⟨imeisvPassing, imeisvRead⟩ := one .getImeisv 1 rfl imeisv
  refine ⟨?_, imeiRead, imeisvRead⟩
  intro index small passed saved
  match index, small with
  | 0, _ => exact imeiPassing passed saved
  | 1, _ => exact imeisvPassing passed saved
  | 2, _ =>
      rw [(sound.unused slot).1] at saved
      cases saved
  | 3, _ =>
      rw [(sound.unused slot).2] at saved
      cases saved

theorem answer_fresh (sound : IdentitySound outputs state) {slot : Nat} {error : IdentityErrno}
    {response : Option (List (Option Nat))}
    (fresh : AnswersFresh slot outputs state (.strings response) error) :
    ∀ strings ∈ (state.answer slot error
        (response.map fun _ => state.passedStrings error (.strings response))).2,
      (∀ passed, some passed ∈ strings → passed ∈ state.passing ∨
        some passed ∈ state.passedStrings error (.strings response)) ∧
      (strings.length = 4 → (strings.map state.read).take 2 =
        [lastSuccess slot .getImei outputs, lastSuccess slot .getImeisv outputs]) := by
  have own : error ≠ .requestNotSupported → OwnAnswer slot outputs state (.strings response) := by
    intro supported
    cases error with
    | requestNotSupported => exact absurd rfl supported
    | success => exact fresh
    | other => exact fresh
  intro strings answered
  by_cases unsupported : error = .requestNotSupported
  · rw [IdentityState.answer, if_pos unsupported] at answered
    cases answered
    subst unsupported
    obtain ⟨passing, imei, imeisv⟩ := sound.saved_answers fresh.1 fresh.2
    constructor
    · intro passed occurs
      obtain ⟨index, small, saved⟩ := List.mem_map.mp occurs
      have less : index < 4 := by
        simp only [List.mem_cons, List.not_mem_nil, or_false] at small
        omega
      exact Or.inl (passing index less passed saved)
    · intro _
      exact congrArg₂ (fun first second => [first, second]) imei imeisv
  · rw [IdentityState.answer, if_neg unsupported] at answered
    obtain ⟨raw, isResponse, rfl⟩ := Option.map_eq_some_iff.mp answered
    subst isResponse
    constructor
    · intro passed occurs
      exact Or.inr occurs
    · intro four
      have ownFour := own unsupported
      simp only [IdentityState.passedStrings, Option.getD_some, List.length_map] at four
      rw [← ownFour four, IdentityState.passedStrings, Option.getD_some, List.map_map,
        List.map_take]
      congr 1
      apply List.map_congr_left
      intro string _
      cases string <;> rfl

theorem onRequestComplete (sound : IdentitySound outputs state) {request : IdentityRequest}
    {error : IdentityErrno} {response : IdentityResponse}
    (fresh : request.isLocal = false → state.client request.slot ≠ .null →
      AnswersFresh request.slot outputs state response error) :
    IdentitySound (outputs ++ (state.onRequestComplete request error response).2)
      (state.onRequestComplete request error response).1 := by
  have new : ∀ string ∈ (state.passedStrings error response).reduceOption,
      string.call = state.calls :=
    fun string occurs => (own_of_passed (List.reduceOption_mem_iff.mp occurs)).1
  have opened := sound.opens new
  simp only [IdentityState.onRequestComplete]
  split
  case isTrue =>
    split
    case h_1 offset savedAt =>
      apply opened.saves savedAt
      intro passed isHead
      have occurs : some passed ∈ state.passedStrings error response := by
        cases strings : state.passedStrings error response with
        | nil =>
            rw [strings] at isHead
            cases isHead
        | cons first rest =>
            rw [strings] at isHead
            rw [← Option.mem_def.mp isHead]
            exact List.mem_cons_self
      obtain ⟨call, isError⟩ := own_of_passed occurs
      exact ⟨by rw [call]; exact Nat.lt_succ_self _, isError⟩
    case h_2 =>
      rw [List.append_nil]
      exact opened
  case isFalse notLocal =>
    have foreign : request.isLocal = false := Bool.eq_false_iff.mpr notLocal
    cases response with
    | string _ =>
        rw [List.append_nil]
        exact opened
    | strings response =>
        by_cases noClient : state.client request.slot = .null
        · simp only [IdentityState.getDeviceIdentityResponse, noClient, List.append_nil]
          exact opened
        · have answersFresh := fresh foreign noClient
          apply opened.answers
          · intro strings answered passed occurs
            rcases (sound.answer_fresh answersFresh strings answered).1 passed occurs with
              earlier | new
            · exact List.mem_append_left _ earlier
            · exact List.mem_append_right _ (List.reduceOption_mem_iff.mpr new)
          · intro strings answered four
            exact (sound.answer_fresh answersFresh strings answered).2 four

theorem step {history : History IdentityEvent IdentityOutput} {event : IdentityEvent}
    {out : List IdentityOutput} (sound : IdentitySound history.outputs state)
    (guarded : StringsStay history state event)
    (stepped : state.step event = some (after, out)) :
    IdentitySound (history.outputs ++ out) after := by
  cases event with
  | setResponseFunctions slot =>
      cases stepped
      rw [List.append_nil]
      exact sound.frame rfl rfl rfl rfl
  | dies _ | checkReturnStatus _ | getDeviceIdentity _ _ | dispatchVoid _ =>
      simp only [IdentityState.step] at stepped
      split at stepped
      · cases stepped
        rw [List.append_nil]
        exact sound.frame rfl rfl rfl rfl
      · cases stepped
  | onRequestComplete request error response =>
      simp only [IdentityState.step] at stepped
      split at stepped
      · have dequeued : IdentitySound history.outputs
            { state with pending := state.pending.erase request } :=
          sound.frame rfl rfl rfl rfl
        have completed : IdentitySound
            (history.outputs ++ (IdentityState.onRequestComplete request error response
              { state with pending := state.pending.erase request }).2) _ :=
          dequeued.onRequestComplete guarded
        rw [Option.some.inj stepped] at completed
        exact completed
      · cases stepped
  | returns call =>
      cases stepped
      rw [List.append_nil]
      exact sound.returns call
  | rewrite address bytes =>
      simp only [IdentityState.step] at stepped
      split at stepped
      case isTrue unused =>
        cases stepped
        rw [List.append_nil]
        exact sound.rewrite bytes unused
      case isFalse => cases stepped

theorem run {memory : Nat → List UInt8} {history : History IdentityEvent IdentityOutput}
    (run : (identitySystem memory).Run StringsStay history state) :
    IdentitySound history.outputs state := by
  induction run with
  | start starts =>
      rw [starts]
      constructor <;> simp [identityInit]
  | next running guarded stepped ih =>
      rw [History.outputs_snoc]
      exact ih.step guarded stepped

end IdentitySound

/-- An identity tells the last IMEI and IMEISV of its slot, in every run that answers from fresh
strings. -/
theorem identities_exact {memory : Nat → List UInt8}
    {history : History IdentityEvent IdentityOutput} {state : IdentityState}
    (run : (identitySystem memory).Run StringsStay history state) :
    Justified IdentityDue history.outputs :=
  (IdentitySound.run run).due

/-- An identity that is asked while the strings are passed, and one of a slot without any. -/
theorem identities_exact_passing : ∃ history state,
    (identitySystem fun address => if address = 0 then [51, 53] else [48, 49]).Run StringsStay
      history state ∧ Justified IdentityDue history.outputs ∧
    history.outputs = [.succeeded 0 .getImei [51, 53], .succeeded 0 .getImeisv [48, 49],
      .identity 0 7 .success [[51, 53], [48, 49], [], []],
      .identity 1 8 .success [[], [], [], []]] := by
  let calls : List IdentityEvent := [.setResponseFunctions 0, .setResponseFunctions 1,
    .getDeviceIdentity 0 7, .dispatchVoid true, .dispatchVoid true, .dispatchVoid true,
    .getDeviceIdentity 1 8, .dispatchVoid true, .dispatchVoid false, .dispatchVoid true,
    .onRequestComplete ⟨0, 0, -1, .getImei⟩ .success (.string (some 0)),
    .onRequestComplete ⟨1, 0, -1, .getImeisv⟩ .success (.string (some 1)),
    .onRequestComplete ⟨3, 1, -1, .getImei⟩ .other (.string none),
    .onRequestComplete ⟨2, 0, 7, .deviceIdentity⟩ .requestNotSupported (.strings none),
    .returns 0, .rewrite 0 [57], .returns 1,
    .onRequestComplete ⟨5, 1, 8, .deviceIdentity⟩ .requestNotSupported (.strings none)]
  have executed : ((identitySystem fun address => if address = 0 then [51, 53] else [48, 49]).exec
      (identityInit fun address => if address = 0 then [51, 53] else [48, 49]) calls).map
        (fun final => final.1.outputs) =
      some [.succeeded 0 .getImei [51, 53], .succeeded 0 .getImeisv [48, 49],
        .identity 0 7 .success [[51, 53], [48, 49], [], []],
        .identity 1 8 .success [[], [], [], []]] := by
    decide +kernel
  rcases System.exists_run_of_exec (identitySystem _) StringsStay calls _ rfl (by decide +kernel)
    executed with ⟨history, state, run, outputs⟩
  exact ⟨history, state, run, identities_exact run, outputs⟩

/-- What goes wrong: a saved string is read after its call has returned; and a request that
fails takes the place of the last successful one. -/
theorem identities_stale :
    (∃ history state, (identitySystem fun _ => [51, 53]).Run System.free history state ∧
      ¬ Justified IdentityDue history.outputs ∧
      history.events = [.setResponseFunctions 0, .getDeviceIdentity 0 7, .dispatchVoid true,
        .dispatchVoid true, .dispatchVoid true,
        .onRequestComplete ⟨0, 0, -1, .getImei⟩ .success (.string (some 0)), .returns 0,
        .rewrite 0 [57],
        .onRequestComplete ⟨2, 0, 7, .deviceIdentity⟩ .requestNotSupported (.strings none)]) ∧
    ∃ history state, (identitySystem fun _ => [51, 53]).Run System.free history state ∧
      ¬ Justified IdentityDue history.outputs ∧
      history.events = [.setResponseFunctions 0, .getDeviceIdentity 0 7, .dispatchVoid true,
        .dispatchVoid true, .dispatchVoid true,
        .onRequestComplete ⟨0, 0, -1, .getImei⟩ .success (.string (some 0)), .returns 0,
        .getDeviceIdentity 0 8, .dispatchVoid true, .dispatchVoid true, .dispatchVoid true,
        .onRequestComplete ⟨3, 0, -1, .getImei⟩ .other (.string none),
        .onRequestComplete ⟨5, 0, 8, .deviceIdentity⟩ .requestNotSupported (.strings none)] := by
  refine ⟨?_, ?_⟩
  · exact exists_run_not_justified [.succeeded 0 .getImei [51, 53]]
      [.identity 0 7 .success [[57], [], [], []]] (.readAfterReturn ⟨0, 0, .success⟩)
      rfl (by decide +kernel) (by decide +kernel) (by decide)
  · exact exists_run_not_justified [.succeeded 0 .getImei [51, 53]] []
      (.identity 0 8 .success [[], [], [], []])
      rfl (by decide +kernel) (by decide +kernel) (by decide)

end X3Hal.Ril
