import X3Hal.Queue.Relay
import X3Hal.Ril.Register
import X3Hal.Transition.Core
import Mathlib.Tactic.Common

/-!
# Unsolicited responses before the clients

Built with `RIL_UNSOL_PENDING`, the library keeps the unsolicited responses that come while a
slot has no client, and flushes them with the first one that finds both slots connected.  The
cache copies a payload by its length, so that what the payload points to is not copied.

A call of `RIL_onUnsolicitedResponseSocket` is one step that decides and one step for each
`send_unsolResponse`; clients come and go between them.
-/

namespace X3Hal.Ril

open X3Hal.Transition X3Hal.Queue

/-! ## The state -/

/-- The bytes at `data`, and the addresses among them that the response functions follow. -/
structure Payload where
  flat : List UInt8
  pointers : List Nat
  deriving DecidableEq

/-- What a response function can read. -/
structure Contents where
  flat : List UInt8
  pointed : List (List UInt8)
  deriving DecidableEq

def Payload.contents (memory : Nat → List UInt8) (payload : Payload) : Contents :=
  ⟨payload.flat, payload.pointers.map memory⟩

/-- An unsolicited response as one reads it, with the number of its call. -/
structure Indication where
  call : Nat
  unsolResponse : Int
  socketId : Nat
  contents : Option Contents
  deriving DecidableEq

/-- The arguments of a call, or an entry of `pendingUSR`. -/
structure UsrBuffer where
  call : Nat
  unsolResponse : Int
  /-- with its length, or NULL -/
  data : Option Payload
  socketId : Nat
  deriving DecidableEq

def UsrBuffer.indication (memory : Nat → List UInt8) (usr : UsrBuffer) : Indication :=
  ⟨usr.call, usr.unsolResponse, usr.socketId, usr.data.map (Payload.contents memory)⟩

/-- The addresses that an entry points to. -/
def UsrBuffer.pointers (usr : UsrBuffer) : List Nat :=
  (usr.data.map Payload.pointers).getD []

/-- The two services of a slot. -/
inductive RadioService
  | radio | oemHook
  deriving DecidableEq

/-- The indication object of a service: NULL, or of a client that may have died. -/
inductive ClientState
  | null | alive | dead
  deriving DecidableEq

/-- A response function, as far as the relay depends on it. -/
structure ResponseFunction where
  service : RadioService
  /-- its checks of the payload -/
  accepts : Option Contents → Bool
  /-- It calls the client; the others issue a request of their own. -/
  callsClient : Bool

/-- The response function that `send_unsolResponse` finds for a number, if it supports it. -/
abbrev ResponseTable := Int → Option ResponseFunction

structure UsrState where
  /-- `s_registerCalled` -/
  registered : Bool
  client : RadioService → Nat → ClientState
  memory : Nat → List UInt8
  /-- `pendingUSR` up to `pendingUSRcnt` -/
  pending : List UsrBuffer
  /-- the entries that the call in progress has still to flush -/
  flushing : List UsrBuffer
  /-- the response that the call in progress sends after them -/
  current : Option UsrBuffer
  /-- `s_lastNITZTimeData` -/
  lastNitz : Option UsrBuffer
  /-- the number of calls so far -/
  calls : Nat

inductive UsrOutput
  | received (indication : Indication)
  | cached (indication : Indication)
  /-- The response function of a slot passes it on. -/
  | handed (slot : Nat) (indication : Indication)
  /-- It has no response function, or that one rejects its payload. -/
  | ignored (indication : Indication)
  deriving DecidableEq

/-! ## The functions of `ril.cpp` -/

/-- `MAX_PENDING_USR` -/
def maxPendingUsr : Nat := 16

/-- `radio::isServiceConnected` -/
def isServiceConnected (slot : Nat) (state : UsrState) : Bool :=
  state.client .radio slot ≠ .null

/-- `RIL_register`, with whether it accepts the callbacks -/
def registerUsr (accepted : Bool) (state : UsrState) : UsrState :=
  if accepted ∧ state.registered = false then
    -- `clrUSRBuffer`
    { state with registered := true, pending := [] }
  else state

def setClient (service : RadioService) (slot : Nat) (client : ClientState) (state : UsrState) :
    UsrState :=
  { state with
    client := Function.update state.client service
      (Function.update (state.client service) slot client) }

section Sending

variable (table : ResponseTable)

/-- The call of the response function in `send_unsolResponse`, for a slot. -/
def respond (function : ResponseFunction) (slot : Nat) (indication : Indication)
    (state : UsrState) : UsrState × List UsrOutput :=
  if function.accepts indication.contents then
    match state.client function.service slot with
    | .null => (state, [])
    | .alive => (state, [.handed slot indication])
    | .dead =>
        -- `checkReturnStatus` resets the objects of a dead client
        if function.callsClient then (setClient function.service slot .null state, [])
        else (state, [.handed slot indication])
  else (state, [.ignored indication])

/-- `send_unsolResponse`, with whether `calloc` succeeds -/
def sendUnsolResponse (allocated : Bool) (usr : UsrBuffer) (state : UsrState) :
    UsrState × List UsrOutput :=
  match table usr.unsolResponse with
  | none => (state, [.ignored (usr.indication state.memory)])
  | some function =>
      let failed := state.client function.service usr.socketId = .null
      let result := respond function usr.socketId (usr.indication state.memory) state
      if failed ∧ usr.unsolResponse = Unsol.nitzTimeReceived.number then
        ({ result.1 with lastNitz := if allocated then some usr else none }, result.2)
      else result

/-- `resendLastNITZTimeData` -/
def resendLastNitz (slot : Nat) (state : UsrState) : UsrState × List UsrOutput :=
  match state.lastNitz, table Unsol.nitzTimeReceived.number with
  | some usr, some function =>
      if state.client function.service slot = .null then (state, [])
      else
        respond function slot (usr.indication state.memory) { state with lastNitz := none }
  | _, _ => (state, [])

/-- `RIL_onUnsolicitedResponseSocket` up to what it sends -/
def onUnsolicitedResponse (allocated : Bool) (usr : UsrBuffer) (state : UsrState) :
    UsrState × List UsrOutput :=
  if state.registered = false then (state, [])
  else if usr.unsolResponse ∈ ignoredUnsols.map (fun unsol => (unsol.number : Int)) then
    (state, [])
  else if isServiceConnected 0 state ∧ isServiceConnected 1 state then
    ({ state with pending := [], flushing := state.pending, current := some usr }, [])
  else if usr.data.all (fun payload => payload.flat.isEmpty) ∨
      usr.unsolResponse = Unsol.responseVoiceNetworkStateChanged.number then
    (state, [])
  else if state.pending.length < maxPendingUsr then
    if allocated then
      ({ state with pending := state.pending ++ [usr] },
        [.cached (usr.indication state.memory)])
    else (state, [])
  else (state, [])

end Sending

/-! ## The system -/

inductive UsrEvent
  | register (accepted : Bool)
  | setResponseFunctions (service : RadioService) (slot : Nat)
  | clientDies (service : RadioService) (slot : Nat)
  /-- A solicited response resets the objects of a dead client. -/
  | checkReturnStatus (service : RadioService) (slot : Nat)
  /-- The vendor library reuses its memory. -/
  | rewrite (address : Nat) (bytes : List UInt8)
  | call (unsolResponse : Int) (data : Option Payload) (socketId : Nat) (allocated : Bool)
  | send (allocated : Bool)
  /-- the end of `onNewCommandConnect` -/
  | resendNitz (slot : Nat)
  deriving DecidableEq

def UsrState.step (table : ResponseTable) (state : UsrState) :
    UsrEvent → Option (UsrState × List UsrOutput)
  | .register accepted => some (registerUsr accepted state, [])
  | .setResponseFunctions service slot =>
      if state.registered then some (setClient service slot .alive state, []) else none
  | .clientDies service slot =>
      if state.client service slot = .alive then some (setClient service slot .dead state, [])
      else none
  | .checkReturnStatus service slot =>
      if state.client service slot = .dead then some (setClient service slot .null state, [])
      else none
  | .rewrite address bytes =>
      some ({ state with memory := Function.update state.memory address bytes }, [])
  | .call unsolResponse data socketId allocated =>
      if state.flushing = [] ∧ state.current = none then
        let usr : UsrBuffer := ⟨state.calls, unsolResponse, data, socketId⟩
        let result := onUnsolicitedResponse allocated usr { state with calls := state.calls + 1 }
        some (result.1, .received (usr.indication state.memory) :: result.2)
      else none
  | .send allocated =>
      match state.flushing, state.current with
      | usr :: rest, _ =>
          some (sendUnsolResponse table allocated usr { state with flushing := rest })
      | [], some usr =>
          some (sendUnsolResponse table allocated usr { state with current := none })
      | [], none => none
  | .resendNitz slot => some (resendLastNitz table slot state)

def usrInit : UsrState :=
  ⟨false, fun _ _ => .null, fun _ => [], [], [], none, none, 0⟩

/-- The cache as a system. -/
def usrSystem (table : ResponseTable) : System UsrState UsrEvent UsrOutput where
  Init := fun state => state = usrInit
  step := fun state event => state.step table event

/-! ## What the cache owes its clients -/

def UsrOutput.receipt : UsrOutput → Option Indication
  | .received indication => some indication
  | .cached _ | .handed _ _ | .ignored _ => none

def UsrOutput.handing : UsrOutput → Option (Nat × Indication)
  | .handed slot indication => some (slot, indication)
  | .received _ | .cached _ | .ignored _ => none

def receipts (outputs : List UsrOutput) : List Indication :=
  outputs.filterMap UsrOutput.receipt

def handings (outputs : List UsrOutput) : List (Nat × Indication) :=
  outputs.filterMap UsrOutput.handing

/-- What was received for a slot, as it was then. -/
def receivedFor (slot : Nat) (outputs : List UsrOutput) : List Indication :=
  (receipts outputs).filter fun indication => indication.socketId = slot

/-- What the response functions of a slot passed on, as they read it. -/
def handedTo (slot : Nat) (outputs : List UsrOutput) : List Indication :=
  ((handings outputs).filter fun handing => handing.1 = slot).map Prod.snd

/-- Each slot is handed what it received, in order and once; the cache stays in its bounds;
and what was cached still is, or it was handed over or has no function that takes it. -/
structure EarlyKept (history : History UsrEvent UsrOutput) (state : UsrState) : Prop where
  inOrder : ∀ slot, (handedTo slot history.outputs).Sublist (receivedFor slot history.outputs)
  once : ((handings history.outputs).map fun handing => handing.2.call).Nodup
  bounded : state.pending.length ≤ maxPendingUsr
  kept : ∀ indication, .cached indication ∈ history.outputs →
    indication ∈ (state.flushing ++ state.pending).map (UsrBuffer.indication state.memory) ∨
      .handed indication.socketId indication ∈ history.outputs ∨
      .ignored indication ∈ history.outputs

/-- The response function of an entry finds its object, and calls no dead client. -/
def TakesOver (function : ResponseFunction) (usr : UsrBuffer) (state : UsrState) : Prop :=
  state.client function.service usr.socketId ≠ .null ∧
    (function.callsClient = true → state.client function.service usr.socketId = .alive)

/-- The client of a flushed entry takes it over, and the NITZ time finds an object. -/
def Reaches (table : ResponseTable) (flushed : Bool) (usr : UsrBuffer) (state : UsrState) :
    Prop :=
  ∀ function ∈ table usr.unsolResponse,
    (flushed = true → function.accepts (usr.indication state.memory).contents = true →
      TakesOver function usr state) ∧
    (usr.unsolResponse = Unsol.nitzTimeReceived.number →
      state.client function.service usr.socketId ≠ .null)

/-- What is still to be sent, in order. -/
def UsrState.queue (state : UsrState) : List UsrBuffer :=
  state.flushing ++ state.current.toList ++ state.pending

/-- What is sent next, and whether it comes from the cache. -/
def UsrState.next (state : UsrState) : Option (Bool × UsrBuffer) :=
  match state.flushing, state.current with
  | usr :: _, _ => some (true, usr)
  | [], some usr => some (false, usr)
  | [], none => none

/-- The vendor library keeps what a queued payload points to, and a flush meets clients that
are there. -/
def ClientsStay (table : ResponseTable) : System.Guard UsrState UsrEvent UsrOutput
  | _, state, .rewrite address _ => ∀ usr ∈ state.queue, address ∉ usr.pointers
  | _, state, .send _ => ∀ next ∈ state.next, Reaches table next.1 next.2 state
  | _, _, .register _ | _, _, .setResponseFunctions _ _ | _, _, .clientDies _ _
  | _, _, .checkReturnStatus _ _ | _, _, .call _ _ _ _ | _, _, .resendNitz _ => True

instance (function : ResponseFunction) (usr : UsrBuffer) (state : UsrState) :
    Decidable (TakesOver function usr state) :=
  inferInstanceAs (Decidable (_ ∧ _))

instance (table : ResponseTable) (flushed : Bool) (usr : UsrBuffer) (state : UsrState) :
    Decidable (Reaches table flushed usr state) :=
  inferInstanceAs (Decidable (∀ function ∈ table usr.unsolResponse, _))

instance (table : ResponseTable) (history : History UsrEvent UsrOutput) (state : UsrState)
    (event : UsrEvent) : Decidable (ClientsStay table history state event) :=
  match event with
  | .rewrite address _ =>
      inferInstanceAs (Decidable (∀ usr ∈ state.queue, address ∉ usr.pointers))
  | .send _ => inferInstanceAs (Decidable (∀ next ∈ state.next, _))
  | .register _ | .setResponseFunctions _ _ | .clientDies _ _ | .checkReturnStatus _ _
  | .call _ _ _ _ | .resendNitz _ => inferInstanceAs (Decidable True)

/-! ## The invariant -/

/-- The queue holds what was received last, as it was received. -/
structure UsrSound (outputs : List UsrOutput) (state : UsrState) : Prop where
  relayed : Relayed (receipts outputs) ((handings outputs).map Prod.snd)
    (state.queue.map (UsrBuffer.indication state.memory))
  ownSlot : ∀ handing ∈ handings outputs, handing.1 = handing.2.socketId
  numbered : (receipts outputs).map Indication.call = List.range state.calls
  bounded : state.pending.length ≤ maxPendingUsr
  kept : ∀ indication, .cached indication ∈ outputs →
    indication ∈ (state.flushing ++ state.pending).map (UsrBuffer.indication state.memory) ∨
      .handed indication.socketId indication ∈ outputs ∨ .ignored indication ∈ outputs
  noNitz : state.lastNitz = none
  unregistered : state.registered = false → state.pending = []

section Outputs

variable (outputs : List UsrOutput) (indication : Indication) (slot : Nat)

@[simp]
theorem receipts_append (first second : List UsrOutput) :
    receipts (first ++ second) = receipts first ++ receipts second :=
  List.filterMap_append ..

@[simp]
theorem handings_append (first second : List UsrOutput) :
    handings (first ++ second) = handings first ++ handings second :=
  List.filterMap_append ..

@[simp]
theorem receipts_nil : receipts [] = [] :=
  rfl

@[simp]
theorem receipts_received :
    receipts (.received indication :: outputs) = indication :: receipts outputs :=
  rfl

@[simp]
theorem receipts_cached : receipts (.cached indication :: outputs) = receipts outputs :=
  rfl

@[simp]
theorem receipts_handed : receipts (.handed slot indication :: outputs) = receipts outputs :=
  rfl

@[simp]
theorem receipts_ignored : receipts (.ignored indication :: outputs) = receipts outputs :=
  rfl

@[simp]
theorem handings_nil : handings [] = [] :=
  rfl

@[simp]
theorem handings_received : handings (.received indication :: outputs) = handings outputs :=
  rfl

@[simp]
theorem handings_cached : handings (.cached indication :: outputs) = handings outputs :=
  rfl

@[simp]
theorem handings_handed :
    handings (.handed slot indication :: outputs) = (slot, indication) :: handings outputs :=
  rfl

@[simp]
theorem handings_ignored : handings (.ignored indication :: outputs) = handings outputs :=
  rfl

end Outputs

/-- What the invariant says of the outputs alone. -/
theorem UsrSound.earlyKept {history : History UsrEvent UsrOutput} {state : UsrState}
    (sound : UsrSound history.outputs state) : EarlyKept history state := by
  have part := sound.relayed.handed_sublist
  constructor
  · intro slot
    have own : handedTo slot history.outputs =
        ((handings history.outputs).map Prod.snd).filter
          fun indication => indication.socketId = slot := by
      unfold handedTo
      rw [List.filter_map]
      congr 1
      apply List.filter_congr
      intro handing occurs
      simp [sound.ownSlot handing occurs]
    rw [own]
    exact part.filter _
  · have calls := part.map Indication.call
    rw [sound.numbered, List.map_map] at calls
    exact List.nodup_range.sublist calls
  · exact sound.bounded
  · exact sound.kept

section Steps

variable {table : ResponseTable} {outputs : List UsrOutput} {state : UsrState}

theorem usrSound_init : UsrSound [] usrInit := by
  constructor
  · exact Relayed.empty
  · simp
  · rfl
  · exact Nat.zero_le _
  · simp
  · rfl
  · exact fun _ => rfl

/-- The objects of the clients do not matter to the queue. -/
theorem UsrSound.frame (sound : UsrSound outputs state)
    (client : RadioService → Nat → ClientState) :
    UsrSound outputs { state with client := client } :=
  ⟨sound.relayed, sound.ownSlot, sound.numbered, sound.bounded, sound.kept, sound.noNitz,
    sound.unregistered⟩

theorem UsrSound.setClient (sound : UsrSound outputs state) (service : RadioService)
    (slot : Nat) (client : ClientState) :
    UsrSound outputs (Ril.setClient service slot client state) :=
  sound.frame _

theorem UsrSound.register (sound : UsrSound outputs state) (accepted : Bool) :
    UsrSound outputs (registerUsr accepted state) := by
  unfold registerUsr
  split
  case isTrue first =>
    -- the calls before were ignored, so that the cache is empty already
    have empty : state.pending = [] := sound.unregistered first.2
    have same : state.queue =
        UsrState.queue { state with registered := true, pending := [] } := by
      simp [UsrState.queue, empty]
    constructor
    · rw [← same]
      exact sound.relayed
    · exact sound.ownSlot
    · exact sound.numbered
    · exact Nat.zero_le _
    · simpa [empty] using sound.kept
    · exact sound.noNitz
    · intro unregistered
      cases unregistered
  case isFalse => exact sound

theorem indication_update {memory : Nat → List UInt8} {address : Nat} {usr : UsrBuffer}
    (apart : address ∉ usr.pointers) (bytes : List UInt8) :
    usr.indication (Function.update memory address bytes) = usr.indication memory := by
  unfold UsrBuffer.indication
  congr 1
  cases data : usr.data with
  | none => rfl
  | some payload =>
      have outside : address ∉ payload.pointers := by
        simpa [UsrBuffer.pointers, data] using apart
      simp only [Option.map_some, Option.some.injEq, Payload.contents, Contents.mk.injEq, true_and]
      apply List.map_congr_left
      intro pointer occurs
      apply Function.update_of_ne
      rintro rfl
      exact outside occurs

theorem UsrSound.rewrite (sound : UsrSound outputs state) {address : Nat}
    (apart : ∀ usr ∈ state.queue, address ∉ usr.pointers) (bytes : List UInt8) :
    UsrSound outputs
      { state with memory := Function.update state.memory address bytes } := by
  have same : ∀ usr ∈ state.queue,
      usr.indication (Function.update state.memory address bytes) =
        usr.indication state.memory :=
    fun usr queued => indication_update (apart usr queued) bytes
  have waiting : ∀ usr ∈ state.flushing ++ state.pending, usr ∈ state.queue := by
    intro usr occurs
    simp only [UsrState.queue, List.mem_append] at occurs ⊢
    tauto
  constructor
  · show Relayed _ _ (state.queue.map _)
    rw [List.map_congr_left same]
    exact sound.relayed
  · exact sound.ownSlot
  · exact sound.numbered
  · exact sound.bounded
  · show ∀ indication, _ → indication ∈ (state.flushing ++ state.pending).map _ ∨ _
    rw [List.map_congr_left fun usr occurs => same usr (waiting usr occurs)]
    exact sound.kept
  · exact sound.noNitz
  · exact sound.unregistered

/-- A response function passes the indication on to its own slot, rejects it, or has no
client. -/
theorem respond_cases (function : ResponseFunction) (slot : Nat) (indication : Indication)
    (state : UsrState) :
    ∃ client, (respond function slot indication state).1 = { state with client := client } ∧
      ((respond function slot indication state).2 = [] ∨
        (respond function slot indication state).2 = [.handed slot indication] ∨
        (respond function slot indication state).2 = [.ignored indication]) := by
  unfold respond
  split
  case isTrue =>
    split
    · exact ⟨state.client, rfl, .inl rfl⟩
    · exact ⟨state.client, rfl, .inr (.inl rfl)⟩
    · split
      · exact ⟨_, rfl, .inl rfl⟩
      · exact ⟨state.client, rfl, .inr (.inl rfl)⟩
  case isFalse => exact ⟨state.client, rfl, .inr (.inr rfl)⟩

theorem respond_ne_nil {function : ResponseFunction} {usr : UsrBuffer} {indication : Indication}
    {state : UsrState}
    (takes : function.accepts indication.contents = true → TakesOver function usr state) :
    (respond function usr.socketId indication state).2 ≠ [] := by
  unfold respond
  split
  case isTrue accepts =>
    rcases takes accepts with ⟨present, alive⟩
    split
    case h_1 null => exact absurd null present
    case h_2 => simp
    case h_3 dead =>
      split
      case isTrue calls =>
        rw [alive calls] at dead
        cases dead
      case isFalse => simp
  case isFalse => simp

/-- What a guarded send does: it changes clients only, and a flushed entry leaves a trace. -/
theorem sendUnsolResponse_cases {flushed : Bool} {usr : UsrBuffer}
    (reaches : Reaches table flushed usr state) (allocated : Bool) :
    ∃ client out, sendUnsolResponse table allocated usr state =
        ({ state with client := client }, out) ∧
      (out = [] ∧ flushed = false ∨ out = [.handed usr.socketId (usr.indication state.memory)] ∨
        out = [.ignored (usr.indication state.memory)]) := by
  unfold sendUnsolResponse
  split
  case h_1 => exact ⟨state.client, _, rfl, .inr (.inr rfl)⟩
  case h_2 function found =>
    rcases reaches function found with ⟨takes, nitz⟩
    have sent : ¬ (state.client function.service usr.socketId = .null ∧
        usr.unsolResponse = Unsol.nitzTimeReceived.number) := by
      rintro ⟨null, isNitz⟩
      exact nitz isNitz null
    rcases respond_cases function usr.socketId (usr.indication state.memory) state with
      ⟨client, moved, emitted⟩
    simp only [sent, if_false]
    refine ⟨client, _, Prod.ext moved rfl, ?_⟩
    rcases emitted with nothing | handed | ignored
    · cases flushed with
      | true => exact absurd nothing (respond_ne_nil (takes rfl))
      | false => exact .inl ⟨nothing, rfl⟩
    · exact .inr (.inl handed)
    · exact .inr (.inr ignored)

/-- The next entry of the queue is sent: it is handed over, ignored, or nobody takes it. -/
theorem UsrSound.send (sound : UsrSound outputs state) {usr : UsrBuffer} {rest : List UsrBuffer}
    {current : Option UsrBuffer} {out : List UsrOutput} (flushed : Bool)
    (next : state.queue = usr :: (rest ++ current.toList ++ state.pending))
    (waits : ∀ other ∈ state.flushing ++ state.pending,
      other ∈ rest ++ state.pending ∨ flushed = true ∧ other = usr)
    (emitted : out = [] ∧ flushed = false ∨
      out = [.handed usr.socketId (usr.indication state.memory)] ∨
      out = [.ignored (usr.indication state.memory)]) :
    UsrSound (outputs ++ out) { state with flushing := rest, current := current } := by
  have relayed := sound.relayed
  rw [next, List.map_cons] at relayed
  have silent : receipts out = [] := by
    rcases emitted with ⟨rfl, _⟩ | rfl | rfl <;> rfl
  constructor
  · rw [receipts_append, handings_append, silent, List.append_nil, List.map_append]
    rcases emitted with ⟨rfl, _⟩ | rfl | rfl
    · simpa [UsrState.queue] using relayed.drop
    · exact relayed.hand
    · simpa [UsrState.queue] using relayed.drop
  · intro handing occurs
    rw [handings_append, List.mem_append] at occurs
    rcases occurs with old | new
    · exact sound.ownSlot handing old
    · rcases emitted with ⟨rfl, _⟩ | rfl | rfl
      · simp at new
      · obtain rfl : handing = (usr.socketId, usr.indication state.memory) := by simpa using new
        rfl
      · simp at new
  · simpa [silent] using sound.numbered
  · exact sound.bounded
  · intro indication occurs
    rw [List.mem_append] at occurs
    have cached : .cached indication ∈ outputs := by
      rcases occurs with old | new
      · exact old
      · rcases emitted with ⟨rfl, _⟩ | rfl | rfl <;> simp at new
    rcases sound.kept indication cached with waiting | handed | ignored
    · obtain ⟨other, queued, rfl⟩ := List.mem_map.mp waiting
      rcases waits other queued with still | ⟨rfl, rfl⟩
      · exact .inl (List.mem_map_of_mem still)
      · right
        rcases emitted with ⟨_, direct⟩ | rfl | rfl
        · cases direct
        · exact .inl (List.mem_append_right _ (List.mem_singleton.mpr rfl))
        · exact .inr (List.mem_append_right _ (List.mem_singleton.mpr rfl))
    · exact .inr (.inl (List.mem_append_left _ handed))
    · exact .inr (.inr (List.mem_append_left _ ignored))
  · exact sound.noNitz
  · exact sound.unregistered

/-- A call that neither caches nor sends its response. -/
theorem UsrSound.ignore (sound : UsrSound outputs state) {usr : UsrBuffer}
    (number : usr.call = state.calls) :
    UsrSound (outputs ++ [.received (usr.indication state.memory)])
      { state with calls := state.calls + 1 } := by
  constructor
  · simpa [UsrState.queue] using sound.relayed.ignore (usr.indication state.memory)
  · simpa using sound.ownSlot
  · simp [sound.numbered, List.range_succ, UsrBuffer.indication, number]
  · exact sound.bounded
  · simpa using sound.kept
  · exact sound.noNitz
  · exact sound.unregistered

/-- A call that caches its response. -/
theorem UsrSound.cache (sound : UsrSound outputs state) {usr : UsrBuffer}
    (number : usr.call = state.calls) (registered : state.registered = true)
    (free : state.pending.length < maxPendingUsr) :
    UsrSound (outputs ++ [.received (usr.indication state.memory),
        .cached (usr.indication state.memory)])
      { state with calls := state.calls + 1, pending := state.pending ++ [usr] } := by
  constructor
  · simpa [UsrState.queue] using sound.relayed.enqueue (usr.indication state.memory)
  · simpa using sound.ownSlot
  · simp [sound.numbered, List.range_succ, UsrBuffer.indication, number]
  · simp only [List.length_append, List.length_singleton]
    omega
  · intro indication occurs
    simp only [List.mem_append, List.mem_cons, List.not_mem_nil, or_false, reduceCtorEq,
      false_or, UsrOutput.cached.injEq] at occurs
    rcases occurs with old | rfl
    · rcases sound.kept indication old with waiting | handed | ignored
      · left
        rw [← List.append_assoc, List.map_append]
        exact List.mem_append_left _ waiting
      · exact .inr (.inl (List.mem_append_left _ handed))
      · exact .inr (.inr (List.mem_append_left _ ignored))
    · left
      simp
  · exact sound.noNitz
  · intro unregistered
    rw [registered] at unregistered
    cases unregistered

/-- A call that starts a flush, with its own response at the end. -/
theorem UsrSound.flush (sound : UsrSound outputs state) {usr : UsrBuffer}
    (number : usr.call = state.calls) (idle : state.flushing = [] ∧ state.current = none) :
    UsrSound (outputs ++ [.received (usr.indication state.memory)])
      { state with
        calls := state.calls + 1, pending := [], flushing := state.pending,
        current := some usr } := by
  constructor
  · simpa [UsrState.queue, idle.1, idle.2] using
      sound.relayed.enqueue (usr.indication state.memory)
  · simpa using sound.ownSlot
  · simp [sound.numbered, List.range_succ, UsrBuffer.indication, number]
  · exact Nat.zero_le _
  · simpa [idle.1] using sound.kept
  · exact sound.noNitz
  · exact fun _ => rfl

theorem UsrSound.call (sound : UsrSound outputs state) {usr : UsrBuffer} (allocated : Bool)
    (number : usr.call = state.calls) (idle : state.flushing = [] ∧ state.current = none) :
    UsrSound
      (outputs ++ .received (usr.indication state.memory) ::
        (onUnsolicitedResponse allocated usr { state with calls := state.calls + 1 }).2)
      (onUnsolicitedResponse allocated usr { state with calls := state.calls + 1 }).1 := by
  unfold onUnsolicitedResponse
  split
  case isTrue => exact sound.ignore number
  case isFalse registered =>
    split
    case isTrue => exact sound.ignore number
    case isFalse =>
      split
      case isTrue => exact sound.flush number idle
      case isFalse =>
        split
        case isTrue => exact sound.ignore number
        case isFalse =>
          split
          case isTrue free =>
            cases allocated with
            | true => exact sound.cache number (by simpa using registered) free
            | false => exact sound.ignore number
          case isFalse => exact sound.ignore number

/-- A guarded step keeps the invariant. -/
theorem UsrSound.step (sound : UsrSound outputs state) {history : History UsrEvent UsrOutput}
    {event : UsrEvent} {after : UsrState} {out : List UsrOutput}
    (stays : ClientsStay table history state event)
    (stepped : state.step table event = some (after, out)) : UsrSound (outputs ++ out) after := by
  cases event with
  | register accepted =>
      obtain ⟨rfl, rfl⟩ := Prod.mk.inj (Option.some.inj stepped)
      simpa using sound.register accepted
  | setResponseFunctions service slot | clientDies service slot | checkReturnStatus service slot =>
      simp only [UsrState.step] at stepped
      split at stepped
      · obtain ⟨rfl, rfl⟩ := Prod.mk.inj (Option.some.inj stepped)
        simpa using sound.setClient service slot _
      · cases stepped
  | rewrite address bytes =>
      obtain ⟨rfl, rfl⟩ := Prod.mk.inj (Option.some.inj stepped)
      simpa using sound.rewrite stays bytes
  | call unsolResponse data socketId allocated =>
      simp only [UsrState.step] at stepped
      split at stepped
      case isTrue idle =>
        obtain ⟨rfl, rfl⟩ := Prod.mk.inj (Option.some.inj stepped)
        exact sound.call allocated rfl idle
      case isFalse => cases stepped
  | send allocated =>
      simp only [UsrState.step] at stepped
      split at stepped
      case h_1 usr rest flushing =>
        have reaches : Reaches table true usr { state with flushing := rest } := by
          apply stays (true, usr)
          simp [UsrState.next, flushing]
        rcases sendUnsolResponse_cases reaches allocated with ⟨client, emitted, sent, cases⟩
        rw [sent] at stepped
        obtain ⟨rfl, rfl⟩ := Prod.mk.inj (Option.some.inj stepped)
        have waits : ∀ other ∈ state.flushing ++ state.pending,
            other ∈ rest ++ state.pending ∨ true = true ∧ other = usr := by
          intro other occurs
          simp only [flushing, List.cons_append, List.mem_cons] at occurs
          rcases occurs with same | later
          · exact .inr ⟨rfl, same⟩
          · exact .inl later
        have passed : UsrSound (outputs ++ emitted) { state with flushing := rest } :=
          sound.send true (by simp [UsrState.queue, flushing]) waits cases
        exact passed.frame client
      case h_2 usr flushing current =>
        have reaches : Reaches table false usr { state with current := none } := by
          apply stays (false, usr)
          simp [UsrState.next, flushing, current]
        rcases sendUnsolResponse_cases reaches allocated with ⟨client, emitted, sent, cases⟩
        rw [sent] at stepped
        obtain ⟨rfl, rfl⟩ := Prod.mk.inj (Option.some.inj stepped)
        have passed :
            UsrSound (outputs ++ emitted) { state with flushing := [], current := none } :=
          sound.send false (by simp [UsrState.queue, flushing, current])
            (fun other occurs => .inl (by simpa [flushing] using occurs)) cases
        rw [← flushing] at passed
        exact passed.frame client
      case h_3 => cases stepped
  | resendNitz slot =>
      have nothing : resendLastNitz table slot state = (state, []) := by
        simp [resendLastNitz, sound.noNitz]
      simp only [UsrState.step, nothing] at stepped
      obtain ⟨rfl, rfl⟩ := Prod.mk.inj (Option.some.inj stepped)
      simpa using sound

end Steps

/-- `onUssdInd`, where a pointer has eight bytes, `nitzTimeReceivedInd` and
`rilConnectedInd` -/
def earlyTable : ResponseTable := fun unsolResponse =>
  if unsolResponse = Unsol.onUssd.number then
    some ⟨.radio, fun contents => contents.any fun read => read.flat.length = 16, true⟩
  else if unsolResponse = Unsol.nitzTimeReceived.number then
    some ⟨.radio, fun contents => contents.any fun read => read.flat ≠ [], true⟩
  else if unsolResponse = Unsol.rilConnected.number then some ⟨.radio, fun _ => true, true⟩
  else none

/-- The two pointers of a USSD response, to its mode and its text. -/
def ussdPayload : Payload :=
  ⟨[0, 0, 0, 0, 0, 0, 0, 16, 0, 0, 0, 0, 0, 0, 0, 32], [16, 32]⟩

end X3Hal.Ril
