import X3Hal.Memory.Heap
import X3Hal.Transition.Core
import Mathlib.Data.List.Count

/-!
# Requests of the SIM access profile

`SapImpl` allocates a header and a payload for each request and dispatches them through the
socket of its slot.  The payload is released when the dispatch returns, the header and the
request's entry of the pending queue when the vendor library completes it.  An entry is found
by message and token, not by its address.

A request is one step up to the vendor's `onRequest`, and one for the return from it.
-/

namespace X3Hal.Ril

open X3Hal.Transition X3Hal.Memory

/-! ## The state -/

/-- The `MsgId_RIL_SIM_SAP_` constants of the requests. -/
inductive MsgId
  | connect | disconnect | apdu | transferAtr | power | resetSim | transferCardReaderStatus
  | setTransferProtocol
  deriving DecidableEq

/-- What `MsgHeader` and `SapSocketRequest` say of a request. -/
structure SapHeader where
  socketId : Nat
  id : MsgId
  token : Int
  deriving DecidableEq

/-- The blocks of a request: `MsgHeader`, its payload and `SapSocketRequest`. -/
inductive SapBlock
  | header | payload | entry
  deriving DecidableEq

/-- The sockets that `initSapSocket` created, and whether they have radio functions. -/
structure SapConfig where
  socketExists : Nat → Bool
  uimFuncs : Bool

structure SapState where
  heap : Heap (Nat × SapBlock)
  /-- the header of each request -/
  header : Nat → SapHeader
  /-- `pendingResponseQueue` of each socket, front first -/
  pending : Nat → List Nat
  /-- the callback object of each slot, and whether its process lives -/
  sapCallback : Nat → Option Bool
  /-- the requests whose dispatch has not returned -/
  dispatching : List Nat
  /-- the number of requests so far -/
  made : Nat
  /-- a block was used or released that was not live, or NULL dereferenced -/
  crashed : Bool

inductive SapOutput
  | onRequest (request : Nat)
  | response (request : Nat) (token : Int)
  | crash
  deriving DecidableEq

/-- Where a request fails before it is dispatched, if it does. -/
inductive SapRequestOutcome
  /-- `calloc` of the header fails. -/
  | noHeader
  /-- The message cannot be encoded, or there is no buffer for it. -/
  | notEncoded
  /-- `malloc` of the payload fails. -/
  | noPayload
  /-- with whether `malloc` of the `SapSocketRequest` succeeds -/
  | dispatched (allocated : Bool)
  deriving DecidableEq

/-- How the vendor's answer is taken. -/
inductive SapReply
  /-- `calloc` of the response payload fails. -/
  | noMemory
  /-- `sapDecodeMessage` fails. -/
  | undecodable
  | decodable
  deriving DecidableEq

/-! ## The functions of `sap_service.cpp` and `RilSapSocket.cpp` -/

/-- `processResponse` reads the decoded message of every response but one. -/
def MsgId.readsMessage : MsgId → Bool
  | .disconnect => false
  | .connect | .apdu | .transferAtr | .power | .resetSim | .transferCardReaderStatus
  | .setTransferProtocol => true

/-- A call of `sapCallback` and `checkReturnStatus`. -/
def callCallback (r : Nat) (alive : Bool) (state : SapState) : SapState × List SapOutput :=
  let header := state.header r
  ({ state with
      sapCallback := if alive then state.sapCallback
        else Function.update state.sapCallback header.socketId none },
    [.response r header.token])

/-- `sendFailedResponse`, with the blocks it frees -/
def sendFailedResponse (r : Nat) (blocks : List SapBlock) (state : SapState) :
    Option (SapState × List SapOutput) :=
  (state.heap.releaseAll (blocks.map fun block => (r, block))).bind fun heap =>
    (state.sapCallback (state.header r).socketId).map fun alive =>
      callCallback r alive { state with heap := heap }

/-- `sap::processResponse` -/
def processResponse (r : Nat) (decoded : Bool) (state : SapState) :
    Option (SapState × List SapOutput) :=
  match state.sapCallback (state.header r).socketId with
  | none => some (state, [])
  | some alive =>
      if decoded ∨ (state.header r).id.readsMessage = false then
        some (callCallback r alive state)
      else none

/-- The loop of `checkAndDequeue`: the queue without the entry, and the entry. -/
def checkAndDequeue (heap : Heap (Nat × SapBlock)) (header : Nat → SapHeader) (id : MsgId)
    (token : Int) : List Nat → Option (List Nat × Option Nat)
  | [] => some ([], none)
  | entry :: rest =>
      if heap (entry, .entry) ≠ .live then none
      else if token = (header entry).token then
        if heap (entry, .header) ≠ .live then none
        else if id = (header entry).id then some (rest, some entry)
        else (checkAndDequeue heap header id token rest).map fun (queue, found) =>
          (entry :: queue, found)
      else (checkAndDequeue heap header id token rest).map fun (queue, found) =>
        (entry :: queue, found)

/-- The response of `onRequestComplete`, if there is memory for it. -/
def respondTo (r : Nat) (reply : SapReply) (state : SapState) :
    Option (SapState × List SapOutput) :=
  match reply with
  | .noMemory => some (state, [])
  | .undecodable => processResponse r false state
  | .decodable => processResponse r true state

/-- `RilSapSocket::onRequestComplete` -/
def onRequestComplete (r : Nat) (reply : SapReply) (state : SapState) :
    Option (SapState × List SapOutput) :=
  let hdr := state.header r
  if state.heap (r, .header) ≠ .live then none
  else
    (respondTo r reply state).bind fun (after, out) =>
      (checkAndDequeue after.heap after.header hdr.id hdr.token
        (after.pending hdr.socketId)).bind fun (queue, found) =>
          (after.heap.releaseAll
            (found.toList.map (fun entry => (entry, .entry)) ++ [(r, .header)])).map fun heap =>
              ({ after with
                heap := heap
                pending := Function.update after.pending hdr.socketId queue }, out)

/-- `RilSapSocket::sOnRequestComplete` -/
def sOnRequestComplete (config : SapConfig) (r : Nat) (reply : SapReply) (state : SapState) :
    Option (SapState × List SapOutput) :=
  if state.heap (r, .entry) ≠ .live then none
  else if config.socketExists (state.header r).socketId then onRequestComplete r reply state
  else
    (state.heap.releaseAll [(r, .payload), (r, .header), (r, .entry)]).map fun heap =>
      ({ state with heap := heap }, [])

/-- `RilSapSocket::dispatchRequest` up to the vendor's `onRequest` -/
def dispatchRequest (config : SapConfig) (r : Nat) (allocated : Bool) (state : SapState) :
    Option (SapState × List SapOutput) :=
  let socketId := (state.header r).socketId
  if allocated then
    some ({ state with
        heap := state.heap.alloc (r, .entry)
        pending := Function.update state.pending socketId (r :: state.pending socketId)
        dispatching := r :: state.dispatching },
      if config.uimFuncs then [.onRequest r] else [])
  else
    (state.heap.release (r, .header)).map fun heap =>
      ({ state with heap := heap, dispatching := r :: state.dispatching }, [])

/-- The rest of `addPayloadAndDispatchRequest`, which reads the payload from the header. -/
def dispatchReturns (r : Nat) (state : SapState) : Option (SapState × List SapOutput) :=
  if state.heap (r, .header) ≠ .live then none
  else
    (state.heap.release (r, .payload)).map fun heap =>
      ({ state with heap := heap, dispatching := state.dispatching.erase r }, [])

/-- A request of `SapImpl`, up to the vendor's `onRequest` -/
def sapRequest (config : SapConfig) (header : SapHeader) (outcome : SapRequestOutcome)
    (state : SapState) : Option (SapState × List SapOutput) :=
  let r := state.made
  let entered := { state with
    header := Function.update state.header r header, made := state.made + 1 }
  let headed := { entered with heap := state.heap.alloc (r, .header) }
  match outcome with
  | .noHeader => sendFailedResponse r [] entered
  | .notEncoded => sendFailedResponse r [.header] headed
  | .noPayload => sendFailedResponse r [.header] headed
  | .dispatched allocated =>
      let filled := { headed with heap := headed.heap.alloc (r, .payload) }
      if config.socketExists header.socketId then dispatchRequest config r allocated filled
      else sendFailedResponse r [.payload, .header] filled

/-! ## The system -/

inductive SapEvent
  | request (header : SapHeader) (outcome : SapRequestOutcome)
  | dispatchReturns (r : Nat)
  /-- The vendor completes the request at the address of this entry. -/
  | complete (r : Nat) (reply : SapReply)
  | setCallback (slot : Nat)
  | clientDies (slot : Nat)
  /-- An unsolicited response finds the client dead. -/
  | checkReturnStatus (slot : Nat)
  deriving DecidableEq

/-- The step, unless it crashes. -/
def SapState.safeStep (config : SapConfig) (state : SapState) :
    SapEvent → Option (SapState × List SapOutput)
  | .request header outcome => sapRequest config header outcome state
  | .dispatchReturns r => Ril.dispatchReturns r state
  | .complete r reply => sOnRequestComplete config r reply state
  | .setCallback slot =>
      some ({ state with sapCallback := Function.update state.sapCallback slot (some true) }, [])
  | .clientDies slot =>
      some ({ state with
        sapCallback := Function.update state.sapCallback slot
          ((state.sapCallback slot).map fun _ => false) }, [])
  | .checkReturnStatus slot =>
      some ({ state with
        sapCallback := Function.update state.sapCallback slot
          (if state.sapCallback slot = some true then some true else none) }, [])

def SapState.step (config : SapConfig) (state : SapState) (event : SapEvent) :
    Option (SapState × List SapOutput) :=
  if state.crashed then none
  else
    match event with
    | .dispatchReturns r =>
        -- only a dispatch that is under way returns
        if r ∈ state.dispatching then
          some ((state.safeStep config event).getD ({ state with crashed := true }, [.crash]))
        else none
    | _ => some ((state.safeStep config event).getD ({ state with crashed := true }, [.crash]))

def sapInit : SapState :=
  { heap := fun _ => .absent
    header := fun _ => ⟨0, .connect, 0⟩
    pending := fun _ => []
    sapCallback := fun _ => none
    dispatching := []
    made := 0
    crashed := false }

/-- The requests as a system. -/
def sapSystem (config : SapConfig) : System SapState SapEvent SapOutput where
  Init := fun state => state = sapInit
  step := fun state event => state.step config event

/-! ## What a request owes -/

/-- The request is in the queue of its socket. -/
def SapState.Pending (state : SapState) (r : Nat) : Prop :=
  r ∈ state.pending (state.header r).socketId

instance (state : SapState) (r : Nat) : Decidable (state.Pending r) :=
  inferInstanceAs (Decidable (r ∈ _))

/-- The request that an output responds to. -/
def SapOutput.answered : SapOutput → Option Nat
  | .response r _ => some r
  | .onRequest _ | .crash => none

/-- The requests that were responded to. -/
def answered (outputs : List SapOutput) : List Nat :=
  outputs.filterMap SapOutput.answered

/-- Nothing is used or released that is not live; a request keeps its header while it is
pending and its payload while it is dispatched; and it is responded to once, under its token,
as soon as it is no longer pending. -/
structure SapKept (history : History SapEvent SapOutput) (state : SapState) : Prop where
  safe : .crash ∉ history.outputs
  headers : ∀ r < state.made, state.heap (r, .header) = .live ↔ state.Pending r
  payloads : ∀ r < state.made, state.heap (r, .payload) = .live ↔ r ∈ state.dispatching
  responses : ∀ r < state.made,
    (answered history.outputs).count r = if state.Pending r then 0 else 1
  tokens : ∀ r token, .response r token ∈ history.outputs → token = (state.header r).token

/-- The vendor completes pending requests only, after their dispatch has returned, with an
answer that can be taken; a request is new to its queue; and there is memory, and a callback
to respond to. -/
def SapOrderly (config : SapConfig) : System.Guard SapState SapEvent SapOutput
  | _, state, .request header outcome =>
      if outcome = .dispatched true ∧ config.socketExists header.socketId = true then
        ∀ other ∈ state.pending header.socketId,
          ¬ ((state.header other).id = header.id ∧ (state.header other).token = header.token)
      else
        state.sapCallback header.socketId ≠ none ∧
          (outcome = .dispatched false → config.socketExists header.socketId = false)
  | _, state, .complete r reply =>
      state.Pending r ∧ r ∉ state.dispatching ∧
        state.sapCallback (state.header r).socketId ≠ none ∧ reply ≠ .noMemory ∧
        (reply = .undecodable → (state.header r).id.readsMessage = false)
  | _, _, .dispatchReturns _ | _, _, .setCallback _ | _, _, .clientDies _
  | _, _, .checkReturnStatus _ => True

instance (config : SapConfig) (history : History SapEvent SapOutput) (state : SapState)
    (event : SapEvent) : Decidable (SapOrderly config history state event) :=
  match event with
  | .request _ _ => inferInstanceAs (Decidable (ite _ _ _))
  | .complete _ _ => inferInstanceAs (Decidable (_ ∧ _))
  | .dispatchReturns _ | .setCallback _ | .clientDies _ | .checkReturnStatus _ =>
      inferInstanceAs (Decidable True)

/-! ## The queue -/

/-- `checkAndDequeue` cannot tell the two requests apart. -/
def SameKey (header : Nat → SapHeader) (first second : Nat) : Prop :=
  (header first).id = (header second).id ∧ (header first).token = (header second).token

/-- In a queue of distinct keys an entry is found as itself. -/
theorem checkAndDequeue_eq {heap : Heap (Nat × SapBlock)} {header : Nat → SapHeader}
    {queue : List Nat} {r : Nat}
    (live : ∀ entry ∈ queue, heap (entry, .entry) = .live ∧ heap (entry, .header) = .live)
    (distinct : queue.Pairwise fun first second => ¬ SameKey header first second)
    (queued : r ∈ queue) :
    checkAndDequeue heap header (header r).id (header r).token queue =
      some (queue.erase r, some r) := by
  induction queue with
  | nil => cases queued
  | cons first rest ih =>
      rcases live first List.mem_cons_self with ⟨entryLive, headerLive⟩
      rw [List.pairwise_cons] at distinct
      unfold checkAndDequeue
      rw [if_neg (not_not_intro entryLive)]
      by_cases same : first = r
      · subst same
        simp [headerLive]
      · have later : r ∈ rest := by
          rcases List.mem_cons.mp queued with equal | later
          · exact absurd equal.symm same
          · exact later
        have differs := distinct.1 r later
        have rest_eq := ih (fun entry occurs => live entry (List.mem_cons_of_mem first occurs))
          distinct.2 later
        rw [rest_eq, Option.map_some, List.erase_cons_tail (by simpa using same)]
        split
        case isTrue token =>
          rw [if_neg (not_not_intro headerLive), if_neg]
          intro id
          exact differs ⟨id.symm, token.symm⟩
        case isFalse => rfl

/-! ## The invariant -/

structure SapSound (config : SapConfig) (outputs : List SapOutput) (state : SapState) :
    Prop where
  intact : state.crashed = false
  safe : .crash ∉ outputs
  /-- A queue holds requests of its own socket. -/
  owned : ∀ socketId, ∀ r ∈ state.pending socketId,
    r < state.made ∧ (state.header r).socketId = socketId ∧ config.socketExists socketId = true
  distinct : ∀ socketId,
    (state.pending socketId).Pairwise fun first second => ¬ SameKey state.header first second
  entries : ∀ r, state.heap (r, .entry) = .live ↔ state.Pending r
  headers : ∀ r, state.heap (r, .header) = .live ↔ state.Pending r
  payloads : ∀ r, state.heap (r, .payload) = .live ↔ r ∈ state.dispatching
  running : ∀ r ∈ state.dispatching, state.Pending r
  once : state.dispatching.Nodup
  responses : ∀ r, (answered outputs).count r =
    if r < state.made ∧ ¬ state.Pending r then 1 else 0
  tokens : ∀ r token, .response r token ∈ outputs → token = (state.header r).token

section Steps

variable {config : SapConfig} {outputs : List SapOutput} {state : SapState}

theorem answered_append (first second : List SapOutput) :
    answered (first ++ second) = answered first ++ answered second :=
  List.filterMap_append ..

theorem sapSound_init (config : SapConfig) : SapSound config [] sapInit := by
  constructor <;> simp [sapInit, answered, SapState.Pending]

theorem SapSound.lt_made (sound : SapSound config outputs state) {r : Nat}
    (pending : state.Pending r) : r < state.made :=
  (sound.owned _ r pending).1

/-- The callback objects do not matter to the requests. -/
theorem SapSound.frame (sound : SapSound config outputs state)
    (sapCallback : Nat → Option Bool) :
    SapSound config outputs { state with sapCallback := sapCallback } :=
  ⟨sound.intact, sound.safe, sound.owned, sound.distinct, sound.entries, sound.headers,
    sound.payloads, sound.running, sound.once, sound.responses, sound.tokens⟩

/-- The header of a new request is filled in. -/
def SapState.enter (state : SapState) (header : SapHeader) : SapState :=
  { state with header := Function.update state.header state.made header, made := state.made + 1 }

theorem SapState.enter_header_of_lt {r : Nat} (earlier : r < state.made) (header : SapHeader) :
    (state.enter header).header r = state.header r :=
  Function.update_of_ne (Nat.ne_of_lt earlier) ..

theorem SapSound.unqueued (sound : SapSound config outputs state) (socketId : Nat) :
    state.made ∉ state.pending socketId := fun queued =>
  Nat.lt_irrefl _ (sound.owned socketId _ queued).1

theorem SapSound.pending_enter (sound : SapSound config outputs state) (header : SapHeader)
    (r : Nat) : (state.enter header).Pending r ↔ state.Pending r := by
  constructor
  · intro pending
    have earlier := (sound.owned _ r pending).1
    unfold SapState.Pending at pending
    rw [SapState.enter_header_of_lt earlier] at pending
    exact pending
  · intro pending
    unfold SapState.Pending
    rw [SapState.enter_header_of_lt (sound.lt_made pending)]
    exact pending

theorem SapSound.owned_enter (sound : SapSound config outputs state) (header : SapHeader)
    {socketId r : Nat} (queued : r ∈ state.pending socketId) :
    r < state.made + 1 ∧ ((state.enter header).header r).socketId = socketId ∧
      config.socketExists socketId = true := by
  rcases sound.owned socketId r queued with ⟨earlier, own, present⟩
  refine ⟨Nat.lt_succ_of_lt earlier, ?_, present⟩
  rw [SapState.enter_header_of_lt earlier]
  exact own

theorem SapSound.distinct_enter (sound : SapSound config outputs state) (header : SapHeader)
    (socketId : Nat) :
    (state.pending socketId).Pairwise fun first second =>
      ¬ SameKey (state.enter header).header first second := by
  apply (sound.distinct socketId).imp_of_mem
  intro first second firstQueued secondQueued differ
  unfold SameKey
  rw [SapState.enter_header_of_lt (sound.owned socketId _ firstQueued).1,
    SapState.enter_header_of_lt (sound.owned socketId _ secondQueued).1]
  exact differ

/-- Responses name requests that were made. -/
theorem SapSound.response_lt (sound : SapSound config outputs state) {r : Nat} {token : Int}
    (responded : .response r token ∈ outputs) : r < state.made := by
  have occurs : r ∈ answered outputs := List.mem_filterMap.mpr ⟨_, responded, rfl⟩
  have counted := sound.responses r
  by_contra later
  rw [if_neg fun both => later both.1] at counted
  exact List.count_eq_zero.mp counted occurs

theorem SapSound.tokens_enter (sound : SapSound config outputs state) (header : SapHeader)
    {r : Nat} {token : Int} (responded : .response r token ∈ outputs) :
    token = ((state.enter header).header r).token := by
  rw [SapState.enter_header_of_lt (sound.response_lt responded)]
  exact sound.tokens r token responded

/-- A request that fails is responded to, and keeps no block. -/
theorem SapSound.failed (sound : SapSound config outputs state) (header : SapHeader)
    {heap : Heap (Nat × SapBlock)}
    (same : ∀ r block, r ≠ state.made → heap (r, block) = state.heap (r, block))
    (dead : ∀ block, heap (state.made, block) ≠ .live) :
    SapSound config (outputs ++ [.response state.made header.token])
      { state.enter header with heap := heap } := by
  have fresh : ¬ state.Pending state.made := sound.unqueued _
  have blocks : ∀ r block, heap (r, block) = .live ↔ state.heap (r, block) = .live := by
    intro r block
    by_cases new : r = state.made
    · subst new
      have absent : state.heap (state.made, block) ≠ .live := by
        intro live
        cases block with
        | header => exact fresh ((sound.headers _).mp live)
        | payload => exact fresh (sound.running _ ((sound.payloads _).mp live))
        | entry => exact fresh ((sound.entries _).mp live)
      simp [dead, absent]
    · rw [same r block new]
  constructor
  · exact sound.intact
  · simpa using sound.safe
  · exact fun socketId r queued => sound.owned_enter header queued
  · exact sound.distinct_enter header
  · intro r
    exact (blocks r .entry).trans ((sound.entries r).trans (sound.pending_enter header r).symm)
  · intro r
    exact (blocks r .header).trans ((sound.headers r).trans (sound.pending_enter header r).symm)
  · exact fun r => (blocks r .payload).trans (sound.payloads r)
  · exact fun r runs => (sound.pending_enter header r).mpr (sound.running r runs)
  · exact sound.once
  · intro r
    rw [answered_append, List.count_append, sound.responses r]
    show _ = if r < state.made + 1 ∧ ¬ (state.enter header).Pending r then 1 else 0
    simp only [sound.pending_enter header r]
    by_cases new : r = state.made
    · subst new
      simp [answered, SapOutput.answered, fresh]
    · have other : (answered [.response state.made header.token]).count r = 0 := by
        simp [answered, SapOutput.answered, Ne.symm new]
      have bound : r < state.made + 1 ↔ r < state.made := by omega
      simp only [other, bound, Nat.add_zero]
  · intro r token responded
    rcases List.mem_append.mp responded with old | new
    · exact sound.tokens_enter header old
    · obtain ⟨rfl, rfl⟩ : r = state.made ∧ token = header.token := by simpa using new
      simp [SapState.enter]

/-- A request that is dispatched has its three blocks and waits. -/
def SapState.dispatch (state : SapState) (header : SapHeader) : SapState :=
  { state.enter header with
    heap := ((state.heap.alloc (state.made, .header)).alloc (state.made, .payload)).alloc
      (state.made, .entry)
    pending := Function.update state.pending header.socketId
      (state.made :: state.pending header.socketId)
    dispatching := state.made :: state.dispatching }

theorem SapState.dispatch_heap (header : SapHeader) (r : Nat) (block : SapBlock) :
    (state.dispatch header).heap (r, block) = .live ↔
      r = state.made ∨ state.heap (r, block) = .live := by
  by_cases new : r = state.made
  · subst new
    cases block <;> simp [SapState.dispatch, Heap.alloc]
  · simp [SapState.dispatch, Heap.alloc, new]

theorem SapState.mem_dispatch_pending (header : SapHeader) (socketId r : Nat) :
    r ∈ (state.dispatch header).pending socketId ↔
      r = state.made ∧ socketId = header.socketId ∨ r ∈ state.pending socketId := by
  by_cases own : socketId = header.socketId
  · subst own
    simp [SapState.dispatch]
  · simp [SapState.dispatch, own]

theorem SapSound.pending_dispatch (sound : SapSound config outputs state) (header : SapHeader)
    (r : Nat) : (state.dispatch header).Pending r ↔ r = state.made ∨ state.Pending r := by
  unfold SapState.Pending
  rw [SapState.mem_dispatch_pending]
  by_cases new : r = state.made
  · subst new
    simp [SapState.dispatch, SapState.enter]
  · have pending := sound.pending_enter header r
    simp only [new, false_and, false_or]
    exact pending

theorem SapSound.dispatched (sound : SapSound config outputs state) (header : SapHeader)
    (present : config.socketExists header.socketId = true)
    (new : ∀ other ∈ state.pending header.socketId,
      ¬ ((state.header other).id = header.id ∧ (state.header other).token = header.token))
    {out : List SapOutput} (silent : answered out = []) (safe : .crash ∉ out)
    (mute : ∀ r token, .response r token ∉ out) :
    SapSound config (outputs ++ out) (state.dispatch header) := by
  have fresh : ¬ state.Pending state.made := sound.unqueued _
  constructor
  · exact sound.intact
  · simpa using ⟨sound.safe, safe⟩
  · intro socketId r queued
    rw [SapState.mem_dispatch_pending] at queued
    rcases queued with ⟨rfl, rfl⟩ | old
    · refine ⟨Nat.lt_succ_self _, ?_, present⟩
      simp [SapState.dispatch, SapState.enter]
    · exact sound.owned_enter header old
  · intro socketId
    have before := sound.distinct_enter header socketId
    by_cases own : socketId = header.socketId
    · subst own
      simp only [SapState.dispatch, Function.update_self, List.pairwise_cons]
      constructor
      · rintro other queued ⟨id, token⟩
        rw [SapState.enter_header_of_lt (sound.owned _ other queued).1] at id token
        simp only [SapState.enter, Function.update_self] at id token
        exact new other queued ⟨id.symm, token.symm⟩
      · exact before
    · simp only [SapState.dispatch, Function.update_of_ne own]
      exact before
  · intro r
    rw [SapState.dispatch_heap, sound.pending_dispatch, sound.entries]
  · intro r
    rw [SapState.dispatch_heap, sound.pending_dispatch, sound.headers]
  · intro r
    rw [SapState.dispatch_heap, sound.payloads]
    exact List.mem_cons.symm
  · intro r runs
    rw [sound.pending_dispatch]
    rcases List.mem_cons.mp runs with new | earlier
    · exact .inl new
    · exact .inr (sound.running r earlier)
  · apply List.nodup_cons.mpr
    exact ⟨fun runs => fresh (sound.running _ runs), sound.once⟩
  · intro r
    rw [answered_append, silent, List.append_nil, sound.responses r]
    show _ = if r < state.made + 1 ∧ ¬ (state.dispatch header).Pending r then 1 else 0
    simp only [sound.pending_dispatch header r]
    by_cases new : r = state.made
    · simp [new]
    · have bound : r < state.made + 1 ↔ r < state.made := by omega
      simp [new, bound]
  · intro r token responded
    rcases List.mem_append.mp responded with old | added
    · exact sound.tokens_enter header old
    · exact absurd added (mute r token)

/-- The dispatch of a request returns, and its payload is released. -/
theorem SapSound.returned (sound : SapSound config outputs state) {r : Nat}
    (runs : r ∈ state.dispatching) :
    dispatchReturns r state =
        some ({ state with
          heap := Function.update state.heap (r, .payload) .freed
          dispatching := state.dispatching.erase r }, []) ∧
      SapSound config outputs
        { state with
          heap := Function.update state.heap (r, .payload) .freed
          dispatching := state.dispatching.erase r } := by
  have header := (sound.headers r).mpr (sound.running r runs)
  have payload := (sound.payloads r).mpr runs
  constructor
  · simp [dispatchReturns, header, Heap.release_of_live payload]
  constructor
  · exact sound.intact
  · exact sound.safe
  · exact sound.owned
  · exact sound.distinct
  · intro other
    show Function.update state.heap _ _ _ = _ ↔ state.Pending other
    rw [Function.update_of_ne (by simp)]
    exact sound.entries other
  · intro other
    show Function.update state.heap _ _ _ = _ ↔ state.Pending other
    rw [Function.update_of_ne (by simp)]
    exact sound.headers other
  · intro other
    show Function.update state.heap _ _ _ = _ ↔ other ∈ state.dispatching.erase r
    by_cases same : other = r
    · subst same
      simp [sound.once.not_mem_erase]
    · rw [Function.update_of_ne (by simpa using same), sound.payloads other,
        List.mem_erase_of_ne same]
  · intro other kept
    exact sound.running other (List.mem_of_mem_erase kept)
  · exact sound.once.erase r
  · exact sound.responses
  · exact sound.tokens

/-- What the completion of a pending request leaves. -/
def SapState.complete (state : SapState) (r : Nat) (alive : Bool) : SapState :=
  { (callCallback r alive state).1 with
    heap := Function.update (Function.update state.heap (r, .entry) .freed) (r, .header) .freed
    pending := Function.update state.pending (state.header r).socketId
      ((state.pending (state.header r).socketId).erase r) }

theorem SapSound.queue_nodup (sound : SapSound config outputs state) (socketId : Nat) :
    (state.pending socketId).Nodup := by
  apply (sound.distinct socketId).imp
  rintro first second differ rfl
  exact differ ⟨rfl, rfl⟩

theorem SapSound.mem_complete_pending (sound : SapSound config outputs state) (r : Nat)
    (alive : Bool) {socketId other : Nat} :
    other ∈ (state.complete r alive).pending socketId ↔
      other ≠ r ∧ other ∈ state.pending socketId := by
  by_cases own : socketId = (state.header r).socketId
  · subst own
    simp only [SapState.complete, Function.update_self]
    exact (sound.queue_nodup _).mem_erase_iff
  · simp only [SapState.complete, Function.update_of_ne own]
    constructor
    · intro queued
      constructor
      · rintro rfl
        exact own (sound.owned socketId other queued).2.1.symm
      · exact queued
    · exact And.right

/-- A pending request that can be answered completes with one response. -/
theorem SapSound.complete_eq (sound : SapSound config outputs state) {r : Nat} {reply : SapReply}
    {alive : Bool} (pending : state.Pending r)
    (callback : state.sapCallback (state.header r).socketId = some alive)
    (memory : reply ≠ .noMemory)
    (unread : reply = .undecodable → (state.header r).id.readsMessage = false) :
    sOnRequestComplete config r reply state =
      some (state.complete r alive, [.response r (state.header r).token]) := by
  have entry := (sound.entries r).mpr pending
  have header := (sound.headers r).mpr pending
  have present := (sound.owned _ r pending).2.2
  have responded : respondTo r reply state = some (callCallback r alive state) := by
    cases reply with
    | noMemory => exact absurd rfl memory
    | undecodable => simp [respondTo, processResponse, callback, unread rfl]
    | decodable => simp [respondTo, processResponse, callback]
  have live : ∀ entry ∈ state.pending (state.header r).socketId,
      state.heap (entry, .entry) = .live ∧ state.heap (entry, .header) = .live := by
    intro other queued
    have waiting : state.Pending other := by
      unfold SapState.Pending
      rw [(sound.owned _ other queued).2.1]
      exact queued
    exact ⟨(sound.entries other).mpr waiting, (sound.headers other).mpr waiting⟩
  have found := checkAndDequeue_eq live (sound.distinct _) pending
  have released : state.heap.releaseAll [(r, SapBlock.entry), (r, SapBlock.header)] =
      some (state.complete r alive).heap := by
    simp [Heap.releaseAll, Heap.release, entry, header, SapState.complete]
  unfold sOnRequestComplete onRequestComplete
  rw [if_neg (not_not_intro entry), if_pos present, if_neg (not_not_intro header), responded]
  simp only [Option.bind_some, callCallback, found, Option.toList_some, List.map_cons,
    List.map_nil, List.cons_append, List.nil_append, released, Option.map_some]
  rfl

theorem SapSound.completed (sound : SapSound config outputs state) {r : Nat}
    (pending : state.Pending r) (idle : r ∉ state.dispatching) (alive : Bool) :
    SapSound config (outputs ++ [.response r (state.header r).token])
      (state.complete r alive) := by
  have waiting : ∀ other, (state.complete r alive).Pending other ↔
      other ≠ r ∧ state.Pending other :=
    fun other => sound.mem_complete_pending r alive
  have kept : ∀ other block, block ≠ .payload →
      ((state.complete r alive).heap (other, block) = .live ↔
        other ≠ r ∧ state.heap (other, block) = .live) := by
    intro other block blockKind
    by_cases same : other = r
    · subst same
      cases block with
      | payload => exact absurd rfl blockKind
      | header => simp [SapState.complete]
      | entry => simp [SapState.complete]
    · simp [SapState.complete, same]
  constructor
  · exact sound.intact
  · simpa using sound.safe
  · intro socketId other queued
    exact sound.owned socketId other ((sound.mem_complete_pending r alive).mp queued).2
  · intro socketId
    by_cases own : socketId = (state.header r).socketId
    · subst own
      simp only [SapState.complete, Function.update_self]
      exact (sound.distinct _).sublist List.erase_sublist
    · simp only [SapState.complete, Function.update_of_ne own]
      exact sound.distinct socketId
  · intro other
    rw [kept other .entry (by simp), waiting, sound.entries]
  · intro other
    rw [kept other .header (by simp), waiting, sound.headers]
  · intro other
    have same : (state.complete r alive).heap (other, .payload) =
        state.heap (other, .payload) := by
      simp [SapState.complete]
    rw [same]
    exact sound.payloads other
  · intro other runs
    rw [waiting]
    constructor
    · rintro rfl
      exact idle runs
    · exact sound.running other runs
  · exact sound.once
  · intro other
    rw [answered_append, List.count_append, sound.responses other]
    show _ = if other < state.made ∧ ¬ (state.complete r alive).Pending other then 1 else 0
    simp only [waiting]
    by_cases same : other = r
    · subst same
      simp [answered, SapOutput.answered, pending, sound.lt_made pending]
    · have apart : (answered [.response r (state.header r).token]).count other = 0 := by
        simp [answered, SapOutput.answered, Ne.symm same]
      simp [apart, same]
  · intro other token responded
    rcases List.mem_append.mp responded with old | new
    · exact sound.tokens other token old
    · obtain ⟨rfl, rfl⟩ : other = r ∧ token = (state.header r).token := by simpa using new
      rfl

/-- A request that fails before its dispatch releases what it has and is responded to. -/
theorem SapSound.sendFailed (sound : SapSound config outputs state) {header : SapHeader}
    {blocks : List SapBlock} {heap heap' : Heap (Nat × SapBlock)} {after : SapState}
    {out : List SapOutput}
    (released : heap.releaseAll (blocks.map fun block => (state.made, block)) = some heap')
    (same : ∀ r block, r ≠ state.made → heap' (r, block) = state.heap (r, block))
    (dead : ∀ block, heap' (state.made, block) ≠ .live)
    (callback : state.sapCallback header.socketId ≠ none)
    (sent : (sendFailedResponse state.made blocks { state.enter header with heap := heap }).getD
      ({ state with crashed := true }, [.crash]) = (after, out)) :
    SapSound config (outputs ++ out) after := by
  obtain ⟨alive, object⟩ := Option.ne_none_iff_exists'.mp callback
  have own : (state.enter header).header state.made = header := Function.update_self ..
  have responded : sendFailedResponse state.made blocks { state.enter header with heap := heap } =
      some (callCallback state.made alive { state.enter header with heap := heap' }) := by
    unfold sendFailedResponse
    rw [released, Option.bind_some]
    show ((state.enter header).sapCallback _).map _ = _
    rw [own]
    show (state.sapCallback header.socketId).map _ = _
    rw [object]
    rfl
  rw [responded] at sent
  obtain ⟨rfl, rfl⟩ := Prod.mk.inj sent
  simp only [own]
  exact (sound.failed header same dead).frame _

theorem SapSound.request (sound : SapSound config outputs state) {header : SapHeader}
    {outcome : SapRequestOutcome} {history : History SapEvent SapOutput} {after : SapState}
    {out : List SapOutput} (orderly : SapOrderly config history state (.request header outcome))
    (requested : (sapRequest config header outcome state).getD
      ({ state with crashed := true }, [.crash]) = (after, out)) :
    SapSound config (outputs ++ out) after := by
  have absent : ∀ block, state.heap (state.made, block) ≠ .live := by
    have fresh : ¬ state.Pending state.made := sound.unqueued _
    intro block live
    cases block with
    | header => exact fresh ((sound.headers _).mp live)
    | payload => exact fresh (sound.running _ ((sound.payloads _).mp live))
    | entry => exact fresh ((sound.entries _).mp live)
  simp only [SapOrderly] at orderly
  split at orderly
  case isTrue dispatches =>
    rcases dispatches with ⟨rfl, present⟩
    simp only [sapRequest, present, if_true, dispatchRequest, Function.update_self,
      Option.getD_some] at requested
    obtain ⟨rfl, rfl⟩ := Prod.mk.inj requested
    apply sound.dispatched header present orderly
    · split <;> rfl
    · split <;> simp
    · intro r token
      split <;> simp
  case isFalse fails =>
    rcases orderly with ⟨callback, noEntry⟩
    have others : ∀ (r : Nat) (block new : SapBlock), r ≠ state.made →
        (r, block) ≠ (state.made, new) := by
      rintro r block new differs equal
      exact differs (Prod.mk.inj equal).1
    have headed : (state.heap.alloc (state.made, .header)).releaseAll
        ([SapBlock.header].map fun block => (state.made, block)) =
          some (Function.update (state.heap.alloc (state.made, .header))
            (state.made, .header) .freed) := by
      simp [Heap.releaseAll, Heap.release]
    have kept : ∀ r block, r ≠ state.made →
        Function.update (state.heap.alloc (state.made, .header)) (state.made, .header) .freed
          (r, block) = state.heap (r, block) := by
      intro r block differs
      rw [Function.update_of_ne (others r block _ differs),
        Heap.alloc_of_ne (others r block _ differs)]
    have freed : ∀ block,
        Function.update (state.heap.alloc (state.made, .header)) (state.made, .header) .freed
          (state.made, block) ≠ .live := by
      intro block
      cases block <;> simp [Heap.alloc, absent]
    cases outcome with
    | noHeader =>
        have nothing : state.heap.releaseAll
            (([] : List SapBlock).map fun block => (state.made, block)) = some state.heap := rfl
        exact sound.sendFailed nothing (fun _ _ _ => rfl) absent callback requested
    | notEncoded => exact sound.sendFailed headed kept freed callback requested
    | noPayload => exact sound.sendFailed headed kept freed callback requested
    | dispatched allocated =>
        have missing : config.socketExists header.socketId = false := by
          cases allocated with
          | true => simpa using fails
          | false => exact noEntry rfl
        simp only [sapRequest, missing, Bool.false_eq_true, if_false] at requested
        have filled : ((state.heap.alloc (state.made, .header)).alloc
            (state.made, .payload)).releaseAll
              ([SapBlock.payload, .header].map fun block => (state.made, block)) =
            some (Function.update (Function.update ((state.heap.alloc
              (state.made, .header)).alloc (state.made, .payload)) (state.made, .payload) .freed)
                (state.made, .header) .freed) := by
          simp [Heap.releaseAll, Heap.release, Heap.alloc]
        apply sound.sendFailed filled _ _ callback requested
        · intro r block differs
          rw [Function.update_of_ne (others r block _ differs),
            Function.update_of_ne (others r block _ differs),
            Heap.alloc_of_ne (others r block _ differs),
            Heap.alloc_of_ne (others r block _ differs)]
        · intro block
          cases block <;> simp [Heap.alloc, absent]

end Steps

/-! ## The runs -/

theorem SapSound.step {config : SapConfig} {outputs : List SapOutput} {state after : SapState}
    {event : SapEvent} {out : List SapOutput} {history : History SapEvent SapOutput}
    (sound : SapSound config outputs state) (orderly : SapOrderly config history state event)
    (stepped : state.step config event = some (after, out)) :
    SapSound config (outputs ++ out) after := by
  unfold SapState.step at stepped
  rw [if_neg (by simp [sound.intact])] at stepped
  cases event with
  | request header outcome => exact sound.request orderly (Option.some.inj stepped)
  | dispatchReturns r =>
      simp only at stepped
      split at stepped
      case isTrue runs =>
        rcases sound.returned runs with ⟨returns, kept⟩
        simp only [SapState.safeStep, returns, Option.getD_some] at stepped
        obtain ⟨rfl, rfl⟩ := Prod.mk.inj (Option.some.inj stepped)
        simpa using kept
      case isFalse => cases stepped
  | complete r reply =>
      rcases orderly with ⟨pending, idle, callback, memory, unread⟩
      obtain ⟨alive, object⟩ := Option.ne_none_iff_exists'.mp callback
      simp only [SapState.safeStep, sound.complete_eq pending object memory unread,
        Option.getD_some] at stepped
      obtain ⟨rfl, rfl⟩ := Prod.mk.inj (Option.some.inj stepped)
      exact sound.completed pending idle alive
  | setCallback slot =>
      obtain ⟨rfl, rfl⟩ := Prod.mk.inj (Option.some.inj stepped)
      simpa using sound.frame _
  | clientDies slot =>
      obtain ⟨rfl, rfl⟩ := Prod.mk.inj (Option.some.inj stepped)
      simpa using sound.frame _
  | checkReturnStatus slot =>
      obtain ⟨rfl, rfl⟩ := Prod.mk.inj (Option.some.inj stepped)
      simpa using sound.frame _

/-- In an orderly run every request is released and responded to once. -/
theorem sapRequests_kept {config : SapConfig} {history : History SapEvent SapOutput}
    {state : SapState} (running : (sapSystem config).Run (SapOrderly config) history state) :
    SapKept history state := by
  have sound : SapSound config history.outputs state := by
    apply running.invariant fun history state => SapSound config history.outputs state
    · rintro state rfl
      exact sapSound_init config
    · intro history state event after out earlier orderly stepped
      rw [History.outputs_snoc]
      exact earlier.step orderly stepped
  constructor
  · exact sound.safe
  · exact fun r _ => sound.headers r
  · exact fun r _ => sound.payloads r
  · intro r made
    rw [sound.responses r]
    by_cases pending : state.Pending r <;> simp [pending, made]
  · exact sound.tokens

/-- One socket, with radio functions. -/
def oneSapSocket : SapConfig :=
  ⟨fun socketId => socketId = 0, true⟩

/-- Two requests are completed in the order of their dispatch, and one fails. -/
theorem sapRequests_kept_two :
    ∃ (history : History SapEvent SapOutput) (state : SapState),
      SapKept history state ∧ answered history.outputs = [2, 0, 1] := by
  have executed : ((sapSystem oneSapSocket).exec sapInit
      [.setCallback 0, .request ⟨0, .connect, 7⟩ (.dispatched true), .dispatchReturns 0,
        .request ⟨0, .apdu, 7⟩ (.dispatched true), .request ⟨0, .power, 8⟩ .noPayload,
        .dispatchReturns 1, .complete 0 .decodable, .complete 1 .decodable]).map
        (fun final => answered final.1.outputs) = some [2, 0, 1] := by
    decide +kernel
  obtain ⟨history, state, running, seen⟩ :=
    System.exists_run_of_exec _ (SapOrderly oneSapSocket) _ _ rfl (by decide +kernel) executed
  exact ⟨history, state, sapRequests_kept running, seen⟩

/-- A request that the vendor completes inside `onRequest` is read after its release; an
answer that cannot be decoded is read; a request that is completed twice is; and of two
requests under one token the first completion takes the entry of the other. -/
theorem sapRequests_crash :
    (∃ (history : History SapEvent SapOutput) (state : SapState),
      (sapSystem oneSapSocket).Run System.free history state ∧
        (history.events, history.outputs) =
          ([.setCallback 0, .request ⟨0, .connect, 7⟩ (.dispatched true),
              .complete 0 .decodable, .dispatchReturns 0],
            [.onRequest 0, .response 0 7, .crash])) ∧
    (∃ (history : History SapEvent SapOutput) (state : SapState),
      (sapSystem oneSapSocket).Run System.free history state ∧
        history.outputs = [.onRequest 0, .crash]) ∧
    (∃ (history : History SapEvent SapOutput) (state : SapState),
      (sapSystem oneSapSocket).Run System.free history state ∧
        history.outputs = [.onRequest 0, .response 0 7, .crash]) ∧
    (∃ (history : History SapEvent SapOutput) (state : SapState),
      (sapSystem oneSapSocket).Run System.free history state ∧
        history.outputs = [.onRequest 0, .onRequest 1, .response 0 7, .crash]) := by
  constructor
  · have executed : ((sapSystem oneSapSocket).exec sapInit
        [.setCallback 0, .request ⟨0, .connect, 7⟩ (.dispatched true), .complete 0 .decodable,
          .dispatchReturns 0]).map (fun final => (final.1.events, final.1.outputs)) =
        some ([.setCallback 0, .request ⟨0, .connect, 7⟩ (.dispatched true),
            .complete 0 .decodable, .dispatchReturns 0],
          [.onRequest 0, .response 0 7, .crash]) := by
      decide +kernel
    exact System.exists_run_of_exec _ System.free _ _ rfl (by decide +kernel) executed
  constructor
  · have executed : ((sapSystem oneSapSocket).exec sapInit
        [.setCallback 0, .request ⟨0, .connect, 7⟩ (.dispatched true), .dispatchReturns 0,
          .complete 0 .undecodable]).map (fun final => final.1.outputs) =
        some [.onRequest 0, .crash] := by
      decide +kernel
    exact System.exists_run_of_exec _ System.free _ _ rfl (by decide +kernel) executed
  constructor
  · have executed : ((sapSystem oneSapSocket).exec sapInit
        [.setCallback 0, .request ⟨0, .connect, 7⟩ (.dispatched true), .dispatchReturns 0,
          .complete 0 .decodable, .complete 0 .decodable]).map
          (fun final => final.1.outputs) = some [.onRequest 0, .response 0 7, .crash] := by
      decide +kernel
    exact System.exists_run_of_exec _ System.free _ _ rfl (by decide +kernel) executed
  · have executed : ((sapSystem oneSapSocket).exec sapInit
        [.setCallback 0, .request ⟨0, .connect, 7⟩ (.dispatched true), .dispatchReturns 0,
          .request ⟨0, .connect, 7⟩ (.dispatched true), .dispatchReturns 1,
          .complete 0 .decodable, .complete 1 .decodable]).map
          (fun final => final.1.outputs) =
        some [.onRequest 0, .onRequest 1, .response 0 7, .crash] := by
      decide +kernel
    exact System.exists_run_of_exec _ System.free _ _ rfl (by decide +kernel) executed

end X3Hal.Ril
