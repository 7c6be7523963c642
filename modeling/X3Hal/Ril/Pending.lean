import Mathlib.Logic.Function.Basic
import X3Hal.Transition.Core
import X3Hal.Transition.Ledger
import X3Hal.Ril.Register

/-!
# The pending request lists

A request is pushed on the list of its socket before its helper hands it to the
vendor library or answers it with an error.  The vendor acknowledges and
completes requests by their address.  A completion takes the request off its
list under the mutex of the list, and calls the response function and frees the
request after that, so other events may come between the two.  A token is any
address; what its memory holds when it is no live request is a choice of the
environment.
-/

namespace X3Hal.Ril

open X3Hal.Transition

/-- A request in a pending list. -/
structure RequestInfo where
  /-- The address the vendor library uses as its token. -/
  address : Nat
  /-- The number of the request among all issued ones; the code has no such field. -/
  uid : Nat
  /-- The serial number of the caller. -/
  token : Int
  pCI : CommandInfo
  isLocal : Bool
  socketId : Slot
  wasAckSent : Bool
  deriving DecidableEq, Repr

/-- The pending lists and the calls in progress. -/
structure Requests where
  pending : Slot → List RequestInfo
  /-- Requests whose helper has neither enqueued nor answered them yet. -/
  dispatching : List (RequestInfo × Helper)
  /-- Requests taken off their list by a completion that is not over yet. -/
  completing : List RequestInfo
  issued : Nat

def Requests.initial : Requests :=
  ⟨fun _ => [], [], [], 0⟩

inductive ResponseType
  | solicited | solicitedAckExp
  deriving DecidableEq, Repr

inductive RequestOutput
  /-- The request was added to the list of a socket. -/
  | issued (uid : Nat) (socketId : Slot)
  /-- The vendor library was called. -/
  | onRequest (uid : Nat) (requestNumber : Nat) (socketId : Slot)
  | acknowledged (token : Int) (socketId : Slot)
  /-- The response function was called. -/
  | answered (uid : Nat) (socketId : Slot) (responseType : ResponseType)
  /-- A local request completed; its response goes nowhere. -/
  | completedLocal (uid : Nat) (socketId : Slot)
  /-- A request completed whose entry has no response function. -/
  | notHandled (uid : Nat) (socketId : Slot)
  deriving DecidableEq, Repr

/-- One event; the slot that goes with a token is what the memory at the token
says when the token is no live request. -/
inductive RequestEvent
  /-- A method runs up to the return of `addRequestToList` for one of its requests. -/
  | addRequestToList (method : RadioMethod) (index : Nat) (serial : Int) (slotId : Slot)
      (address : Nat)
  | myEnqueue (uid : Nat)
  | sendErrorResponse (uid : Nat) (error : RilErrno)
  | onRequestAck (token : Nat) (stale : Slot)
  /-- `RIL_onRequestComplete` up to the return of `checkAndDequeueRequestInfoIfAck`. -/
  | onRequestComplete (token : Nat) (stale : Slot)
  /-- The rest of `RIL_onRequestComplete`. -/
  | finishRequest (uid : Nat)
  deriving DecidableEq, Repr

namespace Requests

/-- The requests that are not freed. -/
def live (state : Requests) : List RequestInfo :=
  state.pending .socket1 ++ state.pending .socket2 ++ state.completing

/-- The socket that the memory at a token names. -/
def socketOf (state : Requests) (token : Nat) (stale : Slot) : Slot :=
  match state.live.find? (fun request => request.address = token) with
  | some request => request.socketId
  | none => stale

/-- The request that `addRequestToList` fills in. -/
def newRequest (beyond : Request → CommandInfo) (state : Requests) (issue : Issue) (serial : Int)
    (slotId : Slot) (address : Nat) : RequestInfo :=
  let token := if issue.isInternal then -1 else serial
  { address, uid := state.issued, token, pCI := entryOf beyond issue.request,
    isLocal := decide (token = -1), socketId := slotId, wasAckSent := false }

/-- A request is put in front of the list of its socket; its helper goes on with it. -/
def push (state : Requests) (request : RequestInfo) (helper : Helper) : Requests :=
  { state with
    pending := Function.update state.pending request.socketId
      (request :: state.pending request.socketId)
    dispatching := (request, helper) :: state.dispatching
    issued := state.issued + 1 }

/-- `addRequestToList`: the allocator hands out an address that is not in use. -/
def addRequestToList (beyond : Request → CommandInfo) (state : Requests) (issue : Issue)
    (serial : Int) (slotId : Slot) (address : Nat) : Option (Requests × List RequestOutput) :=
  if address = 0 ∨ address ∈ state.live.map RequestInfo.address then none
  else
    let request := state.newRequest beyond issue serial slotId address
    some (state.push request issue.helper, [.issued request.uid slotId])

/-- The helper of a request hands it to the vendor library. -/
def myEnqueue (state : Requests) (uid : Nat) : Option (Requests × List RequestOutput) :=
  match state.dispatching.find? (fun call => call.1.uid = uid) with
  | none => none
  | some (request, helper) =>
      match helper.format request.pCI.proxyId with
      | none => none
      | some _ =>
          some
            ({ state with dispatching := state.dispatching.eraseP (fun call => call.1.uid = uid) },
              [.onRequest uid request.pCI.requestNumber request.socketId])

/-- The helper of a request answers it with an error and returns.  Without a
response function the call has no defined effect. -/
def sendErrorResponse (state : Requests) (uid : Nat) (error : RilErrno) :
    Option (Requests × List RequestOutput) :=
  match state.dispatching.find? (fun call => call.1.uid = uid) with
  | none => none
  | some (request, helper) =>
      if error ∈ helper.errors ∧ request.pCI.hasResponse then
        some
          ({ state with dispatching := state.dispatching.eraseP (fun call => call.1.uid = uid) },
            [.answered uid request.socketId .solicited])
      else none

/-- The request at a token in the list that the token's memory names. -/
def inItsList (state : Requests) (token : Nat) (stale : Slot) : Option RequestInfo :=
  if token = 0 then none
  else (state.pending (state.socketOf token stale)).find? (fun request => request.address = token)

/-- `RIL_onRequestAck`. -/
def onRequestAck (state : Requests) (token : Nat) (stale : Slot) :
    Requests × List RequestOutput :=
  match state.inItsList token stale with
  | none => (state, [])
  | some request =>
      ({ state with
          pending := Function.update state.pending (state.socketOf token stale)
            ((state.pending (state.socketOf token stale)).map fun other =>
              if other.address = token then { other with wasAckSent := true } else other) },
        [.acknowledged request.token request.socketId])

/-- `RIL_onRequestComplete` as long as it holds the mutex of the list. -/
def onRequestComplete (state : Requests) (token : Nat) (stale : Slot) :
    Requests × List RequestOutput :=
  match state.inItsList token stale with
  | none => (state, [])
  | some request =>
      ({ state with
          pending := Function.update state.pending (state.socketOf token stale)
            ((state.pending (state.socketOf token stale)).eraseP fun other =>
              other.address = token)
          completing := request :: state.completing },
        [])

/-- What `RIL_onRequestComplete` does for a request that it took off its list. -/
def respond (version : Int) (request : RequestInfo) : RequestOutput :=
  if request.isLocal then .completedLocal request.uid request.socketId
  else if request.pCI.hasResponse then
    .answered request.uid request.socketId
      (if 13 ≤ version ∧ request.wasAckSent then .solicitedAckExp else .solicited)
  else .notHandled request.uid request.socketId

/-- `RIL_onRequestComplete` from the response to `free`. -/
def finishRequest (version : Int) (state : Requests) (uid : Nat) :
    Option (Requests × List RequestOutput) :=
  match state.completing.find? (fun request => request.uid = uid) with
  | none => none
  | some request =>
      some
        ({ state with completing := state.completing.eraseP (fun other => other.uid = uid) },
          [respond version request])

/-- One event. -/
def step (version : Int) (beyond : Request → CommandInfo) (state : Requests) :
    RequestEvent → Option (Requests × List RequestOutput)
  | .addRequestToList method index serial slotId address =>
      ((method.issues version)[index]?).bind fun issue =>
        state.addRequestToList beyond issue serial slotId address
  | .myEnqueue uid => state.myEnqueue uid
  | .sendErrorResponse uid error => state.sendErrorResponse uid error
  | .onRequestAck token stale => some (state.onRequestAck token stale)
  | .onRequestComplete token stale => some (state.onRequestComplete token stale)
  | .finishRequest uid => state.finishRequest version uid

end Requests

/-- The pending lists under a vendor library of a version. -/
def requestSystem (version : Int) (beyond : Request → CommandInfo) :
    System Requests RequestEvent RequestOutput where
  Init state := state = .initial
  step := Requests.step version beyond

section Bookkeeping

/-- The request that an output issues on a socket. -/
def RequestOutput.issues (slot : Slot) : RequestOutput → Option Nat
  | .issued uid socketId => if socketId = slot then some uid else none
  | _ => none

/-- The request that an output settles on a socket: it was answered to the
framework or, when it is local, completed. -/
def RequestOutput.settles (slot : Slot) : RequestOutput → Option Nat
  | .answered uid socketId _ => if socketId = slot then some uid else none
  | .completedLocal uid socketId => if socketId = slot then some uid else none
  | _ => none

/-- The requests issued on a socket. -/
def issuedOn (slot : Slot) (outputs : List RequestOutput) : List Nat :=
  outputs.filterMap (RequestOutput.issues slot)

/-- The settled requests of a socket. -/
def settledOn (slot : Slot) (outputs : List RequestOutput) : List Nat :=
  outputs.filterMap (RequestOutput.settles slot)

/-- The requests of a socket whose completion is in progress. -/
def completingOn (slot : Slot) (state : Requests) : List Nat :=
  (state.completing.filter (fun request => request.socketId = slot)).map RequestInfo.uid

/-- The requests in the list of a socket. -/
def pendingOn (slot : Slot) (state : Requests) : List Nat :=
  (state.pending slot).map RequestInfo.uid

theorem issuedOn_snoc (slot : Slot) (outputs : List RequestOutput) (output : RequestOutput) :
    issuedOn slot (outputs ++ [output]) =
      issuedOn slot outputs ++ (output.issues slot).toList := by
  cases issuing : output.issues slot <;> simp [issuedOn, issuing]

theorem settledOn_snoc (slot : Slot) (outputs : List RequestOutput) (output : RequestOutput) :
    settledOn slot (outputs ++ [output]) =
      settledOn slot outputs ++ (output.settles slot).toList := by
  cases settling : output.settles slot <;> simp [settledOn, settling]

/-- A response settles its request on the socket of the request. -/
theorem settles_respond (version : Int) {request : RequestInfo}
    (answerable : request.isLocal = false → request.pCI.hasResponse = true) (slot : Slot) :
    (Requests.respond version request).settles slot =
      if request.socketId = slot then some request.uid else none := by
  unfold Requests.respond
  cases localCase : request.isLocal with
  | true => rfl
  | false =>
      rw [if_neg Bool.false_ne_true, if_pos (answerable localCase)]
      rfl

/-- A response issues nothing. -/
theorem issues_respond (version : Int) (request : RequestInfo) (slot : Slot) :
    (Requests.respond version request).issues slot = none := by
  unfold Requests.respond
  split
  · rfl
  · split <;> rfl

theorem pendingOn_push (slot : Slot) (state : Requests) (request : RequestInfo)
    (helper : Helper) :
    pendingOn slot (state.push request helper) =
      if slot = request.socketId then request.uid :: pendingOn slot state
      else pendingOn slot state := by
  unfold pendingOn Requests.push
  by_cases own : slot = request.socketId
  · subst own
    simp
  · simp [own]

theorem mem_pending_push {slot : Slot} {state : Requests} {request listed : RequestInfo}
    {helper : Helper} (inList : listed ∈ (state.push request helper).pending slot) :
    slot = request.socketId ∧ listed = request ∨ listed ∈ state.pending slot := by
  unfold Requests.push at inList
  by_cases own : slot = request.socketId
  · subst own
    simpa using inList
  · simpa [own] using inList

end Bookkeeping

section Invariant

/-- What the lists hold, against what the run has issued and settled. -/
structure Recorded (outputs : List RequestOutput) (state : Requests) : Prop where
  ledger : ∀ slot, Ledger (issuedOn slot outputs) (pendingOn slot state)
    (completingOn slot state) (settledOn slot outputs)
  placed : ∀ slot, ∀ request ∈ state.pending slot, request.socketId = slot
  pendingAnswerable : ∀ slot, ∀ request ∈ state.pending slot,
    request.isLocal = false → request.pCI.hasResponse = true
  completingAnswerable : ∀ request ∈ state.completing,
    request.isLocal = false → request.pCI.hasResponse = true
  numbered : ∀ slot, ∀ uid ∈ issuedOn slot outputs, uid < state.issued

variable {version : Int} {beyond : Request → CommandInfo} {outputs out : List RequestOutput}
  {state after : Requests}

theorem recorded_initial : Recorded [] .initial where
  ledger _ := Ledger.empty
  placed _ _ listed := absurd listed List.not_mem_nil
  pendingAnswerable _ _ listed := absurd listed List.not_mem_nil
  completingAnswerable _ listed := absurd listed List.not_mem_nil
  numbered _ _ listed := absurd listed List.not_mem_nil

/-- An output that neither issues nor settles leaves the record as it is. -/
theorem Recorded.silent (recorded : Recorded outputs state) {output : RequestOutput}
    (issuesNone : ∀ slot, output.issues slot = none)
    (settlesNone : ∀ slot, output.settles slot = none) :
    Recorded (outputs ++ [output]) state where
  ledger slot := by
    rw [issuedOn_snoc, settledOn_snoc, issuesNone, settlesNone, Option.toList_none,
      List.append_nil, List.append_nil]
    exact recorded.ledger slot
  placed := recorded.placed
  pendingAnswerable := recorded.pendingAnswerable
  completingAnswerable := recorded.completingAnswerable
  numbered slot uid listed := by
    rw [issuedOn_snoc, issuesNone, Option.toList_none, List.append_nil] at listed
    exact recorded.numbered slot uid listed

/-- The calls in progress are not part of the record. -/
theorem Recorded.withDispatching (recorded : Recorded outputs state)
    (dispatching : List (RequestInfo × Helper)) :
    Recorded outputs { state with dispatching } where
  ledger := recorded.ledger
  placed := recorded.placed
  pendingAnswerable := recorded.pendingAnswerable
  completingAnswerable := recorded.completingAnswerable
  numbered := recorded.numbered

/-- A request pushed under the next number is recorded as issued. -/
theorem Recorded.push (recorded : Recorded outputs state) {request : RequestInfo}
    (next : request.uid = state.issued)
    (answerable : request.isLocal = false → request.pCI.hasResponse = true) (helper : Helper) :
    Recorded (outputs ++ [.issued request.uid request.socketId]) (state.push request helper) where
  ledger slot := by
    have kept := recorded.ledger slot
    have settlesNone : (RequestOutput.issued request.uid request.socketId).settles slot = none :=
      rfl
    rw [issuedOn_snoc, settledOn_snoc, pendingOn_push, RequestOutput.issues, settlesNone,
      Option.toList_none, List.append_nil]
    by_cases own : slot = request.socketId
    · rw [if_pos own, if_pos own.symm]
      refine kept.issue ?_
      intro already
      have below := recorded.numbered _ _ already
      omega
    · rw [if_neg own, if_neg (fun same => own same.symm), Option.toList_none, List.append_nil]
      exact kept
  placed slot listed inList := by
    rcases mem_pending_push inList with ⟨own, rfl⟩ | old
    · exact own.symm
    · exact recorded.placed _ _ old
  pendingAnswerable slot listed inList := by
    rcases mem_pending_push inList with ⟨own, rfl⟩ | old
    · exact answerable
    · exact recorded.pendingAnswerable _ _ old
  completingAnswerable := recorded.completingAnswerable
  numbered slot uid listed := by
    have increased : (state.push request helper).issued = state.issued + 1 := rfl
    rw [issuedOn_snoc, List.mem_append, RequestOutput.issues] at listed
    rcases listed with old | new
    · have below := recorded.numbered _ _ old
      omega
    · rw [Option.mem_toList, Option.ite_none_right_eq_some, Option.some.injEq] at new
      omega

/-- An added request is recorded as issued. -/
theorem Recorded.addRequestToList (recorded : Recorded outputs state) {issue : Issue}
    {serial : Int} {slotId : Slot} {address : Nat}
    (answerable : issue.isInternal = false → (entryOf beyond issue.request).hasResponse = true)
    (stepped : state.addRequestToList beyond issue serial slotId address = some (after, out)) :
    Recorded (outputs ++ out) after := by
  unfold Requests.addRequestToList at stepped
  split at stepped
  case isTrue used => cases stepped
  case isFalse unused =>
      simp only [Option.some.injEq, Prod.mk.injEq] at stepped
      obtain ⟨rfl, rfl⟩ := stepped
      refine recorded.push rfl ?_ issue.helper
      intro remote
      refine answerable ?_
      cases internal : issue.isInternal with
      | false => rfl
      | true => simp [Requests.newRequest, internal] at remote

/-- Handing a request to the vendor library moves nothing. -/
theorem Recorded.myEnqueue (recorded : Recorded outputs state) {uid : Nat}
    (stepped : state.myEnqueue uid = some (after, out)) : Recorded (outputs ++ out) after := by
  unfold Requests.myEnqueue at stepped
  split at stepped
  · cases stepped
  · split at stepped
    · cases stepped
    · simp only [Option.some.injEq, Prod.mk.injEq] at stepped
      obtain ⟨rfl, rfl⟩ := stepped
      exact (recorded.withDispatching _).silent (fun _ => rfl) (fun _ => rfl)

/-- A list whose requests keep their numbers, sockets and entries is as good. -/
theorem Recorded.relabel (recorded : Recorded outputs state) (slot : Slot)
    {relabel : RequestInfo → RequestInfo}
    (sameUid : ∀ request, (relabel request).uid = request.uid)
    (sameSocket : ∀ request, (relabel request).socketId = request.socketId)
    (sameLocal : ∀ request, (relabel request).isLocal = request.isLocal)
    (sameEntry : ∀ request, (relabel request).pCI = request.pCI) :
    Recorded outputs { state with
      pending := Function.update state.pending slot ((state.pending slot).map relabel) } where
  ledger other := by
    have same : pendingOn other { state with
        pending := Function.update state.pending slot ((state.pending slot).map relabel) } =
          pendingOn other state := by
      unfold pendingOn
      by_cases own : other = slot
      · subst own
        simp [sameUid]
      · simp [own]
    rw [same]
    exact recorded.ledger other
  placed other listed inList := by
    by_cases own : other = slot
    · subst own
      simp only [Function.update_self, List.mem_map] at inList
      obtain ⟨request, inOld, rfl⟩ := inList
      rw [sameSocket]
      exact recorded.placed _ _ inOld
    · simp only [Function.update_of_ne own] at inList
      exact recorded.placed _ _ inList
  pendingAnswerable other listed inList := by
    by_cases own : other = slot
    · subst own
      simp only [Function.update_self, List.mem_map] at inList
      obtain ⟨request, inOld, rfl⟩ := inList
      rw [sameLocal, sameEntry]
      exact recorded.pendingAnswerable _ _ inOld
    · simp only [Function.update_of_ne own] at inList
      exact recorded.pendingAnswerable _ _ inList
  completingAnswerable := recorded.completingAnswerable
  numbered := recorded.numbered

/-- An acknowledgement marks the request and moves nothing. -/
theorem Recorded.onRequestAck (recorded : Recorded outputs state) (token : Nat) (stale : Slot) :
    Recorded (outputs ++ (state.onRequestAck token stale).2)
      (state.onRequestAck token stale).1 := by
  unfold Requests.onRequestAck
  split
  · rw [List.append_nil]
    exact recorded
  · refine Recorded.silent (recorded.relabel _ ?_ ?_ ?_ ?_) (fun _ => rfl) (fun _ => rfl)
    all_goals intro request; split <;> rfl

/-- A completion takes the first request at its token from the list of its socket. -/
theorem Recorded.onRequestComplete (recorded : Recorded outputs state) (token : Nat)
    (stale : Slot) :
    Recorded (outputs ++ (state.onRequestComplete token stale).2)
      (state.onRequestComplete token stale).1 := by
  unfold Requests.onRequestComplete
  split
  · rw [List.append_nil]
    exact recorded
  case h_2 request found =>
      rw [List.append_nil]
      unfold Requests.inItsList at found
      split at found
      · cases found
      · obtain ⟨before, rest, listed, erased⟩ := exists_split_of_find? found
        rw [erased]
        generalize state.socketOf token stale = slot at listed erased
        have inList : request ∈ state.pending slot := by simp [listed]
        have ownSlot := recorded.placed slot request inList
        have subset : ∀ other ∈ before ++ rest, other ∈ state.pending slot := by
          intro other kept
          rw [listed]
          simp only [List.mem_append, List.mem_cons] at kept ⊢
          tauto
        constructor
        · intro other
          have kept := recorded.ledger other
          by_cases own : other = slot
          · subst own
            unfold pendingOn completingOn at kept ⊢
            rw [listed, List.map_append, List.map_cons] at kept
            simpa [ownSlot] using kept.take
          · have notOwn : ¬request.socketId = other := by
              rw [ownSlot]
              exact fun same => own same.symm
            simpa [pendingOn, completingOn, own, notOwn] using kept
        · intro other listedRequest inPending
          by_cases own : other = slot
          · subst own
            simp only [Function.update_self] at inPending
            exact recorded.placed _ _ (subset _ inPending)
          · simp only [Function.update_of_ne own] at inPending
            exact recorded.placed _ _ inPending
        · intro other listedRequest inPending
          by_cases own : other = slot
          · subst own
            simp only [Function.update_self] at inPending
            exact recorded.pendingAnswerable _ _ (subset _ inPending)
          · simp only [Function.update_of_ne own] at inPending
            exact recorded.pendingAnswerable _ _ inPending
        · intro other inCompleting
          rcases List.mem_cons.mp inCompleting with rfl | old
          · exact recorded.pendingAnswerable _ _ inList
          · exact recorded.completingAnswerable _ old
        · exact recorded.numbered

/-- The end of a completion settles its request. -/
theorem Recorded.finishRequest (recorded : Recorded outputs state) {uid : Nat}
    (stepped : state.finishRequest version uid = some (after, out)) :
    Recorded (outputs ++ out) after := by
  unfold Requests.finishRequest at stepped
  split at stepped
  · cases stepped
  case h_2 request found =>
      obtain ⟨before, rest, listed, erased⟩ := exists_split_of_find? found
      simp only [Option.some.injEq, Prod.mk.injEq] at stepped
      obtain ⟨rfl, rfl⟩ := stepped
      rw [erased]
      have answerable := recorded.completingAnswerable request (by simp [listed])
      constructor
      · intro slot
        have kept := recorded.ledger slot
        rw [issuedOn_snoc, settledOn_snoc, issues_respond, settles_respond version answerable,
          Option.toList_none, List.append_nil]
        unfold completingOn at kept ⊢
        rw [listed] at kept
        by_cases own : request.socketId = slot
        · simp only [List.filter_append, List.filter_cons, own, decide_true, if_true,
            List.map_append, List.map_cons] at kept ⊢
          exact kept.settle
        · simpa [own, pendingOn] using kept
      · exact recorded.placed
      · exact recorded.pendingAnswerable
      · intro other inCompleting
        refine recorded.completingAnswerable _ ?_
        rw [listed]
        simp only [List.mem_append, List.mem_cons] at inCompleting ⊢
        tauto
      · intro slot uid issued
        rw [issuedOn_snoc, issues_respond, Option.toList_none, List.append_nil] at issued
        exact recorded.numbered slot uid issued

end Invariant

section Runs

variable {version : Int} {beyond : Request → CommandInfo}

/-- Every request under the serial number of its caller has an entry with a
response function, apart from the one whose entry lies past the table. -/
theorem hasResponse_of_mem_issues {method : RadioMethod} {issue : Issue}
    (inside : method ≠ .stopNetworkScan) (issued : issue ∈ method.issues version)
    (remote : issue.isInternal = false) : (entryOf beyond issue.request).hasResponse = true := by
  have passed : method.passes (fun issue => issue.isInternal ||
      (Registry.registered.commandInfo issue.request).any CommandInfo.hasResponse) = true := by
    cases method with
    | setupDataCall mvnoTypeKnown => cases mvnoTypeKnown <;> decide +kernel
    | sendImsSms tech => cases tech <;> decide +kernel
    | sendDeviceState lowDataExpected => cases lowDataExpected <;> decide +kernel
    | setSimCardPower powerUp => cases powerUp <;> decide +kernel
    | stopNetworkScan => exact absurd rfl inside
    | _ => decide +kernel
  have test := RadioMethod.all_issues_of_passes passed version issued
  rw [remote, Bool.false_or, Option.any_eq_true] at test
  obtain ⟨info, found, hasResponse⟩ := test
  rw [entryOf, found]
  exact hasResponse

/-- No request is answered by its helper; and the network scan is stopped only
when the memory past the command table happens to hold a response function. -/
def NoEarlyAnswer (beyond : Request → CommandInfo) :
    System.Guard Requests RequestEvent RequestOutput := fun _ _ event =>
  match event with
  | .sendErrorResponse _ _ => False
  | .addRequestToList method _ _ _ _ =>
      method = .stopNetworkScan → (beyond .stopNetworkScan).hasResponse = true
  | _ => True

instance (history : History RequestEvent RequestOutput) (state : Requests)
    (event : RequestEvent) : Decidable (NoEarlyAnswer beyond history state event) := by
  unfold NoEarlyAnswer
  cases event <;> infer_instance

/-- What a guarded run issues under the serial number of a caller has a response function. -/
theorem hasResponse_of_guarded {method : RadioMethod} {issue : Issue}
    (guarded : method = .stopNetworkScan → (beyond .stopNetworkScan).hasResponse = true)
    (issued : issue ∈ method.issues version) (remote : issue.isInternal = false) :
    (entryOf beyond issue.request).hasResponse = true := by
  by_cases past : method = .stopNetworkScan
  · subst past
    obtain rfl := List.mem_singleton.mp issued
    show (entryOf beyond .stopNetworkScan).hasResponse = true
    rw [entryOf_stopNetworkScan]
    exact guarded rfl
  · exact hasResponse_of_mem_issues past issued remote

/-- What a run without early answers has recorded. -/
theorem recorded_of_run {history : History RequestEvent RequestOutput} {state : Requests}
    (run : (requestSystem version beyond).Run (NoEarlyAnswer beyond) history state) :
    Recorded history.outputs state := by
  refine System.Run.invariant (fun history state => Recorded history.outputs state) ?_ ?_ run
  · rintro state rfl
    exact recorded_initial
  · intro history state event after out recorded guarded stepped
    rw [History.outputs_snoc]
    cases event with
    | addRequestToList method index serial slotId address =>
        obtain ⟨issue, found, added⟩ := Option.bind_eq_some_iff.mp stepped
        exact recorded.addRequestToList
          (hasResponse_of_guarded guarded (List.mem_of_getElem? found)) added
    | myEnqueue uid => exact recorded.myEnqueue stepped
    | sendErrorResponse uid error => exact absurd guarded not_false
    | onRequestAck token stale =>
        have result : state.onRequestAck token stale = (after, out) := Option.some.inj stepped
        have kept := recorded.onRequestAck token stale
        rwa [result] at kept
    | onRequestComplete token stale =>
        have result : state.onRequestComplete token stale = (after, out) :=
          Option.some.inj stepped
        have kept := recorded.onRequestComplete token stale
        rwa [result] at kept
    | finishRequest uid => exact recorded.finishRequest stepped

/-- The lists are exact: the list of a socket holds each request once that was
issued on the socket, is not settled and is in no completion in progress; no
request is settled twice; and a token that is not in its list changes nothing
and calls nothing. -/
structure PendingExact (version : Int) (beyond : Request → CommandInfo)
    (outputs : List RequestOutput) (state : Requests) : Prop where
  once : ∀ slot, (pendingOn slot state).Nodup
  exact : ∀ slot uid, uid ∈ pendingOn slot state ↔
    uid ∈ issuedOn slot outputs ∧ uid ∉ completingOn slot state ∧ uid ∉ settledOn slot outputs
  settledOnce : ∀ slot, (settledOn slot outputs).Nodup
  unknownToken : ∀ token stale,
    token ∉ (state.pending (state.socketOf token stale)).map RequestInfo.address →
      (requestSystem version beyond).step state (.onRequestAck token stale) = some (state, []) ∧
      (requestSystem version beyond).step state (.onRequestComplete token stale) =
        some (state, [])

/-- A token outside its list is not found in it. -/
theorem Requests.inItsList_of_not_mem {state : Requests} {token : Nat} {stale : Slot}
    (unknown : token ∉ (state.pending (state.socketOf token stale)).map RequestInfo.address) :
    state.inItsList token stale = none := by
  unfold Requests.inItsList
  split
  · rfl
  · rw [List.find?_eq_none]
    intro request listed same
    exact unknown (List.mem_map.mpr ⟨request, listed, of_decide_eq_true same⟩)

/-- A completion or acknowledgement of an unknown token has no effect in any state. -/
theorem unknownToken_noEffect {state : Requests} {token : Nat} {stale : Slot}
    (unknown : token ∉ (state.pending (state.socketOf token stale)).map RequestInfo.address) :
    (requestSystem version beyond).step state (.onRequestAck token stale) = some (state, []) ∧
      (requestSystem version beyond).step state (.onRequestComplete token stale) =
        some (state, []) := by
  have absent := Requests.inItsList_of_not_mem unknown
  constructor
  · show some (state.onRequestAck token stale) = _
    rw [Requests.onRequestAck, absent]
  · show some (state.onRequestComplete token stale) = _
    rw [Requests.onRequestComplete, absent]

/-- In every run in which no request is answered by its helper and none runs past
the table into an entry without a response function, the pending lists are exact. -/
theorem pending_exact {history : History RequestEvent RequestOutput} {state : Requests}
    (run : (requestSystem version beyond).Run (NoEarlyAnswer beyond) history state) :
    PendingExact version beyond history.outputs state where
  once slot := ((recorded_of_run run).ledger slot).held_nodup
  exact slot _ := ((recorded_of_run run).ledger slot).mem_held_iff
  settledOnce slot := ((recorded_of_run run).ledger slot).settled_nodup
  unknownToken _ _ unknown := unknownToken_noEffect unknown

end Runs

section Samples

/-- A device identity request with its two local ones, acknowledged and completed
out of order, a request of the other card in between, a token completed twice
and an address used again. -/
def identityEvents : List RequestEvent :=
  [.addRequestToList .getDeviceIdentity 0 7 .socket1 100, .myEnqueue 0,
    .addRequestToList .getDeviceIdentity 1 7 .socket1 200, .myEnqueue 1,
    .addRequestToList .getDeviceIdentity 2 7 .socket1 300,
    .addRequestToList .dial 0 4 .socket2 400, .myEnqueue 2, .onRequestAck 300 .socket2,
    .myEnqueue 3, .onRequestComplete 300 .socket2, .onRequestComplete 300 .socket2,
    .onRequestComplete 100 .socket1, .finishRequest 0, .finishRequest 2,
    .addRequestToList .getMute 0 8 .socket2 300, .onRequestComplete 500 .socket2]

/-- What a run shows of the lists and of what was settled. -/
def listView (result : History RequestEvent RequestOutput × Requests) : List (List Nat) :=
  [pendingOn .socket1 result.2, pendingOn .socket2 result.2,
    settledOn .socket1 result.1.outputs, settledOn .socket2 result.1.outputs]

/-- The second local request, the call and the last request are pending at the end. -/
theorem pending_exact_identity :
    ∃ history state, PendingExact 10 emptyMemory history.outputs state ∧
      listView (history, state) = [[1], [4, 3], [0, 2], []] := by
  obtain ⟨history, state, run, viewed⟩ :=
    System.exists_run_of_exec (requestSystem 10 emptyMemory) (NoEarlyAnswer emptyMemory)
      identityEvents listView rfl (by decide +kernel)
      (by decide +kernel : _ = some [[1], [4, 3], [0, 2], []])
  exact ⟨history, state, pending_exact run, viewed⟩

/-- A request that the service answers itself. -/
def rejectedEvents : List RequestEvent :=
  [.addRequestToList .getSignalStrength 0 7 .socket1 100,
    .sendErrorResponse 0 .requestNotSupported]

/-- An answered request stays in its list. -/
theorem answered_request_stays_pending :
    ¬∀ (version : Int) (beyond : Request → CommandInfo)
      (history : History RequestEvent RequestOutput) (state : Requests),
      (requestSystem version beyond).Run System.free history state →
        PendingExact version beyond history.outputs state := by
  intro claimed
  obtain ⟨history, state, run, viewed⟩ :=
    System.exists_run_of_exec (requestSystem 10 emptyMemory) System.free rejectedEvents
      listView rfl (by decide +kernel) (by decide +kernel : _ = some [[0], [], [0], []])
  have exact := (claimed 10 emptyMemory history state run).exact .socket1 0
  simp only [listView, List.cons.injEq] at viewed
  rw [viewed.1, viewed.2.2.1] at exact
  exact (exact.mp (List.mem_singleton.mpr rfl)).2.2 (List.mem_singleton.mpr rfl)

end Samples

end X3Hal.Ril
