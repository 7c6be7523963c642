import Mathlib.Logic.Function.Basic
import X3Hal.Queue.SingleFlight
import X3Hal.Transition.Core
import X3Hal.Ril.Register

/-!
# The channel queues

With channel queueing, a request for one of the two queued channels is handed to
the vendor library only when the busy flag of its channel is clear, and waits in
the queue of the channel otherwise.  A completion clears the flag and sends the
first waiting request.  The flag a power request consults is always that of the
first card, and a request whose buffer format is not kept is handed over without
a look at the flag.
-/

namespace X3Hal.Ril

open X3Hal.Transition X3Hal.Queue

/-- A channel of a socket. -/
abbrev Channel :=
  Proxy × Slot

/-- The channels that have a queue. -/
def Proxy.isQueued : Proxy → Bool
  | .proxy1 => true
  | .proxy3 => true
  | _ => false

/-- A request on its way to the vendor library. -/
structure ProxyReqInfo where
  /-- The number of the request among all enqueued ones; the code has no such field. -/
  uid : Nat
  request : Request
  pCI : CommandInfo
  socketId : Slot
  bf : BufFormat
  deriving DecidableEq, Repr

/-- The channel of a request: the one its table entry names, on its socket. -/
def ProxyReqInfo.channel (p : ProxyReqInfo) : Channel :=
  (p.pCI.proxyId, p.socketId)

/-- Whether `my_enqueue` looks at a busy flag for the request. -/
def ProxyReqInfo.consultsFlag (p : ProxyReqInfo) : Bool :=
  decide (p.bf ≠ .ignore) && p.channel.1.isQueued

/-- The busy flag that `my_enqueue` consults and sets. -/
def ProxyReqInfo.busyFlag (p : ProxyReqInfo) : Channel :=
  if p.channel.1 = .proxy1 ∧ p.request = .radioPower then (.proxy1, .socket1) else p.channel

/-- The flags and queues, and the requests the vendor library has not completed. -/
structure Channels where
  busy : Channel → Bool
  queue : Channel → List ProxyReqInfo
  outstanding : List ProxyReqInfo
  enqueued : Nat

def Channels.initial : Channels :=
  ⟨fun _ => false, fun _ => [], [], 0⟩

inductive ChannelOutput
  /-- The request was passed to `my_enqueue`. -/
  | enqueued (p : ProxyReqInfo)
  /-- The vendor library was called with this request number. -/
  | onRequest (p : ProxyReqInfo) (number : Nat)
  | completed (p : ProxyReqInfo)
  deriving DecidableEq, Repr

inductive ChannelEvent
  /-- The helper of one of the requests of a method calls `my_enqueue`. -/
  | myEnqueue (method : RadioMethod) (index : Nat) (slotId : Slot)
  /-- The vendor library completes a request it was handed. -/
  | onRequestComplete (p : ProxyReqInfo)
  deriving DecidableEq, Repr

namespace Channels

/-- The call of the vendor library. -/
def onRequest (state : Channels) (p : ProxyReqInfo) : Channels :=
  { state with outstanding := state.outstanding ++ [p] }

def setBusy (state : Channels) (channel : Channel) (flag : Bool) : Channels :=
  { state with busy := Function.update state.busy channel flag }

def setQueue (state : Channels) (channel : Channel) (waiting : List ProxyReqInfo) : Channels :=
  { state with queue := Function.update state.queue channel waiting }

/-- The vendor library has completed a request. -/
def takeBack (state : Channels) (p : ProxyReqInfo) : Channels :=
  { state with outstanding := state.outstanding.erase p }

/-- `my_enqueue`. -/
def myEnqueue (state : Channels) (p : ProxyReqInfo) : Channels × List ChannelOutput :=
  if p.consultsFlag then
    if state.busy p.busyFlag then
      ((state.setBusy p.busyFlag true).setQueue p.channel (state.queue p.channel ++ [p]),
        [.enqueued p])
    else ((state.setBusy p.busyFlag true).onRequest p,
      [.enqueued p, .onRequest p p.request.number])
  else (state.onRequest p, [.enqueued p, .onRequest p p.request.number])

/-- `my_dequeue`. -/
def myDequeue (state : Channels) (channel : Channel) : Channels × List ChannelOutput :=
  match state.queue channel with
  | [] => (state.setBusy channel false, [])
  | p :: rest =>
      (((state.setQueue channel rest).setBusy channel true).onRequest p,
        [.onRequest p p.pCI.requestNumber])

/-- The end of `RIL_onRequestComplete`. -/
def onRequestComplete (state : Channels) (p : ProxyReqInfo) :
    Option (Channels × List ChannelOutput) :=
  if p ∈ state.outstanding then
    if p.channel.1.isQueued then
      let result := ((state.takeBack p).setBusy p.channel false).myDequeue p.channel
      some (result.1, .completed p :: result.2)
    else some (state.takeBack p, [.completed p])
  else none

/-- The request that a helper passes to `my_enqueue`, if it passes any. -/
def requestOf (version : Int) (beyond : Request → CommandInfo) (state : Channels)
    (method : RadioMethod) (index : Nat) (slotId : Slot) : Option ProxyReqInfo :=
  ((method.issues version)[index]?).bind fun issue =>
    let pCI := entryOf beyond issue.request
    (issue.helper.format pCI.proxyId).map fun bf =>
      { uid := state.enqueued, request := issue.request, pCI, socketId := slotId, bf }

/-- One event. -/
def step (version : Int) (beyond : Request → CommandInfo) (state : Channels) :
    ChannelEvent → Option (Channels × List ChannelOutput)
  | .myEnqueue method index slotId =>
      (state.requestOf version beyond method index slotId).map fun p =>
        { state with enqueued := state.enqueued + 1 }.myEnqueue p
  | .onRequestComplete p => state.onRequestComplete p

end Channels

/-- The channel queues under a vendor library of a version. -/
def channelSystem (version : Int) (beyond : Request → CommandInfo) :
    System Channels ChannelEvent ChannelOutput where
  Init state := state = .initial
  step := Channels.step version beyond

section Bookkeeping

/-- The requests of a channel that were passed to `my_enqueue`. -/
def enqueuedOn (channel : Channel) (outputs : List ChannelOutput) : List Nat :=
  outputs.filterMap fun output =>
    match output with
    | .enqueued p => if p.channel = channel then some p.uid else none
    | _ => none

/-- The requests of a channel that the vendor library was called with. -/
def dispatchedOn (channel : Channel) (outputs : List ChannelOutput) : List Nat :=
  outputs.filterMap fun output =>
    match output with
    | .onRequest p _ => if p.channel = channel then some p.uid else none
    | _ => none

/-- The requests of a channel that the vendor library has not completed. -/
def outstandingOn (channel : Channel) (state : Channels) : List Nat :=
  (state.outstanding.filter (fun p => p.channel = channel)).map ProxyReqInfo.uid

/-- The requests in the queue of a channel. -/
def waitingOn (channel : Channel) (state : Channels) : List Nat :=
  (state.queue channel).map ProxyReqInfo.uid

@[simp]
theorem enqueuedOn_append (channel : Channel) (outputs more : List ChannelOutput) :
    enqueuedOn channel (outputs ++ more) = enqueuedOn channel outputs ++ enqueuedOn channel more :=
  List.filterMap_append

@[simp]
theorem dispatchedOn_append (channel : Channel) (outputs more : List ChannelOutput) :
    dispatchedOn channel (outputs ++ more) =
      dispatchedOn channel outputs ++ dispatchedOn channel more :=
  List.filterMap_append

/-- What a channel shows of a request: its number if it is one of the channel's. -/
def shownOn (channel : Channel) (p : ProxyReqInfo) : List Nat :=
  if p.channel = channel then [p.uid] else []

theorem shownOn_own (p : ProxyReqInfo) : shownOn p.channel p = [p.uid] :=
  if_pos rfl

theorem shownOn_other {channel : Channel} {p : ProxyReqInfo} (other : channel ≠ p.channel) :
    shownOn channel p = [] :=
  if_neg fun same => other same.symm

@[simp]
theorem enqueuedOn_enqueued (channel : Channel) (p : ProxyReqInfo) (rest : List ChannelOutput) :
    enqueuedOn channel (.enqueued p :: rest) = shownOn channel p ++ enqueuedOn channel rest := by
  by_cases own : p.channel = channel <;> simp [enqueuedOn, shownOn, own]

@[simp]
theorem enqueuedOn_onRequest (channel : Channel) (p : ProxyReqInfo) (number : Nat)
    (rest : List ChannelOutput) :
    enqueuedOn channel (.onRequest p number :: rest) = enqueuedOn channel rest :=
  rfl

@[simp]
theorem enqueuedOn_completed (channel : Channel) (p : ProxyReqInfo) (rest : List ChannelOutput) :
    enqueuedOn channel (.completed p :: rest) = enqueuedOn channel rest :=
  rfl

@[simp]
theorem enqueuedOn_nil (channel : Channel) : enqueuedOn channel [] = [] :=
  rfl

@[simp]
theorem dispatchedOn_enqueued (channel : Channel) (p : ProxyReqInfo)
    (rest : List ChannelOutput) :
    dispatchedOn channel (.enqueued p :: rest) = dispatchedOn channel rest :=
  rfl

@[simp]
theorem dispatchedOn_onRequest (channel : Channel) (p : ProxyReqInfo) (number : Nat)
    (rest : List ChannelOutput) :
    dispatchedOn channel (.onRequest p number :: rest) =
      shownOn channel p ++ dispatchedOn channel rest := by
  by_cases own : p.channel = channel <;> simp [dispatchedOn, shownOn, own]

@[simp]
theorem dispatchedOn_completed (channel : Channel) (p : ProxyReqInfo)
    (rest : List ChannelOutput) :
    dispatchedOn channel (.completed p :: rest) = dispatchedOn channel rest :=
  rfl

@[simp]
theorem dispatchedOn_nil (channel : Channel) : dispatchedOn channel [] = [] :=
  rfl

@[simp]
theorem outstandingOn_onRequest (channel : Channel) (state : Channels) (p : ProxyReqInfo) :
    outstandingOn channel (state.onRequest p) =
      outstandingOn channel state ++ shownOn channel p := by
  by_cases own : p.channel = channel <;>
    simp [outstandingOn, Channels.onRequest, shownOn, own]

end Bookkeeping

section Invariant

/-- Every queued channel is a channel with one request in flight, and its queue
holds its own requests. -/
structure Ordered (outputs : List ChannelOutput) (state : Channels) : Prop where
  flight : ∀ channel : Channel, channel.1.isQueued = true →
    Flight (enqueuedOn channel outputs) (dispatchedOn channel outputs)
      (outstandingOn channel state) (state.busy channel) (waitingOn channel state)
  placed : ∀ channel, ∀ p ∈ state.queue channel, p.channel = channel

variable {outputs out : List ChannelOutput} {state after : Channels} {p : ProxyReqInfo}

theorem ordered_initial : Ordered [] .initial where
  flight _ _ := Flight.start
  placed _ _ listed := absurd listed List.not_mem_nil

/-- When a request may be passed to `my_enqueue`.  A power request of the second
card needs both first channels busy; any other request that finds the flag of its
channel clear, or does not look at it, needs a channel with nothing outstanding. -/
def Admissible (state : Channels) (p : ProxyReqInfo) : Prop :=
  if p.consultsFlag = true then
    if p.busyFlag = p.channel then
      state.busy p.channel = false → outstandingOn p.channel state = []
    else state.busy p.busyFlag = true ∧ state.busy p.channel = true
  else p.channel.1.isQueued = true → outstandingOn p.channel state = []

instance (state : Channels) (p : ProxyReqInfo) : Decidable (Admissible state p) := by
  unfold Admissible
  infer_instance

theorem Channels.setBusy_self {channel : Channel} {flag : Bool}
    (already : state.busy channel = flag) : state.setBusy channel flag = state := by
  subst already
  rw [Channels.setBusy, Function.update_eq_self]

theorem waitingOn_setQueue (channel other : Channel) (waiting : List ProxyReqInfo) :
    waitingOn other (state.setQueue channel waiting) =
      if other = channel then waiting.map ProxyReqInfo.uid else waitingOn other state := by
  unfold waitingOn Channels.setQueue
  by_cases own : other = channel
  · subst own
    simp
  · simp [own]

theorem placed_setQueue {channel : Channel} {waiting : List ProxyReqInfo}
    (placed : ∀ channel, ∀ p ∈ state.queue channel, p.channel = channel)
    (own : ∀ p ∈ waiting, p.channel = channel) :
    ∀ other, ∀ p ∈ (state.setQueue channel waiting).queue other, p.channel = other := by
  intro other p listed
  unfold Channels.setQueue at listed
  by_cases same : other = channel
  · subst same
    simp only [Function.update_self] at listed
    exact own p listed
  · simp only [Function.update_of_ne same] at listed
    exact placed other p listed

/-- A request that finds its flag set waits. -/
theorem Ordered.wait (ordered : Ordered outputs state) (busy : state.busy p.channel = true) :
    Ordered (outputs ++ [.enqueued p])
      (state.setQueue p.channel (state.queue p.channel ++ [p])) where
  flight channel queued := by
    have kept := ordered.flight channel queued
    rw [enqueuedOn_append, dispatchedOn_append, enqueuedOn_enqueued, dispatchedOn_enqueued,
      enqueuedOn_nil, dispatchedOn_nil, List.append_nil, List.append_nil, waitingOn_setQueue]
    by_cases own : channel = p.channel
    · subst own
      rw [if_pos rfl, shownOn_own, List.map_append]
      rw [busy] at kept
      show Flight _ _ _ (state.busy p.channel) _
      rw [busy]
      exact kept.wait
    · rw [if_neg own, shownOn_other own, List.append_nil]
      exact kept
  placed := by
    refine placed_setQueue ordered.placed ?_
    intro other listed
    rcases List.mem_append.mp listed with old | new
    · exact ordered.placed _ _ old
    · rw [List.mem_singleton.mp new]

/-- A request of a channel with nothing outstanding is handed over at once. -/
theorem Ordered.fly (ordered : Ordered outputs state)
    (nothing : p.channel.1.isQueued = true → outstandingOn p.channel state = [])
    (flag : Bool) (number : Nat) :
    Ordered (outputs ++ [.enqueued p, .onRequest p number])
      ((state.setBusy p.channel flag).onRequest p) where
  flight channel queued := by
    have kept := ordered.flight channel queued
    rw [enqueuedOn_append, dispatchedOn_append, enqueuedOn_enqueued, dispatchedOn_enqueued,
      enqueuedOn_onRequest, dispatchedOn_onRequest, enqueuedOn_nil, dispatchedOn_nil,
      List.append_nil, outstandingOn_onRequest]
    by_cases own : channel = p.channel
    · subst own
      rw [shownOn_own]
      show Flight _ _ _ (Function.update state.busy p.channel flag p.channel) _
      rw [Function.update_self]
      exact kept.fly (nothing queued) flag
    · rw [shownOn_other own, List.append_nil, List.append_nil, List.append_nil]
      show Flight _ _ _ (Function.update state.busy p.channel flag channel) _
      rw [Function.update_of_ne own]
      exact kept
  placed := ordered.placed

/-- An admissible request keeps the channels ordered. -/
theorem Ordered.myEnqueue (ordered : Ordered outputs state) (admissible : Admissible state p) :
    Ordered (outputs ++ (state.myEnqueue p).2) (state.myEnqueue p).1 := by
  unfold Channels.myEnqueue
  unfold Admissible at admissible
  cases consults : p.consultsFlag with
  | true =>
      rw [if_pos consults] at admissible
      rw [if_pos rfl]
      cases flagged : state.busy p.busyFlag with
      | true =>
          rw [if_pos rfl, Channels.setBusy_self flagged]
          refine ordered.wait ?_
          by_cases ownFlag : p.busyFlag = p.channel
          · exact ownFlag ▸ flagged
          · rw [if_neg ownFlag] at admissible
            exact admissible.2
      | false =>
          rw [if_neg Bool.false_ne_true]
          by_cases ownFlag : p.busyFlag = p.channel
          · rw [if_pos ownFlag] at admissible
            rw [ownFlag] at flagged ⊢
            exact ordered.fly (fun _ => admissible flagged) true _
          · rw [if_neg ownFlag, flagged] at admissible
            exact absurd admissible.1 Bool.false_ne_true
  | false =>
      rw [consults, if_neg Bool.false_ne_true] at admissible
      rw [if_neg Bool.false_ne_true]
      have unchanged : state.setBusy p.channel (state.busy p.channel) = state :=
        Channels.setBusy_self rfl
      rw [← unchanged]
      exact ordered.fly admissible (state.busy p.channel) _

/-- A completed request was alone on its channel. -/
theorem outstandingOn_of_mem (ordered : Ordered outputs state) (listed : p ∈ state.outstanding)
    (queued : p.channel.1.isQueued = true) :
    outstandingOn p.channel state = [p.uid] ∧ outstandingOn p.channel (state.takeBack p) = [] := by
  obtain ⟨before, rest, -, split, erased⟩ := List.exists_erase_eq listed
  have kept := ordered.flight p.channel queued
  unfold outstandingOn at kept ⊢
  rw [Channels.takeBack, erased]
  rw [split] at kept ⊢
  simp only [List.filter_append, List.filter_cons, decide_true, if_true, List.map_append,
    List.map_cons] at kept ⊢
  obtain ⟨noneBefore, noneAfter⟩ := kept.eq_singleton
  rw [noneBefore, noneAfter]
  exact ⟨rfl, rfl⟩

/-- A completed request is none of another channel's. -/
theorem outstandingOn_takeBack_other {channel : Channel} (other : channel ≠ p.channel) :
    outstandingOn channel (state.takeBack p) = outstandingOn channel state := by
  have notOwn : ¬p.channel = channel := fun same => other same.symm
  by_cases listed : p ∈ state.outstanding
  · obtain ⟨before, rest, -, split, erased⟩ := List.exists_erase_eq listed
    unfold outstandingOn
    rw [Channels.takeBack, erased, split]
    simp [notOwn]
  · rw [Channels.takeBack, List.erase_of_not_mem listed]

/-- The flags other than its own are untouched by a completion. -/
theorem busy_setBusy (channel other : Channel) (flag : Bool) :
    (state.setBusy channel flag).busy other =
      if other = channel then flag else state.busy other := by
  unfold Channels.setBusy
  by_cases own : other = channel
  · subst own
    simp
  · simp [own]

theorem Channels.setBusy_setBusy (state : Channels) (channel : Channel) (first second : Bool) :
    (state.setBusy channel first).setBusy channel second = state.setBusy channel second := by
  unfold Channels.setBusy
  rw [Function.update_idem]

/-- A completion clears the flag of its channel when nothing waits. -/
theorem Ordered.land_last (ordered : Ordered outputs state) (listed : p ∈ state.outstanding)
    (noneWaiting : p.channel.1.isQueued = true → state.queue p.channel = []) (flag : Bool)
    (cleared : p.channel.1.isQueued = true → flag = false) :
    Ordered (outputs ++ [.completed p]) ((state.takeBack p).setBusy p.channel flag) where
  flight channel queued := by
    have kept := ordered.flight channel queued
    rw [enqueuedOn_append, dispatchedOn_append, enqueuedOn_completed, dispatchedOn_completed,
      enqueuedOn_nil, dispatchedOn_nil, List.append_nil, List.append_nil, busy_setBusy]
    show Flight _ _ (outstandingOn channel (state.takeBack p)) _ (waitingOn channel state)
    by_cases own : channel = p.channel
    · subst own
      obtain ⟨alone, none⟩ := outstandingOn_of_mem ordered listed queued
      have line : waitingOn p.channel state = [] := by
        rw [waitingOn, noneWaiting queued, List.map_nil]
      rw [alone, line] at kept
      rw [none, line, if_pos rfl, cleared queued]
      exact kept.land_last
    · rw [outstandingOn_takeBack_other own, if_neg own]
      exact kept
  placed := ordered.placed

/-- A completion sends the first waiting request of its channel. -/
theorem Ordered.land_next (ordered : Ordered outputs state) (listed : p ∈ state.outstanding)
    (queued : p.channel.1.isQueued = true) {next : ProxyReqInfo} {rest : List ProxyReqInfo}
    (waiting : state.queue p.channel = next :: rest) (number : Nat) :
    Ordered (outputs ++ [.completed p, .onRequest next number])
      ((((state.takeBack p).setQueue p.channel rest).setBusy p.channel true).onRequest next) where
  flight channel channelQueued := by
    have kept := ordered.flight channel channelQueued
    have placed : next.channel = p.channel :=
      ordered.placed p.channel next (waiting ▸ List.mem_cons_self)
    rw [enqueuedOn_append, dispatchedOn_append, enqueuedOn_completed, dispatchedOn_completed,
      enqueuedOn_onRequest, dispatchedOn_onRequest, enqueuedOn_nil, dispatchedOn_nil,
      List.append_nil, List.append_nil, outstandingOn_onRequest]
    show Flight _ _ (outstandingOn channel (state.takeBack p) ++ _)
      (((state.takeBack p).setBusy p.channel true).busy channel)
      (waitingOn channel ((state.takeBack p).setQueue p.channel rest))
    rw [busy_setBusy, waitingOn_setQueue]
    by_cases own : channel = p.channel
    · subst own
      obtain ⟨alone, none⟩ := outstandingOn_of_mem ordered listed queued
      have line : waitingOn p.channel state = next.uid :: rest.map ProxyReqInfo.uid := by
        rw [waitingOn, waiting, List.map_cons]
      rw [alone, line] at kept
      rw [none, if_pos rfl, if_pos rfl, ← placed, shownOn_own, placed, List.nil_append]
      exact kept.land_next
    · have notNext : channel ≠ next.channel := fun same => own (same.trans placed)
      rw [outstandingOn_takeBack_other own, if_neg own, if_neg own, shownOn_other notNext,
        List.append_nil, List.append_nil]
      exact kept
  placed := by
    refine @placed_setQueue state p.channel rest ordered.placed ?_
    intro other inRest
    exact ordered.placed p.channel other (waiting ▸ List.mem_cons_of_mem next inRest)

/-- A completion keeps the channels ordered. -/
theorem Ordered.onRequestComplete (ordered : Ordered outputs state)
    (stepped : state.onRequestComplete p = some (after, out)) :
    Ordered (outputs ++ out) after := by
  unfold Channels.onRequestComplete at stepped
  split at stepped
  case isFalse unknown => cases stepped
  case isTrue listed =>
      cases queued : p.channel.1.isQueued with
      | true =>
          simp only [queued, if_true, Option.some.injEq, Prod.mk.injEq] at stepped
          obtain ⟨rfl, rfl⟩ := stepped
          unfold Channels.myDequeue
          cases waiting : ((state.takeBack p).setBusy p.channel false).queue p.channel with
          | nil =>
              dsimp only
              rw [Channels.setBusy_setBusy]
              exact ordered.land_last listed (fun _ => waiting) false (fun _ => rfl)
          | cons next rest =>
              dsimp only
              have settled : (((state.takeBack p).setBusy p.channel false).setQueue p.channel
                  rest).setBusy p.channel true =
                    ((state.takeBack p).setQueue p.channel rest).setBusy p.channel true :=
                ((state.takeBack p).setQueue p.channel rest).setBusy_setBusy _ _ _
              rw [settled]
              exact ordered.land_next listed queued waiting _
      | false =>
          simp only [queued, Bool.false_eq_true, if_false, Option.some.injEq, Prod.mk.injEq]
            at stepped
          obtain ⟨rfl, rfl⟩ := stepped
          have unchanged : (state.takeBack p).setBusy p.channel (state.busy p.channel) =
              state.takeBack p := Channels.setBusy_self rfl
          rw [← unchanged]
          refine ordered.land_last listed ?_ _ ?_
          all_goals
            intro isQueued
            rw [queued] at isQueued
            exact absurd isQueued Bool.false_ne_true

end Invariant

section Runs

variable {version : Int} {beyond : Request → CommandInfo}

/-- Only admissible requests are passed to `my_enqueue`. -/
def OnlyAdmissible (version : Int) (beyond : Request → CommandInfo) :
    System.Guard Channels ChannelEvent ChannelOutput := fun _ state event =>
  match event with
  | .myEnqueue method index slotId =>
      match state.requestOf version beyond method index slotId with
      | none => True
      | some p => Admissible state p
  | .onRequestComplete _ => True

instance (history : History ChannelEvent ChannelOutput) (state : Channels)
    (event : ChannelEvent) : Decidable (OnlyAdmissible version beyond history state event) := by
  unfold OnlyAdmissible
  split
  · split <;> infer_instance
  · infer_instance

/-- What a run of admissible requests keeps. -/
theorem ordered_of_run {history : History ChannelEvent ChannelOutput} {state : Channels}
    (run : (channelSystem version beyond).Run (OnlyAdmissible version beyond) history state) :
    Ordered history.outputs state := by
  refine System.Run.invariant (fun history state => Ordered history.outputs state) ?_ ?_ run
  · rintro state rfl
    exact ordered_initial
  · intro history state event after out ordered guarded stepped
    rw [History.outputs_snoc]
    cases event with
    | myEnqueue method index slotId =>
        obtain ⟨p, requested, result⟩ := Option.map_eq_some_iff.mp stepped
        have admissible : Admissible state p := by
          simpa only [OnlyAdmissible, requested] using guarded
        have counted : Ordered history.outputs { state with enqueued := state.enqueued + 1 } :=
          ⟨ordered.flight, ordered.placed⟩
        have kept := counted.myEnqueue (p := p) admissible
        rwa [result] at kept
    | onRequestComplete p => exact ordered.onRequestComplete stepped

/-- A channel has at most one request outstanding; its requests are dispatched in
the order they were enqueued; a waiting request or a set flag means that one is
outstanding; and the completion of that one dispatches the first that waits. -/
structure ChannelExact (version : Int) (beyond : Request → CommandInfo)
    (outputs : List ChannelOutput) (state : Channels) (channel : Channel) : Prop where
  single : (outstandingOn channel state).length ≤ 1
  inOrder : enqueuedOn channel outputs = dispatchedOn channel outputs ++ waitingOn channel state
  held : waitingOn channel state ≠ [] → outstandingOn channel state ≠ []
  flagged : state.busy channel = true → outstandingOn channel state ≠ []
  dequeued : ∀ p ∈ state.outstanding, p.channel = channel → ∀ next rest,
    state.queue channel = next :: rest →
      ∃ after, (channelSystem version beyond).step state (.onRequestComplete p) =
        some (after, [.completed p, .onRequest next next.pCI.requestNumber])

/-- The completion of an outstanding request sends the first waiting one. -/
theorem onRequestComplete_sends {state : Channels} {p next : ProxyReqInfo}
    {rest : List ProxyReqInfo} (outstanding : p ∈ state.outstanding)
    (queued : p.channel.1.isQueued = true) (waiting : state.queue p.channel = next :: rest) :
    ∃ after, (channelSystem version beyond).step state (.onRequestComplete p) =
      some (after, [.completed p, .onRequest next next.pCI.requestNumber]) := by
  have line :
      ((state.takeBack p).setBusy p.channel false).queue p.channel = next :: rest := waiting
  show ∃ after, state.onRequestComplete p = some (after, _)
  rw [Channels.onRequestComplete, if_pos outstanding, if_pos queued, Channels.myDequeue, line]
  exact ⟨_, rfl⟩

/-- Ordered channels are exact. -/
theorem Ordered.exact {outputs : List ChannelOutput} {state : Channels}
    (ordered : Ordered outputs state) {channel : Channel} (queued : channel.1.isQueued = true) :
    ChannelExact version beyond outputs state channel := by
  have flight := ordered.flight channel queued
  constructor
  · exact flight.single
  · exact flight.order
  · intro waiting nothing
    exact waiting (flight.idle nothing).2
  · intro busy nothing
    rw [(flight.idle nothing).1] at busy
    cases busy
  · rintro p outstanding rfl next rest waiting
    exact onRequestComplete_sends outstanding queued waiting

/-- In every run of admissible requests, the queued channels are exact. -/
theorem channels_exact {history : History ChannelEvent ChannelOutput} {state : Channels}
    (run : (channelSystem version beyond).Run (OnlyAdmissible version beyond) history state)
    {channel : Channel} (queued : channel.1.isQueued = true) :
    ChannelExact version beyond history.outputs state channel :=
  (ordered_of_run run).exact queued

end Runs

section Plain

variable {version : Int} {beyond : Request → CommandInfo} {state : Channels} {p : ProxyReqInfo}

/-- A request that is neither a power request of the second card nor, on a queued channel, one
whose buffer is not kept. -/
structure ProxyReqInfo.Plain (p : ProxyReqInfo) : Prop where
  power : ¬(p.request = .radioPower ∧ p.socketId = .socket2)
  kept : p.channel.1.isQueued = true → p.bf ≠ .ignore

/-- Only plain requests are passed to `my_enqueue`. -/
def OnlyPlain (version : Int) (beyond : Request → CommandInfo) :
    System.Guard Channels ChannelEvent ChannelOutput := fun _ state event =>
  match event with
  | .myEnqueue method index slotId =>
      ∀ p, state.requestOf version beyond method index slotId = some p → p.Plain
  | .onRequestComplete _ => True

/-- A clear flag means that nothing is outstanding. -/
def Flagged (state : Channels) : Prop :=
  ∀ channel : Channel, channel.1.isQueued = true → state.busy channel = false →
    outstandingOn channel state = []

/-- A plain request consults and sets the flag of its own channel. -/
theorem ProxyReqInfo.Plain.busyFlag_eq (plain : p.Plain) : p.busyFlag = p.channel := by
  rw [ProxyReqInfo.busyFlag]
  split
  case isTrue power =>
    cases isSocket : p.socketId with
    | socket1 => rw [ProxyReqInfo.channel, ← power.1, isSocket]; rfl
    | socket2 => exact absurd ⟨power.2, isSocket⟩ plain.power
  case isFalse => rfl

theorem ProxyReqInfo.Plain.consultsFlag_iff (plain : p.Plain) :
    p.consultsFlag = true ↔ p.channel.1.isQueued = true := by
  rw [ProxyReqInfo.consultsFlag, Bool.and_eq_true, decide_eq_true_eq, and_iff_right_iff_imp]
  exact plain.kept

/-- A plain request is admissible wherever each flag shows what is outstanding. -/
theorem ProxyReqInfo.Plain.admissible (plain : p.Plain) (flagged : Flagged state) :
    Admissible state p := by
  rw [Admissible, if_pos plain.busyFlag_eq]
  split
  case isTrue consults => exact flagged _ (plain.consultsFlag_iff.mp consults)
  case isFalse ignores =>
    intro queued
    exact absurd (plain.consultsFlag_iff.mpr queued) ignores

/-- A plain request leaves the other channels as they are. -/
theorem ProxyReqInfo.Plain.myEnqueue_other (plain : p.Plain) (state : Channels)
    {channel : Channel} (other : channel ≠ p.channel) :
    (state.myEnqueue p).1.busy channel = state.busy channel ∧
      outstandingOn channel (state.myEnqueue p).1 = outstandingOn channel state := by
  have flag := (@busy_setBusy state p.channel channel true).trans (if_neg other)
  rw [Channels.myEnqueue, plain.busyFlag_eq]
  split
  case isTrue =>
    split
    case isTrue => exact ⟨flag, rfl⟩
    case isFalse =>
      refine ⟨flag, ?_⟩
      rw [outstandingOn_onRequest, shownOn_other other, List.append_nil]
      rfl
  case isFalse =>
    refine ⟨rfl, ?_⟩
    rw [outstandingOn_onRequest, shownOn_other other, List.append_nil]

theorem Flagged.myEnqueue (flagged : Flagged state) (plain : p.Plain) :
    Flagged (state.myEnqueue p).1 := by
  intro channel queued clear
  by_cases own : channel = p.channel
  · -- Its own flag is set, whether the request waits or not.
    subst own
    rw [Channels.myEnqueue, plain.busyFlag_eq, if_pos (plain.consultsFlag_iff.mpr queued)] at clear
    split at clear <;>
      simp [Channels.setBusy, Channels.setQueue, Channels.onRequest] at clear
  · obtain ⟨sameFlag, sameOutstanding⟩ := plain.myEnqueue_other state own
    rw [sameOutstanding]
    exact flagged channel queued (sameFlag ▸ clear)

theorem Flagged.onRequestComplete {outputs out : List ChannelOutput} {after : Channels}
    (ordered : Ordered outputs state) (flagged : Flagged state)
    (stepped : state.onRequestComplete p = some (after, out)) : Flagged after := by
  intro channel queued clear
  unfold Channels.onRequestComplete at stepped
  split at stepped
  case isFalse => cases stepped
  case isTrue listed =>
    split at stepped
    case isFalse notQueued =>
      cases stepped
      have other : channel ≠ p.channel := fun same => notQueued (same ▸ queued)
      rw [outstandingOn_takeBack_other other]
      exact flagged channel queued clear
    case isTrue ownQueued =>
      cases stepped
      unfold Channels.myDequeue at clear ⊢
      cases waiting : ((state.takeBack p).setBusy p.channel false).queue p.channel with
      | nil =>
          simp only [waiting, Channels.setBusy_setBusy] at clear ⊢
          rw [busy_setBusy] at clear
          show outstandingOn channel (state.takeBack p) = []
          by_cases own : channel = p.channel
          · subst own
            exact (outstandingOn_of_mem ordered listed queued).2
          · rw [if_neg own] at clear
            rw [outstandingOn_takeBack_other own]
            exact flagged channel queued clear
      | cons next rest =>
          have placed : next.channel = p.channel :=
            ordered.placed p.channel next (waiting ▸ List.mem_cons_self)
          simp only [waiting] at clear ⊢
          rw [outstandingOn_onRequest]
          have shown := (@busy_setBusy _ p.channel channel true).symm.trans clear
          by_cases own : channel = p.channel
          · rw [if_pos own] at shown
            cases shown
          · have notNext : channel ≠ next.channel := fun same => own (same.trans placed)
            rw [if_neg own] at shown
            rw [shownOn_other notNext, List.append_nil]
            show outstandingOn channel (state.takeBack p) = []
            rw [outstandingOn_takeBack_other own]
            apply flagged channel queued
            have kept := (@busy_setBusy (state.takeBack p) p.channel channel false).symm
            rw [if_neg own] at kept
            exact kept.trans shown

/-- Plain requests are admissible in every run of them. -/
theorem onlyAdmissible_of_plain {history : History ChannelEvent ChannelOutput}
    (run : (channelSystem version beyond).Run (OnlyPlain version beyond) history state) :
    (channelSystem version beyond).Run (OnlyAdmissible version beyond) history state ∧
      Flagged state := by
  induction run with
  | start starts =>
      cases starts
      exact ⟨.start rfl, fun _ _ _ => rfl⟩
  | @next history state after event out _ plain stepped ih =>
      obtain ⟨run, flagged⟩ := ih
      cases event with
      | myEnqueue method index slotId =>
          obtain ⟨p, requested, result⟩ := Option.map_eq_some_iff.mp stepped
          have isPlain := plain p requested
          have guarded : OnlyAdmissible version beyond history state
              (.myEnqueue method index slotId) := by
            simp only [OnlyAdmissible, requested]
            exact isPlain.admissible flagged
          have counted : Flagged { state with enqueued := state.enqueued + 1 } := flagged
          have kept := counted.myEnqueue isPlain
          rw [result] at kept
          exact ⟨run.fire _ guarded stepped, kept⟩
      | onRequestComplete p =>
          exact ⟨run.fire _ trivial stepped,
            Flagged.onRequestComplete (ordered_of_run run) flagged stepped⟩

/-- In particular the queued channels are exact in every run without power requests of the second
card and without requests for a queued channel whose buffer is not kept. -/
theorem channelExact_of_plain {history : History ChannelEvent ChannelOutput}
    (run : (channelSystem version beyond).Run (OnlyPlain version beyond) history state)
    {channel : Channel} (queued : channel.1.isQueued = true) :
    ChannelExact version beyond history.outputs state channel :=
  (ordered_of_run (onlyAdmissible_of_plain run).1).exact queued

end Plain

section Samples

/-- The card status request of the first card, as it is handed over. -/
def cardStatus : ProxyReqInfo :=
  ⟨0, .getSimStatus, ⟨1, true, .proxy1⟩, .socket1, .void⟩

/-- Requests of both cards on both channels, two of them waiting, a power request
of the second card while both first channels are busy, and a completion. -/
def busyEvents : List ChannelEvent :=
  [.myEnqueue .getIccCardStatus 0 .socket1, .myEnqueue .setRadioPower 0 .socket1,
    .myEnqueue .getIccCardStatus 0 .socket2, .myEnqueue .setRadioPower 0 .socket2,
    .myEnqueue .getDeviceIdentity 0 .socket1, .myEnqueue .dial 0 .socket1,
    .onRequestComplete cardStatus]

/-- What a run shows of the four queued channels: what is outstanding and what waits. -/
def channelView (result : History ChannelEvent ChannelOutput × Channels) :
    List (List Nat × List Nat) :=
  [(.proxy1, .socket1), (.proxy1, .socket2), (.proxy3, .socket1), (.proxy3, .socket2)].map
    fun channel => (outstandingOn channel result.2, waitingOn channel result.2)

/-- The power request of the first card has followed its card status request. -/
theorem channels_exact_busy :
    ∃ history state, ChannelExact 10 emptyMemory history.outputs state (.proxy1, .socket1) ∧
      channelView (history, state) = [([1], []), ([2], [3]), ([4], []), ([], [])] := by
  obtain ⟨history, state, run, viewed⟩ :=
    System.exists_run_of_exec (channelSystem 10 emptyMemory) (OnlyAdmissible 10 emptyMemory)
      busyEvents channelView rfl (by decide +kernel)
      (by decide +kernel : _ = some [([1], []), ([2], [3]), ([4], []), ([], [])])
  exact ⟨history, state, channels_exact run rfl, viewed⟩

/-- A power request of the second card sets the flag of the first card. -/
theorem power_sets_foreign_flag :
    ¬∀ (version : Int) (beyond : Request → CommandInfo)
      (history : History ChannelEvent ChannelOutput) (state : Channels) (channel : Channel),
      (channelSystem version beyond).Run System.free history state →
        channel.1.isQueued = true → ChannelExact version beyond history.outputs state channel := by
  intro claimed
  obtain ⟨history, state, run, viewed⟩ :=
    System.exists_run_of_exec (channelSystem 10 emptyMemory) System.free
      [.myEnqueue .setRadioPower 0 .socket2]
      (fun result => (result.2.busy (.proxy1, .socket1),
        outstandingOn (.proxy1, .socket1) result.2))
      rfl (by decide +kernel) (by decide +kernel : _ = some (true, []))
  rw [Prod.mk.injEq] at viewed
  have exact := claimed 10 emptyMemory history state (.proxy1, .socket1) run rfl
  exact exact.flagged viewed.1 viewed.2

end Samples

end X3Hal.Ril
