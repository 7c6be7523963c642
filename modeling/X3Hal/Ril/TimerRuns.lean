import X3Hal.Ril.EventTimers
import Mathlib.Data.List.DropRight

/-!
# Runs of the event loop

What the loop does to its timers is what a queue of deadlines does: a timer is inserted in
order, a pass takes out the timers that are due, and they are fired from the front.  The
rings in memory refine this queue, so over every run each timer fires once, late enough and
in order.
-/

namespace X3Hal.Ril

open X3Hal.Memory X3Hal.Transition

/-! ## The queue -/

/-- A timer and its deadline. -/
abbrev Deadline := Nat × Timeval

/-- The timers that wait, and those that are due and not fired yet. -/
structure TimerQueue where
  waiting : List Deadline
  due : List Deadline

/-- What an event adds. -/
def addedTimer : LoopEvent → Option Deadline
  | .rilTimerAdd address (some tv) now => some (address, timeradd now tv)
  | _ => none

/-- What an output fires. -/
def firedTimer : LoopOutput → Option Deadline
  | .call (.timer address) _ timeout _ => some (address, timeout)
  | _ => none

def added (history : History LoopEvent LoopOutput) : List Deadline :=
  history.events.filterMap addedTimer

def fired (outputs : List LoopOutput) : List Deadline :=
  outputs.filterMap firedTimer

/-- The event is a pass over the timers. -/
def LoopEvent.isPass : LoopEvent → Bool
  | .processTimeouts _ => true
  | _ => false

/-- A step of the queue, with the timers that it fires. -/
inductive QueueStep : TimerQueue → LoopEvent → List Deadline → TimerQueue → Prop
  /-- a timer is put behind the ones with an earlier deadline -/
  | add {earlier later due : List Deadline} {timer : Deadline} {event : LoopEvent}
      (adds : addedTimer event = some timer) (before : ∀ other ∈ earlier, other.2 < timer.2)
      (behind : ∀ other ∈ later, timer.2 ≤ other.2) :
      QueueStep ⟨earlier ++ later, due⟩ event [] ⟨earlier ++ timer :: later, due⟩
  /-- the timers with an earlier deadline than the clock become due -/
  | pass {due rest : List Deadline} {now : Timeval} (passed : ∀ timer ∈ due, timer.2 < now)
      (remain : ∀ timer ∈ rest, now ≤ timer.2) :
      QueueStep ⟨due ++ rest, []⟩ (.processTimeouts now) [] ⟨rest, due⟩
  /-- the first timer that is due is fired -/
  | fire {waiting due : List Deadline} {timer : Deadline} :
      QueueStep ⟨waiting, timer :: due⟩ .firePending [timer] ⟨waiting, due⟩
  /-- nothing happens to the timers -/
  | other {queue : TimerQueue} {event : LoopEvent} (adds : addedTimer event = none)
      (notPass : event.isPass = false) : QueueStep queue event [] queue

/-! ## Runs of the queue -/

/-- The part of a run since its last pass over the timers. -/
def currentPass (history : History LoopEvent LoopOutput) : History LoopEvent LoopOutput :=
  history.rtakeWhile fun step => !step.1.isPass

/-- A timer added in a run has fired since, is due, or waits and no pass since was late
enough. -/
def Tracked (after : History LoopEvent LoopOutput) (queue : TimerQueue) (timer : Deadline) :
    Prop :=
  timer ∈ fired after.outputs ∨ timer ∈ queue.due ∨
    timer ∈ queue.waiting ∧ ∀ now, .processTimeouts now ∈ after.events → now ≤ timer.2

/-- What holds of the queue in every run. -/
structure QueueRun (history : History LoopEvent LoopOutput) (queue : TimerQueue) : Prop where
  sorted : queue.waiting.Pairwise fun a b => a.2 ≤ b.2
  once : (added history).Perm (fired history.outputs ++ (queue.waiting ++ queue.due))
  ordered : (fired (currentPass history).outputs ++ queue.due).Pairwise fun a b => a.2 ≤ b.2
  tracked : ∀ before event out after timer, history = before ++ (event, out) :: after →
    addedTimer event = some timer → Tracked after queue timer

section Queue

variable {history : History LoopEvent LoopOutput} {queue next : TimerQueue} {event : LoopEvent}
  {out : List LoopOutput}

theorem fired_append (outputs more : List LoopOutput) :
    fired (outputs ++ more) = fired outputs ++ fired more :=
  List.filterMap_append

theorem added_snoc : added (history ++ [(event, out)]) =
    added history ++ (addedTimer event).toList := by
  rw [added, History.events_snoc, List.filterMap_append]
  cases adds : addedTimer event with
  | none => simp [added, adds]
  | some timer => simp [added, adds]

theorem currentPass_snoc : currentPass (history ++ [(event, out)]) =
    if event.isPass then [] else currentPass history ++ [(event, out)] := by
  rw [currentPass, List.rtakeWhile_concat]
  cases isPass : event.isPass with
  | true => simp
  | false => simp [currentPass]

/-- A split of a run with one more step is that step, or a split of the run. -/
theorem split_snoc {before after : History LoopEvent LoopOutput}
    {step last : LoopEvent × List LoopOutput}
    (split : history ++ [last] = before ++ step :: after) :
    (step = last ∧ after = []) ∨
      ∃ rest, after = rest ++ [last] ∧ history = before ++ step :: rest := by
  rcases List.eq_nil_or_concat' after with rfl | ⟨rest, final, rfl⟩
  · obtain ⟨-, same⟩ := List.append_inj' split rfl
    exact .inl ⟨(List.cons.inj same).1.symm, rfl⟩
  · rw [← List.cons_append, ← List.append_assoc] at split
    obtain ⟨same, isLast⟩ := List.append_inj' split rfl
    exact .inr ⟨rest, by rw [(List.cons.inj isLast).1], same⟩

theorem isPass_of_adds {timer : Deadline} (adds : addedTimer event = some timer) :
    event.isPass = false := by
  cases event with
  | processTimeouts now => exact nomatch adds
  | _ => rfl

/-- A step of the queue keeps track of every timer. -/
theorem Tracked.step {after : History LoopEvent LoopOutput} {timer : Deadline}
    (tracked : Tracked after queue timer) (step : QueueStep queue event (fired out) next) :
    Tracked (after ++ [(event, out)]) next timer := by
  have noPass : event.isPass = false → ∀ now, LoopEvent.processTimeouts now ∈
      (after ++ [(event, out)]).events → LoopEvent.processTimeouts now ∈ after.events := by
    intro notPass now isMem
    rw [History.events_snoc, List.mem_append, List.mem_singleton] at isMem
    rcases isMem with earlier | rfl
    · exact earlier
    · exact nomatch notPass
  rw [Tracked, History.outputs_snoc, fired_append]
  generalize fired out = fires at step
  rcases tracked with hasFired | isDue | ⟨waits, passes⟩
  · exact .inl (List.mem_append_left _ hasFired)
  · cases step with
    | add adds before behind => exact .inr (.inl isDue)
    | pass passed remain => exact nomatch isDue
    | fire =>
        rw [List.mem_cons] at isDue
        rcases isDue with rfl | later
        · exact .inl (List.mem_append_right _ (List.mem_singleton.mpr rfl))
        · exact .inr (.inl later)
    | other adds notPass => exact .inr (.inl isDue)
  · cases step with
    | add adds before behind =>
        refine .inr (.inr ⟨?_, fun now isMem =>
          passes now (noPass (isPass_of_adds adds) now isMem)⟩)
        rw [List.mem_append] at waits
        simp only [List.mem_append, List.mem_cons]
        tauto
    | @pass due rest now passed remain =>
        rcases List.mem_append.mp waits with isDue | waits
        · exact .inr (.inl isDue)
        · refine .inr (.inr ⟨waits, ?_⟩)
          intro pass isMem
          rw [History.events_snoc, List.mem_append, List.mem_singleton] at isMem
          rcases isMem with earlier | isLast
          · exact passes pass earlier
          · obtain rfl := LoopEvent.processTimeouts.inj isLast
            exact remain timer waits
    | fire => exact .inr (.inr ⟨waits, fun now isMem => passes now (noPass rfl now isMem)⟩)
    | other adds notPass =>
        exact .inr (.inr ⟨waits, fun now isMem => passes now (noPass notPass now isMem)⟩)

theorem QueueRun.start : QueueRun [] ⟨[], []⟩ where
  sorted := .nil
  once := .nil
  ordered := .nil
  tracked := by simp

variable {fires : List Deadline}

theorem QueueStep.sorted (step : QueueStep queue event fires next)
    (sorted : queue.waiting.Pairwise fun a b => a.2 ≤ b.2) :
    next.waiting.Pairwise fun a b => a.2 ≤ b.2 := by
  cases step with
  | add adds before behind =>
      obtain ⟨earlier, later, across⟩ := List.pairwise_append.mp sorted
      refine List.pairwise_append.mpr ⟨earlier, List.pairwise_cons.mpr ⟨behind, later⟩, ?_⟩
      intro a isEarlier b isMem
      rcases List.mem_cons.mp isMem with rfl | isLater
      · exact (before a isEarlier).le
      · exact across a isEarlier b isLater
  | pass passed remain => exact (List.pairwise_append.mp sorted).2.1
  | fire => exact sorted
  | other adds notPass => exact sorted

/-- What is added stays in the queue until it is fired. -/
theorem QueueStep.once (step : QueueStep queue event fires next) :
    ((queue.waiting ++ queue.due) ++ (addedTimer event).toList).Perm
      (fires ++ (next.waiting ++ next.due)) := by
  cases step with
  | @add earlier later due timer event adds before behind =>
      rw [adds, Option.toList_some, List.nil_append]
      calc (earlier ++ later ++ due ++ [timer]).Perm (timer :: (earlier ++ later ++ due)) :=
            List.perm_append_singleton _ _
        _ = timer :: (earlier ++ (later ++ due)) := by rw [List.append_assoc]
        List.Perm _ (earlier ++ timer :: (later ++ due)) := List.perm_middle.symm
        _ = earlier ++ timer :: later ++ due := by simp
  | @pass due rest now passed remain =>
      show ((due ++ rest ++ []) ++ []).Perm ([] ++ (rest ++ due))
      rw [List.append_nil, List.append_nil, List.nil_append]
      exact List.perm_append_comm
  | @fire waiting due timer =>
      show ((waiting ++ timer :: due) ++ []).Perm (timer :: (waiting ++ due))
      rw [List.append_nil]
      exact List.perm_middle
  | other adds notPass =>
      rw [adds]
      simp

/-- The timers of a pass fire in the order of their deadlines. -/
theorem QueueStep.ordered (step : QueueStep queue event fires next)
    (sorted : queue.waiting.Pairwise fun a b => a.2 ≤ b.2) {passed : List Deadline}
    (ordered : (passed ++ queue.due).Pairwise fun a b => a.2 ≤ b.2) :
    ((if event.isPass then [] else passed ++ fires) ++ next.due).Pairwise
      fun a b => a.2 ≤ b.2 := by
  cases step with
  | add adds before behind =>
      rw [isPass_of_adds adds, List.append_nil]
      exact ordered
  | pass passed remain => exact (List.pairwise_append.mp sorted).1
  | fire =>
      rw [List.append_cons] at ordered
      exact ordered
  | other adds notPass =>
      rw [notPass, List.append_nil]
      exact ordered

/-- A step of the queue keeps what holds in every run. -/
theorem QueueRun.step (run : QueueRun history queue)
    (step : QueueStep queue event (fired out) next) :
    QueueRun (history ++ [(event, out)]) next := by
  refine ⟨step.sorted run.sorted, ?_, ?_, ?_⟩
  · rw [added_snoc, History.outputs_snoc, fired_append, List.append_assoc]
    calc (added history ++ (addedTimer event).toList).Perm
          ((fired history.outputs ++ (queue.waiting ++ queue.due)) ++ (addedTimer event).toList) :=
          run.once.append_right _
      _ = fired history.outputs ++
          ((queue.waiting ++ queue.due) ++ (addedTimer event).toList) := by
          rw [List.append_assoc]
      List.Perm _ (fired history.outputs ++ (fired out ++ (next.waiting ++ next.due))) :=
          step.once.append_left _
  · have ordered := step.ordered run.sorted run.ordered
    rw [currentPass_snoc]
    split
    case isTrue isPass =>
        rw [if_pos isPass] at ordered
        exact ordered
    case isFalse notPass =>
        rw [if_neg notPass] at ordered
        rw [History.outputs_snoc, fired_append]
        exact ordered
  · intro before event' out' after timer split adds
    rcases split_snoc split with ⟨same, rfl⟩ | ⟨rest, rfl, earlier⟩
    · obtain ⟨rfl, rfl⟩ := Prod.mk.inj same
      generalize fired out' = fires at step
      cases step with
      | @add earlier later due timer' event adds' before behind =>
          obtain rfl := Option.some.inj (adds'.symm.trans adds)
          exact .inr (.inr ⟨by simp, by simp⟩)
      | pass passed remain => exact nomatch adds
      | fire => exact nomatch adds
      | other none notPass => exact nomatch none.symm.trans adds
    · exact (run.tracked before event' out' rest timer earlier adds).step step

end Queue

/-! ## The loop refines the queue -/

/-- The timers of a list with their deadlines. -/
def timerDeadline (heap : EventHeap) : EventPtr → Option Deadline
  | .timer address => some (address, heap.timeout (.timer address))
  | _ => none

def deadlines (heap : EventHeap) (list : List EventPtr) : List Deadline :=
  list.filterMap (timerDeadline heap)

/-- The queue that the lists stand for. -/
def EventHeap.queue (heap : EventHeap) (timers pending : List EventPtr) : TimerQueue :=
  ⟨deadlines heap timers, deadlines heap pending⟩

/-- Where the loop is agrees with `pending_list`. -/
def LoopPhase.Agrees (pending : List EventPtr) : LoopPhase → Prop
  | .selecting => pending = []
  | .timedOut => True
  | .firing ev => (pending ++ [EventPtr.pendingList]).head? = some ev

/-- What holds of the loop between its steps. -/
structure LoopInvariant (loop : EventLoop) (timers pending : List EventPtr) : Prop where
  lists : EventLists loop.heap.links timers pending
  areTimers : ∀ ev ∈ timers, ∃ address, ev = .timer address
  sorted : timers.Pairwise fun a b => loop.heap.timeout a ≤ loop.heap.timeout b
  enough : timers.length < loop.fuel
  phase : loop.phase.Agrees pending
  passed : ∀ address, .timer address ∈ pending → loop.heap.timeout (.timer address) < loop.clock

section Refinement

variable {loop after : EventLoop} {timers pending : List EventPtr} {out : List LoopOutput}

theorem deadlines_append (heap : EventHeap) (list more : List EventPtr) :
    deadlines heap (list ++ more) = deadlines heap list ++ deadlines heap more :=
  List.filterMap_append

theorem deadlines_cons_timer (heap : EventHeap) (address : Nat) (list : List EventPtr) :
    deadlines heap (.timer address :: list) =
      (address, heap.timeout (.timer address)) :: deadlines heap list :=
  rfl

theorem deadlines_congr {heap other : EventHeap} {list : List EventPtr}
    (same : ∀ ev ∈ list, other.timeout ev = heap.timeout ev) :
    deadlines other list = deadlines heap list := by
  refine List.filterMap_congr fun ev isMem => ?_
  cases ev with
  | timer address => simp only [timerDeadline, same _ isMem]
  | _ => rfl

theorem mem_deadlines_iff {heap : EventHeap} {list : List EventPtr} {timer : Deadline} :
    timer ∈ deadlines heap list ↔
      .timer timer.1 ∈ list ∧ heap.timeout (.timer timer.1) = timer.2 := by
  rw [deadlines, List.mem_filterMap]
  constructor
  · rintro ⟨ev, isMem, is⟩
    cases ev with
    | timer address =>
        obtain rfl := Option.some.inj is
        exact ⟨isMem, rfl⟩
    | _ => exact nomatch is
  · rintro ⟨isMem, is⟩
    exact ⟨_, isMem, by rw [timerDeadline, is]⟩

/-- What the first of a sorted list is not later than, none of the list is later than. -/
theorem le_of_head {list : List EventPtr} {timeout : EventPtr → Timeval} {time : Timeval}
    (sorted : list.Pairwise fun a b => timeout a ≤ timeout b)
    (first : ∀ ev ∈ list.head?, time ≤ timeout ev) : ∀ ev ∈ list, time ≤ timeout ev := by
  cases list with
  | nil => simp
  | cons head rest =>
      have atHead := first head rfl
      refine List.forall_mem_cons.mpr ⟨atHead, fun ev isMem => ?_⟩
      exact atHead.trans ((List.pairwise_cons.mp sorted).1 ev isMem)

/-- A timer fires when the clock is past its deadline. -/
def LoopOutput.InTime : LoopOutput → Prop
  | .call (.timer _) _ timeout clock => timeout < clock
  | _ => True

/-- What `select` is given while timers wait: no bound only when none does, and else the
time to the earliest deadline, or no time at all when that has passed. -/
def SelectsFor (now : Timeval) (waiting : List Deadline) : Option Timeval → Prop
  | none => waiting = []
  | some tv => ∃ first ∈ waiting, (∀ other ∈ waiting, first.2 ≤ other.2) ∧
      tv = if now < first.2 then timersub first.2 now else ⟨0, 0⟩

/-- A step keeps the invariant, and is a step of the queue. -/
def Refines (loop : EventLoop) (timers pending : List EventPtr) (event : LoopEvent)
    (after : EventLoop) (out : List LoopOutput) : Prop :=
  ∃ nextTimers nextPending, LoopInvariant after nextTimers nextPending ∧
    QueueStep (loop.heap.queue timers pending) event (fired out)
      (after.heap.queue nextTimers nextPending) ∧
    ∀ output ∈ out, output.InTime

theorem LoopInvariant.rilTimerAdd (invariant : LoopInvariant loop timers pending) {address : Nat}
    {now : Timeval} (later : loop.clock ≤ now)
    (null : loop.heap.links.next (.timer address) = none) (tv : Option Timeval) :
    ∃ after, loop.step (.rilTimerAdd address tv now) = some (after, []) ∧
      Refines loop timers pending (.rilTimerAdd address tv now) after [] := by
  rw [EventLoop.step, if_pos ⟨later, null⟩]
  cases tv with
  | none =>
      refine ⟨{ loop with fuel := loop.fuel + 1, clock := now }, rfl, timers, pending, ?_,
        .other rfl rfl, by simp⟩
      exact { invariant with
        enough := Nat.lt_succ_of_lt invariant.enough
        passed := fun address isMem => (invariant.passed address isMem).trans_le later }
  | some tv =>
      obtain ⟨added, first, last, is, rfl, lists, timeout, -, before, behind⟩ :=
        rilTimerAdd_spec invariant.lists null tv now invariant.enough
      obtain ⟨freshTimer, freshPending⟩ := invariant.lists.notMem null
      have same : ∀ ev, ev ≠ .timer address → added.timeout ev = loop.heap.timeout ev := by
        intro ev other
        rw [timeout, Function.update_of_ne other]
      have sameTimers : ∀ ev ∈ first ++ last, added.timeout ev = loop.heap.timeout ev := by
        intro ev isMem
        exact same ev fun isNew => freshTimer (isNew ▸ List.mem_cons_of_mem _ isMem)
      have samePending : ∀ ev ∈ pending, added.timeout ev = loop.heap.timeout ev := by
        intro ev isMem
        exact same ev fun isNew => freshPending (isNew ▸ List.mem_cons_of_mem _ isMem)
      have deadline : added.timeout (.timer address) = timeradd now tv := by
        rw [timeout, Function.update_self]
      have behind := le_of_head (List.pairwise_append.mp invariant.sorted).2.1 behind
      rw [is]
      refine ⟨{ loop with heap := added, fuel := loop.fuel + 1, clock := now }, rfl,
        first ++ .timer address :: last, pending, ⟨lists, ?_, ?_, ?_, invariant.phase, ?_⟩, ?_,
        by simp⟩
      · intro ev isMem
        rw [List.mem_append, List.mem_cons, or_left_comm, ← List.mem_append] at isMem
        rcases isMem with rfl | isOther
        · exact ⟨address, rfl⟩
        · exact invariant.areTimers ev isOther
      · obtain ⟨sortedFirst, sortedLast, across⟩ := List.pairwise_append.mp
          (invariant.sorted.imp_of_mem fun {a b} isA isB le => by
            rwa [← sameTimers a isA, ← sameTimers b isB] at le)
        refine List.pairwise_append.mpr ⟨sortedFirst, List.pairwise_cons.mpr ⟨?_, sortedLast⟩, ?_⟩
        · intro ev isMem
          rw [deadline, sameTimers ev (List.mem_append_right _ isMem)]
          exact behind ev isMem
        · intro ev isMem other isOther
          rcases List.mem_cons.mp isOther with rfl | isOther
          · rw [deadline, sameTimers ev (List.mem_append_left _ isMem)]
            exact (before ev isMem).le
          · exact across ev isMem other isOther
      · have enough := invariant.enough
        simp only [List.length_append, List.length_cons] at enough ⊢
        omega
      · intro address' isMem
        rw [samePending _ isMem]
        exact (invariant.passed address' isMem).trans_le later
      · have queue : added.queue (first ++ .timer address :: last) pending =
            ⟨deadlines loop.heap first ++ (address, timeradd now tv) :: deadlines loop.heap last,
              deadlines loop.heap pending⟩ := by
          rw [EventHeap.queue, deadlines_append, deadlines_cons_timer, deadline,
            deadlines_congr samePending,
            deadlines_congr fun ev isMem => sameTimers ev (List.mem_append_left _ isMem),
            deadlines_congr fun ev isMem => sameTimers ev (List.mem_append_right _ isMem)]
        rw [queue, EventHeap.queue, deadlines_append]
        refine .add rfl ?_ ?_
        · intro timer isMem
          obtain ⟨isTimer, is⟩ := mem_deadlines_iff.mp isMem
          rw [← is]
          exact before _ isTimer
        · intro timer isMem
          obtain ⟨isTimer, is⟩ := mem_deadlines_iff.mp isMem
          rw [← is]
          exact behind _ isTimer

/-- The first timer of a sorted `timer_list` has the earliest deadline. -/
theorem LoopInvariant.selectsFor (invariant : LoopInvariant loop timers pending) (now : Timeval) :
    SelectsFor now (deadlines loop.heap timers) (timers.head?.map fun first =>
      if now < loop.heap.timeout first then timersub (loop.heap.timeout first) now
      else ⟨0, 0⟩) := by
  have areTimers := invariant.areTimers
  have sorted := invariant.sorted
  cases timers with
  | nil => exact rfl
  | cons first rest =>
      obtain ⟨address, rfl⟩ := areTimers first List.mem_cons_self
      refine ⟨(address, loop.heap.timeout (.timer address)), ?_, ?_, rfl⟩
      · exact mem_deadlines_iff.mpr ⟨List.mem_cons_self, rfl⟩
      · intro other isMem
        obtain ⟨isTimer, is⟩ := mem_deadlines_iff.mp isMem
        rcases List.mem_cons.mp isTimer with same | behind
        · rw [← is, same]
        · rw [← is]
          exact List.rel_of_pairwise_cons sorted behind

theorem LoopInvariant.calcNextTimeout (invariant : LoopInvariant loop timers pending)
    {now : Timeval} (later : loop.clock ≤ now) (selecting : loop.phase = .selecting) :
    ∃ after tv, loop.step (.calcNextTimeout now) = some (after, [.select tv]) ∧
      SelectsFor now (deadlines loop.heap timers) tv ∧
      Refines loop timers pending (.calcNextTimeout now) after [.select tv] := by
  rw [EventLoop.step, if_pos ⟨later, selecting⟩, calcNextTimeout_spec now invariant.lists]
  refine ⟨_, _, rfl, invariant.selectsFor now, timers, pending, ?_, .other rfl rfl, ?_⟩
  · exact { invariant with
      passed := fun address isMem => (invariant.passed address isMem).trans_le later }
  · intro output isMem
    rw [List.mem_singleton.mp isMem]
    exact trivial

theorem LoopInvariant.processTimeouts (invariant : LoopInvariant loop timers pending)
    {now : Timeval} (later : loop.clock ≤ now) (selecting : loop.phase = .selecting) :
    ∃ after, loop.step (.processTimeouts now) = some (after, []) ∧
      Refines loop timers pending (.processTimeouts now) after [] := by
  obtain rfl : pending = [] := by
    have phase := invariant.phase
    rwa [selecting] at phase
  obtain ⟨moved, due, rest, is, rfl, lists, timeout, -, allDue, stops⟩ :=
    processTimeouts_spec now invariant.lists invariant.enough
  have stops := le_of_head (List.pairwise_append.mp invariant.sorted).2.1 stops
  rw [EventLoop.step, if_pos ⟨later, selecting⟩, is]
  refine ⟨{ loop with heap := moved, clock := now, phase := .timedOut }, rfl, rest, due,
    ⟨lists, ?_, ?_, ?_, trivial, ?_⟩, ?_, by simp⟩
  · intro ev isMem
    exact invariant.areTimers ev (List.mem_append_right _ isMem)
  · rw [timeout]
    exact (List.pairwise_append.mp invariant.sorted).2.1
  · have enough := invariant.enough
    rw [List.length_append] at enough
    show rest.length < loop.fuel
    omega
  · intro address isMem
    rw [timeout]
    exact allDue _ isMem
  · have queue : moved.queue rest due = ⟨deadlines loop.heap rest, deadlines loop.heap due⟩ := by
      rw [EventHeap.queue, deadlines_congr fun ev _ => congrFun timeout ev,
        deadlines_congr fun ev _ => congrFun timeout ev]
    rw [queue, EventHeap.queue, deadlines_append]
    refine .pass ?_ ?_
    · intro timer isMem
      obtain ⟨isTimer, is⟩ := mem_deadlines_iff.mp isMem
      rw [← is]
      exact allDue _ isTimer
    · intro timer isMem
      obtain ⟨isTimer, is⟩ := mem_deadlines_iff.mp isMem
      rw [← is]
      exact stops _ isTimer

theorem deadlines_watches (heap : EventHeap) (ready : List Nat) :
    deadlines heap (ready.map EventPtr.watch) = [] := by
  rw [deadlines, List.filterMap_map]
  exact List.filterMap_eq_nil_iff.mpr fun _ _ => rfl

theorem LoopInvariant.processReadReadies (invariant : LoopInvariant loop timers pending)
    {ready : List Nat} (timedOut : loop.phase = .timedOut) (nodup : ready.Nodup)
    (null : ∀ address ∈ ready, loop.heap.links.next (.watch address) = none) :
    ∃ after, loop.step (.processReadReadies ready) = some (after, []) ∧
      Refines loop timers pending (.processReadReadies ready) after [] := by
  obtain ⟨moved, is, lists, timeout, -⟩ := processReadReadies_spec invariant.lists nodup null
  obtain ⟨ev, isFirst⟩ : ∃ ev, (pending ++ ready.map EventPtr.watch ++
      [EventPtr.pendingList]).head? = some ev := Option.isSome_iff_exists.mp (by simp)
  rw [EventLoop.step, if_pos ⟨timedOut, nodup, null⟩, is]
  refine ⟨{ loop with heap := moved, phase := .firing ev }, ?_, timers,
    pending ++ ready.map EventPtr.watch, ⟨lists, invariant.areTimers, ?_, invariant.enough,
      isFirst, ?_⟩, ?_, by simp⟩
  · simp only [Option.bind_eq_bind, Option.bind_some, lists.pendingRing.next_head, isFirst]
  · rw [timeout]
    exact invariant.sorted
  · intro address isMem
    rw [timeout]
    refine invariant.passed address ?_
    simpa using isMem
  · have queue : moved.queue timers (pending ++ ready.map EventPtr.watch) =
        loop.heap.queue timers pending := by
      rw [EventHeap.queue, deadlines_append, deadlines_watches, List.append_nil,
        deadlines_congr fun ev _ => congrFun timeout ev,
        deadlines_congr fun ev _ => congrFun timeout ev]
      rfl
    rw [queue]
    exact .other rfl rfl

/-- The last iteration of `firePending` ends the pass. -/
theorem LoopInvariant.endFiring (invariant : LoopInvariant loop timers []) {ev : EventPtr}
    (firing : loop.phase = .firing ev) :
    loop.step .firePending = some ({ loop with phase := .selecting }, []) ∧
      Refines loop timers [] .firePending { loop with phase := .selecting } [] := by
  have phase := invariant.phase
  rw [firing] at phase
  obtain rfl : EventPtr.pendingList = ev := Option.some.inj phase
  refine ⟨by simp only [EventLoop.step, firing, if_true], timers, [], ?_, .other rfl rfl, by simp⟩
  exact { invariant with phase := rfl }

/-- Every other iteration of `firePending` calls the first pending event. -/
theorem LoopInvariant.fire {ev : EventPtr} (invariant : LoopInvariant loop timers (ev :: pending))
    {current : EventPtr} (firing : loop.phase = .firing current) :
    ∃ after next, loop.step .firePending = some (after,
        [.call ev (loop.heap.fd ev) (loop.heap.timeout ev) loop.clock]) ∧
      (LoopInvariant after timers pending ∧ after.phase = .firing next) ∧
      Refines loop timers (ev :: pending) .firePending after
        [.call ev (loop.heap.fd ev) (loop.heap.timeout ev) loop.clock] := by
  have phase := invariant.phase
  rw [firing] at phase
  obtain rfl : ev = current := Option.some.inj phase
  have notHead : ev ≠ .pendingList := by
    rintro rfl
    simpa using invariant.lists.pendingRing.1
  obtain ⟨next, isNext⟩ : ∃ next, (pending ++ [EventPtr.pendingList]).head? = some next :=
    Option.isSome_iff_exists.mp (by simp)
  have behind := @Links.Ring.next_node _ loop.heap.links .pendingList [] pending ev
    invariant.lists.pendingRing
  obtain ⟨removed, isRemoved, lists⟩ := invariant.lists.removePending
  have keeps : LoopInvariant
      { loop with heap := { loop.heap with links := removed }, phase := .firing next }
      timers pending :=
    { invariant with
      lists := lists
      phase := isNext
      passed := fun address isMem => invariant.passed address (List.mem_cons_of_mem _ isMem) }
  refine ⟨_, next, ?_, ⟨keeps, rfl⟩, timers, pending, keeps, ?_, ?_⟩
  · simp only [EventLoop.step, firing, if_neg notHead, behind, isNext, removeFromList, isRemoved,
      Option.bind_eq_bind, Option.bind_some, Option.map_some]
  · cases ev with
    | timer address => exact .fire
    | _ => exact .other rfl rfl
  · intro output isMem
    rw [List.mem_singleton.mp isMem]
    cases ev with
    | timer address => exact invariant.passed address List.mem_cons_self
    | _ => exact trivial

/-- Every step that is taken refines the queue. -/
theorem step_refines (invariant : LoopInvariant loop timers pending) {event : LoopEvent}
    (stepped : loop.step event = some (after, out)) :
    Refines loop timers pending event after out := by
  cases event with
  | rilTimerAdd address tv now =>
      by_cases enabled : loop.clock ≤ now ∧ loop.heap.links.next (.timer address) = none
      · obtain ⟨final, is, refines⟩ := invariant.rilTimerAdd enabled.1 enabled.2 tv
        obtain ⟨rfl, rfl⟩ := Prod.mk.inj (Option.some.inj (is.symm.trans stepped))
        exact refines
      · rw [EventLoop.step, if_neg enabled] at stepped
        exact nomatch stepped
  | calcNextTimeout now =>
      by_cases enabled : loop.clock ≤ now ∧ loop.phase = .selecting
      · obtain ⟨final, tv, is, -, refines⟩ := invariant.calcNextTimeout enabled.1 enabled.2
        obtain ⟨rfl, rfl⟩ := Prod.mk.inj (Option.some.inj (is.symm.trans stepped))
        exact refines
      · rw [EventLoop.step, if_neg enabled] at stepped
        exact nomatch stepped
  | processTimeouts now =>
      by_cases enabled : loop.clock ≤ now ∧ loop.phase = .selecting
      · obtain ⟨final, is, refines⟩ := invariant.processTimeouts enabled.1 enabled.2
        obtain ⟨rfl, rfl⟩ := Prod.mk.inj (Option.some.inj (is.symm.trans stepped))
        exact refines
      · rw [EventLoop.step, if_neg enabled] at stepped
        exact nomatch stepped
  | processReadReadies ready =>
      by_cases enabled : loop.phase = .timedOut ∧ ready.Nodup ∧
          ∀ address ∈ ready, loop.heap.links.next (.watch address) = none
      · obtain ⟨final, is, refines⟩ :=
          invariant.processReadReadies enabled.1 enabled.2.1 enabled.2.2
        obtain ⟨rfl, rfl⟩ := Prod.mk.inj (Option.some.inj (is.symm.trans stepped))
        exact refines
      · rw [EventLoop.step, if_neg enabled] at stepped
        exact nomatch stepped
  | firePending =>
      cases phase : loop.phase with
      | firing ev =>
          cases pending with
          | nil =>
              obtain ⟨is, refines⟩ := invariant.endFiring phase
              obtain ⟨rfl, rfl⟩ := Prod.mk.inj (Option.some.inj (is.symm.trans stepped))
              exact refines
          | cons first rest =>
              obtain ⟨final, next, is, -, refines⟩ := invariant.fire phase
              obtain ⟨rfl, rfl⟩ := Prod.mk.inj (Option.some.inj (is.symm.trans stepped))
              exact refines
      | _ => simp only [EventLoop.step, phase, reduceCtorEq] at stepped

/-- A pass that has begun to fire comes to its end. -/
theorem LoopInvariant.pass_ends (invariant : LoopInvariant loop timers pending) {ev : EventPtr}
    (firing : loop.phase = .firing ev) (history : History LoopEvent LoopOutput) :
    ∃ n final, ((eventLoopSystem.execFrom history loop (List.replicate n .firePending)).map
      Prod.snd = some final) ∧ final.phase = .selecting := by
  induction pending generalizing loop ev history with
  | nil =>
      refine ⟨1, { loop with phase := .selecting }, ?_, rfl⟩
      simp only [List.replicate, System.execFrom, eventLoopSystem, (invariant.endFiring firing).1,
        Option.map_some]
  | cons first rest ih =>
      obtain ⟨after, next, is, ⟨keeps, stillFiring⟩, -⟩ := invariant.fire firing
      obtain ⟨n, final, ends, selecting⟩ := ih keeps stillFiring
        (history ++ [(.firePending,
          [.call first (loop.heap.fd first) (loop.heap.timeout first) loop.clock])])
      refine ⟨n + 1, final, ?_, selecting⟩
      simp only [List.replicate, System.execFrom, eventLoopSystem, is]
      exact ends

theorem eventLists_init (fd : EventPtr → Int) : EventLists (rilEventInit fd).links [] [] where
  timerRing := Links.ring_nil rfl rfl
  pendingRing := Links.ring_nil rfl rfl
  disjoint := by simp
  unlinked := by
    intro ev notTimer notPending
    simp only [List.mem_singleton] at notTimer notPending
    simp [rilEventInit, notTimer, notPending]

end Refinement

/-! ## Every run -/

/-- What the timers are to do in every run. -/
structure TimersCorrect (history : History LoopEvent LoopOutput) (loop : EventLoop) : Prop where
  /-- The lists are disjoint rings, `timer_list` is sorted, and what was added was fired or
  is on a list, each once. -/
  lists : ∃ timers pending, EventLists loop.heap.links timers pending ∧
    (timers.Pairwise fun a b => loop.heap.timeout a ≤ loop.heap.timeout b) ∧
    (added history).Perm (fired history.outputs ++ deadlines loop.heap (timers ++ pending))
  inTime : ∀ output ∈ history.outputs, output.InTime
  ordered : (fired (currentPass history).outputs).Pairwise fun a b => a.2 ≤ b.2
  /-- A timer has fired once a pass with a clock past its deadline has ended. -/
  fires : loop.phase = .selecting → ∀ before event out timer now,
    ∀ after : History LoopEvent LoopOutput,
    history = before ++ (event, out) :: after → addedTimer event = some timer →
    LoopEvent.processTimeouts now ∈ after.events → timer.2 < now → timer ∈ fired after.outputs
  canAdd : ∀ now address tv, loop.clock ≤ now → loop.heap.links.next (.timer address) = none →
    (loop.step (.rilTimerAdd address tv now)).isSome
  /-- `select` is given the time to the earliest deadline of the timers that were added and
  not fired, and is unbounded only when there is none. -/
  selects : loop.phase = .selecting → ∃ waiting : List Deadline,
    (added history).Perm (fired history.outputs ++ waiting) ∧
    ∀ now, loop.clock ≤ now → ∃ after tv,
      loop.step (.calcNextTimeout now) = some (after, [.select tv]) ∧ SelectsFor now waiting tv
  canPass : loop.phase = .selecting → ∀ now, loop.clock ≤ now →
    (loop.step (.processTimeouts now)).isSome
  canReady : loop.phase = .timedOut → ∀ ready, ready.Nodup →
    (∀ address ∈ ready, loop.heap.links.next (.watch address) = none) →
    (loop.step (.processReadReadies ready)).isSome
  firingEnds : ∀ ev, loop.phase = .firing ev → ∃ n final,
    ((eventLoopSystem.execFrom history loop (List.replicate n .firePending)).map
      Prod.snd = some final) ∧ final.phase = .selecting

/-- The invariant, what holds of the queue, and what holds of the outputs. -/
def TimersRun (history : History LoopEvent LoopOutput) (loop : EventLoop) : Prop :=
  ∃ timers pending, LoopInvariant loop timers pending ∧
    QueueRun history (loop.heap.queue timers pending) ∧ ∀ output ∈ history.outputs, output.InTime

theorem timersRun_of_run {history : History LoopEvent LoopOutput} {loop : EventLoop}
    (running : eventLoopSystem.Run System.free history loop) : TimersRun history loop := by
  refine running.invariant TimersRun ?_ ?_
  · rintro loop ⟨fd, clock, rfl⟩
    exact ⟨[], [], ⟨eventLists_init fd, by simp, .nil, Nat.one_pos, rfl, by simp⟩, .start, by simp⟩
  · rintro history loop event after out ⟨timers, pending, invariant, run, inTime⟩ - stepped
    obtain ⟨nextTimers, nextPending, keeps, step, stepInTime⟩ := step_refines invariant stepped
    refine ⟨nextTimers, nextPending, keeps, run.step step, ?_⟩
    intro output isMem
    rw [History.outputs_snoc, List.mem_append] at isMem
    rcases isMem with earlier | isLast
    · exact inTime output earlier
    · exact stepInTime output isLast

/-- In every run, whoever adds timers and whatever the clock says, the lists stay sorted
and well formed, `select` waits for the earliest deadline, and each timer fires once, in time
and in order. -/
theorem timers_correct (history : History LoopEvent LoopOutput) (loop : EventLoop)
    (running : eventLoopSystem.Run System.free history loop) : TimersCorrect history loop := by
  obtain ⟨timers, pending, invariant, run, inTime⟩ := timersRun_of_run running
  refine ⟨⟨timers, pending, invariant.lists, invariant.sorted, ?_⟩, inTime,
    (List.pairwise_append.mp run.ordered).1, ?_, ?_, ?_, ?_, ?_, ?_⟩
  · rw [deadlines_append]
    exact run.once
  · intro selecting before event out timer now after split adds passed isLate
    obtain rfl : pending = [] := by
      have phase := invariant.phase
      rwa [selecting] at phase
    rcases run.tracked before event out after timer split adds with hasFired | isDue | ⟨-, passes⟩
    · exact hasFired
    · exact nomatch isDue
    · exact absurd (passes now passed) isLate.not_ge
  · intro now address tv later null
    obtain ⟨after, is, -⟩ := invariant.rilTimerAdd later null tv
    rw [is]
    rfl
  · intro selecting
    obtain rfl : pending = [] := by
      have phase := invariant.phase
      rwa [selecting] at phase
    refine ⟨deadlines loop.heap timers, ?_, ?_⟩
    · have once := run.once
      rwa [EventHeap.queue, show deadlines loop.heap [] = [] from rfl, List.append_nil] at once
    · intro now later
      obtain ⟨after, tv, isSelect, waits, -⟩ := invariant.calcNextTimeout later selecting
      exact ⟨after, tv, isSelect, waits⟩
  · intro selecting now later
    obtain ⟨after, isPass, -⟩ := invariant.processTimeouts later selecting
    rw [isPass]
    rfl
  · intro timedOut ready nodup null
    obtain ⟨after, is, -⟩ := invariant.processReadReadies timedOut nodup null
    rw [is]
    rfl
  · intro ev firing
    exact invariant.pass_ends firing history

/-- Two timers in the wrong order, a watch that is ready, and a timer that the first
callback adds. -/
def twoTimers : List LoopEvent :=
  [.rilTimerAdd 0 (some ⟨2, 0⟩) ⟨10, 0⟩, .rilTimerAdd 1 (some ⟨0, 999999⟩) ⟨10, 1⟩,
    .calcNextTimeout ⟨10, 2⟩, .processTimeouts ⟨12, 1⟩, .processReadReadies [7], .firePending,
    .rilTimerAdd 1 (some ⟨0, 0⟩) ⟨12, 1⟩, .firePending, .firePending, .firePending]

/-- The loop before its first pass. -/
def loopInit : EventLoop :=
  ⟨rilEventInit fun _ => 4, 1, ⟨0, 0⟩, .selecting⟩

theorem timers_correct_twoTimers :
    ∃ history loop, TimersCorrect history loop ∧
      fired history.outputs = [(1, ⟨11, 0⟩), (0, ⟨12, 0⟩)] := by
  obtain ⟨history, loop, running, viewed⟩ :=
    System.exists_run_of_exec eventLoopSystem System.free twoTimers
      (fun final => fired final.1.outputs) ⟨_, _, rfl⟩ (by decide +kernel)
      (by decide +kernel : (eventLoopSystem.exec loopInit twoTimers).map _ =
        some [(1, ⟨11, 0⟩), (0, ⟨12, 0⟩)])
  exact ⟨history, loop, timers_correct history loop running, viewed⟩

end X3Hal.Ril
