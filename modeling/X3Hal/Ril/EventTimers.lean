import X3Hal.Memory.Ring
import X3Hal.Transition.Core
import Mathlib.Algebra.Order.Ring.Int
import Mathlib.Data.Prod.Lex
import Mathlib.Order.Lattice

/-!
# Timers of the event loop

`timer_list` and `pending_list` of `ril_event.cpp` are rings of events.  A timer is put at
its place on the sorted `timer_list`; a pass of the loop moves the timers that are due to
`pending_list`, adds the read-ready events behind them, and calls them in turn.
-/

namespace X3Hal.Ril

open X3Hal.Memory X3Hal.Transition

/-! ## Times -/

/-- `struct timeval` -/
structure Timeval where
  sec : Int
  usec : Int
  deriving DecidableEq, Repr

/-- `timeradd` -/
def timeradd (a b : Timeval) : Timeval :=
  let usec := a.usec + b.usec
  if 1000000 ≤ usec then ⟨a.sec + b.sec + 1, usec - 1000000⟩ else ⟨a.sec + b.sec, usec⟩

/-- `timersub` -/
def timersub (a b : Timeval) : Timeval :=
  let usec := a.usec - b.usec
  if usec < 0 then ⟨a.sec - b.sec - 1, usec + 1000000⟩ else ⟨a.sec - b.sec, usec⟩

/-- `timercmp` with `<` -/
def timercmpLt (a b : Timeval) : Bool :=
  if a.sec = b.sec then a.usec < b.usec else a.sec < b.sec

/-- The seconds, and the microseconds within a second. -/
def Timeval.key (time : Timeval) : Lex (Int × Int) :=
  toLex (time.sec, time.usec)

theorem Timeval.key_injective : Function.Injective Timeval.key := by
  rintro ⟨sec, usec⟩ ⟨sec', usec'⟩ same
  obtain ⟨rfl, rfl⟩ := Prod.mk.inj (toLex.injective same)
  rfl

instance : LinearOrder Timeval :=
  LinearOrder.lift' Timeval.key Timeval.key_injective

@[simp]
theorem timercmpLt_iff (a b : Timeval) : timercmpLt a b ↔ a < b := by
  have keys : a < b ↔ a.key < b.key := Iff.rfl
  rw [keys, Timeval.key, Timeval.key, Prod.Lex.toLex_lt_toLex, timercmpLt]
  split
  case isTrue same => simp [same]
  case isFalse other => simp [other]

/-- A time in microseconds. -/
def Timeval.micros (time : Timeval) : Int :=
  time.sec * 1000000 + time.usec

/-- The microseconds are within a second. -/
def Timeval.Normal (time : Timeval) : Prop :=
  0 ≤ time.usec ∧ time.usec < 1000000

/-- Between normal times, the order is that of time. -/
theorem Timeval.lt_iff_micros {a b : Timeval} (normalA : a.Normal) (normalB : b.Normal) :
    a < b ↔ a.micros < b.micros := by
  unfold Normal at normalA normalB
  rw [← timercmpLt_iff, timercmpLt, micros, micros]
  split
  case isTrue same =>
      rw [same, decide_eq_true_iff]
      omega
  case isFalse other =>
      rw [decide_eq_true_iff]
      omega

theorem micros_timeradd (a b : Timeval) : (timeradd a b).micros = a.micros + b.micros := by
  unfold timeradd Timeval.micros
  dsimp only
  split
  · dsimp only
    omega
  · dsimp only
    omega

theorem normal_timeradd {a b : Timeval} (normalA : a.Normal) (normalB : b.Normal) :
    (timeradd a b).Normal := by
  unfold Timeval.Normal at normalA normalB ⊢
  unfold timeradd
  dsimp only
  split
  · dsimp only
    omega
  · dsimp only
    omega

/-! ## Events in memory -/

/-- The heads of the two lists, and the events by their address.  A timer is set up by
`ril_timer_add`, a watch by `ril_event_add`. -/
inductive EventPtr
  | timerList
  | pendingList
  | timer (address : Nat)
  | watch (address : Nat)
  deriving DecidableEq, Repr

/-- The fields of all events that the loop reads. -/
structure EventHeap where
  links : Links EventPtr
  fd : EventPtr → Int
  timeout : EventPtr → Timeval

/-- `ril_event_init`, where no event is on a list yet; `fd` is what `ril_event_set` was
given for each event. -/
def rilEventInit (fd : EventPtr → Int) : EventHeap where
  links :=
    { next := fun ev => if ev = .timerList ∨ ev = .pendingList then some ev else none
      prev := fun ev => if ev = .timerList ∨ ev = .pendingList then some ev else none }
  fd := fun ev => if ev = .timerList ∨ ev = .pendingList then -1 else fd ev
  timeout := fun _ => ⟨0, 0⟩

/-- `addToList` -/
def addToList (ev list : EventPtr) (heap : EventHeap) : Option EventHeap :=
  (heap.links.insertBefore ev list).map fun links => { heap with links := links }

/-- `removeFromList` -/
def removeFromList (ev : EventPtr) (heap : EventHeap) : Option EventHeap :=
  (heap.links.remove ev).map fun links => { heap with links := links }

/-- The loop of `ril_timer_add` from an event on; `none` when the fuel runs out. -/
def timerPlace (timeout : Timeval) : Nat → EventPtr → EventHeap → Option EventPtr
  | 0, _, _ => none
  | fuel + 1, list, heap =>
      if timercmpLt (heap.timeout list) timeout && list ≠ .timerList then do
        let next ← heap.links.next list
        timerPlace timeout fuel next heap
      else some list

/-- `ril_timer_add` at a time `now` -/
def rilTimerAdd (fuel : Nat) (ev : EventPtr) (tv : Option Timeval) (now : Timeval)
    (heap : EventHeap) : Option EventHeap :=
  match tv with
  | none => some heap
  | some tv => do
      let list ← heap.links.next .timerList
      let heap := { heap with fd := Function.update heap.fd ev (-1) }
      let heap := { heap with timeout := Function.update heap.timeout ev (timeradd now tv) }
      let list ← timerPlace (timeradd now tv) fuel list heap
      addToList ev list heap

/-- The loop of `processTimeouts` from an event on; `none` when the fuel runs out. -/
def processTimeoutsFrom (now : Timeval) : Nat → EventPtr → EventHeap → Option EventHeap
  | 0, _, _ => none
  | fuel + 1, tev, heap =>
      if tev ≠ .timerList && timercmpLt (heap.timeout tev) now then do
        let next ← heap.links.next tev
        let heap ← removeFromList tev heap
        let heap ← addToList tev .pendingList heap
        processTimeoutsFrom now fuel next heap
      else some heap

/-- `processTimeouts` at a time `now` -/
def processTimeouts (fuel : Nat) (now : Timeval) (heap : EventHeap) : Option EventHeap := do
  let tev ← heap.links.next .timerList
  processTimeoutsFrom now fuel tev heap

/-- What `processReadReadies` does to `pending_list`, with the watches that are ready in
the order of their table -/
def processReadReadies : List Nat → EventHeap → Option EventHeap
  | [], heap => some heap
  | address :: rest, heap => do
      let heap ← addToList (.watch address) .pendingList heap
      processReadReadies rest heap

/-- `calcNextTimeout` at a time `now`; the inner `none` blocks indefinitely. -/
def calcNextTimeout (now : Timeval) (heap : EventHeap) : Option (Option Timeval) := do
  let tev ← heap.links.next .timerList
  if tev = .timerList then some none
  else if timercmpLt now (heap.timeout tev) then some (some (timersub (heap.timeout tev) now))
  else some (some ⟨0, 0⟩)

/-! ## The loop -/

/-- Where `ril_event_loop` is. -/
inductive LoopPhase
  /-- before or in `select` -/
  | selecting
  /-- behind `processTimeouts` -/
  | timedOut
  /-- in `firePending`, with its variable `ev` -/
  | firing (ev : EventPtr)
  deriving DecidableEq

/-- The loop with its lists, the fuel that its inner loops are given, and the last reading
of the clock. -/
structure EventLoop where
  heap : EventHeap
  fuel : Nat
  clock : Timeval
  phase : LoopPhase

/-- Steps of the loop, and `ril_timer_add` by a callback or another thread. -/
inductive LoopEvent
  | rilTimerAdd (address : Nat) (tv : Option Timeval) (now : Timeval)
  | calcNextTimeout (now : Timeval)
  | processTimeouts (now : Timeval)
  | processReadReadies (ready : List Nat)
  /-- one iteration of `firePending` -/
  | firePending
  deriving DecidableEq

inductive LoopOutput
  /-- the call of `ev->func`, with the deadline of the event and the last reading of the clock -/
  | call (ev : EventPtr) (fd : Int) (timeout clock : Timeval)
  /-- the timeout that `select` is given -/
  | select (tv : Option Timeval)
  deriving DecidableEq

/-- One step.  The clock does not go back, a timer is added while it is on no list, and a
watch that is ready is on no list. -/
def EventLoop.step (loop : EventLoop) : LoopEvent → Option (EventLoop × List LoopOutput)
  | .rilTimerAdd address tv now =>
      if loop.clock ≤ now ∧ loop.heap.links.next (.timer address) = none then do
        let heap ← Ril.rilTimerAdd loop.fuel (.timer address) tv now loop.heap
        some ({ loop with heap := heap, fuel := loop.fuel + 1, clock := now }, [])
      else none
  | .calcNextTimeout now =>
      if loop.clock ≤ now ∧ loop.phase = .selecting then do
        let tv ← Ril.calcNextTimeout now loop.heap
        some ({ loop with clock := now }, [.select tv])
      else none
  | .processTimeouts now =>
      if loop.clock ≤ now ∧ loop.phase = .selecting then do
        let heap ← Ril.processTimeouts loop.fuel now loop.heap
        some ({ loop with heap := heap, clock := now, phase := .timedOut }, [])
      else none
  | .processReadReadies ready =>
      if loop.phase = .timedOut ∧ ready.Nodup ∧
          ∀ address ∈ ready, loop.heap.links.next (.watch address) = none then do
        let heap ← Ril.processReadReadies ready loop.heap
        let ev ← heap.links.next .pendingList
        some ({ loop with heap := heap, phase := .firing ev }, [])
      else none
  | .firePending =>
      match loop.phase with
      | .firing ev =>
          if ev = .pendingList then some ({ loop with phase := .selecting }, [])
          else do
            let next ← loop.heap.links.next ev
            let heap ← removeFromList ev loop.heap
            some ({ loop with heap := heap, phase := .firing next },
              [.call ev (heap.fd ev) (heap.timeout ev) loop.clock])
      | _ => none

/-- The loop as a system. -/
def eventLoopSystem : System EventLoop LoopEvent LoopOutput where
  Init := fun loop =>
    ∃ fd clock, loop = ⟨rilEventInit fd, 1, clock, .selecting⟩
  step := EventLoop.step

/-! ## The lists -/

/-- Both lists are rings, no event is on both, and the links of every other event are
null. -/
structure EventLists (links : Links EventPtr) (timers pending : List EventPtr) : Prop where
  timerRing : links.Ring .timerList timers
  pendingRing : links.Ring .pendingList pending
  disjoint : ∀ ev ∈ EventPtr.timerList :: timers, ev ∉ EventPtr.pendingList :: pending
  unlinked : ∀ ev ∉ EventPtr.timerList :: timers, ev ∉ EventPtr.pendingList :: pending →
    links.next ev = none

section Lists

variable {links : Links EventPtr} {timers pending : List EventPtr} {ev : EventPtr}

/-- An event whose links are null is on no list. -/
theorem EventLists.notMem (lists : EventLists links timers pending)
    (null : links.next ev = none) :
    ev ∉ EventPtr.timerList :: timers ∧ ev ∉ EventPtr.pendingList :: pending :=
  ⟨fun isMem => lists.timerRing.next_ne_none isMem null,
    fun isMem => lists.pendingRing.next_ne_none isMem null⟩

/-- An unlinked event is put at its place on `timer_list`. -/
theorem EventLists.insertTimer {before after : List EventPtr}
    (lists : EventLists links (before ++ after) pending) (null : links.next ev = none)
    {pos : EventPtr} (place : (after ++ [EventPtr.timerList]).head? = some pos) :
    ∃ inserted, links.insertBefore ev pos = some inserted ∧
      EventLists inserted (before ++ ev :: after) pending := by
  obtain ⟨rest, isRest⟩ := List.head?_eq_some_iff.mp place
  obtain ⟨freshTimer, freshPending⟩ := lists.notMem null
  obtain ⟨inserted, is, ring, same⟩ := lists.timerRing.insertBefore isRest freshTimer
  have disjoint := lists.disjoint
  refine ⟨inserted, is, ring, lists.pendingRing.congr ?_, ?_, ?_⟩
  · intro other isMem
    exact same other (by grind)
  · intro other isMem
    grind
  · intro other notTimer notPending
    rw [(same other (by grind)).1]
    exact lists.unlinked other (by grind) notPending

/-- An unlinked event is put at the end of `pending_list`. -/
theorem EventLists.appendPending (lists : EventLists links timers pending)
    (null : links.next ev = none) :
    ∃ inserted, links.insertBefore ev .pendingList = some inserted ∧
      EventLists inserted timers (pending ++ [ev]) := by
  obtain ⟨freshTimer, freshPending⟩ := lists.notMem null
  have pendingRing : links.Ring .pendingList (pending ++ []) := by
    rw [List.append_nil]
    exact lists.pendingRing
  obtain ⟨inserted, is, ring, same⟩ :=
    @Links.Ring.insertBefore _ _ links .pendingList pending [] pendingRing .pendingList [] rfl ev
      (by rwa [List.append_nil])
  rw [List.append_nil] at same
  have disjoint := lists.disjoint
  refine ⟨inserted, is, lists.timerRing.congr ?_, ring, ?_, ?_⟩
  · intro other isMem
    exact same other (by grind)
  · intro other isMem
    grind
  · intro other notTimer notPending
    rw [(same other (by grind)).1]
    exact lists.unlinked other notTimer (by grind)

/-- The first timer is taken off. -/
theorem EventLists.removeTimer (lists : EventLists links (ev :: timers) pending) :
    ∃ removed, links.remove ev = some removed ∧ EventLists removed timers pending ∧
      removed.next ev = none := by
  obtain ⟨removed, is, ring, cleared, same⟩ :=
    @Links.Ring.remove _ _ links .timerList [] timers ev lists.timerRing
  have disjoint := lists.disjoint
  refine ⟨removed, is, ⟨ring, lists.pendingRing.congr ?_, ?_, ?_⟩, cleared.1⟩
  · intro other isMem
    exact same other (by grind)
  · intro other isMem
    grind
  · intro other notTimer notPending
    by_cases isRemoved : other = ev
    · rw [isRemoved, cleared.1]
    · rw [(same other (by grind)).1]
      exact lists.unlinked other (by grind) notPending

/-- The first pending event is taken off. -/
theorem EventLists.removePending (lists : EventLists links timers (ev :: pending)) :
    ∃ removed, links.remove ev = some removed ∧ EventLists removed timers pending := by
  obtain ⟨removed, is, ring, cleared, same⟩ :=
    @Links.Ring.remove _ _ links .pendingList [] pending ev lists.pendingRing
  have disjoint := lists.disjoint
  refine ⟨removed, is, lists.timerRing.congr ?_, ring, ?_, ?_⟩
  · intro other isMem
    exact same other (by grind)
  · intro other isMem
    grind
  · intro other notTimer notPending
    by_cases isRemoved : other = ev
    · rw [isRemoved, cleared.1]
    · rw [(same other (by grind)).1]
      exact lists.unlinked other notTimer (by grind)

end Lists

section Heap

variable {heap : EventHeap} {timers pending : List EventPtr} {ev : EventPtr}

/-- The loop of `ril_timer_add` stops at the first timer whose deadline is not earlier. -/
theorem timerPlace_spec (timeout : Timeval) {before after : List EventPtr}
    (ring : heap.links.Ring .timerList (before ++ after)) {list : EventPtr}
    (place : (after ++ [EventPtr.timerList]).head? = some list) {fuel : Nat}
    (enough : after.length < fuel) :
    ∃ earlier later pos, after = earlier ++ later ∧ timerPlace timeout fuel list heap = some pos ∧
      (later ++ [EventPtr.timerList]).head? = some pos ∧
      (∀ ev ∈ earlier, heap.timeout ev < timeout) ∧
      ∀ ev ∈ later.head?, timeout ≤ heap.timeout ev := by
  induction after generalizing before list fuel with
  | nil =>
      obtain ⟨fuel, rfl⟩ := Nat.exists_eq_add_of_lt enough
      obtain rfl : EventPtr.timerList = list := Option.some.inj place
      exact ⟨[], [], .timerList, rfl, by simp [timerPlace], rfl, by simp, by simp⟩
  | cons ev after ih =>
      obtain ⟨fuel, rfl⟩ := Nat.exists_eq_add_of_lt enough
      obtain rfl : ev = list := Option.some.inj place
      have notHead : ev ≠ .timerList := by
        rintro rfl
        simpa using ring.1
      rw [timerPlace]
      split
      case isTrue isEarlier =>
          have earlierHere : heap.timeout ev < timeout := by
            simpa [notHead] using isEarlier
          obtain ⟨next, isNext⟩ : ∃ next, (after ++ [EventPtr.timerList]).head? = some next :=
            Option.isSome_iff_exists.mp (by simp)
          have ringHere := ring
          rw [List.append_cons] at ringHere
          obtain ⟨earlier, later, pos, rfl, is, isPos, allEarlier, stops⟩ :=
            ih ringHere isNext
              (by rw [List.length_cons]; omega : after.length < (ev :: after).length + fuel)
          refine ⟨ev :: earlier, later, pos, rfl, ?_, isPos, ?_, stops⟩
          · rw [ring.next_node, isNext]
            exact is
          · exact List.forall_mem_cons.mpr ⟨earlierHere, allEarlier⟩
      case isFalse notEarlier =>
          refine ⟨[], ev :: after, ev, rfl, rfl, rfl, by simp, ?_⟩
          simpa [notHead] using notEarlier

/-- `ril_timer_add` puts the event behind the timers with an earlier deadline. -/
theorem rilTimerAdd_spec (lists : EventLists heap.links timers pending)
    (null : heap.links.next ev = none) (tv now : Timeval) {fuel : Nat}
    (enough : timers.length < fuel) :
    ∃ added earlier later, rilTimerAdd fuel ev (some tv) now heap = some added ∧
      timers = earlier ++ later ∧ EventLists added.links (earlier ++ ev :: later) pending ∧
      added.timeout = Function.update heap.timeout ev (timeradd now tv) ∧
      added.fd = Function.update heap.fd ev (-1) ∧
      (∀ other ∈ earlier, heap.timeout other < timeradd now tv) ∧
      ∀ other ∈ later.head?, timeradd now tv ≤ heap.timeout other := by
  obtain ⟨list, isList⟩ : ∃ list, (timers ++ [EventPtr.timerList]).head? = some list :=
    Option.isSome_iff_exists.mp (by simp)
  obtain ⟨freshTimer, -⟩ := lists.notMem null
  obtain ⟨earlier, later, pos, rfl, is, isPos, allEarlier, stops⟩ :=
    @timerPlace_spec { heap with
        fd := Function.update heap.fd ev (-1)
        timeout := Function.update heap.timeout ev (timeradd now tv) }
      (timeradd now tv) [] timers lists.timerRing list isList fuel enough
  obtain ⟨inserted, isInserted, added⟩ := lists.insertTimer null isPos
  have others : ∀ other ∈ earlier ++ later,
      Function.update heap.timeout ev (timeradd now tv) other = heap.timeout other := by
    intro other isMem
    refine Function.update_of_ne ?_ _ _
    rintro rfl
    exact freshTimer (List.mem_cons_of_mem _ isMem)
  refine ⟨{ heap with
      links := inserted
      fd := Function.update heap.fd ev (-1)
      timeout := Function.update heap.timeout ev (timeradd now tv) },
    earlier, later, ?_, rfl, added, rfl, rfl, ?_, ?_⟩
  · rw [rilTimerAdd, lists.timerRing.next_head, isList]
    simp only [Option.bind_eq_bind, Option.bind_some, is, addToList, isInserted]
    rfl
  · intro other isMem
    rw [← others other (List.mem_append_left _ isMem)]
    exact allEarlier other isMem
  · intro other isFirst
    rw [← others other (List.mem_append_right _ (List.mem_of_mem_head? isFirst))]
    exact stops other isFirst

/-- The loop of `processTimeouts` moves the timers at the front that are due. -/
theorem processTimeoutsFrom_spec (now : Timeval) (lists : EventLists heap.links timers pending)
    {tev : EventPtr} (first : (timers ++ [EventPtr.timerList]).head? = some tev) {fuel : Nat}
    (enough : timers.length < fuel) :
    ∃ moved due rest, processTimeoutsFrom now fuel tev heap = some moved ∧
      timers = due ++ rest ∧ EventLists moved.links rest (pending ++ due) ∧
      moved.timeout = heap.timeout ∧ moved.fd = heap.fd ∧
      (∀ ev ∈ due, heap.timeout ev < now) ∧ ∀ ev ∈ rest.head?, now ≤ heap.timeout ev := by
  induction timers generalizing heap pending tev fuel with
  | nil =>
      obtain ⟨fuel, rfl⟩ := Nat.exists_eq_add_of_lt enough
      obtain rfl : EventPtr.timerList = tev := Option.some.inj first
      refine ⟨heap, [], [], by simp [processTimeoutsFrom], rfl, ?_, rfl, rfl, by simp, by simp⟩
      rwa [List.append_nil]
  | cons ev timers ih =>
      obtain ⟨fuel, rfl⟩ := Nat.exists_eq_add_of_lt enough
      obtain rfl : ev = tev := Option.some.inj first
      have notHead : ev ≠ .timerList := by
        rintro rfl
        simpa using lists.timerRing.1
      rw [processTimeoutsFrom]
      split
      case isTrue isDue =>
          have dueHere : heap.timeout ev < now := by
            simpa [notHead] using isDue
          obtain ⟨next, isNext⟩ : ∃ next, (timers ++ [EventPtr.timerList]).head? = some next :=
            Option.isSome_iff_exists.mp (by simp)
          have behind := @Links.Ring.next_node _ heap.links .timerList [] timers ev lists.timerRing
          obtain ⟨removed, isRemoved, without, cleared⟩ := lists.removeTimer
          obtain ⟨appended, isAppended, behindPending⟩ := without.appendPending cleared
          obtain ⟨moved, due, rest, is, rfl, final, timeout, fd, allDue, stops⟩ :=
            @ih { heap with links := appended } (pending ++ [ev]) behindPending next isNext
              ((ev :: timers).length + fuel) (by rw [List.length_cons]; omega)
          refine ⟨moved, ev :: due, rest, ?_, rfl, ?_, timeout, fd, ?_, stops⟩
          · rw [behind, isNext]
            simp only [Option.bind_eq_bind, Option.bind_some, removeFromList, isRemoved,
              addToList, isAppended, Option.map_some]
            exact is
          · rwa [List.append_cons]
          · exact List.forall_mem_cons.mpr ⟨dueHere, allDue⟩
      case isFalse notDue =>
          refine ⟨heap, [], ev :: timers, rfl, rfl, ?_, rfl, rfl, by simp, ?_⟩
          · rwa [List.append_nil]
          · simpa [notHead] using notDue

theorem processTimeouts_spec (now : Timeval) (lists : EventLists heap.links timers pending)
    {fuel : Nat} (enough : timers.length < fuel) :
    ∃ moved due rest, processTimeouts fuel now heap = some moved ∧
      timers = due ++ rest ∧ EventLists moved.links rest (pending ++ due) ∧
      moved.timeout = heap.timeout ∧ moved.fd = heap.fd ∧
      (∀ ev ∈ due, heap.timeout ev < now) ∧ ∀ ev ∈ rest.head?, now ≤ heap.timeout ev := by
  obtain ⟨tev, isFirst⟩ : ∃ tev, (timers ++ [EventPtr.timerList]).head? = some tev :=
    Option.isSome_iff_exists.mp (by simp)
  rw [processTimeouts, lists.timerRing.next_head, isFirst]
  exact processTimeoutsFrom_spec now lists isFirst enough

/-- The watches that are ready are put behind the timers that are due. -/
theorem processReadReadies_spec (lists : EventLists heap.links timers pending)
    {ready : List Nat} (nodup : ready.Nodup)
    (null : ∀ address ∈ ready, heap.links.next (.watch address) = none) :
    ∃ moved, processReadReadies ready heap = some moved ∧
      EventLists moved.links timers (pending ++ ready.map EventPtr.watch) ∧
      moved.timeout = heap.timeout ∧ moved.fd = heap.fd := by
  induction ready generalizing heap pending with
  | nil =>
      refine ⟨heap, rfl, ?_, rfl, rfl⟩
      rwa [List.map_nil, List.append_nil]
  | cons address rest ih =>
      obtain ⟨notRest, nodupRest⟩ := List.nodup_cons.mp nodup
      obtain ⟨nullHere, nullRest⟩ := List.forall_mem_cons.mp null
      obtain ⟨appended, isAppended, behind⟩ := lists.appendPending nullHere
      have stillNull : ∀ other ∈ rest, appended.next (.watch other) = none := by
        intro other isMem
        obtain ⟨notTimer, notPending⟩ := lists.notMem (nullRest other isMem)
        refine behind.unlinked _ notTimer ?_
        have otherAddress : other ≠ address := by
          rintro rfl
          exact notRest isMem
        simp only [List.mem_cons, List.mem_append, EventPtr.watch.injEq] at notPending ⊢
        tauto
      obtain ⟨moved, is, final, timeout, fd⟩ :=
        @ih { heap with links := appended }
          (pending ++ [.watch address]) behind nodupRest stillNull
      refine ⟨moved, ?_, ?_, timeout, fd⟩
      · rw [processReadReadies, addToList, isAppended]
        exact is
      · rwa [List.map_cons, List.append_cons]

/-- `select` waits for the first timer, whose deadline is the earliest. -/
theorem calcNextTimeout_spec (now : Timeval) (lists : EventLists heap.links timers pending) :
    calcNextTimeout now heap =
      some (timers.head?.map fun first =>
        if now < heap.timeout first then timersub (heap.timeout first) now else ⟨0, 0⟩) := by
  rw [calcNextTimeout, lists.timerRing.next_head]
  cases timers with
  | nil => rfl
  | cons first rest =>
      have notHead : first ≠ .timerList := by
        rintro rfl
        simpa using lists.timerRing.1
      simp only [List.cons_append, List.head?_cons, Option.bind_eq_bind, Option.bind_some,
        if_neg notHead, timercmpLt_iff, Option.map_some]
      split
      case isTrue _ => rfl
      case isFalse _ => rfl

end Heap

end X3Hal.Ril
