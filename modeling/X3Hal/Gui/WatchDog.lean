import X3Hal.Registry.KeyedVector
import X3Hal.Transition.Core
import Mathlib.Algebra.Order.Ring.Int
import Mathlib.Logic.Function.Basic
import Mathlib.Tactic.Common

/-!
# The software watchdog

Threads set and delete anchors in the table of `SWWatchDogTimer`; its own thread goes through the
table and reports the anchors that are too old.  The recipients of an anchor see when it is set,
when it is too old and when it is deleted.

The steps lie where a thread takes or gives up a lock.  `dump` only reads, and an `AutoWDT` sets
and deletes like any other caller.
-/

namespace X3Hal.Gui

open X3Hal.Transition X3Hal.Registry

universe u v w

variable {Tid : Type u} {Dog : Type v} {Recipient : Type w}

/-! ## Anchors -/

/-- `NO_ANCHOR` -/
def noAnchor : Nat := 0

/-- `DEFAULT_TIMER`, in milliseconds -/
def defaultTimer : Int := 1000

/-- `ms2ns` -/
def ms2ns (time : Int) : Int :=
  time * 1000000

/-- A `WDTAnchor`; its address is its id. -/
structure WdtAnchor (Tid : Type u) (Recipient : Type w) where
  anchorTime : Int
  threshold : Int
  msg : String
  tid : Tid
  notify : Recipient
  deriving DecidableEq

/-- `isTimeout`, with what `systemTime` gives where it reads the time itself -/
def WdtAnchor.isTimeout (anchor : WdtAnchor Tid Recipient) (now systemTime : Int) : Bool :=
  let now := if now = 0 then systemTime else now
  anchor.anchorTime ≠ 0 ∧ anchor.threshold < now - anchor.anchorTime

/-- A `SWWatchDog`; `mDataLock` is held through a call of `setAnchor`. -/
structure SwWatchDog (Recipient : Type w) where
  threshold : Int
  notify : Option Recipient
  dataLock : Bool
  deriving DecidableEq

/-! ## The threads -/

/-- Where a thread is that sets or deletes an anchor. -/
inductive ClientPoint (Tid : Type u) (Dog : Type v) (Recipient : Type w)
  | idle
  /-- `setAnchor` before `onSetAnchor` -/
  | setting (dog : Dog) (id : Nat) (anchor : WdtAnchor Tid Recipient)
  /-- `setAnchor` before it adds to the table -/
  | adding (dog : Dog) (id : Nat) (anchor : WdtAnchor Tid Recipient)
  /-- `delAnchor` before it removes from the table -/
  | removing (id : Nat) (anchor : WdtAnchor Tid Recipient)
  /-- `delAnchor` before `onDelAnchor` -/
  | removed (id : Nat) (anchor : WdtAnchor Tid Recipient)
  deriving DecidableEq

/-- Where the thread of the timer is in `threadLoop`. -/
inductive LoopPoint
  | top
  /-- in `mCondition.wait` -/
  | suspended
  /-- before the check of `exitPending` -/
  | awake
  /-- before it takes `mTableLock` -/
  | locking (now : Int)
  /-- in the loop over the table, with `mTableLock` -/
  | scanning (now : Int) (idx : Nat)
  /-- before `onTick` -/
  | ticking (now : Int)
  /-- before the second check of `exitPending` -/
  | pausing
  /-- in `mCondition.waitRelative` -/
  | sleeping
  | done
  deriving DecidableEq

structure WatchDogState (Tid : Type u) (Dog : Type v) (Recipient : Type w) where
  /-- `mAnchorTable` -/
  anchorTable : KeyedVector Nat (WdtAnchor Tid Recipient)
  tickNotify : Option Recipient
  suspend : Bool
  timer : Int
  exitPending : Bool
  loop : LoopPoint
  clients : Tid → ClientPoint Tid Dog Recipient
  dogs : Dog → SwWatchDog Recipient
  /-- the addresses of the anchors that are allocated -/
  objects : List Nat
  /-- a time that no later `systemTime` is before -/
  clock : Int

/-- What the recipients see, with the fields of the anchor that their arguments are, and what the
callers get. -/
inductive WatchDogOutput (Tid : Type u) (Recipient : Type w)
  | onSetAnchor (id : Nat) (anchor : WdtAnchor Tid Recipient)
  | onDelAnchor (id : Nat) (anchor : WdtAnchor Tid Recipient) (now : Int)
  | onTimeout (id : Nat) (anchor : WdtAnchor Tid Recipient) (now : Int)
  | onTick (notify : Recipient) (now : Int)
  | setReturned (tid : Tid) (id : Nat)
  | delReturned (tid : Tid) (id : Nat) (deleted : Bool)
  deriving DecidableEq

inductive WatchDogEvent (Tid : Type u) (Dog : Type v) (Recipient : Type w)
  /-- `setAnchor`, with the address that `new` gives and the time of the anchor -/
  | setAnchor (tid : Tid) (dog : Dog) (msg : String) (threshold : Int) (object : Option Nat)
      (now : Int)
  /-- `delAnchor` -/
  | delAnchor (tid : Tid) (id : Nat)
  /-- a thread goes on in `setAnchor` or `delAnchor` -/
  | client (tid : Tid) (now : Int)
  /-- the thread of the timer goes on -/
  | loop (now : Int)
  /-- a wait of the timer ends -/
  | wake
  | suspend
  | resume
  | requestExit
  | setTimer (timer : Int)
  | setTickNotify (notify : Option Recipient)
  | setWdtNotify (dog : Dog) (notify : Option Recipient)
  | setThreshold (dog : Dog) (threshold : Int)

section Steps

variable [DecidableEq Tid] [DecidableEq Dog]

namespace WatchDogState

def goTo (tid : Tid) (point : ClientPoint Tid Dog Recipient)
    (state : WatchDogState Tid Dog Recipient) : WatchDogState Tid Dog Recipient :=
  { state with clients := Function.update state.clients tid point }

def setDog (dog : Dog) (value : SwWatchDog Recipient) (state : WatchDogState Tid Dog Recipient) :
    WatchDogState Tid Dog Recipient :=
  { state with dogs := Function.update state.dogs dog value }

/-- `SWWatchDogTimer::setAnchor` up to `onSetAnchor`; the caller has the lock of the watchdog. -/
def timerSetAnchor (tid : Tid) (dog : Dog) (notify : Option Recipient) (threshold : Int)
    (msg : String) (object : Option Nat) (now : Int) (state : WatchDogState Tid Dog Recipient) :
    Option (WatchDogState Tid Dog Recipient × List (WatchDogOutput Tid Recipient)) :=
  match notify, object with
  | none, _ => some (state, [.setReturned tid noAnchor])
  | some _, none => some (state, [.setReturned tid noAnchor])
  | some notify, some id =>
      if id = noAnchor ∨ id ∈ state.objects ∨ now < state.clock then none
      else
        let locked := state.setDog dog { state.dogs dog with dataLock := true }
        some ({ locked.goTo tid (.setting dog id ⟨now, threshold, msg, tid, notify⟩) with
          objects := id :: state.objects, clock := now }, [])

/-- `SWWatchDog::setAnchor` -/
def setAnchor (tid : Tid) (dog : Dog) (msg : String) (threshold : Int) (object : Option Nat)
    (now : Int) (state : WatchDogState Tid Dog Recipient) :
    Option (WatchDogState Tid Dog Recipient × List (WatchDogOutput Tid Recipient)) :=
  match state.clients tid, (state.dogs dog).dataLock with
  | .idle, false =>
      let limit := if threshold ≥ 0 then ms2ns threshold else (state.dogs dog).threshold
      state.timerSetAnchor tid dog (state.dogs dog).notify limit msg object now
  | _, _ => none

/-- `delAnchor` with the lock for reading; the loop over the table does not keep it out. -/
def delAnchor (tid : Tid) (id : Nat) (state : WatchDogState Tid Dog Recipient) :
    Option (WatchDogState Tid Dog Recipient × List (WatchDogOutput Tid Recipient)) :=
  match state.clients tid with
  | .idle =>
      match state.anchorTable.valueFor id with
      | none => some (state, [.delReturned tid id false])
      | some anchor =>
          if anchor.tid ≠ tid then some (state, [.delReturned tid id false])
          else some (state.goTo tid (.removing id anchor), [])
  | _ => none

/-- Whether the timer has `mTableLock`. -/
def tableRead (state : WatchDogState Tid Dog Recipient) : Bool :=
  match state.loop with
  | .scanning _ _ => true
  | _ => false

/-- The rest of `setAnchor` and `delAnchor`; the table is changed with the lock for writing. -/
def client (tid : Tid) (now : Int) (state : WatchDogState Tid Dog Recipient) :
    Option (WatchDogState Tid Dog Recipient × List (WatchDogOutput Tid Recipient)) :=
  match state.clients tid with
  | .idle => none
  | .setting dog id anchor =>
      some (state.goTo tid (.adding dog id anchor), [.onSetAnchor id anchor])
  | .adding dog id anchor =>
      if state.tableRead then none
      else
        let returned := (state.setDog dog { state.dogs dog with dataLock := false }).goTo tid .idle
        some ({ returned with anchorTable := state.anchorTable.add id anchor },
          [.setReturned tid id])
  | .removing id anchor =>
      if state.tableRead then none
      else
        some ({ state.goTo tid (.removed id anchor) with
          anchorTable := state.anchorTable.removeItem id }, [])
  | .removed id anchor =>
      if now < state.clock then none
      else
        some ({ state.goTo tid .idle with objects := state.objects.erase id, clock := now },
          [.onDelAnchor id anchor now, .delReturned tid id true])

/-- One round of the loop over the table: every anchor has a recipient. -/
def scan (now systemTime : Int) (entry : Nat × WdtAnchor Tid Recipient) :
    List (WatchDogOutput Tid Recipient) :=
  if entry.2.isTimeout now systemTime then [.onTimeout entry.1 entry.2 now] else []

/-- `threadLoop` -/
def threadLoop (systemTime : Int) (state : WatchDogState Tid Dog Recipient) :
    Option (WatchDogState Tid Dog Recipient × List (WatchDogOutput Tid Recipient)) :=
  match state.loop with
  | .top => some ({ state with loop := if state.suspend then .suspended else .awake }, [])
  | .awake =>
      if state.exitPending then some ({ state with loop := .done }, [])
      else if systemTime < state.clock then none
      else some ({ state with loop := .locking systemTime, clock := systemTime }, [])
  | .locking now => some ({ state with loop := .scanning now 0 }, [])
  | .scanning now idx =>
      match state.anchorTable.entries[idx]? with
      | some entry =>
          some ({ state with loop := .scanning now (idx + 1) }, scan now systemTime entry)
      | none => some ({ state with loop := .ticking now }, [])
  | .ticking now =>
      some ({ state with loop := .pausing }, (state.tickNotify.map (.onTick · now)).toList)
  | .pausing => some ({ state with loop := if state.exitPending then .done else .sleeping }, [])
  | .suspended | .sleeping | .done => none

/-- A wait ends by a signal, by itself or when its time is over. -/
def wake (state : WatchDogState Tid Dog Recipient) : Option (WatchDogState Tid Dog Recipient) :=
  match state.loop with
  | .suspended => some { state with loop := .awake }
  | .sleeping => some { state with loop := .top }
  | _ => none

/-- A setter of a watchdog waits for its lock. -/
def setOf (dog : Dog) (change : SwWatchDog Recipient → SwWatchDog Recipient)
    (state : WatchDogState Tid Dog Recipient) : Option (WatchDogState Tid Dog Recipient) :=
  if (state.dogs dog).dataLock then none
  else some (state.setDog dog (change (state.dogs dog)))

/-- One step of one thread. -/
def step (state : WatchDogState Tid Dog Recipient) :
    WatchDogEvent Tid Dog Recipient →
      Option (WatchDogState Tid Dog Recipient × List (WatchDogOutput Tid Recipient))
  | .setAnchor tid dog msg threshold object now =>
      state.setAnchor tid dog msg threshold object now
  | .delAnchor tid id => state.delAnchor tid id
  | .client tid now => state.client tid now
  | .loop now => state.threadLoop now
  | .wake => state.wake.map (·, [])
  | .suspend => some ({ state with suspend := true }, [])
  -- the signal of `resume` may end a wait, which is a step of its own
  | .resume => some ({ state with suspend := false }, [])
  | .requestExit => some ({ state with exitPending := true }, [])
  | .setTimer timer => some ({ state with timer := ms2ns timer }, [])
  | .setTickNotify notify => some ({ state with tickNotify := notify }, [])
  | .setWdtNotify dog notify => (state.setOf dog ({ · with notify := notify })).map (·, [])
  | .setThreshold dog threshold =>
      (state.setOf dog ({ · with threshold := ms2ns threshold })).map (·, [])

/-- The timer starts with an empty table; the monotonic clock has left zero. -/
structure Starts (state : WatchDogState Tid Dog Recipient) : Prop where
  table : state.anchorTable = .empty
  timer : state.timer = ms2ns defaultTimer
  loop : state.loop = .top
  clients : ∀ tid, state.clients tid = .idle
  dogs : ∀ dog, (state.dogs dog).dataLock = false
  objects : state.objects = []
  clock : 0 < state.clock

end WatchDogState

/-- The watchdog of a process. -/
def watchDog : System (WatchDogState Tid Dog Recipient) (WatchDogEvent Tid Dog Recipient)
    (WatchDogOutput Tid Recipient) where
  Init := WatchDogState.Starts
  step := WatchDogState.step

end Steps

end X3Hal.Gui
