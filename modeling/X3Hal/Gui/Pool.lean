import X3Hal.Registry.KeyedVector
import X3Hal.Transition.Core
import Mathlib.Algebra.Order.Ring.Int
import Mathlib.Data.List.Nodup
import Mathlib.Data.List.Perm.Subperm
import Mathlib.Data.Nat.Basic
import Mathlib.Logic.Function.Basic
import Mathlib.Tactic.Common

/-!
# Pools of buffers

`GuiExtPool` keeps the pools that producers allocate.  Consumers acquire the buffers of a pool
and release them; a pool leaves the list when its producer and its consumers are gone.

The buffers belong to queues that are not modelled: no queue is made for the GPU, and the queue
of a display only has its number of buffers.  A binder dies together with the notices of its
death.
-/

namespace X3Hal.Gui

open X3Hal.Transition X3Hal.Registry

universe u

variable {Token : Type u}

/-! ## The pool item -/

/-- `GUI_EXT_USAGE_HWC` -/
def guiExtUsageHwc : Nat := 1

/-- `GUI_EXT_USAGE_MAX` -/
def guiExtUsageMax : Nat := 2

/-- `HWC_NUM_DISPLAY_TYPES` -/
def hwcNumDisplayTypes : Nat := 3

/-- `POOL_COMBINED_ID`, of 32 bits -/
def poolCombinedId (usage type idx : Nat) : Nat :=
  ((usage <<< 6) ||| (type <<< 3) ||| idx) % 2 ^ 32

/-- An `int` where an unsigned number is wanted. -/
def toUint32 (value : Int) : Nat :=
  (value % 2 ^ 32).toNat

structure ConsumerSlot (Token : Type u) where
  usage : Nat
  type : Nat
  idx : Nat
  /-- The death observer of a slot is there with its token. -/
  token : Option Token
  deriving DecidableEq

structure PoolItem (Token : Type u) where
  /-- which allocation it is -/
  number : Nat
  id : Nat
  isHwcNeeded : Bool
  producerToken : Option Token
  /-- `mHwcUsedBqList`: the number of buffers for a display type -/
  hwcUsedBqList : KeyedVector Nat Nat
  consumerList : KeyedVector Nat (ConsumerSlot Token)
  /-- `mIsDisconnected`, by usage -/
  isDisconnected : List Bool

inductive PoolStatus
  | noError | invalidOperation | badIndex
  deriving DecidableEq

namespace PoolItem

/-- The slots of one queue; a slot that is there stays. -/
def prepareQueue (usage type bufNum : Nat) (slots : KeyedVector Nat (ConsumerSlot Token)) :
    KeyedVector Nat (ConsumerSlot Token) :=
  (List.range bufNum).foldl
    (fun slots idx =>
      match slots.valueFor (poolCombinedId usage type idx) with
      | some _ => slots
      | none => slots.add (poolCombinedId usage type idx) ⟨usage, type, idx, none⟩)
    slots

/-- `prepareBuffer` -/
def prepareBuffer (queues : KeyedVector Nat Nat) : KeyedVector Nat (ConsumerSlot Token) :=
  queues.entries.foldl
    (fun slots queue => prepareQueue guiExtUsageHwc queue.1 queue.2 slots) .empty

/-- The constructor and `prepareBuffer`, for the displays of an `alloc`. -/
def new (number id : Nat) (token : Token) (isHwcNeeded : Bool) (displays : KeyedVector Nat Nat) :
    PoolItem Token :=
  let queues := if isHwcNeeded then displays else .empty
  ⟨number, id, isHwcNeeded, some token, queues, prepareBuffer queues,
    List.replicate guiExtUsageMax true⟩

/-- Whether `getIGraphicBufferProducer` finds a queue. -/
def hasProducer (usage type : Nat) (item : PoolItem Token) : Bool :=
  usage = guiExtUsageHwc ∧ type < hwcNumDisplayTypes ∧ (item.hwcUsedBqList.valueFor type).isSome

/-- What stops `acquire` and `release` before they look for a slot. -/
def check (usage type : Nat) (item : PoolItem Token) : PoolStatus :=
  if item.isHwcNeeded = false ∧ usage = guiExtUsageHwc then .invalidOperation
  else if item.hasProducer usage type then .noError
  else .badIndex

/-- The slot that a buffer index names. -/
def slot (usage type : Nat) (buf : Int) (item : PoolItem Token) : Option (ConsumerSlot Token) :=
  item.consumerList.valueFor (poolCombinedId usage type (toUint32 buf))

def putSlot (usage type : Nat) (buf : Int) (token : Option Token) (item : PoolItem Token) :
    PoolItem Token :=
  { item with
    consumerList := item.consumerList.add (poolCombinedId usage type (toUint32 buf))
      ⟨usage, type, toUint32 buf, token⟩ }

def acquire (token : Token) (usage type : Nat) (buf : Int) (item : PoolItem Token) :
    PoolStatus × PoolItem Token :=
  match item.check usage type, item.slot usage type buf with
  | .noError, some slot =>
      -- a slot that is taken stays as it is
      let taken := if slot.token.isNone then item.putSlot usage type buf (some token) else item
      (.noError, { taken with isDisconnected := item.isDisconnected.set usage false })
  | .noError, none => (.badIndex, item)
  | status, _ => (status, item)

def release (usage type : Nat) (buf : Int) (item : PoolItem Token) :
    PoolStatus × PoolItem Token :=
  match item.check usage type, item.slot usage type buf with
  | .noError, some slot =>
      (.noError, { item with
        consumerList := item.consumerList.add (poolCombinedId usage type (toUint32 buf))
          { slot with token := none } })
  | status, _ => (status, item)

def disconnect (usage : Nat) (item : PoolItem Token) : PoolStatus × PoolItem Token :=
  if item.isHwcNeeded = false ∧ usage = guiExtUsageHwc then (.invalidOperation, item)
  else (.noError, { item with isDisconnected := item.isDisconnected.set usage true })

/-- Whether `removePoolItemLocked` removes it. -/
def removable (item : PoolItem Token) : Bool :=
  item.isDisconnected.all (fun disconnected => disconnected) && item.producerToken.isNone

/-- The slots of an item. -/
def slots (item : PoolItem Token) : List (ConsumerSlot Token) :=
  item.consumerList.entries.map Prod.snd

variable [DecidableEq Token]

/-- Whether a slot has an observer of the binder. -/
def observes (token : Token) (item : PoolItem Token) : Bool :=
  item.slots.any fun slot => slot.token = some token

/-- The slots without a token. -/
def clearToken (token : Token) (item : PoolItem Token) : PoolItem Token :=
  { item with
    consumerList := item.consumerList.modify fun slot =>
      some (if slot.token = some token then { slot with token := none } else slot) }

/-- `mIsDisconnected` as the tokens of the slots have it. -/
def disconnectedBySlots (item : PoolItem Token) : List Bool :=
  item.slots.foldl
    (fun flags slot => if slot.token.isSome then flags.set slot.usage false else flags)
    (List.replicate guiExtUsageMax true)

/-- `ConsumerDeathObserver::binderDied`, with whether its listener removes the item -/
def consumerDied (token : Token) (item : PoolItem Token) : Bool × PoolItem Token :=
  if item.observes token then
    let cleared := item.clearToken token
    let counted := { cleared with isDisconnected := cleared.disconnectedBySlots }
    (cleared.slots.all (fun slot => slot.token.isNone) && counted.removable, counted)
  else (false, item)

/-- What the notices of a death leave of an item. -/
def binderDied (token : Token) (item : PoolItem Token) : Option (PoolItem Token) :=
  match item.consumerDied token with
  | (true, _) => none
  | (false, left) =>
      -- `ProducerDeathObserver::binderDied`
      if left.producerToken = some token then
        let freed := { left with producerToken := none }
        if freed.removable then none else some freed
      else some left

end PoolItem

/-! ## The pool -/

/-- `MAX_ALLOC_SIZE` -/
def maxAllocSize : Nat := 10

/-- `MAX_HWC_DEQUEUED_NUM` -/
def maxHwcDequeuedNum : Nat := 3

/-- `HWC_DISPLAY_PRIMARY` -/
def hwcDisplayPrimary : Nat := 0

structure PoolState (Token : Type u) where
  /-- `mPoolId` -/
  poolId : Nat
  /-- `mPoolList` -/
  pools : KeyedVector Nat (PoolItem Token)
  /-- `mDisplayList`: the number of buffers for a display type -/
  displays : KeyedVector Nat Nat
  dead : Token → Bool
  /-- the number of pools so far -/
  allocs : Nat

/-- `getPoolId`, with the number of ids that it may look at -/
def getPoolId (pools : KeyedVector Nat (PoolItem Token)) : Nat → Nat → Option Nat
  | 0, _ => none
  | looks + 1, poolId =>
      let next := (poolId + 1) % maxAllocSize
      let id := if next = 0 then maxAllocSize else next
      match pools.valueFor id with
      | some _ => getPoolId pools looks next
      | none => some id

def removePoolItemLocked (id : Nat) (pools : KeyedVector Nat (PoolItem Token)) :
    KeyedVector Nat (PoolItem Token) :=
  match pools.valueFor id with
  | some item => if item.removable then pools.removeItem id else pools
  | none => pools

/-- `configDisplay` -/
def configDisplay (type : Nat) (enable : Bool) (w h bufNum : Nat)
    (displays : KeyedVector Nat Nat) : KeyedVector Nat Nat :=
  if enable = false ∨ w = 0 ∨ h = 0 ∨ bufNum = 0 then displays.removeItem type
  else displays.add type bufNum

inductive PoolEvent (Token : Type u)
  | configDisplay (type : Nat) (enable : Bool) (w h bufNum : Nat)
  /-- `isHwcNeeded` is a bit of `gralloc_usage`. -/
  | alloc (token : Token) (isHwcNeeded : Bool)
  | free (poolId : Nat)
  | acquire (token : Token) (poolId usage type : Nat) (buf : Int)
  | release (poolId usage type : Nat) (buf : Int)
  /-- with the consumer that calls -/
  | disconnect (token : Token) (poolId usage type : Nat)
  | dies (token : Token)
  deriving DecidableEq

inductive PoolOutput (Token : Type u)
  | allocated (number : Nat) (token : Token)
  | freed (number : Nat)
  /-- `acquire` has returned `NO_ERROR`, with the slot of the buffer before and after. -/
  | acquired (number : Nat) (token : Token) (usage type : Nat) (buf : Int)
      (before after : Option (ConsumerSlot Token))
  /-- `acquire` has failed, with the item before and after. -/
  | refused (before after : PoolItem Token)
  | released (number usage type : Nat) (buf : Int)
  | disconnected (number : Nat) (token : Token) (usage : Nat)
  | died (token : Token)

namespace PoolState

/-- An item as a call leaves it. -/
def put (item : PoolItem Token) (state : PoolState Token) : PoolState Token :=
  { state with pools := state.pools.add item.id item }

/-- An item as a call leaves it that may remove it. -/
def putOrRemove (item : PoolItem Token) (state : PoolState Token) : PoolState Token :=
  { state with pools := removePoolItemLocked item.id (state.pools.add item.id item) }

/-- The displays of an `alloc`; the first pool has the default display. -/
def allocDisplays (state : PoolState Token) : KeyedVector Nat Nat :=
  if state.pools.size = 0 then state.displays.add hwcDisplayPrimary maxHwcDequeuedNum
  else state.displays

def alloc (token : Token) (isHwcNeeded : Bool) (state : PoolState Token) :
    Option (PoolState Token × List (PoolOutput Token)) :=
  -- `NOT_ENOUGH_DATA`
  if state.pools.size ≥ maxAllocSize then some (state, [])
  else
    let displays := state.allocDisplays
    (getPoolId state.pools maxAllocSize state.poolId).map fun id =>
      let item := PoolItem.new state.allocs id token isHwcNeeded displays
      ({ state.put item with poolId := id, displays := displays, allocs := state.allocs + 1 },
        [.allocated state.allocs token])

def acquire (token : Token) (poolId usage type : Nat) (buf : Int) (state : PoolState Token) :
    PoolState Token × List (PoolOutput Token) :=
  match state.pools.valueFor poolId with
  | some item =>
      match item.acquire token usage type buf with
      | (.noError, taken) =>
          (state.put taken, [.acquired item.number token usage type buf
            (item.slot usage type buf) (taken.slot usage type buf)])
      | (_, left) => (state.put left, [.refused item left])
  | none => (state, [])

variable [DecidableEq Token]

def step (state : PoolState Token) :
    PoolEvent Token → Option (PoolState Token × List (PoolOutput Token))
  | .configDisplay type enable w h bufNum =>
      some ({ state with displays := configDisplay type enable w h bufNum state.displays }, [])
  | .alloc token isHwcNeeded => state.alloc token isHwcNeeded
  | .free poolId =>
      match state.pools.valueFor poolId with
      | some item =>
          some (state.putOrRemove { item with producerToken := none }, [.freed item.number])
      | none => some (state, [])
  | .acquire token poolId usage type buf => some (state.acquire token poolId usage type buf)
  | .release poolId usage type buf =>
      match state.pools.valueFor poolId with
      | some item =>
          match item.release usage type buf with
          | (.noError, left) => some (state.put left, [.released item.number usage type buf])
          | (_, left) => some (state.put left, [])
      | none => some (state, [])
  | .disconnect token poolId usage _ =>
      match state.pools.valueFor poolId with
      | some item =>
          match item.disconnect usage with
          | (.noError, left) =>
              some (state.putOrRemove left, [.disconnected item.number token usage])
          | (_, left) => some (state.putOrRemove left, [])
      | none => some (state, [])
  | .dies token =>
      if state.dead token then none
      else
        some ({ state with
          pools := state.pools.modify (PoolItem.binderDied token)
          dead := Function.update state.dead token true }, [.died token])

end PoolState

def poolInit : PoolState Token :=
  ⟨0, .empty, .empty, fun _ => false, 0⟩

def poolSystem (Token : Type u) [DecidableEq Token] :
    System (PoolState Token) (PoolEvent Token) (PoolOutput Token) where
  Init := fun state => state = poolInit
  step := PoolState.step

/-! ## What a call does to an item -/

namespace PoolItem

/-- A slot of a buffer of a queue, as it is prepared. -/
def Prepared (queues : KeyedVector Nat Nat) (key : Nat) (slot : ConsumerSlot Token) : Prop :=
  slot.usage = guiExtUsageHwc ∧ slot.token = none ∧
    key = poolCombinedId slot.usage slot.type slot.idx ∧
    ∃ bufNum, queues.valueFor slot.type = some bufNum ∧ slot.idx < bufNum

theorem prepared_of_prepareQueue {queues : KeyedVector Nat Nat} {type bufNum : Nat}
    {slots : KeyedVector Nat (ConsumerSlot Token)} (queue : queues.valueFor type = some bufNum)
    (prepared : ∀ key slot, slots.valueFor key = some slot → Prepared queues key slot)
    (indices : List Nat) (small : ∀ idx ∈ indices, idx < bufNum) :
    ∀ key slot, (indices.foldl
      (fun slots idx =>
        match slots.valueFor (poolCombinedId guiExtUsageHwc type idx) with
        | some _ => slots
        | none => slots.add (poolCombinedId guiExtUsageHwc type idx)
            ⟨guiExtUsageHwc, type, idx, none⟩) slots).valueFor key = some slot →
      Prepared queues key slot := by
  induction indices generalizing slots with
  | nil => exact prepared
  | cons idx indices ih =>
      rw [List.foldl_cons]
      apply ih _ fun other occurs => small other (List.mem_cons_of_mem idx occurs)
      intro key slot found
      split at found
      · exact prepared key slot found
      · rw [KeyedVector.valueFor_add] at found
        split at found
        case isTrue same =>
          cases found
          exact ⟨rfl, rfl, same, bufNum, queue, small idx List.mem_cons_self⟩
        case isFalse => exact prepared key slot found

theorem prepared_of_prepareBuffer {queues : KeyedVector Nat Nat} {key : Nat}
    {slot : ConsumerSlot Token} (found : (prepareBuffer queues).valueFor key = some slot) :
    Prepared queues key slot := by
  have step : ∀ (entries : List (Nat × Nat)) (slots : KeyedVector Nat (ConsumerSlot Token)),
      (∀ entry ∈ entries, queues.valueFor entry.1 = some entry.2) →
      (∀ key slot, slots.valueFor key = some slot → Prepared queues key slot) →
      ∀ key slot, (entries.foldl
        (fun slots queue => prepareQueue guiExtUsageHwc queue.1 queue.2 slots) slots).valueFor
          key = some slot → Prepared queues key slot := by
    intro entries
    induction entries with
    | nil => exact fun slots _ prepared => prepared
    | cons entry entries ih =>
        intro slots found prepared
        rw [List.foldl_cons]
        apply ih _ fun other occurs => found other (List.mem_cons_of_mem entry occurs)
        exact prepared_of_prepareQueue (found entry List.mem_cons_self) prepared _
          fun idx => List.mem_range.mp
  apply step queues.entries .empty _ nofun key slot found
  exact fun entry occurs => KeyedVector.valueFor_eq_some_iff.mpr occurs

variable {item after : PoolItem Token} {token : Token} {usage type : Nat} {buf : Int}
  {status : PoolStatus}

theorem usage_of_check (passes : item.check usage type = .noError) : usage = guiExtUsageHwc := by
  rw [check] at passes
  split at passes
  · cases passes
  · split at passes
    case isTrue found =>
      simp only [hasProducer, decide_eq_true_eq] at found
      exact found.1
    case isFalse => cases passes

/-- An `acquire` that succeeds has found a slot, which it takes if it is free. -/
theorem acquire_noError (acquired : item.acquire token usage type buf = (.noError, after)) :
    item.check usage type = .noError ∧ ∃ slot, item.slot usage type buf = some slot ∧
      after = { (if slot.token.isNone then item.putSlot usage type buf (some token) else item) with
        isDisconnected := item.isDisconnected.set usage false } := by
  cases passes : item.check usage type with
  | noError =>
      cases found : item.slot usage type buf with
      | some slot =>
          simp only [acquire, passes, found] at acquired
          cases acquired
          exact ⟨rfl, slot, rfl, rfl⟩
      | none => simp [acquire, passes, found] at acquired
  | invalidOperation => simp [acquire, passes] at acquired
  | badIndex => simp [acquire, passes] at acquired

/-- An `acquire` that fails leaves the item as it is. -/
theorem acquire_of_fails (acquired : item.acquire token usage type buf = (status, after))
    (fails : status ≠ .noError) : after = item := by
  rw [acquire] at acquired
  split at acquired
  · cases acquired
    exact absurd rfl fails
  · cases acquired
    rfl
  · cases acquired
    rfl

/-- A `release` frees the slot that it finds, or leaves the item as it is. -/
theorem release_cases (released : item.release usage type buf = (status, after)) :
    (after = item ∧
        (status = .noError → item.check usage type = .noError ∧
          item.slot usage type buf = none)) ∨
      status = .noError ∧ item.check usage type = .noError ∧
        ∃ slot, item.slot usage type buf = some slot ∧
          after = { item with
            consumerList := item.consumerList.add (poolCombinedId usage type (toUint32 buf))
              { slot with token := none } } := by
  rw [release] at released
  split at released
  case h_1 slot passes found =>
    cases released
    exact Or.inr ⟨rfl, passes, slot, found, rfl⟩
  case h_2 notFound =>
    cases released
    refine Or.inl ⟨rfl, fun passes => ⟨passes, ?_⟩⟩
    cases found : item.slot usage type buf with
    | none => rfl
    | some slot => exact absurd found (notFound slot passes)

theorem mem_slots_iff {item : PoolItem Token} {slot : ConsumerSlot Token} :
    slot ∈ item.slots ↔ ∃ key, item.consumerList.valueFor key = some slot := by
  rw [slots, List.mem_map]
  constructor
  · rintro ⟨⟨key, _⟩, occurs, rfl⟩
    exact ⟨key, KeyedVector.valueFor_eq_some_iff.mpr occurs⟩
  · rintro ⟨key, found⟩
    exact ⟨(key, slot), KeyedVector.valueFor_eq_some_iff.mp found, rfl⟩

theorem valueFor_clearToken [DecidableEq Token] (token : Token) (item : PoolItem Token)
    (key : Nat) : (item.clearToken token).consumerList.valueFor key =
      (item.consumerList.valueFor key).map fun slot =>
        if slot.token = some token then { slot with token := none } else slot := by
  rw [clearToken, KeyedVector.valueFor_modify]
  cases item.consumerList.valueFor key <;> rfl

end PoolItem

theorem valueFor_putOrRemove (item : PoolItem Token) (state : PoolState Token) (id : Nat) :
    (state.putOrRemove item).pools.valueFor id =
      if id = item.id then (if item.removable then none else some item)
      else state.pools.valueFor id := by
  simp only [PoolState.putOrRemove, removePoolItemLocked, KeyedVector.valueFor_add_self]
  by_cases removed : item.removable = true
  · rw [if_pos removed, if_pos removed, KeyedVector.valueFor_removeItem]
    by_cases same : id = item.id
    · rw [if_pos same, if_pos same]
    · rw [if_neg same, if_neg same, KeyedVector.valueFor_add_of_ne same]
  · rw [if_neg removed, if_neg removed, KeyedVector.valueFor_add]

/-! ## The ids -/

section PoolIds

variable {pools : KeyedVector Nat (PoolItem Token)}

/-- The id that comes some steps after an id. -/
def laterId (poolId steps : Nat) : Nat :=
  if (poolId + steps) % maxAllocSize = 0 then maxAllocSize else (poolId + steps) % maxAllocSize

theorem laterId_mod (poolId steps : Nat) :
    laterId poolId steps % maxAllocSize = (poolId + steps) % maxAllocSize := by
  rw [laterId]
  split
  case isTrue zero => rw [zero, Nat.mod_self]
  case isFalse => exact Nat.mod_mod _ _

/-- A search that does not end has found only ids in use. -/
theorem used_of_getPoolId_eq_none {looks poolId : Nat}
    (searching : getPoolId pools looks poolId = none) :
    ∀ steps < looks, (pools.valueFor (laterId poolId (steps + 1))).isSome := by
  induction looks generalizing poolId with
  | zero => exact fun steps less => absurd less (Nat.not_lt_zero steps)
  | succ looks ih =>
      intro steps less
      simp only [getPoolId] at searching
      split at searching
      case h_1 item found =>
        cases steps with
        | zero =>
            rw [laterId, found]
            rfl
        | succ steps =>
            have used := ih searching steps (Nat.lt_of_succ_lt_succ less)
            have same : ((poolId + 1) % maxAllocSize + (steps + 1)) % maxAllocSize =
                (poolId + (steps + 1 + 1)) % maxAllocSize := by
              rw [Nat.mod_add_mod]
              congr 1
              omega
            rw [laterId, same] at used
            exact used
      case h_2 => cases searching

/-- The search finds an id that is free. -/
theorem getPoolId_eq_some {looks poolId id : Nat}
    (found : getPoolId pools looks poolId = some id) :
    pools.valueFor id = none ∧ 1 ≤ id ∧ id ≤ maxAllocSize := by
  induction looks generalizing poolId with
  | zero => cases found
  | succ looks ih =>
      simp only [getPoolId] at found
      split at found
      case h_1 => exact ih found
      case h_2 free =>
        cases found
        refine ⟨free, ?_⟩
        have small : (poolId + 1) % maxAllocSize < maxAllocSize := Nat.mod_lt _ (by decide)
        split
        · exact ⟨by decide, Nat.le_refl _⟩
        · omega

/-- With fewer than `MAX_ALLOC_SIZE` pools the search ends within one round. -/
theorem getPoolId_isSome (room : pools.size < maxAllocSize) (poolId : Nat) :
    (getPoolId pools maxAllocSize poolId).isSome := by
  cases searching : getPoolId pools maxAllocSize poolId with
  | some _ => rfl
  | none =>
      have used := used_of_getPoolId_eq_none searching
      let round := (List.range maxAllocSize).map fun steps => laterId poolId (steps + 1)
      have distinct : round.Nodup := by
        rw [List.nodup_map_iff_inj_on List.nodup_range]
        intro steps less other otherLess same
        rw [List.mem_range] at less otherLess
        have congruent := congrArg (· % maxAllocSize) same
        simp only [laterId_mod] at congruent
        simp only [maxAllocSize] at congruent less otherLess
        omega
      have within : round ⊆ pools.entries.map Prod.fst := by
        intro id occurs
        obtain ⟨steps, inRange, rfl⟩ := List.mem_map.mp occurs
        obtain ⟨item, found⟩ := Option.isSome_iff_exists.mp
          (used steps (List.mem_range.mp inRange))
        exact List.mem_map.mpr ⟨_, KeyedVector.valueFor_eq_some_iff.mp found, rfl⟩
      have length := (List.subperm_of_subset distinct within).length_le
      simp only [round, List.length_map, List.length_range] at length
      exact absurd room (Nat.not_lt.mpr length)

end PoolIds

end X3Hal.Gui
