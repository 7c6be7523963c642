import X3Hal.Gui.Pool
import Mathlib.Data.List.Induction

/-!
# The shadow slots of a consumer

A `GuiExtClientConsumer` keeps a slot for each buffer that it has requested from the service, under
an id that is combined of the pool, the usage, the type and the index.  When the service refuses an
acquire, a slot that is not acquired is the backup.

The calls are made one after the other.  A buffer is what its handle is, and two buffers that exist
at the same time have different handles.
-/

namespace X3Hal.Gui

open X3Hal.Transition X3Hal.Registry

/-! ## The slots -/

/-- `HWC_DISPLAY_VIRTUAL` -/
def hwcDisplayVirtual : Nat := 2

/-- The pool, the usage and the type of a call -/
structure PoolQueue where
  poolId : Nat
  usage : Nat
  type : Nat
  deriving DecidableEq

/-- `POOL_COMBINED_ID` of the consumer, of 32 bits -/
def PoolQueue.combinedId (idx : Nat) (queue : PoolQueue) : Nat :=
  ((queue.poolId <<< 10) ||| (queue.usage <<< 6) ||| (queue.type <<< 3) ||| idx) % 2 ^ 32

/-- `BufferSlot` -/
structure ShadowSlot where
  buffer : Nat
  /-- `poolId`, `usage` and `type` -/
  queue : PoolQueue
  idx : Nat
  isAcquired : Bool
  deriving DecidableEq

/-- `mSlots` -/
abbrev ShadowSlots := KeyedVector Nat ShadowSlot

inductive ClientStatus
  | noError | badValue
  /-- what `assertStateLocked` or the service returns -/
  | error (err : Int)
  deriving DecidableEq

inductive ConsumerOutput
  /-- A caller gets the buffer of a slot. -/
  | handedOut (queue : PoolQueue) (idx buffer : Nat)
  /-- calls of the service -/
  | serviceRelease (queue : PoolQueue) (idx : Nat)
  | serviceDisconnect (queue : PoolQueue)
  | returned (status : ClientStatus)
  deriving DecidableEq

/-- What the calls of an acquire return -/
structure AcquireCalls where
  assertState : Int
  acquire : Except Int Nat
  request : Except Int Nat

inductive ConsumerEvent
  | acquire (queue : PoolQueue) (calls : AcquireCalls)
  /-- with what `assertStateLocked` and the service return -/
  | release (buffer : Option Nat) (queue : PoolQueue) (assertState result : Int)
  | disconnect (queue : PoolQueue) (assertState result : Int)

/-- What an `err` of the service is as a status. -/
def ClientStatus.ofErr (err : Int) : ClientStatus :=
  if err = 0 then .noError else .error err

/-- What a call checks before anything else. -/
def rejection (queue : PoolQueue) (assertState : Int) : Option ClientStatus :=
  if queue.usage ≥ guiExtUsageMax then some .badValue
  else if queue.type > hwcDisplayVirtual then some .badValue
  else if assertState ≠ 0 then some (.error assertState)
  else none

/-- `acquire`, after its checks -/
def acquireLocked (queue : PoolQueue) (calls : AcquireCalls) (slots : ShadowSlots) :
    ShadowSlots × List ConsumerOutput :=
  match calls.acquire with
  | .error err =>
      match slots.entries.find? fun entry =>
          entry.2.queue = queue ∧ entry.2.isAcquired = false with
      | some (id, slot) =>
          (slots.add id { slot with isAcquired := true },
            [.handedOut slot.queue slot.idx slot.buffer, .returned .noError])
      | none => (slots, [.returned (.error err)])
  | .ok idx =>
      match slots.valueFor (queue.combinedId idx) with
      | some slot =>
          -- isAcquired stays as it is
          (slots, [.handedOut slot.queue slot.idx slot.buffer, .returned .noError])
      | none =>
          match calls.request with
          | .error err => (slots, [.returned (.error err)])
          | .ok buffer =>
              (slots.add (queue.combinedId idx) ⟨buffer, queue, idx, true⟩,
                [.handedOut queue idx buffer, .returned .noError])

/-- `getSlotFromBufferLocked`, over all slots -/
def getSlotFromBufferLocked (buffer : Nat) (slots : ShadowSlots) : Option Nat :=
  (slots.entries.find? fun entry => entry.2.buffer = buffer).map (·.2.idx)

/-- `releaseLocked` up to the call of the service; `none` when the buffer is not known -/
def releaseLocked (buffer : Nat) (queue : PoolQueue) (slots : ShadowSlots) :
    Option (ShadowSlots × List ConsumerOutput) :=
  (getSlotFromBufferLocked buffer slots).map fun idx =>
    (match slots.valueFor (queue.combinedId idx) with
      | some slot => slots.add (queue.combinedId idx) { slot with isAcquired := false }
      | none => slots,
      [.serviceRelease queue idx])

/-- The body of the loop of `disconnect` for a slot -/
def disconnectSlot (queue : PoolQueue) (slot : ShadowSlot) (slots : ShadowSlots) :
    ShadowSlots × List ConsumerOutput :=
  if slot.queue = queue then
    let (slots, out) :=
      if slot.isAcquired then (releaseLocked slot.buffer queue slots).getD (slots, [])
      else (slots, [])
    (slots.removeItem (queue.combinedId slot.idx), out)
  else (slots, [])

/-- The loop of `disconnect`, from the last of so many slots down to the first -/
def disconnectSlots (queue : PoolQueue) : Nat → ShadowSlots → ShadowSlots × List ConsumerOutput
  | 0, slots => (slots, [])
  | i + 1, slots =>
      let (slots, out) :=
        match slots.entries[i]? with
        | some entry => disconnectSlot queue entry.2 slots
        | none => (slots, [])
      let (slots, more) := disconnectSlots queue i slots
      (slots, out ++ more)

def consumerStep (slots : ShadowSlots) : ConsumerEvent → ShadowSlots × List ConsumerOutput
  | .acquire queue calls =>
      match rejection queue calls.assertState with
      | some status => (slots, [.returned status])
      | none => acquireLocked queue calls slots
  | .release buffer queue assertState result =>
      match rejection queue assertState with
      | some status => (slots, [.returned status])
      | none =>
          match buffer.bind fun buffer => releaseLocked buffer queue slots with
          | none => (slots, [.returned .badValue])
          | some (slots, out) => (slots, out ++ [.returned (.ofErr result)])
  | .disconnect queue assertState result =>
      match rejection queue assertState with
      | some status => (slots, [.returned status])
      | none =>
          if slots.size = 0 then (slots, [.returned .badValue])
          else
            let (slots, out) := disconnectSlots queue slots.size slots
            (slots, out ++ [.serviceDisconnect queue, .returned (.ofErr result)])

def consumerSystem : System ShadowSlots ConsumerEvent ConsumerOutput where
  Init slots := slots = .empty
  step slots event := some (consumerStep slots event)

/-! ## The law -/

/-- A buffer that a caller holds -/
structure HeldBuffer where
  queue : PoolQueue
  idx : Nat
  buffer : Nat
  deriving DecidableEq

/-- What is held after an output -/
def handOut (held : List HeldBuffer) : ConsumerOutput → List HeldBuffer
  | .handedOut queue idx buffer => ⟨queue, idx, buffer⟩ :: held
  | .serviceRelease _ _ | .serviceDisconnect _ | .returned _ => held

/-- What is held after a call -/
def heldStep (held : List HeldBuffer) (step : ConsumerEvent × List ConsumerOutput) :
    List HeldBuffer :=
  match step.1 with
  | .acquire _ _ => step.2.foldl handOut held
  | .release buffer queue assertState _ =>
      if rejection queue assertState = none then held.filter fun each => some each.buffer ≠ buffer
      else held
  | .disconnect queue assertState _ =>
      if rejection queue assertState = none then held.filter fun each => each.queue ≠ queue
      else held

/-- The buffers that were handed out and not released or disconnected since -/
def heldBuffers (history : History ConsumerEvent ConsumerOutput) : List HeldBuffer :=
  history.foldl heldStep []

/-- `isAcquired` of each slot says whether its buffer is held. -/
def AcquiredExact (history : History ConsumerEvent ConsumerOutput) (slots : ShadowSlots) : Prop :=
  ∀ id slot, slots.valueFor id = some slot →
    (slot.isAcquired = true ↔
      ∃ held ∈ heldBuffers history, held.queue = slot.queue ∧ held.idx = slot.idx)

/-- A backup is a buffer that nobody holds. -/
def BackupFree (history : History ConsumerEvent ConsumerOutput) (event : ConsumerEvent)
    (out : List ConsumerOutput) : Prop :=
  ∀ queue calls err idx other buffer, event = .acquire queue calls → calls.acquire = .error err →
    .handedOut other idx buffer ∈ out →
    ∀ held ∈ heldBuffers history, ¬ (held.queue = other ∧ held.idx = idx)

/-- A release clears the slot of the buffer alone, and reports it alone. -/
def ReleaseExact (slots : ShadowSlots) (event : ConsumerEvent) (after : ShadowSlots)
    (out : List ConsumerOutput) : Prop :=
  ∀ buffer queue assertState result, event = .release buffer queue assertState result →
    (∀ id, after.valueFor id = (slots.valueFor id).map fun slot =>
      if rejection queue assertState = none ∧ some slot.buffer = buffer then
        { slot with isAcquired := false }
      else slot) ∧
    ∀ other idx, .serviceRelease other idx ∈ out ↔ rejection queue assertState = none ∧
      ∃ id slot, slots.valueFor id = some slot ∧ some slot.buffer = buffer ∧
        slot.queue = other ∧ slot.idx = idx

/-- A disconnect that is not rejected, with a slot there, removes the slots of its queue alone,
releases those that are held, and is forwarded; another does nothing of it. -/
def DisconnectExact (history : History ConsumerEvent ConsumerOutput) (slots : ShadowSlots)
    (event : ConsumerEvent) (after : ShadowSlots) (out : List ConsumerOutput) : Prop :=
  ∀ queue assertState result, event = .disconnect queue assertState result →
    if rejection queue assertState = none ∧ slots.size ≠ 0 then
      after = slots.keep (fun _ slot => slot.queue ≠ queue) ∧
      (∀ other idx, .serviceRelease other idx ∈ out ↔ other = queue ∧
        ∃ held ∈ heldBuffers history, held.queue = queue ∧ held.idx = idx) ∧
      .serviceDisconnect queue ∈ out
    else after = slots ∧ ∀ output ∈ out, ∃ status, output = .returned status

/-- The laws of a step from slots -/
structure ConsumerStepExact (history : History ConsumerEvent ConsumerOutput) (slots : ShadowSlots)
    (event : ConsumerEvent) (after : ShadowSlots) (out : List ConsumerOutput) : Prop where
  backup : BackupFree history event out
  release : ReleaseExact slots event after out
  disconnect : DisconnectExact history slots event after out

/-- The index of an acquire has an acquired slot, or none, and the buffer a handle of its own. -/
def IndexNamed (queue : PoolQueue) (idx : Nat) (request : Except Int Nat) (slots : ShadowSlots) :
    Option ShadowSlot → Prop
  | some slot => slot.queue = queue ∧ slot.idx = idx ∧ slot.isAcquired = true
  | none => ∀ buffer ∈ request.toOption, ∀ entry ∈ slots.entries, entry.2.buffer ≠ buffer

/-- Acquires name their indices, and a buffer is released with the queue of its slot. -/
def SlotsNamed : System.Guard ShadowSlots ConsumerEvent ConsumerOutput
  | _, slots, .acquire queue calls =>
      rejection queue calls.assertState = none → ∀ idx ∈ calls.acquire.toOption,
        IndexNamed queue idx calls.request slots (slots.valueFor (queue.combinedId idx))
  | _, slots, .release buffer queue assertState _ =>
      rejection queue assertState = none →
        ∀ entry ∈ slots.entries, some entry.2.buffer = buffer → entry.2.queue = queue
  | _, _, .disconnect _ _ _ => True

instance (queue : PoolQueue) (idx : Nat) (request : Except Int Nat) (slots : ShadowSlots)
    (slot : Option ShadowSlot) : Decidable (IndexNamed queue idx request slots slot) :=
  match slot with
  | some _ => inferInstanceAs (Decidable (_ ∧ _ ∧ _))
  | none => inferInstanceAs (Decidable (∀ buffer ∈ request.toOption, ∀ entry ∈ slots.entries, _))

instance (history : History ConsumerEvent ConsumerOutput) (slots : ShadowSlots)
    (event : ConsumerEvent) : Decidable (SlotsNamed history slots event) :=
  match event with
  | .acquire _ calls => inferInstanceAs (Decidable (_ → ∀ idx ∈ calls.acquire.toOption, _))
  | .release _ _ _ _ => inferInstanceAs (Decidable (_ → ∀ entry ∈ slots.entries, _ → _))
  | .disconnect _ _ _ => inferInstanceAs (Decidable True)

/-! ## The invariant -/

/-- The buffer of a slot, as it is held -/
def ShadowSlot.own (slot : ShadowSlot) : HeldBuffer :=
  ⟨slot.queue, slot.idx, slot.buffer⟩

/-- Slots are under the ids of what they are for, and have handles of their own. -/
structure SlotsKeyed (slots : ShadowSlots) : Prop where
  id : ∀ id slot, slots.valueFor id = some slot → id = slot.queue.combinedId slot.idx
  handle : ∀ id slot other same, slots.valueFor id = some slot → slots.valueFor other = some same →
    slot.buffer = same.buffer → id = other

/-- Exactly the buffers of the acquired slots are held. -/
structure ShadowsSound (held : List HeldBuffer) (slots : ShadowSlots) : Prop extends
    SlotsKeyed slots where
  held : ∀ each, each ∈ held ↔
    ∃ id slot, slots.valueFor id = some slot ∧ slot.isAcquired = true ∧ slot.own = each

/-- What a release makes of a slot -/
def ShadowSlot.clear (buffer : Option Nat) (slot : ShadowSlot) : ShadowSlot :=
  if some slot.buffer = buffer then { slot with isAcquired := false } else slot

section Slots

variable {held : List HeldBuffer} {slots : ShadowSlots} {queue : PoolQueue} {id buffer : Nat}
  {slot : ShadowSlot}

theorem ShadowsSound.acquired_iff (sound : ShadowsSound held slots)
    (found : slots.valueFor id = some slot) :
    slot.isAcquired = true ↔
      ∃ each ∈ held, each.queue = slot.queue ∧ each.idx = slot.idx := by
  constructor
  · intro acquired
    exact ⟨slot.own, (sound.held _).mpr ⟨id, slot, found, acquired, rfl⟩, rfl, rfl⟩
  · rintro ⟨each, isHeld, sameQueue, sameIdx⟩
    obtain ⟨other, own, otherFound, acquired, rfl⟩ := (sound.held each).mp isHeld
    have same : other = id := by
      rw [sound.id other own otherFound, sound.id id slot found]
      exact congrArg₂ (fun idx queue => PoolQueue.combinedId idx queue) sameIdx sameQueue
    subst same
    obtain rfl : own = slot := Option.some.inj (otherFound.symm.trans found)
    exact acquired

variable (slot) in
/-- An acquired slot is put where there is none, or one of the same buffer. -/
theorem ShadowsSound.add (sound : ShadowsSound held slots)
    (isId : id = slot.queue.combinedId slot.idx) (acquired : slot.isAcquired = true)
    (fresh : ∀ other same, slots.valueFor other = some same → other ≠ id →
      same.buffer ≠ slot.buffer)
    (replaces : ∀ old, slots.valueFor id = some old → old.own = slot.own) :
    ShadowsSound (slot.own :: held) (slots.add id slot) where
  id := by
    intro other same found
    rw [KeyedVector.valueFor_add] at found
    split at found
    case isTrue isOwn =>
      obtain rfl := Option.some.inj found
      rw [isOwn, isId]
    case isFalse => exact sound.id other same found
  handle := by
    intro first firstSlot second secondSlot firstFound secondFound sameBuffer
    rw [KeyedVector.valueFor_add] at firstFound secondFound
    split at firstFound <;> split at secondFound
    case isTrue.isTrue isFirst isSecond => rw [isFirst, isSecond]
    case isTrue.isFalse isFirst isSecond =>
      obtain rfl := Option.some.inj firstFound
      exact absurd sameBuffer.symm (fresh second secondSlot secondFound isSecond)
    case isFalse.isTrue isFirst isSecond =>
      obtain rfl := Option.some.inj secondFound
      exact absurd sameBuffer (fresh first firstSlot firstFound isFirst)
    case isFalse.isFalse =>
      exact sound.handle first firstSlot second secondSlot firstFound secondFound sameBuffer
  held := by
    intro each
    rw [List.mem_cons, sound.held]
    constructor
    · rintro (rfl | ⟨other, old, found, oldAcquired, rfl⟩)
      · exact ⟨id, slot, KeyedVector.valueFor_add_self slots id slot, acquired, rfl⟩
      · by_cases same : other = id
        · subst same
          exact ⟨other, slot, KeyedVector.valueFor_add_self slots other slot, acquired,
            (replaces old found).symm⟩
        · exact ⟨other, old, by rw [KeyedVector.valueFor_add_of_ne same, found], oldAcquired, rfl⟩
    · rintro ⟨other, new, found, newAcquired, rfl⟩
      rw [KeyedVector.valueFor_add] at found
      split at found
      case isTrue =>
        obtain rfl := Option.some.inj found
        exact Or.inl rfl
      case isFalse => exact Or.inr ⟨other, new, found, newAcquired, rfl⟩

/-- A buffer is handed out once more. -/
theorem ShadowsSound.hold (sound : ShadowsSound held slots) (found : slots.valueFor id = some slot)
    (acquired : slot.isAcquired = true) : ShadowsSound (slot.own :: held) slots where
  toSlotsKeyed := sound.toSlotsKeyed
  held := by
    intro each
    rw [List.mem_cons, sound.held, or_iff_right_of_imp]
    rintro rfl
    exact ⟨id, slot, found, acquired, rfl⟩

/-- The slot of a buffer is found by its handle. -/
theorem SlotsKeyed.getSlot (keyed : SlotsKeyed slots) (found : slots.valueFor id = some slot) :
    getSlotFromBufferLocked slot.buffer slots = some slot.idx := by
  rw [getSlotFromBufferLocked]
  cases first : slots.entries.find? fun entry => entry.2.buffer = slot.buffer with
  | none =>
      rw [List.find?_eq_none] at first
      have among := KeyedVector.valueFor_eq_some_iff.mp found
      exact absurd (decide_eq_true rfl) (first (id, slot) among)
  | some entry =>
      have same : entry.2.buffer = slot.buffer := by simpa using List.find?_some first
      have otherFound : slots.valueFor entry.1 = some entry.2 :=
        KeyedVector.valueFor_eq_some_iff.mpr (List.mem_of_find?_eq_some first)
      have sameId := keyed.handle entry.1 entry.2 id slot otherFound found same
      rw [sameId, found] at otherFound
      rw [Option.map_some, ← Option.some.inj otherFound]

/-- A release with the queue of the slot clears it alone. -/
theorem SlotsKeyed.releaseLocked_eq (keyed : SlotsKeyed slots)
    (found : slots.valueFor id = some slot) :
    releaseLocked slot.buffer slot.queue slots =
      some (slots.add id { slot with isAcquired := false },
        [.serviceRelease slot.queue slot.idx]) := by
  rw [releaseLocked, keyed.getSlot found, Option.map_some, ← keyed.id id slot found]
  simp only [found]

theorem releaseLocked_eq_none
    (unknown : ∀ id slot, slots.valueFor id = some slot → slot.buffer ≠ buffer) :
    releaseLocked buffer queue slots = none := by
  rw [releaseLocked, getSlotFromBufferLocked, List.find?_eq_none.mpr]
  · rfl
  · intro entry occurs
    simpa using unknown entry.1 entry.2 (KeyedVector.valueFor_eq_some_iff.mpr occurs)

/-- A cleared slot is the only one that a release has changed. -/
theorem SlotsKeyed.valueFor_clear (keyed : SlotsKeyed slots)
    (found : slots.valueFor id = some slot) (other : Nat) :
    (slots.add id { slot with isAcquired := false }).valueFor other =
      (slots.valueFor other).map (ShadowSlot.clear (some slot.buffer)) := by
  rw [KeyedVector.valueFor_add]
  split
  case isTrue same => rw [same, found, Option.map_some, ShadowSlot.clear, if_pos rfl]
  case isFalse apart =>
    cases others : slots.valueFor other with
    | none => rfl
    | some each =>
        have differs : some each.buffer ≠ some slot.buffer := fun same =>
          apart (keyed.handle other each id slot others found (Option.some.inj same))
        rw [Option.map_some, ShadowSlot.clear, if_neg differs]

@[simp]
theorem ShadowSlot.clear_queue (buffer : Option Nat) : (slot.clear buffer).queue = slot.queue := by
  rw [clear]
  split <;> rfl

@[simp]
theorem ShadowSlot.clear_idx (buffer : Option Nat) : (slot.clear buffer).idx = slot.idx := by
  rw [clear]
  split <;> rfl

@[simp]
theorem ShadowSlot.clear_buffer (buffer : Option Nat) :
    (slot.clear buffer).buffer = slot.buffer := by
  rw [clear]
  split <;> rfl

theorem ShadowSlot.clear_isAcquired (buffer : Option Nat) :
    (slot.clear buffer).isAcquired = true ↔
      slot.isAcquired = true ∧ some slot.buffer ≠ buffer := by
  rw [clear]
  split <;> simp_all

/-- A buffer that is not known clears nothing. -/
theorem map_clear_of_unknown {buffer : Option Nat}
    (unknown : ∀ id slot, slots.valueFor id = some slot → some slot.buffer ≠ buffer) (id : Nat) :
    slots.valueFor id = (slots.valueFor id).map (ShadowSlot.clear buffer) := by
  cases found : slots.valueFor id with
  | none => rfl
  | some slot => rw [Option.map_some, ShadowSlot.clear, if_neg (unknown id slot found)]

/-- What is held when a buffer is cleared -/
theorem ShadowsSound.clear {buffer : Option Nat} {after : ShadowSlots}
    (sound : ShadowsSound held slots)
    (cleared : ∀ id, after.valueFor id = (slots.valueFor id).map (ShadowSlot.clear buffer)) :
    ShadowsSound (held.filter fun each => some each.buffer ≠ buffer) after where
  id := by
    intro id new found
    rw [cleared] at found
    obtain ⟨old, wasFound, rfl⟩ := Option.map_eq_some_iff.mp found
    rw [ShadowSlot.clear_queue, ShadowSlot.clear_idx]
    exact sound.id id old wasFound
  handle := by
    intro first firstSlot second secondSlot firstFound secondFound sameBuffer
    rw [cleared] at firstFound secondFound
    obtain ⟨firstOld, firstWas, rfl⟩ := Option.map_eq_some_iff.mp firstFound
    obtain ⟨secondOld, secondWas, rfl⟩ := Option.map_eq_some_iff.mp secondFound
    rw [ShadowSlot.clear_buffer, ShadowSlot.clear_buffer] at sameBuffer
    exact sound.handle first firstOld second secondOld firstWas secondWas sameBuffer
  held := by
    intro each
    rw [List.mem_filter, decide_eq_true_eq, sound.held]
    constructor
    · rintro ⟨⟨id, old, found, acquired, rfl⟩, apart⟩
      refine ⟨id, old.clear buffer, by rw [cleared, found, Option.map_some],
        (ShadowSlot.clear_isAcquired buffer).mpr ⟨acquired, apart⟩, ?_⟩
      simp [ShadowSlot.own]
    · rintro ⟨id, new, found, acquired, rfl⟩
      rw [cleared] at found
      obtain ⟨old, wasFound, rfl⟩ := Option.map_eq_some_iff.mp found
      obtain ⟨wasAcquired, apart⟩ := (ShadowSlot.clear_isAcquired buffer).mp acquired
      exact ⟨⟨id, old, wasFound, wasAcquired, by simp [ShadowSlot.own]⟩,
        by simpa [ShadowSlot.own] using apart⟩

/-- What is held when the slots of a queue are gone -/
theorem ShadowsSound.keep (sound : ShadowsSound held slots) (queue : PoolQueue) :
    ShadowsSound (held.filter fun each => each.queue ≠ queue)
      (slots.keep fun _ slot => slot.queue ≠ queue) where
  id := by
    intro id slot found
    exact sound.id id slot (KeyedVector.valueFor_keep_eq_some_iff.mp found).1
  handle := by
    intro first firstSlot second secondSlot firstFound secondFound
    exact sound.handle first firstSlot second secondSlot
      (KeyedVector.valueFor_keep_eq_some_iff.mp firstFound).1
      (KeyedVector.valueFor_keep_eq_some_iff.mp secondFound).1
  held := by
    intro each
    rw [List.mem_filter, sound.held]
    constructor
    · rintro ⟨⟨id, slot, found, acquired, rfl⟩, apart⟩
      exact ⟨id, slot, KeyedVector.valueFor_keep_eq_some_iff.mpr ⟨found, apart⟩, acquired, rfl⟩
    · rintro ⟨id, slot, found, acquired, rfl⟩
      obtain ⟨wasFound, apart⟩ := KeyedVector.valueFor_keep_eq_some_iff.mp found
      exact ⟨⟨id, slot, wasFound, acquired, rfl⟩, apart⟩

/-! ## The loop of a disconnect -/

theorem SlotsKeyed.removeItem (keyed : SlotsKeyed slots) (id : Nat) :
    SlotsKeyed (slots.removeItem id) where
  id := by
    intro other slot found
    rw [KeyedVector.removeItem, KeyedVector.valueFor_keep_eq_some_iff] at found
    exact keyed.id other slot found.1
  handle := by
    intro first firstSlot second secondSlot firstFound secondFound
    rw [KeyedVector.removeItem, KeyedVector.valueFor_keep_eq_some_iff] at firstFound secondFound
    exact keyed.handle first firstSlot second secondSlot firstFound.1 secondFound.1

/-- A round removes a slot of the queue, and releases it when it is acquired. -/
theorem SlotsKeyed.disconnectSlot_eq (keyed : SlotsKeyed slots)
    (found : slots.valueFor id = some slot) :
    disconnectSlot queue slot slots =
      if slot.queue = queue then
        (slots.removeItem id, if slot.isAcquired then [.serviceRelease queue slot.idx] else [])
      else (slots, []) := by
  rw [disconnectSlot]
  split
  case isFalse => rfl
  case isTrue own =>
    subst own
    rw [← keyed.id id slot found]
    by_cases acquired : slot.isAcquired = true
    · simp only [acquired, if_true, keyed.releaseLocked_eq found, Option.getD_some,
        KeyedVector.removeItem_add_self]
    · simp only [acquired, Bool.false_eq_true, if_false]

variable (queue) in
/-- The loop removes the slots of the queue before an index, and releases those that are
acquired. -/
theorem disconnectSlots_eq {front rest : List (Nat × ShadowSlot)} (keyed : SlotsKeyed slots)
    (whole : slots.entries = front ++ rest) :
    (disconnectSlots queue front.length slots).1.entries =
        front.filter (fun entry => decide (entry.2.queue ≠ queue)) ++ rest ∧
      (disconnectSlots queue front.length slots).2 =
        ((front.filter fun entry => entry.2.queue = queue ∧ entry.2.isAcquired = true).reverse.map
          fun entry => .serviceRelease queue entry.2.idx) := by
  induction front using List.reverseRecOn generalizing slots rest with
  | nil => exact ⟨whole, rfl⟩
  | append_singleton front entry ih =>
      rw [List.append_assoc, List.singleton_append] at whole
      have isEntry : slots.entries[front.length]? = some entry := by
        rw [whole, List.getElem?_append_right (Nat.le_refl _), Nat.sub_self]
        rfl
      have found : slots.valueFor entry.1 = some entry.2 :=
        KeyedVector.valueFor_eq_some_iff.mpr (List.mem_of_getElem? isEntry)
      rw [List.length_append, List.length_singleton, disconnectSlots, isEntry]
      simp only [keyed.disconnectSlot_eq found]
      by_cases own : entry.2.queue = queue
      · obtain ⟨kept, released⟩ :=
          ih (keyed.removeItem entry.1) (KeyedVector.entries_removeItem whole)
        simp only [own, if_true, kept, released, List.filter_append]
        by_cases acquired : entry.2.isAcquired = true <;> simp [own, acquired]
      · obtain ⟨kept, released⟩ := ih keyed whole
        simp only [own, if_false, kept, released, List.filter_append]
        simp [own]

/-! ## Steps -/

theorem acquireLocked_sound {calls : AcquireCalls} (sound : ShadowsSound held slots)
    (named : ∀ idx ∈ calls.acquire.toOption,
      IndexNamed queue idx calls.request slots (slots.valueFor (queue.combinedId idx))) :
    ShadowsSound ((acquireLocked queue calls slots).2.foldl handOut held)
      (acquireLocked queue calls slots).1 := by
  rw [acquireLocked]
  cases isIdx : calls.acquire with
  | error err =>
      cases backup : slots.entries.find? fun entry =>
          entry.2.queue = queue ∧ entry.2.isAcquired = false with
      | none => exact sound
      | some entry =>
          obtain ⟨id, slot⟩ := entry
          have found : slots.valueFor id = some slot :=
            KeyedVector.valueFor_eq_some_iff.mpr (List.mem_of_find?_eq_some backup)
          refine sound.add { slot with isAcquired := true } (sound.id id slot found) rfl
            ?_ ?_
          · intro other same otherFound apart sameBuffer
            exact apart (sound.handle other same id slot otherFound found sameBuffer)
          · intro old oldFound
            rw [← Option.some.inj (found.symm.trans oldFound)]
            rfl
  | ok idx =>
      have isNamed := named idx (by rw [isIdx]; rfl)
      cases found : slots.valueFor (queue.combinedId idx) with
      | some slot =>
          rw [found] at isNamed
          simp only [found]
          exact sound.hold found isNamed.2.2
      | none =>
          rw [found] at isNamed
          cases isBuffer : calls.request with
          | error err =>
              simp only [found]
              exact sound
          | ok buffer =>
              simp only [found]
              refine sound.add ⟨buffer, queue, idx, true⟩ rfl rfl ?_ ?_
              · intro other same otherFound _
                exact isNamed buffer (by rw [isBuffer]; rfl) (other, same)
                  (KeyedVector.valueFor_eq_some_iff.mp otherFound)
              · intro old oldFound
                rw [found] at oldFound
                cases oldFound

/-- A backup is the buffer of a slot that is not acquired. -/
theorem acquireLocked_backup {calls : AcquireCalls} {err : Int} {other : PoolQueue} {idx : Nat}
    (failed : calls.acquire = .error err)
    (among : .handedOut other idx buffer ∈ (acquireLocked queue calls slots).2) :
    ∃ id slot, slots.valueFor id = some slot ∧ slot.isAcquired = false ∧ slot.queue = other ∧
      slot.idx = idx := by
  rw [acquireLocked, failed] at among
  cases backup : slots.entries.find? fun entry =>
      entry.2.queue = queue ∧ entry.2.isAcquired = false with
  | none =>
      rw [backup] at among
      simp at among
  | some entry =>
      obtain ⟨id, slot⟩ := entry
      have free : slot.queue = queue ∧ slot.isAcquired = false := by
        simpa using List.find?_some backup
      rw [backup] at among
      simp only [List.mem_cons, ConsumerOutput.handedOut.injEq, reduceCtorEq, List.not_mem_nil,
        or_false] at among
      exact ⟨id, slot, KeyedVector.valueFor_eq_some_iff.mpr (List.mem_of_find?_eq_some backup),
        free.2, among.1.symm, among.2.1.symm⟩

theorem releaseLocked_cases (keyed : SlotsKeyed slots)
    (named : ∀ entry ∈ slots.entries, entry.2.buffer = buffer → entry.2.queue = queue) :
    (releaseLocked buffer queue slots = none ∧
      ∀ id slot, slots.valueFor id = some slot → slot.buffer ≠ buffer) ∨
    ∃ id slot, slots.valueFor id = some slot ∧ slot.buffer = buffer ∧ slot.queue = queue ∧
      releaseLocked buffer queue slots =
        some (slots.add id { slot with isAcquired := false },
          [.serviceRelease queue slot.idx]) := by
  by_cases known : ∃ id slot, slots.valueFor id = some slot ∧ slot.buffer = buffer
  · obtain ⟨id, slot, found, rfl⟩ := known
    have own : slot.queue = queue :=
      named (id, slot) (KeyedVector.valueFor_eq_some_iff.mp found) rfl
    subst own
    exact Or.inr ⟨id, slot, found, rfl, rfl, keyed.releaseLocked_eq found⟩
  · have unknown : ∀ id slot, slots.valueFor id = some slot → slot.buffer ≠ buffer :=
      fun id slot found same => known ⟨id, slot, found, same⟩
    exact Or.inl ⟨releaseLocked_eq_none unknown, unknown⟩

end Slots

section Steps

variable {history : History ConsumerEvent ConsumerOutput} {slots after : ShadowSlots}
  {out : List ConsumerOutput}

theorem heldBuffers_snoc (history : History ConsumerEvent ConsumerOutput)
    (step : ConsumerEvent × List ConsumerOutput) :
    heldBuffers (history ++ [step]) = heldStep (heldBuffers history) step := by
  rw [heldBuffers, heldBuffers, List.foldl_append, List.foldl_cons, List.foldl_nil]

theorem acquire_keeps {queue : PoolQueue} {calls : AcquireCalls}
    (sound : ShadowsSound (heldBuffers history) slots)
    (named : SlotsNamed history slots (.acquire queue calls))
    (made : consumerStep slots (.acquire queue calls) = (after, out)) :
    ShadowsSound (heldStep (heldBuffers history) (.acquire queue calls, out)) after ∧
      ConsumerStepExact history slots (.acquire queue calls) after out := by
  rw [consumerStep] at made
  cases rejected : rejection queue calls.assertState with
  | some status =>
      rw [rejected] at made
      obtain ⟨rfl, rfl⟩ := Prod.mk.inj made
      refine ⟨sound, ?_, nofun, nofun⟩
      intro _ _ _ _ _ _ _ _ among
      simp at among
  | none =>
      rw [rejected] at made
      have kept := acquireLocked_sound sound (named rejected)
      obtain ⟨rfl, rfl⟩ := Prod.mk.inj made
      refine ⟨kept, ?_, nofun, nofun⟩
      rintro _ _ err idx other buffer ⟨⟩ failed among held isHeld ⟨rfl, rfl⟩
      obtain ⟨id, slot, found, free, sameQueue, sameIdx⟩ := acquireLocked_backup failed among
      have acquired := (sound.acquired_iff found).mpr
        ⟨held, isHeld, sameQueue.symm, sameIdx.symm⟩
      rw [free] at acquired
      cases acquired

/-- A release clears the slot of its buffer, and reports it. -/
theorem release_keeps {buffer : Option Nat} {queue : PoolQueue} {assertState result : Int}
    (sound : ShadowsSound (heldBuffers history) slots)
    (named : SlotsNamed history slots (.release buffer queue assertState result))
    (made : consumerStep slots (.release buffer queue assertState result) = (after, out)) :
    ShadowsSound (heldStep (heldBuffers history) (.release buffer queue assertState result, out))
        after ∧
      ConsumerStepExact history slots (.release buffer queue assertState result) after out := by
  rw [consumerStep] at made
  cases rejected : rejection queue assertState with
  | some status =>
      rw [rejected] at made
      obtain ⟨rfl, rfl⟩ := Prod.mk.inj made
      refine ⟨?_, nofun, ?_, nofun⟩
      · simpa [heldStep, rejected] using sound
      · rintro _ _ _ _ ⟨⟩
        simp [rejected]
  | none =>
      rw [rejected] at made
      simp only [heldStep, rejected, if_true]
      have cleared : (∀ id, after.valueFor id =
            (slots.valueFor id).map (ShadowSlot.clear buffer)) ∧
          ∀ other idx, .serviceRelease other idx ∈ out ↔
            ∃ id slot, slots.valueFor id = some slot ∧ some slot.buffer = buffer ∧
              slot.queue = other ∧ slot.idx = idx := by
        cases buffer with
        | none =>
            obtain ⟨rfl, rfl⟩ := Prod.mk.inj made
            exact ⟨map_clear_of_unknown fun _ _ _ => nofun, by simp⟩
        | some buffer =>
            rw [Option.bind_some] at made
            rcases releaseLocked_cases sound.toSlotsKeyed fun entry among same =>
                named rejected entry among (congrArg some same) with
              ⟨missing, unknown⟩ | ⟨id, slot, found, rfl, rfl, released⟩
            · rw [missing] at made
              obtain ⟨rfl, rfl⟩ := Prod.mk.inj made
              refine ⟨map_clear_of_unknown fun id slot found same =>
                unknown id slot found (Option.some.inj same), ?_⟩
              intro other idx
              refine iff_of_false (by simp) ?_
              rintro ⟨id, slot, found, same, -⟩
              exact unknown id slot found (Option.some.inj same)
            · rw [released] at made
              obtain ⟨rfl, rfl⟩ := Prod.mk.inj made
              refine ⟨sound.valueFor_clear found, ?_⟩
              intro other idx
              constructor
              · intro among
                simp only [List.cons_append, List.nil_append, List.mem_cons, reduceCtorEq,
                  ConsumerOutput.serviceRelease.injEq, List.not_mem_nil, or_false] at among
                exact ⟨id, slot, found, rfl, among.1.symm, among.2.symm⟩
              · rintro ⟨otherId, other, otherFound, same, rfl, rfl⟩
                have isId := sound.handle otherId other id slot otherFound found
                  (Option.some.inj same)
                rw [isId, found] at otherFound
                rw [Option.some.inj otherFound]
                exact List.mem_cons_self
      refine ⟨sound.clear cleared.1, nofun, ?_, nofun⟩
      rintro _ _ _ _ ⟨⟩
      simp only [rejected, true_and]
      exact cleared

/-- The loop of a disconnect removes the slots of its queue. -/
theorem disconnectSlots_fst {queue : PoolQueue} (keyed : SlotsKeyed slots) :
    (disconnectSlots queue slots.size slots).1 =
      slots.keep fun _ slot => slot.queue ≠ queue := by
  have removed := (disconnectSlots_eq queue keyed (List.append_nil slots.entries).symm).1
  rw [List.append_nil] at removed
  generalize isLeft : (disconnectSlots queue slots.size slots).1 = left
  rw [KeyedVector.size] at isLeft
  rw [isLeft] at removed
  obtain ⟨entries, ordered⟩ := left
  subst removed
  rfl

theorem disconnect_keeps {queue : PoolQueue} {assertState result : Int}
    (sound : ShadowsSound (heldBuffers history) slots)
    (made : consumerStep slots (.disconnect queue assertState result) = (after, out)) :
    ShadowsSound (heldStep (heldBuffers history) (.disconnect queue assertState result, out))
        after ∧
      ConsumerStepExact history slots (.disconnect queue assertState result) after out := by
  rw [consumerStep] at made
  cases rejected : rejection queue assertState with
  | some status =>
      rw [rejected] at made
      obtain ⟨rfl, rfl⟩ := Prod.mk.inj made
      refine ⟨?_, nofun, nofun, ?_⟩
      · simpa [heldStep, rejected] using sound
      · rintro _ _ _ ⟨⟩
        simp [rejected]
  | none =>
      rw [rejected] at made
      simp only [heldStep, rejected, if_true]
      by_cases empty : slots.size = 0
      · simp only [empty, if_true] at made
        obtain ⟨rfl, rfl⟩ := Prod.mk.inj made
        have noneHeld : heldBuffers history = [] := by
          rw [List.eq_nil_iff_forall_not_mem]
          intro each isHeld
          obtain ⟨id, slot, found, -⟩ := (sound.held each).mp isHeld
          have occurs := KeyedVector.valueFor_eq_some_iff.mp found
          rw [List.length_eq_zero_iff.mp empty] at occurs
          cases occurs
        refine ⟨by simpa [noneHeld] using sound, nofun, nofun, ?_⟩
        rintro _ _ _ ⟨⟩
        simp [empty]
      · simp only [empty, if_false] at made
        obtain ⟨rfl, rfl⟩ := Prod.mk.inj made
        have released := (disconnectSlots_eq queue sound.toSlotsKeyed
          (List.append_nil slots.entries).symm).2
        rw [disconnectSlots_fst sound.toSlotsKeyed]
        refine ⟨sound.keep queue, nofun, nofun, ?_⟩
        rintro _ _ _ ⟨⟩
        rw [if_pos ⟨rejected, empty⟩]
        refine ⟨rfl, ?_, by simp⟩
        intro other idx
        rw [KeyedVector.size, released]
        simp only [List.mem_append, List.mem_map, List.mem_reverse, List.mem_filter,
          decide_eq_true_eq, List.mem_cons, List.not_mem_nil, reduceCtorEq, or_false]
        constructor
        · rintro ⟨⟨id, slot⟩, ⟨occurs, own, acquired⟩, isOut⟩
          obtain ⟨rfl, rfl⟩ := ConsumerOutput.serviceRelease.inj isOut
          exact ⟨rfl, slot.own, (sound.held _).mpr
            ⟨id, slot, KeyedVector.valueFor_eq_some_iff.mpr occurs, acquired, rfl⟩, own, rfl⟩
        · rintro ⟨rfl, each, isHeld, own, rfl⟩
          obtain ⟨id, slot, found, acquired, rfl⟩ := (sound.held each).mp isHeld
          exact ⟨(id, slot), ⟨KeyedVector.valueFor_eq_some_iff.mp found, own, acquired⟩, rfl⟩

theorem consumerStep_keeps {event : ConsumerEvent}
    (sound : ShadowsSound (heldBuffers history) slots) (named : SlotsNamed history slots event)
    (made : consumerStep slots event = (after, out)) :
    ShadowsSound (heldBuffers (history ++ [(event, out)])) after ∧
      ConsumerStepExact history slots event after out := by
  rw [heldBuffers_snoc]
  cases event with
  | acquire queue calls => exact acquire_keeps sound named made
  | release buffer queue assertState result => exact release_keeps sound named made
  | disconnect queue assertState result => exact disconnect_keeps sound made

theorem slotsSound_of_run (run : consumerSystem.Run SlotsNamed history slots) :
    ShadowsSound (heldBuffers history) slots := by
  apply run.invariant fun history slots => ShadowsSound (heldBuffers history) slots
  · rintro _ rfl
    exact ⟨⟨nofun, nofun⟩, fun each => iff_of_false List.not_mem_nil nofun⟩
  · intro history slots event after out sound named stepped
    exact (consumerStep_keeps sound named (Option.some.inj stepped)).1

/-- After every run the slots say what is held, and the next step does what it should. -/
theorem shadowSlots_exact (run : consumerSystem.Run SlotsNamed history slots) :
    AcquiredExact history slots ∧
      ∀ event after out, SlotsNamed history slots event →
        consumerSystem.step slots event = some (after, out) →
        ConsumerStepExact history slots event after out := by
  have sound := slotsSound_of_run run
  constructor
  · intro id slot found
    exact sound.acquired_iff found
  · intro event after out named stepped
    exact (consumerStep_keeps sound named (Option.some.inj stepped)).2

end Steps

/-- Two buffers, one of which is released and found again as the backup, and a disconnect that
releases what is held. -/
theorem shadowSlots_backup : ∃ history slots, consumerSystem.Run SlotsNamed history slots ∧
    AcquiredExact history slots ∧ history.outputs =
      [.handedOut ⟨1, 0, 0⟩ 0 7, .returned .noError, .handedOut ⟨1, 0, 0⟩ 1 8, .returned .noError,
        .serviceRelease ⟨1, 0, 0⟩ 0, .returned .noError,
        .handedOut ⟨1, 0, 0⟩ 0 7, .returned .noError, .returned (.error (-16)),
        .serviceRelease ⟨1, 0, 0⟩ 1, .serviceRelease ⟨1, 0, 0⟩ 0, .serviceDisconnect ⟨1, 0, 0⟩,
        .returned .noError] := by
  let events : List ConsumerEvent := [.acquire ⟨1, 0, 0⟩ ⟨0, .ok 0, .ok 7⟩,
    .acquire ⟨1, 0, 0⟩ ⟨0, .ok 1, .ok 8⟩, .release (some 7) ⟨1, 0, 0⟩ 0 0,
    .acquire ⟨1, 0, 0⟩ ⟨0, .error (-16), .error 0⟩, .acquire ⟨1, 0, 0⟩ ⟨0, .error (-16), .error 0⟩,
    .disconnect ⟨1, 0, 0⟩ 0 0]
  obtain ⟨history, slots, run, outputs⟩ := System.exists_run_of_exec consumerSystem SlotsNamed
    events (fun final => final.1.outputs) rfl (by decide +kernel) rfl
  exact ⟨history, slots, run, (shadowSlots_exact run).1, outputs⟩

/-- What goes wrong: a buffer that is acquired again has a slot that is not acquired; and a release
with the pool of another slot clears that one.  With no slots a disconnect is not forwarded. -/
theorem shadowSlots_again :
    (∃ history slots, consumerSystem.Run System.free history slots ∧
      ¬ AcquiredExact history slots ∧ history.events = [.acquire ⟨1, 0, 0⟩ ⟨0, .ok 0, .ok 7⟩,
        .release (some 7) ⟨1, 0, 0⟩ 0 0, .acquire ⟨1, 0, 0⟩ ⟨0, .ok 0, .error 0⟩]) ∧
    (∃ history slots, consumerSystem.Run System.free history slots ∧
      ¬ AcquiredExact history slots ∧ history.events = [.acquire ⟨1, 0, 0⟩ ⟨0, .ok 0, .ok 7⟩,
        .acquire ⟨2, 0, 0⟩ ⟨0, .ok 0, .ok 8⟩, .release (some 7) ⟨2, 0, 0⟩ 0 0]) ∧
    ∃ out, consumerSystem.step .empty (.disconnect ⟨1, 0, 0⟩ 0 0) = some (.empty, out) ∧
      .serviceDisconnect ⟨1, 0, 0⟩ ∉ out := by
  refine ⟨?_, ?_, [.returned .badValue], rfl, by decide⟩
  · obtain ⟨history, slots, run, seen⟩ := System.exists_run_of_exec consumerSystem
      System.free [.acquire ⟨1, 0, 0⟩ ⟨0, .ok 0, .ok 7⟩,
        .release (some 7) ⟨1, 0, 0⟩ 0 0, .acquire ⟨1, 0, 0⟩ ⟨0, .ok 0, .error 0⟩]
      (fun final => (final.1.events, heldBuffers final.1, final.2.valueFor 1024)) rfl
      (by decide +kernel) rfl
    obtain ⟨events, seen⟩ := Prod.mk.inj seen
    obtain ⟨held, found⟩ := Prod.mk.inj seen
    refine ⟨history, slots, run, ?_, events⟩
    intro isExact
    have acquired := (isExact 1024 _ found).mpr
      ⟨⟨⟨1, 0, 0⟩, 0, 7⟩, by rw [held]; exact List.mem_singleton_self _, rfl, rfl⟩
    cases acquired
  · obtain ⟨history, slots, run, seen⟩ := System.exists_run_of_exec consumerSystem
      System.free [.acquire ⟨1, 0, 0⟩ ⟨0, .ok 0, .ok 7⟩, .acquire ⟨2, 0, 0⟩ ⟨0, .ok 0, .ok 8⟩,
        .release (some 7) ⟨2, 0, 0⟩ 0 0]
      (fun final => (final.1.events, heldBuffers final.1, final.2.valueFor 2048)) rfl
      (by decide +kernel) rfl
    obtain ⟨events, seen⟩ := Prod.mk.inj seen
    obtain ⟨held, found⟩ := Prod.mk.inj seen
    refine ⟨history, slots, run, ?_, events⟩
    intro isExact
    have acquired := (isExact 2048 _ found).mpr
      ⟨⟨⟨2, 0, 0⟩, 0, 8⟩, by rw [held]; exact List.mem_singleton_self _, rfl, rfl⟩
    cases acquired

end X3Hal.Gui
