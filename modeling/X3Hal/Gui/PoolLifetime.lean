import X3Hal.Gui.Pool
import Mathlib.Data.List.Induction

/-!
# How long a pool lives

A pool is wanted while its producer holds it or a consumer of it is connected.  The item has
only one flag for each usage; every `disconnect` sets it, and the death of a consumer that holds
a buffer takes it from the slots.
-/

namespace X3Hal.Gui

open X3Hal.Transition X3Hal.Registry

universe u

variable {Token : Type u}

/-! ## What a pool is for -/

/-- The producer that allocated a pool and has not freed it. -/
def producerOf (number : Nat) (outputs : List (PoolOutput Token)) : Option Token :=
  outputs.foldl
    (fun producer output =>
      match output with
      | .allocated other token => if other = number then some token else producer
      | .freed other => if other = number then none else producer
      | .acquired _ _ _ _ _ _ _ | .refused _ _ | .released _ _ _ _ | .disconnected _ _ _
      | .died _ => producer)
    none

variable [DecidableEq Token]

/-- The consumers that acquired from a pool and have not disconnected since, by usage. -/
def connectedTo (number : Nat) (outputs : List (PoolOutput Token)) : List (Token × Nat) :=
  outputs.foldl
    (fun consumers output =>
      match output with
      | .acquired other token usage _ _ _ _ =>
          if other = number then (token, usage) :: consumers else consumers
      | .disconnected other token usage =>
          if other = number then consumers.filter (· ≠ (token, usage)) else consumers
      | .allocated _ _ | .freed _ | .refused _ _ | .released _ _ _ _ | .died _ => consumers)
    []

/-- The producer has neither freed the pool nor died, or some consumer has neither disconnected
nor died. -/
def Wanted (number : Nat) (outputs : List (PoolOutput Token)) (dead : Token → Bool) : Prop :=
  (∃ token, producerOf number outputs = some token ∧ dead token = false) ∨
    ∃ consumer ∈ connectedTo number outputs, dead consumer.1 = false

/-- The list has the pools that are wanted, under different ids in bounds, and a search for a new
id ends. -/
structure LifetimesKept (history : History (PoolEvent Token) (PoolOutput Token))
    (state : PoolState Token) : Prop where
  listed : ∀ number, (∃ id item, state.pools.valueFor id = some item ∧ item.number = number) ↔
    Wanted number history.outputs state.dead
  bounded : ∀ id item, state.pools.valueFor id = some item →
    item.id = id ∧ 1 ≤ item.id ∧ item.id ≤ maxAllocSize
  distinct : (state.pools.entries.map fun entry => entry.2.id).Nodup
  ends : state.pools.size < maxAllocSize →
    (getPoolId state.pools maxAllocSize state.poolId).isSome

/-- Some other live consumer is connected with a usage. -/
def OtherLives (token : Token) (usage : Nat) (consumers : List (Token × Nat))
    (dead : Token → Bool) : Prop :=
  ∃ consumer ∈ consumers, consumer.2 = usage ∧ consumer.1 ≠ token ∧ dead consumer.1 = false

/-- A dying consumer that holds a buffer leaves buffers to others exactly if others are
connected; and one that holds none was not connected, or others are. -/
def DeathSeen (token : Token) (usage : Nat) (consumers : List (Token × Nat))
    (dead : Token → Bool) (item : PoolItem Token) : Prop :=
  (item.observes token = true →
    ((∃ slot ∈ (item.clearToken token).slots, slot.token.isSome ∧ slot.usage = usage) ↔
      OtherLives token usage consumers dead)) ∧
  (item.observes token = false → (token, usage) ∈ consumers →
    OtherLives token usage consumers dead)

/-- Calls come from live binders, a consumer disconnects when no other one is connected, and
every death is seen. -/
def DeparturesSeen : System.Guard (PoolState Token) (PoolEvent Token) (PoolOutput Token)
  | _, state, .alloc token _ => state.dead token = false
  | _, state, .acquire token _ _ _ _ => state.dead token = false
  | history, state, .disconnect token poolId usage _ =>
      ∀ item ∈ state.pools.valueFor poolId, usage < guiExtUsageMax ∧
        ¬ OtherLives token usage (connectedTo item.number history.outputs) state.dead
  | history, state, .dies token => ∀ entry ∈ state.pools.entries, ∀ usage < guiExtUsageMax,
      DeathSeen token usage (connectedTo entry.2.number history.outputs) state.dead entry.2
  | _, _, .configDisplay _ _ _ _ _ | _, _, .free _ | _, _, .release _ _ _ _ => True

instance (token : Token) (usage : Nat) (consumers : List (Token × Nat)) (dead : Token → Bool) :
    Decidable (OtherLives token usage consumers dead) :=
  inferInstanceAs (Decidable (∃ consumer ∈ consumers, _))

instance (token : Token) (usage : Nat) (consumers : List (Token × Nat)) (dead : Token → Bool)
    (item : PoolItem Token) : Decidable (DeathSeen token usage consumers dead item) :=
  inferInstanceAs (Decidable ((_ → (_ ↔ OtherLives _ _ _ _)) ∧ (_ → _ → OtherLives _ _ _ _)))

instance (history : History (PoolEvent Token) (PoolOutput Token)) (state : PoolState Token)
    (event : PoolEvent Token) : Decidable (DeparturesSeen history state event) :=
  match event with
  | .alloc _ _ => inferInstanceAs (Decidable (_ = _))
  | .acquire _ _ _ _ _ => inferInstanceAs (Decidable (_ = _))
  | .disconnect _ poolId _ _ =>
      inferInstanceAs (Decidable (∀ item ∈ state.pools.valueFor poolId, _ ∧ ¬ OtherLives _ _ _ _))
  | .dies _ => inferInstanceAs (Decidable (∀ entry ∈ state.pools.entries, ∀ usage < guiExtUsageMax,
        DeathSeen _ usage _ _ _))
  | .configDisplay _ _ _ _ _ | .free _ | .release _ _ _ _ => inferInstanceAs (Decidable True)

/-! ## The invariant -/

/-- The flags say which usages have a live consumer. -/
structure FlagsSound (consumers : List (Token × Nat)) (dead : Token → Bool)
    (item : PoolItem Token) : Prop where
  length : item.isDisconnected.length = guiExtUsageMax
  connected : ∀ usage < guiExtUsageMax, item.isDisconnected[usage]? = some false ↔
    ∃ consumer ∈ consumers, consumer.2 = usage ∧ dead consumer.1 = false
  usages : ∀ key slot, item.consumerList.valueFor key = some slot → slot.usage < guiExtUsageMax

/-- An item has its producer while that holds it, and its consumers. -/
structure ItemSound (outputs : List (PoolOutput Token)) (dead : Token → Bool)
    (item : PoolItem Token) : Prop where
  flags : FlagsSound (connectedTo item.number outputs) dead item
  producer : ∀ token, item.producerToken = some token ↔
    producerOf item.number outputs = some token ∧ dead token = false

/-- The list has sound items that are not to be removed, and every wanted pool. -/
structure LifetimeSound (outputs : List (PoolOutput Token)) (state : PoolState Token) : Prop where
  bounded : ∀ id item, state.pools.valueFor id = some item →
    item.id = id ∧ 1 ≤ id ∧ id ≤ maxAllocSize
  numbered : ∀ id item, state.pools.valueFor id = some item → item.number < state.allocs
  single : ∀ id item other otherItem, state.pools.valueFor id = some item →
    state.pools.valueFor other = some otherItem → item.number = otherItem.number → id = other
  sound : ∀ id item, state.pools.valueFor id = some item → ItemSound outputs state.dead item
  stays : ∀ id item, state.pools.valueFor id = some item → item.removable = false
  usages : ∀ number, ∀ consumer ∈ connectedTo number outputs, consumer.2 < guiExtUsageMax
  wanted : ∀ number, Wanted number outputs state.dead →
    ∃ id item, state.pools.valueFor id = some item ∧ item.number = number
  unused : ∀ number, state.allocs ≤ number →
    producerOf number outputs = none ∧ connectedTo number outputs = []

omit [DecidableEq Token] in
/-- Of two flags one is down, or both are up. -/
theorem removable_eq_true_iff {item : PoolItem Token} :
    item.removable = true ↔
      (∀ usage < item.isDisconnected.length, item.isDisconnected[usage]? ≠ some false) ∧
        item.producerToken = none := by
  rw [PoolItem.removable, Bool.and_eq_true, List.all_eq_true, Option.isNone_iff_eq_none]
  apply and_congr_left'
  constructor
  · intro up usage _ down
    have isUp := up false (List.mem_of_getElem? down)
    cases isUp
  · intro notDown flag occurs
    obtain ⟨usage, within, same⟩ := List.getElem_of_mem occurs
    have apart := notDown usage within
    rw [List.getElem?_eq_getElem within, same] at apart
    cases flag with
    | true => rfl
    | false => exact absurd rfl apart

/-- A sound item is removed exactly when its pool is not wanted. -/
theorem ItemSound.removable_iff {outputs : List (PoolOutput Token)} {dead : Token → Bool}
    {item : PoolItem Token} (sound : ItemSound outputs dead item)
    (usages : ∀ consumer ∈ connectedTo item.number outputs, consumer.2 < guiExtUsageMax) :
    item.removable = true ↔ ¬ Wanted item.number outputs dead := by
  rw [removable_eq_true_iff, sound.flags.length, Wanted, not_or]
  constructor
  · rintro ⟨up, none⟩
    constructor
    · rintro ⟨token, held⟩
      have same := (sound.producer token).mpr held
      rw [none] at same
      cases same
    · rintro ⟨consumer, occurs, alive⟩
      have small := usages consumer occurs
      exact up consumer.2 small
        ((sound.flags.connected consumer.2 small).mpr ⟨consumer, occurs, rfl, alive⟩)
  · rintro ⟨notHeld, notConnected⟩
    constructor
    · intro usage small down
      obtain ⟨consumer, occurs, -, alive⟩ := (sound.flags.connected usage small).mp down
      exact notConnected ⟨consumer, occurs, alive⟩
    · cases producer : item.producerToken with
      | none => rfl
      | some token => exact absurd ⟨token, (sound.producer token).mp producer⟩ notHeld

section Outputs

variable (number other : Nat) (outputs : List (PoolOutput Token)) (token : Token)

omit [DecidableEq Token] in
theorem producerOf_allocated :
    producerOf number (outputs ++ [.allocated other token]) =
      if other = number then some token else producerOf number outputs := by
  simp [producerOf]

omit [DecidableEq Token] in
theorem producerOf_freed :
    producerOf number (outputs ++ [.freed other]) =
      if other = number then none else producerOf number outputs := by
  simp [producerOf]

theorem connectedTo_acquired (usage type : Nat) (buf : Int)
    (before after : Option (ConsumerSlot Token)) :
    connectedTo number (outputs ++ [.acquired other token usage type buf before after]) =
      if other = number then (token, usage) :: connectedTo number outputs
      else connectedTo number outputs := by
  simp [connectedTo]

theorem connectedTo_disconnected (usage : Nat) :
    connectedTo number (outputs ++ [.disconnected other token usage]) =
      if other = number then (connectedTo number outputs).filter (· ≠ (token, usage))
      else connectedTo number outputs := by
  simp [connectedTo]

/-- An output that no pool's producer or consumers depend on. -/
def PoolOutput.isNeutral : PoolOutput Token → Bool
  | .refused _ _ | .released _ _ _ _ | .died _ => true
  | .allocated _ _ | .freed _ | .acquired _ _ _ _ _ _ _ | .disconnected _ _ _ => false

theorem folds_of_neutral {out : List (PoolOutput Token)}
    (neutral : ∀ output ∈ out, output.isNeutral = true) :
    producerOf number (outputs ++ out) = producerOf number outputs ∧
      connectedTo number (outputs ++ out) = connectedTo number outputs := by
  induction out using List.reverseRecOn with
  | nil => simp
  | append_singleton out last ih =>
      have earlier := ih fun output occurs => neutral output (List.mem_append_left _ occurs)
      have isNeutral := neutral last (List.mem_append_right _ (List.mem_singleton.mpr rfl))
      rw [← List.append_assoc, ← earlier.1, ← earlier.2]
      cases last <;> simp_all [PoolOutput.isNeutral, producerOf, connectedTo]

end Outputs

omit [DecidableEq Token] in
/-- A call that may remove an item leaves one that is not to be removed. -/
theorem putOrRemove_of_stays {item : PoolItem Token} (stays : item.removable = false)
    (state : PoolState Token) : state.putOrRemove item = state.put item := by
  simp [PoolState.putOrRemove, PoolState.put, removePoolItemLocked, stays]

theorem wanted_congr {number : Nat} {outputs more : List (PoolOutput Token)} {dead : Token → Bool}
    (same : producerOf number more = producerOf number outputs ∧
      connectedTo number more = connectedTo number outputs) :
    Wanted number more dead ↔ Wanted number outputs dead := by
  rw [Wanted, Wanted, same.1, same.2]

theorem ItemSound.congr {outputs more : List (PoolOutput Token)} {dead : Token → Bool}
    {item : PoolItem Token} (sound : ItemSound outputs dead item)
    (same : producerOf item.number more = producerOf item.number outputs ∧
      connectedTo item.number more = connectedTo item.number outputs) :
    ItemSound more dead item := by
  constructor
  · rw [same.2]
    exact sound.flags
  · rw [same.1]
    exact sound.producer

namespace LifetimeSound

variable {outputs out : List (PoolOutput Token)} {state : PoolState Token} {id : Nat}
  {item changed : PoolItem Token}

/-- A call that concerns one item, which stays sound. -/
theorem change (sound : LifetimeSound outputs state)
    (found : state.pools.valueFor id = some item)
    (same : changed.id = item.id ∧ changed.number = item.number)
    (others : ∀ number, number ≠ item.number →
      producerOf number (outputs ++ out) = producerOf number outputs ∧
        connectedTo number (outputs ++ out) = connectedTo number outputs)
    (usages : ∀ consumer ∈ connectedTo item.number (outputs ++ out),
      consumer.2 < guiExtUsageMax)
    (itemSound : ItemSound (outputs ++ out) state.dead changed) :
    LifetimeSound (outputs ++ out) (state.putOrRemove changed) := by
  obtain ⟨isId, low, high⟩ := sound.bounded id item found
  have changedId : changed.id = id := same.1.trans isId
  have removable := itemSound.removable_iff (by rw [same.2]; exact usages)
  have lookup : ∀ other, (state.putOrRemove changed).pools.valueFor other =
      if other = id then (if changed.removable then none else some changed)
      else state.pools.valueFor other := by
    intro other
    rw [valueFor_putOrRemove, changedId]
  -- an item of the list is the changed one, which stays, or another one
  have cases : ∀ other otherItem,
      (state.putOrRemove changed).pools.valueFor other = some otherItem →
        (other = id ∧ otherItem = changed ∧ changed.removable = false) ∨
        (other ≠ id ∧ state.pools.valueFor other = some otherItem ∧
          otherItem.number ≠ item.number) := by
    intro other otherItem isItem
    rw [lookup] at isItem
    by_cases isSame : other = id
    · rw [if_pos isSame] at isItem
      by_cases removed : changed.removable = true
      · rw [if_pos removed] at isItem
        cases isItem
      · rw [if_neg removed] at isItem
        exact Or.inl ⟨isSame, (Option.some.inj isItem).symm, Bool.eq_false_iff.mpr removed⟩
    · rw [if_neg isSame] at isItem
      exact Or.inr ⟨isSame, isItem, fun number =>
        isSame (sound.single other otherItem id item isItem found number)⟩
  constructor
  · intro other otherItem isItem
    rcases cases other otherItem isItem with ⟨rfl, rfl, -⟩ | ⟨-, isOther, -⟩
    · exact ⟨changedId, low, high⟩
    · exact sound.bounded other otherItem isOther
  · intro other otherItem isItem
    rcases cases other otherItem isItem with ⟨rfl, rfl, -⟩ | ⟨-, isOther, -⟩
    · rw [same.2]
      exact sound.numbered other item found
    · exact sound.numbered other otherItem isOther
  · intro first firstItem second secondItem isFirst isSecond number
    rcases cases first firstItem isFirst with ⟨rfl, rfl, -⟩ | ⟨-, isFirst, firstApart⟩ <;>
      rcases cases second secondItem isSecond with ⟨rfl, rfl, -⟩ | ⟨-, isSecond, secondApart⟩
    · rfl
    · exact absurd (number.symm.trans same.2) secondApart
    · exact absurd (number.trans same.2) firstApart
    · exact sound.single first firstItem second secondItem isFirst isSecond number
  · intro other otherItem isItem
    rcases cases other otherItem isItem with ⟨-, rfl, -⟩ | ⟨-, isOther, apart⟩
    · exact itemSound
    · exact (sound.sound other otherItem isOther).congr (others _ apart)
  · intro other otherItem isItem
    rcases cases other otherItem isItem with ⟨-, rfl, stays⟩ | ⟨-, isOther, -⟩
    · exact stays
    · exact sound.stays other otherItem isOther
  · intro number
    by_cases isNumber : number = item.number
    · rw [isNumber]
      exact usages
    · rw [(others number isNumber).2]
      exact sound.usages number
  · intro number wanted
    by_cases isNumber : number = item.number
    · have stays : changed.removable = false := by
        rw [Bool.eq_false_iff, Ne, removable, same.2, ← isNumber]
        exact not_not_intro wanted
      refine ⟨id, changed, ?_, same.2.trans isNumber.symm⟩
      rw [lookup, if_pos rfl, stays]
      rfl
    · obtain ⟨other, otherItem, isOther, own⟩ :=
        sound.wanted number ((wanted_congr (others number isNumber)).mp wanted)
      have apart : other ≠ id := by
        rintro rfl
        rw [found] at isOther
        cases isOther
        exact isNumber own.symm
      refine ⟨other, otherItem, ?_, own⟩
      rw [lookup, if_neg apart]
      exact isOther
  · intro number later
    have isNumber : number ≠ item.number := by
      have less := sound.numbered id item found
      rintro rfl
      exact absurd less (Nat.not_lt.mpr later)
    rw [(others number isNumber).1, (others number isNumber).2]
    exact sound.unused number later

/-- A call that nobody's connections depend on, and that leaves the flags of the item alone. -/
theorem changeSlots (sound : LifetimeSound outputs state)
    (found : state.pools.valueFor id = some item)
    (neutral : ∀ output ∈ out, output.isNeutral = true)
    (consumerList : KeyedVector Nat (ConsumerSlot Token))
    (usages : ∀ key slot, consumerList.valueFor key = some slot → slot.usage < guiExtUsageMax) :
    LifetimeSound (outputs ++ out) (state.put { item with consumerList := consumerList }) := by
  have itemSound := (sound.sound id item found).congr
    (folds_of_neutral item.number outputs neutral)
  have stays : PoolItem.removable { item with consumerList := consumerList } = false :=
    sound.stays id item found
  rw [← putOrRemove_of_stays stays]
  refine sound.change found ⟨rfl, rfl⟩ ?_ ?_ ?_
  · exact fun number _ => folds_of_neutral number outputs neutral
  · rw [(folds_of_neutral item.number outputs neutral).2]
    exact sound.usages item.number
  · exact ⟨⟨itemSound.flags.length, itemSound.flags.connected, usages⟩, itemSound.producer⟩

theorem free (sound : LifetimeSound outputs state)
    (found : state.pools.valueFor id = some item) :
    LifetimeSound (outputs ++ [.freed item.number])
      (state.putOrRemove { item with producerToken := none }) := by
  have itemSound := sound.sound id item found
  have consumers : ∀ number, connectedTo number (outputs ++ [.freed item.number]) =
      connectedTo number outputs := by
    intro number
    simp [connectedTo]
  refine sound.change found ⟨rfl, rfl⟩ ?_ ?_ ?_
  · intro number apart
    rw [producerOf_freed, if_neg (Ne.symm apart)]
    exact ⟨rfl, consumers number⟩
  · rw [consumers]
    exact sound.usages item.number
  · constructor
    · simp only [consumers]
      exact ⟨itemSound.flags.length, itemSound.flags.connected, itemSound.flags.usages⟩
    · intro token
      simp [producerOf_freed]

theorem acquire (sound : LifetimeSound outputs state)
    (found : state.pools.valueFor id = some item) {token : Token} {usage type : Nat} {buf : Int}
    (alive : state.dead token = false)
    (acquired : item.acquire token usage type buf = (.noError, changed))
    (before after : Option (ConsumerSlot Token)) :
    LifetimeSound
      (outputs ++ [.acquired item.number token usage type buf before after])
      (state.put changed) := by
  obtain ⟨passes, slot, -, rfl⟩ := PoolItem.acquire_noError acquired
  have small : usage < guiExtUsageMax := by
    rw [PoolItem.usage_of_check passes]
    decide
  have itemSound := sound.sound id item found
  have length := itemSound.flags.length
  have flag : (item.isDisconnected.set usage false)[usage]? = some false := by
    rw [List.getElem?_set_self (by rw [length]; exact small)]
  have stays : PoolItem.removable
      { (if slot.token.isNone then item.putSlot usage type buf (some token) else item) with
        isDisconnected := item.isDisconnected.set usage false } = false := by
    rw [Bool.eq_false_iff, Ne, removable_eq_true_iff]
    rintro ⟨up, -⟩
    exact up usage (by rw [List.length_set, length]; exact small) flag
  rw [← putOrRemove_of_stays stays]
  refine sound.change found (by split <;> exact ⟨rfl, rfl⟩) ?_ ?_ ?_
  · intro number apart
    rw [connectedTo_acquired, if_neg (Ne.symm apart)]
    exact ⟨by simp [producerOf], rfl⟩
  · rw [connectedTo_acquired, if_pos rfl]
    intro consumer occurs
    rcases List.mem_cons.mp occurs with rfl | earlier
    · exact small
    · exact sound.usages item.number consumer earlier
  · have number : PoolItem.number
        { (if slot.token.isNone then item.putSlot usage type buf (some token) else item) with
          isDisconnected := item.isDisconnected.set usage false } = item.number := by
      split <;> rfl
    constructor
    · rw [number, connectedTo_acquired, if_pos rfl]
      constructor
      · rw [List.length_set, length]
      · intro other otherSmall
        by_cases same : other = usage
        · rw [same]
          exact iff_of_true flag ⟨(token, usage), List.mem_cons_self, rfl, alive⟩
        · rw [List.getElem?_set_ne (Ne.symm same), itemSound.flags.connected other otherSmall]
          constructor
          · rintro ⟨consumer, occurs, own⟩
            exact ⟨consumer, List.mem_cons_of_mem _ occurs, own⟩
          · rintro ⟨consumer, occurs, isOther, own⟩
            rcases List.mem_cons.mp occurs with rfl | earlier
            · exact absurd isOther.symm same
            · exact ⟨consumer, earlier, isOther, own⟩
      · intro key other isSlot
        by_cases free : slot.token.isNone = true
        · simp only [free, if_true, PoolItem.putSlot, KeyedVector.valueFor_add] at isSlot
          split at isSlot
          · cases isSlot
            exact small
          · exact itemSound.flags.usages key other isSlot
        · simp only [free, if_false, Bool.false_eq_true] at isSlot
          exact itemSound.flags.usages key other isSlot
    · intro other
      rw [number]
      have producer : producerOf item.number (outputs ++
          [.acquired item.number token usage type buf before after]) =
            producerOf item.number outputs := by
        simp [producerOf]
      rw [producer, ← itemSound.producer other]
      split <;> rfl

theorem disconnect (sound : LifetimeSound outputs state)
    (found : state.pools.valueFor id = some item) {token : Token} {usage : Nat}
    (small : usage < guiExtUsageMax)
    (last : ¬ OtherLives token usage (connectedTo item.number outputs) state.dead) :
    LifetimeSound (outputs ++ [.disconnected item.number token usage])
      (state.putOrRemove
        { item with isDisconnected := item.isDisconnected.set usage true }) := by
  have itemSound := sound.sound id item found
  have producer : ∀ number, producerOf number (outputs ++ [.disconnected item.number token usage])
      = producerOf number outputs := by
    intro number
    simp [producerOf]
  refine sound.change found ⟨rfl, rfl⟩ ?_ ?_ ?_
  · intro number apart
    rw [connectedTo_disconnected, if_neg (Ne.symm apart)]
    exact ⟨producer number, rfl⟩
  · rw [connectedTo_disconnected, if_pos rfl]
    intro consumer occurs
    exact sound.usages item.number consumer (List.mem_of_mem_filter occurs)
  · constructor
    · simp only [connectedTo_disconnected, if_true]
      constructor
      · simp only [List.length_set, itemSound.flags.length]
      · intro other otherSmall
        by_cases same : other = usage
        · rw [same]
          apply iff_of_false
          · rw [List.getElem?_set_self (by rw [itemSound.flags.length]; exact small)]
            nofun
          · rintro ⟨consumer, occurs, isUsage, alive⟩
            obtain ⟨earlier, apart⟩ := List.mem_filter.mp occurs
            apply last
            refine ⟨consumer, earlier, isUsage, ?_, alive⟩
            rintro rfl
            rw [← isUsage] at apart
            simp at apart
        · simp only [List.getElem?_set_ne (Ne.symm same)]
          rw [itemSound.flags.connected other otherSmall]
          constructor
          · rintro ⟨consumer, occurs, isOther, alive⟩
            refine ⟨consumer, List.mem_filter.mpr ⟨occurs, ?_⟩, isOther, alive⟩
            rw [decide_eq_true_eq]
            rintro rfl
            exact same isOther.symm
          · rintro ⟨consumer, occurs, own⟩
            exact ⟨consumer, List.mem_of_mem_filter occurs, own⟩
      · exact itemSound.flags.usages
    · intro other
      rw [producer]
      exact itemSound.producer other

theorem alloc (sound : LifetimeSound outputs state) {token : Token} (isHwcNeeded : Bool)
    (displays : KeyedVector Nat Nat) (alive : state.dead token = false)
    (unused : state.pools.valueFor id = none) (low : 1 ≤ id) (high : id ≤ maxAllocSize) :
    LifetimeSound (outputs ++ [.allocated state.allocs token])
      { state.put (PoolItem.new state.allocs id token isHwcNeeded displays) with
        poolId := id, displays := displays, allocs := state.allocs + 1 } := by
  obtain ⟨noProducer, noConsumer⟩ := sound.unused state.allocs (Nat.le_refl _)
  have consumers : ∀ number, connectedTo number (outputs ++ [.allocated state.allocs token]) =
      connectedTo number outputs := by
    intro number
    simp [connectedTo]
  have producer : ∀ number, number ≠ state.allocs →
      producerOf number (outputs ++ [.allocated state.allocs token]) =
        producerOf number outputs := by
    intro number apart
    rw [producerOf_allocated, if_neg (Ne.symm apart)]
  have cases : ∀ other otherItem, (state.pools.add id
      (PoolItem.new state.allocs id token isHwcNeeded displays)).valueFor other =
        some otherItem →
      (other = id ∧ otherItem = PoolItem.new state.allocs id token isHwcNeeded displays) ∨
        state.pools.valueFor other = some otherItem := by
    intro other otherItem isItem
    rw [KeyedVector.valueFor_add] at isItem
    by_cases same : other = id
    · rw [if_pos same] at isItem
      exact Or.inl ⟨same, (Option.some.inj isItem).symm⟩
    · rw [if_neg same] at isItem
      exact Or.inr isItem
  constructor
  · intro other otherItem isItem
    rcases cases other otherItem isItem with ⟨rfl, rfl⟩ | isOther
    · exact ⟨rfl, low, high⟩
    · exact sound.bounded other otherItem isOther
  · intro other otherItem isItem
    rcases cases other otherItem isItem with ⟨-, rfl⟩ | isOther
    · exact Nat.lt_succ_self _
    · exact Nat.lt_succ_of_lt (sound.numbered other otherItem isOther)
  · intro first firstItem second secondItem isFirst isSecond number
    rcases cases first firstItem isFirst with ⟨rfl, rfl⟩ | earlierFirst <;>
      rcases cases second secondItem isSecond with ⟨rfl, rfl⟩ | earlierSecond
    · rfl
    · have less := sound.numbered second secondItem earlierSecond
      rw [← number] at less
      exact absurd less (Nat.lt_irrefl _)
    · have less := sound.numbered first firstItem earlierFirst
      rw [number] at less
      exact absurd less (Nat.lt_irrefl _)
    · exact sound.single first firstItem second secondItem earlierFirst earlierSecond number
  · intro other otherItem isItem
    rcases cases other otherItem isItem with ⟨-, rfl⟩ | isOther
    · constructor
      · constructor
        · rfl
        · intro usage small
          have up : (List.replicate guiExtUsageMax true)[usage]? = some true := by
            rw [List.getElem?_replicate, if_pos small]
          rw [consumers]
          simp only [PoolItem.new, up, noConsumer]
          exact iff_of_false nofun (by rintro ⟨_, occurs, -⟩; cases occurs)
        · intro key slot isSlot
          have prepared := PoolItem.prepared_of_prepareBuffer isSlot
          rw [prepared.1]
          decide
      · intro other
        rw [PoolItem.new, producerOf_allocated, if_pos rfl]
        constructor
        · intro same
          exact ⟨same, Option.some.inj same ▸ alive⟩
        · exact And.left
    · have apart : otherItem.number ≠ state.allocs :=
        Nat.ne_of_lt (sound.numbered other otherItem isOther)
      exact (sound.sound other otherItem isOther).congr ⟨producer _ apart, consumers _⟩
  · intro other otherItem isItem
    rcases cases other otherItem isItem with ⟨-, rfl⟩ | isOther
    · simp [PoolItem.removable, PoolItem.new]
    · exact sound.stays other otherItem isOther
  · intro number
    rw [consumers]
    exact sound.usages number
  · intro number wanted
    by_cases same : number = state.allocs
    · exact ⟨id, _, KeyedVector.valueFor_add_self .., same.symm⟩
    · obtain ⟨other, otherItem, isOther, own⟩ :=
        sound.wanted number ((wanted_congr ⟨producer _ same, consumers _⟩).mp wanted)
      have apart : other ≠ id := by
        rintro rfl
        rw [unused] at isOther
        cases isOther
      exact ⟨other, otherItem, (KeyedVector.valueFor_add_of_ne apart ..).trans isOther, own⟩
  · intro number later
    have apart : number ≠ state.allocs := Nat.ne_of_gt later
    rw [producer number apart, consumers]
    exact sound.unused number (Nat.le_of_succ_le later)

end LifetimeSound

/-! ## Deaths -/

omit [DecidableEq Token] in
/-- A flag is down when a slot with a token has its usage. -/
theorem flag_foldl (slots : List (ConsumerSlot Token)) (flags : List Bool) (usage : Nat)
    (within : usage < flags.length) :
    (slots.foldl (fun flags slot =>
        if slot.token.isSome then flags.set slot.usage false else flags) flags)[usage]? =
      some false ↔
    flags[usage]? = some false ∨ ∃ slot ∈ slots, slot.token.isSome ∧ slot.usage = usage := by
  induction slots generalizing flags with
  | nil => simp
  | cons slot slots ih =>
      rw [List.foldl_cons]
      by_cases isTaken : slot.token.isSome = true
      · rw [if_pos isTaken, ih _ (by rw [List.length_set]; exact within)]
        by_cases same : slot.usage = usage
        · rw [same, List.getElem?_set_self within]
          exact iff_of_true (Or.inl rfl) (Or.inr ⟨slot, List.mem_cons_self, isTaken, same⟩)
        · rw [List.getElem?_set_ne same]
          simp [isTaken, same]
      · rw [if_neg isTaken, ih flags within]
        simp [isTaken]

omit [DecidableEq Token] in
theorem length_foldl_flags (slots : List (ConsumerSlot Token)) (flags : List Bool) :
    (slots.foldl (fun flags slot =>
      if slot.token.isSome then flags.set slot.usage false else flags) flags).length =
      flags.length := by
  induction slots generalizing flags with
  | nil => rfl
  | cons slot slots ih =>
      rw [List.foldl_cons, ih]
      split
      · rw [List.length_set]
      · rfl

/-- Another consumer lives on exactly if some consumer is alive after the death. -/
theorem otherLives_iff {token : Token} {usage : Nat} {consumers : List (Token × Nat)}
    {dead : Token → Bool} :
    OtherLives token usage consumers dead ↔ ∃ consumer ∈ consumers, consumer.2 = usage ∧
      Function.update dead token true consumer.1 = false := by
  constructor
  · rintro ⟨consumer, occurs, same, apart, alive⟩
    exact ⟨consumer, occurs, same, by rw [Function.update_of_ne apart, alive]⟩
  · rintro ⟨consumer, occurs, same, alive⟩
    have apart : consumer.1 ≠ token := by
      intro isToken
      rw [isToken, Function.update_self] at alive
      cases alive
    rw [Function.update_of_ne apart] at alive
    exact ⟨consumer, occurs, same, apart, alive⟩

section Deaths

variable {outputs : List (PoolOutput Token)} {dead : Token → Bool} {item : PoolItem Token}
  {token : Token}

/-- The flags are counted anew at the death of a consumer, and the listener removes the item
when it is to be removed. -/
theorem consumerDied_sound {consumers : List (Token × Nat)}
    (flags : FlagsSound consumers dead item) (stays : item.removable = false)
    (seen : ∀ usage < guiExtUsageMax, DeathSeen token usage consumers dead item) :
    FlagsSound consumers (Function.update dead token true) (item.consumerDied token).2 ∧
      (item.consumerDied token).2.removable = (item.consumerDied token).1 := by
  by_cases observes : item.observes token = true
  · let cleared := item.clearToken token
    let counted := { cleared with isDisconnected := cleared.disconnectedBySlots }
    have length : counted.isDisconnected.length = guiExtUsageMax :=
      (length_foldl_flags _ _).trans List.length_replicate
    have bySlots : ∀ usage < guiExtUsageMax, counted.isDisconnected[usage]? = some false ↔
        ∃ slot ∈ cleared.slots, slot.token.isSome ∧ slot.usage = usage := by
      intro usage small
      have up : (List.replicate guiExtUsageMax true)[usage]? = some true := by
        rw [List.getElem?_replicate, if_pos small]
      have counted := flag_foldl cleared.slots (List.replicate guiExtUsageMax true) usage
        (by rw [List.length_replicate]; exact small)
      rw [up] at counted
      exact counted.trans (or_iff_right nofun)
    have usages : ∀ key slot, cleared.consumerList.valueFor key = some slot →
        slot.usage < guiExtUsageMax := by
      intro key slot found
      rw [PoolItem.valueFor_clearToken, Option.map_eq_some_iff] at found
      obtain ⟨before, isBefore, rfl⟩ := found
      have small := flags.usages key before isBefore
      split <;> exact small
    have died : item.consumerDied token =
        (cleared.slots.all (fun slot => slot.token.isNone) && counted.removable, counted) := by
      rw [PoolItem.consumerDied, if_pos observes]
    rw [died]
    constructor
    · refine ⟨length, ?_, usages⟩
      intro usage small
      rw [bySlots usage small, (seen usage small).1 observes, otherLives_iff]
    · -- a slot with a token has its flag down
      cases removable : counted.removable with
      | false => rw [Bool.and_false]
      | true =>
          have up := (removable_eq_true_iff.mp removable).1
          rw [length] at up
          have empty : cleared.slots.all (fun slot => slot.token.isNone) = true := by
            rw [List.all_eq_true]
            intro slot occurs
            obtain ⟨key, found⟩ := PoolItem.mem_slots_iff.mp occurs
            have small := usages key slot found
            cases isToken : slot.token with
            | none => rfl
            | some other =>
                have down := (bySlots slot.usage small).mpr
                  ⟨slot, occurs, by rw [isToken]; rfl, rfl⟩
                exact absurd down (up slot.usage small)
          rw [empty]
          rfl
  · have notObserves : item.observes token = false := Bool.eq_false_iff.mpr observes
    have died : item.consumerDied token = (false, item) := by
      rw [PoolItem.consumerDied, if_neg observes]
    rw [died]
    refine ⟨⟨flags.length, ?_, flags.usages⟩, stays⟩
    intro usage small
    rw [flags.connected usage small, ← otherLives_iff]
    constructor
    · rintro ⟨consumer, occurs, same, alive⟩
      by_cases isToken : consumer.1 = token
      · apply (seen usage small).2 notObserves
        rw [← isToken, ← same]
        exact occurs
      · exact ⟨consumer, occurs, same, isToken, alive⟩
    · rintro ⟨consumer, occurs, same, -, alive⟩
      exact ⟨consumer, occurs, same, alive⟩

omit [DecidableEq Token] in
theorem consumerDied_same [DecidableEq Token] (token : Token) (item : PoolItem Token) :
    (item.consumerDied token).2.id = item.id ∧ (item.consumerDied token).2.number = item.number ∧
      (item.consumerDied token).2.producerToken = item.producerToken := by
  rw [PoolItem.consumerDied]
  split <;> exact ⟨rfl, rfl, rfl⟩

/-- The notices of a death leave an item that is sound, or remove one that is not wanted. -/
theorem binderDied_sound (sound : ItemSound outputs dead item) (stays : item.removable = false)
    (usages : ∀ consumer ∈ connectedTo item.number outputs, consumer.2 < guiExtUsageMax)
    (seen : ∀ usage < guiExtUsageMax,
      DeathSeen token usage (connectedTo item.number outputs) dead item) :
    (∀ left, item.binderDied token = some left → left.id = item.id ∧ left.number = item.number ∧
      ItemSound outputs (Function.update dead token true) left ∧ left.removable = false) ∧
    (item.binderDied token = none →
      ¬ Wanted item.number outputs (Function.update dead token true)) := by
  obtain ⟨flags, removable⟩ := consumerDied_sound sound.flags stays seen
  obtain ⟨id, number, producer⟩ := consumerDied_same token item
  rcases died : item.consumerDied token with ⟨called, left⟩
  rw [died] at flags removable id number producer
  simp only at flags removable id number producer
  -- the producer of what is left, if it is not the dead one
  have living : left.producerToken ≠ some token →
      ItemSound outputs (Function.update dead token true) left := by
    intro apart
    constructor
    · rw [number]
      exact flags
    · intro other
      rw [number, producer, sound.producer other]
      apply and_congr_right
      intro held
      by_cases same : other = token
      · subst same
        rw [Function.update_self]
        apply iff_of_false _ (by rintro ⟨-, ⟨⟩⟩)
        intro alive
        apply apart
        rw [producer, sound.producer other]
        exact ⟨held, alive⟩
      · rw [Function.update_of_ne same]
  have freed : left.producerToken = some token →
      ItemSound outputs (Function.update dead token true) { left with producerToken := none } := by
    intro same
    constructor
    · exact ⟨flags.length, by simp only [number]; exact flags.connected, flags.usages⟩
    · intro other
      apply iff_of_false (by rintro ⟨⟩)
      simp only [number]
      rintro ⟨held, alive⟩
      rw [producer, sound.producer token] at same
      rw [same.1] at held
      cases held
      rw [Function.update_self] at alive
      cases alive
  rw [PoolItem.binderDied, died]
  cases called with
  | true =>
      -- the listener has removed the item, which had no producer
      refine ⟨(by rintro _ ⟨⟩), fun _ => ?_⟩
      have noProducer : left.producerToken ≠ some token := by
        rw [(removable_eq_true_iff.mp removable).2]
        intro isSome
        cases isSome
      have notWanted := ((living noProducer).removable_iff (by rw [number]; exact usages)).mp
        removable
      rw [number] at notWanted
      exact notWanted
  | false =>
      by_cases same : left.producerToken = some token
      · simp only [same, if_true]
        have freedIff := (freed same).removable_iff (by simp only [number]; exact usages)
        simp only [number] at freedIff
        split
        case isTrue removed =>
          exact ⟨(by rintro _ ⟨⟩), fun _ => freedIff.mp removed⟩
        case isFalse kept =>
          refine ⟨?_, by rintro ⟨⟩⟩
          intro changed isChanged
          cases isChanged
          exact ⟨id, number, freed same, Bool.eq_false_iff.mpr kept⟩
      · simp only [same, if_false]
        refine ⟨?_, by rintro ⟨⟩⟩
        intro changed isChanged
        cases isChanged
        exact ⟨id, number, living same, removable⟩

end Deaths

theorem Wanted.before_death {number : Nat} {outputs : List (PoolOutput Token)}
    {dead : Token → Bool} {token : Token}
    (wanted : Wanted number outputs (Function.update dead token true)) :
    Wanted number outputs dead := by
  have before : ∀ other, Function.update dead token true other = false → dead other = false := by
    intro other alive
    by_cases same : other = token
    · rw [same, Function.update_self] at alive
      cases alive
    · rw [Function.update_of_ne same] at alive
      exact alive
  rcases wanted with ⟨producer, held, alive⟩ | ⟨consumer, occurs, alive⟩
  · exact Or.inl ⟨producer, held, before producer alive⟩
  · exact Or.inr ⟨consumer, occurs, before consumer.1 alive⟩

namespace LifetimeSound

variable {outputs out : List (PoolOutput Token)} {state after : PoolState Token}

theorem dies (sound : LifetimeSound outputs state) {token : Token}
    (seen : ∀ entry ∈ state.pools.entries, ∀ usage < guiExtUsageMax,
      DeathSeen token usage (connectedTo entry.2.number outputs) state.dead entry.2) :
    LifetimeSound (outputs ++ [.died token])
      { state with
        pools := state.pools.modify (PoolItem.binderDied token)
        dead := Function.update state.dead token true } := by
  have neutral : ∀ number, producerOf number (outputs ++ [.died token]) = producerOf number outputs
      ∧ connectedTo number (outputs ++ [.died token]) = connectedTo number outputs := by
    intro number
    apply folds_of_neutral
    intro output occurs
    rw [List.mem_singleton.mp occurs]
    rfl
  have each : ∀ id item, state.pools.valueFor id = some item → _ ∧ _ :=
    fun id item found => binderDied_sound (sound.sound id item found) (sound.stays id item found)
      (sound.usages item.number)
      (seen (id, item) (KeyedVector.valueFor_eq_some_iff.mp found))
  have cases : ∀ id left,
      (state.pools.modify (PoolItem.binderDied token)).valueFor id = some left →
      ∃ item, state.pools.valueFor id = some item ∧ left.id = item.id ∧
        left.number = item.number ∧
        ItemSound outputs (Function.update state.dead token true) left ∧
        left.removable = false := by
    intro id left found
    rw [KeyedVector.valueFor_modify, Option.bind_eq_some_iff] at found
    obtain ⟨item, isItem, isLeft⟩ := found
    exact ⟨item, isItem, (each id item isItem).1 left isLeft⟩
  constructor
  · intro id left found
    obtain ⟨item, isItem, isId, -⟩ := cases id left found
    rw [isId]
    exact sound.bounded id item isItem
  · intro id left found
    obtain ⟨item, isItem, -, number, -⟩ := cases id left found
    rw [number]
    exact sound.numbered id item isItem
  · intro first firstLeft second secondLeft isFirst isSecond same
    obtain ⟨firstItem, firstFound, -, firstNumber, -⟩ := cases first firstLeft isFirst
    obtain ⟨secondItem, secondFound, -, secondNumber, -⟩ := cases second secondLeft isSecond
    rw [firstNumber, secondNumber] at same
    exact sound.single first firstItem second secondItem firstFound secondFound same
  · intro id left found
    obtain ⟨item, -, -, -, itemSound, -⟩ := cases id left found
    exact itemSound.congr (neutral left.number)
  · intro id left found
    obtain ⟨item, -, -, -, -, stays⟩ := cases id left found
    exact stays
  · intro number
    rw [(neutral number).2]
    exact sound.usages number
  · intro number wanted
    rw [wanted_congr (neutral number)] at wanted
    obtain ⟨id, item, found, isNumber⟩ := sound.wanted number wanted.before_death
    cases left : item.binderDied token with
    | none =>
        rw [← isNumber] at wanted
        exact absurd wanted ((each id item found).2 left)
    | some kept =>
        refine ⟨id, kept, ?_, ((each id item found).1 kept left).2.1.trans isNumber⟩
        rw [KeyedVector.valueFor_modify, found]
        exact left
  · intro number later
    rw [(neutral number).1, (neutral number).2]
    exact sound.unused number later

theorem release (sound : LifetimeSound outputs state) {id : Nat} {item left : PoolItem Token}
    (found : state.pools.valueFor id = some item) {status : PoolStatus} {usage type : Nat}
    {buf : Int} (released : item.release usage type buf = (status, left))
    (neutral : ∀ output ∈ out, output.isNeutral = true) :
    LifetimeSound (outputs ++ out) (state.put left) := by
  have usages := (sound.sound id item found).flags.usages
  rcases PoolItem.release_cases released with ⟨rfl, -⟩ | ⟨-, -, slot, isSlot, rfl⟩
  · exact sound.changeSlots found neutral left.consumerList usages
  · apply sound.changeSlots found neutral
    intro key other isOther
    rw [KeyedVector.valueFor_add] at isOther
    split at isOther
    · cases isOther
      exact usages _ slot isSlot
    · exact usages key other isOther

theorem step {history : History (PoolEvent Token) (PoolOutput Token)} {event : PoolEvent Token}
    (sound : LifetimeSound history.outputs state) (guarded : DeparturesSeen history state event)
    (stepped : state.step event = some (after, out)) :
    LifetimeSound (history.outputs ++ out) after := by
  cases event with
  | configDisplay type enable w h bufNum =>
      cases stepped
      rw [List.append_nil]
      exact ⟨sound.bounded, sound.numbered, sound.single, sound.sound, sound.stays, sound.usages,
        sound.wanted, sound.unused⟩
  | alloc token isHwcNeeded =>
      simp only [PoolState.step, PoolState.alloc] at stepped
      split at stepped
      · cases stepped
        rw [List.append_nil]
        exact sound
      · obtain ⟨id, isId, same⟩ := Option.map_eq_some_iff.mp stepped
        cases same
        obtain ⟨unused, low, high⟩ := getPoolId_eq_some isId
        exact sound.alloc isHwcNeeded _ guarded unused low high
  | free poolId =>
      simp only [PoolState.step] at stepped
      split at stepped
      case h_1 item found =>
        cases stepped
        exact sound.free found
      case h_2 =>
        cases stepped
        rw [List.append_nil]
        exact sound
  | acquire token poolId usage type buf =>
      simp only [PoolState.step, PoolState.acquire, Option.some.injEq] at stepped
      split at stepped
      case h_1 item found =>
        split at stepped
        case h_1 taken acquired =>
          cases stepped
          exact sound.acquire found guarded acquired _ _
        case h_2 status left fails acquired =>
          cases stepped
          have same := PoolItem.acquire_of_fails acquired fun isNo => fails isNo
          subst same
          exact sound.changeSlots found (by simp [PoolOutput.isNeutral]) left.consumerList
            (sound.sound poolId left found).flags.usages
      case h_2 =>
        cases stepped
        rw [List.append_nil]
        exact sound
  | release poolId usage type buf =>
      simp only [PoolState.step] at stepped
      split at stepped
      case h_1 item found =>
        split at stepped
        case h_1 left released =>
          cases stepped
          exact sound.release found released (by simp [PoolOutput.isNeutral])
        case h_2 status left _ released =>
          cases stepped
          exact sound.release found released (by simp)
      case h_2 =>
        cases stepped
        rw [List.append_nil]
        exact sound
  | disconnect token poolId usage type =>
      simp only [PoolState.step] at stepped
      split at stepped
      case h_1 item found =>
        obtain ⟨small, last⟩ := guarded item found
        rw [PoolItem.disconnect] at stepped
        by_cases refused : item.isHwcNeeded = false ∧ usage = guiExtUsageHwc
        · simp only [refused, and_self, if_true] at stepped
          cases stepped
          rw [putOrRemove_of_stays (sound.stays poolId item found)]
          exact sound.changeSlots found (by simp) item.consumerList
            (sound.sound poolId item found).flags.usages
        · simp only [refused, if_false] at stepped
          cases stepped
          exact sound.disconnect found small last
      case h_2 =>
        cases stepped
        rw [List.append_nil]
        exact sound
  | dies token =>
      simp only [PoolState.step] at stepped
      split at stepped
      · cases stepped
      · cases stepped
        exact sound.dies guarded

theorem run {history : History (PoolEvent Token) (PoolOutput Token)}
    (run : (poolSystem Token).Run DeparturesSeen history state) :
    LifetimeSound history.outputs state := by
  induction run with
  | start starts =>
      rw [starts]
      constructor <;> simp [poolInit, Wanted, producerOf, connectedTo]
  | next running guarded stepped ih =>
      rw [History.outputs_snoc]
      exact ih.step guarded stepped

end LifetimeSound

/-- The list has the wanted pools in every run whose departures are seen. -/
theorem lifetimes_kept {history : History (PoolEvent Token) (PoolOutput Token)}
    {state : PoolState Token} (run : (poolSystem Token).Run DeparturesSeen history state) :
    LifetimesKept history state := by
  have sound := LifetimeSound.run run
  have bounded : ∀ id item, state.pools.valueFor id = some item →
      item.id = id ∧ 1 ≤ item.id ∧ item.id ≤ maxAllocSize := by
    intro id item found
    obtain ⟨same, low, high⟩ := sound.bounded id item found
    rw [same]
    exact ⟨rfl, low, high⟩
  constructor
  · intro number
    constructor
    · rintro ⟨id, item, found, rfl⟩
      have stays := sound.stays id item found
      by_contra notWanted
      rw [((sound.sound id item found).removable_iff (sound.usages item.number)).mpr notWanted]
        at stays
      cases stays
    · exact sound.wanted number
  · exact bounded
  · have same : (state.pools.entries.map fun entry => entry.2.id) =
        state.pools.entries.map Prod.fst := by
      apply List.map_congr_left
      intro entry occurs
      exact (bounded entry.1 entry.2 (KeyedVector.valueFor_eq_some_iff.mpr occurs)).1
    rw [same]
    exact state.pools.nodup_keys
  · exact fun room => getPoolId_isSome room state.poolId

/-- The pools of the list by id, with their numbers. -/
def poolNumbers (state : PoolState Token) : List (Nat × Nat) :=
  state.pools.entries.map fun entry => (entry.1, entry.2.number)

omit [DecidableEq Token] in
theorem mem_poolNumbers_iff {state : PoolState Token} {id number : Nat} :
    (id, number) ∈ poolNumbers state ↔
      ∃ item, state.pools.valueFor id = some item ∧ item.number = number := by
  rw [poolNumbers, List.mem_map]
  constructor
  · rintro ⟨⟨key, item⟩, occurs, same⟩
    cases same
    exact ⟨item, KeyedVector.valueFor_eq_some_iff.mpr occurs, rfl⟩
  · rintro ⟨item, found, rfl⟩
    exact ⟨(id, item), KeyedVector.valueFor_eq_some_iff.mp found, rfl⟩

/-- A pool that its consumer leaves after it was freed, one that dies with its producer after its
consumer, and one that stays. -/
theorem lifetimes_kept_again : ∃ history state,
    (poolSystem Nat).Run DeparturesSeen history state ∧ LifetimesKept history state ∧
    poolNumbers state = [(3, 2)] ∧
    history.events = [.alloc 0 true, .acquire 1 1 1 0 0, .free 1, .disconnect 1 1 1 0,
      .alloc 0 true, .acquire 1 2 1 0 2, .alloc 3 true, .dies 1, .dies 0] := by
  let calls : List (PoolEvent Nat) := [.alloc 0 true, .acquire 1 1 1 0 0, .free 1,
    .disconnect 1 1 1 0, .alloc 0 true, .acquire 1 2 1 0 2, .alloc 3 true, .dies 1, .dies 0]
  have executed : ((poolSystem Nat).exec poolInit calls).map
      (fun final => (poolNumbers final.2, final.1.events)) = some ([(3, 2)], calls) := by
    decide +kernel
  rcases System.exists_run_of_exec (poolSystem Nat) DeparturesSeen calls _ rfl
    (by decide +kernel) executed with ⟨history, state, run, seen⟩
  obtain ⟨numbers, events⟩ := Prod.mk.inj seen
  exact ⟨history, state, run, lifetimes_kept run, numbers, events⟩

section Lost

variable {history : History (PoolEvent Token) (PoolOutput Token)} {state : PoolState Token}
  {number : Nat}

/-- A pool that is not listed while one of its consumers lives. -/
theorem not_lifetimesKept_of_missing {token : Token} {usage : Nat}
    (missing : poolNumbers state = [])
    (connected : (token, usage) ∈ connectedTo number history.outputs)
    (alive : state.dead token = false) : ¬ LifetimesKept history state := by
  intro kept
  obtain ⟨id, item, found, isNumber⟩ :=
    (kept.listed number).mpr (Or.inr ⟨(token, usage), connected, alive⟩)
  have occurs := mem_poolNumbers_iff.mpr ⟨item, found, isNumber⟩
  rw [missing] at occurs
  cases occurs

/-- A pool that is listed while nobody lives who wants it. -/
theorem not_lifetimesKept_of_left {id : Nat} (listed : (id, number) ∈ poolNumbers state)
    (held : ∀ token ∈ producerOf number history.outputs, state.dead token = true)
    (connected : ∀ consumer ∈ connectedTo number history.outputs,
      state.dead consumer.1 = true) : ¬ LifetimesKept history state := by
  intro kept
  obtain ⟨item, found, isNumber⟩ := mem_poolNumbers_iff.mp listed
  rcases (kept.listed number).mp ⟨id, item, found, isNumber⟩ with
    ⟨token, isProducer, alive⟩ | ⟨consumer, occurs, alive⟩
  · rw [held token isProducer] at alive
    cases alive
  · rw [connected consumer occurs] at alive
    cases alive

end Lost

/-- What goes wrong: one of two consumers disconnects; a consumer without buffers dies; a
consumer dies while another one has no buffer; and a dead producer allocates. -/
theorem lifetimes_lost :
    (∃ history state, (poolSystem Nat).Run System.free history state ∧
      ¬ LifetimesKept history state ∧
      history.events = [.alloc 0 true, .acquire 1 1 1 0 0, .acquire 2 1 1 0 1, .free 1,
        .disconnect 1 1 1 0]) ∧
    (∃ history state, (poolSystem Nat).Run System.free history state ∧
      ¬ LifetimesKept history state ∧
      history.events = [.alloc 0 true, .acquire 1 1 1 0 0, .release 1 1 0 0, .free 1,
        .dies 1]) ∧
    (∃ history state, (poolSystem Nat).Run System.free history state ∧
      ¬ LifetimesKept history state ∧
      history.events = [.alloc 0 true, .acquire 1 1 1 0 0, .release 1 1 0 0,
        .acquire 2 1 1 0 1, .free 1, .dies 2]) ∧
    ∃ history state, (poolSystem Nat).Run System.free history state ∧
      ¬ LifetimesKept history state ∧
      history.events = [.dies 0, .alloc 0 true] := by
  refine ⟨?_, ?_, ?_, ?_⟩
  · let calls : List (PoolEvent Nat) := [.alloc 0 true, .acquire 1 1 1 0 0, .acquire 2 1 1 0 1,
      .free 1, .disconnect 1 1 1 0]
    have executed : ((poolSystem Nat).exec poolInit calls).map
        (fun final => (final.1.events, poolNumbers final.2,
          connectedTo 0 final.1.outputs, final.2.dead 2)) =
          some (calls, [], [(2, 1)], false) := by
      decide +kernel
    rcases System.exists_run_of_exec (poolSystem Nat) System.free calls _ rfl
      (by decide +kernel) executed with ⟨history, state, run, seen⟩
    simp only [Prod.mk.injEq] at seen
    obtain ⟨events, missing, connected, alive⟩ := seen
    exact ⟨history, state, run,
      not_lifetimesKept_of_missing missing (connected ▸ List.mem_cons_self) alive, events⟩
  · let calls : List (PoolEvent Nat) := [.alloc 0 true, .acquire 1 1 1 0 0, .release 1 1 0 0,
      .free 1, .dies 1]
    have executed : ((poolSystem Nat).exec poolInit calls).map
        (fun final => (final.1.events, poolNumbers final.2,
          decide (producerOf 0 final.1.outputs = none ∧
            connectedTo 0 final.1.outputs = [(1, 1)] ∧ final.2.dead 1 = true))) =
          some (calls, [(1, 0)], true) := by
      decide +kernel
    rcases System.exists_run_of_exec (poolSystem Nat) System.free calls _ rfl
      (by decide +kernel) executed with ⟨history, state, run, seen⟩
    simp only [Prod.mk.injEq] at seen
    obtain ⟨events, listed, unwanted⟩ := seen
    obtain ⟨free, connected, dead⟩ := of_decide_eq_true unwanted
    refine ⟨history, state, run, not_lifetimesKept_of_left (listed ▸ List.mem_cons_self)
      ?_ ?_, events⟩
    · simp [free]
    · simp [connected, dead]
  · let calls : List (PoolEvent Nat) := [.alloc 0 true, .acquire 1 1 1 0 0, .release 1 1 0 0,
      .acquire 2 1 1 0 1, .free 1, .dies 2]
    have executed : ((poolSystem Nat).exec poolInit calls).map
        (fun final => (final.1.events, poolNumbers final.2,
          connectedTo 0 final.1.outputs, final.2.dead 1)) =
          some (calls, [], [(2, 1), (1, 1)], false) := by
      decide +kernel
    rcases System.exists_run_of_exec (poolSystem Nat) System.free calls _ rfl
      (by decide +kernel) executed with ⟨history, state, run, seen⟩
    simp only [Prod.mk.injEq] at seen
    obtain ⟨events, missing, connected, alive⟩ := seen
    have occurs : (1, 1) ∈ connectedTo 0 history.outputs := by simp [connected]
    exact ⟨history, state, run, not_lifetimesKept_of_missing missing occurs alive, events⟩
  · let calls : List (PoolEvent Nat) := [.dies 0, .alloc 0 true]
    have executed : ((poolSystem Nat).exec poolInit calls).map
        (fun final => (final.1.events, poolNumbers final.2,
          decide (producerOf 0 final.1.outputs = some 0 ∧
            connectedTo 0 final.1.outputs = [] ∧ final.2.dead 0 = true))) =
          some (calls, [(1, 0)], true) := by
      decide +kernel
    rcases System.exists_run_of_exec (poolSystem Nat) System.free calls _ rfl
      (by decide +kernel) executed with ⟨history, state, run, seen⟩
    simp only [Prod.mk.injEq] at seen
    obtain ⟨events, listed, unwanted⟩ := seen
    obtain ⟨producer, connected, dead⟩ := of_decide_eq_true unwanted
    refine ⟨history, state, run, not_lifetimesKept_of_left (listed ▸ List.mem_cons_self)
      ?_ ?_, events⟩
    · simp [producer, dead]
    · simp [connected]

end X3Hal.Gui
