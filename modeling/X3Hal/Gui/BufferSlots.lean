import X3Hal.Gui.Pool
import Mathlib.Data.List.Induction

/-!
# Who holds a buffer

Every buffer of an item has a slot under `POOL_COMBINED_ID`.  The fields of that key are not
masked, and an `acquire` of a slot that is taken does not fail.
-/

namespace X3Hal.Gui

open X3Hal.Transition X3Hal.Registry

universe u

variable {Token : Type u}

/-! ## The keys of the buffers -/

/-- A buffer of a queue. -/
def Configured (queues : KeyedVector Nat Nat) (type idx : Nat) : Prop :=
  ∃ bufNum, queues.valueFor type = some bufNum ∧ idx < bufNum

/-- Different buffers have different keys. -/
def KeysDistinct (queues : KeyedVector Nat Nat) : Prop :=
  ∀ type idx other otherIdx, Configured queues type idx → Configured queues other otherIdx →
    poolCombinedId guiExtUsageHwc type idx = poolCombinedId guiExtUsageHwc other otherIdx →
    type = other ∧ idx = otherIdx

/-- The key of the first buffer of a queue -/
def firstKey (type : Nat) : Nat :=
  poolCombinedId guiExtUsageHwc type 0

/-- No index of a queue has a bit of its first key. -/
def IndicesFit (queue : Nat × Nat) : Prop :=
  ∀ idx < queue.2, firstKey queue.1 &&& idx = 0

/-- Of two queues one has its keys before the first key of the other. -/
def RangesApart (first second : Nat × Nat) : Prop :=
  firstKey first.1 + first.2 ≤ firstKey second.1 ∨ firstKey second.1 + second.2 ≤ firstKey first.1

/-- The indices fit into their field, and the types into theirs. -/
def QueuesFit (queues : KeyedVector Nat Nat) : Prop :=
  (∀ queue ∈ queues.entries, IndicesFit queue) ∧
    ∀ first ∈ queues.entries, ∀ second ∈ queues.entries, first.1 ≠ second.1 →
      RangesApart first second

instance (queue : Nat × Nat) : Decidable (IndicesFit queue) :=
  inferInstanceAs (Decidable (∀ idx < queue.2, _))

instance (first second : Nat × Nat) : Decidable (RangesApart first second) :=
  inferInstanceAs (Decidable (_ ∨ _))

instance (queues : KeyedVector Nat Nat) : Decidable (QueuesFit queues) :=
  inferInstanceAs (Decidable ((∀ queue ∈ queues.entries, IndicesFit queue) ∧
    ∀ first ∈ queues.entries, ∀ second ∈ queues.entries, _ → RangesApart first second))

/-- Numbers without a common bit are added bit by bit. -/
theorem or_eq_add {left right : Nat} (apart : left &&& right = 0) :
    left ||| right = left + right := by
  let width := left + right
  have small : left + right < 2 ^ width := Nat.lt_two_pow_self
  have none : BitVec.ofNat width left &&& BitVec.ofNat width right = BitVec.ofNat width 0 := by
    apply BitVec.eq_of_toNat_eq
    rw [BitVec.toNat_and, BitVec.toNat_ofNat, BitVec.toNat_ofNat, ← Nat.and_mod_two_pow, apart,
      BitVec.toNat_ofNat]
  have sum := congrArg BitVec.toNat (BitVec.add_eq_or_of_and_eq_zero _ _ none)
  rw [BitVec.toNat_add, BitVec.toNat_or, BitVec.toNat_ofNat, BitVec.toNat_ofNat,
    Nat.mod_eq_of_lt (by omega : left < 2 ^ width),
    Nat.mod_eq_of_lt (by omega : right < 2 ^ width), Nat.mod_eq_of_lt small] at sum
  exact sum.symm

/-- A key is the first key of its queue with the bits of the index. -/
theorem poolCombinedId_eq_or {type idx : Nat} (small : idx < 2 ^ 32) :
    poolCombinedId guiExtUsageHwc type idx = firstKey type ||| idx := by
  rw [firstKey, poolCombinedId, poolCombinedId, Nat.or_zero, Nat.or_mod_two_pow,
    Nat.mod_eq_of_lt small]

/-- The bit of the usage bounds an index that fits. -/
theorem idx_lt_of_fits {queue : Nat × Nat} (fits : IndicesFit queue) {idx : Nat}
    (less : idx < queue.2) : idx < 64 := by
  by_contra large
  have isBit : (firstKey queue.1).testBit 6 = true := by
    rw [firstKey, poolCombinedId, Nat.testBit_mod_two_pow, Nat.testBit_or, Nat.testBit_or]
    have usageBit : (guiExtUsageHwc <<< 6).testBit 6 = true := by decide
    rw [usageBit, Bool.true_or, Bool.true_or]
    decide
  have apart := congrArg (Nat.testBit · 6) (fits 64 (by omega))
  have sixty : Nat.testBit 64 6 = true := by decide
  rw [Nat.testBit_and, isBit, sixty] at apart
  simp at apart

theorem poolCombinedId_eq_add {queue : Nat × Nat} (fits : IndicesFit queue) {idx : Nat}
    (less : idx < queue.2) :
    poolCombinedId guiExtUsageHwc queue.1 idx = firstKey queue.1 + idx := by
  have small := idx_lt_of_fits fits less
  rw [poolCombinedId_eq_or (by omega), or_eq_add (fits idx less)]

theorem QueuesFit.keysDistinct {queues : KeyedVector Nat Nat} (fit : QueuesFit queues) :
    KeysDistinct queues := by
  rintro type idx other otherIdx ⟨bufNum, queue, less⟩ ⟨otherNum, otherQueue, otherLess⟩ same
  have occurs := KeyedVector.valueFor_eq_some_iff.mp queue
  have otherOccurs := KeyedVector.valueFor_eq_some_iff.mp otherQueue
  have key := poolCombinedId_eq_add (fit.1 _ occurs) less
  have otherKey := poolCombinedId_eq_add (fit.1 _ otherOccurs) otherLess
  rw [key, otherKey] at same
  by_cases sameType : type = other
  · subst sameType
    exact ⟨rfl, Nat.add_left_cancel same⟩
  · have apart := fit.2 _ occurs _ otherOccurs sameType
    simp only [RangesApart] at apart same
    omega

/-- Distinct keys are exactly keys that fit, where every queue has a buffer. -/
theorem keysDistinct_iff {queues : KeyedVector Nat Nat}
    (filled : ∀ queue ∈ queues.entries, 0 < queue.2)
    (small : ∀ queue ∈ queues.entries, queue.2 ≤ 2 ^ 32) :
    KeysDistinct queues ↔ QueuesFit queues := by
  constructor
  · intro distinct
    have fits : ∀ queue ∈ queues.entries, IndicesFit queue := by
      intro queue occurs idx less
      have found := KeyedVector.valueFor_eq_some_iff.mpr occurs
      by_contra shares
      -- a bit that the index shares is an index with the key of the first buffer
      obtain ⟨bit, isBit⟩ := Nat.exists_testBit_of_ne_zero shares
      rw [Nat.testBit_and, Bool.and_eq_true] at isBit
      have within : 2 ^ bit ≤ idx := Nat.ge_two_pow_of_testBit isBit.2
      have fitsWord : 2 ^ bit < 2 ^ 32 := by
        have bound := small queue occurs
        omega
      have same : poolCombinedId guiExtUsageHwc queue.1 (2 ^ bit) =
          poolCombinedId guiExtUsageHwc queue.1 0 := by
        rw [poolCombinedId_eq_or fitsWord]
        change firstKey queue.1 ||| 2 ^ bit = firstKey queue.1
        apply Nat.eq_of_testBit_eq
        intro position
        rw [Nat.testBit_or, Nat.testBit_two_pow]
        by_cases isPosition : bit = position
        · rw [← isPosition, isBit.1, Bool.true_or]
        · simp [isPosition]
      have zero := (distinct queue.1 (2 ^ bit) queue.1 0 ⟨queue.2, found, by omega⟩
        ⟨queue.2, found, filled queue occurs⟩ same).2
      exact absurd zero (Nat.two_pow_pos bit).ne'
    refine ⟨fits, fun first occurs second otherOccurs apart => ?_⟩
    have found := KeyedVector.valueFor_eq_some_iff.mpr occurs
    have otherFound := KeyedVector.valueFor_eq_some_iff.mpr otherOccurs
    by_contra overlap
    simp only [RangesApart, not_or, Nat.not_le] at overlap
    -- the first key of one of the two queues lies within the other
    rcases Nat.le_total (firstKey first.1) (firstKey second.1) with before | before
    · have less : firstKey second.1 - firstKey first.1 < first.2 := by omega
      have key := poolCombinedId_eq_add (fits first occurs) less
      apply apart
      apply (distinct first.1 _ second.1 0 ⟨first.2, found, less⟩
        ⟨second.2, otherFound, filled second otherOccurs⟩ _).1
      rw [key, Nat.add_sub_cancel' before]
      rfl
    · have less : firstKey first.1 - firstKey second.1 < second.2 := by omega
      have key := poolCombinedId_eq_add (fits second otherOccurs) less
      apply apart
      apply (distinct first.1 0 second.1 _ ⟨first.2, found, filled first occurs⟩
        ⟨second.2, otherFound, less⟩ _).1
      rw [key, Nat.add_sub_cancel' before]
      rfl
  · exact QueuesFit.keysDistinct

variable [DecidableEq Token]

/-! ## What the slots are for -/

/-- Who has acquired a buffer of a pool that has not been released since. -/
def holders (number usage type idx : Nat) (outputs : List (PoolOutput Token)) : List Token :=
  outputs.foldl
    (fun held output =>
      match output with
      | .acquired other token otherUsage otherType buf _ _ =>
          if other = number ∧ otherUsage = usage ∧ otherType = type ∧ toUint32 buf = idx then
            token :: held
          else held
      | .released other otherUsage otherType buf =>
          if other = number ∧ otherUsage = usage ∧ otherType = type ∧ toUint32 buf = idx then []
          else held
      | .died token => held.filter (· ≠ token)
      | .allocated _ _ | .freed _ | .refused _ _ | .disconnected _ _ _ => held)
    []

/-- An `acquire` takes the free slot of the buffer that it names, or changes nothing. -/
def CallExact : PoolOutput Token → Prop
  | .acquired _ token usage type buf before after =>
      before = some ⟨usage, type, toUint32 buf, none⟩ ∧
        after = some ⟨usage, type, toUint32 buf, some token⟩
  | .refused before after => after = before
  | .allocated _ _ | .freed _ | .released _ _ _ _ | .disconnected _ _ _ | .died _ => True

/-- The buffers of the listed pools have slots of their own, the calls have kept to them, and no
buffer has two holders. -/
structure BuffersExclusive (history : History (PoolEvent Token) (PoolOutput Token))
    (state : PoolState Token) : Prop where
  distinct : ∀ id item, state.pools.valueFor id = some item → KeysDistinct item.hwcUsedBqList
  own : ∀ id item, state.pools.valueFor id = some item → ∀ type idx,
    Configured item.hwcUsedBqList type idx → ∃ token,
      item.consumerList.valueFor (poolCombinedId guiExtUsageHwc type idx) =
        some ⟨guiExtUsageHwc, type, idx, token⟩
  calls : ∀ output ∈ history.outputs, CallExact output
  exclusive : ∀ number usage type idx, (holders number usage type idx history.outputs).length ≤ 1

/-- The slot under the key of a call's buffer is the slot of that buffer. -/
def ConsumerSlot.IsFor (type : Nat) (buf : Int) (slot : ConsumerSlot Token) : Prop :=
  slot.type = type ∧ slot.idx = toUint32 buf

/-- The displays fit into the keys at each `alloc`; an `acquire` names a free buffer, and a
`release` does not name the key of another buffer that is taken. -/
def BuffersNamed : System.Guard (PoolState Token) (PoolEvent Token) (PoolOutput Token)
  | _, state, .alloc _ isHwcNeeded =>
      isHwcNeeded = true → state.pools.size < maxAllocSize → QueuesFit state.allocDisplays
  | _, state, .acquire _ poolId usage type buf =>
      ∀ item ∈ state.pools.valueFor poolId, item.check usage type = .noError →
        ∀ slot ∈ item.slot usage type buf, slot.IsFor type buf ∧ slot.token = none
  | _, state, .release poolId usage type buf =>
      ∀ item ∈ state.pools.valueFor poolId, item.check usage type = .noError →
        ∀ slot ∈ item.slot usage type buf, slot.IsFor type buf ∨ slot.token = none
  | _, _, .configDisplay _ _ _ _ _ | _, _, .free _ | _, _, .disconnect _ _ _ _
  | _, _, .dies _ => True

instance (type : Nat) (buf : Int) (slot : ConsumerSlot Token) :
    Decidable (slot.IsFor type buf) :=
  inferInstanceAs (Decidable (_ ∧ _))

instance (history : History (PoolEvent Token) (PoolOutput Token)) (state : PoolState Token)
    (event : PoolEvent Token) : Decidable (BuffersNamed history state event) :=
  match event with
  | .alloc _ _ => inferInstanceAs (Decidable (_ → _ → QueuesFit _))
  | .acquire _ poolId usage type buf =>
      inferInstanceAs (Decidable (∀ item ∈ state.pools.valueFor poolId,
        item.check usage type = .noError →
          ∀ slot ∈ item.slot usage type buf, slot.IsFor type buf ∧ slot.token = none))
  | .release poolId usage type buf =>
      inferInstanceAs (Decidable (∀ item ∈ state.pools.valueFor poolId,
        item.check usage type = .noError →
          ∀ slot ∈ item.slot usage type buf, slot.IsFor type buf ∨ slot.token = none))
  | .configDisplay _ _ _ _ _ | .free _ | .disconnect _ _ _ _ | .dies _ =>
      inferInstanceAs (Decidable True)

/-! ## The invariant -/

/-- An item has the slots of its buffers, each with the holder of its buffer. -/
structure SlotsSound (outputs : List (PoolOutput Token)) (item : PoolItem Token) : Prop where
  distinct : KeysDistinct item.hwcUsedBqList
  own : ∀ type idx, Configured item.hwcUsedBqList type idx →
    (item.consumerList.valueFor (poolCombinedId guiExtUsageHwc type idx)).isSome
  named : ∀ key slot, item.consumerList.valueFor key = some slot →
    slot.usage = guiExtUsageHwc ∧ Configured item.hwcUsedBqList slot.type slot.idx ∧
      key = poolCombinedId guiExtUsageHwc slot.type slot.idx
  held : ∀ key slot, item.consumerList.valueFor key = some slot →
    holders item.number guiExtUsageHwc slot.type slot.idx outputs = slot.token.toList

structure BuffersSound (outputs : List (PoolOutput Token)) (state : PoolState Token) : Prop where
  listed : ∀ id item, state.pools.valueFor id = some item → item.id = id
  numbered : ∀ id item, state.pools.valueFor id = some item → item.number < state.allocs
  single : ∀ id item other otherItem, state.pools.valueFor id = some item →
    state.pools.valueFor other = some otherItem → item.number = otherItem.number → id = other
  slots : ∀ id item, state.pools.valueFor id = some item → SlotsSound outputs item
  calls : ∀ output ∈ outputs, CallExact output
  unused : ∀ number usage type idx, state.allocs ≤ number →
    holders number usage type idx outputs = []
  exclusive : ∀ number usage type idx, (holders number usage type idx outputs).length ≤ 1

section Holders

variable (number usage type idx other : Nat) (outputs : List (PoolOutput Token))

theorem holders_acquired (token : Token) (otherUsage otherType : Nat) (buf : Int)
    (before after : Option (ConsumerSlot Token)) :
    holders number usage type idx
        (outputs ++ [.acquired other token otherUsage otherType buf before after]) =
      if other = number ∧ otherUsage = usage ∧ otherType = type ∧ toUint32 buf = idx then
        token :: holders number usage type idx outputs
      else holders number usage type idx outputs := by
  simp [holders]

theorem holders_released (otherUsage otherType : Nat) (buf : Int) :
    holders number usage type idx (outputs ++ [.released other otherUsage otherType buf]) =
      if other = number ∧ otherUsage = usage ∧ otherType = type ∧ toUint32 buf = idx then []
      else holders number usage type idx outputs := by
  simp [holders]

theorem holders_died (token : Token) :
    holders number usage type idx (outputs ++ [.died token]) =
      (holders number usage type idx outputs).filter (· ≠ token) := by
  simp [holders]

/-- An output that leaves the buffers to their holders. -/
def PoolOutput.keepsBuffers : PoolOutput Token → Bool
  | .allocated _ _ | .freed _ | .refused _ _ | .disconnected _ _ _ => true
  | .acquired _ _ _ _ _ _ _ | .released _ _ _ _ | .died _ => false

theorem holders_of_keeps {out : List (PoolOutput Token)}
    (keeps : ∀ output ∈ out, output.keepsBuffers = true) :
    holders number usage type idx (outputs ++ out) = holders number usage type idx outputs := by
  induction out using List.reverseRecOn with
  | nil => rw [List.append_nil]
  | append_singleton out last ih =>
      have earlier := ih fun output occurs => keeps output (List.mem_append_left _ occurs)
      have isKept := keeps last (List.mem_append_right _ (List.mem_singleton.mpr rfl))
      rw [← List.append_assoc, ← earlier]
      cases last <;> simp_all [PoolOutput.keepsBuffers, holders]

end Holders

namespace SlotsSound

variable {outputs : List (PoolOutput Token)} {item : PoolItem Token}

/-- The slot of a buffer. -/
theorem valueFor (sound : SlotsSound outputs item) {type idx : Nat}
    (configured : Configured item.hwcUsedBqList type idx) :
    ∃ token, item.consumerList.valueFor (poolCombinedId guiExtUsageHwc type idx) =
      some ⟨guiExtUsageHwc, type, idx, token⟩ := by
  obtain ⟨slot, found⟩ := Option.isSome_iff_exists.mp (sound.own type idx configured)
  obtain ⟨isUsage, isConfigured, key⟩ := sound.named _ slot found
  obtain ⟨isType, isIdx⟩ := sound.distinct _ _ _ _ configured isConfigured key
  refine ⟨slot.token, found.trans ?_⟩
  rw [← isUsage, isType, isIdx]

/-- Slots of one buffer have one key. -/
theorem key_eq (sound : SlotsSound outputs item) {key other : Nat}
    {slot otherSlot : ConsumerSlot Token}
    (found : item.consumerList.valueFor key = some slot)
    (otherFound : item.consumerList.valueFor other = some otherSlot)
    (same : slot.type = otherSlot.type ∧ slot.idx = otherSlot.idx) : key = other := by
  rw [(sound.named key slot found).2.2, (sound.named other otherSlot otherFound).2.2, same.1,
    same.2]

theorem congr (sound : SlotsSound outputs item) {more : List (PoolOutput Token)}
    (same : ∀ usage type idx, holders item.number usage type idx more =
      holders item.number usage type idx outputs) : SlotsSound more item := by
  refine ⟨sound.distinct, sound.own, sound.named, ?_⟩
  intro key slot found
  rw [same]
  exact sound.held key slot found

end SlotsSound

/-! ## The slots of a new item -/

section Prepared

variable {queues : KeyedVector Nat Nat}

omit [DecidableEq Token] in
/-- Preparing the indices of a queue keeps the slots that are there, and adds theirs. -/
theorem isSome_prepareQueue {usage type : Nat} (slots : KeyedVector Nat (ConsumerSlot Token))
    (indices : List Nat) (key : Nat)
    (wanted : (slots.valueFor key).isSome ∨ ∃ idx ∈ indices, key = poolCombinedId usage type idx) :
    ((indices.foldl
      (fun slots idx =>
        match slots.valueFor (poolCombinedId usage type idx) with
        | some _ => slots
        | none => slots.add (poolCombinedId usage type idx) ⟨usage, type, idx, none⟩)
      slots).valueFor key).isSome := by
  induction indices generalizing slots with
  | nil =>
      rcases wanted with there | ⟨idx, occurs, -⟩
      · exact there
      · cases occurs
  | cons first indices ih =>
      rw [List.foldl_cons]
      apply ih
      rcases wanted with there | ⟨idx, occurs, isKey⟩
      · left
        split
        · exact there
        · rw [KeyedVector.valueFor_add]
          split
          · rfl
          · exact there
      · rcases List.mem_cons.mp occurs with rfl | later
        · left
          split
          case h_1 slot found =>
            rw [isKey, found]
            rfl
          case h_2 =>
            rw [isKey, KeyedVector.valueFor_add_self]
            rfl
        · exact Or.inr ⟨idx, later, isKey⟩

omit [DecidableEq Token] in
theorem isSome_prepareBuffer {type idx : Nat} (configured : Configured queues type idx) :
    ((PoolItem.prepareBuffer queues : KeyedVector Nat (ConsumerSlot Token)).valueFor
      (poolCombinedId guiExtUsageHwc type idx)).isSome := by
  obtain ⟨bufNum, queue, less⟩ := configured
  have step : ∀ (entries : List (Nat × Nat)) (slots : KeyedVector Nat (ConsumerSlot Token)),
      (slots.valueFor (poolCombinedId guiExtUsageHwc type idx)).isSome ∨
        (type, bufNum) ∈ entries →
      ((entries.foldl
        (fun slots queue => PoolItem.prepareQueue guiExtUsageHwc queue.1 queue.2 slots)
        slots).valueFor (poolCombinedId guiExtUsageHwc type idx)).isSome := by
    intro entries
    induction entries with
    | nil => exact fun slots wanted => wanted.resolve_right nofun
    | cons entry entries ih =>
        intro slots wanted
        rw [List.foldl_cons]
        apply ih
        rcases wanted with there | occurs
        · exact Or.inl (isSome_prepareQueue slots _ _ (Or.inl there))
        · rcases List.mem_cons.mp occurs with rfl | later
          · exact Or.inl (isSome_prepareQueue slots _ _
              (Or.inr ⟨idx, List.mem_range.mpr less, rfl⟩))
          · exact Or.inr later
  exact step queues.entries .empty (Or.inr (KeyedVector.valueFor_eq_some_iff.mp queue))

/-- The slots of a new item are free, and each is that of its buffer. -/
theorem slotsSound_new {outputs : List (PoolOutput Token)} {number id : Nat} {token : Token}
    {isHwcNeeded : Bool} {displays : KeyedVector Nat Nat}
    (fit : isHwcNeeded = true → QueuesFit displays)
    (unused : ∀ usage type idx, holders number usage type idx outputs = []) :
    SlotsSound outputs (PoolItem.new number id token isHwcNeeded displays) := by
  have distinct :
      KeysDistinct (PoolItem.new number id token isHwcNeeded displays).hwcUsedBqList := by
    cases isHwcNeeded with
    | true => exact (fit rfl).keysDistinct
    | false =>
        rintro type idx other otherIdx ⟨bufNum, queue, -⟩
        cases queue
  refine ⟨distinct, ?_, ?_, ?_⟩
  · intro type idx configured
    exact isSome_prepareBuffer configured
  · intro key slot found
    have prepared := PoolItem.prepared_of_prepareBuffer found
    refine ⟨prepared.1, prepared.2.2.2, ?_⟩
    rw [prepared.2.2.1, prepared.1]
  · intro key slot found
    have prepared := PoolItem.prepared_of_prepareBuffer found
    rw [prepared.2.1]
    exact unused _ _ _

end Prepared

/-! ## What a call does to the slots -/

namespace SlotsSound

variable {outputs : List (PoolOutput Token)} {item taken : PoolItem Token} {token : Token}
  {usage type : Nat} {buf : Int} {slot : ConsumerSlot Token}

/-- An `acquire` of a free slot gives its buffer to the caller. -/
theorem acquire (sound : SlotsSound outputs item) (isHwc : usage = guiExtUsageHwc)
    (found : item.slot usage type buf = some slot) (isFor : slot.IsFor type buf)
    (free : slot.token = none) (before after : Option (ConsumerSlot Token)) (flags : List Bool) :
    SlotsSound (outputs ++ [.acquired item.number token usage type buf before after])
      { item.putSlot usage type buf (some token) with isDisconnected := flags } := by
  subst isHwc
  rw [PoolItem.slot] at found
  obtain ⟨-, configured, isKey⟩ := sound.named _ slot found
  rw [isFor.1, isFor.2] at configured isKey
  have holder := sound.held _ slot found
  rw [isFor.1, isFor.2, free] at holder
  refine ⟨sound.distinct, ?_, ?_, ?_⟩
  · intro otherType otherIdx isConfigured
    simp only [PoolItem.putSlot, KeyedVector.valueFor_add]
    split
    · rfl
    · exact sound.own otherType otherIdx isConfigured
  · intro key other isOther
    simp only [PoolItem.putSlot, KeyedVector.valueFor_add] at isOther
    split at isOther
    case isTrue same =>
      cases isOther
      exact ⟨rfl, configured, same⟩
    case isFalse => exact sound.named key other isOther
  · intro key other isOther
    simp only [PoolItem.putSlot, KeyedVector.valueFor_add] at isOther ⊢
    rw [holders_acquired]
    split at isOther
    · cases isOther
      rw [if_pos ⟨rfl, rfl, rfl, rfl⟩, holder]
      rfl
    case isFalse apart =>
      rw [if_neg]
      · exact sound.held key other isOther
      · rintro ⟨-, -, isType, isIdx⟩
        exact apart (sound.key_eq isOther found
          ⟨isType.symm.trans isFor.1.symm, isIdx.symm.trans isFor.2.symm⟩)

/-- A `release` takes the buffer from its holder. -/
theorem release (sound : SlotsSound outputs item) (isHwc : usage = guiExtUsageHwc)
    (found : item.slot usage type buf = some slot)
    (isFor : slot.IsFor type buf ∨ slot.token = none) :
    SlotsSound (outputs ++ [.released item.number usage type buf])
      { item with
        consumerList := item.consumerList.add (poolCombinedId usage type (toUint32 buf))
          { slot with token := none } } := by
  subst isHwc
  rw [PoolItem.slot] at found
  have named := sound.named _ slot found
  refine ⟨sound.distinct, ?_, ?_, ?_⟩
  · intro otherType otherIdx isConfigured
    simp only [KeyedVector.valueFor_add]
    split
    · rfl
    · exact sound.own otherType otherIdx isConfigured
  · intro key other isOther
    simp only [KeyedVector.valueFor_add] at isOther
    split at isOther
    case isTrue same =>
      cases isOther
      rw [same]
      exact named
    case isFalse => exact sound.named key other isOther
  · intro key other isOther
    simp only [KeyedVector.valueFor_add] at isOther
    rw [holders_released]
    split at isOther
    · cases isOther
      split
      · rfl
      case isFalse apart =>
        -- another buffer's slot was free
        have free := isFor.resolve_left fun same => apart ⟨rfl, rfl, same.1.symm, same.2.symm⟩
        have holder := sound.held _ slot found
        rw [free] at holder
        exact holder
    case isFalse apart =>
      rw [if_neg]
      · exact sound.held key other isOther
      · rintro ⟨-, -, isType, isIdx⟩
        apply apart
        rw [(sound.named key other isOther).2.2, isType, isIdx]

/-- A `release` that finds no slot names no buffer. -/
theorem release_of_none (sound : SlotsSound outputs item) (isHwc : usage = guiExtUsageHwc)
    (notFound : item.slot usage type buf = none) :
    SlotsSound (outputs ++ [.released item.number usage type buf]) item := by
  subst isHwc
  rw [PoolItem.slot] at notFound
  refine ⟨sound.distinct, sound.own, sound.named, ?_⟩
  intro key slot found
  rw [holders_released, if_neg]
  · exact sound.held key slot found
  · rintro ⟨-, -, isType, isIdx⟩
    have isKey := (sound.named key slot found).2.2
    rw [← isType, ← isIdx] at isKey
    rw [isKey, notFound] at found
    cases found

/-- A death takes its buffers from the binder. -/
theorem clearToken (sound : SlotsSound outputs item) (token : Token) :
    SlotsSound (outputs ++ [.died token]) (item.clearToken token) := by
  refine ⟨sound.distinct, ?_, ?_, ?_⟩
  · intro type idx configured
    rw [PoolItem.valueFor_clearToken, Option.isSome_map]
    exact sound.own type idx configured
  · intro key slot found
    rw [PoolItem.valueFor_clearToken, Option.map_eq_some_iff] at found
    obtain ⟨before, isBefore, rfl⟩ := found
    have named := sound.named key before isBefore
    split <;> exact named
  · intro key slot found
    rw [PoolItem.valueFor_clearToken, Option.map_eq_some_iff] at found
    obtain ⟨before, isBefore, rfl⟩ := found
    have holder := sound.held key before isBefore
    have number : (item.clearToken token).number = item.number := rfl
    rw [holders_died, number]
    by_cases isToken : before.token = some token
    · rw [if_pos isToken, holder, isToken]
      simp
    · rw [if_neg isToken, holder]
      cases other : before.token with
      | none => rfl
      | some holder =>
          have apart : holder ≠ token := by
            rintro rfl
            exact isToken other
          simp [apart]

/-- The notices of a death. -/
theorem binderDied (sound : SlotsSound outputs item) {left : PoolItem Token}
    (isLeft : item.binderDied token = some left) :
    SlotsSound (outputs ++ [.died token]) left ∧ left.id = item.id ∧
      left.number = item.number := by
  have consumer : SlotsSound (outputs ++ [.died token]) (item.consumerDied token).2 ∧
      (item.consumerDied token).2.id = item.id ∧
        (item.consumerDied token).2.number = item.number := by
    have cleared := sound.clearToken token
    rw [PoolItem.consumerDied]
    split
    · exact ⟨⟨cleared.distinct, cleared.own, cleared.named, cleared.held⟩, rfl, rfl⟩
    case isFalse notObserves =>
      refine ⟨⟨sound.distinct, sound.own, sound.named, ?_⟩, rfl, rfl⟩
      intro key slot found
      have holder := cleared.held key slot
      rw [PoolItem.valueFor_clearToken, found, Option.map_some, if_neg] at holder
      · exact holder rfl
      · intro isToken
        apply notObserves
        rw [PoolItem.observes, List.any_eq_true]
        exact ⟨slot, PoolItem.mem_slots_iff.mpr ⟨key, found⟩, decide_eq_true isToken⟩
  rw [PoolItem.binderDied] at isLeft
  split at isLeft
  · cases isLeft
  case h_2 before died =>
    rw [died] at consumer
    obtain ⟨beforeSound, same⟩ := consumer
    split at isLeft
    · dsimp only at isLeft
      split at isLeft
      · cases isLeft
      · cases isLeft
        exact ⟨⟨beforeSound.distinct, beforeSound.own, beforeSound.named, beforeSound.held⟩, same⟩
    · cases isLeft
      exact ⟨beforeSound, same⟩

end SlotsSound

/-! ## Runs -/

namespace BuffersSound

variable {outputs out : List (PoolOutput Token)} {state after : PoolState Token} {id : Nat}
  {item changed : PoolItem Token}

/-- A call that concerns one item, which stays sound. -/
theorem change (sound : BuffersSound outputs state)
    (found : state.pools.valueFor id = some item)
    (same : changed.id = item.id ∧ changed.number = item.number)
    (allocs : after.allocs = state.allocs)
    (lookup : ∀ other otherItem, after.pools.valueFor other = some otherItem →
      (other = id ∧ otherItem = changed) ∨
        (other ≠ id ∧ state.pools.valueFor other = some otherItem))
    (others : ∀ number, number ≠ item.number → ∀ usage type idx,
      holders number usage type idx (outputs ++ out) = holders number usage type idx outputs)
    (calls : ∀ output ∈ out, CallExact output)
    (exclusive : ∀ usage type idx,
      (holders item.number usage type idx (outputs ++ out)).length ≤ 1)
    (slots : SlotsSound (outputs ++ out) changed) :
    BuffersSound (outputs ++ out) after := by
  have isId := sound.listed id item found
  have small := sound.numbered id item found
  constructor
  · intro other otherItem isItem
    rcases lookup other otherItem isItem with ⟨rfl, rfl⟩ | ⟨-, isOther⟩
    · exact same.1.trans isId
    · exact sound.listed other otherItem isOther
  · intro other otherItem isItem
    rw [allocs]
    rcases lookup other otherItem isItem with ⟨rfl, rfl⟩ | ⟨-, isOther⟩
    · rw [same.2]
      exact small
    · exact sound.numbered other otherItem isOther
  · intro first firstItem second secondItem isFirst isSecond equal
    rcases lookup first firstItem isFirst with ⟨rfl, rfl⟩ | ⟨-, firstOther⟩
    · rcases lookup second secondItem isSecond with ⟨rfl, -⟩ | ⟨-, secondOther⟩
      · rfl
      · exact sound.single _ item second secondItem found secondOther (same.2.symm.trans equal)
    · rcases lookup second secondItem isSecond with ⟨rfl, rfl⟩ | ⟨-, secondOther⟩
      · exact sound.single first firstItem _ item firstOther found (equal.trans same.2)
      · exact sound.single first firstItem second secondItem firstOther secondOther equal
  · intro other otherItem isItem
    rcases lookup other otherItem isItem with ⟨-, rfl⟩ | ⟨apart, isOther⟩
    · exact slots
    · apply (sound.slots other otherItem isOther).congr
      apply others
      intro equal
      exact apart (sound.single other otherItem id item isOther found equal)
  · intro output occurs
    rcases List.mem_append.mp occurs with earlier | new
    · exact sound.calls output earlier
    · exact calls output new
  · intro number usage type idx later
    rw [allocs] at later
    rw [others number (by omega)]
    exact sound.unused number usage type idx later
  · intro number usage type idx
    by_cases isNumber : number = item.number
    · rw [isNumber]
      exact exclusive usage type idx
    · rw [others number isNumber]
      exact sound.exclusive number usage type idx

omit [DecidableEq Token] in
theorem put_cases (isId : changed.id = id) (other : Nat) (otherItem : PoolItem Token)
    (isItem : (state.put changed).pools.valueFor other = some otherItem) :
    (other = id ∧ otherItem = changed) ∨
      (other ≠ id ∧ state.pools.valueFor other = some otherItem) := by
  rw [PoolState.put, isId, KeyedVector.valueFor_add] at isItem
  split at isItem
  case isTrue same =>
    exact Or.inl ⟨same, (Option.some.inj isItem).symm⟩
  case isFalse apart => exact Or.inr ⟨apart, isItem⟩

omit [DecidableEq Token] in
theorem putOrRemove_cases (isId : changed.id = id) (other : Nat) (otherItem : PoolItem Token)
    (isItem : (state.putOrRemove changed).pools.valueFor other = some otherItem) :
    (other = id ∧ otherItem = changed) ∨
      (other ≠ id ∧ state.pools.valueFor other = some otherItem) := by
  rw [valueFor_putOrRemove, isId] at isItem
  split at isItem
  case isTrue isSame =>
    split at isItem
    · cases isItem
    · exact Or.inl ⟨isSame, (Option.some.inj isItem).symm⟩
  case isFalse apart => exact Or.inr ⟨apart, isItem⟩

/-- A call that leaves the slots of an item to their holders. -/
theorem keep (sound : BuffersSound outputs state) (found : state.pools.valueFor id = some item)
    (changed : PoolItem Token)
    (same : changed.id = item.id ∧ changed.number = item.number)
    (slots : changed.hwcUsedBqList = item.hwcUsedBqList ∧
      changed.consumerList = item.consumerList)
    (allocs : after.allocs = state.allocs)
    (lookup : ∀ other otherItem, after.pools.valueFor other = some otherItem →
      (other = id ∧ otherItem = changed) ∨
        (other ≠ id ∧ state.pools.valueFor other = some otherItem))
    (keeps : ∀ output ∈ out, output.keepsBuffers = true)
    (calls : ∀ output ∈ out, CallExact output) : BuffersSound (outputs ++ out) after := by
  have holds := fun number usage type idx =>
    holders_of_keeps number usage type idx outputs keeps
  refine sound.change found same allocs lookup (fun number _ => holds number) calls ?_ ?_
  · intro usage type idx
    rw [holds]
    exact sound.exclusive _ _ _ _
  · obtain ⟨distinct, own, named, held⟩ := sound.slots id item found
    rw [← slots.1] at distinct own
    rw [← slots.2] at own named held
    rw [← slots.1] at named
    rw [← same.2] at held
    have slotsSound : SlotsSound outputs changed := ⟨distinct, own, named, held⟩
    exact slotsSound.congr (holds changed.number)

/-- A call that changes no item. -/
theorem quiet (sound : BuffersSound outputs state) (pools : after.pools = state.pools)
    (allocs : after.allocs = state.allocs) : BuffersSound (outputs ++ []) after := by
  rw [List.append_nil]
  obtain ⟨listed, numbered, single, slots, calls, unused, exclusive⟩ := sound
  rw [← pools] at listed numbered single slots
  rw [← allocs] at numbered unused
  exact ⟨listed, numbered, single, slots, calls, unused, exclusive⟩

theorem alloc (sound : BuffersSound outputs state) {token : Token} {isHwcNeeded : Bool}
    {displays : KeyedVector Nat Nat} (fit : isHwcNeeded = true → QueuesFit displays)
    (free : state.pools.valueFor id = none) :
    BuffersSound (outputs ++ [.allocated state.allocs token])
      { state.put (PoolItem.new state.allocs id token isHwcNeeded displays) with
        poolId := id, displays := displays, allocs := state.allocs + 1 } := by
  let new := PoolItem.new state.allocs id token isHwcNeeded displays
  have keeps : ∀ number usage type idx,
      holders number usage type idx (outputs ++ [.allocated state.allocs token]) =
        holders number usage type idx outputs := by
    intro number usage type idx
    exact holders_of_keeps number usage type idx outputs (by simp [PoolOutput.keepsBuffers])
  have cases : ∀ other otherItem, (state.put new).pools.valueFor other = some otherItem →
      (other = id ∧ otherItem = new) ∨
        (other ≠ id ∧ state.pools.valueFor other = some otherItem) := put_cases rfl
  constructor
  · intro other otherItem isItem
    rcases cases other otherItem isItem with ⟨rfl, rfl⟩ | ⟨-, isOther⟩
    · rfl
    · exact sound.listed other otherItem isOther
  · intro other otherItem isItem
    rcases cases other otherItem isItem with ⟨rfl, rfl⟩ | ⟨-, isOther⟩
    · exact Nat.lt_succ_self _
    · exact Nat.lt_succ_of_lt (sound.numbered other otherItem isOther)
  · intro first firstItem second secondItem isFirst isSecond equal
    rcases cases first firstItem isFirst with ⟨rfl, rfl⟩ | ⟨-, firstOther⟩
    · rcases cases second secondItem isSecond with ⟨rfl, -⟩ | ⟨-, secondOther⟩
      · rfl
      · have less := sound.numbered second secondItem secondOther
        exact absurd equal less.ne'
    · have less := sound.numbered first firstItem firstOther
      rcases cases second secondItem isSecond with ⟨rfl, rfl⟩ | ⟨-, secondOther⟩
      · exact absurd equal less.ne
      · exact sound.single first firstItem second secondItem firstOther secondOther equal
  · intro other otherItem isItem
    rcases cases other otherItem isItem with ⟨-, rfl⟩ | ⟨-, isOther⟩
    · apply slotsSound_new fit
      intro usage type idx
      rw [keeps]
      exact sound.unused _ _ _ _ (Nat.le_refl _)
    · exact (sound.slots other otherItem isOther).congr (keeps otherItem.number)
  · intro output occurs
    rcases List.mem_append.mp occurs with earlier | new
    · exact sound.calls output earlier
    · rw [List.mem_singleton.mp new]
      trivial
  · intro number usage type idx later
    rw [keeps]
    exact sound.unused number usage type idx (Nat.le_of_succ_le later)
  · intro number usage type idx
    rw [keeps]
    exact sound.exclusive number usage type idx

theorem acquire (sound : BuffersSound outputs state) (found : state.pools.valueFor id = some item)
    {token : Token} {usage type : Nat} {buf : Int}
    (free : item.check usage type = .noError →
      ∀ slot ∈ item.slot usage type buf, slot.IsFor type buf ∧ slot.token = none)
    (acquired : item.acquire token usage type buf = (.noError, changed)) :
    BuffersSound (outputs ++ [.acquired item.number token usage type buf
      (item.slot usage type buf) (changed.slot usage type buf)]) (state.put changed) := by
  obtain ⟨passes, slot, isSlot, isChanged⟩ := PoolItem.acquire_noError acquired
  have isHwc := PoolItem.usage_of_check passes
  obtain ⟨isFor, isFree⟩ := free passes slot isSlot
  rw [if_pos (by rw [isFree]; rfl)] at isChanged
  have isId := sound.listed id item found
  have itemSound := sound.slots id item found
  obtain ⟨isUsage, -, -⟩ := itemSound.named _ slot isSlot
  have before : item.slot usage type buf = some ⟨usage, type, toUint32 buf, none⟩ := by
    rw [isSlot, ← isFor.1, ← isFor.2, ← isFree, isHwc, ← isUsage]
  have after : changed.slot usage type buf = some ⟨usage, type, toUint32 buf, some token⟩ := by
    rw [isChanged]
    exact KeyedVector.valueFor_add_self _ _ _
  -- the buffer had no holder
  have holder := itemSound.held _ slot isSlot
  rw [isFor.1, isFor.2, isFree, ← isHwc] at holder
  refine sound.change found (by rw [isChanged]; exact ⟨rfl, rfl⟩) rfl
    (put_cases (by rw [isChanged]; exact isId)) ?_ ?_ ?_ ?_
  · intro number apart otherUsage otherType idx
    rw [holders_acquired, if_neg fun same => apart same.1.symm]
  · intro output occurs
    rw [List.mem_singleton.mp occurs]
    exact ⟨before, after⟩
  · intro otherUsage otherType idx
    rw [holders_acquired]
    split
    case isTrue same =>
      rw [← same.2.1, ← same.2.2.1, ← same.2.2.2, holder]
      exact Nat.le_refl _
    case isFalse => exact sound.exclusive _ _ _ _
  · rw [isChanged]
    exact itemSound.acquire isHwc isSlot isFor isFree _ _ _

theorem released (sound : BuffersSound outputs state)
    (found : state.pools.valueFor id = some item) {usage type : Nat} {buf : Int}
    (same : changed.id = item.id ∧ changed.number = item.number)
    (slots : SlotsSound (outputs ++ [.released item.number usage type buf]) changed) :
    BuffersSound (outputs ++ [.released item.number usage type buf]) (state.put changed) := by
  refine sound.change found same rfl (put_cases (same.1.trans (sound.listed id item found)))
    ?_ ?_ ?_ slots
  · intro number apart otherUsage otherType idx
    rw [holders_released, if_neg fun equal => apart equal.1.symm]
  · intro output occurs
    rw [List.mem_singleton.mp occurs]
    trivial
  · intro otherUsage otherType idx
    rw [holders_released]
    split
    · exact Nat.zero_le 1
    · exact sound.exclusive _ _ _ _

theorem dies (sound : BuffersSound outputs state) (token : Token) :
    BuffersSound (outputs ++ [.died token])
      { state with
        pools := state.pools.modify (PoolItem.binderDied token)
        dead := Function.update state.dead token true } := by
  have cases : ∀ id left,
      (state.pools.modify (PoolItem.binderDied token)).valueFor id = some left →
      ∃ item, state.pools.valueFor id = some item ∧
        SlotsSound (outputs ++ [.died token]) left ∧ left.id = item.id ∧
          left.number = item.number := by
    intro id left found
    rw [KeyedVector.valueFor_modify, Option.bind_eq_some_iff] at found
    obtain ⟨item, isItem, isLeft⟩ := found
    exact ⟨item, isItem, (sound.slots id item isItem).binderDied isLeft⟩
  constructor
  · intro id left found
    obtain ⟨item, isItem, -, isId, -⟩ := cases id left found
    rw [isId]
    exact sound.listed id item isItem
  · intro id left found
    obtain ⟨item, isItem, -, -, number⟩ := cases id left found
    rw [number]
    exact sound.numbered id item isItem
  · intro first firstLeft second secondLeft isFirst isSecond same
    obtain ⟨firstItem, firstFound, -, -, firstNumber⟩ := cases first firstLeft isFirst
    obtain ⟨secondItem, secondFound, -, -, secondNumber⟩ := cases second secondLeft isSecond
    rw [firstNumber, secondNumber] at same
    exact sound.single first firstItem second secondItem firstFound secondFound same
  · intro id left found
    obtain ⟨item, -, slots, -⟩ := cases id left found
    exact slots
  · intro output occurs
    rcases List.mem_append.mp occurs with earlier | new
    · exact sound.calls output earlier
    · rw [List.mem_singleton.mp new]
      trivial
  · intro number usage type idx later
    rw [holders_died, sound.unused number usage type idx later]
    rfl
  · intro number usage type idx
    rw [holders_died]
    exact (List.length_filter_le _ _).trans (sound.exclusive number usage type idx)

theorem step {history : History (PoolEvent Token) (PoolOutput Token)} {event : PoolEvent Token}
    (sound : BuffersSound history.outputs state) (guarded : BuffersNamed history state event)
    (stepped : state.step event = some (after, out)) :
    BuffersSound (history.outputs ++ out) after := by
  cases event with
  | configDisplay type enable w h bufNum =>
      cases stepped
      exact sound.quiet rfl rfl
  | alloc token isHwcNeeded =>
      simp only [PoolState.step, PoolState.alloc] at stepped
      split at stepped
      · cases stepped
        exact sound.quiet rfl rfl
      case isFalse room =>
        obtain ⟨id, isId, same⟩ := Option.map_eq_some_iff.mp stepped
        cases same
        exact sound.alloc (fun needed => guarded needed (Nat.lt_of_not_le room))
          (getPoolId_eq_some isId).1
  | free poolId =>
      simp only [PoolState.step] at stepped
      split at stepped
      case h_1 item found =>
        cases stepped
        exact sound.keep found { item with producerToken := none } ⟨rfl, rfl⟩ ⟨rfl, rfl⟩ rfl
          (putOrRemove_cases (sound.listed poolId item found))
          (by simp [PoolOutput.keepsBuffers]) (by simp [CallExact])
      case h_2 =>
        cases stepped
        exact sound.quiet rfl rfl
  | acquire token poolId usage type buf =>
      simp only [PoolState.step, PoolState.acquire, Option.some.injEq] at stepped
      split at stepped
      case h_1 item found =>
        split at stepped
        case h_1 taken acquired =>
          cases stepped
          exact sound.acquire found (guarded item found) acquired
        case h_2 status left fails acquired =>
          cases stepped
          have same := PoolItem.acquire_of_fails acquired fun isNo => fails isNo
          subst same
          exact sound.keep found left ⟨rfl, rfl⟩ ⟨rfl, rfl⟩ rfl
            (put_cases (sound.listed poolId left found))
            (by simp [PoolOutput.keepsBuffers]) (by simp [CallExact])
      case h_2 =>
        cases stepped
        exact sound.quiet rfl rfl
  | release poolId usage type buf =>
      simp only [PoolState.step] at stepped
      split at stepped
      case h_1 item found =>
        have itemSound := sound.slots poolId item found
        split at stepped
        case h_1 left released =>
          cases stepped
          rcases PoolItem.release_cases released with
            ⟨rfl, notFound⟩ | ⟨-, passes, slot, isSlot, rfl⟩
          · obtain ⟨passes, noSlot⟩ := notFound rfl
            exact sound.released found ⟨rfl, rfl⟩
              (itemSound.release_of_none (PoolItem.usage_of_check passes) noSlot)
          · exact sound.released found ⟨rfl, rfl⟩
              (itemSound.release (PoolItem.usage_of_check passes) isSlot
                (guarded item found passes slot isSlot))
        case h_2 status left fails released =>
          cases stepped
          rcases PoolItem.release_cases released with ⟨rfl, -⟩ | ⟨isNo, -⟩
          · exact sound.keep found left ⟨rfl, rfl⟩ ⟨rfl, rfl⟩ rfl
              (put_cases (sound.listed poolId left found)) (by simp) (by simp)
          · exact absurd isNo fun isNo => fails isNo
      case h_2 =>
        cases stepped
        exact sound.quiet rfl rfl
  | disconnect token poolId usage type =>
      simp only [PoolState.step] at stepped
      split at stepped
      case h_1 item found =>
        rw [PoolItem.disconnect] at stepped
        by_cases refused : item.isHwcNeeded = false ∧ usage = guiExtUsageHwc
        · simp only [refused, and_self, if_true] at stepped
          cases stepped
          exact sound.keep found item ⟨rfl, rfl⟩ ⟨rfl, rfl⟩ rfl
            (putOrRemove_cases (sound.listed poolId item found)) (by simp) (by simp)
        · simp only [refused, if_false] at stepped
          cases stepped
          exact sound.keep found
            { item with isDisconnected := item.isDisconnected.set usage true } ⟨rfl, rfl⟩
            ⟨rfl, rfl⟩ rfl (putOrRemove_cases (sound.listed poolId item found))
            (by simp [PoolOutput.keepsBuffers]) (by simp [CallExact])
      case h_2 =>
        cases stepped
        exact sound.quiet rfl rfl
  | dies token =>
      simp only [PoolState.step] at stepped
      split at stepped
      · cases stepped
      · cases stepped
        exact sound.dies token

theorem run {history : History (PoolEvent Token) (PoolOutput Token)}
    (run : (poolSystem Token).Run BuffersNamed history state) :
    BuffersSound history.outputs state := by
  induction run with
  | start starts =>
      rw [starts]
      constructor <;> simp [poolInit, holders]
  | next running guarded stepped ih =>
      rw [History.outputs_snoc]
      exact ih.step guarded stepped

end BuffersSound

/-- No buffer has two holders in a run whose calls name their buffers. -/
theorem buffers_exclusive {history : History (PoolEvent Token) (PoolOutput Token)}
    {state : PoolState Token} (run : (poolSystem Token).Run BuffersNamed history state) :
    BuffersExclusive history state := by
  have sound := BuffersSound.run run
  constructor
  · exact fun id item found => (sound.slots id item found).distinct
  · intro id item found type idx configured
    exact (sound.slots id item found).valueFor configured
  · exact sound.calls
  · exact sound.exclusive

/-- A buffer that another consumer acquires after its release, and one that is free after the
death of its holder. -/
theorem buffers_exclusive_again : ∃ history state,
    (poolSystem Nat).Run BuffersNamed history state ∧ BuffersExclusive history state ∧
    (holders 0 1 0 0 history.outputs, holders 0 1 1 7 history.outputs) = ([], [1]) ∧
    history.events = [.configDisplay 1 true 720 1280 8, .alloc 0 true, .acquire 1 1 1 0 0,
      .acquire 2 1 1 1 7, .release 1 1 0 0, .acquire 2 1 1 0 0, .acquire 1 1 1 2 0, .dies 2,
      .acquire 1 1 1 1 7] := by
  let calls : List (PoolEvent Nat) := [.configDisplay 1 true 720 1280 8, .alloc 0 true,
    .acquire 1 1 1 0 0, .acquire 2 1 1 1 7, .release 1 1 0 0, .acquire 2 1 1 0 0,
    .acquire 1 1 1 2 0, .dies 2, .acquire 1 1 1 1 7]
  have executed : ((poolSystem Nat).exec poolInit calls).map
      (fun final => ((holders 0 1 0 0 final.1.outputs, holders 0 1 1 7 final.1.outputs),
        final.1.events)) = some (([], [1]), calls) := by
    decide +kernel
  rcases System.exists_run_of_exec (poolSystem Nat) BuffersNamed calls _ rfl
    (by decide +kernel) executed with ⟨history, state, run, seen⟩
  obtain ⟨held, events⟩ := Prod.mk.inj seen
  exact ⟨history, state, run, buffers_exclusive run, held, events⟩

/-- The queues of a listed pool and the slot under one of its keys. -/
def slotAt (id key : Nat) (state : PoolState Token) :
    Option (List (Nat × Nat) × Option (ConsumerSlot Token)) :=
  (state.pools.valueFor id).map fun item =>
    (item.hwcUsedBqList.entries, item.consumerList.valueFor key)

/-- Calls after which two tokens hold a buffer of the first pool. -/
theorem exists_run_twoHolders (type : Nat) (calls : List (PoolEvent Nat))
    (passes : (poolSystem Nat).meets System.free [] poolInit calls = true)
    (executed : ((poolSystem Nat).exec poolInit calls).map
      (fun final => (final.1.events, holders 0 1 type 0 final.1.outputs)) =
        some (calls, [2, 1])) :
    ∃ history state, (poolSystem Nat).Run System.free history state ∧
      ¬ BuffersExclusive history state ∧ history.events = calls := by
  rcases System.exists_run_of_exec (poolSystem Nat) System.free calls _ rfl
    passes executed with ⟨history, state, run, seen⟩
  obtain ⟨events, held⟩ := Prod.mk.inj seen
  refine ⟨history, state, run, ?_, events⟩
  intro exclusive
  have single := exclusive.exclusive 0 1 type 0
  rw [held] at single
  exact absurd single (by decide)

/-- What goes wrong: an index that does not fit into the key; an `acquire` of a buffer that is
taken; an `acquire` of a buffer that is not there; and such a `release`. -/
theorem buffers_not_exclusive :
    (∃ history state, (poolSystem Nat).Run System.free history state ∧
      ¬ BuffersExclusive history state ∧
      history.events = [.configDisplay 1 true 720 1280 9, .alloc 0 true]) ∧
    (∃ history state, (poolSystem Nat).Run System.free history state ∧
      ¬ BuffersExclusive history state ∧
      history.events = [.alloc 0 true, .acquire 1 1 1 0 0, .acquire 2 1 1 0 0]) ∧
    (∃ history state, (poolSystem Nat).Run System.free history state ∧
      ¬ BuffersExclusive history state ∧
      history.events = [.configDisplay 1 true 720 1280 3, .alloc 0 true, .acquire 1 1 1 0 8]) ∧
    ∃ history state, (poolSystem Nat).Run System.free history state ∧
      ¬ BuffersExclusive history state ∧
      history.events = [.configDisplay 1 true 720 1280 3, .alloc 0 true, .acquire 1 1 1 1 0,
        .release 1 1 0 8, .acquire 2 1 1 1 0] := by
  refine ⟨?_, ?_, ?_, ?_⟩
  · let calls : List (PoolEvent Nat) := [.configDisplay 1 true 720 1280 9, .alloc 0 true]
    have executed : ((poolSystem Nat).exec poolInit calls).map
        (fun final => (final.1.events, slotAt 1 72 final.2)) =
          some (calls, some ([(0, 3), (1, 9)], some ⟨1, 1, 0, none⟩)) := by
      decide +kernel
    rcases System.exists_run_of_exec (poolSystem Nat) System.free calls _ rfl
      (by decide +kernel) executed with ⟨history, state, run, seen⟩
    obtain ⟨events, slot⟩ := Prod.mk.inj seen
    refine ⟨history, state, run, ?_, events⟩
    intro exclusive
    obtain ⟨item, found, same⟩ := Option.map_eq_some_iff.mp slot
    have queue : item.hwcUsedBqList.valueFor 1 = some 9 := by
      rw [KeyedVector.valueFor_eq_some_iff, (Prod.mk.inj same).1]
      decide
    have equal := exclusive.distinct 1 item found 1 0 1 8 ⟨9, queue, by decide⟩
      ⟨9, queue, by decide⟩ (by decide)
    exact absurd equal.2 (by decide)
  · exact exists_run_twoHolders 0 _ (by decide +kernel) (by decide +kernel)
  · let calls : List (PoolEvent Nat) := [.configDisplay 1 true 720 1280 3, .alloc 0 true,
      .acquire 1 1 1 0 8]
    have executed : ((poolSystem Nat).exec poolInit calls).map
        (fun final => (final.1.events, slotAt 1 72 final.2)) =
          some (calls, some ([(0, 3), (1, 3)], some ⟨1, 0, 8, some 1⟩)) := by
      decide +kernel
    rcases System.exists_run_of_exec (poolSystem Nat) System.free calls _ rfl
      (by decide +kernel) executed with ⟨history, state, run, seen⟩
    obtain ⟨events, slot⟩ := Prod.mk.inj seen
    refine ⟨history, state, run, ?_, events⟩
    intro exclusive
    obtain ⟨item, found, same⟩ := Option.map_eq_some_iff.mp slot
    obtain ⟨queues, atKey⟩ := Prod.mk.inj same
    have queue : item.hwcUsedBqList.valueFor 1 = some 3 := by
      rw [KeyedVector.valueFor_eq_some_iff, queues]
      decide
    obtain ⟨token, own⟩ := exclusive.own 1 item found 1 0 ⟨3, queue, by decide⟩
    have isKey : poolCombinedId guiExtUsageHwc 1 0 = 72 := by decide
    rw [isKey, atKey] at own
    cases own
  · exact exists_run_twoHolders 1 _ (by decide +kernel) (by decide +kernel)

end X3Hal.Gui
