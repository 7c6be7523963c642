import X3Hal.Memory.CyclicStore
import X3Hal.Transition.Justified
import Mathlib.Algebra.Order.Ring.Int
import Mathlib.Data.List.Induction

/-!
# The ring of backups

A `RingBuffer` keeps the last items that were pushed.  A custom pusher writes the head item
itself, or refuses.  The head and the size are numbers of 32 bits, and the count has 64.

A vector that gets a size is taken to get its memory.
-/

namespace X3Hal.Gui

open X3Hal.Memory X3Hal.Transition

universe u

variable {α : Type u}

/-- `Pusher::push` with what it is given and the head item: the head item that it writes, or
`none` when it refuses. -/
abbrev Pusher (α : Type u) := α → α → Option α

structure RingBuffer (α : Type u) where
  /-- `mBuffer` -/
  buffer : List α
  /-- `mHead` -/
  head : Nat
  /-- `mSize` -/
  size : Nat
  /-- `mCount` -/
  count : Nat
  /-- `mPusher` -/
  pusher : Option (Pusher α)

namespace RingBuffer

def new : RingBuffer α :=
  ⟨[], 0, 0, 0, none⟩

def getValidSize (ring : RingBuffer α) : Nat :=
  if ring.size < ring.count then ring.size else ring.count

/-- The index that `getItem` makes of its own. -/
def itemIndex (idx : Nat) (ring : RingBuffer α) : Nat :=
  let oldest := if ring.count > ring.size then ring.head else 0
  -- a sum of type `uint32_t`
  (oldest + idx) % 2 ^ 32 % ring.size

def getItem (idx : Nat) (ring : RingBuffer α) : Option α :=
  ring.buffer[ring.itemIndex idx]?

inductive RingEvent (α : Type u)
  | resize (size : Nat)
  | setPusher (pusher : Pusher α)
  | push (item : α)

inductive RingOutput (α : Type u)
  /-- An item of the storage is used: its index, and the length of the storage. -/
  | used (index length : Nat)
  /-- The storage is new. -/
  | cleared (size : Nat)
  /-- A push has written an item. -/
  | accepted (item : α)

/-- `resize`; the items of the new storage are made by their constructor. -/
def resize (blank : α) (size : Nat) (ring : RingBuffer α) : RingBuffer α × List (RingOutput α) :=
  if ring.size ≠ size then
    ({ ring with size := size, head := 0, count := 0, buffer := List.replicate size blank },
      [.cleared size])
  else (ring, [])

/-- What a push writes at the head, with the item that is there. -/
def written (item old : α) (ring : RingBuffer α) : Option α :=
  match ring.pusher with
  | some push => push item old
  | none => some item

/-- `push`; what happens to an item outside of the storage is left open. -/
def push (blank item : α) (ring : RingBuffer α) : RingBuffer α × List (RingOutput α) :=
  let use := .used ring.head ring.buffer.length
  match ring.written item (ring.buffer.getD ring.head blank) with
  | none => (ring, [use])
  | some new =>
      ({ ring with
        buffer := ring.buffer.set ring.head new
        head := if ring.head + 1 ≥ ring.size then 0 else ring.head + 1
        count := (ring.count + 1) % 2 ^ 64 }, [use, .accepted new])

def step (blank : α) (ring : RingBuffer α) :
    RingEvent α → Option (RingBuffer α × List (RingOutput α))
  | .resize size => some (ring.resize blank size)
  | .setPusher pusher => some ({ ring with pusher := some pusher }, [])
  | .push item => some (ring.push blank item)

end RingBuffer

def ringSystem (blank : α) :
    System (RingBuffer α) (RingBuffer.RingEvent α) (RingBuffer.RingOutput α) where
  Init := fun ring => ring = .new
  step := RingBuffer.step blank

/-! ## The bounded queue -/

/-- A queue that keeps at most so many items, the last ones. -/
structure BoundedQueue (α : Type u) where
  capacity : Nat
  /-- what was pushed since the queue got its capacity -/
  accepted : List α

namespace BoundedQueue

/-- The items that it has. -/
def items (queue : BoundedQueue α) : List α :=
  lastItems queue.capacity queue.accepted

def apply (queue : BoundedQueue α) : RingBuffer.RingOutput α → BoundedQueue α
  | .used _ _ => queue
  | .cleared size => ⟨size, []⟩
  | .accepted item => { queue with accepted := queue.accepted ++ [item] }

/-- The queue after a resize to another size, or some accepted pushes. -/
def of (outputs : List (RingBuffer.RingOutput α)) : BoundedQueue α :=
  outputs.foldl apply ⟨0, []⟩

end BoundedQueue

/-- The ring is a bounded queue, and uses only items of its storage. -/
structure RefinesQueue (outputs : List (RingBuffer.RingOutput α)) (ring : RingBuffer α) :
    Prop where
  validSize : ring.getValidSize =
    min (BoundedQueue.of outputs).capacity (BoundedQueue.of outputs).accepted.length
  getItem : ∀ i < ring.getValidSize, ring.getItem i = (BoundedQueue.of outputs).items[i]?
  inside : ∀ i < ring.getValidSize, ring.itemIndex i < ring.buffer.length
  used : ∀ index length, .used index length ∈ outputs → index < length

/-- After so many accepted pushes the count is right or has gone round to more than the size,
and the sum of the head and an index does not go round, unless the head is not used. -/
def NumbersFit (size accepted : Nat) : Prop :=
  0 < size → (accepted < 2 ^ 64 ∨ size < accepted % 2 ^ 64 ∨
      size = accepted % 2 ^ 64 ∧ accepted % size = 0) ∧
    (accepted ≤ size ∨ accepted % size + size ≤ 2 ^ 32)

/-- Sizes up to the half of all numbers fit for all counts. -/
theorem numbersFit_of_le {size accepted : Nat} (small : size ≤ 2 ^ 31)
    (less : accepted < 2 ^ 64) : NumbersFit size accepted := by
  intro sized
  have head := Nat.mod_lt accepted sized
  exact ⟨Or.inl less, Or.inr (by omega)⟩

/-- A push comes after a resize. -/
def SizedFirst (events : List (RingBuffer.RingEvent α)) : Prop :=
  Justified (fun before event => ∀ item, event = .push item → ∃ size, .resize size ∈ before) events

/-- The sizes are positive numbers of 32 bits. -/
def PositiveSizes :
    System.Guard (RingBuffer α) (RingBuffer.RingEvent α) (RingBuffer.RingOutput α)
  | _, _, .resize size => 0 < size ∧ size < 2 ^ 32
  | _, _, .push _ | _, _, .setPusher _ => True

instance (history : History (RingBuffer.RingEvent α) (RingBuffer.RingOutput α))
    (ring : RingBuffer α) (event : RingBuffer.RingEvent α) :
    Decidable (PositiveSizes history ring event) :=
  match event with
  | .resize _ => inferInstanceAs (Decidable (_ ∧ _))
  | .push _ | .setPusher _ => inferInstanceAs (Decidable True)

/-! ## The storage of a run -/

/-- The storage has the last accepted items, the next one goes to the head. -/
structure RingSound (queue : BoundedQueue α) (ring : RingBuffer α) : Prop where
  size : ring.size = queue.capacity
  small : ring.size < 2 ^ 32
  length : ring.buffer.length = ring.size
  head : ring.head = if ring.size = 0 then 0 else queue.accepted.length % ring.size
  count : ring.count = queue.accepted.length % 2 ^ 64
  store : CyclicStore ring.buffer queue.accepted

section Steps

variable {queue : BoundedQueue α} {ring : RingBuffer α}

theorem RingSound.head_lt (sound : RingSound queue ring) (sized : 0 < ring.size) :
    ring.head < ring.buffer.length := by
  rw [sound.head, sound.length, if_neg (by omega)]
  exact Nat.mod_lt _ sized

theorem RingSound.resize (sound : RingSound queue ring) (blank : α) {size : Nat}
    (small : size < 2 ^ 32) :
    RingSound ((ring.resize blank size).2.foldl BoundedQueue.apply queue)
      (ring.resize blank size).1 := by
  rw [RingBuffer.resize]
  split
  case isTrue =>
    refine ⟨rfl, small, List.length_replicate, ?_, rfl, .nil⟩
    split
    · rfl
    · exact (Nat.zero_mod size).symm
  case isFalse => exact sound

/-- The head after the next item. -/
theorem next_head {size accepted : Nat} (sized : 0 < size) :
    (if accepted % size + 1 ≥ size then 0 else accepted % size + 1) = (accepted + 1) % size := by
  have less := Nat.mod_lt accepted sized
  rw [← Nat.mod_add_mod]
  split
  case isTrue last =>
    have same : accepted % size + 1 = size := by omega
    rw [same, Nat.mod_self]
  case isFalse more => exact (Nat.mod_eq_of_lt (by omega)).symm

theorem RingSound.push (sound : RingSound queue ring) (blank item : α) :
    RingSound ((ring.push blank item).2.foldl BoundedQueue.apply queue)
      (ring.push blank item).1 := by
  rw [RingBuffer.push]
  cases accepts : ring.written item (ring.buffer.getD ring.head blank) with
  | none => exact sound
  | some new =>
      refine ⟨sound.size, sound.small, ?_, ?_, ?_, ?_⟩
      · rw [List.length_set]
        exact sound.length
      · simp only [List.foldl_cons, List.foldl_nil, BoundedQueue.apply, List.length_append,
          List.length_singleton]
        by_cases none : ring.size = 0
        · rw [if_pos none, if_pos (by omega)]
        · rw [if_neg none, sound.head, if_neg none]
          exact next_head (by omega)
      · simp only [List.foldl_cons, List.foldl_nil, BoundedQueue.apply, List.length_append,
          List.length_singleton, sound.count]
        rw [Nat.mod_add_mod]
      · simp only [List.foldl_cons, List.foldl_nil, BoundedQueue.apply]
        by_cases none : ring.size = 0
        · have empty : ring.buffer = [] := List.length_eq_zero_iff.mp (sound.length.trans none)
          rw [empty, List.set_nil]
          exact .of_nil
        · rw [sound.head, if_neg none, ← sound.length]
          exact sound.store.snoc (by rw [sound.length]; omega)

/-! ## What is read -/

theorem RingSound.getValidSize (sound : RingSound queue ring) :
    ring.getValidSize = min ring.size (queue.accepted.length % 2 ^ 64) := by
  rw [RingBuffer.getValidSize, sound.count]
  split <;> omega

/-- With numbers that fit the valid size is that of the queue. -/
theorem RingSound.validSize (sound : RingSound queue ring)
    (fits : NumbersFit ring.size queue.accepted.length) :
    ring.getValidSize = min queue.capacity queue.accepted.length := by
  rw [sound.getValidSize, ← sound.size]
  rcases Nat.eq_zero_or_pos ring.size with none | sized
  · rw [none, Nat.zero_min, Nat.zero_min]
  · have smaller := Nat.mod_le queue.accepted.length (2 ^ 64)
    rcases (fits sized).1 with less | more | ⟨same, -⟩
    · rw [Nat.mod_eq_of_lt less]
    · omega
    · omega

theorem RingSound.itemIndex_eq (sound : RingSound queue ring) (sized : 0 < ring.size) (i : Nat) :
    ring.itemIndex i =
      ((if queue.accepted.length % 2 ^ 64 > ring.size then queue.accepted.length % ring.size
        else 0) + i) % 2 ^ 32 % ring.size := by
  rw [RingBuffer.itemIndex, sound.head, if_neg (Nat.ne_of_gt sized), sound.count]

/-- With numbers that fit an index is that of the place of its item. -/
theorem RingSound.itemIndex (sound : RingSound queue ring)
    (fits : NumbersFit ring.size queue.accepted.length) {i : Nat} (less : i < ring.getValidSize) :
    ring.itemIndex i =
      (oldestPlace ring.size queue.accepted.length + i) % ring.size := by
  have small := sound.small
  have valid := sound.getValidSize
  have sized : 0 < ring.size := by omega
  have headLess := Nat.mod_lt queue.accepted.length sized
  rw [sound.itemIndex_eq sized, oldestPlace]
  have oldest : (if queue.accepted.length % 2 ^ 64 > ring.size
        then queue.accepted.length % ring.size else 0) =
      if queue.accepted.length > ring.size then queue.accepted.length % ring.size else 0 := by
    have smaller := Nat.mod_le queue.accepted.length (2 ^ 64)
    rcases (fits sized).1 with less | more | ⟨same, zero⟩
    · rw [Nat.mod_eq_of_lt less]
    · rw [if_pos more, if_pos (by omega)]
    · rw [zero, ite_self, ite_self]
  rw [oldest]
  congr 1
  apply Nat.mod_eq_of_lt
  split
  case isTrue full =>
    rcases (fits sized).2 with notFull | sum
    · omega
    · omega
  case isFalse => omega

/-- Every index is one of the storage. -/
theorem RingSound.inside (sound : RingSound queue ring) {i : Nat} (less : i < ring.getValidSize) :
    ring.itemIndex i < ring.buffer.length := by
  have valid := sound.getValidSize
  rw [sound.length, RingBuffer.itemIndex]
  exact Nat.mod_lt _ (by omega)

/-- With numbers that fit the items are those of the queue. -/
theorem RingSound.getItem (sound : RingSound queue ring)
    (fits : NumbersFit ring.size queue.accepted.length) {i : Nat} (less : i < ring.getValidSize) :
    ring.getItem i = queue.items[i]? := by
  have valid := sound.validSize fits
  rw [← sound.size] at valid
  rw [RingBuffer.getItem, sound.itemIndex fits less, BoundedQueue.items, ← sound.size,
    ← sound.length]
  exact sound.store.read (by rw [sound.length]; omega) (by omega)

/-- With different items they are those of the queue only with numbers that fit. -/
theorem RingSound.fits (sound : RingSound queue ring) (nodup : queue.accepted.Nodup)
    (validSize : ring.getValidSize = min queue.capacity queue.accepted.length)
    (getItem : ∀ i < ring.getValidSize, ring.getItem i = queue.items[i]?) :
    NumbersFit ring.size queue.accepted.length := by
  intro sized
  have small := sound.small
  have valid := sound.getValidSize
  have smaller := Nat.mod_le queue.accepted.length (2 ^ 64)
  rw [← sound.size] at validSize
  by_cases notFull : queue.accepted.length ≤ ring.size
  · exact ⟨Or.inl (by omega), Or.inl notFull⟩
  · have place : ∀ i < ring.size,
        ring.itemIndex i = (queue.accepted.length + i) % ring.size := by
      intro i less
      have isItem := getItem i (by omega)
      have index := sound.inside (i := i) (by omega)
      rw [RingBuffer.getItem, BoundedQueue.items, ← sound.size, ← sound.length] at isItem
      have unique := sound.store.place_unique (by rw [sound.length]; omega) nodup index
        (by rw [sound.length]; exact less) isItem
      rw [unique, sound.length]
    have headLess := Nat.mod_lt queue.accepted.length sized
    have first := place 0 sized
    rw [sound.itemIndex_eq sized, Nat.add_zero, Nat.add_zero] at first
    by_cases more : queue.accepted.length % 2 ^ 64 > ring.size
    · refine ⟨Or.inr (Or.inl more), Or.inr ?_⟩
      by_contra sum
      -- the index whose sum with the head goes round to zero
      let i := 2 ^ 32 - queue.accepted.length % ring.size
      have round := place i (by omega)
      rw [sound.itemIndex_eq sized, if_pos more, ← Nat.mod_add_mod queue.accepted.length] at round
      have total : queue.accepted.length % ring.size + i = 2 ^ 32 := by omega
      have wrapped : 2 ^ 32 % 2 ^ 32 % ring.size = 0 := by
        rw [Nat.mod_self, Nat.zero_mod]
      have unwrapped : 2 ^ 32 % ring.size = 2 ^ 32 - ring.size := by
        rw [Nat.mod_eq_sub_mod (by omega), Nat.mod_eq_of_lt (by omega)]
      rw [total, wrapped, unwrapped] at round
      omega
    · simp only [if_neg more, Nat.zero_mod] at first
      refine ⟨?_, Or.inr (by omega)⟩
      by_cases less : queue.accepted.length < 2 ^ 64
      · exact Or.inl less
      · exact Or.inr (Or.inr ⟨by omega, first.symm⟩)

end Steps

/-! ## Runs -/

section Runs

variable {blank : α} {history : History (RingBuffer.RingEvent α) (RingBuffer.RingOutput α)}
  {ring : RingBuffer α}

theorem BoundedQueue.of_append (outputs more : List (RingBuffer.RingOutput α)) :
    BoundedQueue.of (outputs ++ more) = more.foldl BoundedQueue.apply (BoundedQueue.of outputs) :=
  List.foldl_append

/-- The storage of a run, whether it has a size, and the items that it used. -/
structure RingRunSound (history : History (RingBuffer.RingEvent α) (RingBuffer.RingOutput α))
    (ring : RingBuffer α) : Prop where
  sound : RingSound (BoundedQueue.of history.outputs) ring
  sized : 0 < ring.size ↔ ∃ size, .resize size ∈ history.events
  used : (∀ index length, .used index length ∈ history.outputs → index < length) ↔
    SizedFirst history.events

theorem RingBuffer.size_resize (size : Nat) : (ring.resize blank size).1.size = size := by
  rw [RingBuffer.resize]
  split
  case isTrue => rfl
  case isFalse same => exact not_not.mp same

theorem RingBuffer.size_push (item : α) : (ring.push blank item).1.size = ring.size := by
  rw [RingBuffer.push]
  split <;> rfl

theorem RingBuffer.used_mem_push {item : α} {index length : Nat} :
    .used index length ∈ (ring.push blank item).2 ↔
      index = ring.head ∧ length = ring.buffer.length := by
  rw [RingBuffer.push]
  split <;> simp

theorem RingBuffer.used_not_mem_resize {size index length : Nat} :
    .used index length ∉ (ring.resize blank size).2 := by
  rw [RingBuffer.resize]
  split <;> simp

/-- A push uses an item of the storage if there is one. -/
theorem RingSound.head_lt_iff {queue : BoundedQueue α} (sound : RingSound queue ring) :
    ring.head < ring.buffer.length ↔ 0 < ring.size := by
  refine ⟨?_, sound.head_lt⟩
  intro less
  rw [sound.length] at less
  omega

/-- What a step can do. -/
theorem ringStep_cases {event : RingBuffer.RingEvent α} {after : RingBuffer α}
    {out : List (RingBuffer.RingOutput α)}
    (stepped : RingBuffer.step blank ring event = some (after, out)) :
    (∃ size, event = .resize size ∧ after = (ring.resize blank size).1 ∧
      out = (ring.resize blank size).2) ∨
    (∃ pusher, event = .setPusher pusher ∧ after = { ring with pusher := some pusher } ∧
      out = []) ∨
    ∃ item, event = .push item ∧ after = (ring.push blank item).1 ∧
      out = (ring.push blank item).2 := by
  cases event with
  | resize size =>
      have made := Option.some.inj stepped
      exact Or.inl ⟨size, rfl, (congrArg Prod.fst made).symm, (congrArg Prod.snd made).symm⟩
  | setPusher pusher =>
      cases stepped
      exact Or.inr (Or.inl ⟨pusher, rfl, rfl, rfl⟩)
  | push item =>
      have made := Option.some.inj stepped
      exact Or.inr (Or.inr
        ⟨item, rfl, (congrArg Prod.fst made).symm, (congrArg Prod.snd made).symm⟩)

theorem ringRunSound (run : (ringSystem blank).Run PositiveSizes history ring) :
    RingRunSound history ring := by
  induction run with
  | start starts =>
      rw [starts]
      refine ⟨⟨rfl, Nat.two_pow_pos 32, rfl, rfl, rfl, .nil⟩, ?_, ?_⟩
      · simp [RingBuffer.new]
      · exact iff_of_true nofun justified_nil
  | @next history ring after event out running guarded stepped ih =>
      have firstIff : SizedFirst (history.events ++ [event]) ↔ SizedFirst history.events ∧
          ∀ item, event = .push item → ∃ size, .resize size ∈ history.events :=
        justified_snoc_iff
      have usedIff : (∀ index length, .used index length ∈ history.outputs ++ out →
            index < length) ↔ SizedFirst history.events ∧
          ∀ index length, .used index length ∈ out → index < length := by
        rw [← ih.used]
        simp only [List.mem_append, or_imp, forall_and]
      rw [← ih.sized] at firstIff
      rcases ringStep_cases stepped with ⟨size, rfl, rfl, rfl⟩ | ⟨pusher, rfl, rfl, rfl⟩ |
        ⟨item, rfl, rfl, rfl⟩
      · constructor
        · rw [History.outputs_snoc, BoundedQueue.of_append]
          exact ih.sound.resize blank guarded.2
        · rw [History.events_snoc, RingBuffer.size_resize]
          exact iff_of_true guarded.1 ⟨size, by simp⟩
        · rw [History.outputs_snoc, History.events_snoc, usedIff, firstIff]
          exact and_congr_right' (iff_of_true
            (fun _ _ isUsed => absurd isUsed RingBuffer.used_not_mem_resize) nofun)
      · have sound := ih.sound
        constructor
        · rw [History.outputs_snoc, List.append_nil]
          exact ⟨sound.size, sound.small, sound.length, sound.head, sound.count, sound.store⟩
        · simpa using ih.sized
        · rw [History.outputs_snoc, History.events_snoc, usedIff, firstIff]
          exact and_congr_right' (iff_of_true nofun nofun)
      · constructor
        · rw [History.outputs_snoc, BoundedQueue.of_append]
          exact ih.sound.push blank item
        · rw [RingBuffer.size_push]
          simpa using ih.sized
        · rw [History.outputs_snoc, History.events_snoc, usedIff, firstIff, ← ih.sound.head_lt_iff]
          apply and_congr_right'
          simp only [RingBuffer.used_mem_push]
          constructor
          · intro less _ _
            exact less _ _ ⟨rfl, rfl⟩
          · rintro less index length ⟨rfl, rfl⟩
            exact less item rfl

/-- A ring whose pushes come after a resize is a bounded queue while its numbers fit; and one
whose accepted items are different is one only then. -/
theorem refinesQueue_iff (run : (ringSystem blank).Run PositiveSizes history ring) :
    (SizedFirst history.events ∧
        NumbersFit ring.size (BoundedQueue.of history.outputs).accepted.length →
      RefinesQueue history.outputs ring) ∧
    ((BoundedQueue.of history.outputs).accepted.Nodup → RefinesQueue history.outputs ring →
      SizedFirst history.events ∧
        NumbersFit ring.size (BoundedQueue.of history.outputs).accepted.length) := by
  have kept := ringRunSound run
  constructor
  · rintro ⟨first, fits⟩
    exact ⟨kept.sound.validSize fits, fun i less => kept.sound.getItem fits less,
      fun i less => kept.sound.inside less, kept.used.mpr first⟩
  · intro nodup refines
    exact ⟨kept.used.mp refines.used,
      kept.sound.fits nodup refines.validSize refines.getItem⟩

theorem exists_run_resize (blank : α) (size : Nat) (positive : 0 < size) (small : size < 2 ^ 32) :
    ∃ history ring, (ringSystem blank).Run PositiveSizes history ring ∧ ring.pusher = none ∧
      ring.size = size ∧ history.events = [.resize size] ∧
      (BoundedQueue.of history.outputs).accepted = [] := by
  have stepped : (ringSystem blank).step .new (.resize size) =
      some ((RingBuffer.resize blank size .new).1, (RingBuffer.resize blank size .new).2) := rfl
  have changes : (RingBuffer.new : RingBuffer α).size ≠ size := Nat.ne_of_lt positive
  have start : (ringSystem blank).Run PositiveSizes [] .new := .start rfl
  have run := start.fire (.resize size) ⟨positive, small⟩ stepped
  refine ⟨_, _, run, ?_, RingBuffer.size_resize size, rfl, ?_⟩
  · rw [RingBuffer.resize, if_pos changes]
    rfl
  · rw [RingBuffer.resize, if_pos changes]
    rfl

/-- Pushes through the default store, one after the other. -/
theorem exists_run_pushes (run : (ringSystem blank).Run PositiveSizes history ring)
    (default : ring.pusher = none) (items : List α) :
    ∃ later after, (ringSystem blank).Run PositiveSizes later after ∧ after.pusher = none ∧
      after.size = ring.size ∧ later.events = history.events ++ items.map .push ∧
      (BoundedQueue.of later.outputs).accepted =
        (BoundedQueue.of history.outputs).accepted ++ items := by
  induction items using List.reverseRecOn with
  | nil => exact ⟨history, ring, run, default, rfl, by simp, by simp⟩
  | append_singleton items item ih =>
      obtain ⟨later, after, laterRun, stillDefault, sameSize, events, accepted⟩ := ih
      have written : after.written item (after.buffer.getD after.head blank) = some item := by
        rw [RingBuffer.written, stillDefault]
      have stepped : (ringSystem blank).step after (.push item) =
          some ((after.push blank item).1, (after.push blank item).2) := rfl
      refine ⟨_, _, laterRun.fire (.push item) trivial stepped, ?_, ?_, ?_, ?_⟩
      · simp only [RingBuffer.push, written, stillDefault]
      · rw [RingBuffer.size_push, sameSize]
      · rw [History.events_snoc, events, List.append_assoc, List.map_append, List.map_singleton]
      · rw [History.outputs_snoc, BoundedQueue.of_append, ← List.append_assoc, ← accepted]
        simp only [RingBuffer.push, written, List.foldl_cons, List.foldl_nil, BoundedQueue.apply]

end Runs

/-- A ring that goes round, and a pusher that adds to the head item or refuses. -/
theorem refinesQueue_three : ∃ history ring,
    (ringSystem 0).Run PositiveSizes history ring ∧ RefinesQueue history.outputs ring ∧
    history.events = [.resize 3, .push 1, .push 2, .push 3, .push 4,
      .setPusher fun item old => if item = 9 then none else some (item + old), .push 9, .push 5,
      .resize 3] ∧
    (List.range ring.getValidSize).map (fun i => ring.getItem i) = [some 3, some 4, some 7] := by
  let events : List (RingBuffer.RingEvent Nat) := [.resize 3, .push 1, .push 2, .push 3, .push 4,
    .setPusher fun item old => if item = 9 then none else some (item + old), .push 9, .push 5,
    .resize 3]
  have run : (ringSystem 0).Run PositiveSizes _ _ :=
    System.run_of_exec (ringSystem 0) PositiveSizes events rfl (by decide) rfl
  refine ⟨_, _, run, (refinesQueue_iff run).1 ⟨?_, fun _ => by decide⟩, rfl, by decide⟩
  rintro before event after split item rfl
  cases before with
  | nil => simp [History.events] at split
  | cons first before =>
      refine ⟨3, ?_⟩
      rw [List.cons_append] at split
      rw [← (List.cons.inj split).1]
      exact List.mem_cons_self

/-- The first size at which a sum goes round: its ring is no queue when the head is at the last
item. -/
theorem not_refinesQueue_large : ∃ history ring,
    (ringSystem 0).Run PositiveSizes history ring ∧ ¬ RefinesQueue history.outputs ring ∧
    history.events = .resize (2 ^ 31 + 1) :: (List.range (2 ^ 32 + 1)).map .push := by
  obtain ⟨before, small, sized, default, isSize, resized, none⟩ :=
    exists_run_resize 0 (2 ^ 31 + 1) (by decide) (by decide)
  obtain ⟨history, ring, run, -, size, events, accepted⟩ :=
    exists_run_pushes sized default (List.range (2 ^ 32 + 1))
  refine ⟨history, ring, run, ?_, by rw [events, resized, List.singleton_append]⟩
  intro refines
  rw [none, List.nil_append] at accepted
  have fits := (ringRunSound run).sound.fits (by rw [accepted]; exact List.nodup_range)
    refines.validSize refines.getItem
  rw [accepted, List.length_range, size, isSize, NumbersFit] at fits
  omega

end X3Hal.Gui
