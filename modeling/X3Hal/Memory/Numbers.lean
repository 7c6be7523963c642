import X3Hal.Memory.Block
import Mathlib.Algebra.Order.Ring.Int

/-!
# Numbers in a block of bytes

Numbers are little-endian.  A checked load of a number fails exactly where the bytes of the
number leave the block; what a computation over loads and stores does is read off one access
after the other.
-/

namespace X3Hal.Memory

/-- A little-endian number -/
def leNat : List UInt8 → Nat
  | [] => 0
  | byte :: bytes => byte.toNat + 256 * leNat bytes

/-- The bytes of a little-endian number -/
def leBytes : Nat → Nat → List UInt8
  | 0, _ => []
  | size + 1, value => UInt8.ofNat value :: leBytes size (value / 256)

theorem length_leBytes (size value : Nat) : (leBytes size value).length = size := by
  induction size generalizing value with
  | zero => rfl
  | succ size ih => rw [leBytes, List.length_cons, ih]

theorem leBytes_injective {size value other : Nat} (small : value < 256 ^ size)
    (otherSmall : other < 256 ^ size) (same : leBytes size value = leBytes size other) :
    value = other := by
  induction size generalizing value other with
  | zero => omega
  | succ size ih =>
      rw [leBytes, leBytes, List.cons.injEq] at same
      have low : value % 256 = other % 256 := by
        have bytes := congrArg UInt8.toNat same.1
        rwa [UInt8.toNat_ofNat', UInt8.toNat_ofNat'] at bytes
      have high : value / 256 = other / 256 := by
        apply ih
        · rw [Nat.div_lt_iff_lt_mul (by decide), ← Nat.pow_succ]
          exact small
        · rw [Nat.div_lt_iff_lt_mul (by decide), ← Nat.pow_succ]
          exact otherSmall
        · exact same.2
      omega

/-- Numbers of the same size one after the other -/
theorem flatMap_leBytes_injective {size : Nat} {values others : List Nat}
    (sameLength : values.length = others.length) (small : ∀ value ∈ values, value < 256 ^ size)
    (otherSmall : ∀ other ∈ others, other < 256 ^ size)
    (same : values.flatMap (leBytes size) = others.flatMap (leBytes size)) : values = others := by
  induction values generalizing others with
  | nil => exact (List.length_eq_zero_iff.mp sameLength.symm).symm
  | cons value values ih =>
      cases others with
      | nil => exact absurd sameLength (Nat.succ_ne_zero _)
      | cons other others =>
          rw [List.forall_mem_cons] at small otherSmall
          rw [List.flatMap_cons, List.flatMap_cons] at same
          have parts := List.append_inj same
            ((length_leBytes size value).trans (length_leBytes size other).symm)
          rw [leBytes_injective small.1 otherSmall.1 parts.1,
            ih (Nat.succ_inj.mp sameLength) small.2 otherSmall.2 parts.2]

/-- What a number of so many bytes is as a signed one. -/
def signed (size value : Nat) : Int :=
  if 2 * value < 256 ^ size then value else value - 256 ^ size

/-- The bytes of a signed number -/
def signedBytes (size : Nat) (value : Int) : List UInt8 :=
  leBytes size (value % 256 ^ size).toNat

theorem length_signedBytes (size : Nat) (value : Int) : (signedBytes size value).length = size :=
  length_leBytes _ _

/-- The number at an offset; `none` when it leaves the block. -/
def number (block : List UInt8) (offset size : Nat) : Option Nat :=
  (load block offset size).map leNat

/-- The number at an offset that is inside. -/
def numberAt (block : List UInt8) (offset size : Nat) : Nat :=
  leNat ((block.drop offset).take size)

/-- A string up to its NUL; `none` when there is none in the block. -/
def cString (block : List UInt8) (offset : Nat) : Option (List UInt8) :=
  if 0 ∈ block.drop offset then some ((block.drop offset).takeWhile (· ≠ 0)) else none

/-- A member of a structure -/
structure Member where
  offset : Nat
  size : Nat
  deriving DecidableEq

def Member.stop (member : Member) : Nat :=
  member.offset + member.size

section Access

variable {α : Type} {block : List UInt8} {offset size : Nat}

theorem number_eq (inside : offset + size ≤ block.length) :
    number block offset size = some (numberAt block offset size) := by
  rw [number, load, if_pos inside]
  rfl

theorem length_of_load {data : List UInt8} (loaded : load block offset size = some data) :
    data.length = size := by
  rw [load] at loaded
  split at loaded
  case isTrue inside =>
    cases loaded
    rw [List.length_take, List.length_drop]
    omega
  case isFalse => cases loaded

theorem eq_numberAt {value : Nat} (read : number block offset size = some value) :
    value = numberAt block offset size := by
  obtain ⟨bytes, loaded, rfl⟩ := Option.map_eq_some_iff.mp read
  rw [load] at loaded
  split at loaded
  · cases loaded
    rfl
  · cases loaded

theorem load_bind_isSome_iff (next : List UInt8 → Option α) :
    (load block offset size >>= next).isSome ↔
      offset + size ≤ block.length ∧ (next ((block.drop offset).take size)).isSome := by
  rw [load]
  split
  case isTrue inside => simp [inside]
  case isFalse outside => simp [outside]

theorem number_bind_isSome_iff (next : Nat → Option α) :
    (number block offset size >>= next).isSome ↔
      offset + size ≤ block.length ∧ (next (numberAt block offset size)).isSome := by
  rw [number, load]
  split
  case isTrue inside => simp [inside, numberAt]
  case isFalse outside => simp [outside]

theorem cString_bind_isSome_iff (next : List UInt8 → Option α) :
    (cString block offset >>= next).isSome ↔
      0 ∈ block.drop offset ∧ (next ((block.drop offset).takeWhile (· ≠ 0))).isSome := by
  rw [cString]
  split
  case isTrue ends => simp [ends]
  case isFalse unended => simp [unended]

/-- A store over the front of a block -/
theorem store_front {old data : List UInt8} (same : old.length = data.length)
    (after : List UInt8) : store (old ++ after) 0 data = some (data ++ after) :=
  store_split same [] after

/-- A store over the whole block -/
theorem store_whole {data : List UInt8} (same : data.length = block.length) :
    store block 0 data = some data := by
  have stored := store_front same.symm []
  rwa [List.append_nil, List.append_nil] at stored

/-- A store, where what follows depends on the length of the block only. -/
theorem store_bind_isSome_iff {data : List UInt8} (P : Prop) {next : List UInt8 → Option α}
    (follows : ∀ stored : List UInt8, stored.length = block.length → ((next stored).isSome ↔ P)) :
    (store block offset data >>= next).isSome ↔ offset + data.length ≤ block.length ∧ P := by
  by_cases inside : offset + data.length ≤ block.length
  · obtain ⟨stored, isStored⟩ := exists_store inside
    rw [isStored, Option.bind_eq_bind, Option.bind_some, follows stored (length_of_store isStored)]
    simp [inside]
  · rw [store_eq_none inside]
    simp [inside]

/-- A copy from one block to another -/
theorem copy_bind_isSome_iff {other : List UInt8} {start : Nat} (P : Prop)
    {next : List UInt8 → Option α}
    (follows : ∀ stored : List UInt8, stored.length = other.length → ((next stored).isSome ↔ P)) :
    (load block offset size >>= fun data => store other start data >>= next).isSome ↔
      offset + size ≤ block.length ∧ start + size ≤ other.length ∧ P := by
  rw [load_bind_isSome_iff, store_bind_isSome_iff P follows, List.length_take, List.length_drop]
  apply and_congr_right
  intro inside
  rw [Nat.min_eq_left (Nat.le_sub_of_add_le' inside)]

end Access

end X3Hal.Memory
