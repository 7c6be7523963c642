import Mathlib.Algebra.Ring.Int.Defs
import Mathlib.Data.List.Basic
import Mathlib.Tactic.Common

/-!
# Pointers to blocks that are released

A variable points to a block that it owns, or to nothing, or to a block that was released.  What C
leaves undefined is a failure, each with its kind.
-/

namespace X3Hal.Memory

/-- Why an operation is undefined -/
inductive Undefined
  | freed | outside | null | overflow
  deriving DecidableEq, Repr

/-- What a pointer points to -/
inductive Owned (α : Type)
  | null
  | live (cells : List α)
  | freed
  deriving DecidableEq, Repr

namespace Owned

variable {α : Type}

/-- `free`, of a pointer that is kept -/
def free : Owned α → Except Undefined (Owned α)
  | null => .ok null
  | live _ => .ok freed
  | freed => .error .freed

def read (index : Nat) : Owned α → Except Undefined α
  | null => .error .null
  | live cells => (cells[index]?).elim (.error .outside) .ok
  | freed => .error .freed

def write (index : Nat) (value : α) : Owned α → Except Undefined (Owned α)
  | null => .error .null
  | live cells =>
      if index < cells.length then .ok (live (cells.set index value)) else .error .outside
  | freed => .error .freed

variable {pointer : Owned α}

theorem free_eq_error_iff {why : Undefined} :
    pointer.free = .error why ↔ pointer = freed ∧ why = .freed := by
  cases pointer <;> simp [free, eq_comm]

theorem read_ne_freed (kept : pointer ≠ freed) (index : Nat) :
    pointer.read index ≠ .error .freed := by
  cases pointer with
  | null => nofun
  | live cells =>
      rw [read]
      cases cells[index]? <;> nofun
  | freed => exact absurd rfl kept

theorem write_ne_freed (kept : pointer ≠ freed) (index : Nat) (value : α) :
    pointer.write index value ≠ .error .freed := by
  cases pointer with
  | null => nofun
  | live cells =>
      rw [write]
      split <;> nofun
  | freed => exact absurd rfl kept

/-- A write leaves a block. -/
theorem write_eq_ok {after : Owned α} {index : Nat} {value : α}
    (written : pointer.write index value = .ok after) : after ≠ freed := by
  cases pointer with
  | null => simp [write] at written
  | live cells =>
      rw [write] at written
      split at written
      · cases written
        nofun
      · simp at written
  | freed => simp [write] at written

theorem read_live {cells : List α} {index : Nat} (inside : index < cells.length) :
    (live cells).read index = .ok cells[index] := by
  rw [read, List.getElem?_eq_getElem inside]
  rfl

theorem write_live {cells : List α} {index : Nat} (inside : index < cells.length) (value : α) :
    (live cells).write index value = .ok (live (cells.set index value)) :=
  if_pos inside

end Owned

/-! ## Integers -/

/-- The value of an `int` expression -/
def int32 (value : Int) : Except Undefined Int :=
  if -2 ^ 31 ≤ value ∧ value < 2 ^ 31 then .ok value else .error .overflow

theorem int32_of_range (value : Int) (low : -2 ^ 31 ≤ value) (high : value < 2 ^ 31) :
    int32 value = .ok value :=
  if_pos ⟨low, high⟩

theorem int32_ne_freed (value : Int) : int32 value ≠ .error .freed := by
  unfold int32
  split <;> nofun

-- Else a comparison with the bounds is evaluated where a type is only looked at.
attribute [irreducible] int32

end X3Hal.Memory
