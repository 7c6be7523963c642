import Mathlib.Data.List.Nodup
import Mathlib.Logic.Function.Basic
import Mathlib.Tactic.Common

/-!
# Heaps of owned blocks

A heap knows of each block whether it was allocated and whether it was released.  A release
is checked: a block that is not live, and so also one that was released before, has none.
-/

namespace X3Hal.Memory

universe u

inductive BlockState
  | absent | live | freed
  deriving DecidableEq

/-- The state of each block. -/
abbrev Heap (α : Type u) := α → BlockState

namespace Heap

variable {α : Type u} [DecidableEq α]

def alloc (heap : Heap α) (block : α) : Heap α :=
  Function.update heap block .live

/-- The heap without the block; `none` when it is not live. -/
def release (heap : Heap α) (block : α) : Option (Heap α) :=
  if heap block = .live then some (Function.update heap block .freed) else none

/-- Release one block after the other. -/
def releaseAll (heap : Heap α) : List α → Option (Heap α)
  | [] => some heap
  | block :: rest => (heap.release block).bind fun after => releaseAll after rest

variable {heap after : Heap α} {block : α} {blocks : List α}

@[simp]
theorem alloc_self (heap : Heap α) (block : α) : heap.alloc block block = .live :=
  Function.update_self ..

theorem alloc_of_ne {other : α} (apart : other ≠ block) (heap : Heap α) :
    heap.alloc block other = heap other :=
  Function.update_of_ne apart ..

theorem release_of_live (live : heap block = .live) :
    heap.release block = some (Function.update heap block .freed) :=
  if_pos live

theorem release_eq_none (dead : heap block ≠ .live) : heap.release block = none :=
  if_neg dead

@[simp]
theorem releaseAll_nil (heap : Heap α) : heap.releaseAll [] = some heap :=
  rfl

end Heap

end X3Hal.Memory
