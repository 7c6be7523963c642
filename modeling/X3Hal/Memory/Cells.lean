import X3Hal.Memory.Heap
import Mathlib

/-!
# Blocks that point to each other

A store holds blocks of the heap and of a stack frame.  A block is an array of elements, an
element a list of cells, and a cell a number or a pointer to an element.  What can be read
through a cell is the sequence of tokens met on the way down.
-/

namespace X3Hal.Memory

/-- The address of an element of a block. -/
structure Pointer where
  block : Nat
  element : Nat
  deriving DecidableEq

inductive Cell
  | byte (value : UInt8)
  | int (value : Int)
  /-- Bytes that nobody reads. -/
  | pad (size : Nat)
  | pointer (target : Option Pointer)
  deriving DecidableEq

namespace Cell

/-- The size in bytes, where a pointer has eight. -/
def size : Cell → Nat
  | byte _ => 1
  | int _ => 4
  | pad size => size
  | pointer _ => 8

/-- The address in a cell, if it is a pointer and not NULL. -/
def target : Cell → Option Pointer
  | pointer target => target
  | byte _ | int _ | pad _ => none

end Cell

/-- The sum of the sizes. -/
def byteSize (cells : List Cell) : Nat :=
  (cells.map Cell.size).sum

/-- The first `size` bytes; `none` when they end beyond the cells or inside of one. -/
def takeBytes : Nat → List Cell → Option (List Cell)
  | 0, _ => some []
  | _ + 1, [] => none
  | size + 1, cell :: rest =>
      if cell.size ≤ size + 1 then
        (takeBytes (size + 1 - cell.size) rest).map fun taken => cell :: taken
      else none

inductive Place
  | frame | heap
  deriving DecidableEq

structure Segment where
  place : Place
  elements : List (List Cell)

structure Store where
  segments : List Segment
  state : Heap Nat

inductive Token
  | byte (value : UInt8)
  | int (value : Int)
  | null
  /-- a pointer to a block that is not live -/
  | dangling
  | enter
  | leave
  deriving DecidableEq

namespace Store

def empty : Store :=
  ⟨[], fun _ => .absent⟩

/-- The cells of a live element. -/
def load (store : Store) (pointer : Pointer) : Option (List Cell) :=
  if store.state pointer.block = .live then
    (store.segments[pointer.block]?).bind fun segment => segment.elements[pointer.element]?
  else none

/-- The store with one more block. -/
def push (segment : Segment) (store : Store) : Store :=
  ⟨store.segments ++ [segment], store.state.alloc store.segments.length⟩

/-- The address of the block that is pushed next. -/
def top (store : Store) : Pointer :=
  ⟨store.segments.length, 0⟩

/-- `free`: NULL is ignored; any other address must be the start of a live block of the
heap. -/
def free (store : Store) : Option Pointer → Option Store
  | none => some store
  | some pointer =>
      if pointer.element = 0 ∧
          (store.segments[pointer.block]?).map Segment.place = some .heap then
        (store.state.release pointer.block).map fun state => { store with state := state }
      else none

/-- Free one address after the other. -/
def freeAll (store : Store) : List (Option Pointer) → Option Store
  | [] => some store
  | target :: rest => (store.free target).bind fun after => after.freeAll rest

/-- The blocks of the frame are gone. -/
def leaveFrame (store : Store) : Store :=
  { store with
    state := fun block =>
      if (store.segments[block]?).map Segment.place = some .frame then .freed
      else store.state block }

/-- Every block of the heap was released. -/
def Released (store : Store) : Prop :=
  ∀ block, (store.segments[block]?).map Segment.place = some .heap → store.state block = .freed

/-- What can be read through a cell, down to a depth. -/
def tokens (store : Store) : Nat → Cell → List Token
  | _, .byte value => [.byte value]
  | _, .int value => [.int value]
  | _, .pad _ => []
  | _, .pointer none => [.null]
  | 0, .pointer (some _) => [.enter]
  | depth + 1, .pointer (some pointer) =>
      match store.load pointer with
      | none => [.dangling]
      | some cells => .enter :: cells.flatMap (store.tokens depth) ++ [.leave]

end Store

/-! ## Copies of the first bytes -/

theorem byteSize_append (cells beyond : List Cell) :
    byteSize (cells ++ beyond) = byteSize cells + byteSize beyond := by
  simp [byteSize]

/-- Whole cells are taken first. -/
theorem takeBytes_append (size : Nat) (cells beyond : List Cell)
    (positive : ∀ cell ∈ cells, 0 < cell.size) :
    takeBytes (byteSize cells + size) (cells ++ beyond) =
      (takeBytes size beyond).map fun taken => cells ++ taken := by
  induction cells with
  | nil =>
      rw [byteSize, List.map_nil, List.sum_nil, Nat.zero_add]
      exact Option.map_id_fun'.symm ▸ rfl
  | cons cell rest ih =>
      have first := positive cell List.mem_cons_self
      have sizes : byteSize (cell :: rest) + size =
          (cell.size - 1 + byteSize rest + size) + 1 := by
        simp only [byteSize, List.map_cons, List.sum_cons]
        omega
      rw [sizes, List.cons_append, takeBytes, if_pos (by omega)]
      have left : cell.size - 1 + byteSize rest + size + 1 - cell.size = byteSize rest + size := by
        omega
      rw [left, ih fun other occurs => positive other (List.mem_cons_of_mem cell occurs),
        Option.map_map]
      rfl

theorem takeBytes_byteSize (cells beyond : List Cell) (positive : ∀ cell ∈ cells, 0 < cell.size) :
    takeBytes (byteSize cells) (cells ++ beyond) = some cells := by
  have whole := takeBytes_append 0 cells beyond positive
  rw [takeBytes, Option.map_some, List.append_nil] at whole
  exact whole

/-- A copy of the first bytes is itself all of them. -/
theorem takeBytes_idem {size : Nat} {cells taken : List Cell}
    (took : takeBytes size cells = some taken) : takeBytes size taken = some taken := by
  induction size, cells using takeBytes.induct generalizing taken with
  | case1 cells =>
      simp only [takeBytes, Option.some.injEq] at took
      subst took
      rfl
  | case2 size => cases took
  | case3 size cell rest fits ih =>
      rw [takeBytes, if_pos fits, Option.map_eq_some_iff] at took
      obtain ⟨later, tookLater, rfl⟩ := took
      rw [takeBytes, if_pos fits, ih tookLater]
      rfl
  | case4 size cell rest tooLarge =>
      rw [takeBytes, if_neg tooLarge] at took
      cases took

/-! ## Reading -/

namespace Store

variable {store other : Store}

theorem state_push (segment : Segment) (block : Nat) :
    (store.push segment).state block =
      if block = store.segments.length then .live else store.state block := by
  split
  case isTrue top =>
    subst top
    exact Heap.alloc_self ..
  case isFalse other => exact Heap.alloc_of_ne other store.state

theorem load_push_of_lt {pointer : Pointer} (segment : Segment)
    (below : pointer.block < store.segments.length) :
    (store.push segment).load pointer = store.load pointer := by
  rw [load, load, state_push, if_neg (Nat.ne_of_lt below)]
  simp only [push, List.getElem?_append_left below]

@[simp]
theorem load_push_top (place : Place) (cells : List Cell) :
    (store.push ⟨place, [cells]⟩).load store.top = some cells := by
  rw [load, state_push, top, if_pos rfl, if_pos rfl]
  simp [push]

/-- The return of a function takes nothing from the heap. -/
theorem state_leaveFrame_of_heap {block : Nat}
    (heap : (store.segments[block]?).map Segment.place = some .heap) :
    store.leaveFrame.state block = store.state block := by
  simp only [leaveFrame]
  rw [if_neg]
  rw [heap]
  decide

theorem load_leaveFrame_of_heap {pointer : Pointer}
    (heap : (store.segments[pointer.block]?).map Segment.place = some .heap) :
    store.leaveFrame.load pointer = store.load pointer := by
  rw [load, load, state_leaveFrame_of_heap heap]
  rfl

theorem load_leaveFrame_of_frame {pointer : Pointer}
    (frame : (store.segments[pointer.block]?).map Segment.place = some .frame) :
    store.leaveFrame.load pointer = none := by
  have gone : store.leaveFrame.state pointer.block = .freed := by
    simp only [leaveFrame]
    rw [if_pos frame]
  rw [load, gone, if_neg (by decide)]

/-- Two stores that agree on the blocks that can be reached are read alike. -/
theorem tokens_congr (reached : Nat → Prop)
    (same : ∀ pointer, reached pointer.block → store.load pointer = other.load pointer)
    (closed : ∀ pointer cells, reached pointer.block → store.load pointer = some cells →
      ∀ cell ∈ cells, ∀ next, cell.target = some next → reached next.block)
    (depth : Nat) (cell : Cell)
    (starts : ∀ next, cell.target = some next → reached next.block) :
    store.tokens depth cell = other.tokens depth cell := by
  induction depth generalizing cell with
  | zero =>
      cases cell with
      | pointer target => cases target <;> rfl
      | _ => rfl
  | succ depth ih =>
      cases cell with
      | pointer target =>
          cases target with
          | none => rfl
          | some pointer =>
              have inside := starts pointer rfl
              simp only [tokens, ← same pointer inside]
              cases loaded : store.load pointer with
              | none => rfl
              | some cells =>
                  have deeper : cells.flatMap (store.tokens depth) =
                      cells.flatMap (other.tokens depth) := by
                    apply List.flatMap_congr
                    intro inner occurs
                    exact ih inner (closed pointer cells inside loaded inner occurs)
                  simp only [deeper]
      | _ => rfl

/-! ## Releasing -/

/-- The blocks that a list of addresses frees. -/
def freed (targets : List (Option Pointer)) : List Nat :=
  (targets.filterMap id).map Pointer.block

@[simp]
theorem freed_nil : freed [] = [] :=
  rfl

@[simp]
theorem freed_none (targets : List (Option Pointer)) : freed (none :: targets) = freed targets :=
  rfl

@[simp]
theorem freed_some (pointer : Pointer) (targets : List (Option Pointer)) :
    freed (some pointer :: targets) = pointer.block :: freed targets :=
  rfl

theorem freed_append (first second : List (Option Pointer)) :
    freed (first ++ second) = freed first ++ freed second := by
  simp [freed]

theorem mem_freed_of_mem {pointer : Pointer} {targets : List (Option Pointer)}
    (occurs : some pointer ∈ targets) : pointer.block ∈ freed targets :=
  List.mem_map_of_mem (List.mem_filterMap.mpr ⟨some pointer, occurs, rfl⟩)

theorem freeAll_append (first second : List (Option Pointer)) :
    store.freeAll (first ++ second) =
      (store.freeAll first).bind fun after => after.freeAll second := by
  induction first generalizing store with
  | nil => rfl
  | cons target rest ih =>
      rw [List.cons_append, freeAll, freeAll, Option.bind_assoc]
      congr 1
      funext after
      exact ih

/-- What was freed cannot be freed again. -/
theorem free_free (pointer : Pointer) :
    (store.free (some pointer)).bind (fun after => after.free (some pointer)) = none := by
  rw [Option.bind_eq_none_iff]
  intro after frees
  rw [free] at frees
  split at frees
  case isTrue valid =>
    rw [Option.map_eq_some_iff] at frees
    obtain ⟨state, released, rfl⟩ := frees
    by_cases live : store.state pointer.block = .live
    · rw [Heap.release_of_live live] at released
      cases released
      simp [free, Heap.release]
    · rw [Heap.release_eq_none live] at released
      cases released
  case isFalse => cases frees

/-- Distinct live blocks of the heap can be freed, each by its start. -/
theorem freeAll_eq {targets : List (Option Pointer)} (distinct : (freed targets).Nodup)
    (starts : ∀ pointer, some pointer ∈ targets → pointer.element = 0)
    (heap : ∀ block ∈ freed targets,
      (store.segments[block]?).map Segment.place = some .heap ∧ store.state block = .live) :
    ∃ after, store.freeAll targets = some after ∧ after.segments = store.segments ∧
      (∀ block ∈ freed targets, after.state block = .freed) ∧
      ∀ block, block ∉ freed targets → after.state block = store.state block := by
  induction targets generalizing store with
  | nil => exact ⟨store, rfl, rfl, by simp, fun _ _ => rfl⟩
  | cons target rest ih =>
      have startsRest : ∀ pointer, some pointer ∈ rest → pointer.element = 0 :=
        fun pointer occurs => starts pointer (List.mem_cons_of_mem target occurs)
      cases target with
      | none => exact ih distinct startsRest heap
      | some pointer =>
          rw [freed_some, List.nodup_cons] at distinct
          have first := heap pointer.block (by simp)
          let middle : Store :=
            { store with state := Function.update store.state pointer.block .freed }
          have freesFirst : store.free (some pointer) = some middle := by
            rw [free, if_pos ⟨starts pointer List.mem_cons_self, first.1⟩,
              Heap.release_of_live first.2]
            rfl
          have heapRest : ∀ block ∈ freed rest,
              (middle.segments[block]?).map Segment.place = some .heap ∧
                middle.state block = .live := by
            intro block occurs
            have before := heap block (List.mem_cons_of_mem pointer.block occurs)
            constructor
            · exact before.1
            · show Function.update store.state pointer.block .freed block = .live
              rw [Function.update_of_ne]
              · exact before.2
              · rintro rfl
                exact distinct.1 occurs
          rcases ih distinct.2 startsRest heapRest with ⟨after, frees, same, gone, kept⟩
          refine ⟨after, ?_, same, ?_, ?_⟩
          · rw [freeAll, freesFirst]
            exact frees
          · intro block occurs
            rcases List.mem_cons.mp occurs with rfl | later
            · rw [kept pointer.block distinct.1]
              exact Function.update_self ..
            · exact gone block later
          · intro block outside
            rw [freed_some, List.mem_cons, not_or] at outside
            rw [kept block outside.2]
            exact Function.update_of_ne outside.1 ..

/-- A block that is not among the addresses is not freed. -/
theorem state_of_freeAll {after : Store} {targets : List (Option Pointer)} {block : Nat}
    (frees : store.freeAll targets = some after) (outside : block ∉ freed targets) :
    after.segments = store.segments ∧ after.state block = store.state block := by
  induction targets generalizing store with
  | nil =>
      cases frees
      exact ⟨rfl, rfl⟩
  | cons target rest ih =>
      rw [freeAll, Option.bind_eq_some_iff] at frees
      obtain ⟨middle, first, later⟩ := frees
      cases target with
      | none =>
          cases first
          exact ih later outside
      | some pointer =>
          rw [freed_some, List.mem_cons, not_or] at outside
          rw [free] at first
          split at first
          case isTrue =>
            rw [Option.map_eq_some_iff] at first
            obtain ⟨state, released, rfl⟩ := first
            rcases ih later outside.2 with ⟨segments, kept⟩
            refine ⟨segments, kept.trans ?_⟩
            by_cases live : store.state pointer.block = .live
            · rw [Heap.release_of_live live] at released
              cases released
              exact Function.update_of_ne outside.1 ..
            · rw [Heap.release_eq_none live] at released
              cases released
          case isFalse => cases first

end Store

end X3Hal.Memory
