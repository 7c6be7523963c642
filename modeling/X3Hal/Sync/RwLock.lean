import Mathlib.Data.List.Basic

/-!
# Read-write locks

A read-write lock is held by any number of readers or by one writer.  A thread that cannot have
the lock waits, so that taking it is partial; unlocking is defined for its holders only.
-/

namespace X3Hal.Sync

universe u

/-- The threads that hold a lock; a thread may read more than once. -/
structure RwLock (Thread : Type u) where
  readers : List Thread
  writer : Option Thread
  exclusive : writer = none ∨ readers = []

namespace RwLock

variable {Thread : Type u}

def free : RwLock Thread :=
  ⟨[], none, Or.inl rfl⟩

def rdlock (thread : Thread) (lock : RwLock Thread) : Option (RwLock Thread) :=
  match lock.writer with
  | none => some ⟨thread :: lock.readers, none, Or.inl rfl⟩
  | some _ => none

def wrlock (thread : Thread) (lock : RwLock Thread) : Option (RwLock Thread) :=
  match lock.writer, lock.readers with
  | none, [] => some ⟨[], some thread, Or.inr rfl⟩
  | _, _ => none

/-- A writer gives the lock up before a reader does. -/
def unlock [DecidableEq Thread] (thread : Thread) (lock : RwLock Thread) :
    Option (RwLock Thread) :=
  if lock.writer = some thread then some free
  else if thread ∈ lock.readers then
    some ⟨lock.readers.erase thread, lock.writer, lock.exclusive.imp_right fun none => by
      rw [none, List.erase_nil]⟩
  else none

variable {lock after : RwLock Thread} {thread other : Thread}

theorem writer_eq_none_of_mem_readers (reads : thread ∈ lock.readers) : lock.writer = none := by
  rcases lock.exclusive with none | empty
  · exact none
  · rw [empty] at reads
    cases reads

theorem rdlock_eq_some (taken : lock.rdlock thread = some after) :
    lock.writer = none ∧ after.writer = none ∧ after.readers = thread :: lock.readers := by
  rw [rdlock] at taken
  split at taken
  case h_1 free =>
    cases taken
    exact ⟨free, rfl, rfl⟩
  case h_2 => cases taken

theorem wrlock_eq_some (taken : lock.wrlock thread = some after) :
    lock.writer = none ∧ lock.readers = [] ∧ after.writer = some thread ∧ after.readers = [] := by
  rw [wrlock] at taken
  split at taken
  case h_1 free empty =>
    cases taken
    exact ⟨free, empty, rfl, rfl⟩
  case h_2 => cases taken

variable [DecidableEq Thread]

theorem unlock_of_writer (writes : lock.writer = some thread) :
    lock.unlock thread = some free := by
  rw [unlock, if_pos writes]

/-- A reader that unlocks leaves the others their locks. -/
theorem unlock_of_reader (reads : thread ∈ lock.readers) :
    ∃ after, lock.unlock thread = some after ∧ after.writer = none ∧
      after.readers = lock.readers.erase thread := by
  have noWriter := writer_eq_none_of_mem_readers reads
  have apart : lock.writer ≠ some thread := by
    rw [noWriter]
    nofun
  rw [unlock, if_neg apart, if_pos reads]
  exact ⟨_, rfl, noWriter, rfl⟩

/-- A thread that does not unlock keeps its locks. -/
theorem kept_of_unlock (apart : other ≠ thread) (unlocked : lock.unlock thread = some after) :
    (other ∈ lock.readers → other ∈ after.readers) ∧
      (lock.writer = some other → after.writer = some other) := by
  rw [unlock] at unlocked
  split at unlocked
  case isTrue writes =>
    cases unlocked
    constructor
    · intro reads
      rw [writer_eq_none_of_mem_readers reads] at writes
      cases writes
    · intro same
      rw [writes] at same
      exact absurd (Option.some.inj same).symm apart
  case isFalse =>
    split at unlocked
    case isTrue =>
      cases unlocked
      exact ⟨(List.mem_erase_of_ne apart).mpr, id⟩
    case isFalse => cases unlocked

end RwLock

end X3Hal.Sync
