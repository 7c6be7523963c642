import X3Hal.Memory.Block
import X3Hal.Transition.Loops

/-!
# Copies from one block to another

Copies are made one after the other.  When each writes behind those before it, every one of them
is still there at the end.
-/

namespace X3Hal.Memory

open X3Hal.Transition

universe u

variable {α : Type u}

/-- A copy of so many cells -/
structure Copy where
  read : Nat
  write : Nat
  size : Nat
  deriving DecidableEq

/-- `memcpy` between two blocks -/
def copyCells (source target : List α) (copy : Copy) : Option (List α) :=
  (load source copy.read copy.size).bind fun cells => store target copy.write cells

/-- A copy stays within both blocks. -/
def Copy.Inside (copy : Copy) (sourceSize targetSize : Nat) : Prop :=
  copy.read + copy.size ≤ sourceSize ∧ copy.write + copy.size ≤ targetSize

/-- Each copy writes behind those before it. -/
def InOrder (copies : List Copy) : Prop :=
  copies.Pairwise fun first second => first.write + first.size ≤ second.write

section Store

variable {block next data : List α} {offset : Nat}

/-- A cell after a store -/
theorem getElem?_store (stored : store block offset data = some next) (i : Nat) :
    next[i]? = if offset ≤ i ∧ i < offset + data.length then data[i - offset]? else block[i]? := by
  obtain ⟨before, old, after, rfl, rfl, same⟩ := exists_split (within_of_store stored)
  rw [store_split same] at stored
  rw [← Option.some.inj stored]
  by_cases front : i < before.length
  · rw [if_neg (by omega), List.getElem?_append_left front, List.getElem?_append_left front]
  have behind : ∀ cells : List α, (before ++ cells)[i]? = cells[i - before.length]? := fun cells =>
    List.getElem?_append_right (Nat.not_lt.mp front)
  rw [behind, behind]
  by_cases written : i < before.length + data.length
  · rw [if_pos ⟨by omega, written⟩, List.getElem?_append_left (by omega)]
  · rw [if_neg fun inside => written inside.2, List.getElem?_append_right (by omega),
      List.getElem?_append_right (by omega), same]

end Store

section Copies

variable {source target final : List α} {copy : Copy} {copies : List Copy}

theorem copyCells_isSome_iff :
    (copyCells source target copy).isSome ↔ copy.Inside source.length target.length := by
  rw [copyCells, Copy.Inside, load]
  by_cases inside : copy.read + copy.size ≤ source.length
  · have size : ((source.drop copy.read).take copy.size).length = copy.size := by
      rw [List.length_take, List.length_drop]
      omega
    rw [if_pos inside, Option.bind_some, store_isSome_iff, size, and_iff_right inside]
  · rw [if_neg inside]
    exact iff_of_false Bool.false_ne_true fun both => inside both.1

theorem length_of_copyCells (copied : copyCells source target copy = some final) :
    final.length = target.length := by
  obtain ⟨cells, -, stored⟩ := Option.bind_eq_some_iff.mp copied
  exact length_of_store stored

/-- A cell after a copy -/
theorem getElem?_copyCells (copied : copyCells source target copy = some final) (i : Nat) :
    final[i]? =
      if copy.write ≤ i ∧ i < copy.write + copy.size then
        source[copy.read + (i - copy.write)]?
      else target[i]? := by
  have inside : copy.Inside source.length target.length := by
    rw [← copyCells_isSome_iff, copied]
    rfl
  rw [copyCells, load, if_pos inside.1, Option.bind_some] at copied
  have size : ((source.drop copy.read).take copy.size).length = copy.size := by
    rw [List.length_take, List.length_drop]
    have := inside.1
    omega
  rw [getElem?_store copied, size]
  split
  case isTrue written => rw [List.getElem?_take_of_lt (by omega), List.getElem?_drop]
  case isFalse => rfl

/-- The copies go through when each of them stays within the blocks. -/
theorem copies_isSome_iff :
    (copies.foldlM (copyCells source) target).isSome ↔
      ∀ copy ∈ copies, copy.Inside source.length target.length := by
  apply foldlM_isSome_iff_forall fun block => block.length = target.length
  · intro block copy _ same
    rw [copyCells_isSome_iff, same]
  · intro block copy _ next same copied
    exact (length_of_copyCells copied).trans same
  · rfl

/-- A cell that no copy writes -/
theorem getElem?_copies_of_apart (ran : copies.foldlM (copyCells source) target = some final)
    {i : Nat} (apart : ∀ copy ∈ copies, i < copy.write ∨ copy.write + copy.size ≤ i) :
    final[i]? = target[i]? := by
  induction copies generalizing target with
  | nil =>
      cases ran
      rfl
  | cons copy copies ih =>
      rw [List.foldlM_cons] at ran
      obtain ⟨next, copied, rest⟩ := Option.bind_eq_some_iff.mp ran
      have outside := apart copy List.mem_cons_self
      rw [ih rest fun other later => apart other (List.mem_cons_of_mem _ later),
        getElem?_copyCells copied, if_neg (by omega)]

/-- Every copy is there in the end. -/
theorem getElem?_copies (ordered : InOrder copies)
    (ran : copies.foldlM (copyCells source) target = some final) :
    ∀ copy ∈ copies, ∀ i < copy.size, final[copy.write + i]? = source[copy.read + i]? := by
  induction copies generalizing target with
  | nil => exact nofun
  | cons first copies ih =>
      rw [List.foldlM_cons] at ran
      obtain ⟨next, copied, rest⟩ := Option.bind_eq_some_iff.mp ran
      obtain ⟨behind, laterOrdered⟩ := List.pairwise_cons.mp ordered
      intro copy among i below
      rcases List.mem_cons.mp among with rfl | later
      · -- the later copies write behind this one
        rw [getElem?_copies_of_apart rest, getElem?_copyCells copied, if_pos (by omega),
          Nat.add_sub_cancel_left]
        intro other isLater
        have := behind other isLater
        omega
      · exact ih laterOrdered rest copy later i below

end Copies

end X3Hal.Memory
