import X3Hal.Memory.Copies

/-!
# Fills of a block

A fill writes one value into a range of cells.  Fills are made one after the other, and each cell
shows the last one that covers it.
-/

namespace X3Hal.Memory

open X3Hal.Transition

universe u v

variable {α : Type u}

/-- A range of cells -/
structure Fill where
  start : Nat
  size : Nat
  deriving DecidableEq

/-- Whether a fill writes a cell. -/
def Fill.Covers (fill : Fill) (i : Nat) : Prop :=
  fill.start ≤ i ∧ i < fill.start + fill.size

instance (fill : Fill) (i : Nat) : Decidable (fill.Covers i) :=
  inferInstanceAs (Decidable (_ ∧ _))

/-- `memset` -/
def fillCells (value : α) (block : List α) (fill : Fill) : Option (List α) :=
  store block fill.start (List.replicate fill.size value)

section Fills

variable {value : α} {block final : List α} {fill : Fill} {fills : List Fill}

theorem fillCells_isSome_iff :
    (fillCells value block fill).isSome ↔ fill.start + fill.size ≤ block.length := by
  rw [fillCells, store_isSome_iff, List.length_replicate]

theorem length_of_fillCells (filled : fillCells value block fill = some final) :
    final.length = block.length :=
  length_of_store filled

theorem getElem?_fillCells (filled : fillCells value block fill = some final) (i : Nat) :
    final[i]? = if fill.Covers i then some value else block[i]? := by
  rw [getElem?_store filled, List.length_replicate]
  by_cases covered : fill.Covers i
  · have within : i - fill.start < fill.size := by
      have := covered.1
      have := covered.2
      omega
    rw [if_pos covered, if_pos (And.intro covered.1 covered.2), List.getElem?_replicate,
      if_pos within]
  · have outside : ¬ (fill.start ≤ i ∧ i < fill.start + fill.size) := covered
    rw [if_neg covered, if_neg outside]

/-- Fills with one value -/
theorem exists_fills (value : α) (inside : ∀ fill ∈ fills, fill.start + fill.size ≤ block.length) :
    ∃ final, fills.foldlM (fillCells value) block = some final ∧ final.length = block.length ∧
      ∀ i, final[i]? = if ∃ fill ∈ fills, fill.Covers i then some value else block[i]? := by
  induction fills generalizing block with
  | nil =>
      refine ⟨block, rfl, rfl, fun i => ?_⟩
      rw [if_neg]
      rintro ⟨fill, isFill, -⟩
      cases isFill
  | cons fill fills ih =>
      have first : (fillCells value block fill).isSome :=
        fillCells_isSome_iff.mpr (inside fill List.mem_cons_self)
      obtain ⟨next, filled⟩ := Option.isSome_iff_exists.mp first
      have same := length_of_fillCells filled
      obtain ⟨final, ran, length, cells⟩ := ih fun other later => by
        rw [same]
        exact inside other (List.mem_cons_of_mem fill later)
      refine ⟨final, ?_, length.trans same, fun i => ?_⟩
      · rw [List.foldlM_cons, filled]
        exact ran
      · rw [cells, getElem?_fillCells filled]
        by_cases later : ∃ other ∈ fills, other.Covers i
        · obtain ⟨other, isOther, covered⟩ := later
          rw [if_pos ⟨other, isOther, covered⟩,
            if_pos ⟨other, List.mem_cons_of_mem fill isOther, covered⟩]
        · rw [if_neg later]
          by_cases covered : fill.Covers i
          · rw [if_pos covered, if_pos ⟨fill, List.mem_cons_self, covered⟩]
          · rw [if_neg covered, if_neg]
            rintro ⟨other, isOther, otherCovers⟩
            rcases List.mem_cons.mp isOther with rfl | isOther
            · exact covered otherCovers
            · exact later ⟨other, isOther, otherCovers⟩

end Fills

section Draws

variable {Draw : Type v} {draw : List α → Draw → Option (List α)} {value : Draw → α}
  {Covers : Draw → Nat → Prop} [∀ one i, Decidable (Covers one i)] {size : Nat}

/-- Where every draw writes its own value into the cells that it covers, a cell shows the last
draw that covers it. -/
theorem exists_draws {list : List Draw} (draws : ∀ one ∈ list, ∀ block : List α,
      block.length = size → ∃ final, draw block one = some final ∧ final.length = size ∧
        ∀ i, final[i]? = if Covers one i then some (value one) else block[i]?)
    (block : List α) (length : block.length = size) :
    ∃ final, list.foldlM draw block = some final ∧ final.length = size ∧
      ∀ i, final[i]? = ((list.filter fun one => decide (Covers one i)).getLast?.map value).or
        block[i]? := by
  induction list generalizing block with
  | nil => exact ⟨block, rfl, length, fun _ => rfl⟩
  | cons one rest ih =>
      obtain ⟨first, later⟩ := List.forall_mem_cons.mp draws
      obtain ⟨next, drawn, nextLength, cells⟩ := first block length
      obtain ⟨final, ran, finalLength, rests⟩ := ih later next nextLength
      refine ⟨final, ?_, finalLength, fun i => ?_⟩
      · rw [List.foldlM_cons, drawn]
        exact ran
      · rw [rests, cells, List.filter_cons]
        by_cases covered : Covers one i
        · rw [if_pos covered, if_pos (decide_eq_true covered), List.getLast?_cons]
          cases (rest.filter fun one => decide (Covers one i)).getLast? <;> rfl
        · rw [if_neg covered, if_neg]
          rw [decide_eq_true_eq]
          exact covered

end Draws

end X3Hal.Memory
