import Mathlib.Data.List.Basic
import Mathlib.Tactic.Common

/-!
# Blocks of memory

A block is the list of its cells.  Loads and stores are checked: an access that leaves
the block has no result.  What a block holds at an offset splits at an append, and a
store of an append is the store of its parts.
-/

namespace X3Hal.Memory

universe u

variable {α : Type u}

/-- The cells from `offset`; `none` when they leave the block. -/
def load (block : List α) (offset size : Nat) : Option (List α) :=
  if offset + size ≤ block.length then some ((block.drop offset).take size) else none

/-- The block with `data` written at `offset`; `none` when the data leaves the block. -/
def store (block : List α) (offset : Nat) (data : List α) : Option (List α) :=
  if offset + data.length ≤ block.length then
    some (block.take offset ++ (data ++ block.drop (offset + data.length)))
  else none

/-- The block holds `data` at `offset`. -/
def Holds (block : List α) (offset : Nat) (data : List α) : Prop :=
  load block offset data.length = some data

theorem load_isSome_iff {block : List α} {offset size : Nat} :
    (load block offset size).isSome ↔ offset + size ≤ block.length := by
  unfold load
  split <;> simp_all

theorem store_isSome_iff {block : List α} {offset : Nat} {data : List α} :
    (store block offset data).isSome ↔ offset + data.length ≤ block.length := by
  unfold store
  split <;> simp_all

/-! ## Accesses at a split -/

/-- A block is split around the cells of an access that stays inside. -/
theorem exists_split {block : List α} {offset size : Nat}
    (fits : offset + size ≤ block.length) :
    ∃ before old after, block = before ++ (old ++ after) ∧ before.length = offset ∧
      old.length = size := by
  refine ⟨block.take offset, (block.drop offset).take size, (block.drop offset).drop size,
    ?_, ?_, ?_⟩
  · rw [List.take_append_drop, List.take_append_drop]
  · rw [List.length_take]
    omega
  · rw [List.length_take, List.length_drop]
    omega

theorem load_split (before data after : List α) :
    load (before ++ (data ++ after)) before.length data.length = some data := by
  rw [load, if_pos (by simp only [List.length_append]; omega), List.drop_left, List.take_left]

theorem store_split {old data : List α} (same : old.length = data.length)
    (before after : List α) :
    store (before ++ (old ++ after)) before.length data = some (before ++ (data ++ after)) := by
  rw [store, if_pos (by simp only [List.length_append]; omega), List.take_left, ← same,
    ← List.drop_drop, List.drop_left, List.drop_left]

theorem store_eq_none {block : List α} {offset : Nat} {data : List α}
    (outside : ¬ offset + data.length ≤ block.length) : store block offset data = none :=
  if_neg outside

theorem exists_store {block : List α} {offset : Nat} {data : List α}
    (fits : offset + data.length ≤ block.length) : ∃ next, store block offset data = some next :=
  Option.isSome_iff_exists.mp (store_isSome_iff.mpr fits)

/-- A store that succeeded was inside. -/
theorem within_of_store {block next : List α} {offset : Nat} {data : List α}
    (stored : store block offset data = some next) : offset + data.length ≤ block.length := by
  rw [← store_isSome_iff, stored]
  rfl

theorem length_of_store {block next : List α} {offset : Nat} {data : List α}
    (stored : store block offset data = some next) : next.length = block.length := by
  obtain ⟨before, old, after, rfl, rfl, same⟩ := exists_split (within_of_store stored)
  rw [store_split same] at stored
  simp only [← Option.some.inj stored, List.length_append, same]

/-- Two stores in a row are the store of both. -/
theorem store_append (block : List α) (offset : Nat) (data more : List α) :
    store block offset (data ++ more) =
      (store block offset data).bind fun next => store next (offset + data.length) more := by
  by_cases fits : offset + (data ++ more).length ≤ block.length
  · have fitsBoth := fits
    rw [List.length_append] at fitsBoth
    obtain ⟨before, first, rest, rfl, rfl, sameData⟩ :=
      @exists_split _ block offset data.length (by omega)
    simp only [List.length_append] at fitsBoth
    obtain ⟨empty, second, after, rfl, none, sameMore⟩ :=
      @exists_split _ rest 0 more.length (by omega)
    obtain rfl : empty = [] := List.length_eq_zero_iff.mp none
    have sameBoth : (first ++ second).length = (data ++ more).length := by
      rw [List.length_append, List.length_append, sameData, sameMore]
    have both := store_split sameBoth before after
    have later := store_split sameMore (before ++ data) after
    rw [store_split sameData, Option.bind_some, ← List.length_append]
    simp only [List.append_assoc, List.nil_append] at both later ⊢
    rw [both, later]
  · rw [store_eq_none fits]
    cases stored : store block offset data with
    | none => rfl
    | some next =>
        rw [List.length_append] at fits
        have outside : ¬ offset + data.length + more.length ≤ next.length := by
          rw [length_of_store stored]
          omega
        rw [Option.bind_some, store_eq_none outside]

theorem store_nil {block : List α} {offset : Nat} (inside : offset ≤ block.length) :
    store block offset [] = some block := by
  rw [store, if_pos (by simpa using inside)]
  simp

/-! ## What a block holds -/

theorem holds_iff {block : List α} {offset : Nat} {data : List α} :
    Holds block offset data ↔
      ∃ before after, block = before ++ (data ++ after) ∧ before.length = offset := by
  constructor
  · intro held
    have fits : offset + data.length ≤ block.length := by
      rw [← load_isSome_iff, held]
      rfl
    obtain ⟨before, old, after, rfl, rfl, same⟩ := exists_split fits
    rw [Holds, ← same, load_split] at held
    exact ⟨before, after, by rw [Option.some.inj held], rfl⟩
  · rintro ⟨before, after, rfl, rfl⟩
    exact load_split before data after

/-- What is stored is held. -/
theorem holds_of_store {block next : List α} {offset : Nat} {data : List α}
    (stored : store block offset data = some next) : Holds next offset data := by
  obtain ⟨before, old, after, rfl, rfl, same⟩ := exists_split (within_of_store stored)
  rw [store_split same] at stored
  rw [← Option.some.inj stored]
  exact load_split before data after

/-- A block holds the parts of what it holds. -/
theorem Holds.append {block : List α} {offset : Nat} {data more : List α}
    (held : Holds block offset (data ++ more)) :
    Holds block offset data ∧ Holds block (offset + data.length) more := by
  obtain ⟨before, after, rfl, rfl⟩ := holds_iff.mp held
  constructor
  · exact holds_iff.mpr ⟨before, more ++ after, by rw [List.append_assoc], rfl⟩
  · exact holds_iff.mpr ⟨before ++ data, after, by simp only [List.append_assoc],
      List.length_append⟩

end X3Hal.Memory
