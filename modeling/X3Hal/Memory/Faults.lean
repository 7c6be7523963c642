import Mathlib.Data.List.Basic
import Mathlib.Tactic.Common

/-!
# Computations with checked accesses

An access that goes wrong ends the computation with its fault.  A computation stays inside when
it neither reads behind an array nor asks for a negative size, whatever else ends it; whether it
does is read off one access after the other.
-/

namespace X3Hal.Memory

/-- What ends a computation -/
inductive Fault
  | outside | negativeSize | nullPointer
  deriving DecidableEq, Repr

abbrev Checked := Except Fault

variable {α β : Type}

/-- An element of an array -/
def element (array : List α) (i : Nat) : Checked α :=
  (array[i]?).elim (.error .outside) .ok

/-- An array with an element written -/
def update (array : List α) (i : Nat) (value : α) : Checked (List α) :=
  if i < array.length then .ok (array.set i value) else .error .outside

/-- The bytes of a string up to its NUL -/
def stringAt (memory : List UInt8) : Checked (List UInt8) :=
  if 0 ∈ memory then .ok (memory.takeWhile (· ≠ 0)) else .error .outside

/-- The target of a pointer that may be null -/
def target (pointer : Option α) : Checked α :=
  pointer.elim (.error .nullPointer) .ok

/-- The size of a vector, given as a signed number -/
def vectorSize (value : Int) : Checked Nat :=
  if value < 0 then .error .negativeSize else .ok value.toNat

/-- The first bytes of a buffer, as many as a signed number says -/
def front (buffer : List α) (length : Int) : Checked (List α) :=
  if 0 ≤ length ∧ length ≤ buffer.length then .ok (buffer.take length.toNat)
  else .error .outside

@[simp]
theorem ok_bind (value : α) (next : α → Checked β) :
    ((.ok value : Checked α) >>= next) = next value :=
  rfl

theorem element_eq {array : List α} {i : Nat} {value : α} (at_i : array[i]? = some value) :
    element array i = .ok value := by
  rw [element, at_i]
  rfl

@[simp]
theorem target_some (value : α) : target (some value) = .ok value :=
  rfl

/-- No access leaves its array, and no size is negative. -/
def Stays (run : Checked α) : Prop :=
  run ≠ .error .outside ∧ run ≠ .error .negativeSize

theorem stays_ok (value : α) : Stays (.ok value) :=
  ⟨nofun, nofun⟩

theorem stays_element {array : List α} {i : Nat} (inside : i < array.length) :
    Stays (element array i) := by
  rw [element_eq (List.getElem?_eq_getElem inside)]
  exact stays_ok _

section Bind

variable {next : α → Checked β} {P : Prop}

theorem stays_bind {run : Checked α} (first : Stays run)
    (follows : ∀ value, run = .ok value → Stays (next value)) : Stays (run >>= next) := by
  cases run with
  | error fault => exact ⟨fun same => first.1 (congrArg _ (Except.error.inj same)),
      fun same => first.2 (congrArg _ (Except.error.inj same))⟩
  | ok value => exact follows value rfl

theorem stays_element_bind_iff {array : List α} {i : Nat}
    (follows : ∀ value, array[i]? = some value → (Stays (next value) ↔ P)) :
    Stays (element array i >>= next) ↔ i < array.length ∧ P := by
  unfold element
  by_cases inside : i < array.length
  · have read : array[i]? = some array[i] := List.getElem?_eq_getElem inside
    rw [read]
    exact (follows _ read).trans (iff_and_self.mpr fun _ => inside)
  · rw [List.getElem?_eq_none (Nat.le_of_not_lt inside)]
    exact iff_of_false (fun stays => stays.1 rfl) fun both => inside both.1

theorem stays_vectorSize_bind_iff {value : Int} {next : Nat → Checked β} :
    Stays (vectorSize value >>= next) ↔ 0 ≤ value ∧ Stays (next value.toNat) := by
  unfold vectorSize
  split
  case isTrue negative => exact iff_of_false (fun stays => stays.2 rfl) fun both => by omega
  case isFalse nonneg => exact iff_and_self.mpr fun _ => Int.not_lt.mp nonneg

theorem stays_mapM {read : α → Checked β} {items : List α}
    (inside : ∀ item ∈ items, Stays (read item)) : Stays (items.mapM read) := by
  induction items with
  | nil => exact stays_ok _
  | cons item items ih =>
      rw [List.mapM_cons]
      apply stays_bind (inside item List.mem_cons_self)
      intro first _
      apply stays_bind (ih fun later among => inside later (List.mem_cons_of_mem _ among))
      exact fun rest _ => stays_ok _

end Bind

end X3Hal.Memory
