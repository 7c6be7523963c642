import Mathlib.Data.List.Basic
import Mathlib.Data.List.Nodup
import Mathlib.Tactic.Common

/-!
# Cyclic stores

A store of a fixed length takes its items in turn: item number `k` goes to the place `k` modulo
the length, so that the store holds the last items.
-/

namespace X3Hal.Memory

universe u

variable {α : Type u}

/-- The last items, at most so many. -/
def lastItems (count : Nat) (items : List α) : List α :=
  items.drop (items.length - count)

theorem length_lastItems (count : Nat) (items : List α) :
    (lastItems count items).length = min count items.length := by
  rw [lastItems, List.length_drop]
  omega

/-- Each of the last items is at its place. -/
def CyclicStore (store items : List α) : Prop :=
  ∀ k (less : k < items.length), items.length ≤ k + store.length →
    store[k % store.length]? = some items[k]

/-- Where the oldest of the last items is. -/
def oldestPlace (length count : Nat) : Nat :=
  if count > length then count % length else 0

variable {store items : List α} {item : α}

theorem CyclicStore.nil : CyclicStore store [] :=
  nofun

/-- Of two items that are less than a length apart, each has its own place. -/
theorem places_apart {k n length : Nat} (less : k < n) (within : n < k + length) :
    k % length ≠ n % length := by
  intro same
  have divides := Nat.sub_mod_eq_zero_of_mod_eq same.symm
  rw [Nat.mod_eq_of_lt (by omega)] at divides
  omega

/-- The next item is put at its place. -/
theorem CyclicStore.snoc (holds : CyclicStore store items) (filled : 0 < store.length) :
    CyclicStore (store.set (items.length % store.length) item) (items ++ [item]) := by
  intro k less recent
  rw [List.length_append, List.length_singleton] at less recent
  rw [List.length_set] at recent ⊢
  by_cases earlier : k < items.length
  · have apart := places_apart earlier (by omega : items.length < k + store.length)
    rw [List.getElem?_set_ne (Ne.symm apart), List.getElem_append_left earlier]
    exact holds k earlier (by omega)
  · have last : k = items.length := by omega
    subst last
    rw [List.getElem?_set_self (Nat.mod_lt _ filled)]
    simp

/-- The last items are read in order from the place of the oldest. -/
theorem CyclicStore.read (holds : CyclicStore store items) {index : Nat}
    (inStore : index < store.length) (inItems : index < items.length) :
    store[(oldestPlace store.length items.length + index) % store.length]? =
      (lastItems store.length items)[index]? := by
  rw [lastItems, List.getElem?_drop, oldestPlace]
  split
  case isTrue full =>
    have place : (items.length % store.length + index) % store.length =
        (items.length - store.length + index) % store.length := by
      rw [Nat.mod_add_mod, ← Nat.add_mod_right (items.length - store.length + index)]
      congr 1
      omega
    rw [place, holds _ (by omega) (by omega)]
    exact (List.getElem?_eq_getElem _).symm
  case isFalse notFull =>
    have none : items.length - store.length = 0 := by omega
    have small := holds index inItems (by omega)
    rw [none, Nat.zero_add, small]
    exact (List.getElem?_eq_getElem _).symm

theorem CyclicStore.of_nil : CyclicStore [] items := by
  intro k less recent
  rw [List.length_nil] at recent
  omega

/-- Every place of a store that is full has one of the last items. -/
theorem CyclicStore.read_full (holds : CyclicStore store items)
    (full : store.length ≤ items.length) {index : Nat} (inStore : index < store.length) :
    store[(items.length + index) % store.length]? = (lastItems store.length items)[index]? := by
  rw [← holds.read inStore (by omega), oldestPlace]
  split
  case isTrue => rw [Nat.mod_add_mod]
  case isFalse notMore =>
    have same : items.length = store.length := by omega
    rw [same, Nat.add_mod_left, Nat.zero_add]

/-- With different items, an item is at its place only. -/
theorem CyclicStore.place_unique (holds : CyclicStore store items)
    (full : store.length ≤ items.length) (nodup : items.Nodup) {place index : Nat}
    (inStore : place < store.length) (indexInStore : index < store.length)
    (same : store[place]? = (lastItems store.length items)[index]?) :
    place = (items.length + index) % store.length := by
  -- the index of the item that is at the place
  let other := (place + (store.length - items.length % store.length)) % store.length
  have otherInStore : other < store.length := Nat.mod_lt _ (by omega)
  have small : items.length % store.length < store.length := Nat.mod_lt _ (by omega)
  have otherPlace : (items.length + other) % store.length = place := by
    have sum : items.length % store.length +
        (place + (store.length - items.length % store.length)) = place + store.length := by omega
    rw [Nat.add_mod_mod, ← Nat.mod_add_mod, sum, Nat.add_mod_right, Nat.mod_eq_of_lt inStore]
  have found := holds.read_full full otherInStore
  rw [otherPlace, same] at found
  have length : (lastItems store.length items).length = store.length := by
    rw [length_lastItems]
    omega
  have lastNodup : (lastItems store.length items).Nodup := nodup.sublist (List.drop_sublist _ _)
  have sameIndex : index = other := by
    rw [List.getElem?_eq_getElem (by omega), List.getElem?_eq_getElem (by omega),
      Option.some.injEq] at found
    exact (lastNodup.getElem_inj_iff).mp found
  rw [sameIndex, otherPlace]

end X3Hal.Memory
