import Mathlib.Data.List.Nodup

/-!
# Tables of what was used last

A table of limited size keeps one entry for each key, the last used first.  Using a key moves
it to the front with its new value; only when a new key comes to a full table does an entry go,
the one that was used longest ago.
-/

namespace X3Hal.Registry

universe u v

/-- Entries with the last used first -/
structure Recency (Key : Type u) (Value : Type v) (capacity : Nat) where
  entries : List (Key × Value)
  nodup : (entries.map Prod.fst).Nodup
  length_le : entries.length ≤ capacity

namespace Recency

variable {Key : Type u} {Value : Type v} {capacity : Nat}

def keys (table : Recency Key Value capacity) : List Key :=
  table.entries.map Prod.fst

def empty : Recency Key Value capacity :=
  ⟨[], List.nodup_nil, Nat.zero_le _⟩

variable [DecidableEq Key]

def lookup (table : Recency Key Value capacity) (key : Key) : Option Value :=
  (table.entries.find? fun entry => entry.1 = key).map Prod.snd

theorem map_eraseP_key (entries : List (Key × Value)) (key : Key) :
    (entries.eraseP fun entry => entry.1 = key).map Prod.fst =
      (entries.map Prod.fst).erase key := by
  induction entries with
  | nil => rfl
  | cons entry rest ih =>
      by_cases same : entry.1 = key
      · simp [same]
      · simp [same, ih]

/-- Use a key: it goes to the front with its value, and what does not fit any more goes. -/
def touch (table : Recency Key Value capacity) (key : Key) (value : Value) :
    Recency Key Value capacity where
  entries := ((key, value) :: table.entries.eraseP fun entry => entry.1 = key).take capacity
  nodup := by
    rw [List.map_take, List.map_cons, map_eraseP_key]
    apply List.Sublist.nodup (List.take_sublist _ _)
    exact List.nodup_cons.mpr ⟨table.nodup.not_mem_erase, table.nodup.erase _⟩
  length_le := List.length_take_le _ _

variable (table : Recency Key Value capacity) (key : Key) (value : Value)

theorem keys_touch :
    (table.touch key value).keys = (key :: table.keys.erase key).take capacity := by
  rw [keys, touch, List.map_take, List.map_cons, map_eraseP_key]
  rfl

omit [DecidableEq Key] in
theorem length_keys : table.keys.length = table.entries.length :=
  List.length_map _

/-- The key of an entry that is there moves to the front. -/
theorem keys_touch_of_mem (present : key ∈ table.keys) :
    (table.touch key value).keys = key :: table.keys.erase key := by
  rw [keys_touch]
  apply List.take_of_length_le
  rw [List.length_cons, List.length_erase_of_mem present, length_keys]
  have fits := table.length_le
  have positive := List.length_pos_of_mem present
  rw [length_keys] at positive
  omega

/-- A new key comes to the front of a table that has room. -/
theorem keys_touch_of_room (absent : key ∉ table.keys) (room : table.keys.length < capacity) :
    (table.touch key value).keys = key :: table.keys := by
  rw [keys_touch, List.erase_of_not_mem absent]
  exact List.take_of_length_le room

/-- A new key comes to the front of a full table, and the oldest entry goes. -/
theorem keys_touch_of_full {last : Nat} (table : Recency Key Value (last + 1)) (key : Key)
    (value : Value) (absent : key ∉ table.keys) (full : table.keys.length = last + 1) :
    (table.touch key value).keys = key :: table.keys.dropLast := by
  rw [keys_touch, List.erase_of_not_mem absent, List.take_succ_cons, List.dropLast_eq_take, full]
  rfl

end Recency

/-- What using a key does to the keys of a table. -/
structure UsedLast {Key : Type u} (capacity : Nat) (before : List Key) (key : Key)
    (after : List Key) : Prop where
  distinct : after.Nodup
  front : after.head? = some key
  /-- the other keys keep their order -/
  order : after.tail.Sublist before
  kept : key ∈ before ∨ before.length < capacity → before ⊆ after
  oldest : key ∉ before → before.length = capacity → after.tail = before.dropLast

theorem Recency.usedLast_touch {Key : Type u} {Value : Type v} [DecidableEq Key] {last : Nat}
    (table : Recency Key Value (last + 1)) (key : Key) (value : Value) :
    UsedLast (last + 1) table.keys key (table.touch key value).keys where
  distinct := (table.touch key value).nodup
  front := by
    rw [keys_touch]
    rfl
  order := by
    rw [keys_touch, List.take_succ_cons, List.tail_cons]
    exact (List.take_sublist _ _).trans List.erase_sublist
  kept := by
    intro fits other among
    by_cases present : key ∈ table.keys
    · rw [keys_touch_of_mem _ _ _ present]
      by_cases same : other = key
      · exact same ▸ List.mem_cons_self
      · exact List.mem_cons_of_mem _ ((List.mem_erase_of_ne same).mpr among)
    · rw [keys_touch_of_room _ _ _ present (fits.resolve_left present)]
      exact List.mem_cons_of_mem _ among
  oldest := by
    intro absent full
    rw [keys_touch_of_full _ _ _ absent full, List.tail_cons]

end X3Hal.Registry
