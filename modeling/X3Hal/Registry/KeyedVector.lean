import Mathlib.Data.List.Nodup
import Mathlib.Data.List.Pairwise
import Mathlib.Order.Basic
import Mathlib.Order.Defs.LinearOrder
import Mathlib.Order.Lattice

/-!
# Keyed vectors

A keyed vector holds values under keys, at most one under each, in the order of the keys.
-/

namespace X3Hal.Registry

universe u v

variable {Key : Type u} {Value : Type v} [LinearOrder Key]

/-- Insert a value into entries that are ordered by their keys, or replace the one that is
there. -/
def insertEntry (key : Key) (value : Value) : List (Key × Value) → List (Key × Value)
  | [] => [(key, value)]
  | entry :: rest =>
      if key < entry.1 then (key, value) :: entry :: rest
      else if key = entry.1 then (key, value) :: rest
      else entry :: insertEntry key value rest

theorem mem_insertEntry {key : Key} {value : Value} {entries : List (Key × Value)}
    {entry : Key × Value} (occurs : entry ∈ insertEntry key value entries) :
    entry = (key, value) ∨ entry ∈ entries := by
  induction entries with
  | nil =>
      rw [insertEntry, List.mem_singleton] at occurs
      exact Or.inl occurs
  | cons first rest ih =>
      rw [insertEntry] at occurs
      split at occurs
      · exact List.mem_cons.mp occurs
      · split at occurs
        · exact (List.mem_cons.mp occurs).imp_right (List.mem_cons_of_mem first)
        · rcases List.mem_cons.mp occurs with rfl | later
          · exact Or.inr List.mem_cons_self
          · exact (ih later).imp_right (List.mem_cons_of_mem first)

theorem pairwise_insertEntry {key : Key} {value : Value} {entries : List (Key × Value)}
    (ordered : entries.Pairwise fun first second => first.1 < second.1) :
    (insertEntry key value entries).Pairwise fun first second => first.1 < second.1 := by
  induction entries with
  | nil => exact List.pairwise_singleton _ _
  | cons first rest ih =>
      rw [List.pairwise_cons] at ordered
      rw [insertEntry]
      split
      case isTrue before =>
        rw [List.pairwise_cons]
        constructor
        · intro entry occurs
          rcases List.mem_cons.mp occurs with rfl | later
          · exact before
          · exact before.trans (ordered.1 entry later)
        · exact List.pairwise_cons.mpr ordered
      case isFalse notBefore =>
        split
        case isTrue same =>
          rw [List.pairwise_cons]
          constructor
          · intro entry later
            rw [same]
            exact ordered.1 entry later
          · exact ordered.2
        case isFalse apart =>
          rw [List.pairwise_cons]
          constructor
          · intro entry occurs
            rcases mem_insertEntry occurs with rfl | later
            · exact lt_of_le_of_ne (not_lt.mp notBefore) (Ne.symm apart)
            · exact ordered.1 entry later
          · exact ih ordered.2

/-- Entries in the order of their keys. -/
structure KeyedVector (Key : Type u) (Value : Type v) [LinearOrder Key] where
  entries : List (Key × Value)
  ordered : entries.Pairwise fun first second => first.1 < second.1

namespace KeyedVector

def empty : KeyedVector Key Value :=
  ⟨[], List.Pairwise.nil⟩

def size (vector : KeyedVector Key Value) : Nat :=
  vector.entries.length

/-- The value under a key. -/
def valueFor (vector : KeyedVector Key Value) (key : Key) : Option Value :=
  (vector.entries.find? fun entry => entry.1 = key).map Prod.snd

/-- Put a value under a key, in place of the one that is there. -/
def add (vector : KeyedVector Key Value) (key : Key) (value : Value) : KeyedVector Key Value :=
  ⟨insertEntry key value vector.entries, pairwise_insertEntry vector.ordered⟩

/-- Keep the entries that pass a test. -/
def keep (vector : KeyedVector Key Value) (test : Key → Value → Bool) :
    KeyedVector Key Value :=
  ⟨vector.entries.filter fun entry => test entry.1 entry.2, vector.ordered.filter _⟩

/-- Change the values, or drop them. -/
def modify (vector : KeyedVector Key Value) (change : Value → Option Value) :
    KeyedVector Key Value :=
  ⟨vector.entries.filterMap fun entry => (change entry.2).map (entry.1, ·),
    vector.ordered.filterMap _ fun first second less => by
      intro changed isChanged other isOther
      obtain ⟨_, _, rfl⟩ := Option.map_eq_some_iff.mp isChanged
      obtain ⟨_, _, rfl⟩ := Option.map_eq_some_iff.mp isOther
      exact less⟩

def removeItem (vector : KeyedVector Key Value) (key : Key) : KeyedVector Key Value :=
  vector.keep fun other _ => other ≠ key

variable {vector : KeyedVector Key Value} {key other : Key} {value : Value}

@[simp]
theorem valueFor_empty (key : Key) : (empty : KeyedVector Key Value).valueFor key = none :=
  rfl

theorem nodup_keys (vector : KeyedVector Key Value) :
    (vector.entries.map Prod.fst).Nodup := by
  rw [List.Nodup, List.pairwise_map]
  exact vector.ordered.imp ne_of_lt

/-- An entry is found under its key. -/
theorem valueFor_eq_some_iff :
    vector.valueFor key = some value ↔ (key, value) ∈ vector.entries := by
  rw [valueFor, Option.map_eq_some_iff]
  constructor
  · rintro ⟨entry, first, rfl⟩
    have same : entry.1 = key := by simpa using List.find?_some first
    rw [← same]
    exact List.mem_of_find?_eq_some first
  · intro occurs
    cases found : vector.entries.find? fun entry => entry.1 = key with
    | none =>
        rw [List.find?_eq_none] at found
        exact absurd (decide_eq_true rfl) (found (key, value) occurs)
    | some entry =>
        have same : entry.1 = key := by simpa using List.find?_some found
        have own : entry = (key, value) :=
          List.inj_on_of_nodup_map vector.nodup_keys (List.mem_of_find?_eq_some found) occurs same
        exact ⟨entry, rfl, by rw [own]⟩

theorem valueFor_add (vector : KeyedVector Key Value) (key other : Key) (value : Value) :
    (vector.add key value).valueFor other =
      if other = key then some value else vector.valueFor other := by
  obtain ⟨entries, ordered⟩ := vector
  have swap : ∀ first : Key, (decide (first = other)) = (decide (other = first)) :=
    fun first => decide_eq_decide.mpr eq_comm
  simp only [valueFor, add, swap]
  clear ordered
  induction entries with
  | nil => by_cases same : other = key <;> simp [insertEntry, same]
  | cons entry rest ih =>
      rw [insertEntry]
      split
      case isTrue before => by_cases same : other = key <;> simp [same]
      case isFalse notBefore =>
        split
        case isTrue equal =>
          by_cases same : other = key
          · simp [same]
          · have apart : other ≠ entry.1 := equal ▸ same
            simp [same, apart]
        case isFalse apart =>
          by_cases first : other = entry.1
          · subst first
            have differs : entry.1 ≠ key := Ne.symm apart
            simp [differs]
          · simpa [first] using ih

@[simp]
theorem valueFor_add_self (vector : KeyedVector Key Value) (key : Key) (value : Value) :
    (vector.add key value).valueFor key = some value := by
  rw [valueFor_add, if_pos rfl]

theorem valueFor_add_of_ne (apart : other ≠ key) (vector : KeyedVector Key Value)
    (value : Value) : (vector.add key value).valueFor other = vector.valueFor other := by
  rw [valueFor_add, if_neg apart]

theorem valueFor_keep_eq_some_iff {test : Key → Value → Bool} :
    (vector.keep test).valueFor key = some value ↔
      vector.valueFor key = some value ∧ test key value = true := by
  rw [valueFor_eq_some_iff, valueFor_eq_some_iff, keep, List.mem_filter]

theorem valueFor_modify (vector : KeyedVector Key Value) (change : Value → Option Value)
    (key : Key) : (vector.modify change).valueFor key = (vector.valueFor key).bind change := by
  apply Option.ext
  intro value
  rw [valueFor_eq_some_iff, modify, List.mem_filterMap, Option.bind_eq_some_iff]
  constructor
  · rintro ⟨⟨own, before⟩, occurs, isChanged⟩
    obtain ⟨after, changed, same⟩ := Option.map_eq_some_iff.mp isChanged
    cases same
    exact ⟨before, valueFor_eq_some_iff.mpr occurs, changed⟩
  · rintro ⟨before, found, changed⟩
    exact ⟨(key, before), valueFor_eq_some_iff.mp found, by rw [changed]; rfl⟩

theorem valueFor_removeItem (vector : KeyedVector Key Value) (key other : Key) :
    (vector.removeItem key).valueFor other =
      if other = key then none else vector.valueFor other := by
  apply Option.ext
  intro value
  rw [removeItem, valueFor_keep_eq_some_iff]
  by_cases same : other = key <;> simp [same]

theorem valueFor_removeItem_eq_some_iff {other : Key} {value : Value} :
    (vector.removeItem key).valueFor other = some value ↔
      other ≠ key ∧ vector.valueFor other = some value := by
  rw [valueFor_removeItem]
  split
  case isTrue same =>
    exact iff_of_false (Option.some_ne_none value).symm fun both => both.1 same
  case isFalse apart => exact (and_iff_right apart).symm

/-- What is put under a key and removed makes no difference. -/
theorem removeItem_add_self (vector : KeyedVector Key Value) (key : Key) (value : Value) :
    (vector.add key value).removeItem key = vector.removeItem key := by
  obtain ⟨entries, ordered⟩ := vector
  have same : (insertEntry key value entries).filter (fun entry => decide (entry.1 ≠ key)) =
      entries.filter fun entry => decide (entry.1 ≠ key) := by
    clear ordered
    induction entries with
    | nil => simp [insertEntry]
    | cons entry rest ih =>
        rw [insertEntry]
        split
        case isTrue => simp
        case isFalse =>
          split
          case isTrue equal => simp [equal]
          case isFalse => rw [List.filter_cons, List.filter_cons, ih]
  simp only [removeItem, keep, add, same]

/-- The entries around the one that is removed stay. -/
theorem entries_removeItem {before after : List (Key × Value)} {entry : Key × Value}
    (split : vector.entries = before ++ entry :: after) :
    (vector.removeItem entry.1).entries = before ++ after := by
  have ordered := vector.ordered
  rw [split, List.pairwise_append, List.pairwise_cons] at ordered
  have first : ∀ other ∈ before, decide (other.1 ≠ entry.1) = true := fun other among =>
    decide_eq_true (ne_of_lt (ordered.2.2 other among entry List.mem_cons_self))
  have last : ∀ other ∈ after, decide (other.1 ≠ entry.1) = true := fun other among =>
    decide_eq_true (ne_of_gt (ordered.2.1.1 other among))
  change vector.entries.filter (fun other => decide (other.1 ≠ entry.1)) = _
  rw [split, List.filter_append, List.filter_cons_of_neg (by simp),
    List.filter_eq_self.mpr first, List.filter_eq_self.mpr last]

end KeyedVector

end X3Hal.Registry
