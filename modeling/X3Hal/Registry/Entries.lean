import Mathlib.Data.List.Nodup

/-!
# Tables with entries that are removed by key

Owners add entries to a table, each under a key.  An entry is removed by its key alone: the
first one goes, whoever owns it.  When the keys of an owner are those of no earlier entry, what
goes is its own.
-/

namespace X3Hal.Registry

universe u v

variable {Key : Type u} {Owner : Type v}

/-- The entries of an owner. -/
def entriesOf (keys : List Key) (owner : Owner) : List (Key × Owner) :=
  keys.map fun key => (key, owner)

variable {key : Key} {keys added order : List Key} {owner : Owner}
  {table before after : List (Key × Owner)}

@[simp]
theorem entriesOf_nil (owner : Owner) : entriesOf ([] : List Key) owner = [] :=
  rfl

theorem entriesOf_append (first second : List Key) (owner : Owner) :
    entriesOf (first ++ second) owner = entriesOf first owner ++ entriesOf second owner :=
  List.map_append

theorem mem_entriesOf {entry : Key × Owner} :
    entry ∈ entriesOf keys owner ↔ entry.1 ∈ keys ∧ entry.2 = owner := by
  constructor
  · intro occurs
    obtain ⟨key, among, rfl⟩ := List.mem_map.mp occurs
    exact ⟨among, rfl⟩
  · rintro ⟨among, rfl⟩
    exact List.mem_map.mpr ⟨entry.1, among, rfl⟩

variable [DecidableEq Key]

/-- The table without the first entry of the key. -/
def remove (key : Key) (table : List (Key × Owner)) : List (Key × Owner) :=
  table.eraseP fun entry => entry.1 = key

/-- Remove one entry for each of the keys. -/
def removeAll : List Key → List (Key × Owner) → List (Key × Owner)
  | [], table => table
  | key :: rest, table => removeAll rest (remove key table)

/-- The first entry of a key is found behind those of other keys. -/
theorem remove_append_right (foreign : ∀ entry ∈ before, entry.1 ≠ key) :
    remove key (before ++ table) = before ++ remove key table := by
  apply List.eraseP_append_right
  intro entry occurs
  simpa using foreign entry occurs

theorem remove_of_foreign (foreign : ∀ entry ∈ table, entry.1 ≠ key) :
    remove key table = table := by
  apply List.eraseP_of_forall_not
  intro entry occurs
  simpa using foreign entry occurs

/-- An owner's entry goes before those behind it. -/
theorem remove_entriesOf (among : key ∈ added) :
    remove key (entriesOf added owner ++ table) = entriesOf (added.erase key) owner ++ table := by
  induction added with
  | nil => cases among
  | cons first rest ih =>
      by_cases same : first = key
      · subst same
        rw [List.erase_cons_head]
        exact List.eraseP_cons_of_pos (by simp)
      · have later : key ∈ rest := by
          rcases List.mem_cons.mp among with equal | later
          · exact absurd equal.symm same
          · exact later
        rw [List.erase_cons_tail (by simpa using same)]
        calc remove key ((first, owner) :: (entriesOf rest owner ++ table))
            = (first, owner) :: remove key (entriesOf rest owner ++ table) :=
              List.eraseP_cons_of_neg (by simpa using same)
          _ = (first, owner) :: (entriesOf (rest.erase key) owner ++ table) := by rw [ih later]

/-- Removing distinct keys takes an owner's entries, and only these, when the entries in front
of them have none of the keys and those behind have no others. -/
theorem removeAll_added (once : order.Nodup) (distinct : added.Nodup) (covered : added ⊆ order)
    (foreign : ∀ entry ∈ before, entry.1 ∉ order)
    (behind : ∀ entry ∈ after, entry.1 ∈ order → entry.1 ∈ added) :
    removeAll order (before ++ (entriesOf added owner ++ after)) = before ++ after := by
  induction order generalizing added with
  | nil =>
      rw [List.subset_nil.mp covered]
      rfl
  | cons key rest ih =>
      rw [List.nodup_cons] at once
      have foreignRest : ∀ entry ∈ before, entry.1 ∉ rest := fun entry occurs among =>
        foreign entry occurs (List.mem_cons_of_mem key among)
      have foreignKey : ∀ entry ∈ before, entry.1 ≠ key := by
        rintro entry occurs rfl
        exact foreign entry occurs List.mem_cons_self
      rw [removeAll, remove_append_right foreignKey]
      by_cases among : key ∈ added
      · rw [remove_entriesOf among]
        apply ih once.2 (distinct.erase key) _ foreignRest
        · intro entry occurs later
          have differs : entry.1 ≠ key := by
            rintro rfl
            exact once.1 later
          rw [distinct.mem_erase_iff]
          exact ⟨differs, behind entry occurs (List.mem_cons_of_mem key later)⟩
        · intro other inside
          rw [distinct.mem_erase_iff] at inside
          rcases List.mem_cons.mp (covered inside.2) with same | later
          · exact absurd same inside.1
          · exact later
      · have absent : ∀ entry ∈ entriesOf added owner ++ after, entry.1 ≠ key := by
          rintro entry occurs rfl
          rcases List.mem_append.mp occurs with own | other
          · exact among (mem_entriesOf.mp own).1
          · exact among (behind entry other List.mem_cons_self)
        rw [remove_of_foreign absent]
        apply ih once.2 distinct _ foreignRest
        · intro entry occurs later
          exact behind entry occurs (List.mem_cons_of_mem key later)
        · intro other inside
          rcases List.mem_cons.mp (covered inside) with same | later
          · subst same
            exact absurd inside among
          · exact later

/-- The same for an owner whose entries are the last. -/
theorem removeAll_last (once : order.Nodup) (distinct : added.Nodup) (covered : added ⊆ order)
    (foreign : ∀ entry ∈ before, entry.1 ∉ order) :
    removeAll order (before ++ entriesOf added owner) = before := by
  have behind : ∀ entry ∈ ([] : List (Key × Owner)), entry.1 ∈ order → entry.1 ∈ added :=
    fun entry occurs => absurd occurs List.not_mem_nil
  have removed := @removeAll_added _ _ added order owner before [] _ once distinct covered foreign
    behind
  rw [List.append_nil, List.append_nil] at removed
  exact removed

/-- Keys that no entry has remove nothing. -/
theorem removeAll_of_foreign (foreign : ∀ entry ∈ table, entry.1 ∉ order) :
    removeAll order table = table := by
  induction order with
  | nil => rfl
  | cons key rest ih =>
      rw [removeAll, remove_of_foreign, ih]
      · intro entry occurs among
        exact foreign entry occurs (List.mem_cons_of_mem key among)
      · rintro entry occurs rfl
        exact foreign entry occurs List.mem_cons_self

end X3Hal.Registry
