import Mathlib.Data.List.Perm.Basic
import Mathlib.Data.List.Nodup

/-!
# Ledgers

Every key that was issued is in exactly one of three places: held, on its way
out, or settled.  The rules follow a key through its life; what is held is then
determined by what was issued and what has left.
-/

namespace X3Hal.Transition

universe u

variable {α : Type u}

/-- The issued keys are distinct, and each is held, moving or settled. -/
structure Ledger (issued held moving settled : List α) : Prop where
  perm : issued.Perm (held ++ (moving ++ settled))
  nodup : issued.Nodup

namespace Ledger

variable {issued held moving settled before after : List α} {key : α}

theorem empty : Ledger ([] : List α) [] [] [] :=
  ⟨List.Perm.refl _, List.nodup_nil⟩

/-- A fresh key is issued into the held ones. -/
theorem issue (ledger : Ledger issued held moving settled) (fresh : key ∉ issued) :
    Ledger (issued ++ [key]) (key :: held) moving settled := by
  constructor
  · exact (List.perm_append_singleton key issued).trans (ledger.perm.cons key)
  · exact List.nodup_append'.mpr ⟨ledger.nodup, List.nodup_singleton key,
      List.disjoint_singleton.mpr fresh⟩

/-- A held key starts moving. -/
theorem take (ledger : Ledger issued (before ++ key :: after) moving settled) :
    Ledger issued (before ++ after) (key :: moving) settled := by
  constructor
  · have front : (before ++ key :: after ++ (moving ++ settled)).Perm
        (key :: (before ++ after ++ (moving ++ settled))) := by
      rw [List.append_assoc, List.cons_append, List.append_assoc before after]
      exact List.perm_middle
    exact ledger.perm.trans (front.trans List.perm_middle.symm)
  · exact ledger.nodup

/-- A moving key is settled. -/
theorem settle (ledger : Ledger issued held (before ++ key :: after) settled) :
    Ledger issued held (before ++ after) (settled ++ [key]) := by
  constructor
  · have front : (before ++ key :: after ++ settled).Perm
        (before ++ after ++ (settled ++ [key])) := by
      rw [List.append_assoc before after, List.append_assoc before]
      refine List.Perm.append_left before ?_
      rw [← List.append_assoc]
      exact (List.perm_append_singleton key (after ++ settled)).symm
    exact ledger.perm.trans (List.Perm.append_left held front)
  · exact ledger.nodup

theorem nodup_parts (ledger : Ledger issued held moving settled) :
    (held ++ (moving ++ settled)).Nodup :=
  ledger.perm.nodup_iff.mp ledger.nodup

theorem held_nodup (ledger : Ledger issued held moving settled) : held.Nodup :=
  (List.nodup_append'.mp ledger.nodup_parts).1

theorem settled_nodup (ledger : Ledger issued held moving settled) : settled.Nodup :=
  (List.nodup_append'.mp (List.nodup_append'.mp ledger.nodup_parts).2.1).2.1

/-- What is held is what was issued and is neither moving nor settled. -/
theorem mem_held_iff (ledger : Ledger issued held moving settled) :
    key ∈ held ↔ key ∈ issued ∧ key ∉ moving ∧ key ∉ settled := by
  have apart := (List.nodup_append'.mp ledger.nodup_parts).2.2
  rw [ledger.perm.mem_iff, List.mem_append, List.mem_append]
  constructor
  · intro inHeld
    have outside : key ∉ moving ++ settled := fun other => apart inHeld other
    rw [List.mem_append, not_or] at outside
    exact ⟨Or.inl inHeld, outside⟩
  · rintro ⟨inHeld | inMoving | inSettled, notMoving, notSettled⟩
    · exact inHeld
    · exact absurd inMoving notMoving
    · exact absurd inSettled notSettled

end Ledger

/-- The first element that passes a test, and the list without it. -/
theorem exists_split_of_find? {p : α → Bool} {items : List α} {found : α}
    (first : items.find? p = some found) :
    ∃ before after, items = before ++ found :: after ∧ items.eraseP p = before ++ after := by
  rw [List.find?_eq_some_iff_append] at first
  obtain ⟨passes, before, after, rfl, others⟩ := first
  refine ⟨before, after, rfl, ?_⟩
  rw [List.eraseP_append_right _ (by simpa using others), List.eraseP_cons_of_pos passes]

end X3Hal.Transition
