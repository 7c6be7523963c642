import Mathlib.Data.List.Basic

/-!
# Relays

A relay passes on what it receives, in order; it may leave items out, and what it has still
to pass on waits in a queue.
-/

namespace X3Hal.Queue

universe u

/-- What was handed on, and after it what is queued, are received items in their order. -/
def Relayed {α : Type u} (received handed queued : List α) : Prop :=
  (handed ++ queued).Sublist received

namespace Relayed

variable {α : Type u} {received handed queued : List α} {item : α}

theorem empty : Relayed ([] : List α) [] [] :=
  List.Sublist.refl []

/-- What was handed on is a part of what was received. -/
theorem handed_sublist (relayed : Relayed received handed queued) : handed.Sublist received :=
  (List.sublist_append_left handed queued).trans relayed

/-- A received item may be left out. -/
theorem ignore (relayed : Relayed received handed queued) (item : α) :
    Relayed (received ++ [item]) handed queued :=
  relayed.trans (List.sublist_append_left received [item])

theorem enqueue (relayed : Relayed received handed queued) (item : α) :
    Relayed (received ++ [item]) handed (queued ++ [item]) := by
  unfold Relayed
  rw [← List.append_assoc]
  exact relayed.append_right [item]

theorem hand (relayed : Relayed received handed (item :: queued)) :
    Relayed received (handed ++ [item]) queued := by
  unfold Relayed
  rw [List.append_assoc]
  exact relayed

/-- The next item may be lost. -/
theorem drop (relayed : Relayed received handed (item :: queued)) :
    Relayed received handed queued :=
  List.Sublist.trans ((List.sublist_cons_self item queued).append_left handed) relayed

end Relayed

end X3Hal.Queue
