import Mathlib.Data.List.Basic

/-!
# Channels with one request in flight

A channel has a busy flag and a waiting line.  A request that finds the flag set
waits; one that finds it clear flies at once; the end of a flight starts the
first waiting request or clears the flag.  The rules relate what was enqueued,
what has flown, what is in the air and what waits.
-/

namespace X3Hal.Queue

universe u

variable {α : Type u}

/-- At most one request is in flight, requests fly in the order they were
enqueued, and a set flag or a waiting request means that something is in flight. -/
structure Flight (enqueued flown inFlight : List α) (busy : Bool) (waiting : List α) : Prop where
  order : enqueued = flown ++ waiting
  single : inFlight.length ≤ 1
  idle : inFlight = [] → busy = false ∧ waiting = []
  free : busy = false → waiting = []

namespace Flight

variable {enqueued flown inFlight waiting : List α} {busy : Bool} {request next : α}

theorem start : Flight ([] : List α) [] [] false [] :=
  ⟨rfl, Nat.zero_le 1, fun _ => ⟨rfl, rfl⟩, fun _ => rfl⟩

/-- A request flies at once when nothing is in flight, whether or not it sets the flag. -/
theorem fly (flight : Flight enqueued flown inFlight busy waiting) (nothing : inFlight = [])
    (flag : Bool) :
    Flight (enqueued ++ [request]) (flown ++ [request]) (inFlight ++ [request]) flag waiting := by
  have noneWaiting := (flight.idle nothing).2
  subst nothing
  constructor
  · rw [flight.order, noneWaiting, List.append_nil, List.append_nil]
  · exact Nat.le_refl 1
  · intro empty
    cases empty
  · intro _
    exact noneWaiting

/-- A request that finds the flag set waits at the end of the line. -/
theorem wait (flight : Flight enqueued flown inFlight true waiting) :
    Flight (enqueued ++ [request]) flown inFlight true (waiting ++ [request]) := by
  constructor
  · rw [flight.order, List.append_assoc]
  · exact flight.single
  · intro nothing
    exact absurd (flight.idle nothing).1 (by decide)
  · intro clear
    cases clear

/-- The end of a flight starts the first waiting request. -/
theorem land_next (flight : Flight enqueued flown [request] busy (next :: waiting)) :
    Flight enqueued (flown ++ [next]) [next] true waiting := by
  constructor
  · rw [flight.order, List.append_assoc, List.singleton_append]
  · exact Nat.le_refl 1
  · intro empty
    cases empty
  · intro clear
    cases clear

/-- The end of a flight clears the flag when nothing waits. -/
theorem land_last (flight : Flight enqueued flown [request] busy []) :
    Flight enqueued flown [] false [] :=
  ⟨flight.order, Nat.zero_le 1, fun _ => ⟨rfl, rfl⟩, fun _ => rfl⟩

/-- A request in flight is the only one. -/
theorem eq_singleton {before after : List α}
    (flight : Flight enqueued flown (before ++ request :: after) busy waiting) :
    before = [] ∧ after = [] := by
  have short := flight.single
  rw [List.length_append, List.length_cons] at short
  exact ⟨List.length_eq_zero_iff.mp (by omega), List.length_eq_zero_iff.mp (by omega)⟩

end Flight

end X3Hal.Queue
