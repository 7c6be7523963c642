import Mathlib.Algebra.Order.Ring.Int
import Mathlib.Tactic.Common

/-!
# Local time

A zone says how far its clocks are ahead at each instant.  What a clock shows is a reading.
Where the offset grows, readings are left out, and where it shrinks, they come twice.
-/

namespace X3Hal.Calendar

/-- The seconds that the clocks of a zone are ahead of UTC, at every instant. -/
structure Zone where
  offset : Int → Int
  bounded : ∀ instant, -86400 ≤ offset instant ∧ offset instant ≤ 86400

namespace Zone

/-- What the clocks show at an instant, in seconds. -/
def reading (zone : Zone) (instant : Int) : Int :=
  instant + zone.offset instant

/-- The clocks show these seconds at some instant. -/
def Occurs (zone : Zone) (seconds : Int) : Prop :=
  ∃ instant, zone.reading instant = seconds

theorem occurs_reading (zone : Zone) (instant : Int) : zone.Occurs (zone.reading instant) :=
  ⟨instant, rfl⟩

/-- No reading is that of all instants. -/
theorem exists_reading_ne (zone : Zone) (seconds : Int) :
    ∃ instant, zone.reading instant ≠ seconds := by
  refine ⟨seconds + 86401, ?_⟩
  have bounded := zone.bounded (seconds + 86401)
  unfold reading
  omega

/-- A zone with one offset at all times. -/
def fixed (offset : Int) (bounded : -86400 ≤ offset ∧ offset ≤ 86400) : Zone where
  offset := fun _ => offset
  bounded := fun _ => bounded

/-- The clocks of a zone without changes show everything. -/
theorem occurs_fixed (offset : Int) (bounded : -86400 ≤ offset ∧ offset ≤ 86400) (seconds : Int) :
    (fixed offset bounded).Occurs seconds :=
  ⟨seconds - offset, Int.sub_add_cancel seconds offset⟩

/-- A zone that sets its clocks once. -/
def changing (change before after : Int) (isBefore : -86400 ≤ before ∧ before ≤ 86400)
    (isAfter : -86400 ≤ after ∧ after ≤ 86400) : Zone where
  offset := fun instant => if instant < change then before else after
  bounded := fun instant => by
    split
    · exact isBefore
    · exact isAfter

/-- Clocks set ahead leave readings out. -/
theorem not_occurs_changing {change before after : Int}
    {isBefore : -86400 ≤ before ∧ before ≤ 86400} {isAfter : -86400 ≤ after ∧ after ≤ 86400}
    {seconds : Int} (leaves : change + before ≤ seconds) (ends : seconds < change + after) :
    ¬ (changing change before after isBefore isAfter).Occurs seconds := by
  rintro ⟨instant, shows⟩
  simp only [reading, changing] at shows
  split at shows
  · omega
  · omega

end Zone

end X3Hal.Calendar
