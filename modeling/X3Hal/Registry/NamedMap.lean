import Mathlib.Data.List.Basic
import Mathlib.Logic.Function.Basic

/-!
# A map kept under names

Calls read and change a map and are answered.  An implementation keeps each value under a name
of its key; it holds the map as long as keys in use do not share a name.
-/

namespace X3Hal.Registry

universe u v w

variable {Key : Type u} {Value : Type v} {Name : Type w}

/-- A call on a map; a key is set to no value to remove it. -/
inductive MapCall (Key : Type u) (Value : Type v)
  | get (key : Key)
  | set (key : Key) (value : Option Value)

def MapCall.key : MapCall Key Value → Key
  | .get key => key
  | .set key _ => key

/-- The answer to a call. -/
inductive MapAnswer (Value : Type v)
  | found (value : Option Value)
  | done (succeeded : Bool)

/-- The map after a call that is answered as a map answers it: a read gives the value, a change
that succeeds is made, and one that fails is not and was not in place before. -/
def replayCall [DecidableEq Key] [DecidableEq Value] (values : Key → Option Value) :
    MapCall Key Value → MapAnswer Value → Option (Key → Option Value)
  | .get key, .found value => if value = values key then some values else none
  | .set key value, .done true => some (Function.update values key value)
  | .set key value, .done false => if values key = value then none else some values
  | .get _, .done _ => none
  | .set _ _, .found _ => none

/-- The map after answered calls, from the empty one. -/
def replay [DecidableEq Key] [DecidableEq Value] :
    List (MapCall Key Value × MapAnswer Value) → Option (Key → Option Value) :=
  List.foldlM (fun values answered => replayCall values answered.1 answered.2) fun _ => none

theorem replay_snoc [DecidableEq Key] [DecidableEq Value]
    (answered : List (MapCall Key Value × MapAnswer Value)) (call : MapCall Key Value)
    (answer : MapAnswer Value) :
    replay (answered ++ [(call, answer)]) =
      (replay answered).bind fun values => replayCall values call answer := by
  simp [replay, List.foldlM_append]

/-- The values of the keys in use are under their names, and nothing else is. -/
structure HoldsMap (name : Key → Name) (used : List Key) (values : Key → Option Value)
    (slots : Name → Option Value) : Prop where
  value : ∀ key ∈ used, slots (name key) = values key
  unused : ∀ key, key ∉ used → values key = none
  named : ∀ place, slots place ≠ none → ∃ key ∈ used, name key = place

namespace HoldsMap

variable {name : Key → Name} {used : List Key} {values : Key → Option Value}
  {slots : Name → Option Value}

theorem empty (name : Key → Name) :
    HoldsMap name [] (fun _ => none) (fun _ => (none : Option Value)) where
  value _ member := absurd member List.not_mem_nil
  unused _ _ := rfl
  named _ something := absurd rfl something

variable (holds : HoldsMap name used values slots) {key : Key}
  (apart : ∀ other ∈ used, name other = name key → other = key)

include holds apart

/-- The value of a key whose name no other key has. -/
theorem slots_name : slots (name key) = values key := by
  by_cases inUse : key ∈ used
  · exact holds.value key inUse
  · rw [holds.unused key inUse]
    by_contra something
    rcases holds.named _ something with ⟨other, otherInUse, shared⟩
    rw [apart other otherInUse shared] at otherInUse
    exact inUse otherInUse

theorem use : HoldsMap name (used ++ [key]) values slots where
  value other member := by
    rcases List.mem_append.mp member with inUse | isKey
    · exact holds.value other inUse
    · rw [List.mem_singleton.mp isKey]
      exact holds.slots_name apart
  unused other notMember :=
    holds.unused other fun inUse => notMember (List.mem_append_left _ inUse)
  named place something := by
    rcases holds.named place something with ⟨other, inUse, isPlace⟩
    exact ⟨other, List.mem_append_left _ inUse, isPlace⟩

theorem set [DecidableEq Key] [DecidableEq Name] (value : Option Value) :
    HoldsMap name (used ++ [key]) (Function.update values key value)
      (Function.update slots (name key) value) where
  value other member := by
    by_cases same : other = key
    · rw [same, Function.update_self, Function.update_self]
    · rcases List.mem_append.mp member with inUse | isKey
      · rw [Function.update_of_ne same,
          Function.update_of_ne fun shared => same (apart other inUse shared)]
        exact holds.value other inUse
      · exact absurd (List.mem_singleton.mp isKey) same
  unused other notMember := by
    rw [List.mem_append, List.mem_singleton, not_or] at notMember
    rw [Function.update_of_ne notMember.2]
    exact holds.unused other notMember.1
  named place something := by
    by_cases isName : place = name key
    · exact ⟨key, List.mem_append_right _ (List.mem_singleton_self key), isName.symm⟩
    · rw [Function.update_of_ne isName] at something
      rcases holds.named place something with ⟨other, inUse, isPlace⟩
      exact ⟨other, List.mem_append_left _ inUse, isPlace⟩

end HoldsMap

end X3Hal.Registry
