import Mathlib.Data.List.Infix

/-!
# Prefixes of a repeated word

A list follows the cycle of a word when it is a prefix of the word repeated.
Such a list is a number of whole rounds and then a proper part of the next one;
the part is all that has to be remembered while the list grows.
-/

namespace X3Hal.Pattern

universe u

variable {α : Type u}

/-- The list is a prefix of the word repeated often enough. -/
def FollowsCycle (word list : List α) : Prop :=
  ∃ rounds, list <+: (List.replicate rounds word).flatten

/-- The list is some whole rounds of the word followed by `part`. -/
def InRound (word list part : List α) : Prop :=
  part <+: word ∧ ∃ rounds, list = (List.replicate rounds word).flatten ++ part

variable {word list part : List α}

theorem inRound_nil : InRound word [] [] :=
  ⟨List.nil_prefix, 0, rfl⟩

private theorem flatten_replicate_succ (rounds : Nat) :
    (List.replicate (rounds + 1) word).flatten =
      (List.replicate rounds word).flatten ++ word := by
  rw [List.replicate_succ', List.flatten_append]
  simp

/-- A list inside a round follows the cycle. -/
theorem InRound.followsCycle (inRound : InRound word list part) : FollowsCycle word list := by
  rcases inRound with ⟨⟨rest, partOf⟩, rounds, rfl⟩
  refine ⟨rounds + 1, rest, ?_⟩
  rw [flatten_replicate_succ, List.append_assoc, partOf]

/-- Letters that stay within the round extend the part. -/
theorem InRound.append {letters : List α} (inRound : InRound word list part)
    (next : part ++ letters <+: word) : InRound word (list ++ letters) (part ++ letters) := by
  rcases inRound with ⟨-, rounds, rfl⟩
  exact ⟨next, rounds, by rw [List.append_assoc]⟩

/-- A finished round is closed. -/
theorem InRound.close (inRound : InRound word list word) : InRound word list [] := by
  rcases inRound with ⟨-, rounds, rfl⟩
  refine ⟨List.nil_prefix, rounds + 1, ?_⟩
  rw [flatten_replicate_succ, List.append_nil]

/-- A list that follows the cycle starts with the word's first letter. -/
theorem FollowsCycle.head_eq {first letter : α} {rest : List α}
    (follows : FollowsCycle (first :: rest) (letter :: list)) : letter = first := by
  rcases follows with ⟨rounds, tail, eq⟩
  cases rounds with
  | zero => simp at eq
  | succ rounds =>
      simp only [List.replicate_succ, List.flatten_cons, List.cons_append, List.cons.injEq] at eq
      exact eq.1

end X3Hal.Pattern
