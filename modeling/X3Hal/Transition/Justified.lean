import X3Hal.Transition.Core

/-!
# Lists whose elements are justified by what came before them

A property of a growing trace often says that each element of some kind comes
after enough others.  Stated over every split of the trace it needs one rule for
growth at the end.
-/

namespace X3Hal.Transition

universe u

variable {α : Type u}

/-- Every element is related to the elements before it. -/
def Justified (P : List α → α → Prop) (items : List α) : Prop :=
  ∀ before element after, items = before ++ element :: after → P before element

variable {P : List α → α → Prop} {items more : List α}

@[simp]
theorem justified_nil : Justified P [] := by
  intro before element after split
  simp at split

/-- A list grows by elements that are justified by all that came before them. -/
theorem justified_append_iff :
    Justified P (items ++ more) ↔
      Justified P items ∧ Justified (fun before element => P (items ++ before) element) more := by
  constructor
  · intro justified
    constructor
    · rintro before element after rfl
      exact justified before element (after ++ more) (by simp)
    · rintro before element after rfl
      exact justified (items ++ before) element after (by simp)
  · rintro ⟨inTrace, inMore⟩ before element after split
    rcases List.append_eq_append_iff.mp split with ⟨middle, rfl, rest⟩ | ⟨middle, front, rest⟩
    · exact inMore middle element after rest
    · cases middle with
      | nil =>
          rw [List.append_nil] at front
          exact front ▸ List.append_nil items ▸ inMore [] element after rest.symm
      | cons first middle =>
          rw [List.cons_append, List.cons.injEq] at rest
          exact inTrace before element middle (rest.1 ▸ front)

/-- The element at an index is related to the elements before the index. -/
theorem Justified.getElem (justified : Justified P items) (index : Nat)
    (within : index < items.length) : P (items.take index) (items[index]) :=
  justified (items.take index) (items[index]) (items.drop (index + 1)) (by simp)

@[simp]
theorem justified_singleton {element : α} : Justified P [element] ↔ P [] element := by
  constructor
  · intro justified
    exact justified [] element [] rfl
  · intro holds before other after split
    cases before with
    | nil =>
        rw [List.nil_append, List.cons.injEq] at split
        exact split.1 ▸ holds
    | cons first before => simp at split

/-- A list grows by one element. -/
theorem justified_snoc_iff {element : α} :
    Justified P (items ++ [element]) ↔ Justified P items ∧ P items element := by
  rw [justified_append_iff, justified_singleton, List.append_nil]

/-- Events that lead to an output that is not justified. -/
theorem exists_run_not_justified {State Event Output : Type*}
    {M : System State Event Output} {rule : List Output → Output → Prop} {state : State}
    {events : List Event} (before after : List Output) (output : Output)
    (initial : M.Init state) (passes : M.meets System.free [] state events = true)
    (executed : (M.exec state events).map (fun final => (final.1.events, final.1.outputs)) =
      some (events, before ++ output :: after))
    (unjustified : ¬ rule before output) :
    ∃ history final, M.Run System.free history final ∧ ¬ Justified rule history.outputs ∧
      history.events = events := by
  rcases System.exists_run_of_exec M System.free events _ initial passes executed with
    ⟨history, final, run, seen⟩
  obtain ⟨taken, outputs⟩ := Prod.mk.inj seen
  refine ⟨history, final, run, ?_, taken⟩
  intro justified
  exact unjustified (justified before output after outputs)

end X3Hal.Transition
