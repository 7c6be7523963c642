import X3Hal.Transition.Justified

/-!
# Loops over fallible rounds

A round of such a loop may fail.  When a view of the state decides whether it does, and the view
advances by a function of its own, the loop fails by its rounds alone.
-/

namespace X3Hal.Transition

universe u v w

section Bind

variable {α : Type u} {β : Type u} {P Q : Prop}

theorem some_bind_eq (value : α) (next : α → Option β) : (some value >>= next) = next value :=
  rfl

/-- A computation and what follows it -/
theorem bind_isSome_iff {first : Option α} {next : α → Option β} (firstIff : first.isSome ↔ P)
    (nextIff : ∀ value, first = some value → ((next value).isSome ↔ Q)) :
    (first >>= next).isSome ↔ P ∧ Q := by
  cases first with
  | none => simp [← firstIff]
  | some value => simp [← firstIff, ← nextIff value rfl]

theorem bind_isSome {first : Option α} {next : α → Option β} (succeeds : first.isSome)
    (follows : ∀ value, first = some value → (next value).isSome) : (first >>= next).isSome := by
  obtain ⟨value, isValue⟩ := Option.isSome_iff_exists.mp succeeds
  rw [isValue]
  exact follows value isValue

end Bind

section Justified

variable {α : Type u} {P : List α → α → Prop}

theorem justified_cons_iff {item : α} {items : List α} :
    Justified P (item :: items) ↔
      P [] item ∧ Justified (fun before other => P (item :: before) other) items := by
  rw [← List.singleton_append, justified_append_iff, justified_singleton]
  rfl

theorem justified_forall_iff {fits : α → Prop} {items : List α} :
    Justified (fun _ item => fits item) items ↔ ∀ item ∈ items, fits item := by
  constructor
  · intro justified item occurs
    obtain ⟨before, after, rfl⟩ := List.append_of_mem occurs
    exact justified before item after rfl
  · rintro all before item after rfl
    exact all item (by simp)

end Justified

section Loop

variable {σ : Type u} {ι : Type v} {β : Type w} {round : σ → ι → Option σ} {rounds : List ι}
  {state : σ}

theorem view_of_foldlM (view : σ → β) (advance : β → ι → β) {final : σ}
    (advances : ∀ state, ∀ i ∈ rounds, ∀ next, round state i = some next →
      view next = advance (view state) i)
    (runs : rounds.foldlM round state = some final) :
    view final = rounds.foldl advance (view state) := by
  induction rounds generalizing state with
  | nil =>
      cases runs
      rfl
  | cons i rounds ih =>
      rw [List.foldlM_cons] at runs
      obtain ⟨next, first, rest⟩ := Option.bind_eq_some_iff.mp runs
      rw [List.foldl_cons, ← advances state i List.mem_cons_self next first]
      exact ih (fun state i later => advances state i (List.mem_cons_of_mem _ later)) rest

theorem keeps_of_foldlM (keeps : σ → Prop) {final : σ}
    (kept : ∀ state, ∀ i ∈ rounds, ∀ next, keeps state → round state i = some next → keeps next)
    (start : keeps state) (runs : rounds.foldlM round state = some final) : keeps final := by
  induction rounds generalizing state with
  | nil =>
      cases runs
      exact start
  | cons i rounds ih =>
      rw [List.foldlM_cons] at runs
      obtain ⟨next, first, rest⟩ := Option.bind_eq_some_iff.mp runs
      exact ih (fun state i later => kept state i (List.mem_cons_of_mem _ later))
        (kept state i List.mem_cons_self next start first) rest

/-- A loop goes through when each round does in the view before it. -/
theorem foldlM_isSome_iff (keeps : σ → Prop) (view : σ → β) (advance : β → ι → β)
    (fits : β → ι → Prop)
    (roundIff : ∀ state, ∀ i ∈ rounds, keeps state →
      ((round state i).isSome ↔ fits (view state) i))
    (kept : ∀ state, ∀ i ∈ rounds, ∀ next, keeps state → round state i = some next → keeps next)
    (advances : ∀ state, ∀ i ∈ rounds, ∀ next, round state i = some next →
      view next = advance (view state) i)
    (start : keeps state) :
    (rounds.foldlM round state).isSome ↔
      Justified (fun before i => fits (before.foldl advance (view state)) i) rounds := by
  induction rounds generalizing state with
  | nil => simp
  | cons i rounds ih =>
      rw [List.foldlM_cons, justified_cons_iff]
      apply bind_isSome_iff (roundIff state i List.mem_cons_self start)
      intro next first
      rw [ih (fun state i later => roundIff state i (List.mem_cons_of_mem _ later))
        (fun state i later => kept state i (List.mem_cons_of_mem _ later))
        (fun state i later => advances state i (List.mem_cons_of_mem _ later))
        (kept state i List.mem_cons_self next start first),
        advances state i List.mem_cons_self next first]
      rfl

/-- A loop whose rounds do not depend on each other -/
theorem foldlM_isSome_iff_forall (keeps : σ → Prop) (fits : ι → Prop)
    (roundIff : ∀ state, ∀ i ∈ rounds, keeps state → ((round state i).isSome ↔ fits i))
    (kept : ∀ state, ∀ i ∈ rounds, ∀ next, keeps state → round state i = some next → keeps next)
    (start : keeps state) :
    (rounds.foldlM round state).isSome ↔ ∀ i ∈ rounds, fits i := by
  have justified : (rounds.foldlM round state).isSome ↔ Justified (fun _ i => fits i) rounds :=
    foldlM_isSome_iff keeps (fun _ => ()) (fun _ _ => ()) (fun _ i => fits i) roundIff kept
      (fun _ _ _ _ _ => rfl) start
  exact justified.trans justified_forall_iff

theorem mapM_isSome_iff {α β : Type u} {read : α → Option β} {items : List α} :
    (items.mapM read).isSome ↔ ∀ item ∈ items, (read item).isSome := by
  induction items with
  | nil => simp
  | cons item items ih =>
      rw [List.mapM_cons, List.forall_mem_cons]
      apply bind_isSome_iff Iff.rfl
      intro value _
      rw [← ih]
      exact (bind_isSome_iff Iff.rfl fun _ _ => iff_of_true rfl trivial).trans (and_true _).to_iff

/-- A loop that collects what its rounds yield -/
theorem mapM_eq_some_iff {α β : Type u} {read : α → Option β} {fits : α → Prop} {value : α → β}
    {items : List α}
    (reads : ∀ item ∈ items, ∀ result, read item = some result ↔ fits item ∧ value item = result)
    (results : List β) :
    items.mapM read = some results ↔ (∀ item ∈ items, fits item) ∧ items.map value = results := by
  induction items generalizing results with
  | nil => simp
  | cons item items ih =>
      have rest := ih fun other later => reads other (List.mem_cons_of_mem _ later)
      rw [List.mapM_cons, List.forall_mem_cons, List.map_cons]
      constructor
      · intro collected
        obtain ⟨first, isFirst, others⟩ := Option.bind_eq_some_iff.mp collected
        obtain ⟨later, isLater, same⟩ := Option.bind_eq_some_iff.mp others
        obtain ⟨firstFits, rfl⟩ := (reads item List.mem_cons_self first).mp isFirst
        obtain ⟨laterFit, rfl⟩ := (rest later).mp isLater
        exact ⟨⟨firstFits, laterFit⟩, Option.some.inj same⟩
      · rintro ⟨⟨firstFits, laterFit⟩, rfl⟩
        rw [(reads item List.mem_cons_self _).mpr ⟨firstFits, rfl⟩, (rest _).mpr ⟨laterFit, rfl⟩]
        rfl

end Loop

end X3Hal.Transition
