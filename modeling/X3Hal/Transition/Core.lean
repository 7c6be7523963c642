import Mathlib.Data.List.Basic

/-!
# Labelled systems and guarded runs

A system takes one event at a time; an event carries every choice of the
environment, so the step function is executable and deterministic.  A step may
emit outputs.  A run records its whole history, and a guard restricts which
events a run takes.
-/

namespace X3Hal.Transition

universe u v w

/-- What a run has done so far: each event with the outputs of its step. -/
abbrev History (Event : Type v) (Output : Type w) := List (Event × List Output)

namespace History

variable {Event : Type v} {Output : Type w}

/-- The events of a history, oldest first. -/
def events (history : History Event Output) : List Event :=
  history.map Prod.fst

/-- The outputs of a history, oldest first. -/
def outputs (history : History Event Output) : List Output :=
  history.flatMap Prod.snd

@[simp]
theorem outputs_nil : outputs ([] : History Event Output) = [] :=
  rfl

@[simp]
theorem outputs_snoc (history : History Event Output) (event : Event) (out : List Output) :
    outputs (history ++ [(event, out)]) = outputs history ++ out := by
  simp [outputs]

@[simp]
theorem events_nil : events ([] : History Event Output) = [] :=
  rfl

@[simp]
theorem events_snoc (history : History Event Output) (event : Event) (out : List Output) :
    events (history ++ [(event, out)]) = events history ++ [event] := by
  simp [events]

end History

/-- A labelled system with partial, executable steps. -/
structure System (State : Type u) (Event : Type v) (Output : Type w) where
  /-- The states a run may start in. -/
  Init : State → Prop
  /-- One step; `none` when the event is not possible in the state. -/
  step : State → Event → Option (State × List Output)

namespace System

variable {State : Type u} {Event : Type v} {Output : Type w}

/-- A condition on the next event of a run, given the history and the state before it. -/
abbrev Guard (State : Type u) (Event : Type v) (Output : Type w) :=
  History Event Output → State → Event → Prop

/-- The guard every event meets. -/
def free : Guard State Event Output :=
  fun _ _ _ => True

/-- Runs of a system whose events all meet a guard. -/
inductive Run (M : System State Event Output) (guard : Guard State Event Output) :
    History Event Output → State → Prop
  | start {state : State} (initial : M.Init state) : Run M guard [] state
  | next {history : History Event Output} {state after : State} {event : Event}
      {out : List Output} (running : Run M guard history state)
      (guarded : guard history state event)
      (stepped : M.step state event = some (after, out)) :
      Run M guard (history ++ [(event, out)]) after

variable {M : System State Event Output} {guard : Guard State Event Output}

/-- The induction rule for safety: what holds initially and is kept by every
guarded step holds of every run. -/
theorem Run.invariant (P : History Event Output → State → Prop)
    (initial : ∀ state, M.Init state → P [] state)
    (preserved : ∀ history state event after out, P history state → guard history state event →
      M.step state event = some (after, out) → P (history ++ [(event, out)]) after)
    {history : History Event Output} {state : State} (running : M.Run guard history state) :
    P history state := by
  induction running with
  | start starts => exact initial _ starts
  | next earlier guarded stepped ih => exact preserved _ _ _ _ _ ih guarded stepped

/-- Extend a run by a given event. -/
theorem Run.fire {history : History Event Output} {state after : State} {out : List Output}
    (run : M.Run guard history state) (event : Event) (guarded : guard history state event)
    (stepped : M.step state event = some (after, out)) :
    M.Run guard (history ++ [(event, out)]) after :=
  .next run guarded stepped

/-- A run under a stronger guard is a run under a weaker one. -/
theorem Run.mono {weaker : Guard State Event Output}
    (implied : ∀ history state event, guard history state event → weaker history state event)
    {history : History Event Output} {state : State} (running : M.Run guard history state) :
    M.Run weaker history state := by
  induction running with
  | start starts => exact .start starts
  | next earlier guarded stepped ih => exact .next ih (implied _ _ _ guarded) stepped

/-- Execute a list of events from a state and a history. -/
def execFrom (M : System State Event Output) :
    History Event Output → State → List Event → Option (History Event Output × State)
  | history, state, [] => some (history, state)
  | history, state, event :: rest =>
      match M.step state event with
      | none => none
      | some (after, out) => M.execFrom (history ++ [(event, out)]) after rest

/-- Execute a list of events from a state. -/
def exec (M : System State Event Output) (state : State) (events : List Event) :
    Option (History Event Output × State) :=
  M.execFrom [] state events

instance (history : History Event Output) (state : State) (event : Event) :
    Decidable (free history state event) :=
  inferInstanceAs (Decidable True)

section Meets

variable [∀ history state event, Decidable (guard history state event)]

/-- Whether every event of an execution meets the guard. -/
def meets (M : System State Event Output) (guard : Guard State Event Output)
    [∀ history state event, Decidable (guard history state event)] :
    History Event Output → State → List Event → Bool
  | _, _, [] => true
  | history, state, event :: rest =>
      decide (guard history state event) &&
        match M.step state event with
        | none => true
        | some (after, out) => M.meets guard (history ++ [(event, out)]) after rest

/-- An execution whose events meet the guard extends a guarded run. -/
theorem Run.execFrom {events : List Event} {history final : History Event Output}
    {state after : State} (run : M.Run guard history state)
    (passes : M.meets guard history state events = true)
    (executed : M.execFrom history state events = some (final, after)) :
    M.Run guard final after := by
  induction events generalizing history state with
  | nil =>
      simp only [System.execFrom, Option.some.injEq, Prod.mk.injEq] at executed
      rcases executed with ⟨rfl, rfl⟩
      exact run
  | cons event rest ih =>
      simp only [System.execFrom] at executed
      simp only [meets, Bool.and_eq_true, decide_eq_true_eq] at passes
      cases stepped : M.step state event with
      | none => simp [stepped] at executed
      | some result =>
          rcases result with ⟨middle, out⟩
          simp only [stepped] at executed passes
          exact ih (run.next passes.1 stepped) passes.2 executed

/-- An execution from an initial state whose events meet the guard is a guarded run. -/
theorem run_of_exec (M : System State Event Output) (guard : Guard State Event Output)
    [∀ history state event, Decidable (guard history state event)] (events : List Event)
    {history : History Event Output} {state after : State} (initial : M.Init state)
    (passes : M.meets guard [] state events = true)
    (executed : M.exec state events = some (history, after)) : M.Run guard history after :=
  Run.execFrom (.start initial) passes executed

/-- What an execution whose events meet the guard yields is reached by a guarded run. -/
theorem exists_run_of_exec (M : System State Event Output) (guard : Guard State Event Output)
    [∀ history state event, Decidable (guard history state event)] (events : List Event)
    {α : Type*} (view : History Event Output × State → α) {state : State} {seen : α}
    (initial : M.Init state) (passes : M.meets guard [] state events = true)
    (executed : (M.exec state events).map view = some seen) :
    ∃ history after, M.Run guard history after ∧ view (history, after) = seen := by
  obtain ⟨⟨history, after⟩, final, viewed⟩ := Option.map_eq_some_iff.mp executed
  exact ⟨history, after, M.run_of_exec guard events initial passes final, viewed⟩

/-- An execution is a run that has what every guarded run has. -/
theorem exists_run_with {α : Type*} {events : List Event} {state : State} {seen : α}
    {P : History Event Output → State → Prop} (view : History Event Output × State → α)
    (kept : ∀ history after, M.Run guard history after → P history after) (initial : M.Init state)
    (passes : M.meets guard [] state events = true)
    (executed : (M.exec state events).map (fun final => (view final, final.1.events)) =
      some (seen, events)) :
    ∃ history after, M.Run guard history after ∧ P history after ∧
      view (history, after) = seen ∧ history.events = events := by
  obtain ⟨history, after, run, viewed⟩ :=
    M.exists_run_of_exec guard events _ initial passes executed
  obtain ⟨shows, taken⟩ := Prod.mk.inj viewed
  exact ⟨history, after, run, kept history after run, shows, taken⟩

end Meets

end System

end X3Hal.Transition
