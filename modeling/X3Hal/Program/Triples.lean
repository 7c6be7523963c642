import Mathlib.Data.List.Basic
import Mathlib.Tactic.Common

/-!
# Programs with a state, outputs and failures

A program changes a state, puts out a list and returns a value, or it fails.  What is said of a
program from a state is a condition on what it returns, leaves and puts out, and a condition on
the failures that are allowed; one rule for each way to build a program.
-/

namespace X3Hal
/-- A program on states `σ` with outputs `ω` and failures `ε` -/
def Program (σ ω ε α : Type) := σ → Except ε (α × σ × List ω)

namespace Program

variable {σ ω ε α β : Type}

instance : Monad (Program σ ω ε) where
  pure value := fun state => .ok (value, state, [])
  bind first next := fun state =>
    match first state with
    | .error why => .error why
    | .ok (value, middle, out) =>
        match next value middle with
        | .error why => .error why
        | .ok (result, after, more) => .ok (result, after, out ++ more)

/-- The state -/
def state : Program σ ω ε σ :=
  fun state => .ok (state, state, [])

def update (change : σ → σ) : Program σ ω ε Unit :=
  fun state => .ok ((), change state, [])

def emit (output : ω) : Program σ ω ε Unit :=
  fun state => .ok ((), state, [output])

/-- The value of a computation that may fail -/
def demand (value : Except ε α) : Program σ ω ε α :=
  fun state => value.map fun value => (value, state, [])

/-- A program that runs under a condition -/
def onlyIf (condition : Prop) [Decidable condition] (program : Program σ ω ε Unit) :
    Program σ ω ε Unit :=
  if condition then program else pure ()

/-- From the state the program fails in an allowed way, or what it returns, leaves and puts out
has the property. -/
def Ends (allowed : ε → Prop) (program : Program σ ω ε α) (state : σ)
    (post : α → σ → List ω → Prop) : Prop :=
  match program state with
  | .error why => allowed why
  | .ok (value, after, out) => post value after out

variable {allowed : ε → Prop} {program : Program σ ω ε α} {start : σ}
  {post : α → σ → List ω → Prop}

theorem Ends.mono (ends : Ends allowed program start post) {weaker : α → σ → List ω → Prop}
    (implies : ∀ value after out, post value after out → weaker value after out) :
    Ends allowed program start weaker := by
  unfold Ends at ends ⊢
  split at ends
  · assumption
  · exact implies _ _ _ ends

theorem Ends.allow (ends : Ends allowed program start post) {more : ε → Prop}
    (implies : ∀ why, allowed why → more why) : Ends more program start post := by
  unfold Ends at ends ⊢
  split at ends
  · exact implies _ ends
  · exact ends

@[simp]
theorem ends_pure_iff {value : α} :
    Ends allowed (pure value : Program σ ω ε α) start post ↔ post value start [] :=
  Iff.rfl

theorem ends_bind_iff {next : α → Program σ ω ε β} {post : β → σ → List ω → Prop} :
    Ends allowed (program >>= next) start post ↔
      Ends allowed program start fun value middle out =>
        Ends allowed (next value) middle fun result after more =>
          post result after (out ++ more) := by
  unfold Ends
  change (match (match program start with
    | .error why => .error why
    | .ok (value, middle, out) =>
        match next value middle with
        | .error why => .error why
        | .ok (result, after, more) => .ok (result, after, out ++ more) :
      Except ε (β × σ × List ω)) with
    | .error why => allowed why
    | .ok (value, after, out) => post value after out) ↔ _
  rcases program start with why | ⟨value, middle, out⟩
  · exact Iff.rfl
  · dsimp only
    rcases next value middle with why | ⟨result, after, more⟩
    · exact Iff.rfl
    · exact Iff.rfl

/-- What a program ends with is what the next one starts with. -/
theorem Ends.bind {next : α → Program σ ω ε β} {mid : α → σ → List ω → Prop}
    {post : β → σ → List ω → Prop} (first : Ends allowed program start mid)
    (follows : ∀ value middle out, mid value middle out →
      Ends allowed (next value) middle fun result after more => post result after (out ++ more)) :
    Ends allowed (program >>= next) start post :=
  ends_bind_iff.mpr (first.mono follows)

@[simp]
theorem ends_state_bind_iff {next : σ → Program σ ω ε β} {post : β → σ → List ω → Prop} :
    Ends allowed (state >>= next) start post ↔ Ends allowed (next start) start post :=
  ends_bind_iff

@[simp]
theorem ends_update_iff {change : σ → σ} {post : Unit → σ → List ω → Prop} :
    Ends allowed (update change) start post ↔ post () (change start) [] :=
  Iff.rfl

@[simp]
theorem ends_update_bind_iff {change : σ → σ} {next : Unit → Program σ ω ε β}
    {post : β → σ → List ω → Prop} :
    Ends allowed (update change >>= next) start post ↔
      Ends allowed (next ()) (change start) post :=
  ends_bind_iff

@[simp]
theorem ends_emit_iff {output : ω} {post : Unit → σ → List ω → Prop} :
    Ends allowed (emit output) start post ↔ post () start [output] :=
  Iff.rfl

@[simp]
theorem ends_emit_bind_iff {output : ω} {next : Unit → Program σ ω ε β}
    {post : β → σ → List ω → Prop} :
    Ends allowed (emit output >>= next) start post ↔
      Ends allowed (next ()) start fun result after more => post result after (output :: more) :=
  ends_bind_iff

theorem ends_demand {value : Except ε α}
    (failures : ∀ why, value = .error why → allowed why)
    (values : ∀ found, value = .ok found → post found start []) :
    Ends allowed (demand value) start post := by
  cases value with
  | error why => exact failures why rfl
  | ok found => exact values found rfl

theorem ends_demand_bind {value : Except ε α} {next : α → Program σ ω ε β}
    {post : β → σ → List ω → Prop} (failures : ∀ why, value = .error why → allowed why)
    (values : ∀ found, value = .ok found → Ends allowed (next found) start post) :
    Ends allowed (demand value >>= next) start post :=
  ends_bind_iff.mpr (ends_demand failures values)

@[simp]
theorem ends_demand_ok_bind_iff {found : α} {next : α → Program σ ω ε β}
    {post : β → σ → List ω → Prop} :
    Ends allowed (demand (.ok found) >>= next) start post ↔ Ends allowed (next found) start post :=
  ends_bind_iff

theorem ends_ite {condition : Prop} [Decidable condition] {other : Program σ ω ε α}
    (yes : condition → Ends allowed program start post)
    (no : ¬ condition → Ends allowed other start post) :
    Ends allowed (if condition then program else other) start post := by
  split
  case isTrue holds => exact yes holds
  case isFalse fails => exact no fails

theorem ends_onlyIf {condition : Prop} [Decidable condition] {program : Program σ ω ε Unit}
    {post : Unit → σ → List ω → Prop} (yes : condition → Ends allowed program start post)
    (no : ¬ condition → post () start []) :
    Ends allowed (onlyIf condition program) start post :=
  ends_ite yes no

/-- A program that fails in no way has a result. -/
theorem ends_never_iff :
    Ends (fun _ => False) program start post ↔
      ∃ value after out, program start = .ok (value, after, out) ∧ post value after out := by
  unfold Ends
  split
  case h_1 why failed => simp [failed]
  case h_2 value after out ended => simp [ended]

/-! ## Invariants of a state and of all that was put out -/

/-- From each state with the invariant the program fails in an allowed way or keeps it. -/
def Keeps (allowed : ε → Prop) (invariant : List ω → σ → Prop) (program : Program σ ω ε α) :
    Prop :=
  ∀ before start, invariant before start →
    Ends allowed program start fun _ after out => invariant (before ++ out) after

variable {invariant : List ω → σ → Prop}

theorem keeps_pure (value : α) : Keeps allowed invariant (pure value : Program σ ω ε α) := by
  intro before start holds
  rw [ends_pure_iff, List.append_nil]
  exact holds

theorem Keeps.bind {next : α → Program σ ω ε β} (first : Keeps allowed invariant program)
    (follows : ∀ value, Keeps allowed invariant (next value)) :
    Keeps allowed invariant (program >>= next) := by
  intro before start holds
  apply (first before start holds).bind
  intro value middle out kept
  have rest := follows value (before ++ out) middle kept
  simp only [List.append_assoc] at rest
  exact rest

/-- The state is read, and what follows may use what is known of it. -/
theorem keeps_state_bind {next : σ → Program σ ω ε β}
    (follows : ∀ before start, invariant before start →
      Ends allowed (next start) start fun _ after out => invariant (before ++ out) after) :
    Keeps allowed invariant (state >>= next) := by
  intro before start holds
  rw [ends_state_bind_iff]
  exact follows before start holds

theorem keeps_update {change : σ → σ}
    (kept : ∀ before start, invariant before start → invariant before (change start)) :
    Keeps allowed invariant (update change : Program σ ω ε Unit) := by
  intro before start holds
  rw [ends_update_iff, List.append_nil]
  exact kept before start holds

theorem keeps_update_bind {change : σ → σ} {next : Unit → Program σ ω ε β}
    (kept : ∀ before start, invariant before start → invariant before (change start))
    (follows : ∀ value, Keeps allowed invariant (next value)) :
    Keeps allowed invariant (update change >>= next) :=
  (keeps_update kept).bind follows

theorem keeps_ite {condition : Prop} [Decidable condition] {other : Program σ ω ε α}
    (yes : condition → Keeps allowed invariant program)
    (no : ¬ condition → Keeps allowed invariant other) :
    Keeps allowed invariant (if condition then program else other) :=
  fun before start holds =>
    ends_ite (fun yes' => yes yes' before start holds) fun no' => no no' before start holds

theorem keeps_onlyIf {condition : Prop} [Decidable condition] {program : Program σ ω ε Unit}
    (yes : condition → Keeps allowed invariant program) :
    Keeps allowed invariant (onlyIf condition program) :=
  keeps_ite yes fun _ => keeps_pure ()

theorem keeps_emit {output : ω}
    (kept : ∀ before start, invariant before start → invariant (before ++ [output]) start) :
    Keeps allowed invariant (emit output : Program σ ω ε Unit) :=
  kept

end Program

end X3Hal
