import X3Hal.Program.Triples
import X3Hal.Transition.Core

/-!
# Monitors of what programs put out

A monitor follows the outputs of a program with a state of its own and says which output may come
next.  A system whose steps are programs follows a monitor when each of its programs does, from
the states that an invariant relates.
-/

namespace X3Hal.Program

open X3Hal.Transition

variable {σ ω ε Event : Type}

/-! ## Systems of programs -/

/-- Each event runs a program; a run ends where one fails. -/
def system (init : σ → Prop) (program : Event → Program σ ω ε Unit) : System σ Event ω where
  Init := init
  step := fun state event => (program event state).toOption.map Prod.snd

section System

variable {init : σ → Prop} {program : Event → Program σ ω ε Unit} {start after : σ}
  {event : Event} {out : List ω} {history : History Event ω}

theorem step_eq_some_iff :
    (system init program).step start event = some (after, out) ↔
      program event start = .ok ((), after, out) := by
  simp only [system]
  rcases program event start with why | ⟨_, middle, more⟩
  · simp [Except.toOption]
  · simp [Except.toOption]

/-- What a step ends with has what its program ends with. -/
theorem Ends.of_step {allowed : ε → Prop} {post : Unit → σ → List ω → Prop}
    (ends : Ends allowed (program event) start post)
    (stepped : (system init program).step start event = some (after, out)) :
    post () after out := by
  unfold Ends at ends
  rw [step_eq_some_iff.mp stepped] at ends
  exact ends

end System

end X3Hal.Program

namespace X3Hal

open X3Hal.Transition

/-! ## Monitors -/

/-- A state that follows outputs, and the outputs that may come next -/
structure Monitor (γ ω : Type) where
  after : γ → ω → γ
  Allows : γ → ω → Prop

namespace Monitor

variable {σ ω ε γ α β : Type} (monitor : Monitor γ ω)

/-- The state of the monitor after outputs -/
def afterAll (ghost : γ) (out : List ω) : γ :=
  out.foldl monitor.after ghost

/-- Every output may come where it comes. -/
def Accepts : γ → List ω → Prop
  | _, [] => True
  | ghost, output :: out => monitor.Allows ghost output ∧ Accepts (monitor.after ghost output) out

@[simp]
theorem afterAll_append (ghost : γ) (out more : List ω) :
    monitor.afterAll ghost (out ++ more) = monitor.afterAll (monitor.afterAll ghost out) more :=
  List.foldl_append

theorem accepts_append_iff (ghost : γ) (out more : List ω) :
    monitor.Accepts ghost (out ++ more) ↔
      monitor.Accepts ghost out ∧ monitor.Accepts (monitor.afterAll ghost out) more := by
  induction out generalizing ghost with
  | nil => exact (iff_of_eq (true_and _)).symm
  | cons output out ih =>
      simp only [List.cons_append, Accepts, ih, and_assoc]
      exact Iff.rfl

/-- The program does not fail, the monitor accepts what it puts out, and what it returns and
leaves has the property. -/
def Meets (program : Program σ ω ε α) (ghost : γ) (start : σ) (post : α → γ → σ → Prop) : Prop :=
  program.Ends (fun _ => False) start fun value after out =>
    monitor.Accepts ghost out ∧ post value (monitor.afterAll ghost out) after

variable {monitor} {program : Program σ ω ε α} {ghost : γ} {start : σ} {post : α → γ → σ → Prop}

theorem Meets.mono (meets : monitor.Meets program ghost start post) {weaker : α → γ → σ → Prop}
    (implies : ∀ value later after, post value later after → weaker value later after) :
    monitor.Meets program ghost start weaker :=
  Program.Ends.mono meets fun _ _ _ both => ⟨both.1, implies _ _ _ both.2⟩

theorem meets_pure {value : α} (holds : post value ghost start) :
    monitor.Meets (pure value : Program σ ω ε α) ghost start post :=
  ⟨trivial, holds⟩

theorem Meets.bind {next : α → Program σ ω ε β} {between : α → γ → σ → Prop}
    {post : β → γ → σ → Prop} (first : monitor.Meets program ghost start between)
    (follows : ∀ value later middle, between value later middle →
      monitor.Meets (next value) later middle post) :
    monitor.Meets (program >>= next) ghost start post := by
  apply Program.Ends.bind first
  rintro value middle out ⟨accepted, holds⟩
  apply Program.Ends.mono (follows value _ middle holds)
  rintro result after more ⟨also, result_holds⟩
  rw [accepts_append_iff, afterAll_append]
  exact ⟨⟨accepted, also⟩, result_holds⟩

@[simp]
theorem meets_state_bind_iff {next : σ → Program σ ω ε α} :
    monitor.Meets (Program.state >>= next) ghost start post ↔
      monitor.Meets (next start) ghost start post :=
  Program.ends_state_bind_iff

@[simp]
theorem meets_update_iff {change : σ → σ} {post : Unit → γ → σ → Prop} :
    monitor.Meets (Program.update change : Program σ ω ε Unit) ghost start post ↔
      post () ghost (change start) :=
  iff_of_eq (true_and _)

@[simp]
theorem meets_update_bind_iff {change : σ → σ} {next : Unit → Program σ ω ε α} :
    monitor.Meets (Program.update change >>= next) ghost start post ↔
      monitor.Meets (next ()) ghost (change start) post :=
  Program.ends_update_bind_iff

theorem meets_emit {output : ω} {post : Unit → γ → σ → Prop}
    (allowed : monitor.Allows ghost output) (holds : post () (monitor.after ghost output) start) :
    monitor.Meets (Program.emit output : Program σ ω ε Unit) ghost start post :=
  ⟨⟨allowed, trivial⟩, holds⟩

theorem meets_emit_bind {output : ω} {next : Unit → Program σ ω ε α}
    (allowed : monitor.Allows ghost output)
    (follows : monitor.Meets (next ()) (monitor.after ghost output) start post) :
    monitor.Meets (Program.emit output >>= next) ghost start post := by
  have emitted : monitor.Meets (Program.emit output : Program σ ω ε Unit) ghost start
      fun _ later middle => later = monitor.after ghost output ∧ middle = start :=
    meets_emit allowed ⟨rfl, rfl⟩
  apply emitted.bind
  rintro _ _ _ ⟨rfl, rfl⟩
  exact follows

theorem meets_demand_bind {value : Except ε β} {found : β} {next : β → Program σ ω ε α}
    (known : value = .ok found) (follows : monitor.Meets (next found) ghost start post) :
    monitor.Meets (Program.demand value >>= next) ghost start post := by
  subst known
  exact Program.ends_demand_ok_bind_iff.mpr follows

theorem meets_ite {condition : Prop} [Decidable condition] {other : Program σ ω ε α}
    (yes : condition → monitor.Meets program ghost start post)
    (no : ¬ condition → monitor.Meets other ghost start post) :
    monitor.Meets (if condition then program else other) ghost start post :=
  Program.ends_ite yes no

theorem meets_onlyIf {condition : Prop} [Decidable condition] {program : Program σ ω ε Unit}
    {post : Unit → γ → σ → Prop} (yes : condition → monitor.Meets program ghost start post)
    (no : ¬ condition → post () ghost start) :
    monitor.Meets (Program.onlyIf condition program) ghost start post :=
  meets_ite yes fun fails => meets_pure (no fails)

/-- What a step ends with has what its program meets. -/
theorem Meets.of_step {Event : Type} {init : σ → Prop} {program : Event → Program σ ω ε Unit}
    {start after : σ} {event : Event} {out : List ω} {post : Unit → γ → σ → Prop}
    (meets : monitor.Meets (program event) ghost start post)
    (stepped : (Program.system init program).step start event = some (after, out)) :
    monitor.Accepts ghost out ∧ post () (monitor.afterAll ghost out) after :=
  Program.Ends.of_step meets stepped

/-- A program that meets something has a result. -/
theorem Meets.exists_eq_ok (meets : monitor.Meets program ghost start post) :
    ∃ value after out, program start = .ok (value, after, out) := by
  obtain ⟨value, after, out, ended, _⟩ := Program.ends_never_iff.mp meets
  exact ⟨value, after, out, ended⟩

-- Rules are applied to it, so no goal is evaluated to find out what it is.
attribute [irreducible] Meets

/-! ## Runs -/

section Runs

variable {Event : Type} {init : σ → Prop} {program : Event → Program σ ω ε Unit}
  {guard : System.Guard σ Event ω} {invariant : γ → σ → Prop}

/-- A run of programs that each keep an invariant is accepted, and has the invariant. -/
theorem accepts_run (monitor : Monitor γ ω) (first : γ)
    (starts : ∀ state, init state → invariant first state)
    (keeps : ∀ history ghost state event, guard history state event → invariant ghost state →
      monitor.Meets (program event) ghost state fun _ => invariant)
    {history : History Event ω} {state : σ}
    (running : (Program.system init program).Run guard history state) :
    monitor.Accepts first history.outputs ∧
      invariant (monitor.afterAll first history.outputs) state := by
  induction running with
  | start initial => exact ⟨trivial, starts _ initial⟩
  | next earlier guarded stepped ih =>
      have meets := keeps _ _ _ _ guarded ih.2
      have ended := meets.of_step stepped
      rw [History.outputs_snoc, accepts_append_iff, afterAll_append]
      exact ⟨⟨ih.1, ended.1⟩, ended.2⟩

end Runs

end Monitor

end X3Hal
