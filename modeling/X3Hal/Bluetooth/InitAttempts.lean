import X3Hal.Bluetooth.InitThread
import Mathlib.Data.List.TakeWhile
import Mathlib.Order.Basic

/-!
# Attempts to initialise the controller

The status is one variable for the answer of a command and for the end of the thread.  A thread
that sees `CMD_TERMINATE` in its loop leaves it there, and a late event overwrites it.
-/

namespace X3Hal.Bluetooth

open X3Hal.Transition

def InitOutput.attempt : InitOutput → Nat
  | .started attempt _ | .armed attempt _ | .sent attempt _ _ | .event attempt _ _ _ _
  | .notified attempt | .terminated attempt | .reported attempt _ => attempt

/-! ## How the promises grow -/

section Growth

variable {outputs out : List InitOutput} {attempt : Nat} {plan : Plan}

theorem planOf_append (attempt : Nat) (outputs out : List InitOutput) :
    planOf attempt (outputs ++ out) = (planOf attempt outputs).or (planOf attempt out) := by
  simp [planOf, List.findSome?_append]

theorem planOf_append_of_eq_some (planned : planOf attempt outputs = some plan) :
    planOf attempt (outputs ++ out) = some plan := by
  rw [planOf_append, planned, Option.some_or]

theorem planOf_eq_none (earlier : ∀ output ∈ outputs, output.attempt ≠ attempt) :
    planOf attempt outputs = none := by
  rw [planOf, List.findSome?_eq_none_iff]
  intro output occurs
  have apart := earlier output occurs
  cases output with
  | started other plan => exact if_neg apart
  | armed | sent | event | notified | terminated | reported => rfl

theorem Answered.append {index : Nat} (answered : Answered outputs attempt plan index) :
    Answered (outputs ++ out) attempt plan index := by
  intro command scripted
  rcases answered command scripted with skipped | ⟨sent, event⟩
  · exact Or.inl skipped
  · exact Or.inr ⟨List.mem_append_left _ sent, List.mem_append_left _ event⟩

theorem Completed.append (completed : Completed outputs attempt plan) :
    Completed (outputs ++ out) attempt plan :=
  fun index less started => (completed index less started).append

/-- What comes before a notice stays before it. -/
theorem mem_takeWhile_append {output notice : InitOutput}
    (occurs : output ∈ outputs.takeWhile (· ≠ notice)) :
    output ∈ (outputs ++ out).takeWhile (· ≠ notice) := by
  induction outputs with
  | nil => cases occurs
  | cons first outputs ih =>
      rw [List.cons_append]
      by_cases isNotice : first = notice
      · rw [List.takeWhile_cons_of_neg (by simp [isNotice])] at occurs
        cases occurs
      · rw [List.takeWhile_cons_of_pos (by simp [isNotice])] at occurs ⊢
        rcases List.mem_cons.mp occurs with rfl | later
        · exact List.mem_cons_self
        · exact List.mem_cons_of_mem first (ih later)

/-- A command of the script that is wanted has no answer. -/
def Unfinished (outputs : List InitOutput) (attempt : Nat) (plan : Plan) (i : Nat) : Prop :=
  ∃ index command, i ≤ index ∧ plan.start ≤ index ∧ plan.script[index]? = some command ∧
    command.skipped plan.settings = false ∧
    .event attempt index commandComplete command.opCode 0 ∉ outputs

theorem Unfinished.not_completed {i : Nat} (unfinished : Unfinished outputs attempt plan i) :
    ¬ Completed outputs attempt plan := by
  obtain ⟨index, command, -, started, scripted, wanted, missing⟩ := unfinished
  intro completed
  have less : index < plan.script.length := (List.getElem?_eq_some_iff.mp scripted).1
  rcases completed index less started command scripted with skipped | ⟨-, event⟩
  · rw [wanted] at skipped
    cases skipped
  · exact missing event

theorem Unfinished.append {i : Nat} (unfinished : Unfinished outputs attempt plan i)
    (other : ∀ index code opCode status, .event attempt index code opCode status ∉ out) :
    Unfinished (outputs ++ out) attempt plan i := by
  obtain ⟨index, command, atLeast, started, scripted, wanted, missing⟩ := unfinished
  refine ⟨index, command, atLeast, started, scripted, wanted, ?_⟩
  rw [List.mem_append, not_or]
  exact ⟨missing, other index _ _ _⟩

end Growth

/-! ## The invariant -/

/-- The commands before an index are answered, and those that were sent come before a bound. -/
structure Progress (outputs : List InitOutput) (attempt : Nat) (plan : Plan) (i bound : Nat) :
    Prop where
  planned : planOf attempt outputs = some plan
  started : plan.start ≤ i
  answered : ∀ earlier < i, plan.start ≤ earlier → Answered outputs attempt plan earlier
  sentTo : ∀ index command, .sent attempt index command ∈ outputs →
    index < bound ∧ plan.script[index]? = some command

/-- The verdicts on the events of a command are right. -/
def VerdictsExact (state : InitState) (i : Nat) : Prop :=
  ∀ verdict ∈ state.verdicts, verdict.attempt = state.attempt → verdict.index = i →
    ∀ command, state.plan.script[i]? = some command →
      (verdict.passes = true ↔
        verdict.code = commandComplete ∧ verdict.opCode = command.opCode ∧ verdict.status = 0)

def CommandDue (plan : Plan) (i : Nat) : Prop :=
  ∃ command, plan.script[i]? = some command ∧ command.skipped plan.settings = false

structure SendingSound (outputs : List InitOutput) (state : InitState) (i : Nat) : Prop where
  progress : Progress outputs state.attempt state.plan i i
  due : CommandDue state.plan i
  unanswered : state.cmdStatus ≠ .success
  noticed : .notified state.attempt ∈ outputs →
    state.cmdStatus = .terminate ∨ state.cmdStatus = .fail
  inFlight : .armed state.attempt i ∈ outputs.takeWhile (· ≠ .notified state.attempt)

structure WaitingSound (outputs : List InitOutput) (state : InitState) (i : Nat) : Prop where
  progress : Progress outputs state.attempt state.plan i (i + 1)
  sent : ∃ command, state.plan.script[i]? = some command ∧
    .sent state.attempt i command ∈ outputs ∧ state.opCode = command.opCode
  noticed : .notified state.attempt ∈ outputs →
    state.cmdStatus = .terminate ∨ state.cmdStatus = .fail
  answered : state.cmdStatus = .success → Answered outputs state.attempt state.plan i
  unfinished : state.cmdStatus ≠ .success → Unfinished outputs state.attempt state.plan i
  exact : VerdictsExact state i

structure EndingSound (outputs : List InitOutput) (state : InitState) (i : Nat) (ret : Bool) :
    Prop where
  progress : Progress outputs state.attempt state.plan i (i + 1)
  completed : ret = true → Completed outputs state.attempt state.plan
  unfinished : ret = false → Unfinished outputs state.attempt state.plan i
  opCode : ∀ command, .sent state.attempt i command ∈ outputs → state.opCode = command.opCode
  exact : VerdictsExact state i

/-- What is so at each place of the thread. -/
def PlaceSound (outputs : List InitOutput) (state : InitState) : ThreadPlace → Prop
  | .created => ∀ output ∈ outputs, output.attempt < state.attempt
  | .loop i => Progress outputs state.attempt state.plan i i ∧ .notified state.attempt ∉ outputs
  | .arm i => Progress outputs state.attempt state.plan i i ∧
      .notified state.attempt ∉ outputs ∧ CommandDue state.plan i
  | .sending i => SendingSound outputs state i
  | .waiting i => WaitingSound outputs state i
  | .ending i ret => state.cmdStatus ≠ .terminate ∧
      (planOf state.attempt outputs = none ∨ EndingSound outputs state i ret)
  | .none | .reported | .done => state.cmdStatus ≠ .terminate

structure InitSound (outputs : List InitOutput) (state : InitState) : Prop where
  justified : Justified AttemptDue outputs
  bounded : ∀ output ∈ outputs, output.attempt ≤ state.attempt
  callbacks : ∀ callback ∈ state.callbacks,
    .sent callback.attempt callback.index callback.command ∈ outputs
  verdicts : ∀ verdict ∈ state.verdicts, ∃ command,
    .sent verdict.attempt verdict.index command ∈ outputs
  events : ∀ attempt index code opCode status,
    .event attempt index code opCode status ∈ outputs → ∃ command,
      .sent attempt index command ∈ outputs
  noticed : state.cmdStatus = .terminate → .notified state.attempt ∈ outputs
  idle : state.main = .out → state.place = .none
  place : PlaceSound outputs state state.place

namespace Progress

variable {outputs out : List InitOutput} {attempt : Nat} {plan : Plan} {i bound : Nat}

theorem append (progress : Progress outputs attempt plan i bound)
    (other : ∀ index command, .sent attempt index command ∉ out) :
    Progress (outputs ++ out) attempt plan i bound := by
  refine ⟨planOf_append_of_eq_some progress.planned, progress.started, ?_, ?_⟩
  · exact fun earlier less started => (progress.answered earlier less started).append
  · intro index command sent
    rcases List.mem_append.mp sent with old | new
    · exact progress.sentTo index command old
    · exact absurd new (other index command)

theorem weaken (progress : Progress outputs attempt plan i i) :
    Progress outputs attempt plan i (i + 1) := by
  refine ⟨progress.planned, progress.started, progress.answered, ?_⟩
  intro index command sent
  obtain ⟨less, scripted⟩ := progress.sentTo index command sent
  exact ⟨Nat.lt_succ_of_lt less, scripted⟩

/-- The command of the index is answered. -/
theorem next (progress : Progress outputs attempt plan i (i + 1))
    (answered : Answered outputs attempt plan i) :
    Progress outputs attempt plan (i + 1) (i + 1) := by
  refine ⟨progress.planned, Nat.le_succ_of_le progress.started, ?_, progress.sentTo⟩
  intro earlier less started
  rcases Nat.lt_succ_iff_lt_or_eq.mp less with before | rfl
  · exact progress.answered earlier before started
  · exact answered

/-- A command from the bound on was not sent. -/
theorem not_sent (progress : Progress outputs attempt plan i bound) {index : Nat}
    (later : bound ≤ index) (command : HciCommand) : .sent attempt index command ∉ outputs :=
  fun sent => absurd (progress.sentTo index command sent).1 (Nat.not_lt.mpr later)

end Progress

namespace InitSound

variable {outputs out : List InitOutput} {state after : InitState} {i : Nat}

/-- A command that was not sent has no event. -/
theorem not_event (sound : InitSound outputs state) {attempt index : Nat}
    (notSent : ∀ command, .sent attempt index command ∉ outputs) (code opCode status : Nat) :
    .event attempt index code opCode status ∉ outputs := by
  intro event
  obtain ⟨command, sent⟩ := sound.events attempt index code opCode status event
  exact notSent command sent

/-- A command that was not sent is unfinished. -/
theorem unfinished (sound : InitSound outputs state) {bound index : Nat}
    (progress : Progress outputs state.attempt state.plan i bound) (later : bound ≤ index)
    (after : i ≤ index) (due : CommandDue state.plan index) :
    Unfinished outputs state.attempt state.plan i := by
  obtain ⟨command, scripted, wanted⟩ := due
  exact ⟨index, command, after, progress.started.trans after, scripted, wanted,
    sound.not_event (progress.not_sent later) _ _ _⟩

/-- No verdict is about a command that was not sent. -/
theorem exact_of_not_sent (sound : InitSound outputs state)
    (notSent : ∀ command, .sent state.attempt i command ∉ outputs) : VerdictsExact state i := by
  intro verdict occurs isAttempt isIndex
  obtain ⟨command, sent⟩ := sound.verdicts verdict occurs
  rw [isAttempt, isIndex] at sent
  exact absurd sent (notSent command)

/-- A thread that leaves its loop with a command that it has not sent. -/
theorem ending_of_due (sound : InitSound outputs state)
    (progress : Progress outputs state.attempt state.plan i i) (due : CommandDue state.plan i) :
    EndingSound outputs state i false := by
  have notSent := progress.not_sent (Nat.le_refl i)
  exact ⟨progress.weaken, nofun, fun _ => sound.unfinished progress le_rfl le_rfl due,
    fun command sent => absurd sent (notSent command), sound.exact_of_not_sent notSent⟩

/-- A step of the thread. -/
theorem thread (sound : InitSound outputs state) (moves : state.place ≠ .none)
    (attempt : after.attempt = state.attempt) (main : after.main = state.main)
    (verdicts : after.verdicts = state.verdicts)
    (callbacks : ∀ callback ∈ after.callbacks,
      .sent callback.attempt callback.index callback.command ∈ outputs ++ out)
    (own : ∀ output ∈ out, output.attempt = state.attempt)
    (noEvent : ∀ attempt index code opCode status,
      .event attempt index code opCode status ∉ out)
    (justified : Justified (fun before => AttemptDue (outputs ++ before)) out)
    (noticed : after.cmdStatus = .terminate → .notified state.attempt ∈ outputs ++ out)
    (place : PlaceSound (outputs ++ out) after after.place) :
    InitSound (outputs ++ out) after := by
  constructor
  · exact justified_append_iff.mpr ⟨sound.justified, justified⟩
  · intro output occurs
    rw [attempt]
    rcases List.mem_append.mp occurs with old | new
    · exact sound.bounded output old
    · exact (own output new).le
  · exact callbacks
  · intro verdict occurs
    rw [verdicts] at occurs
    obtain ⟨command, sent⟩ := sound.verdicts verdict occurs
    exact ⟨command, List.mem_append_left _ sent⟩
  · intro attempt index code opCode status event
    rcases List.mem_append.mp event with old | new
    · obtain ⟨command, sent⟩ := sound.events attempt index code opCode status old
      exact ⟨command, List.mem_append_left _ sent⟩
    · exact absurd new (noEvent attempt index code opCode status)
  · rw [attempt]
    exact noticed
  · intro isOut
    rw [main] at isOut
    exact absurd (sound.idle isOut) moves
  · exact place

/-- A step of the thread that nobody sees. -/
theorem silent (sound : InitSound outputs state) (moves : state.place ≠ .none)
    (attempt : after.attempt = state.attempt) (main : after.main = state.main)
    (verdicts : after.verdicts = state.verdicts) (callbacks : after.callbacks = state.callbacks)
    (noticed : after.cmdStatus = .terminate → .notified state.attempt ∈ outputs)
    (place : PlaceSound outputs after after.place) : InitSound (outputs ++ []) after := by
  apply sound.thread moves attempt main verdicts
  · rw [callbacks, List.append_nil]
    exact sound.callbacks
  · simp
  · simp
  · exact justified_nil
  · rw [List.append_nil]
    exact noticed
  · rw [List.append_nil]
    exact place

theorem notSees (sound : InitSound outputs state)
    (notNoticed : .notified state.attempt ∉ outputs) :
    state.cmdStatus ≠ .terminate :=
  fun isTerminate => notNoticed (sound.noticed isTerminate)

theorem start (sound : InitSound outputs state) (isCreated : state.place = .created) :
    InitSound (outputs ++ state.start.2) state.start.1 := by
  have moves : state.place ≠ .none := by rw [isCreated]; nofun
  have fresh := sound.place
  rw [isCreated] at fresh
  have apart : ∀ output ∈ outputs, output.attempt ≠ state.attempt :=
    fun output occurs => (fresh output occurs).ne
  have notNoticed : .notified state.attempt ∉ outputs := fun occurs => apart _ occurs rfl
  rw [InitState.start]
  split
  case h_1 =>
    exact sound.silent moves rfl rfl rfl rfl sound.noticed
      ⟨sound.notSees notNoticed, Or.inl (planOf_eq_none apart)⟩
  case h_2 script fgConsys isScript =>
    refine sound.thread moves rfl rfl rfl ?_ ?_ ?_ ?_ ?_ ?_
    · exact fun callback occurs => List.mem_append_left _ (sound.callbacks callback occurs)
    · simp [InitOutput.attempt]
    · simp
    · rw [justified_singleton]
      trivial
    · exact fun isTerminate => List.mem_append_left _ (sound.noticed isTerminate)
    · refine ⟨⟨?_, le_rfl, ?_, ?_⟩, ?_⟩
      · rw [planOf_append, planOf_eq_none apart, Option.none_or]
        simp [planOf]
      · exact fun earlier less started => absurd less (Nat.not_lt.mpr started)
      · intro index command sent
        rcases List.mem_append.mp sent with old | new
        · exact absurd rfl (apart _ old)
        · simp at new
      · simp [notNoticed]

theorem check (sound : InitSound outputs state) (atLoop : state.place = .loop i) :
    InitSound (outputs ++ (state.check i).2) (state.check i).1 := by
  have moves : state.place ≠ .none := by rw [atLoop]; nofun
  have place := sound.place
  rw [atLoop] at place
  obtain ⟨progress, notNoticed⟩ := place
  have notTerminate := sound.notSees notNoticed
  rw [InitState.check]
  split
  case h_1 ends =>
    refine sound.silent moves rfl rfl rfl rfl sound.noticed ⟨notTerminate, Or.inr ?_⟩
    have notSent := progress.not_sent (Nat.le_refl i)
    have short := List.getElem?_eq_none_iff.mp ends
    refine ⟨progress.weaken, ?_, ?_, fun command sent => absurd sent (notSent command),
      sound.exact_of_not_sent notSent⟩
    · intro _ index less started
      exact progress.answered index (less.trans_le short) started
    · intro notRet
      rw [ends] at notRet
      cases notRet
  case h_2 command scripted =>
    rw [if_neg notTerminate]
    split
    case isTrue skipped =>
      refine sound.silent moves rfl rfl rfl rfl sound.noticed ⟨?_, notNoticed⟩
      have next := progress.weaken.next fun other isOther => by
        rw [scripted, Option.mem_some_iff] at isOther
        rw [← isOther]
        exact Or.inl skipped
      exact next
    case isFalse wanted =>
      exact sound.silent moves rfl rfl rfl rfl sound.noticed
        ⟨progress, notNoticed, command, scripted, Bool.eq_false_iff.mpr wanted⟩

theorem arm (sound : InitSound outputs state) (atArm : state.place = .arm i) (allocated : Bool) :
    InitSound (outputs ++ (state.arm i allocated).2) (state.arm i allocated).1 := by
  have moves : state.place ≠ .none := by rw [atArm]; nofun
  have place := sound.place
  rw [atArm] at place
  obtain ⟨progress, notNoticed, due⟩ := place
  have notTerminate := sound.notSees notNoticed
  cases allocated with
  | true =>
      rw [InitState.arm, if_pos rfl, if_neg notTerminate]
      refine sound.thread moves rfl rfl rfl ?_ ?_ ?_ ?_ ?_ ?_
      · exact fun callback occurs => List.mem_append_left _ (sound.callbacks callback occurs)
      · simp [InitOutput.attempt]
      · simp
      · rw [justified_singleton]
        trivial
      · exact nofun
      · have notLater : .notified state.attempt ∉ outputs ++ [.armed state.attempt i] := by
          simp [notNoticed]
        refine ⟨progress.append (by simp), due, nofun, fun noticed => absurd noticed notLater, ?_⟩
        have all : (outputs ++ [InitOutput.armed state.attempt i]).takeWhile
            (· ≠ .notified state.attempt) = outputs ++ [.armed state.attempt i] := by
          rw [List.takeWhile_eq_self_iff]
          intro output occurs
          rw [decide_eq_true_eq]
          rintro rfl
          exact notLater occurs
        rw [all]
        simp
  | false =>
      obtain ⟨progress, completed, unfinished, opCode, exact⟩ := sound.ending_of_due progress due
      obtain ⟨command, scripted, -⟩ := due
      rw [InitState.arm, if_neg Bool.false_ne_true, InitState.leave, scripted]
      exact sound.silent moves rfl rfl rfl rfl sound.noticed
        ⟨notTerminate, Or.inr ⟨progress, completed, unfinished, opCode, exact⟩⟩

theorem send (sound : InitSound outputs state) (atSending : state.place = .sending i)
    {command : HciCommand} (scripted : state.plan.script[i]? = some command) {accepted : Bool}
    (seen : accepted = false → state.cmdStatus ≠ .terminate) :
    InitSound (outputs ++ (state.send i accepted command).2)
      (state.send i accepted command).1 := by
  have moves : state.place ≠ .none := by rw [atSending]; nofun
  have place := sound.place
  rw [atSending] at place
  obtain ⟨progress, due, unanswered, noticed, inFlight⟩ := place
  have notSent := progress.not_sent (Nat.le_refl i)
  cases accepted with
  | true =>
      have wanted : command.skipped state.plan.settings = false := by
        obtain ⟨other, isOther, wanted⟩ := due
        rw [scripted, Option.some.injEq] at isOther
        rw [isOther]
        exact wanted
      rw [InitState.send, if_pos rfl]
      refine sound.thread moves rfl rfl rfl ?_ ?_ ?_ ?_ ?_ ?_
      · intro callback occurs
        rcases List.mem_cons.mp occurs with rfl | old
        · simp
        · exact List.mem_append_left _ (sound.callbacks callback old)
      · simp [InitOutput.attempt]
      · simp
      · rw [justified_singleton, List.append_nil]
        exact ⟨state.plan, progress.planned, progress.started, scripted, wanted,
          progress.answered, notSent command, fun _ => inFlight⟩
      · exact fun isTerminate => List.mem_append_left _ (sound.noticed isTerminate)
      · refine ⟨⟨planOf_append_of_eq_some progress.planned, progress.started, ?_, ?_⟩, ?_, ?_, ?_,
          ?_, ?_⟩
        · exact fun earlier less started => (progress.answered earlier less started).append
        · intro index other sent
          rcases List.mem_append.mp sent with old | new
          · exact progress.weaken.sentTo index other old
          · obtain ⟨-, rfl, rfl⟩ := InitOutput.sent.inj (List.mem_singleton.mp new)
            exact ⟨Nat.lt_succ_self _, scripted⟩
        · exact ⟨command, scripted, by simp, rfl⟩
        · intro isNoticed
          rcases List.mem_append.mp isNoticed with old | new
          · exact noticed old
          · simp at new
        · exact fun answered => absurd answered unanswered
        · exact fun _ => (sound.unfinished progress le_rfl le_rfl due).append (by simp)
        · exact sound.exact_of_not_sent notSent
  | false =>
      obtain ⟨progress, completed, unfinished, -, exact⟩ := sound.ending_of_due progress due
      rw [InitState.send, if_neg Bool.false_ne_true, InitState.leave, scripted]
      exact sound.silent moves rfl rfl rfl rfl sound.noticed ⟨seen rfl, Or.inr
        ⟨progress, completed, unfinished, fun other sent => absurd sent (notSent other), exact⟩⟩

theorem look (sound : InitSound outputs state) (atWaiting : state.place = .waiting i)
    (looked : state.look i = some (after, out)) : InitSound (outputs ++ out) after := by
  have moves : state.place ≠ .none := by rw [atWaiting]; nofun
  have place := sound.place
  rw [atWaiting] at place
  obtain ⟨progress, ⟨command, scripted, sent, isOpCode⟩, noticed, answered, unfinished, exact⟩ :=
    place
  have opCode : ∀ other, .sent state.attempt i other ∈ outputs → state.opCode = other.opCode := by
    intro other otherSent
    have isOther := (progress.sentTo i other otherSent).2
    rw [scripted, Option.some.injEq] at isOther
    rw [isOpCode, isOther]
  rw [InitState.look] at looked
  split at looked
  case h_1 => cases looked
  case h_2 isSuccess =>
    cases looked
    refine sound.silent moves rfl rfl rfl rfl sound.noticed
      ⟨progress.next (answered isSuccess), ?_⟩
    intro isNoticed
    rcases noticed isNoticed with other | other
    · rw [isSuccess] at other
      cases other
    · rw [isSuccess] at other
      cases other
  case h_3 isFail =>
    cases looked
    have failed : state.cmdStatus ≠ .terminate := by rw [isFail]; nofun
    have unanswered : state.cmdStatus ≠ .success := by rw [isFail]; nofun
    rw [InitState.leave, scripted]
    exact sound.silent moves rfl rfl rfl rfl sound.noticed ⟨failed, Or.inr
      ⟨progress, nofun, fun _ => unfinished unanswered, opCode, exact⟩⟩
  case h_4 isTerminate =>
    cases looked
    have unanswered : state.cmdStatus ≠ .success := by rw [isTerminate]; nofun
    rw [InitState.leave, scripted]
    refine sound.thread moves rfl rfl rfl ?_ ?_ ?_ ?_ ?_ ?_
    · exact fun callback occurs => List.mem_append_left _ (sound.callbacks callback occurs)
    · simp [InitOutput.attempt]
    · simp
    · rw [justified_singleton, List.append_nil]
      exact sound.noticed isTerminate
    · exact nofun
    · refine ⟨nofun, Or.inr ⟨progress.append (by simp), nofun, ?_, ?_, exact⟩⟩
      · exact fun _ => (unfinished unanswered).append (by simp)
      · intro other otherSent
        rcases List.mem_append.mp otherSent with old | new
        · exact opCode other old
        · simp at new

theorem report (sound : InitSound outputs state) {ret : Bool}
    (atEnding : state.place = .ending i ret) :
    InitSound (outputs ++ [.reported state.attempt ret]) { state with place := .reported } := by
  have moves : state.place ≠ .none := by rw [atEnding]; nofun
  have place := sound.place
  rw [atEnding] at place
  obtain ⟨notTerminate, ending⟩ := place
  refine sound.thread moves rfl rfl rfl ?_ ?_ ?_ ?_ ?_ notTerminate
  · exact fun callback occurs => List.mem_append_left _ (sound.callbacks callback occurs)
  · simp [InitOutput.attempt]
  · simp
  · rw [justified_singleton, List.append_nil]
    intro plan isPlan
    rcases ending with unknown | left
    · rw [unknown] at isPlan
      cases isPlan
    · rw [left.progress.planned, Option.mem_some_iff] at isPlan
      rw [← isPlan]
      constructor
      · exact left.completed
      · intro completed
        cases ret with
        | true => rfl
        | false => exact absurd completed (left.unfinished rfl).not_completed
  · exact fun isTerminate => absurd isTerminate notTerminate

/-- What the callers of the thread do. -/
theorem main (sound : InitSound outputs state) (attempt : after.attempt = state.attempt)
    (verdicts : after.verdicts = state.verdicts) (callbacks : after.callbacks = state.callbacks)
    (status : after.cmdStatus = state.cmdStatus) (idle : after.main = .out → after.place = .none)
    (place : PlaceSound outputs after after.place) : InitSound (outputs ++ []) after := by
  rw [List.append_nil]
  refine ⟨sound.justified, ?_, ?_, ?_, sound.events, ?_, idle, place⟩
  · rw [attempt]
    exact sound.bounded
  · rw [callbacks]
    exact sound.callbacks
  · rw [verdicts]
    exact sound.verdicts
  · rw [status, attempt]
    exact sound.noticed

end InitSound

/-- Where the callers are does not matter to the thread. -/
theorem PlaceSound.main {outputs : List InitOutput} {state : InitState} {place : ThreadPlace}
    (sound : PlaceSound outputs state place) (main : MainPlace) (running : Bool) :
    PlaceSound outputs { state with main := main, running := running } place := by
  cases place with
  | none | created | loop | arm | reported | done => exact sound
  | sending i =>
      exact ⟨sound.progress, sound.due, sound.unanswered, sound.noticed, sound.inFlight⟩
  | waiting i =>
      exact ⟨sound.progress, sound.sent, sound.noticed, sound.answered, sound.unfinished,
        sound.exact⟩
  | ending i ret =>
      refine ⟨sound.1, sound.2.imp id fun left => ?_⟩
      exact ⟨left.progress, left.completed, left.unfinished, left.opCode, left.exact⟩

namespace InitSound

variable {outputs out : List InitOutput} {state after : InitState} {i : Nat}

theorem initDevice (sound : InitSound outputs state) (isOut : state.main = .out) (chipId : Nat)
    (nvramIsDefault : Bool) (settings : Settings) :
    InitSound outputs (state.initDevice chipId nvramIsDefault settings) := by
  have place := sound.place
  rw [sound.idle isOut] at place
  have earlier : ∀ output ∈ outputs, output.attempt < state.attempt + 1 :=
    fun output occurs => Nat.lt_succ_of_le (sound.bounded output occurs)
  exact ⟨sound.justified, fun output occurs => (earlier output occurs).le, sound.callbacks,
    sound.verdicts, sound.events, fun isTerminate => absurd isTerminate place, nofun, earlier⟩

theorem cleanup (sound : InitSound outputs state) (isInited : state.main = .inited)
    (due : state.running = true → NoticeDue state state.place) :
    InitSound (outputs ++ state.cleanup.2) state.cleanup.1 := by
  rw [InitState.cleanup]
  split
  case isTrue running =>
    have noticeDue := due running
    have notOut : state.main ≠ .out := by rw [isInited]; nofun
    have place := sound.place
    refine ⟨?_, ?_, ?_, ?_, ?_, ?_, nofun, ?_⟩
    · rw [justified_snoc_iff]
      exact ⟨sound.justified, trivial⟩
    · intro output occurs
      rcases List.mem_append.mp occurs with old | new
      · exact sound.bounded output old
      · rw [List.mem_singleton.mp new]
        exact le_rfl
    · exact fun callback occurs => List.mem_append_left _ (sound.callbacks callback occurs)
    · intro verdict occurs
      obtain ⟨command, sent⟩ := sound.verdicts verdict occurs
      exact ⟨command, List.mem_append_left _ sent⟩
    · intro attempt index code opCode status event
      rcases List.mem_append.mp event with old | new
      · obtain ⟨command, sent⟩ := sound.events attempt index code opCode status old
        exact ⟨command, List.mem_append_left _ sent⟩
      · simp at new
    · exact fun _ => List.mem_append_right _ (List.mem_singleton.mpr rfl)
    · dsimp only
      cases atPlace : state.place with
      | none | created | loop | arm | ending | reported | done =>
          rw [atPlace] at noticeDue
          exact noticeDue.elim
      | sending i =>
          rw [atPlace] at place
          exact ⟨place.progress.append (by simp), place.due, nofun, fun _ => Or.inl rfl,
            mem_takeWhile_append place.inFlight⟩
      | waiting i =>
          rw [atPlace] at place noticeDue
          obtain ⟨command, scripted, sent, isOpCode⟩ := place.sent
          refine ⟨place.progress.append (by simp),
            ⟨command, scripted, List.mem_append_left _ sent, isOpCode⟩, fun _ => Or.inl rfl, nofun,
            fun _ => ?_, place.exact⟩
          have unfinished : Unfinished outputs state.attempt state.plan i := by
            by_cases answered : state.cmdStatus = .success
            · obtain ⟨later, less, isLater, wanted⟩ := noticeDue answered
              exact sound.unfinished place.progress isLater isLater.le
                ⟨state.plan.script[later], List.getElem?_eq_getElem less,
                  wanted _ (List.getElem?_eq_getElem less)⟩
            · exact place.unfinished answered
          exact unfinished.append (by simp)
  case isFalse =>
    exact sound.main rfl rfl rfl rfl nofun (sound.place.main .joining state.running)

/-- The verdict on an event of the command that was sent last -/
theorem receive (sound : InitSound outputs state) {callback : Callback}
    (occurs : callback ∈ state.callbacks) (code opCode status : Nat) :
    InitSound outputs { state with
      verdicts := state.verdict callback code opCode status :: state.verdicts } := by
  have sent := sound.callbacks callback occurs
  have place := sound.place
  -- the handler of the last command looks for its own opcode
  have exact : ∀ i, VerdictsExact state i →
      (∀ command, .sent state.attempt i command ∈ outputs →
        state.plan.script[i]? = some command ∧ state.opCode = command.opCode) →
      VerdictsExact { state with
        verdicts := state.verdict callback code opCode status :: state.verdicts } i := by
    intro i exact own verdict occurs isAttempt isIndex command scripted
    rcases List.mem_cons.mp occurs with rfl | old
    · have isSent := sent
      rw [show callback.attempt = state.attempt from isAttempt,
        show callback.index = i from isIndex] at isSent
      obtain ⟨isScripted, isOpCode⟩ := own _ isSent
      have same : callback.command = command :=
        Option.some.inj (isScripted.symm.trans scripted)
      have expected : (if callback.command = .getLocalBdAddr then 0x1009 else state.opCode) =
          command.opCode := by
        split
        case isTrue isGet =>
          rw [← same, isGet]
          rfl
        case isFalse => rw [isOpCode, same]
      simp only [InitState.verdict, decide_eq_true_eq, expected]
    · exact exact verdict old isAttempt isIndex command scripted
  refine ⟨sound.justified, sound.bounded, sound.callbacks, ?_, sound.events, sound.noticed,
    sound.idle, ?_⟩
  · intro verdict isVerdict
    rcases List.mem_cons.mp isVerdict with rfl | old
    · exact ⟨callback.command, sent⟩
    · exact sound.verdicts verdict old
  · dsimp only
    cases atPlace : state.place with
    | none | created | loop | arm | reported | done =>
        rw [atPlace] at place
        exact place
    | sending i =>
        rw [atPlace] at place
        exact ⟨place.progress, place.due, place.unanswered, place.noticed, place.inFlight⟩
    | waiting i =>
        rw [atPlace] at place
        refine ⟨place.progress, place.sent, place.noticed, place.answered, place.unfinished,
          exact i place.exact ?_⟩
        intro command isSent
        obtain ⟨other, scripted, -, isOpCode⟩ := place.sent
        have isScripted := (place.progress.sentTo i command isSent).2
        refine ⟨isScripted, ?_⟩
        rw [isOpCode, Option.some.inj (scripted.symm.trans isScripted)]
    | ending i ret =>
        rw [atPlace] at place
        refine ⟨place.1, place.2.imp id fun left => ?_⟩
        refine ⟨left.progress, left.completed, left.unfinished, left.opCode,
          exact i left.exact ?_⟩
        exact fun command isSent =>
          ⟨(left.progress.sentTo i command isSent).2, left.opCode command isSent⟩

/-- An event of another command, or one that does not pass, leaves the commands unfinished. -/
theorem unfinished_event (sound : InitSound outputs state) {verdict : Verdict}
    (occurs : verdict ∈ state.verdicts)
    (progress : Progress outputs state.attempt state.plan i (i + 1))
    (exact : VerdictsExact state i)
    (other : verdict.passes = false ∨ verdict.attempt ≠ state.attempt ∨ verdict.index ≠ i)
    (unfinished : Unfinished outputs state.attempt state.plan i) :
    Unfinished (outputs ++ [.event verdict.attempt verdict.index verdict.code verdict.opCode
      verdict.status]) state.attempt state.plan i := by
  obtain ⟨index, command, atLeast, started, scripted, wanted, missing⟩ := unfinished
  refine ⟨index, command, atLeast, started, scripted, wanted, ?_⟩
  rw [List.mem_append, not_or]
  refine ⟨missing, fun new => ?_⟩
  obtain ⟨isAttempt, isIndex, isCode, isOpCode, isStatus⟩ :=
    InitOutput.event.inj (List.mem_singleton.mp new)
  -- only the last command that was sent has events from here on
  obtain ⟨sentCommand, sent⟩ := sound.verdicts verdict occurs
  rw [← isAttempt, ← isIndex] at sent
  have below := (progress.sentTo index sentCommand sent).1
  have isI : index = i := Nat.le_antisymm (Nat.le_of_lt_succ below) atLeast
  rw [isI] at isIndex scripted
  have passes := (exact verdict occurs isAttempt.symm isIndex.symm command scripted).mpr
    ⟨isCode.symm, isOpCode.symm, isStatus.symm⟩
  rcases other with fails | otherAttempt | otherIndex
  · rw [fails] at passes
    cases passes
  · exact otherAttempt isAttempt.symm
  · exact otherIndex isIndex.symm

theorem signal (sound : InitSound outputs state) {verdict : Verdict}
    (occurs : verdict ∈ state.verdicts) (due : SignalDue verdict state state.place) :
    InitSound (outputs ++ [.event verdict.attempt verdict.index verdict.code verdict.opCode
        verdict.status])
      { state with
        cmdStatus := if verdict.passes then .success else .fail
        verdicts := state.verdicts.erase verdict } := by
  obtain ⟨sentCommand, sent⟩ := sound.verdicts verdict occurs
  have notTerminate : (if verdict.passes then CmdStatus.success else .fail) ≠ .terminate := by
    split <;> nofun
  have exact : ∀ i, VerdictsExact state i → VerdictsExact { state with
      cmdStatus := if verdict.passes then .success else .fail
      verdicts := state.verdicts.erase verdict } i :=
    fun i exact other isOther => exact other (List.mem_of_mem_erase isOther)
  have notNoticed : .notified state.attempt ∉ outputs → .notified state.attempt ∉ outputs ++
      [.event verdict.attempt verdict.index verdict.code verdict.opCode verdict.status] := by
    intro notNoticed
    simp [notNoticed]
  refine ⟨?_, ?_, ?_, ?_, ?_, fun isTerminate => absurd isTerminate notTerminate, sound.idle, ?_⟩
  · rw [justified_snoc_iff]
    exact ⟨sound.justified, trivial⟩
  · intro output isOutput
    rcases List.mem_append.mp isOutput with old | new
    · exact sound.bounded output old
    · rw [List.mem_singleton.mp new]
      have bounded := sound.bounded _ sent
      exact bounded
  · exact fun callback isCallback => List.mem_append_left _ (sound.callbacks callback isCallback)
  · intro other isOther
    obtain ⟨command, otherSent⟩ := sound.verdicts other (List.mem_of_mem_erase isOther)
    exact ⟨command, List.mem_append_left _ otherSent⟩
  · intro attempt index code opCode status event
    rcases List.mem_append.mp event with old | new
    · obtain ⟨command, otherSent⟩ := sound.events attempt index code opCode status old
      exact ⟨command, List.mem_append_left _ otherSent⟩
    · obtain ⟨rfl, rfl, -⟩ := InitOutput.event.inj (List.mem_singleton.mp new)
      exact ⟨sentCommand, List.mem_append_left _ sent⟩
  · have place := sound.place
    dsimp only
    cases atPlace : state.place with
    | none | reported | done => exact notTerminate
    | created =>
        rw [atPlace] at place
        intro output isOutput
        rcases List.mem_append.mp isOutput with old | new
        · exact place output old
        · rw [List.mem_singleton.mp new]
          have earlier := place _ sent
          exact earlier
    | loop i =>
        rw [atPlace] at place
        exact ⟨place.1.append (by simp), notNoticed place.2⟩
    | arm i =>
        rw [atPlace] at place
        exact ⟨place.1.append (by simp), notNoticed place.2.1, place.2.2⟩
    | sending i =>
        rw [atPlace] at place due
        have fails : verdict.passes = false := due
        refine ⟨place.progress.append (by simp), place.due, ?_, fun _ => Or.inr ?_,
          mem_takeWhile_append place.inFlight⟩
        · simp [fails]
        · simp [fails]
    | waiting i =>
        rw [atPlace] at place due
        obtain ⟨command, scripted, commandSent, isOpCode⟩ := place.sent
        have isSent : ∃ command, state.plan.script[i]? = some command ∧
            .sent state.attempt i command ∈ outputs ++ [.event verdict.attempt verdict.index
              verdict.code verdict.opCode verdict.status] ∧ state.opCode = command.opCode :=
          ⟨command, scripted, List.mem_append_left _ commandSent, isOpCode⟩
        cases passes : verdict.passes with
        | true =>
            simp only [SignalDue, passes, if_true] at due
            refine ⟨place.progress.append (by simp), isSent, ?_, fun _ => ?_, ?_,
              exact i place.exact⟩
            · intro isNoticed
              refine absurd isNoticed (notNoticed fun old => ?_)
              rcases place.noticed old with isTerminate | isFail
              · rw [isTerminate] at due
                simp at due
              · rw [isFail] at due
                simp at due
            · rcases due with answered | ⟨-, isAttempt, isIndex⟩
              · exact (place.answered answered).append
              · obtain ⟨isCode, isEventOpCode, isStatus⟩ :=
                  (place.exact verdict occurs isAttempt isIndex command scripted).mp passes
                intro other isOther
                have same : command = other := Option.some.inj (scripted.symm.trans isOther)
                rw [← same]
                refine Or.inr ⟨List.mem_append_left _ commandSent, List.mem_append_right _ ?_⟩
                rw [isAttempt, isIndex, isCode, isEventOpCode, isStatus]
                exact List.mem_singleton.mpr rfl
            · exact fun unanswered => absurd (by simp) unanswered
        | false =>
            simp only [SignalDue, passes, Bool.false_eq_true, if_false] at due
            refine ⟨place.progress.append (by simp), isSent, fun _ => Or.inr ?_, ?_, fun _ => ?_,
              exact i place.exact⟩
            · simp
            · exact fun answered => absurd answered (by simp)
            · exact sound.unfinished_event occurs place.progress place.exact (Or.inl passes)
                (place.unfinished due)
    | ending i ret =>
        rw [atPlace] at place due
        refine ⟨notTerminate, place.2.imp ?_ fun left => ?_⟩
        · intro unknown
          rw [planOf_append, unknown]
          rfl
        · refine ⟨left.progress.append (by simp), fun isRet => (left.completed isRet).append, ?_,
            ?_, exact i left.exact⟩
          · exact fun notRet => sound.unfinished_event occurs left.progress left.exact due
              (left.unfinished notRet)
          · intro command isSent
            rcases List.mem_append.mp isSent with old | new
            · exact left.opCode command old
            · simp at new

theorem step {history : History InitEvent InitOutput} {event : InitEvent}
    (sound : InitSound history.outputs state) (guarded : SignalsSeen history state event)
    (stepped : state.step event = some (after, out)) :
    InitSound (history.outputs ++ out) after := by
  have steps := InitState.steps_of_step stepped
  cases event with
  | initDevice chipId nvramIsDefault settings =>
      rcases steps with ⟨isOut, same⟩
      cases same
      rw [List.append_nil]
      exact sound.initDevice isOut chipId nvramIsDefault settings
  | created =>
      rcases steps with ⟨-, same⟩
      cases same
      exact sound.main rfl rfl rfl rfl nofun (sound.place.main .inited true)
  | cleanup =>
      rcases steps with ⟨isInited, same⟩
      have cleaned := sound.cleanup isInited guarded
      rw [← same] at cleaned
      exact cleaned
  | join =>
      rcases steps with ⟨ended, same⟩
      cases same
      have place := sound.place
      rw [ended.2] at place
      exact sound.main rfl rfl rfl rfl (fun _ => rfl) place
  | start =>
      rcases steps with ⟨isCreated, same⟩
      have started := sound.start isCreated
      rw [← same] at started
      exact started
  | check =>
      rcases steps with ⟨i, atLoop, same⟩
      have checked := sound.check atLoop
      rw [← same] at checked
      exact checked
  | arm allocated =>
      rcases steps with ⟨i, atArm, same⟩
      have armed := sound.arm atArm allocated
      rw [← same] at armed
      exact armed
  | send accepted =>
      rcases steps with ⟨i, command, atSending, scripted, same⟩
      have sent := sound.send atSending scripted guarded
      rw [← same] at sent
      exact sent
  | look =>
      rcases steps with ⟨i, atWaiting, looked⟩
      exact sound.look atWaiting looked
  | report =>
      rcases steps with ⟨i, ret, atEnding, same⟩
      cases same
      exact sound.report atEnding
  | finish =>
      rcases steps with ⟨isReported, same⟩
      cases same
      have place := sound.place
      rw [isReported] at place
      refine sound.main rfl rfl rfl rfl ?_ place
      intro isOut
      have idle := sound.idle isOut
      rw [isReported] at idle
      cases idle
  | receive attempt index code opCode status =>
      rcases steps with ⟨callback, isCallback, -, same⟩
      cases same
      rw [List.append_nil]
      exact sound.receive isCallback code opCode status
  | signal verdict =>
      rcases steps with ⟨occurs, same⟩
      cases same
      exact sound.signal occurs guarded

theorem run {history : History InitEvent InitOutput} {state : InitState}
    (run : initSystem.Run SignalsSeen history state) : InitSound history.outputs state := by
  induction run with
  | start starts =>
      rw [starts]
      constructor <;> simp [initInit, PlaceSound]
  | next running guarded stepped ih =>
      rw [History.outputs_snoc]
      exact ih.step guarded stepped

end InitSound

/-- The attempts keep their promises in every run whose events and notices are seen. -/
theorem attempts_kept {history : History InitEvent InitOutput} {state : InitState}
    (run : initSystem.Run SignalsSeen history state) : Justified AttemptDue history.outputs :=
  (InitSound.run run).justified

/-- A command that is sent and answered with success. -/
def exchange (attempt index : Nat) (command : HciCommand) : List InitEvent :=
  [.check, .arm true, .send true, .receive attempt index commandComplete command.opCode 0,
    .signal ⟨attempt, index, commandComplete, command.opCode, 0, true⟩, .look]

/-- An attempt that completes its script, one that is ended with a command in flight, and one
that begins afterwards. -/
theorem attempts_kept_again : ∃ history state,
    initSystem.Run SignalsSeen history state ∧ Justified AttemptDue history.outputs ∧
    history.outputs.getLast? = some (.sent 3 1 .setLocalBdAddr) ∧
    history.events =
      ([.initDevice 0x6755 false ⟨false, true⟩, .created, .start] : List InitEvent) ++
      exchange 1 0 .setLocalBdAddr ++ exchange 1 1 .setRadio ++ exchange 1 2 .setTxPowerOffset ++
      exchange 1 3 .setSleepTimeout ++ exchange 1 4 .reset ++ ([.check] : List InitEvent) ++
      exchange 1 6 .setSspDebugMode ++
      ([.check, .report, .finish, .cleanup, .join] : List InitEvent) ++
      ([.initDevice 0x6630 true ⟨false, false⟩, .created, .start] : List InitEvent) ++
      exchange 2 0 .getLocalBdAddr ++
      ([.check, .arm true, .send true, .cleanup, .look, .report, .finish, .join] :
        List InitEvent) ++
      ([.initDevice 0x6630 false ⟨false, false⟩, .created, .start, .check, .arm true,
        .send true] : List InitEvent) := by
  exact System.exists_run_with (fun final => final.1.outputs.getLast?)
    (fun _ _ run => attempts_kept run) rfl (by decide +kernel) (by decide +kernel)

/-- What goes wrong: an event overwrites the notice of the end; a notice that comes outside of a
command ends the next attempt; and the event of an earlier attempt answers a command. -/
theorem attempts_lost :
    (∃ history state, initSystem.Run System.free history state ∧
      ¬ Justified AttemptDue history.outputs ∧
      history.events = [.initDevice 0x6755 false ⟨false, false⟩, .created, .start, .check,
        .arm true, .send true, .cleanup, .receive 1 0 commandComplete 0xFC1A 0,
        .signal ⟨1, 0, commandComplete, 0xFC1A, 0, true⟩, .look, .check, .arm true,
        .send true]) ∧
    (∃ history state, initSystem.Run System.free history state ∧
      ¬ Justified AttemptDue history.outputs ∧
      history.events = [.initDevice 0x6755 false ⟨false, false⟩, .created, .start, .cleanup,
        .check, .report, .finish, .join, .initDevice 0x6755 false ⟨false, false⟩, .created,
        .start, .check]) ∧
    ∃ history state, initSystem.Run System.free history state ∧
      ¬ Justified AttemptDue history.outputs ∧
      history.events = [.initDevice 0x6755 false ⟨false, false⟩, .created, .start, .check,
        .arm true, .send true, .cleanup, .look, .report, .finish, .join,
        .initDevice 0x6755 false ⟨false, false⟩, .created, .start, .check, .arm true,
        .send true, .receive 1 0 commandComplete 0xFC1A 0,
        .signal ⟨1, 0, commandComplete, 0xFC1A, 0, true⟩, .look, .check, .arm true,
        .send true] := by
  let plan : Plan := ⟨scriptConsys, 0, ⟨false, false⟩⟩
  refine ⟨?_, ?_, ?_⟩
  · refine exists_run_not_justified [.started 1 plan, .armed 1 0, .sent 1 0 .setLocalBdAddr,
      .notified 1, .event 1 0 commandComplete 0xFC1A 0, .armed 1 1] [] (.sent 1 1 .setRadio) rfl
      (by decide +kernel) (by decide +kernel) (by decide)
  · refine exists_run_not_justified [.started 1 plan, .notified 1, .terminated 1,
      .reported 1 false, .started 2 plan] [] (.terminated 2) rfl
      (by decide +kernel) (by decide +kernel) (by decide)
  · refine exists_run_not_justified [.started 1 plan, .armed 1 0, .sent 1 0 .setLocalBdAddr,
      .notified 1, .terminated 1, .reported 1 false, .started 2 plan, .armed 2 0,
      .sent 2 0 .setLocalBdAddr, .event 1 0 commandComplete 0xFC1A 0, .armed 2 1] []
      (.sent 2 1 .setRadio) rfl (by decide +kernel) (by decide +kernel) (by decide)

end X3Hal.Bluetooth
