import X3Hal.Transition.Justified
import Mathlib.Logic.Function.Basic
import Mathlib.Data.Nat.Basic

/-!
# Remote calls

A proxy packs the arguments of a call into a parcel, a stub takes them out again and calls the
method of a service, and the proxy unpacks the reply.  Any number of calls is under way; a
transaction may fail before it is served, and its reply may be lost.  Other processes send
transactions that no proxy has made.

A method of the service is one step.
-/

namespace X3Hal.Remote

open X3Hal.Transition

variable {Request : Type} {Answer : Request → Type} {Code Parcel Env S Inner : Type}

/-- `status_t` -/
abbrev Status := BitVec 32

/-- `NO_ERROR` -/
def noError : Status := 0

/-- What a stub does with a transaction. -/
inductive Dispatch (Answer : Request → Type) (Parcel : Type)
  /-- It calls a method, and replies with what that returns. -/
  | invoke (request : Request) (reply : Answer request → Status × Parcel)
  | reject (status : Status) (reply : Parcel)

/-- The two ends of an interface, with what they depend on besides their arguments. -/
structure Interface (Answer : Request → Type) (Code Parcel Env : Type) where
  /-- what the reply of a failed transaction is -/
  empty : Parcel
  transaction : Request → Code × Parcel
  dispatch : Env → Code → Parcel → Dispatch Answer Parcel
  result : Env → (request : Request) → Status → Parcel → Answer request

/-- The methods of a service, and what else changes its state. -/
structure Service (Answer : Request → Type) (S Inner : Type) where
  serve : (request : Request) → S → Answer request × S
  inner : Inner → S → S

/-- Where a call is. -/
inductive Place (Request Code Parcel : Type)
  | unused
  | sent (request : Request) (code : Code) (data : Parcel)
  | replied (request : Request) (status : Status) (reply : Parcel)
  | done

structure RemoteState (S Request Code Parcel : Type) where
  service : S
  call : Nat → Place Request Code Parcel
  /-- the number of calls so far -/
  issued : Nat

inductive RemoteEvent (Request Code Parcel Env Inner : Type)
  | call (request : Request)
  /-- The transaction fails before it is served. -/
  | refuse (number : Nat) (status : Status)
  | serve (number : Nat) (env : Env)
  /-- The reply does not arrive. -/
  | lose (number : Nat) (status : Status)
  | returns (number : Nat) (env : Env)
  /-- a transaction that no proxy has made -/
  | raw (code : Code) (data : Parcel) (env : Env)
  | inner (change : Inner)

inductive RemoteOutput (Answer : Request → Type) (Code Parcel Inner : Type)
  | called (number : Nat) (request : Request)
  | served (number : Nat) (request : Request) (answer : Answer request)
  | servedRaw (code : Code) (data : Parcel) (request : Request) (answer : Answer request)
  | changed (change : Inner)
  | returned (number : Nat) (request : Request) (answer : Answer request)

namespace RemoteState

variable (I : Interface Answer Code Parcel Env) (service : Service Answer S Inner)

/-- A call moves on. -/
def move (number : Nat) (place : Place Request Code Parcel)
    (state : RemoteState S Request Code Parcel) : RemoteState S Request Code Parcel :=
  { state with call := Function.update state.call number place }

def step (state : RemoteState S Request Code Parcel) :
    RemoteEvent Request Code Parcel Env Inner →
      Option (RemoteState S Request Code Parcel × List (RemoteOutput Answer Code Parcel Inner))
  | .call request =>
      let message := I.transaction request
      some ({ state.move state.issued (.sent request message.1 message.2) with
        issued := state.issued + 1 }, [.called state.issued request])
  | .refuse number status =>
      match state.call number with
      | .sent request _ _ =>
          if status = noError then none
          else some (state.move number (.replied request status I.empty), [])
      | .unused | .replied _ _ _ | .done => none
  | .serve number env =>
      match state.call number with
      | .sent request code data =>
          match I.dispatch env code data with
          | .invoke asked reply =>
              let answer := service.serve asked state.service
              let message := reply answer.1
              let moved := state.move number (.replied request message.1 message.2)
              some ({ moved with service := answer.2 }, [.served number asked answer.1])
          | .reject status reply => some (state.move number (.replied request status reply), [])
      | .unused | .replied _ _ _ | .done => none
  | .lose number status =>
      match state.call number with
      | .replied request _ _ =>
          if status = noError then none
          else some (state.move number (.replied request status I.empty), [])
      | .unused | .sent _ _ _ | .done => none
  | .returns number env =>
      match state.call number with
      | .replied request status reply =>
          some (state.move number .done,
            [.returned number request (I.result env request status reply)])
      | .unused | .sent _ _ _ | .done => none
  | .raw code data env =>
      match I.dispatch env code data with
      | .invoke asked _ =>
          let answer := service.serve asked state.service
          some ({ state with service := answer.2 }, [.servedRaw code data asked answer.1])
      | .reject _ _ => some (state, [])
  | .inner change =>
      some ({ state with service := service.inner change state.service }, [.changed change])

end RemoteState

/-- The callers, and a service in some initial state. -/
def remoteSystem (I : Interface Answer Code Parcel Env) (service : Service Answer S Inner)
    (initial : S) :
    System (RemoteState S Request Code Parcel) (RemoteEvent Request Code Parcel Env Inner)
      (RemoteOutput Answer Code Parcel Inner) where
  Init := fun state => state = ⟨initial, fun _ => .unused, 0⟩
  step := RemoteState.step I service

/-! ## What calls are promised -/

/-- The state that the methods leave, called directly and one after another. -/
def Service.replay (service : Service Answer S Inner) (initial : S)
    (outputs : List (RemoteOutput Answer Code Parcel Inner)) : S :=
  outputs.foldl
    (fun state output =>
      match output with
      | .served _ request _ | .servedRaw _ _ request _ => (service.serve request state).2
      | .changed change => service.inner change state
      | .called _ _ | .returned _ _ _ => state)
    initial

/-- What a call is to be like. -/
structure Contract (Answer : Request → Type) (Code Parcel Env : Type) where
  /-- the request as the stub makes it, with its own variables -/
  locals : Env → Request → Request
  /-- what the caller sees of an answer -/
  seen : Env → (env : Env) → (request : Request) → Answer (locals env request) → Answer request
  /-- what the caller sees of a failure -/
  failed : (request : Request) → Status → Answer request
  /-- the transactions that reach a method -/
  Admits : Code → Parcel → Prop

namespace Contract

variable (contract : Contract Answer Code Parcel Env) (service : Service Answer S Inner)
  (initial : S)

/-- A method is called at most once for a call, after it was made and with its arguments, and gives
the answer it would give directly; the caller sees this answer, or a failure. -/
def Explains (before : List (RemoteOutput Answer Code Parcel Inner)) :
    RemoteOutput Answer Code Parcel Inner → Prop
  | .called number _ => ∀ other, .called number other ∉ before
  | .served number request answer =>
      answer = (service.serve request (service.replay initial before)).1 ∧
        (∃ asked env, .called number asked ∈ before ∧ request = contract.locals env asked) ∧
        ∀ other given, .served number other given ∉ before
  | .servedRaw code data request answer =>
      answer = (service.serve request (service.replay initial before)).1 ∧
        contract.Admits code data
  | .changed _ => True
  | .returned number request answer =>
      .called number request ∈ before ∧ (∀ other given, .returned number other given ∉ before) ∧
        ((∃ env given returning, .served number (contract.locals env request) given ∈ before ∧
          answer = contract.seen returning env request given) ∨
        ∃ status, status ≠ noError ∧ answer = contract.failed request status)

/-- The service is as the methods have left it that were called, and these calls are explained. -/
structure Kept (outputs : List (RemoteOutput Answer Code Parcel Inner))
    (state : RemoteState S Request Code Parcel) : Prop where
  replayed : state.service = service.replay initial outputs
  explained : Justified (contract.Explains service initial) outputs

/-- The two ends of an interface meet a contract. -/
structure MetBy (I : Interface Answer Code Parcel Env) : Prop where
  served (env : Env) (request : Request) : ∃ reply,
    I.dispatch env (I.transaction request).1 (I.transaction request).2 =
        .invoke (contract.locals env request) reply ∧
      ∀ given, (reply given).1 = noError ∧ ∀ returning,
        I.result returning request noError (reply given).2 =
          contract.seen returning env request given
  failed (env : Env) (request : Request) {status : Status} : status ≠ noError →
    I.result env request status I.empty = contract.failed request status
  admitted {env : Env} {code : Code} {data : Parcel} {request : Request}
    {reply : Answer request → Status × Parcel} :
    I.dispatch env code data = .invoke request reply → contract.Admits code data

/-! ## The invariant -/

/-- What has happened for a call in a place. -/
def PlaceSound (I : Interface Answer Code Parcel Env)
    (outputs : List (RemoteOutput Answer Code Parcel Inner)) (number : Nat) :
    Place Request Code Parcel → Prop
  | .unused => True
  | .sent request code data =>
      .called number request ∈ outputs ∧ I.transaction request = (code, data) ∧
        (∀ other given, .served number other given ∉ outputs) ∧
        ∀ other given, .returned number other given ∉ outputs
  | .replied request status reply =>
      .called number request ∈ outputs ∧ (∀ other given, .returned number other given ∉ outputs) ∧
        ((status ≠ noError ∧ reply = I.empty) ∨
          status = noError ∧ ∃ env given,
            .served number (contract.locals env request) given ∈ outputs ∧
              ∀ returning, I.result returning request noError reply =
                contract.seen returning env request given)
  | .done => True

/-- An output is about a call. -/
def About (number : Nat) : RemoteOutput Answer Code Parcel Inner → Prop
  | .called other _ | .served other _ _ | .returned other _ _ => other = number
  | .servedRaw _ _ _ _ | .changed _ => False

structure RemoteSound (I : Interface Answer Code Parcel Env)
    (outputs : List (RemoteOutput Answer Code Parcel Inner))
    (state : RemoteState S Request Code Parcel) : Prop where
  kept : contract.Kept service initial outputs state
  fresh : ∀ number, state.issued ≤ number →
    state.call number = .unused ∧ ∀ output ∈ outputs, ¬ About number output
  placed : ∀ number, contract.PlaceSound I outputs number (state.call number)

end Contract

variable {contract : Contract Answer Code Parcel Env} {service : Service Answer S Inner}
  {initial : S} {I : Interface Answer Code Parcel Env}
  {outputs more : List (RemoteOutput Answer Code Parcel Inner)} {number : Nat}
  {place : Place Request Code Parcel} {state : RemoteState S Request Code Parcel}

@[simp]
theorem Service.replay_snoc (output : RemoteOutput Answer Code Parcel Inner) :
    service.replay initial (outputs ++ [output]) =
      match output with
      | .served _ request _ | .servedRaw _ _ request _ =>
          (service.serve request (service.replay initial outputs)).2
      | .changed change => service.inner change (service.replay initial outputs)
      | .called _ _ | .returned _ _ _ => service.replay initial outputs := by
  rw [Service.replay, List.foldl_append]
  rfl

namespace Contract

/-- A place stays sound while nothing happens for its call. -/
theorem PlaceSound.append (sound : contract.PlaceSound I outputs number place)
    (apart : ∀ output ∈ more, ¬ About number output) :
    contract.PlaceSound I (outputs ++ more) number place := by
  have before {output : RemoteOutput Answer Code Parcel Inner} (absent : output ∉ outputs)
      (about : About number output) : output ∉ outputs ++ more := by
    intro occurs
    rcases List.mem_append.mp occurs with earlier | later
    · exact absent earlier
    · exact apart output later about
  cases place with
  | unused => trivial
  | sent request code data =>
      obtain ⟨called, sent, unserved, waiting⟩ := sound
      exact ⟨List.mem_append_left _ called, sent, fun other given => before (unserved _ _) rfl,
        fun other given => before (waiting _ _) rfl⟩
  | replied request status reply =>
      obtain ⟨called, waiting, replied⟩ := sound
      constructor
      · exact List.mem_append_left _ called
      · constructor
        · exact fun other given => before (waiting _ _) rfl
        · rcases replied with failure | ⟨succeeded, env, given, served, reads⟩
          · exact Or.inl failure
          · exact Or.inr ⟨succeeded, env, given, List.mem_append_left _ served, reads⟩
  | done => trivial

namespace RemoteSound

/-- Outputs are explained, and each call that they are about is in a sound place. -/
theorem extend (sound : contract.RemoteSound service initial I outputs state)
    {after : RemoteState S Request Code Parcel}
    (replayed : after.service = service.replay initial (outputs ++ more))
    (explained : Justified
      (fun before output => contract.Explains service initial (outputs ++ before) output) more)
    (issued : state.issued ≤ after.issued)
    (moved : ∀ number, (after.call number = state.call number ∧
        ∀ output ∈ more, ¬ About number output) ∨
      number < after.issued ∧ contract.PlaceSound I (outputs ++ more) number
        (after.call number)) :
    contract.RemoteSound service initial I (outputs ++ more) after where
  kept := ⟨replayed, justified_append_iff.mpr ⟨sound.kept.explained, explained⟩⟩
  fresh := by
    intro number later
    obtain ⟨unused, unmentioned⟩ := sound.fresh number (Nat.le_trans issued later)
    rcases moved number with ⟨stays, apart⟩ | ⟨within, _⟩
    · constructor
      · rw [stays]
        exact unused
      · intro output occurs
        rcases List.mem_append.mp occurs with earlier | new
        · exact unmentioned output earlier
        · exact apart output new
    · exact absurd within (Nat.not_lt.mpr later)
  placed := by
    intro number
    rcases moved number with ⟨stays, apart⟩ | ⟨_, placed⟩
    · rw [stays]
      exact (sound.placed number).append apart
    · exact placed

/-- One call moves on. -/
theorem move (sound : contract.RemoteSound service initial I outputs state) (number : Nat)
    (place : Place Request Code Parcel) {after : RemoteState S Request Code Parcel}
    (used : state.call number ≠ .unused)
    (replayed : after.service = service.replay initial (outputs ++ more))
    (explained : Justified
      (fun before output => contract.Explains service initial (outputs ++ before) output) more)
    (issued : after.issued = state.issued)
    (moved : after.call = Function.update state.call number place)
    (own : ∀ output ∈ more, ∀ other, About other output → other = number)
    (placed : contract.PlaceSound I (outputs ++ more) number place) :
    contract.RemoteSound service initial I (outputs ++ more) after := by
  apply sound.extend replayed explained (Nat.le_of_eq issued.symm)
  intro other
  rw [moved]
  by_cases same : other = number
  · right
    subst same
    constructor
    · rw [issued]
      by_contra later
      exact used (sound.fresh other (Nat.not_lt.mp later)).1
    · rw [Function.update_self]
      exact placed
  · left
    constructor
    · exact Function.update_of_ne same _ _
    · exact fun output new about => same (own output new other about)

/-- A call is made. -/
theorem call (sound : contract.RemoteSound service initial I outputs state) (request : Request) :
    contract.RemoteSound service initial I (outputs ++ [.called state.issued request])
      { state.move state.issued
          (.sent request (I.transaction request).1 (I.transaction request).2) with
        issued := state.issued + 1 } := by
  obtain ⟨unused, unmentioned⟩ := sound.fresh state.issued le_rfl
  apply sound.extend
  · rw [Service.replay_snoc]
    exact sound.kept.replayed
  · rw [justified_singleton, List.append_nil]
    exact fun other occurs => unmentioned _ occurs rfl
  · exact Nat.le_succ _
  · intro number
    by_cases same : number = state.issued
    · right
      subst same
      constructor
      · exact Nat.lt_succ_self _
      · have placed : contract.PlaceSound I (outputs ++ [.called state.issued request])
            state.issued (.sent request (I.transaction request).1 (I.transaction request).2) := by
          constructor
          · exact List.mem_append_right _ List.mem_cons_self
          · constructor
            · rfl
            · constructor
              · intro other given occurs
                rcases List.mem_append.mp occurs with earlier | new
                · exact unmentioned _ earlier rfl
                · cases List.mem_singleton.mp new
              · intro other given occurs
                rcases List.mem_append.mp occurs with earlier | new
                · exact unmentioned _ earlier rfl
                · cases List.mem_singleton.mp new
        simpa only [RemoteState.move, Function.update_self] using placed
    · left
      constructor
      · exact Function.update_of_ne same _ _
      · intro output new about
        rw [List.mem_singleton.mp new] at about
        exact same about.symm

/-- A call fails: its transaction is refused, or its reply is lost. -/
theorem fail (sound : contract.RemoteSound service initial I outputs state) {request : Request}
    {status : Status} (used : state.call number ≠ .unused)
    (called : .called number request ∈ outputs)
    (waiting : ∀ other given, .returned number other given ∉ outputs)
    (failure : status ≠ noError) :
    contract.RemoteSound service initial I (outputs ++ [])
      (state.move number (.replied request status I.empty)) := by
  apply sound.move number (.replied request status I.empty) used
  · rw [List.append_nil]
    exact sound.kept.replayed
  · exact justified_nil
  · rfl
  · rfl
  · exact fun output new => absurd new List.not_mem_nil
  · rw [List.append_nil]
    exact ⟨called, waiting, Or.inl ⟨failure, rfl⟩⟩

/-- A method is called for a call. -/
theorem serve (met : contract.MetBy I)
    (sound : contract.RemoteSound service initial I outputs state) {request : Request}
    {code : Code} {data : Parcel} {env : Env} {asked : Request}
    {reply : Answer asked → Status × Parcel}
    (sent : state.call number = .sent request code data)
    (dispatched : I.dispatch env code data = .invoke asked reply) :
    contract.RemoteSound service initial I
      (outputs ++ [.served number asked (service.serve asked state.service).1])
      { state.move number (.replied request (reply (service.serve asked state.service).1).1
          (reply (service.serve asked state.service).1).2) with
        service := (service.serve asked state.service).2 } := by
  have placed := sound.placed number
  rw [sent] at placed
  obtain ⟨called, packed, unserved, waiting⟩ := placed
  obtain ⟨expected, invokes, replies⟩ := met.served env request
  rw [packed, dispatched] at invokes
  obtain ⟨rfl, rfl⟩ := Dispatch.invoke.inj invokes
  obtain ⟨succeeds, reads⟩ := replies (service.serve _ state.service).1
  apply sound.move number (.replied request _ _)
  · rw [sent]
    exact nofun
  · rw [Service.replay_snoc, ← sound.kept.replayed]
  · rw [justified_singleton, List.append_nil]
    constructor
    · rw [← sound.kept.replayed]
    · exact ⟨⟨request, env, called, rfl⟩, unserved⟩
  · rfl
  · rfl
  · intro output new other about
    rw [List.mem_singleton.mp new] at about
    exact about.symm
  · constructor
    · exact List.mem_append_left _ called
    · constructor
      · intro other given occurs
        rcases List.mem_append.mp occurs with earlier | new
        · exact waiting other given earlier
        · cases List.mem_singleton.mp new
      · right
        exact ⟨succeeds, env, _, List.mem_append_right _ List.mem_cons_self, reads⟩

/-- A call returns. -/
theorem returns (met : contract.MetBy I)
    (sound : contract.RemoteSound service initial I outputs state) {request : Request}
    {status : Status} {reply : Parcel} (env : Env)
    (replied : state.call number = .replied request status reply) :
    contract.RemoteSound service initial I
      (outputs ++ [.returned number request (I.result env request status reply)])
      (state.move number .done) := by
  have placed := sound.placed number
  rw [replied] at placed
  obtain ⟨called, waiting, answered⟩ := placed
  apply sound.move number .done
  · rw [replied]
    exact nofun
  · rw [Service.replay_snoc]
    exact sound.kept.replayed
  · rw [justified_singleton, List.append_nil]
    constructor
    · exact called
    · constructor
      · exact waiting
      · rcases answered with ⟨failure, rfl⟩ | ⟨rfl, asked, given, served, reads⟩
        · exact Or.inr ⟨status, failure, met.failed env request failure⟩
        · exact Or.inl ⟨asked, given, env, served, reads env⟩
  · rfl
  · rfl
  · intro output new other about
    rw [List.mem_singleton.mp new] at about
    exact about.symm
  · trivial

/-- The service changes without a call of a proxy. -/
theorem other (sound : contract.RemoteSound service initial I outputs state) {after : S}
    {output : RemoteOutput Answer Code Parcel Inner}
    (replayed : after = service.replay initial (outputs ++ [output]))
    (explained : contract.Explains service initial outputs output)
    (apart : ∀ number, ¬ About number output) :
    contract.RemoteSound service initial I (outputs ++ [output])
      { state with service := after } := by
  apply sound.extend replayed
  · rw [justified_singleton, List.append_nil]
    exact explained
  · exact le_rfl
  · intro number
    left
    constructor
    · rfl
    · intro found new
      rw [List.mem_singleton.mp new]
      exact apart number

theorem step (met : contract.MetBy I)
    (sound : contract.RemoteSound service initial I outputs state)
    {event : RemoteEvent Request Code Parcel Env Inner}
    {after : RemoteState S Request Code Parcel}
    (stepped : state.step I service event = some (after, more)) :
    contract.RemoteSound service initial I (outputs ++ more) after := by
  cases event with
  | call request =>
      obtain ⟨rfl, rfl⟩ := Prod.mk.inj (Option.some.inj stepped)
      exact sound.call request
  | refuse number status =>
      cases place : state.call number with
      | sent request code data =>
          by_cases failure : status = noError
          · simp [RemoteState.step, place, failure] at stepped
          · simp only [RemoteState.step, place, if_neg failure] at stepped
            obtain ⟨rfl, rfl⟩ := Prod.mk.inj (Option.some.inj stepped)
            have placed := sound.placed number
            rw [place] at placed
            apply sound.fail _ placed.1 placed.2.2.2 failure
            rw [place]
            exact nofun
      | _ => simp [RemoteState.step, place] at stepped
  | serve number env =>
      cases place : state.call number with
      | sent request code data =>
          cases dispatched : I.dispatch env code data with
          | invoke asked reply =>
              simp only [RemoteState.step, place, dispatched] at stepped
              obtain ⟨rfl, rfl⟩ := Prod.mk.inj (Option.some.inj stepped)
              exact sound.serve met place dispatched
          | reject status reply =>
              have placed := sound.placed number
              rw [place] at placed
              obtain ⟨reply, invokes, -⟩ := met.served env request
              rw [placed.2.1, dispatched] at invokes
              cases invokes
      | _ => simp [RemoteState.step, place] at stepped
  | lose number status =>
      cases place : state.call number with
      | replied request before reply =>
          by_cases failure : status = noError
          · simp [RemoteState.step, place, failure] at stepped
          · simp only [RemoteState.step, place, if_neg failure] at stepped
            obtain ⟨rfl, rfl⟩ := Prod.mk.inj (Option.some.inj stepped)
            have placed := sound.placed number
            rw [place] at placed
            apply sound.fail _ placed.1 placed.2.1 failure
            rw [place]
            exact nofun
      | _ => simp [RemoteState.step, place] at stepped
  | returns number env =>
      cases place : state.call number with
      | replied request status reply =>
          simp only [RemoteState.step, place] at stepped
          obtain ⟨rfl, rfl⟩ := Prod.mk.inj (Option.some.inj stepped)
          exact sound.returns met env place
      | _ => simp [RemoteState.step, place] at stepped
  | raw code data env =>
      cases dispatched : I.dispatch env code data with
      | invoke asked reply =>
          simp only [RemoteState.step, dispatched] at stepped
          obtain ⟨rfl, rfl⟩ := Prod.mk.inj (Option.some.inj stepped)
          apply sound.other
          · rw [Service.replay_snoc, ← sound.kept.replayed]
          · constructor
            · rw [← sound.kept.replayed]
            · exact met.admitted dispatched
          · exact fun number about => about
      | reject status reply =>
          simp only [RemoteState.step, dispatched] at stepped
          obtain ⟨rfl, rfl⟩ := Prod.mk.inj (Option.some.inj stepped)
          rw [List.append_nil]
          exact sound
  | inner change =>
      obtain ⟨rfl, rfl⟩ := Prod.mk.inj (Option.some.inj stepped)
      apply sound.other
      · rw [Service.replay_snoc, ← sound.kept.replayed]
      · trivial
      · exact fun number about => about

end RemoteSound

/-- A contract that both ends of an interface meet is kept in every run. -/
theorem kept_of_run (met : contract.MetBy I)
    {history : History (RemoteEvent Request Code Parcel Env Inner)
      (RemoteOutput Answer Code Parcel Inner)}
    (run : (remoteSystem I service initial).Run System.free history state) :
    contract.Kept service initial history.outputs state := by
  apply RemoteSound.kept (I := I)
  refine run.invariant (fun history state =>
    contract.RemoteSound service initial I history.outputs state) ?_ ?_
  · rintro state rfl
    exact ⟨⟨rfl, justified_nil⟩,
      fun number later => ⟨rfl, fun output occurs => absurd occurs List.not_mem_nil⟩,
      fun number => trivial⟩
  · intro history state event after out sound _ stepped
    rw [History.outputs_snoc]
    exact sound.step met stepped

end Contract

end X3Hal.Remote
