import X3Hal.Bwc.Profile

/-!
# The bandwidth service

`BWCService::setProfile` holds `mLock` while it changes a profile.  The threads of the service
are one step for the call, one for the lock, and then those of `BWC::Profile_Change`; the lock is
released by the return.
-/

namespace X3Hal.Bwc

open X3Hal.Transition

structure ServiceState where
  bwc : BwcState
  /-- the thread that has `mLock` -/
  lock : Option Nat
  /-- the calls that have not read the properties yet -/
  entered : Nat → Option (ProfileType × Bool)

inductive ServiceEvent
  /-- `setProfile`, with its `state` -/
  | setProfile (thread : Nat) (profile : ProfileType) (state : BitVec 32)
  | lock (thread : Nat)
  | getInfo (thread : Nat) (succeeded : Bool)
  | setInfo (thread : Nat) (succeeded : Bool)
  | returns (thread : Nat)
  deriving DecidableEq

inductive ServiceOutput
  | bwc (output : BwcOutput)
  /-- what `setProfile` returns -/
  | answered (thread : Nat) (status : BitVec 32)
  deriving DecidableEq

namespace ServiceState

/-- A step of `Profile_Change`, in the thread that has the lock. -/
def locked (thread : Nat) (event : BwcEvent) (state : ServiceState) :
    Option (ServiceState × List ServiceOutput) :=
  if state.lock = some thread then
    (state.bwc.step event).map fun result =>
      ({ state with bwc := result.1 }, result.2.map ServiceOutput.bwc)
  else none

def step (state : ServiceState) : ServiceEvent → Option (ServiceState × List ServiceOutput)
  | .setProfile thread profile value =>
      match state.entered thread, state.bwc.caller thread with
      | none, .idle =>
          some ({ state with
            entered := Function.update state.entered thread (some (profile, value ≠ 0)) }, [])
      | _, _ => none
  | .lock thread =>
      match state.entered thread, state.lock with
      | some _, none => some ({ state with lock := some thread }, [])
      | _, _ => none
  | .getInfo thread succeeded =>
      match state.entered thread with
      | some (profile, on) =>
          ({ state with entered := Function.update state.entered thread none }).locked thread
            (.getInfo thread profile on succeeded)
      | none => none
  | .setInfo thread succeeded => state.locked thread (.setInfo thread succeeded)
  | .returns thread =>
      -- `NO_ERROR`, whatever the ioctls have returned
      (state.locked thread (.completes thread)).map fun result =>
        ({ result.1 with lock := none }, result.2 ++ [.answered thread 0])

end ServiceState

/-- The service, and a driver with some initial value. -/
def serviceSystem (initial : Profiles) : System ServiceState ServiceEvent ServiceOutput where
  Init := fun state => state = ⟨⟨initial, fun _ => .idle⟩, none, fun _ => none⟩
  step := ServiceState.step

/-! ## What the service is for -/

/-- What the changes of the profiles have put out. -/
def changes (outputs : List ServiceOutput) : List BwcOutput :=
  outputs.filterMap fun output =>
    match output with
    | .bwc output => some output
    | .answered _ _ => none

/-- Whenever the lock is free the set is what the completed changes made it, and no change touches
the bit of another profile. -/
structure ServiceKept (initial : Profiles) (outputs : List ServiceOutput) (state : ServiceState) :
    Prop where
  settled : state.lock = none → ∀ profile, state.bwc.concurrentProfile.has profile =
    (lastChange profile (changes outputs)).getD (initial.has profile)
  own : ∀ profile before after, .bwc (.written profile before after) ∈ outputs →
    ∀ other, other ≠ profile → after.has other = before.has other
  answers : ∀ thread status, .answered thread status ∈ outputs → status = 0

/-- A read that fails is of a set without other profiles. -/
def ReadsFaithful : System.Guard ServiceState ServiceEvent ServiceOutput
  | _, state, .getInfo thread false => ∀ call ∈ state.entered thread,
      ∀ other, other ≠ call.1 → state.bwc.concurrentProfile.has other = false
  | _, _, .getInfo _ true | _, _, .setProfile _ _ _ | _, _, .lock _ | _, _, .setInfo _ _
  | _, _, .returns _ => True

instance (history : History ServiceEvent ServiceOutput) (state : ServiceState)
    (event : ServiceEvent) : Decidable (ReadsFaithful history state event) :=
  match event with
  | .getInfo thread false =>
      inferInstanceAs (Decidable (∀ call ∈ state.entered thread, ∀ _, _ → _))
  | .getInfo _ true | .setProfile _ _ _ | .lock _ | .setInfo _ _ | .returns _ =>
      inferInstanceAs (Decidable True)

/-! ## The invariant -/

/-- What a thread in `Profile_Change` knows of the stored set. -/
def Knows (stored : Profiles) : Caller → Prop
  | .idle => True
  | .got profile _ properties => ∀ other, other ≠ profile → properties.has other = stored.has other
  | .set profile on succeeded => succeeded = true → stored.has profile = on

/-- The changes are a run of `Profile_Change` in which no change disturbs another. -/
structure ServiceSound (initial : Profiles) (outputs : List ServiceOutput) (state : ServiceState) :
    Prop where
  run : ∃ history : History BwcEvent BwcOutput,
    (bwcSystem initial).Run CallsUndisturbed history state.bwc ∧ history.outputs = changes outputs
  alone : ∀ thread, state.bwc.caller thread ≠ .idle → state.lock = some thread
  waiting : ∀ thread, state.entered thread ≠ none → state.bwc.caller thread = .idle
  knows : ∀ thread, Knows state.bwc.concurrentProfile (state.bwc.caller thread)
  answers : ∀ thread status, .answered thread status ∈ outputs → status = 0

@[simp]
theorem changes_append (outputs more : List ServiceOutput) :
    changes (outputs ++ more) = changes outputs ++ changes more :=
  List.filterMap_append

@[simp]
theorem changes_bwc (outputs : List BwcOutput) :
    changes (outputs.map ServiceOutput.bwc) = outputs := by
  rw [changes, List.filterMap_map]
  exact List.filterMap_some

variable {initial : Profiles} {outputs out : List ServiceOutput} {state after : ServiceState}

namespace ServiceSound

/-- The thread that has the lock takes a step of `Profile_Change`. -/
theorem locked (sound : ServiceSound initial outputs state) {thread : Nat}
    (holds : state.lock = some thread) (event : BwcEvent) {next : BwcState}
    {more : List BwcOutput} (stepped : state.bwc.step event = some (next, more))
    (apart : ∀ history, CallsUndisturbed history state.bwc event)
    (others : ∀ other, other ≠ thread → next.caller other = state.bwc.caller other)
    (knows : Knows next.concurrentProfile (next.caller thread))
    (ready : state.entered thread = none) :
    ServiceSound initial (outputs ++ more.map ServiceOutput.bwc) { state with bwc := next } where
  run := by
    obtain ⟨history, run, same⟩ := sound.run
    refine ⟨history ++ [(event, more)], run.next (apart history) stepped, ?_⟩
    rw [History.outputs_snoc, changes_append, changes_bwc, same]
  alone := by
    intro other busy
    by_cases same : other = thread
    · exact same ▸ holds
    · apply sound.alone
      rw [← others other same]
      exact busy
  waiting := by
    intro other called
    have different : other ≠ thread := by
      rintro rfl
      exact called ready
    rw [others other different]
    exact sound.waiting other called
  knows := by
    intro other
    by_cases same : other = thread
    · exact same ▸ knows
    · have idle : next.caller other = .idle := by
        rw [others other same]
        by_contra busy
        exact same (Option.some.inj ((sound.alone other busy).symm.trans holds))
      rw [idle]
      trivial
  answers := by
    intro other status occurs
    rcases List.mem_append.mp occurs with earlier | new
    · exact sound.answers other status earlier
    · obtain ⟨output, -, wrong⟩ := List.mem_map.mp new
      cases wrong

theorem setProfile (sound : ServiceSound initial outputs state) {thread : Nat}
    (idle : state.bwc.caller thread = .idle) (call : Option (ProfileType × Bool)) :
    ServiceSound initial (outputs ++ [])
      { state with entered := Function.update state.entered thread call } := by
  rw [List.append_nil]
  constructor
  · exact sound.run
  · exact sound.alone
  · intro other called
    by_cases same : other = thread
    · exact same ▸ idle
    · apply sound.waiting
      rw [← Function.update_of_ne same call state.entered]
      exact called
  · exact sound.knows
  · exact sound.answers

theorem lock (sound : ServiceSound initial outputs state) {thread : Nat}
    (unlocked : state.lock = none) :
    ServiceSound initial (outputs ++ []) { state with lock := some thread } := by
  rw [List.append_nil]
  constructor
  · exact sound.run
  · intro other busy
    have holds := sound.alone other busy
    rw [unlocked] at holds
    cases holds
  · exact sound.waiting
  · exact sound.knows
  · exact sound.answers

theorem getInfo (sound : ServiceSound initial outputs state) {thread : Nat} {succeeded : Bool}
    {profile : ProfileType} {on : Bool} (called : state.entered thread = some (profile, on))
    (guarded : succeeded = false →
      ∀ other, other ≠ profile → state.bwc.concurrentProfile.has other = false)
    (stepped : ({ state with entered := Function.update state.entered thread none }).locked thread
      (.getInfo thread profile on succeeded) = some (after, out)) :
    ServiceSound initial (outputs ++ out) after := by
  have idle : state.bwc.caller thread = .idle := by
    apply sound.waiting
    rw [called]
    nofun
  by_cases holds : state.lock = some thread
  · simp only [ServiceState.locked, if_pos holds, BwcState.step, idle, Option.map_some,
      List.map_nil] at stepped
    obtain ⟨rfl, rfl⟩ := Prod.mk.inj (Option.some.inj stepped)
    have cleared := sound.setProfile idle none
    rw [List.append_nil] at cleared
    have reads : state.bwc.step (.getInfo thread profile on succeeded) =
        some (state.bwc.enter thread
          (.got profile on (if succeeded then state.bwc.concurrentProfile else 0)), []) := by
      simp only [BwcState.step, idle]
    apply cleared.locked holds _ reads
    · exact fun history => trivial
    · exact fun other different => enter_of_ne different _ _
    · rw [enter_self]
      intro other different
      cases succeeded with
      | true => rfl
      | false =>
          rw [show (state.bwc.enter thread _).concurrentProfile = state.bwc.concurrentProfile from
            rfl, guarded rfl other different]
          simp [Profiles.has]
    · exact Function.update_self ..
  · simp [ServiceState.locked, holds] at stepped

theorem ready (sound : ServiceSound initial outputs state) {thread : Nat}
    (busy : state.bwc.caller thread ≠ .idle) : state.entered thread = none := by
  by_contra called
  exact busy (sound.waiting thread called)

theorem setInfo (sound : ServiceSound initial outputs state) {thread : Nat} {succeeded : Bool}
    (stepped : state.locked thread (.setInfo thread succeeded) = some (after, out)) :
    ServiceSound initial (outputs ++ out) after := by
  by_cases holds : state.lock = some thread
  · cases place : state.bwc.caller thread with
    | got profile on properties =>
        have known := sound.knows thread
        rw [place] at known
        have busy : state.bwc.caller thread ≠ .idle := by simp [place]
        have apart :
            ∀ history, CallsUndisturbed history state.bwc (.setInfo thread succeeded) := by
          intro history
          rw [CallsUndisturbed, place]
          exact fun _ => known
        cases succeeded with
        | true =>
            simp only [ServiceState.locked, if_pos holds, BwcState.step, place, if_true,
              Option.map_some] at stepped
            obtain ⟨rfl, rfl⟩ := Prod.mk.inj (Option.some.inj stepped)
            apply sound.locked holds (.setInfo thread true) _ apart
            · exact fun other different => enter_of_ne different _ _
            · show Knows _ ((state.bwc.enter thread (.set profile on true)).caller thread)
              rw [enter_self]
              intro written
              exact (has_profileChange properties profile profile on).trans (if_pos rfl)
            · exact sound.ready busy
            · simp only [BwcState.step, place, if_true]
        | false =>
            simp only [ServiceState.locked, if_pos holds, BwcState.step, place,
              Bool.false_eq_true, if_false, Option.map_some] at stepped
            obtain ⟨rfl, rfl⟩ := Prod.mk.inj (Option.some.inj stepped)
            apply sound.locked holds (.setInfo thread false) _ apart
            · exact fun other different => enter_of_ne different _ _
            · rw [enter_self]
              exact fun written => absurd written Bool.false_ne_true
            · exact sound.ready busy
            · simp only [BwcState.step, place, Bool.false_eq_true, if_false]
    | idle => simp [ServiceState.locked, holds, BwcState.step, place] at stepped
    | set _ _ _ => simp [ServiceState.locked, holds, BwcState.step, place] at stepped
  · simp [ServiceState.locked, holds] at stepped

/-- A return leaves the lock with nobody in `Profile_Change`. -/
theorem returns (sound : ServiceSound initial outputs state) {thread : Nat}
    (stepped : state.step (.returns thread) = some (after, out)) :
    ServiceSound initial (outputs ++ out) after := by
  by_cases holds : state.lock = some thread
  · cases place : state.bwc.caller thread with
    | set profile on succeeded =>
        have known := sound.knows thread
        rw [place] at known
        have busy : state.bwc.caller thread ≠ .idle := by
          rw [place]
          nofun
        simp only [ServiceState.step, ServiceState.locked, if_pos holds, BwcState.step, place,
          Option.map_some] at stepped
        obtain ⟨rfl, rfl⟩ := Prod.mk.inj (Option.some.inj stepped)
        have ends : state.bwc.step (.completes thread) = some (state.bwc.enter thread .idle,
            if succeeded then [.changed profile on] else []) := by
          simp only [BwcState.step, place]
        have apart : ∀ history, CallsUndisturbed history state.bwc (.completes thread) := by
          intro history
          rw [CallsUndisturbed, place]
          exact known
        have idle : Knows (state.bwc.enter thread .idle).concurrentProfile
            ((state.bwc.enter thread .idle).caller thread) := by
          rw [enter_self]
          trivial
        have completed := sound.locked holds _ ends apart
          (fun other different => enter_of_ne different _ _) idle (sound.ready busy)
        rw [← List.append_assoc]
        constructor
        · obtain ⟨history, run, same⟩ := completed.run
          refine ⟨history, run, ?_⟩
          rw [same]
          exact ((changes_append _ [.answered thread 0]).trans (List.append_nil _)).symm
        · intro other stillBusy
          have holder := completed.alone other stillBusy
          obtain rfl := Option.some.inj (holds.symm.trans holder)
          exact absurd (enter_self state.bwc thread .idle) stillBusy
        · exact completed.waiting
        · exact completed.knows
        · intro other status occurs
          rcases List.mem_append.mp occurs with earlier | new
          · exact completed.answers other status earlier
          · cases List.mem_singleton.mp new
            rfl
    | idle => simp [ServiceState.step, ServiceState.locked, holds, BwcState.step, place] at stepped
    | got _ _ _ =>
        simp [ServiceState.step, ServiceState.locked, holds, BwcState.step, place] at stepped
  · simp [ServiceState.step, ServiceState.locked, holds] at stepped

theorem step (sound : ServiceSound initial outputs state)
    {history : History ServiceEvent ServiceOutput} {event : ServiceEvent}
    (guarded : ReadsFaithful history state event)
    (stepped : state.step event = some (after, out)) :
    ServiceSound initial (outputs ++ out) after := by
  cases event with
  | setProfile thread profile value =>
      cases call : state.entered thread with
      | none =>
          cases place : state.bwc.caller thread with
          | idle =>
              simp only [ServiceState.step, call, place] at stepped
              obtain ⟨rfl, rfl⟩ := Prod.mk.inj (Option.some.inj stepped)
              exact sound.setProfile place _
          | got _ _ _ => simp [ServiceState.step, call, place] at stepped
          | set _ _ _ => simp [ServiceState.step, call, place] at stepped
      | some _ => simp [ServiceState.step, call] at stepped
  | lock thread =>
      cases call : state.entered thread with
      | none => simp [ServiceState.step, call] at stepped
      | some _ =>
          cases holder : state.lock with
          | none =>
              simp only [ServiceState.step, call, holder] at stepped
              obtain ⟨rfl, rfl⟩ := Prod.mk.inj (Option.some.inj stepped)
              exact sound.lock holder
          | some _ => simp [ServiceState.step, call, holder] at stepped
  | getInfo thread succeeded =>
      cases call : state.entered thread with
      | none => simp [ServiceState.step, call] at stepped
      | some arguments =>
          obtain ⟨profile, on⟩ := arguments
          simp only [ServiceState.step, call] at stepped
          apply sound.getInfo call _ stepped
          rintro rfl other different
          exact guarded (profile, on) call other different
  | setInfo thread succeeded => exact sound.setInfo stepped
  | returns thread => exact sound.returns stepped

theorem ofRun {history : History ServiceEvent ServiceOutput}
    (run : (serviceSystem initial).Run ReadsFaithful history state) :
    ServiceSound initial history.outputs state := by
  induction run with
  | start starts =>
      rw [starts]
      constructor
      · exact ⟨[], .start rfl, rfl⟩
      · exact fun thread busy => absurd rfl busy
      · exact fun thread called => rfl
      · exact fun thread => trivial
      · exact fun thread status occurs => absurd occurs List.not_mem_nil
  | next running guarded stepped ih =>
      rw [History.outputs_snoc]
      exact ih.step guarded stepped

end ServiceSound

/-- However the calls of the threads overlap: while no thread has the lock, the set is what the
completed changes made it, one after another. -/
theorem service_kept {history : History ServiceEvent ServiceOutput}
    (run : (serviceSystem initial).Run ReadsFaithful history state) :
    ServiceKept initial history.outputs state := by
  have sound := ServiceSound.ofRun run
  obtain ⟨bwcHistory, bwcRun, same⟩ := sound.run
  have bwc := BwcSound.run bwcRun
  rw [same] at bwc
  constructor
  · intro unlocked profile
    apply bwc.settled
    intro thread on place
    have holds : state.lock = some thread := by
      apply sound.alone
      rw [place]
      nofun
    rw [unlocked] at holds
    cases holds
  · intro profile before later occurs
    apply bwc.own profile before later
    exact List.mem_filterMap.mpr ⟨_, occurs, rfl⟩
  · exact sound.answers

/-- A call waits for the lock through the change of another one, whose set fails. -/
theorem service_kept_two : ∃ history state,
    (serviceSystem 0).Run ReadsFaithful history state ∧ ServiceKept 0 history.outputs state ∧
    history.outputs = [.bwc (.written .videoRecord 0 512), .bwc (.changed .videoRecord true),
      .answered 0 0, .answered 1 0, .bwc (.written .cameraPreview 512 516),
      .bwc (.changed .cameraPreview true), .answered 0 0] := by
  let calls : List ServiceEvent := [.setProfile 0 .videoRecord 1, .lock 0, .getInfo 0 false,
    .setProfile 1 .videoRecord 0, .setInfo 0 true, .returns 0, .lock 1,
    .setProfile 0 .cameraPreview 2, .getInfo 1 true, .setInfo 1 false, .returns 1, .lock 0,
    .getInfo 0 true, .setInfo 0 true, .returns 0]
  have executed : ((serviceSystem 0).exec ⟨⟨0, fun _ => .idle⟩, none, fun _ => none⟩ calls).map
      (fun final => final.1.outputs) =
        some [.bwc (.written .videoRecord 0 512), .bwc (.changed .videoRecord true),
          .answered 0 0, .answered 1 0, .bwc (.written .cameraPreview 512 516),
          .bwc (.changed .cameraPreview true), .answered 0 0] := by
    decide +kernel
  obtain ⟨history, state, run, outputs⟩ := System.exists_run_of_exec (serviceSystem 0)
    ReadsFaithful calls _ rfl (by decide +kernel) executed
  exact ⟨history, state, run, service_kept run, outputs⟩

end X3Hal.Bwc
