import X3Hal.Transition.Core
import Mathlib.Logic.Function.Basic
import Mathlib.Tactic.Common
import Mathlib.Data.Fintype.Sets
import Mathlib.Data.List.DropRight

/-!
# The set of bandwidth profiles

`BWC::Profile_Change` reads the set of concurrent profiles from the driver, changes the bit of
its profile and writes the set back.  Between its two ioctls other callers do the same.

A call is one step for each ioctl and one for its return.
-/

namespace X3Hal.Bwc

open X3Hal.Transition

/-- `BWC_PROFILE_TYPE` -/
inductive ProfileType
  | none | videoNormal | cameraPreview | cameraZsd | cameraCapture | cameraIcfp
  | videoSwdecPlayback | videoPlayback | videoTelephony | videoRecord | videoRecordCamera
  | videoRecordSlowmotion | videoSnapshot | videoLivePhoto | videoWifiDisplay | forceMmdvfs
  deriving DecidableEq

namespace ProfileType

/-- The value of the enumerator. -/
def number : ProfileType → Nat
  | none => 0
  | videoNormal => 1
  | cameraPreview => 2
  | cameraZsd => 3
  | cameraCapture => 4
  | cameraIcfp => 5
  | videoSwdecPlayback => 6
  | videoPlayback => 7
  | videoTelephony => 8
  | videoRecord => 9
  | videoRecordCamera => 10
  | videoRecordSlowmotion => 11
  | videoSnapshot => 12
  | videoLivePhoto => 13
  | videoWifiDisplay => 14
  | forceMmdvfs => 15

instance : Fintype ProfileType :=
  Fintype.ofList
    [none, videoNormal, cameraPreview, cameraZsd, cameraCapture, cameraIcfp, videoSwdecPlayback,
      videoPlayback, videoTelephony, videoRecord, videoRecordCamera, videoRecordSlowmotion,
      videoSnapshot, videoLivePhoto, videoWifiDisplay, forceMmdvfs]
    (by intro profile; cases profile <;> decide)

theorem number_injective : Function.Injective number := by
  decide

theorem number_lt (profile : ProfileType) : profile.number < 32 := by
  cases profile <;> decide

end ProfileType

/-- `concurrent_profile` -/
abbrev Profiles := BitVec 32

/-- Whether the bit of a profile is set. -/
def Profiles.has (profiles : Profiles) (profile : ProfileType) : Bool :=
  profiles.getLsbD profile.number

/-! ## The functions of `BWCHelper` -/

def profileAdd (properties : Profiles) (profile : ProfileType) : Profiles :=
  properties ||| (1#32 <<< profile.number)

def profileRemove (properties : Profiles) (profile : ProfileType) : Profiles :=
  properties &&& ~~~(1#32 <<< profile.number)

/-- What `Profile_Change` writes back. -/
def profileChange (properties : Profiles) (profile : ProfileType) (on : Bool) : Profiles :=
  if on then profileAdd properties profile else profileRemove properties profile

theorem has_bit (profile other : ProfileType) :
    Profiles.has (1#32 <<< profile.number) other = decide (other = profile) := by
  have small := other.number_lt
  by_cases same : other = profile
  · subst same
    simp [Profiles.has, small]
  · have apart : other.number ≠ profile.number := fun equal =>
      same (ProfileType.number_injective equal)
    rw [Profiles.has, BitVec.getLsbD_shiftLeft, decide_eq_false same]
    rcases Nat.lt_or_gt_of_ne apart with below | above
    · simp [below]
    · have later : other.number - profile.number ≠ 0 := by omega
      simp [BitVec.getLsbD_one, later]

/-- A change sets the bit of its profile and no other. -/
theorem has_profileChange (properties : Profiles) (profile other : ProfileType) (on : Bool) :
    Profiles.has (profileChange properties profile on) other =
      if other = profile then on else Profiles.has properties other := by
  have bit := has_bit profile other
  have small := other.number_lt
  simp only [Profiles.has] at bit ⊢
  cases on with
  | false =>
      simp only [profileChange, profileRemove, Bool.false_eq_true, if_false, BitVec.getLsbD_and,
        BitVec.getLsbD_not, bit]
      by_cases same : other = profile <;> simp [same, small]
  | true =>
      simp only [profileChange, profileAdd, if_true, BitVec.getLsbD_or, bit]
      by_cases same : other = profile <;> simp [same]

/-! ## The calls -/

/-- Where a caller is in its `Profile_Change`. -/
inductive Caller
  | idle
  /-- It has what the first ioctl left in `mm_info`. -/
  | got (profile : ProfileType) (on : Bool) (properties : Profiles)
  /-- The second ioctl has returned. -/
  | set (profile : ProfileType) (on succeeded : Bool)
  deriving DecidableEq

structure BwcState where
  /-- the value that the driver stores -/
  concurrentProfile : Profiles
  caller : Nat → Caller

inductive BwcEvent
  | getInfo (caller : Nat) (profile : ProfileType) (on succeeded : Bool)
  | setInfo (caller : Nat) (succeeded : Bool)
  | completes (caller : Nat)
  deriving DecidableEq

/-- The caller that takes the step. -/
def BwcEvent.caller : BwcEvent → Nat
  | .getInfo caller _ _ _ | .setInfo caller _ | .completes caller => caller

inductive BwcOutput
  /-- The driver's value was written. -/
  | written (profile : ProfileType) (before after : Profiles)
  /-- A change has ended whose set succeeded. -/
  | changed (profile : ProfileType) (on : Bool)
  deriving DecidableEq

def BwcState.enter (state : BwcState) (caller : Nat) (place : Caller) : BwcState :=
  { state with caller := Function.update state.caller caller place }

/-- `Profile_Change`.  Nobody looks at what `get_bwc_mm_property` returns: when its ioctl fails
the properties are the zeros they were initialised with. -/
def BwcState.step (state : BwcState) : BwcEvent → Option (BwcState × List BwcOutput)
  | .getInfo caller profile on succeeded =>
      match state.caller caller with
      | .idle =>
          let properties := if succeeded then state.concurrentProfile else 0
          some (state.enter caller (.got profile on properties), [])
      | .got _ _ _ | .set _ _ _ => none
  | .setInfo caller succeeded =>
      match state.caller caller with
      | .got profile on properties =>
          let entered := state.enter caller (.set profile on succeeded)
          if succeeded then
            let profiles := profileChange properties profile on
            some ({ entered with concurrentProfile := profiles },
              [.written profile state.concurrentProfile profiles])
          else some (entered, [])
      | .idle | .set _ _ _ => none
  | .completes caller =>
      match state.caller caller with
      | .set profile on succeeded =>
          some (state.enter caller .idle, if succeeded then [.changed profile on] else [])
      | .idle | .got _ _ _ => none

/-- The callers and a driver with some initial value. -/
def bwcSystem (initial : Profiles) : System BwcState BwcEvent BwcOutput where
  Init := fun state => state = ⟨initial, fun _ => .idle⟩
  step := BwcState.step

/-! ## What the callers are promised -/

/-- The last completed change of a profile. -/
def lastChange (profile : ProfileType) (outputs : List BwcOutput) : Option Bool :=
  (outputs.filterMap fun output =>
    match output with
    | .changed other on => if other = profile then some on else none
    | .written _ _ _ => none).getLast?

/-- When all calls have ended the set is what the completed changes made it, and no change
touched the bit of another profile. -/
structure ProfilesKept (initial : Profiles) (history : History BwcEvent BwcOutput)
    (state : BwcState) : Prop where
  settled : (∀ caller, state.caller caller = .idle) → ∀ profile,
    state.concurrentProfile.has profile =
      (lastChange profile history.outputs).getD (initial.has profile)
  own : ∀ profile before after, .written profile before after ∈ history.outputs →
    ∀ other, other ≠ profile → after.has other = before.has other

/-- What happened since the last step of a caller. -/
def sinceStepOf (caller : Nat) (history : History BwcEvent BwcOutput) :
    History BwcEvent BwcOutput :=
  history.rtakeWhile fun step => decide (step.1.caller ≠ caller)

/-- No other profile is written. -/
def BwcOutput.WritesOnly (profile : ProfileType) : BwcOutput → Prop
  | .written other _ _ => other = profile
  | .changed _ _ => True

/-- The profile is not switched the other way. -/
def BwcOutput.WritesAs (profile : ProfileType) (on : Bool) : BwcOutput → Prop
  | .written other _ after => other = profile → after.has profile = on
  | .changed _ _ => True

/-- A call that is about to set: since its get no other profile was written. -/
def SetsApart (since : List BwcOutput) : Caller → Prop
  | .got profile _ _ => ∀ output ∈ since, output.WritesOnly profile
  | .idle | .set _ _ _ => True

/-- A call whose set succeeded is about to return: since its set its profile was not switched the
other way. -/
def ReturnsApart (since : List BwcOutput) : Caller → Prop
  | .set profile on true => ∀ output ∈ since, output.WritesAs profile on
  | .set _ _ false | .idle | .got _ _ _ => True

/-- Every get succeeds, no other profile is set between the get and the set of a call that
succeeds, and its own profile is not set the other way between that and its return. -/
def ChangesApart : System.Guard BwcState BwcEvent BwcOutput
  | _, _, .getInfo _ _ _ succeeded => succeeded = true
  | history, state, .setInfo caller succeeded => succeeded = true →
      SetsApart (sinceStepOf caller history).outputs (state.caller caller)
  | history, state, .completes caller =>
      ReturnsApart (sinceStepOf caller history).outputs (state.caller caller)

instance (profile : ProfileType) (output : BwcOutput) : Decidable (output.WritesOnly profile) :=
  match output with
  | .written _ _ _ => inferInstanceAs (Decidable (_ = _))
  | .changed _ _ => inferInstanceAs (Decidable True)

instance (profile : ProfileType) (on : Bool) (output : BwcOutput) :
    Decidable (output.WritesAs profile on) :=
  match output with
  | .written _ _ _ => inferInstanceAs (Decidable (_ → _))
  | .changed _ _ => inferInstanceAs (Decidable True)

instance (since : List BwcOutput) (place : Caller) : Decidable (SetsApart since place) :=
  match place with
  | .got _ _ _ => inferInstanceAs (Decidable (∀ output ∈ since, _))
  | .idle | .set _ _ _ => inferInstanceAs (Decidable True)

instance (since : List BwcOutput) (place : Caller) : Decidable (ReturnsApart since place) :=
  match place with
  | .set _ _ true => inferInstanceAs (Decidable (∀ output ∈ since, _))
  | .set _ _ false | .idle | .got _ _ _ => inferInstanceAs (Decidable True)

instance (history : History BwcEvent BwcOutput) (state : BwcState) (event : BwcEvent) :
    Decidable (ChangesApart history state event) :=
  match event with
  | .getInfo _ _ _ _ => inferInstanceAs (Decidable (_ = _))
  | .setInfo _ _ => inferInstanceAs (Decidable (_ → _))
  | .completes _ => inferInstanceAs (Decidable (ReturnsApart _ _))

/-! ## The invariant -/

/-- A set that succeeds finds the bits of the other profiles as they were read. -/
def SetsOwn (stored : Profiles) (succeeded : Bool) : Caller → Prop
  | .got profile _ properties => succeeded = true →
      ∀ other, other ≠ profile → properties.has other = stored.has other
  | .idle | .set _ _ _ => True

/-- A change that completes finds the bit of its profile as it was set. -/
def CompletesAsSet (stored : Profiles) : Caller → Prop
  | .set profile on succeeded => succeeded = true → stored.has profile = on
  | .idle | .got _ _ _ => True

/-- Every set and every return finds in the driver what its call counts on. -/
def CallsUndisturbed : System.Guard BwcState BwcEvent BwcOutput
  | _, _, .getInfo _ _ _ _ => True
  | _, state, .setInfo caller succeeded =>
      SetsOwn state.concurrentProfile succeeded (state.caller caller)
  | _, state, .completes caller => CompletesAsSet state.concurrentProfile (state.caller caller)

/-- What a call has read of the other profiles holds until one of them is written, and what it
has set holds until its profile is switched the other way. -/
structure CallsTracked (history : History BwcEvent BwcOutput) (state : BwcState) : Prop where
  got : ∀ caller profile on properties, state.caller caller = .got profile on properties →
    (∀ output ∈ (sinceStepOf caller history).outputs, output.WritesOnly profile) →
    ∀ other, other ≠ profile → properties.has other = state.concurrentProfile.has other
  set : ∀ caller profile on, state.caller caller = .set profile on true →
    (∀ output ∈ (sinceStepOf caller history).outputs, output.WritesAs profile on) →
    state.concurrentProfile.has profile = on

/-- A profile is settled as soon as none of its changes is between its set and its return. -/
structure BwcSound (initial : Profiles) (outputs : List BwcOutput) (state : BwcState) :
    Prop where
  settled : ∀ profile, (∀ caller on, state.caller caller ≠ .set profile on true) →
    state.concurrentProfile.has profile = (lastChange profile outputs).getD (initial.has profile)
  own : ∀ profile before after, .written profile before after ∈ outputs →
    ∀ other, other ≠ profile → after.has other = before.has other

@[simp]
theorem lastChange_written (profile other : ProfileType) (before after : Profiles)
    (outputs : List BwcOutput) :
    lastChange profile (outputs ++ [.written other before after]) =
      lastChange profile outputs := by
  simp [lastChange]

theorem lastChange_changed (profile other : ProfileType) (on : Bool)
    (outputs : List BwcOutput) :
    lastChange profile (outputs ++ [.changed other on]) =
      if other = profile then some on else lastChange profile outputs := by
  by_cases same : other = profile <;> simp [lastChange, same]

@[simp]
theorem enter_self (state : BwcState) (caller : Nat) (place : Caller) :
    (state.enter caller place).caller caller = place :=
  Function.update_self ..

theorem enter_of_ne {caller other : Nat} (apart : other ≠ caller) (state : BwcState)
    (place : Caller) : (state.enter caller place).caller other = state.caller other :=
  Function.update_of_ne apart ..

/-- A caller that was not returning from a change of the profile changes nothing for it by
entering. -/
theorem not_returning_of_enter {state : BwcState} {caller : Nat} {place : Caller}
    {profile : ProfileType} (before : ∀ on, state.caller caller ≠ .set profile on true)
    (after : ∀ other on, (state.enter caller place).caller other ≠ .set profile on true) :
    ∀ other on, state.caller other ≠ .set profile on true := by
  intro other on
  by_cases same : other = caller
  · rw [same]
    exact before on
  · rw [← enter_of_ne same state place]
    exact after other on

theorem sinceStepOf_snoc (caller : Nat) (history : History BwcEvent BwcOutput) (event : BwcEvent)
    (out : List BwcOutput) :
    sinceStepOf caller (history ++ [(event, out)]) =
      if event.caller = caller then [] else sinceStepOf caller history ++ [(event, out)] := by
  rw [sinceStepOf, List.rtakeWhile_concat]
  by_cases same : event.caller = caller <;> simp [same, sinceStepOf]

/-- A step concerns its caller only, and it writes its profile or leaves the driver as it was. -/
theorem BwcState.step_cases {state after : BwcState} {event : BwcEvent} {out : List BwcOutput}
    (stepped : state.step event = some (after, out)) :
    (∀ other, other ≠ event.caller → after.caller other = state.caller other) ∧
      ((after.concurrentProfile = state.concurrentProfile ∧
          ∀ profile before written, .written profile before written ∉ out) ∨
        ∃ profile, out = [.written profile state.concurrentProfile after.concurrentProfile]) := by
  cases event with
  | getInfo caller profile on succeeded =>
      simp only [BwcState.step] at stepped
      split at stepped
      · cases stepped
        exact ⟨fun other apart => enter_of_ne apart .., .inl ⟨rfl, by simp⟩⟩
      · cases stepped
      · cases stepped
  | setInfo caller succeeded =>
      simp only [BwcState.step] at stepped
      split at stepped
      · cases succeeded with
        | false =>
            cases stepped
            exact ⟨fun other apart => enter_of_ne apart .., .inl ⟨rfl, by simp⟩⟩
        | true =>
            cases stepped
            exact ⟨fun other apart => enter_of_ne apart state _, .inr ⟨_, rfl⟩⟩
      · cases stepped
      · cases stepped
  | completes caller =>
      simp only [BwcState.step] at stepped
      split at stepped
      · rename_i succeeded _
        cases stepped
        refine ⟨fun other apart => enter_of_ne apart .., .inl ⟨rfl, ?_⟩⟩
        cases succeeded <;> simp
      · cases stepped
      · cases stepped

section Tracking

variable {history : History BwcEvent BwcOutput} {state after : BwcState} {event : BwcEvent}
  {out : List BwcOutput}

/-- A caller that has just got its properties has read the driver, or zeros. -/
theorem BwcState.got_of_step {profile : ProfileType} {on : Bool} {properties : Profiles}
    (stepped : state.step event = some (after, out))
    (place : after.caller event.caller = .got profile on properties) :
    ∃ succeeded, event = .getInfo event.caller profile on succeeded ∧
      properties = (if succeeded then state.concurrentProfile else 0) ∧
      after.concurrentProfile = state.concurrentProfile := by
  cases event with
  | getInfo caller asked value succeeded =>
      simp only [BwcState.step] at stepped
      split at stepped
      · cases stepped
        cases place.symm.trans (enter_self ..)
        exact ⟨succeeded, rfl, rfl, rfl⟩
      · cases stepped
      · cases stepped
  | setInfo caller succeeded =>
      simp only [BwcState.step] at stepped
      split at stepped
      · cases succeeded with
        | false =>
            cases stepped
            exact nomatch place.symm.trans (enter_self ..)
        | true =>
            cases stepped
            exact nomatch place.symm.trans (enter_self state caller _)
      · cases stepped
      · cases stepped
  | completes caller =>
      simp only [BwcState.step] at stepped
      split at stepped
      · cases stepped
        exact nomatch place.symm.trans (enter_self ..)
      · cases stepped
      · cases stepped

/-- A caller whose set has just succeeded has written its change. -/
theorem BwcState.set_of_step {profile : ProfileType} {on : Bool}
    (stepped : state.step event = some (after, out))
    (place : after.caller event.caller = .set profile on true) :
    ∃ properties, after.concurrentProfile = profileChange properties profile on := by
  cases event with
  | getInfo caller asked value succeeded =>
      simp only [BwcState.step] at stepped
      split at stepped
      · cases stepped
        exact nomatch place.symm.trans (enter_self ..)
      · cases stepped
      · cases stepped
  | setInfo caller succeeded =>
      simp only [BwcState.step] at stepped
      split at stepped
      · rename_i asked value properties _
        cases succeeded with
        | false =>
            cases stepped
            exact nomatch place.symm.trans (enter_self ..)
        | true =>
            cases stepped
            cases place.symm.trans (enter_self state caller _)
            exact ⟨properties, rfl⟩
      · cases stepped
      · cases stepped
  | completes caller =>
      simp only [BwcState.step] at stepped
      split at stepped
      · cases stepped
        exact nomatch place.symm.trans (enter_self ..)
      · cases stepped
      · cases stepped

/-- A set that finds what its call has read writes no bit but that of its profile. -/
theorem BwcState.own_of_step (undisturbed : CallsUndisturbed history state event)
    (stepped : state.step event = some (after, out)) {profile : ProfileType}
    {before written : Profiles} (occurs : .written profile before written ∈ out)
    (other : ProfileType) (apart : other ≠ profile) : written.has other = before.has other := by
  cases event with
  | getInfo caller asked value succeeded =>
      simp only [BwcState.step] at stepped
      split at stepped
      · cases stepped
        cases occurs
      · cases stepped
      · cases stepped
  | setInfo caller succeeded =>
      simp only [BwcState.step] at stepped
      split at stepped
      · rename_i asked value properties place
        cases succeeded with
        | false =>
            cases stepped
            cases occurs
        | true =>
            cases stepped
            cases List.mem_singleton.mp occurs
            rw [CallsUndisturbed, place] at undisturbed
            rw [has_profileChange, if_neg apart]
            exact undisturbed rfl other apart
      · cases stepped
      · cases stepped
  | completes caller =>
      simp only [BwcState.step] at stepped
      split at stepped
      · rename_i succeeded _
        cases stepped
        cases succeeded with
        | false => cases occurs
        | true => cases List.mem_singleton.mp occurs
      · cases stepped
      · cases stepped

/-- When no other change comes in between, a call finds what it counts on. -/
theorem CallsTracked.undisturbed (tracked : CallsTracked history state)
    (guarded : ChangesApart history state event) : CallsUndisturbed history state event := by
  cases event with
  | getInfo caller profile on succeeded => trivial
  | setInfo caller succeeded =>
      rw [CallsUndisturbed]
      rw [ChangesApart] at guarded
      cases place : state.caller caller with
      | got profile on properties =>
          rw [place] at guarded
          intro succeeds
          exact tracked.got caller profile on properties place (guarded succeeds)
      | idle => trivial
      | set _ _ _ => trivial
  | completes caller =>
      rw [CallsUndisturbed]
      rw [ChangesApart] at guarded
      cases place : state.caller caller with
      | set profile on succeeded =>
          rw [place] at guarded
          rintro rfl
          exact tracked.set caller profile on place guarded
      | idle => trivial
      | got _ _ _ => trivial

/-- A step keeps track of every call. -/
theorem CallsTracked.step (tracked : CallsTracked history state)
    (guarded : ChangesApart history state event) (stepped : state.step event = some (after, out)) :
    CallsTracked (history ++ [(event, out)]) after := by
  obtain ⟨others, driver⟩ := BwcState.step_cases stepped
  have own : ∀ profile before written, .written profile before written ∈ out →
      ∀ other, other ≠ profile → Profiles.has written other = Profiles.has before other :=
    fun _ _ _ => BwcState.own_of_step (tracked.undisturbed guarded) stepped
  constructor
  · intro caller profile on properties place since other apart
    rw [sinceStepOf_snoc] at since
    by_cases same : event.caller = caller
    · subst same
      obtain ⟨succeeded, asks, read, kept⟩ := BwcState.got_of_step stepped place
      rw [asks] at guarded
      obtain rfl : succeeded = true := guarded
      rw [read, kept, if_pos rfl]
    · rw [if_neg same, History.outputs_snoc] at since
      have before := tracked.got caller profile on properties
        ((others caller (Ne.symm same)).symm.trans place)
        (fun output occurs => since output (List.mem_append_left _ occurs)) other apart
      rcases driver with ⟨kept, _⟩ | ⟨written, rfl⟩
      · rw [kept]
        exact before
      · obtain rfl : written = profile :=
          since _ (List.mem_append_right _ (List.mem_singleton_self _))
        rw [own written _ _ (List.mem_singleton_self _) other apart]
        exact before
  · intro caller profile on place since
    rw [sinceStepOf_snoc] at since
    by_cases same : event.caller = caller
    · subst same
      obtain ⟨properties, written⟩ := BwcState.set_of_step stepped place
      rw [written, has_profileChange, if_pos rfl]
    · rw [if_neg same, History.outputs_snoc] at since
      have before := tracked.set caller profile on
        ((others caller (Ne.symm same)).symm.trans place)
        fun output occurs => since output (List.mem_append_left _ occurs)
      rcases driver with ⟨kept, _⟩ | ⟨written, rfl⟩
      · rw [kept]
        exact before
      · by_cases rewritten : written = profile
        · exact since _ (List.mem_append_right _ (List.mem_singleton_self _)) rewritten
        · rw [own written _ _ (List.mem_singleton_self _) profile (Ne.symm rewritten)]
          exact before

end Tracking

theorem BwcSound.step {initial : Profiles} {outputs : List BwcOutput}
    {history : History BwcEvent BwcOutput} {state after : BwcState} {event : BwcEvent}
    {out : List BwcOutput} (sound : BwcSound initial outputs state)
    (guarded : CallsUndisturbed history state event)
    (stepped : state.step event = some (after, out)) :
    BwcSound initial (outputs ++ out) after := by
  cases event with
  | getInfo caller profile on succeeded =>
      simp only [BwcState.step] at stepped
      cases place : state.caller caller with
      | idle =>
          rw [place] at stepped
          cases stepped
          rw [List.append_nil]
          constructor
          · intro other quiet
            apply sound.settled other
            apply not_returning_of_enter _ quiet
            intro value
            rw [place]
            nofun
          · exact sound.own
      | got _ _ _ => simp [place] at stepped
      | set _ _ _ => simp [place] at stepped
  | setInfo caller succeeded =>
      simp only [BwcState.step] at stepped
      cases place : state.caller caller with
      | idle => simp [place] at stepped
      | got profile on properties =>
          rw [place] at stepped
          have notReturning : ∀ other value, state.caller caller ≠ .set other value true := by
            intro other value
            rw [place]
            nofun
          cases succeeded with
          | false =>
              cases stepped
              rw [List.append_nil]
              constructor
              · intro other quiet
                exact sound.settled other (not_returning_of_enter (notReturning other) quiet)
              · exact sound.own
          | true =>
              cases stepped
              rw [CallsUndisturbed, place] at guarded
              have own : ∀ other, other ≠ profile →
                  Profiles.has (profileChange properties profile on) other =
                    state.concurrentProfile.has other := by
                intro other apart
                rw [has_profileChange, if_neg apart]
                exact guarded rfl other apart
              constructor
              · intro other quiet
                have apart : other ≠ profile := by
                  rintro rfl
                  exact quiet caller on (enter_self ..)
                rw [lastChange_written, own other apart]
                exact sound.settled other (not_returning_of_enter (notReturning other) quiet)
              · intro other before later occurs
                rcases List.mem_append.mp occurs with earlier | new
                · exact sound.own other before later earlier
                · rw [List.mem_singleton] at new
                  cases new
                  exact own
      | set _ _ _ => simp [place] at stepped
  | completes caller =>
      simp only [BwcState.step] at stepped
      cases place : state.caller caller with
      | idle => simp [place] at stepped
      | got _ _ _ => simp [place] at stepped
      | set profile on succeeded =>
          rw [place] at stepped
          rw [CallsUndisturbed, place] at guarded
          cases succeeded with
          | false =>
              cases stepped
              simp only [Bool.false_eq_true, if_false, List.append_nil]
              constructor
              · intro other quiet
                apply sound.settled other
                apply not_returning_of_enter _ quiet
                intro value
                rw [place]
                nofun
              · exact sound.own
          | true =>
              cases stepped
              simp only [if_true]
              constructor
              · intro other quiet
                rw [lastChange_changed]
                by_cases same : profile = other
                · subst same
                  rw [if_pos rfl]
                  exact guarded rfl
                · rw [if_neg same]
                  apply sound.settled other
                  apply not_returning_of_enter _ quiet
                  intro value
                  rw [place]
                  intro equal
                  cases equal
                  exact same rfl
              · intro other before later occurs
                rcases List.mem_append.mp occurs with earlier | new
                · exact sound.own other before later earlier
                · cases List.mem_singleton.mp new

theorem BwcSound.run {initial : Profiles} {history : History BwcEvent BwcOutput}
    {state : BwcState} (run : (bwcSystem initial).Run CallsUndisturbed history state) :
    BwcSound initial history.outputs state := by
  induction run with
  | start starts =>
      rw [starts]
      constructor
      · intro profile quiet
        rfl
      · intro profile before after occurs
        cases occurs
  | next running guarded stepped ih =>
      rw [History.outputs_snoc]
      exact ih.step guarded stepped

/-- Changes that do not meet are undisturbed. -/
theorem undisturbed_of_apart {initial : Profiles} {history : History BwcEvent BwcOutput}
    {state : BwcState} (run : (bwcSystem initial).Run ChangesApart history state) :
    (bwcSystem initial).Run CallsUndisturbed history state ∧ CallsTracked history state := by
  induction run with
  | start starts =>
      refine ⟨.start starts, ?_, ?_⟩
      · intro caller profile on properties place
        rw [starts] at place
        cases place
      · intro caller profile on place
        rw [starts] at place
        cases place
  | next running guarded stepped ih =>
      exact ⟨ih.1.next (ih.2.undisturbed guarded) stepped, ih.2.step guarded stepped⟩

/-- The set keeps to the completed changes in every run whose changes do not meet. -/
theorem profiles_kept {initial : Profiles} {history : History BwcEvent BwcOutput}
    {state : BwcState} (run : (bwcSystem initial).Run ChangesApart history state) :
    ProfilesKept initial history state := by
  have sound := BwcSound.run (undisturbed_of_apart run).1
  constructor
  · intro ended profile
    apply sound.settled profile
    intro caller on
    rw [ended caller]
    nofun
  · exact sound.own

/-- Two callers one after the other, a set that fails, and a profile that goes off again. -/
theorem profiles_kept_record : ∃ history state,
    (bwcSystem 0).Run ChangesApart history state ∧ ProfilesKept 0 history state ∧
    history.outputs = [.written .videoRecord 0 512, .changed .videoRecord true,
      .written .cameraPreview 512 516, .changed .cameraPreview true,
      .written .videoRecord 516 4, .changed .videoRecord false] := by
  let calls : List BwcEvent := [.getInfo 0 .videoRecord true true, .setInfo 0 true,
    .getInfo 1 .cameraPreview true true, .completes 0, .setInfo 1 true, .completes 1,
    .getInfo 1 .cameraPreview false true, .setInfo 1 false, .completes 1,
    .getInfo 0 .videoRecord false true, .setInfo 0 true, .completes 0]
  have executed : ((bwcSystem 0).exec ⟨0, fun _ => .idle⟩ calls).map
      (fun final => final.1.outputs) =
        some [.written .videoRecord 0 512, .changed .videoRecord true,
          .written .cameraPreview 512 516, .changed .cameraPreview true,
          .written .videoRecord 516 4, .changed .videoRecord false] := by
    decide +kernel
  rcases System.exists_run_of_exec (bwcSystem 0) ChangesApart calls _ rfl (by decide +kernel)
    executed with ⟨history, state, run, outputs⟩
  exact ⟨history, state, run, profiles_kept run, outputs⟩

/-- A write that changes the bit of another profile breaks the promise. -/
theorem not_profilesKept_of_written {initial : Profiles} {history : History BwcEvent BwcOutput}
    {state : BwcState} {profile other : ProfileType} {before after : Profiles}
    (occurs : .written profile before after ∈ history.outputs) (apart : other ≠ profile)
    (changed : after.has other ≠ before.has other) : ¬ ProfilesKept initial history state :=
  fun kept => changed (kept.own profile before after occurs other apart)

/-- What goes wrong: two changes that both read before either writes; a get that fails; and two
changes of one profile that return in the other order than they wrote. -/
theorem profiles_lost :
    (∃ history state, (bwcSystem 0).Run System.free history state ∧
      ¬ ProfilesKept 0 history state ∧
      history.events = [.getInfo 0 .videoRecord true true, .getInfo 1 .cameraPreview true true,
        .setInfo 0 true, .setInfo 1 true, .completes 0, .completes 1]) ∧
    (∃ history state, (bwcSystem 512).Run System.free history state ∧
      ¬ ProfilesKept 512 history state ∧
      history.events = [.getInfo 0 .cameraPreview true false, .setInfo 0 true, .completes 0]) ∧
    ∃ history state, (bwcSystem 0).Run System.free history state ∧
      ¬ ProfilesKept 0 history state ∧
      history.events = [.getInfo 0 .videoRecord true true, .setInfo 0 true,
        .getInfo 1 .videoRecord false true, .setInfo 1 true, .completes 1, .completes 0] := by
  have lost : ProfileType.videoRecord ≠ .cameraPreview := by decide
  have bit : Profiles.has 4 .videoRecord ≠ Profiles.has 512 .videoRecord := by decide
  refine ⟨?_, ?_, ?_⟩
  · let calls : List BwcEvent := [.getInfo 0 .videoRecord true true,
      .getInfo 1 .cameraPreview true true, .setInfo 0 true, .setInfo 1 true, .completes 0,
      .completes 1]
    have executed : ((bwcSystem 0).exec ⟨0, fun _ => .idle⟩ calls).map
        (fun final => (final.1.events, decide (.written .cameraPreview 512 4 ∈ final.1.outputs))) =
          some (calls, true) := by
      decide +kernel
    rcases System.exists_run_of_exec (bwcSystem 0) System.free calls _ rfl (by decide +kernel)
      executed with ⟨history, state, run, seen⟩
    obtain ⟨events, occurs⟩ := Prod.mk.inj seen
    exact ⟨history, state, run,
      not_profilesKept_of_written (of_decide_eq_true occurs) lost bit, events⟩
  · let calls : List BwcEvent := [.getInfo 0 .cameraPreview true false, .setInfo 0 true,
      .completes 0]
    have executed : ((bwcSystem 512).exec ⟨512, fun _ => .idle⟩ calls).map
        (fun final => (final.1.events, decide (.written .cameraPreview 512 4 ∈ final.1.outputs))) =
          some (calls, true) := by
      decide +kernel
    rcases System.exists_run_of_exec (bwcSystem 512) System.free calls _ rfl (by decide +kernel)
      executed with ⟨history, state, run, seen⟩
    obtain ⟨events, occurs⟩ := Prod.mk.inj seen
    exact ⟨history, state, run,
      not_profilesKept_of_written (of_decide_eq_true occurs) lost bit, events⟩
  · let calls : List BwcEvent := [.getInfo 0 .videoRecord true true, .setInfo 0 true,
      .getInfo 1 .videoRecord false true, .setInfo 1 true, .completes 1, .completes 0]
    have executed : ((bwcSystem 0).exec ⟨0, fun _ => .idle⟩ calls).map
        (fun final => (final.1.events, lastChange .videoRecord final.1.outputs,
          final.2.concurrentProfile.has .videoRecord)) = some (calls, some true, false) := by
      decide +kernel
    have callers : ((bwcSystem 0).exec ⟨0, fun _ => .idle⟩ calls).map
        (fun final => final.2.caller) = some (Function.update (Function.update (Function.update
          (Function.update (Function.update (Function.update (fun _ => .idle)
            0 (.got .videoRecord true 0)) 0 (.set .videoRecord true true))
            1 (.got .videoRecord false 512)) 1 (.set .videoRecord false true)) 1 .idle) 0 .idle) :=
      rfl
    obtain ⟨⟨history, state⟩, final, seen⟩ := Option.map_eq_some_iff.mp executed
    rw [final, Option.map_some, Option.some.injEq] at callers
    obtain ⟨events, last, off⟩ : history.events = calls ∧
        lastChange .videoRecord history.outputs = some true ∧
        state.concurrentProfile.has .videoRecord = false := by
      simpa using seen
    refine ⟨history, state, System.run_of_exec _ System.free calls rfl (by decide +kernel) final,
      ?_, events⟩
    intro kept
    have ended : ∀ caller, state.caller caller = .idle := by
      intro caller
      rw [callers]
      by_cases first : caller = 0
      · simp [first]
      · by_cases second : caller = 1 <;> simp [first, second]
    have settled := kept.settled ended .videoRecord
    rw [last, off] at settled
    cases settled

end X3Hal.Bwc
