import X3Hal.Transition.Core
import X3Hal.Ril.Unsol
import Mathlib.Logic.Function.Basic
import Mathlib.Tactic.Common

/-!
# The wake lock

A response that wakes the device takes the wake lock, and a timeout gives it back unless the
framework acknowledges first.  From version 13 on the lock is counted.  A timeout is stale
when its `userParam` is set, which is read when the timer expires, before the callback takes
the mutex.

A step is a stretch of code between two calls, or a section of the mutex.  Below version 13
no mutex is held at the exit of a response: its new timeout is scheduled, the last one is
cancelled, and the new one is stored, in three steps.
-/

namespace X3Hal.Ril

open X3Hal.Transition

/-! ## The state -/

/-- What the wake lock depends on outside this library. -/
structure WakeConfig where
  /-- `s_callbacksSocket.version` -/
  version : Int
  /-- A `cid` of −1 is not below `RIL_URC`, so that `userTimerCallback` passes the info on. -/
  handsOver : Bool

/-- Where a `UserCallbackInfo` of a wake timeout is. -/
inductive InfoPhase
  | unallocated
  | scheduled
  /-- in the queue of the proxy thread -/
  | handedOver
  /-- the callback is called, with what was read from `userParam` -/
  | called (param : Bool)
  | returned
  | freed
  deriving DecidableEq

/-- Below version 13, a response that has scheduled its timeout and not stored it yet. -/
structure ExitingResponse where
  info : Nat
  /-- the previous request is cancelled -/
  cancelledLast : Bool
  deriving DecidableEq

structure WakeLock where
  held : Bool
  /-- `s_wakelock_count` -/
  count : Nat
  /-- `s_last_wake_timeout_info` -/
  last : Option Nat
  /-- the number of infos allocated so far -/
  infos : Nat
  phase : Nat → InfoPhase
  /-- `userParam` is not NULL -/
  cancelled : Nat → Bool
  /-- the responses that have the wake lock and run their response function -/
  responding : Nat
  exiting : List ExitingResponse
  /-- below version 13, the responses that have stored their timeout and not returned -/
  stored : Nat

def wakeLockInit : WakeLock :=
  ⟨false, 0, none, 0, fun _ => .unallocated, fun _ => false, 0, [], 0⟩

/-- A call of `release_wake_lock` by a timeout. -/
structure TimeoutRelease where
  info : Nat
  /-- no timeout was scheduled after it -/
  newest : Bool
  cancelled : Bool
  deriving DecidableEq

/-! ## The functions of `ril.cpp` -/

section Operations

variable (config : WakeConfig)

/-- `s_last_wake_timeout_info->userParam = (void *)1` -/
def cancelLast (lock : WakeLock) : WakeLock :=
  match lock.last with
  | none => lock
  | some i => { lock with cancelled := Function.update lock.cancelled i true }

/-- `internalRequestTimedCallback`, with whether `calloc` succeeds -/
def internalRequestTimedCallback (allocated : Bool) (lock : WakeLock) :
    Option (Nat × WakeLock) :=
  if allocated then
    some (lock.infos,
      { lock with
        infos := lock.infos + 1
        phase := Function.update lock.phase lock.infos .scheduled
        cancelled := Function.update lock.cancelled lock.infos false })
  else none

def grabPartialWakeLock (allocated : Bool) (lock : WakeLock) : WakeLock :=
  let lock := { lock with held := true }
  if 13 ≤ config.version then
    match internalRequestTimedCallback allocated lock with
    | none => { lock with held := false }
    | some (info, lock) =>
        { cancelLast { lock with count := lock.count + 1 } with last := some info }
  else lock

def releaseWakeLock (lock : WakeLock) : WakeLock :=
  if 13 ≤ config.version then
    if 1 < lock.count then { lock with count := lock.count - 1 }
    else cancelLast { lock with count := 0, held := false }
  else { lock with held := false }

/-- `wakeTimeoutCallback`, with whether `param` is not NULL -/
def wakeTimeoutCallback (param : Bool) (lock : WakeLock) : WakeLock :=
  if 13 ≤ config.version then
    if param then lock else { lock with count := 0, held := false }
  else if param then lock else releaseWakeLock config lock

/-- `shouldScheduleTimeout` -/
def shouldScheduleTimeout : WakeType → Bool
  | .wakePartial => true
  | .dontWake => false

/-- `send_unsolResponse` up to the response function -/
def unsolEntry (wakeType : WakeType) (allocated : Bool) (lock : WakeLock) : WakeLock :=
  if shouldScheduleTimeout wakeType then
    let lock := grabPartialWakeLock config allocated lock
    { lock with responding := lock.responding + 1 }
  else lock

/-- `error_exit` -/
def unsolError (wakeType : WakeType) (lock : WakeLock) : WakeLock :=
  if shouldScheduleTimeout wakeType then releaseWakeLock config lock else lock

/-- `send_unsolResponse` below version 13, after the response function -/
def unsolSchedule (allocated : Bool) (lock : WakeLock) : WakeLock :=
  let lock := { lock with responding := lock.responding - 1 }
  match internalRequestTimedCallback allocated lock with
  | none => unsolError config .wakePartial lock
  | some (info, lock) => { lock with exiting := ⟨info, false⟩ :: lock.exiting }

/-- "Cancel the previous request" -/
def unsolCancel (info : Nat) (lock : WakeLock) : WakeLock :=
  { cancelLast lock with exiting := lock.exiting.replace ⟨info, false⟩ ⟨info, true⟩ }

/-- `s_last_wake_timeout_info = p_info` -/
def unsolStore (info : Nat) (lock : WakeLock) : WakeLock :=
  { lock with
    last := some info
    exiting := lock.exiting.erase ⟨info, true⟩
    stored := lock.stored + 1 }

/-- The end of `send_unsolResponse`, with whether the copy of the NITZ time fails -/
def unsolExit (wakeType : WakeType) (nitzFails : Bool) (lock : WakeLock) : WakeLock :=
  let lock :=
    if shouldScheduleTimeout wakeType then
      if config.version < 13 then { lock with stored := lock.stored - 1 }
      else { lock with responding := lock.responding - 1 }
    else lock
  if nitzFails then unsolError config wakeType lock else lock

/-- `userTimerCallback` up to its call -/
def timerExpires (i : Nat) (lock : WakeLock) : WakeLock :=
  { lock with
    phase := Function.update lock.phase i
      (if config.handsOver then .handedOver else .called (lock.cancelled i)) }

/-- The rest of `userTimerCallback`, or the proxy after the callback. -/
def freeInfo (i : Nat) (lock : WakeLock) : WakeLock :=
  { lock with
    phase := Function.update lock.phase i .freed
    last := if ¬ config.handsOver ∧ lock.last = some i then none else lock.last }

end Operations

/-! ## The system -/

inductive WakeEvent
  /-- `send_unsolResponse` is called, with whether `calloc` succeeds -/
  | unsolBegin (wakeType : WakeType) (allocated : Bool)
  | unsolSchedule (allocated : Bool)
  | unsolCancel (info : Nat)
  | unsolStore (info : Nat)
  | unsolEnd (wakeType : WakeType) (nitzFails : Bool)
  /-- `RIL_onRequestComplete` -/
  | requestComplete (wasAckSent allocated : Bool)
  /-- the framework acknowledges -/
  | acknowledge
  | expire (i : Nat)
  /-- the proxy takes an info from its queue -/
  | proxyCall (i : Nat)
  /-- the body of `wakeTimeoutCallback` -/
  | runCallback (i : Nat)
  | free (i : Nat)
  deriving DecidableEq

/-- The responses that can come to their end. -/
def WakeLock.returning (config : WakeConfig) (lock : WakeLock) : Nat :=
  if config.version < 13 then lock.stored else lock.responding

def WakeLock.step (config : WakeConfig) (lock : WakeLock) :
    WakeEvent → Option (WakeLock × List TimeoutRelease)
  | .unsolBegin wakeType allocated => some (unsolEntry config wakeType allocated lock, [])
  | .unsolSchedule allocated =>
      if config.version < 13 ∧ 0 < lock.responding then
        some (unsolSchedule config allocated lock, [])
      else none
  | .unsolCancel info =>
      if ⟨info, false⟩ ∈ lock.exiting then some (unsolCancel info lock, []) else none
  | .unsolStore info =>
      if ⟨info, true⟩ ∈ lock.exiting then some (unsolStore info lock, []) else none
  | .unsolEnd wakeType nitzFails =>
      if shouldScheduleTimeout wakeType ∧ lock.returning config = 0 then none
      else some (unsolExit config wakeType nitzFails lock, [])
  | .requestComplete wasAckSent allocated =>
      if 13 ≤ config.version ∧ wasAckSent then
        some (grabPartialWakeLock config allocated lock, [])
      else some (lock, [])
  | .acknowledge => some (releaseWakeLock config lock, [])
  | .expire i =>
      if lock.phase i = .scheduled then some (timerExpires config i lock, []) else none
  | .proxyCall i =>
      if lock.phase i = .handedOver then
        some ({ lock with
          phase := Function.update lock.phase i (.called (lock.cancelled i)) }, [])
      else none
  | .runCallback i =>
      match lock.phase i with
      | .called param =>
          some ({ wakeTimeoutCallback config param lock with
              phase := Function.update lock.phase i .returned },
            if param then [] else [⟨i, i + 1 = lock.infos, lock.cancelled i⟩])
      | _ => none
  | .free i => if lock.phase i = .returned then some (freeInfo config i lock, []) else none

/-- The wake lock as a system. -/
def wakeSystem (config : WakeConfig) : System WakeLock WakeEvent TimeoutRelease where
  Init := fun lock => lock = wakeLockInit
  step := fun lock event => lock.step config event

/-! ## What the timeouts account for -/

/-- The timeout of the info has not run its callback yet. -/
def InfoPhase.Outstanding : InfoPhase → Prop
  | .scheduled | .handedOver | .called _ => True
  | .unallocated | .returned | .freed => False

/-- A timeout that has neither run nor been cancelled. -/
def WakeLock.Waiting (lock : WakeLock) (i : Nat) : Prop :=
  (lock.phase i).Outstanding ∧ lock.cancelled i = false

/-- While the lock is held a timeout waits (below version 13 seen when no response is
between its wake lock and its new timeout); a timeout that releases the lock is the newest
and not cancelled; the last info is not freed; and from version 13 on the lock is held as
long as it is counted. -/
structure Accounted (config : WakeConfig) (history : History WakeEvent TimeoutRelease)
    (lock : WakeLock) : Prop where
  timed : lock.held = true → (config.version < 13 → lock.responding = 0) → ∃ i, lock.Waiting i
  released : ∀ release ∈ history.outputs, release.newest = true ∧ release.cancelled = false
  live : ∀ i, lock.last = some i → lock.phase i ≠ .unallocated ∧ lock.phase i ≠ .freed
  counted : 13 ≤ config.version → (lock.held = true ↔ 0 < lock.count)

/-- The callback of the last timeout is called, and has not released the lock yet. -/
def WakeLock.lastFires (lock : WakeLock) : Bool :=
  match lock.last with
  | none => false
  | some i => lock.phase i = .called false

/-- `grabPartialWakeLock` does not overtake the last timeout, and its `calloc` fails only
while the lock is not held. -/
def GrabsOrderly (allocated : Bool) (lock : WakeLock) : Prop :=
  if allocated then lock.lastFires = false else lock.count = 0

/-- `releaseWakeLock` does not overtake the last timeout. -/
def ReleasesOrderly (config : WakeConfig) (lock : WakeLock) : Prop :=
  13 ≤ config.version → lock.count ≤ 1 → lock.lastFires = false

/-- No step cancels the last timeout once it is called, `calloc` does not fail while the lock
is counted, no timer and no other response comes between a new timeout and its store, and the
proxy frees an info only when a newer timeout is scheduled. -/
def TimeoutsOrderly (config : WakeConfig) : System.Guard WakeLock WakeEvent TimeoutRelease
  | _, lock, .unsolBegin wakeType allocated =>
      13 ≤ config.version → shouldScheduleTimeout wakeType = true →
        GrabsOrderly allocated lock
  | _, lock, .unsolSchedule allocated =>
      allocated = true → lock.exiting = [] ∧ lock.lastFires = false
  | _, _, .unsolCancel _ | _, _, .unsolStore _ => True
  | _, lock, .unsolEnd wakeType nitzFails =>
      shouldScheduleTimeout wakeType = true → nitzFails = true → ReleasesOrderly config lock
  | _, lock, .requestComplete wasAckSent allocated =>
      13 ≤ config.version → wasAckSent = true → GrabsOrderly allocated lock
  | _, lock, .acknowledge => ReleasesOrderly config lock
  | _, lock, .free i => lock.exiting = [] ∧ (config.handsOver = true → i + 1 < lock.infos)
  | _, lock, .expire _ | _, lock, .proxyCall _ | _, lock, .runCallback _ => lock.exiting = []

instance (allocated : Bool) (lock : WakeLock) : Decidable (GrabsOrderly allocated lock) :=
  inferInstanceAs (Decidable (ite _ _ _))

instance (config : WakeConfig) (lock : WakeLock) : Decidable (ReleasesOrderly config lock) :=
  inferInstanceAs (Decidable (_ → _ → _))

instance (config : WakeConfig) (history : History WakeEvent TimeoutRelease) (lock : WakeLock)
    (event : WakeEvent) : Decidable (TimeoutsOrderly config history lock event) :=
  match event with
  | .unsolBegin _ _ | .unsolSchedule _ | .unsolEnd _ _ | .requestComplete _ _ =>
      inferInstanceAs (Decidable (_ → _))
  | .unsolCancel _ | .unsolStore _ => inferInstanceAs (Decidable True)
  | .acknowledge => inferInstanceAs (Decidable (ReleasesOrderly _ _))
  | .free _ => inferInstanceAs (Decidable (_ ∧ _))
  | .expire _ | .proxyCall _ | .runCallback _ => inferInstanceAs (Decidable (_ = _))

/-! ## The invariant -/

/-- Only the last timeout waits, and what a call has read from `userParam` still holds. -/
structure WakeLock.Tracked (lock : WakeLock) : Prop where
  unused : ∀ i, lock.infos ≤ i → lock.phase i = .unallocated
  latest : ∀ i, lock.Waiting i → lock.last = some i
  read : ∀ i param, lock.phase i = .called param → lock.cancelled i = param
  newest : ∀ i, lock.last = some i → i + 1 = lock.infos
  live : ∀ i, lock.last = some i → lock.phase i ≠ .unallocated ∧ lock.phase i ≠ .freed

/-- The timeouts of two states are the same. -/
structure WakeLock.SameTimeouts (lock other : WakeLock) : Prop where
  last : lock.last = other.last
  infos : lock.infos = other.infos
  phase : lock.phase = other.phase
  cancelled : lock.cancelled = other.cancelled

/-- A new timeout is scheduled. -/
def WakeLock.schedule (lock : WakeLock) : WakeLock :=
  { lock with
    infos := lock.infos + 1
    phase := Function.update lock.phase lock.infos .scheduled
    cancelled := Function.update lock.cancelled lock.infos false }

/-- The timeouts are tracked, or one response is at its exit, and they were tracked before it
scheduled its timeout and, perhaps, cancelled the last one. -/
inductive WakeLock.Timeouts (lock : WakeLock) : Prop
  | settled (none : lock.exiting = []) (tracked : lock.Tracked)
  | exiting (before : WakeLock) (cancelled : Bool) (tracked : before.Tracked)
      (quiet : before.lastFires = false) (one : lock.exiting = [⟨before.infos, cancelled⟩])
      (same : lock.SameTimeouts
        (if cancelled then cancelLast before.schedule else before.schedule))

structure WakeLock.Sound (config : WakeConfig) (lock : WakeLock) : Prop where
  timeouts : lock.Timeouts
  uncounted : lock.exiting ≠ [] → config.version < 13
  timed : lock.held = true →
    (∃ i, lock.Waiting i) ∨ (config.version < 13 ∧ 0 < lock.responding)
  counted : 13 ≤ config.version → (lock.held = true ↔ 0 < lock.count)

section Cancelling

variable (lock : WakeLock)

@[simp]
theorem cancelLast_held : (cancelLast lock).held = lock.held := by
  unfold cancelLast
  cases lock.last <;> rfl

@[simp]
theorem cancelLast_count : (cancelLast lock).count = lock.count := by
  unfold cancelLast
  cases lock.last <;> rfl

@[simp]
theorem cancelLast_last : (cancelLast lock).last = lock.last := by
  unfold cancelLast
  cases last : lock.last <;> simp [last]

@[simp]
theorem cancelLast_infos : (cancelLast lock).infos = lock.infos := by
  unfold cancelLast
  cases lock.last <;> rfl

@[simp]
theorem cancelLast_phase : (cancelLast lock).phase = lock.phase := by
  unfold cancelLast
  cases lock.last <;> rfl

@[simp]
theorem cancelLast_responding : (cancelLast lock).responding = lock.responding := by
  unfold cancelLast
  cases lock.last <;> rfl

@[simp]
theorem cancelLast_exiting : (cancelLast lock).exiting = lock.exiting := by
  unfold cancelLast
  cases lock.last <;> rfl

theorem cancelLast_cancelled (i : Nat) :
    (cancelLast lock).cancelled i = (lock.cancelled i || decide (lock.last = some i)) := by
  unfold cancelLast
  cases last : lock.last with
  | none => simp
  | some j => by_cases same : i = j <;> simp [same, Ne.symm]

theorem WakeLock.waiting_iff (i : Nat) :
    lock.Waiting i ↔ (lock.phase i = .scheduled ∨ lock.phase i = .handedOver ∨
      ∃ param, lock.phase i = .called param) ∧ lock.cancelled i = false := by
  unfold WakeLock.Waiting InfoPhase.Outstanding
  cases lock.phase i <;> simp

theorem WakeLock.lastFires_eq_false :
    lock.lastFires = false ↔ ∀ i, lock.last = some i → lock.phase i ≠ .called false := by
  unfold WakeLock.lastFires
  cases lock.last <;> simp

end Cancelling

section Tracking

variable {lock : WakeLock}

/-- Cancelling the last timeout leaves none waiting. -/
theorem WakeLock.Tracked.not_waiting_cancelLast (tracked : lock.Tracked) (i : Nat) :
    ¬ (cancelLast lock).Waiting i := by
  intro waiting
  rw [WakeLock.waiting_iff, cancelLast_cancelled, cancelLast_phase] at waiting
  rcases waiting with ⟨outstanding, kept⟩
  simp only [Bool.or_eq_false_iff, decide_eq_false_iff_not] at kept
  apply kept.2
  apply tracked.latest
  exact (lock.waiting_iff i).mpr ⟨outstanding, kept.1⟩

theorem WakeLock.Tracked.cancelLast (tracked : lock.Tracked) (quiet : lock.lastFires = false) :
    (Ril.cancelLast lock).Tracked := by
  rw [WakeLock.lastFires_eq_false] at quiet
  constructor
  · simpa using tracked.unused
  · intro i waiting
    exact absurd waiting (tracked.not_waiting_cancelLast i)
  · intro i param called
    rw [cancelLast_phase] at called
    have read := tracked.read i param called
    rw [cancelLast_cancelled, read]
    -- a call that read NULL is not of the last timeout
    cases param with
    | true => rfl
    | false =>
        have other : lock.last ≠ some i := fun last => quiet i last called
        simp [other]
  · simpa using tracked.newest
  · simpa using tracked.live

/-- The last timeout is cancelled and a new one takes its place. -/
def WakeLock.renew (lock : WakeLock) : WakeLock :=
  { Ril.cancelLast lock with
    infos := lock.infos + 1
    phase := Function.update lock.phase lock.infos .scheduled
    cancelled := Function.update (Ril.cancelLast lock).cancelled lock.infos false
    last := some lock.infos }

theorem WakeLock.Tracked.renew (tracked : lock.Tracked) (quiet : lock.lastFires = false) :
    lock.renew.Tracked := by
  have cancelled := tracked.cancelLast quiet
  constructor
  · intro i beyond
    have other : i ≠ lock.infos := by
      simp only [WakeLock.renew] at beyond
      omega
    simp only [WakeLock.renew, Function.update_of_ne other]
    apply tracked.unused
    simp only [WakeLock.renew] at beyond
    omega
  · intro i waiting
    by_cases same : i = lock.infos
    · simp [WakeLock.renew, same]
    · apply absurd _ (tracked.not_waiting_cancelLast i)
      simpa [WakeLock.renew, WakeLock.waiting_iff, same] using waiting
  · intro i param called
    by_cases same : i = lock.infos
    · simp [WakeLock.renew, same] at called
    · simp only [WakeLock.renew, Function.update_of_ne same] at called ⊢
      apply cancelled.read
      simpa using called
  · intro i last
    simp only [WakeLock.renew, Option.some.injEq] at last ⊢
    rw [last]
  · intro i last
    simp only [WakeLock.renew, Option.some.injEq] at last ⊢
    simp [last]

theorem WakeLock.waiting_renew (lock : WakeLock) : lock.renew.Waiting lock.infos := by
  simp [WakeLock.renew, WakeLock.waiting_iff]

/-- The code schedules the new timeout before it cancels the last one. -/
theorem WakeLock.Tracked.cancel_scheduled (tracked : lock.Tracked) :
    { Ril.cancelLast lock.schedule with last := some lock.infos } = lock.renew := by
  unfold WakeLock.renew Ril.cancelLast WakeLock.schedule
  cases last : lock.last with
  | none => simp
  | some i =>
      have older : i ≠ lock.infos := by
        have := tracked.newest i last
        omega
      simp [Function.update_comm older]

/-- The last timeout is older than the scheduled one. -/
theorem WakeLock.Tracked.last_ne (tracked : lock.Tracked) : lock.last ≠ some lock.infos := by
  intro last
  have := tracked.newest lock.infos last
  omega

theorem WakeLock.Tracked.congr {other : WakeLock} (tracked : lock.Tracked)
    (same : other.SameTimeouts lock) : other.Tracked := by
  obtain ⟨last, infos, phase, cancelled⟩ := same
  constructor
  · rw [infos, phase]
    exact tracked.unused
  · unfold WakeLock.Waiting
    rw [last, phase, cancelled]
    exact tracked.latest
  · rw [phase, cancelled]
    exact tracked.read
  · rw [last, infos]
    exact tracked.newest
  · rw [last, phase]
    exact tracked.live

/-- Tracking does not look at the lock itself. -/
theorem WakeLock.Tracked.frame (tracked : lock.Tracked) (held : Bool) (count responding : Nat) :
    { lock with held := held, count := count, responding := responding }.Tracked :=
  ⟨tracked.unused, tracked.latest, tracked.read, tracked.newest, tracked.live⟩

/-- A timeout goes on while it is outstanding. -/
theorem WakeLock.Tracked.advance (tracked : lock.Tracked) {i : Nat} {phase : InfoPhase}
    (before : (lock.phase i).Outstanding) (after : phase.Outstanding)
    (reads : ∀ param, phase = .called param → lock.cancelled i = param) :
    { lock with phase := Function.update lock.phase i phase }.Tracked := by
  constructor
  · intro j beyond
    have other : j ≠ i := by
      rintro rfl
      rw [tracked.unused j beyond] at before
      exact before
    simpa [other] using tracked.unused j beyond
  · rintro j ⟨outstanding, kept⟩
    by_cases same : j = i
    · exact same ▸ tracked.latest i ⟨before, same ▸ kept⟩
    · apply tracked.latest j
      constructor
      · simpa [same] using outstanding
      · exact kept
  · intro j param called
    by_cases same : j = i
    · subst same
      exact reads param (by simpa using called)
    · exact tracked.read j param (by simpa [same] using called)
  · exact tracked.newest
  · intro j last
    by_cases same : j = i
    · subst same
      constructor
      · rintro unallocated
        simp only [Function.update_self] at unallocated
        exact absurd after (by simp [unallocated, InfoPhase.Outstanding])
      · rintro freed
        simp only [Function.update_self] at freed
        exact absurd after (by simp [freed, InfoPhase.Outstanding])
    · simpa [same] using tracked.live j last

/-- A timeout that has been called, or has returned, comes to its end. -/
theorem WakeLock.Tracked.settle (tracked : lock.Tracked) {i : Nat} {phase : InfoPhase}
    (known : lock.phase i ≠ .unallocated) (after : ¬ phase.Outstanding) (last : Option Nat)
    (keeps : ∀ j, j ≠ i → lock.last = some j → last = some j)
    (shrinks : ∀ j, last = some j → lock.last = some j)
    (live : last = some i → phase = .returned) :
    { lock with phase := Function.update lock.phase i phase, last := last }.Tracked := by
  constructor
  · intro j beyond
    have other : j ≠ i := by
      rintro rfl
      exact known (tracked.unused j beyond)
    simpa [other] using tracked.unused j beyond
  · rintro j ⟨outstanding, kept⟩
    have other : j ≠ i := by
      rintro rfl
      exact after (by simpa using outstanding)
    apply keeps j other
    apply tracked.latest j
    constructor
    · simpa [other] using outstanding
    · exact kept
  · intro j param called
    have other : j ≠ i := by
      rintro rfl
      simp only [Function.update_self] at called
      exact after (by simp [called, InfoPhase.Outstanding])
    exact tracked.read j param (by simpa [other] using called)
  · intro j lasts
    exact tracked.newest j (shrinks j lasts)
  · intro j lasts
    by_cases same : j = i
    · subst same
      simp [live lasts]
    · simpa [same] using tracked.live j (shrinks j lasts)

end Tracking

section Exiting

variable {lock : WakeLock}

theorem WakeLock.Timeouts.tracked (timeouts : lock.Timeouts) (none : lock.exiting = []) :
    lock.Tracked := by
  cases timeouts with
  | settled _ tracked => exact tracked
  | exiting before cancelled _ _ one _ =>
      rw [none] at one
      cases one

theorem WakeLock.Timeouts.congr {other : WakeLock} (timeouts : lock.Timeouts)
    (same : other.SameTimeouts lock) (exiting : other.exiting = lock.exiting) :
    other.Timeouts := by
  cases timeouts with
  | settled none tracked => exact .settled (exiting.trans none) (tracked.congr same)
  | exiting before cancelled tracked quiet one sameAsBefore =>
      exact .exiting before cancelled tracked quiet (exiting.trans one)
        ⟨same.last.trans sameAsBefore.last, same.infos.trans sameAsBefore.infos,
          same.phase.trans sameAsBefore.phase, same.cancelled.trans sameAsBefore.cancelled⟩

/-- The timeout of a response at its exit waits. -/
theorem WakeLock.Timeouts.waiting (timeouts : lock.Timeouts) (some : lock.exiting ≠ []) :
    ∃ i, lock.Waiting i := by
  cases timeouts with
  | settled none _ => exact absurd none some
  | exiting before cancelled tracked _ _ same =>
      refine ⟨before.infos, ?_⟩
      rw [WakeLock.waiting_iff, same.phase, same.cancelled]
      cases cancelled with
      | false => simp [WakeLock.schedule]
      | true => simp [cancelLast_cancelled, WakeLock.schedule, tracked.last_ne]

/-- The last info is not freed. -/
theorem WakeLock.Timeouts.live (timeouts : lock.Timeouts) {i : Nat} (last : lock.last = some i) :
    lock.phase i ≠ .unallocated ∧ lock.phase i ≠ .freed := by
  cases timeouts with
  | settled _ tracked => exact tracked.live i last
  | exiting before cancelled tracked _ _ same =>
      have lastBefore : before.last = some i := by
        rw [← last, same.last]
        cases cancelled with
        | false => rfl
        | true => exact (cancelLast_last before.schedule).symm
      have phase : lock.phase = Function.update before.phase before.infos .scheduled := by
        rw [same.phase]
        cases cancelled with
        | false => rfl
        | true => exact cancelLast_phase before.schedule
      have older : i ≠ before.infos := by
        rintro rfl
        exact tracked.last_ne lastBefore
      rw [phase, Function.update_of_ne older]
      exact tracked.live i lastBefore

end Exiting

/-! ## The steps -/

section Steps

variable {config : WakeConfig} {lock : WakeLock}

theorem WakeLock.Sound.settled (sound : lock.Sound config) (counts : 13 ≤ config.version) :
    lock.exiting = [] := by
  by_contra some
  have := sound.uncounted some
  omega

theorem WakeLock.Sound.tracked (sound : lock.Sound config) (counts : 13 ≤ config.version) :
    lock.Tracked :=
  sound.timeouts.tracked (sound.settled counts)

theorem sound_init (config : WakeConfig) : wakeLockInit.Sound config := by
  constructor
  · refine .settled rfl ?_
    constructor <;> simp [wakeLockInit, WakeLock.Waiting, InfoPhase.Outstanding]
  · simp [wakeLockInit]
  · simp [wakeLockInit]
  · simp [wakeLockInit]

/-- From version 13 on, a grab that allocates holds the lock under a new timeout. -/
theorem grab_eq (counts : 13 ≤ config.version) (tracked : lock.Tracked) :
    grabPartialWakeLock config true lock =
      { lock with held := true, count := lock.count + 1 }.renew := by
  have framed := tracked.frame true (lock.count + 1) lock.responding
  simp only [grabPartialWakeLock, counts, if_true]
  exact framed.cancel_scheduled

theorem WakeLock.Sound.grab (sound : lock.Sound config) (counts : 13 ≤ config.version)
    {allocated : Bool} (orderly : GrabsOrderly allocated lock) :
    (grabPartialWakeLock config allocated lock).Sound config := by
  cases allocated with
  | true =>
      have quiet : lock.lastFires = false := orderly
      have tracked := sound.tracked counts
      have framed := tracked.frame true (lock.count + 1) lock.responding
      have none := sound.settled counts
      rw [grab_eq counts tracked]
      constructor
      · refine .settled ?_ (framed.renew quiet)
        simpa [WakeLock.renew] using none
      · intro some
        exact absurd none (by simpa [WakeLock.renew] using some)
      · intro _
        exact .inl ⟨lock.infos, WakeLock.waiting_renew _⟩
      · simp [WakeLock.renew]
  | false =>
      have uncounted : lock.count = 0 := orderly
      have grabbed : grabPartialWakeLock config false lock = { lock with held := false } := by
        simp [grabPartialWakeLock, internalRequestTimedCallback, counts]
      rw [grabbed]
      constructor
      · exact sound.timeouts.congr ⟨rfl, rfl, rfl, rfl⟩ rfl
      · exact sound.uncounted
      · simp
      · simp [uncounted]

theorem release_eq_of_lt (uncounted : config.version < 13) :
    releaseWakeLock config lock = { lock with held := false } := by
  have counts : ¬ 13 ≤ config.version := by omega
  simp [releaseWakeLock, counts]

/-- Below version 13 a lock that is not held is sound as soon as its timeouts are. -/
theorem WakeLock.Timeouts.sound_of_lt (timeouts : lock.Timeouts)
    (uncounted : config.version < 13) : { lock with held := false }.Sound config := by
  constructor
  · exact timeouts.congr ⟨rfl, rfl, rfl, rfl⟩ rfl
  · intro _
    exact uncounted
  · simp
  · intro counts
    omega

theorem WakeLock.Sound.release (sound : lock.Sound config)
    (orderly : ReleasesOrderly config lock) : (releaseWakeLock config lock).Sound config := by
  by_cases counts : 13 ≤ config.version
  · by_cases several : 1 < lock.count
    · have released : releaseWakeLock config lock = { lock with count := lock.count - 1 } := by
        simp [releaseWakeLock, counts, several]
      rw [released]
      constructor
      · exact sound.timeouts.congr ⟨rfl, rfl, rfl, rfl⟩ rfl
      · exact sound.uncounted
      · exact sound.timed
      · intro _
        rw [sound.counted counts]
        show 0 < lock.count ↔ 0 < lock.count - 1
        omega
    · have released : releaseWakeLock config lock =
          cancelLast { lock with count := 0, held := false } := by
        simp [releaseWakeLock, counts, several]
      have quiet : lock.lastFires = false := orderly counts (by omega)
      have none := sound.settled counts
      have framed := (sound.tracked counts).frame false 0 lock.responding
      rw [released]
      constructor
      · exact .settled ((cancelLast_exiting _).trans none) (framed.cancelLast quiet)
      · rw [cancelLast_exiting]
        exact sound.uncounted
      · simp
      · simp
  · rw [release_eq_of_lt (by omega)]
    exact sound.timeouts.sound_of_lt (by omega)

theorem WakeLock.Sound.unsolEntry (sound : lock.Sound config) {wakeType : WakeType}
    {allocated : Bool}
    (orderly : 13 ≤ config.version → shouldScheduleTimeout wakeType = true →
      GrabsOrderly allocated lock) :
    (Ril.unsolEntry config wakeType allocated lock).Sound config := by
  cases wakeType with
  | dontWake => exact sound
  | wakePartial =>
      by_cases counts : 13 ≤ config.version
      · have grabbed := sound.grab counts (orderly counts rfl)
        constructor
        · exact grabbed.timeouts.congr ⟨rfl, rfl, rfl, rfl⟩ rfl
        · exact grabbed.uncounted
        · intro held
          rcases grabbed.timed held with waiting | below
          · exact .inl waiting
          · omega
        · exact grabbed.counted
      · have grabbed : Ril.unsolEntry config .wakePartial allocated lock =
            { lock with held := true, responding := lock.responding + 1 } := by
          simp [Ril.unsolEntry, shouldScheduleTimeout, grabPartialWakeLock, counts]
        rw [grabbed]
        constructor
        · exact sound.timeouts.congr ⟨rfl, rfl, rfl, rfl⟩ rfl
        · exact sound.uncounted
        · intro _
          exact .inr ⟨by omega, Nat.succ_pos _⟩
        · intro counted
          exact absurd counted counts

/-- Below version 13 a lock is sound under a waiting timeout. -/
theorem WakeLock.Timeouts.sound_of_waiting (timeouts : lock.Timeouts)
    (uncounted : config.version < 13) (waiting : ∃ i, lock.Waiting i) : lock.Sound config := by
  constructor
  · exact timeouts
  · intro _
    exact uncounted
  · intro _
    exact .inl waiting
  · intro counts
    omega

/-- A response schedules its timeout. -/
theorem WakeLock.Sound.unsolSchedule (sound : lock.Sound config) {allocated : Bool}
    (uncounted : config.version < 13)
    (orderly : allocated = true → lock.exiting = [] ∧ lock.lastFires = false) :
    (Ril.unsolSchedule config allocated lock).Sound config := by
  have framed : { lock with responding := lock.responding - 1 }.Timeouts :=
    sound.timeouts.congr ⟨rfl, rfl, rfl, rfl⟩ rfl
  cases allocated with
  | false =>
      have released : Ril.unsolSchedule config false lock =
          { lock with responding := lock.responding - 1, held := false } := by
        simp [Ril.unsolSchedule, unsolError, shouldScheduleTimeout, uncounted,
          internalRequestTimedCallback, release_eq_of_lt]
      rw [released]
      exact framed.sound_of_lt uncounted
  | true =>
      obtain ⟨none, quiet⟩ := orderly rfl
      have exits : (Ril.unsolSchedule config true lock).Timeouts :=
        .exiting lock false (sound.timeouts.tracked none) quiet
          (by simp [Ril.unsolSchedule, internalRequestTimedCallback, none]) ⟨rfl, rfl, rfl, rfl⟩
      refine exits.sound_of_waiting uncounted (exits.waiting ?_)
      simp [Ril.unsolSchedule, internalRequestTimedCallback]

/-- It cancels the last timeout. -/
theorem WakeLock.Sound.unsolCancel (sound : lock.Sound config) {info : Nat}
    (exits : ⟨info, false⟩ ∈ lock.exiting) : (Ril.unsolCancel info lock).Sound config := by
  have uncounted := sound.uncounted (List.ne_nil_of_mem exits)
  have cancelled : (Ril.unsolCancel info lock).Timeouts ∧
      (Ril.unsolCancel info lock).exiting ≠ [] := by
    cases sound.timeouts with
    | settled none _ =>
        rw [none] at exits
        cases exits
    | exiting before cancelled tracked quiet one same =>
        rw [one, List.mem_singleton, ExitingResponse.mk.injEq] at exits
        obtain ⟨rfl, rfl⟩ := exits
        have oneAfter : (Ril.unsolCancel before.infos lock).exiting = [⟨before.infos, true⟩] := by
          simp [Ril.unsolCancel, one]
        refine ⟨.exiting before true tracked quiet oneAfter ?_, by simp [oneAfter]⟩
        obtain ⟨last, infos, phase, kept⟩ := same
        constructor
        · simpa [Ril.unsolCancel] using last
        · simpa [Ril.unsolCancel] using infos
        · simpa [Ril.unsolCancel] using phase
        · funext i
          simp only [if_false, Bool.false_eq_true] at last kept
          simp [Ril.unsolCancel, cancelLast_cancelled, last, kept]
  exact cancelled.1.sound_of_waiting uncounted (cancelled.1.waiting cancelled.2)

/-- It stores its timeout. -/
theorem WakeLock.Sound.unsolStore (sound : lock.Sound config) {info : Nat}
    (exits : ⟨info, true⟩ ∈ lock.exiting) : (Ril.unsolStore info lock).Sound config := by
  have uncounted := sound.uncounted (List.ne_nil_of_mem exits)
  cases sound.timeouts with
  | settled none _ =>
      rw [none] at exits
      cases exits
  | exiting before cancelled tracked quiet one same =>
      rw [one, List.mem_singleton, ExitingResponse.mk.injEq] at exits
      obtain ⟨rfl, rfl⟩ := exits
      have renewed : (Ril.unsolStore before.infos lock).SameTimeouts before.renew := by
        rw [← tracked.cancel_scheduled]
        exact ⟨rfl, same.infos, same.phase, same.cancelled⟩
      have waiting : (Ril.unsolStore before.infos lock).Waiting before.infos := by
        have := WakeLock.waiting_renew before
        rwa [WakeLock.Waiting, ← renewed.phase, ← renewed.cancelled] at this
      have none : (Ril.unsolStore before.infos lock).exiting = [] := by
        simp [Ril.unsolStore, one]
      exact (WakeLock.Timeouts.settled none ((tracked.renew quiet).congr renewed)).sound_of_waiting
        uncounted ⟨_, waiting⟩

/-- From version 13 on the number of responses does not matter. -/
theorem WakeLock.Sound.respond (sound : lock.Sound config) (counts : 13 ≤ config.version)
    (responding : Nat) : { lock with responding := responding }.Sound config := by
  constructor
  · exact sound.timeouts.congr ⟨rfl, rfl, rfl, rfl⟩ rfl
  · exact sound.uncounted
  · intro held
    rcases sound.timed held with waiting | below
    · exact .inl waiting
    · omega
  · exact sound.counted

/-- The responses that return do not matter. -/
theorem WakeLock.Sound.returnStored (sound : lock.Sound config) (stored : Nat) :
    { lock with stored := stored }.Sound config :=
  ⟨sound.timeouts.congr ⟨rfl, rfl, rfl, rfl⟩ rfl, sound.uncounted, sound.timed, sound.counted⟩

theorem WakeLock.Sound.unsolExit (sound : lock.Sound config) {wakeType : WakeType}
    {nitzFails : Bool}
    (orderly : shouldScheduleTimeout wakeType = true → nitzFails = true →
      ReleasesOrderly config lock) :
    (Ril.unsolExit config wakeType nitzFails lock).Sound config := by
  cases wakeType with
  | dontWake =>
      cases nitzFails <;> simpa [Ril.unsolExit, unsolError, shouldScheduleTimeout] using sound
  | wakePartial =>
      by_cases counts : 13 ≤ config.version
      · have counted : ¬ config.version < 13 := by omega
        have responded := sound.respond counts (lock.responding - 1)
        cases nitzFails with
        | true =>
            simpa [Ril.unsolExit, unsolError, shouldScheduleTimeout, counted] using
              responded.release (orderly rfl rfl)
        | false => simpa [Ril.unsolExit, shouldScheduleTimeout, counted] using responded
      · have uncounted : config.version < 13 := by omega
        have returned := sound.returnStored (lock.stored - 1)
        cases nitzFails with
        | true =>
            simpa [Ril.unsolExit, unsolError, shouldScheduleTimeout, uncounted] using
              returned.release (orderly rfl rfl)
        | false => simpa [Ril.unsolExit, shouldScheduleTimeout, uncounted] using returned

/-- Only the phase of one outstanding timeout changes. -/
theorem WakeLock.Sound.advance (sound : lock.Sound config) (none : lock.exiting = [])
    {i : Nat} {phase : InfoPhase} (before : (lock.phase i).Outstanding)
    (after : phase.Outstanding)
    (reads : ∀ param, phase = .called param → lock.cancelled i = param) :
    { lock with phase := Function.update lock.phase i phase }.Sound config := by
  constructor
  · exact .settled none ((sound.timeouts.tracked none).advance before after reads)
  · exact sound.uncounted
  · intro held
    rcases sound.timed held with ⟨j, outstanding, kept⟩ | below
    · left
      use j
      by_cases same : j = i
      · subst same
        constructor
        · simpa using after
        · exact kept
      · constructor
        · simpa [same] using outstanding
        · exact kept
    · exact .inr below
  · exact sound.counted

/-- A timeout that does not wait comes to its end. -/
theorem WakeLock.Sound.settle (sound : lock.Sound config) (none : lock.exiting = [])
    {i : Nat} {phase : InfoPhase} (known : lock.phase i ≠ .unallocated) (idle : ¬ lock.Waiting i)
    (after : ¬ phase.Outstanding) (last : Option Nat)
    (keeps : ∀ j, j ≠ i → lock.last = some j → last = some j)
    (shrinks : ∀ j, last = some j → lock.last = some j)
    (live : last = some i → phase = .returned) :
    { lock with phase := Function.update lock.phase i phase, last := last }.Sound config := by
  constructor
  · exact .settled none
      ((sound.timeouts.tracked none).settle known after last keeps shrinks live)
  · exact sound.uncounted
  · intro held
    rcases sound.timed held with ⟨j, outstanding, kept⟩ | below
    · have other : j ≠ i := by
        rintro rfl
        exact idle ⟨outstanding, kept⟩
      left
      use j
      constructor
      · simpa [other] using outstanding
      · exact kept
    · exact .inr below
  · exact sound.counted

theorem WakeLock.Sound.expire (sound : lock.Sound config) (none : lock.exiting = []) {i : Nat}
    (scheduled : lock.phase i = .scheduled) : (timerExpires config i lock).Sound config := by
  unfold timerExpires
  apply sound.advance none
  · simp [scheduled, InfoPhase.Outstanding]
  · split <;> trivial
  · intro param called
    split at called
    · cases called
    · cases called
      rfl

theorem WakeLock.Sound.proxyCall (sound : lock.Sound config) (none : lock.exiting = [])
    {i : Nat} (handed : lock.phase i = .handedOver) :
    { lock with phase := Function.update lock.phase i (.called (lock.cancelled i)) }.Sound
      config := by
  apply sound.advance none
  · simp [handed, InfoPhase.Outstanding]
  · trivial
  · rintro param called
    cases called
    rfl

/-- A timeout that read NULL releases the lock, whatever the version. -/
theorem wakeTimeoutCallback_eq (config : WakeConfig) (lock : WakeLock) :
    wakeTimeoutCallback config false lock =
      { lock with
        held := false
        count := if 13 ≤ config.version then 0 else lock.count } := by
  by_cases counts : 13 ≤ config.version
  · simp [wakeTimeoutCallback, counts]
  · simp [wakeTimeoutCallback, releaseWakeLock, counts]

theorem WakeLock.Sound.runCallback (sound : lock.Sound config) (none : lock.exiting = [])
    {i : Nat} {param : Bool} (called : lock.phase i = .called param) :
    { wakeTimeoutCallback config param lock with
      phase := Function.update lock.phase i .returned }.Sound config := by
  have known : lock.phase i ≠ .unallocated := by simp [called]
  have tracked := sound.timeouts.tracked none
  cases param with
  | true =>
      have stale : wakeTimeoutCallback config true lock = lock := by
        simp [wakeTimeoutCallback]
      have idle : ¬ lock.Waiting i := by
        rintro ⟨_, kept⟩
        simp [tracked.read i true called] at kept
      rw [stale]
      exact sound.settle none known idle (by simp [InfoPhase.Outstanding]) lock.last
        (fun _ _ last => last) (fun _ last => last) (fun _ => rfl)
  | false =>
      have settled : { lock with phase := Function.update lock.phase i .returned }.Tracked :=
        tracked.settle known (by simp [InfoPhase.Outstanding]) lock.last
          (fun _ _ last => last) (fun _ last => last) (fun _ => rfl)
      rw [wakeTimeoutCallback_eq]
      constructor
      · exact .settled none (settled.frame _ _ _)
      · exact sound.uncounted
      · simp
      · intro counts
        simp [counts]

/-- A timeout that read NULL is the newest one and is not cancelled. -/
theorem WakeLock.Tracked.releases (tracked : lock.Tracked) {i : Nat}
    (called : lock.phase i = .called false) :
    i + 1 = lock.infos ∧ lock.cancelled i = false := by
  have kept := tracked.read i false called
  have waiting : lock.Waiting i := by
    constructor
    · simp [called, InfoPhase.Outstanding]
    · exact kept
  exact ⟨tracked.newest i (tracked.latest i waiting), kept⟩

theorem WakeLock.Sound.freeInfo (sound : lock.Sound config) (none : lock.exiting = []) {i : Nat}
    (returned : lock.phase i = .returned)
    (orderly : config.handsOver = true → i + 1 < lock.infos) :
    (Ril.freeInfo config i lock).Sound config := by
  -- the last info is that of the newest timeout
  have notLast : config.handsOver = true → lock.last ≠ some i := by
    intro hands last
    have newest := (sound.timeouts.tracked none).newest i last
    have older := orderly hands
    omega
  unfold Ril.freeInfo
  apply sound.settle none
  · simp [returned]
  · simp [WakeLock.Waiting, returned, InfoPhase.Outstanding]
  · simp [InfoPhase.Outstanding]
  · intro j other last
    simp [last, other]
  · intro j last
    split at last
    · cases last
    · exact last
  · intro last
    split at last
    · cases last
    case isFalse differs =>
      by_cases hands : config.handsOver = true
      · exact absurd last (notLast hands)
      · exact absurd ⟨hands, last⟩ differs

end Steps

/-! ## The runs -/

/-- An orderly step keeps the invariant, and releases the lock by the newest timeout only. -/
theorem WakeLock.Sound.step {config : WakeConfig} {lock after : WakeLock} {event : WakeEvent}
    {out : List TimeoutRelease} {history : History WakeEvent TimeoutRelease}
    (sound : lock.Sound config) (orderly : TimeoutsOrderly config history lock event)
    (stepped : lock.step config event = some (after, out)) :
    after.Sound config ∧
      ∀ release ∈ out, release.newest = true ∧ release.cancelled = false := by
  cases event with
  | unsolBegin wakeType allocated =>
      obtain ⟨rfl, rfl⟩ := Prod.mk.inj (Option.some.inj stepped)
      exact ⟨sound.unsolEntry orderly, by simp⟩
  | unsolSchedule allocated =>
      simp only [WakeLock.step] at stepped
      split at stepped
      case isTrue responds =>
        obtain ⟨rfl, rfl⟩ := Prod.mk.inj (Option.some.inj stepped)
        exact ⟨sound.unsolSchedule responds.1 orderly, by simp⟩
      case isFalse => cases stepped
  | unsolCancel info =>
      simp only [WakeLock.step] at stepped
      split at stepped
      case isTrue exits =>
        obtain ⟨rfl, rfl⟩ := Prod.mk.inj (Option.some.inj stepped)
        exact ⟨sound.unsolCancel exits, by simp⟩
      case isFalse => cases stepped
  | unsolStore info =>
      simp only [WakeLock.step] at stepped
      split at stepped
      case isTrue exits =>
        obtain ⟨rfl, rfl⟩ := Prod.mk.inj (Option.some.inj stepped)
        exact ⟨sound.unsolStore exits, by simp⟩
      case isFalse => cases stepped
  | unsolEnd wakeType nitzFails =>
      simp only [WakeLock.step] at stepped
      split at stepped
      · cases stepped
      · obtain ⟨rfl, rfl⟩ := Prod.mk.inj (Option.some.inj stepped)
        exact ⟨sound.unsolExit orderly, by simp⟩
  | requestComplete wasAckSent allocated =>
      simp only [WakeLock.step] at stepped
      split at stepped
      case isTrue grabs =>
        obtain ⟨rfl, rfl⟩ := Prod.mk.inj (Option.some.inj stepped)
        exact ⟨sound.grab grabs.1 (orderly grabs.1 grabs.2), by simp⟩
      case isFalse =>
        obtain ⟨rfl, rfl⟩ := Prod.mk.inj (Option.some.inj stepped)
        exact ⟨sound, by simp⟩
  | acknowledge =>
      obtain ⟨rfl, rfl⟩ := Prod.mk.inj (Option.some.inj stepped)
      exact ⟨sound.release orderly, by simp⟩
  | expire i =>
      simp only [WakeLock.step] at stepped
      split at stepped
      case isTrue scheduled =>
        obtain ⟨rfl, rfl⟩ := Prod.mk.inj (Option.some.inj stepped)
        exact ⟨sound.expire orderly scheduled, by simp⟩
      case isFalse => cases stepped
  | proxyCall i =>
      simp only [WakeLock.step] at stepped
      split at stepped
      case isTrue handed =>
        obtain ⟨rfl, rfl⟩ := Prod.mk.inj (Option.some.inj stepped)
        exact ⟨sound.proxyCall orderly handed, by simp⟩
      case isFalse => cases stepped
  | runCallback i =>
      simp only [WakeLock.step] at stepped
      split at stepped
      case h_1 param called =>
        obtain ⟨rfl, rfl⟩ := Prod.mk.inj (Option.some.inj stepped)
        constructor
        · exact sound.runCallback orderly called
        · cases param with
          | true => simp
          | false =>
              rcases (sound.timeouts.tracked orderly).releases called with ⟨newest, kept⟩
              simp [newest, kept]
      case h_2 => cases stepped
  | free i =>
      simp only [WakeLock.step] at stepped
      split at stepped
      case isTrue returned =>
        obtain ⟨rfl, rfl⟩ := Prod.mk.inj (Option.some.inj stepped)
        exact ⟨sound.freeInfo orderly.1 returned orderly.2, by simp⟩
      case isFalse => cases stepped

/-- The proxy frees the last info. -/
theorem wakeLock_lastFreed :
    ¬∀ (history : History WakeEvent TimeoutRelease) (lock : WakeLock),
      (wakeSystem ⟨13, true⟩).Run System.free history lock →
        Accounted ⟨13, true⟩ history lock := by
  intro claimed
  have executed : ((wakeSystem ⟨13, true⟩).exec wakeLockInit
      [.unsolBegin .wakePartial true, .unsolEnd .wakePartial false, .expire 0, .proxyCall 0,
        .runCallback 0, .free 0]).map
          (fun final => (final.2.last, final.2.phase 0)) = some (some 0, .freed) := by
    decide +kernel
  obtain ⟨history, lock, running, seen⟩ :=
    System.exists_run_of_exec _ System.free _ _ rfl (by decide +kernel) executed
  obtain ⟨last, freed⟩ := Prod.mk.inj seen
  exact ((claimed history lock running).live 0 last).2 freed

/-- A timeout that was called releases the lock after a response cancelled it. -/
theorem wakeLock_staleRelease :
    ¬∀ (history : History WakeEvent TimeoutRelease) (lock : WakeLock),
      (wakeSystem ⟨13, false⟩).Run System.free history lock →
        Accounted ⟨13, false⟩ history lock := by
  intro claimed
  have executed : ((wakeSystem ⟨13, false⟩).exec wakeLockInit
      [.unsolBegin .wakePartial true, .unsolEnd .wakePartial false, .expire 0,
        .unsolBegin .wakePartial true, .runCallback 0]).map
          (fun final => final.1.outputs) = some [⟨0, false, true⟩] := by
    decide +kernel
  obtain ⟨history, lock, running, seen⟩ :=
    System.exists_run_of_exec _ System.free _ _ rfl (by decide +kernel) executed
  have released := (claimed history lock running).released ⟨0, false, true⟩
    (by rw [show history.outputs = _ from seen]; exact List.mem_singleton_self _)
  exact Bool.false_ne_true released.1

/-- Below version 13 a response stores a timeout that is older than the stored one. -/
theorem wakeLock_overtaken :
    ¬∀ (history : History WakeEvent TimeoutRelease) (lock : WakeLock),
      (wakeSystem ⟨12, false⟩).Run System.free history lock →
        Accounted ⟨12, false⟩ history lock := by
  intro claimed
  have executed : ((wakeSystem ⟨12, false⟩).exec wakeLockInit
      [.unsolBegin .wakePartial true, .unsolBegin .wakePartial true, .unsolSchedule true,
        .unsolSchedule true, .unsolCancel 1, .unsolStore 1, .unsolCancel 0, .unsolStore 0,
        .unsolEnd .wakePartial false, .unsolEnd .wakePartial false, .expire 0,
        .runCallback 0]).map (fun final => final.1.outputs) = some [⟨0, false, false⟩] := by
    decide +kernel
  obtain ⟨history, lock, running, seen⟩ :=
    System.exists_run_of_exec _ System.free _ _ rfl (by decide +kernel) executed
  have released := (claimed history lock running).released ⟨0, false, false⟩
    (by rw [show history.outputs = _ from seen]; exact List.mem_singleton_self _)
  exact Bool.false_ne_true released.1

end X3Hal.Ril
