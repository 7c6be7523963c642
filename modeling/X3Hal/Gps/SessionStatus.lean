import X3Hal.Gps.Session
import X3Hal.Pattern.Cycle

/-!
# The order of session callbacks

While the daemon's death is handled only with a session open, and icon messages
only after `CMD_START` was handled, `status_cb` gets whole sessions in order and
the wake lock is never released more often than it was acquired.
-/

namespace X3Hal.Gps

open X3Hal.Transition X3Hal.Pattern

/-- The values passed to `status_cb`, in order. -/
def statuses (outputs : List SessionOutput) : List GpsStatusValue :=
  outputs.filterMap fun
    | .status value => some value
    | _ => none

/-- The number of `acquire_wakelock_cb` calls. -/
def acquires (outputs : List SessionOutput) : Nat :=
  outputs.count .acquireWakelock

/-- The number of `release_wakelock_cb` calls. -/
def releases (outputs : List SessionOutput) : Nat :=
  outputs.count .releaseWakelock

@[simp]
theorem statuses_append (first second : List SessionOutput) :
    statuses (first ++ second) = statuses first ++ statuses second :=
  List.filterMap_append ..

@[simp]
theorem acquires_append (first second : List SessionOutput) :
    acquires (first ++ second) = acquires first + acquires second :=
  List.count_append ..

@[simp]
theorem releases_append (first second : List SessionOutput) :
    releases (first ++ second) = releases first + releases second :=
  List.count_append ..

/-- The statuses of one session. -/
def sessionWord : List GpsStatusValue :=
  [.engineOn, .sessionBegin, .sessionEnd, .engineOff]

/-- Daemon deaths are handled with a session open, and start and stop icons after
`CMD_START` was handled. -/
def orderlyDaemon : System.Guard Session SessionEvent SessionOutput :=
  fun _ s event =>
    match event with
    | .mnlDie => s.startFlag = 1
    | .gpsIcon status => status = 0 ∨ status = 1 → s.started ≠ 0
    | _ => True

instance (history : History SessionEvent SessionOutput) (s : Session) (event : SessionEvent) :
    Decidable (orderlyDaemon history s event) := by
  cases event <;> unfold orderlyDaemon <;> infer_instance

/-! ## What the rest of a handler will report -/

/-- The statuses that straight line code reports, from a value of `sta.status`. -/
def pendingStatuses : GpsStatusValue → List Statement → List GpsStatusValue
  | _, [] => []
  | _, .setStatus value :: rest => pendingStatuses value rest
  | sta, .statusCb :: rest => sta :: pendingStatuses sta rest
  | sta, _ :: rest => pendingStatuses sta rest

/-- What a statement reports and what is pending after it were pending before. -/
theorem statuses_run_append_pendingStatuses (s : Session) (statement : Statement)
    (rest : List Statement) :
    statuses (statement.run s).2 ++ pendingStatuses (statement.run s).1.sta rest =
      pendingStatuses s.sta (statement :: rest) := by
  cases statement with
  | clearStop => by_cases set : s.stopCondtion = 1 <;>
      simp [Statement.run, pendingStatuses, statuses, set]
  | _ => simp [Statement.run, pendingStatuses, statuses]

theorem acquires_run (s : Session) (statement : Statement) (rest : List Statement) :
    acquires (statement.run s).2 + rest.count .acquireWakelockCb =
      (statement :: rest).count .acquireWakelockCb := by
  cases statement <;> simp [Statement.run, acquires, Nat.add_comm]

theorem releases_run (s : Session) (statement : Statement) (rest : List Statement) :
    releases (statement.run s).2 + rest.count .releaseWakelockCb =
      (statement :: rest).count .releaseWakelockCb := by
  cases statement <;> simp [Statement.run, releases, Nat.add_comm]

/-- Only `setStartFlag` changes `s->start_flag`. -/
theorem startFlag_run (s : Session) (statement : Statement)
    (other : ∀ value, statement ≠ .setStartFlag value) :
    (statement.run s).1.startFlag = s.startFlag := by
  cases statement with
  | clearStop => simp only [Statement.run]; split <;> rfl
  | setStartFlag value => exact absurd rfl (other value)
  | _ => rfl

/-! ## The phases of a session -/

/-- What the HAL thread has left of a gps event, or nothing. -/
def Calm (hal : List Statement) : Prop :=
  ∀ statement ∈ hal, statement ∈ [.releaseStart, .setFlagUnlock 1, .readNmea]

/-- The framework thread cannot be setting a session up. -/
def Resting : FrameworkPoint → Prop
  | .idle | .startLoop | .stopLoop | .stopSend => True
  | .startSend _ | .startWait => False
  | .run rest => rest <:+ stopTail

/-- Either thread may be anywhere but in the tail of `mtk_gps_start`. -/
def Outside : FrameworkPoint → Prop
  | .idle | .startLoop | .startSend _ | .startWait | .stopLoop | .stopSend => True
  | .run rest => rest <:+ stopTail

/-- How far the current session is: the statuses reported for it, and the wake
locks it holds. -/
inductive Phase (s : Session) : List GpsStatusValue → Nat → Prop
  | closed (flag : s.startFlag = 0) (calm : Calm s.hal) (outside : Outside s.framework) :
      Phase s [] 0
  | starting {part : List GpsStatusValue} {held : Nat} {statement : Statement}
      {rest : List Statement} (flag : s.startFlag = 0) (calm : Calm s.hal)
      (point : s.framework = .run (statement :: rest)) (tail : statement :: rest <:+ startTail)
      (reported : part ++ pendingStatuses s.sta (statement :: rest) = [.engineOn, .sessionBegin])
      (locks : held + (statement :: rest).count .acquireWakelockCb = 1) : Phase s part held
  | opened (flag : s.startFlag = 1) (calm : Calm s.hal) (resting : Resting s.framework) :
      Phase s [.engineOn, .sessionBegin] 1
  | dying {part : List GpsStatusValue} {held : Nat} {statement : Statement}
      {rest : List Statement} (flag : s.startFlag = 1) (resting : Resting s.framework)
      (point : s.hal = statement :: rest) (tail : statement :: rest <:+ mnlDieHandler)
      (reported : part ++ pendingStatuses s.sta (statement :: rest) = sessionWord)
      (locks : held = (statement :: rest).count .releaseWakelockCb) : Phase s part held

/-- One step moves from a phase to a phase along the session word. -/
def Moves (out : List SessionOutput) (part : List GpsStatusValue) (held : Nat)
    (s : Session) : Prop :=
  ∃ part' held', Phase s part' held' ∧ held' + releases out = held + acquires out ∧
    part ++ statuses out <+: sessionWord ∧
    (part' = part ++ statuses out ∨ part ++ statuses out = sessionWord ∧ part' = [])

theorem Resting.outside {point : FrameworkPoint} (resting : Resting point) : Outside point := by
  cases point <;> simp_all [Resting, Outside]

theorem mem_startTail_suffix {statement : Statement} {rest : List Statement}
    (tail : statement :: rest <:+ startTail) : .setStartFlag 1 ∈ statement :: rest := by
  rcases tail with ⟨front, eq⟩
  have last : (front ++ statement :: rest).getLast (by simp) = .setStartFlag 1 := by
    simp only [eq]
    rfl
  rw [List.getLast_append_of_ne_nil _ (List.cons_ne_nil _ _)] at last
  exact last ▸ List.getLast_mem (List.cons_ne_nil _ _)

theorem not_outside_of_tail {statement : Statement} {rest : List Statement}
    (tail : statement :: rest <:+ startTail) : ¬Outside (.run (statement :: rest)) := by
  intro outside
  have member := outside.subset (mem_startTail_suffix tail)
  simp [stopTail] at member

/-- A change of the framework thread's position outside the start tail keeps the phase. -/
theorem Phase.reframe {s after : Session} {part : List GpsStatusValue} {held : Nat}
    (phase : Phase s part held) (flag : after.startFlag = s.startFlag) (sta : after.sta = s.sta)
    (hal : after.hal = s.hal) (before : Outside s.framework) (outside : Outside after.framework)
    (resting : s.startFlag = 1 → Resting s.framework → Resting after.framework) :
    Phase after part held := by
  cases phase with
  | closed closedFlag calm _ => exact .closed (flag ▸ closedFlag) (hal ▸ calm) outside
  | starting _ _ point tail _ _ => exact absurd (point ▸ before) (not_outside_of_tail tail)
  | opened openFlag calm rests =>
      exact .opened (flag ▸ openFlag) (hal ▸ calm) (resting openFlag rests)
  | dying openFlag rests point tail reported locks =>
      exact .dying (flag ▸ openFlag) (resting openFlag rests) (hal ▸ point) tail
        (sta ▸ reported) locks

/-- A step of the HAL thread's gps event keeps the phase. -/
theorem Phase.rehal {s after : Session} {part : List GpsStatusValue} {held : Nat}
    (phase : Phase s part held) (flag : after.startFlag = s.startFlag) (sta : after.sta = s.sta)
    (framework : after.framework = s.framework) (before : Calm s.hal) (calm : Calm after.hal) :
    Phase after part held := by
  cases phase with
  | closed closedFlag _ outside => exact .closed (flag ▸ closedFlag) calm (framework ▸ outside)
  | starting closedFlag _ point tail reported locks =>
      exact .starting (flag ▸ closedFlag) calm (framework ▸ point) tail (sta ▸ reported) locks
  | opened openFlag _ resting => exact .opened (flag ▸ openFlag) calm (framework ▸ resting)
  | dying openFlag resting point tail _ _ =>
      exfalso
      have member : Statement.setStartFlag 0 ∈ s.hal := by
        rcases tail with ⟨front, eq⟩
        have last : (front ++ s.hal).getLast (by simp [point]) = .setStartFlag 0 := by
          simp only [point, eq]
          rfl
        rw [List.getLast_append_of_ne_nil _ (by simp [point])] at last
        exact last ▸ List.getLast_mem (by simp [point])
      simpa using before _ member

/-- A step that reports nothing and keeps the phase moves along the word. -/
theorem Phase.still {s : Session} {part : List GpsStatusValue} {held : Nat}
    {out : List SessionOutput} (phase : Phase s part held) (within : part <+: sessionWord)
    (noStatus : statuses out = []) (noAcquire : acquires out = 0) (noRelease : releases out = 0) :
    Moves out part held s :=
  ⟨part, held, phase, by omega, by simpa [noStatus] using within, .inl (by simp [noStatus])⟩

/-! ## One step -/

section Steps

variable {s after : Session} {out : List SessionOutput} {part : List GpsStatusValue} {held : Nat}

/-- A statement of the start tail moves along the word; the last one opens the session. -/
theorem starting_moves {statement : Statement} {rest : List Statement} (flag : s.startFlag = 0)
    (calm : Calm s.hal) (tail : statement :: rest <:+ startTail)
    (reported : part ++ pendingStatuses s.sta (statement :: rest) = [.engineOn, .sessionBegin])
    (locks : held + (statement :: rest).count .acquireWakelockCb = 1) :
    Moves (statement.run { s with framework := .run rest }).2 part held
      (statement.run { s with framework := .run rest }).1 := by
  set start : Session := { s with framework := .run rest } with startEq
  have pending := statuses_run_append_pendingStatuses start statement rest
  have acquired := acquires_run start statement rest
  have released := releases_run start statement rest
  have noRelease : (statement :: rest).count .releaseWakelockCb = 0 := by
    refine List.count_eq_zero.mpr fun member => ?_
    simpa [startTail] using tail.subset member
  have soFar : part ++ statuses (statement.run start).2 <+: sessionWord := by
    refine List.IsPrefix.trans ⟨pendingStatuses (statement.run start).1.sta rest, ?_⟩
      (show [GpsStatusValue.engineOn, .sessionBegin] <+: sessionWord by decide)
    rw [List.append_assoc, pending]
    exact reported
  refine ⟨part ++ statuses (statement.run start).2, held + acquires (statement.run start).2, ?_,
    by omega, soFar, .inl rfl⟩
  have reportedAfter : (part ++ statuses (statement.run start).2) ++
      pendingStatuses (statement.run start).1.sta rest = [.engineOn, .sessionBegin] := by
    rw [List.append_assoc, pending]
    exact reported
  have locksAfter :
      held + acquires (statement.run start).2 + rest.count .acquireWakelockCb = 1 := by
    omega
  cases rest with
  | nil =>
      -- the only suffix of length one sets the flag
      have last : statement = .setStartFlag 1 := by
        have member := mem_startTail_suffix tail
        simpa [eq_comm] using member
      subst last
      have wholePart : part ++ statuses (Statement.run start (.setStartFlag 1)).2 =
          [.engineOn, .sessionBegin] := by
        simpa [pendingStatuses] using reportedAfter
      have wholeLocks : held + acquires (Statement.run start (.setStartFlag 1)).2 = 1 := by
        simpa using locksAfter
      rw [wholePart, wholeLocks]
      exact .opened rfl (by simpa [Statement.run, startEq] using calm)
        (by simp [Statement.run, startEq, Resting])
  | cons next rest =>
      have other : ∀ value, statement ≠ .setStartFlag value := by
        rintro value rfl
        simp [startTail, List.suffix_cons_iff] at tail
      refine .starting ?_ ?_ ?_ ((List.suffix_cons _ _).trans tail) reportedAfter locksAfter
      · rw [startFlag_run start statement other]
        exact flag
      · rw [hal_run]
        exact calm
      · rw [framework_run]

/-- A statement of the daemon-death handler moves along the word; the last one
closes the session. -/
theorem dying_moves {statement : Statement} {rest : List Statement} (flag : s.startFlag = 1)
    (resting : Resting s.framework) (tail : statement :: rest <:+ mnlDieHandler)
    (reported : part ++ pendingStatuses s.sta (statement :: rest) = sessionWord)
    (locks : held = (statement :: rest).count .releaseWakelockCb) :
    Moves (statement.run { s with hal := rest }).2 part held
      (statement.run { s with hal := rest }).1 := by
  set start : Session := { s with hal := rest } with startEq
  have pending := statuses_run_append_pendingStatuses start statement rest
  have acquired := acquires_run start statement rest
  have released := releases_run start statement rest
  have noAcquire : (statement :: rest).count .acquireWakelockCb = 0 := by
    refine List.count_eq_zero.mpr fun member => ?_
    simpa [mnlDieHandler] using tail.subset member
  have reportedAfter : (part ++ statuses (statement.run start).2) ++
      pendingStatuses (statement.run start).1.sta rest = sessionWord := by
    rw [List.append_assoc, pending]
    exact reported
  have soFar : part ++ statuses (statement.run start).2 <+: sessionWord :=
    ⟨_, reportedAfter⟩
  cases rest with
  | nil =>
      have last : statement = .setStartFlag 0 := by
        rcases tail with ⟨front, eq⟩
        have ends : (front ++ [statement]).getLast (by simp) = .setStartFlag 0 := by
          simp only [eq]
          rfl
        simpa using ends
      subst last
      have whole : part ++ statuses (Statement.run start (.setStartFlag 0)).2 = sessionWord := by
        simpa [pendingStatuses] using reportedAfter
      have none : held = 0 := by simpa using locks
      refine ⟨[], 0, ?_, ?_, soFar, .inr ⟨whole, rfl⟩⟩
      · exact .closed rfl (by simp [Statement.run, startEq, Calm])
          (by simpa [Statement.run, startEq] using resting.outside)
      · simp [Statement.run, releases, acquires, none]
  | cons next rest =>
      have other : ∀ value, statement ≠ .setStartFlag value := by
        rintro value rfl
        simp [mnlDieHandler, List.suffix_cons_iff] at tail
      refine ⟨part ++ statuses (statement.run start).2, (next :: rest).count .releaseWakelockCb,
        ?_, by omega, soFar, .inl rfl⟩
      refine .dying ?_ ?_ (hal_run ..) ((List.suffix_cons _ _).trans tail) reportedAfter rfl
      · rw [startFlag_run start statement other]
        exact flag
      · rw [framework_run]
        exact resting

theorem calm_run {statement : Statement}
    (calm : statement ∈ [.releaseStart, .setFlagUnlock 1, .readNmea]) (s : Session) :
    (statement.run s).1.startFlag = s.startFlag ∧ (statement.run s).1.sta = s.sta ∧
      statuses (statement.run s).2 = [] ∧ acquires (statement.run s).2 = 0 ∧
      releases (statement.run s).2 = 0 := by
  simp only [List.mem_cons, List.not_mem_nil, or_false] at calm
  rcases calm with rfl | rfl | rfl <;> simp [Statement.run, statuses, acquires, releases]

theorem calm_gpsHandler (flagUnlock : Int) : Calm (gpsHandler flagUnlock) := by
  intro statement member
  unfold gpsHandler at member
  split at member <;> simp_all

theorem hal_moves (phase : Phase s part held) (within : part <+: sessionWord)
    {statement : Statement} {rest : List Statement} (point : s.hal = statement :: rest) :
    Moves (statement.run { s with hal := rest }).2 part held
      (statement.run { s with hal := rest }).1 := by
  by_cases calm : Calm s.hal
  · have member : statement ∈ s.hal := by simp [point]
    rcases calm_run (calm statement member) { s with hal := rest } with
      ⟨flag, sta, noStatus, noAcquire, noRelease⟩
    refine Phase.still (phase.rehal flag sta (framework_run ..) calm ?_) within noStatus
      noAcquire noRelease
    rw [hal_run]
    exact fun other later => calm other (by simp [point, later])
  · cases phase with
    | closed _ halCalm _ => exact absurd halCalm calm
    | starting _ halCalm _ _ _ _ => exact absurd halCalm calm
    | opened _ halCalm _ => exact absurd halCalm calm
    | dying flag resting dyingPoint tail reported locks =>
        rw [point, List.cons.injEq] at dyingPoint
        rcases dyingPoint with ⟨rfl, rfl⟩
        exact dying_moves flag resting tail reported locks

theorem frameworkStep_moves (phase : Phase s part held) (within : part <+: sessionWord)
    (stepped : frameworkStep s = some (after, out)) : Moves out part held after := by
  unfold frameworkStep at stepped
  split at stepped
  case h_1 point =>
      split at stepped <;> simp only [Option.some.injEq, Prod.mk.injEq] at stepped <;>
        rcases stepped with ⟨rfl, rfl⟩
      · exact phase.still within rfl rfl rfl
      · rename_i flag
        exact Phase.still (phase.reframe rfl rfl rfl (by simp [point, Outside])
          (by simp [Outside]) fun isOne => absurd isOne flag) within rfl rfl rfl
  case h_2 point =>
      split at stepped
      · cases stepped
      · simp only [Option.some.injEq, Prod.mk.injEq] at stepped
        rcases stepped with ⟨rfl, rfl⟩
        cases phase with
        | closed flag calm _ =>
            exact Phase.still (.starting flag calm rfl List.suffix_rfl rfl rfl) within rfl rfl rfl
        | starting _ _ run _ _ _ => simp [point] at run
        | opened _ _ resting => simp [point, Resting] at resting
        | dying _ resting _ _ _ _ => simp [point, Resting] at resting
  case h_3 point =>
      split at stepped <;> simp only [Option.some.injEq, Prod.mk.injEq] at stepped <;>
        rcases stepped with ⟨rfl, rfl⟩
      · exact phase.still within rfl rfl rfl
      · exact Phase.still (phase.reframe rfl rfl rfl (by simp [point, Outside])
          (by simp [Outside]) fun _ _ => trivial) within rfl rfl rfl
  case h_4 point =>
      simp only [Option.some.injEq, Prod.mk.injEq] at stepped
      rcases stepped with ⟨rfl, rfl⟩
      exact Phase.still (phase.reframe rfl rfl rfl (by simp [point, Outside])
        (by simp [Outside]) fun _ _ => trivial) within rfl rfl rfl
  case h_5 statement rest point =>
      have result := Option.some.inj stepped
      obtain rfl : (statement.run { s with framework := .run rest }).1 = after := by rw [result]
      obtain rfl : (statement.run { s with framework := .run rest }).2 = out := by rw [result]
      by_cases outside : Outside s.framework
      · -- `mtk_gps_stop` writes its command
        have suffixes : statement :: rest <:+ stopTail := by simpa [point, Outside] using outside
        have only : statement = .writeControl .stop ∧ rest = [] := by
          simpa [stopTail, List.suffix_cons_iff] using suffixes
        rcases only with ⟨rfl, rfl⟩
        exact Phase.still (phase.reframe rfl rfl rfl outside (by simp [Statement.run, Outside])
          fun _ _ => by simp [Statement.run, Resting]) within rfl rfl rfl
      · cases phase with
        | closed _ _ isOutside => exact absurd isOutside outside
        | starting flag calm run tail reported locks =>
            rw [point, FrameworkPoint.run.injEq, List.cons.injEq] at run
            rcases run with ⟨rfl, rfl⟩
            exact starting_moves flag calm tail reported locks
        | opened _ _ resting => exact absurd resting.outside outside
        | dying _ resting _ _ _ _ => exact absurd resting.outside outside
  all_goals cases stepped

theorem sendStep_moves (phase : Phase s part held) (within : part <+: sessionWord)
    {result : SendResult} (stepped : sendStep s result = some (after, out)) :
    Moves out part held after := by
  have outside : Outside s.framework := by
    unfold sendStep at stepped
    split at stepped <;> simp_all [Outside]
  have goes : after.startFlag = s.startFlag ∧ after.sta = s.sta ∧ after.hal = s.hal ∧
      Outside after.framework ∧ (Resting s.framework → Resting after.framework) ∧
      statuses out = [] ∧ acquires out = 0 ∧ releases out = 0 := by
    unfold sendStep at stepped
    split at stepped
    case h_2 idx point =>
      split at stepped <;> simp only [Option.some.injEq, Prod.mk.injEq] at stepped <;>
        rcases stepped with ⟨rfl, rfl⟩ <;>
        simp_all [Outside, Resting, statuses, acquires, releases]
    case h_6 => cases stepped
    all_goals
      simp only [Option.some.injEq, Prod.mk.injEq] at stepped
      rcases stepped with ⟨rfl, rfl⟩
      simp_all [Outside, Resting, statuses, acquires, releases]
  rcases goes with ⟨flag, sta, hal, outsideAfter, resting, noStatus, noAcquire, noRelease⟩
  exact Phase.still (phase.reframe flag sta hal outside outsideAfter fun _ => resting) within
    noStatus noAcquire noRelease

theorem writeFails_moves (phase : Phase s part held) (within : part <+: sessionWord)
    {cmd : ControlCommand} {rest : List Statement}
    (point : s.framework = .run (.writeControl cmd :: rest)) :
    Moves [] part held { s with framework := .run rest } := by
  by_cases outside : Outside s.framework
  · have suffixes : .writeControl cmd :: rest <:+ stopTail := by
      simpa [point, Outside] using outside
    have restSuffix : rest <:+ stopTail := (List.suffix_cons _ _).trans suffixes
    exact Phase.still (phase.reframe rfl rfl rfl outside restSuffix fun _ _ => restSuffix) within
      rfl rfl rfl
  · cases phase with
    | closed _ _ isOutside => exact absurd isOutside outside
    | starting flag calm run tail reported locks =>
        rw [point, FrameworkPoint.run.injEq, List.cons.injEq] at run
        rcases run with ⟨rfl, rfl⟩
        obtain ⟨_, rfl⟩ : cmd = .start ∧ rest = startTail.tail := by
          simpa [startTail, List.suffix_cons_iff] using tail
        exact Phase.still (.starting flag calm rfl ((List.suffix_cons _ _).trans tail) reported
          locks) within
          rfl rfl rfl
    | opened _ _ resting => exact absurd resting.outside outside
    | dying _ resting _ _ _ _ => exact absurd resting.outside outside

/-- Every orderly step moves along the session word. -/
theorem sessionStep_moves {history : History SessionEvent SessionOutput} {event : SessionEvent}
    (phase : Phase s part held) (within : part <+: sessionWord)
    (orderly : orderlyDaemon history s event) (stepped : sessionStep s event = some (after, out)) :
    Moves out part held after := by
  cases event with
  | callStart | callStop =>
      obtain ⟨idle, ⟨rfl, rfl⟩ | ⟨rfl, rfl⟩⟩ := sessionStep_call rfl stepped
      · exact Phase.still (phase.reframe rfl rfl rfl (by simp [idle, Outside])
          (by simp [Outside]) fun _ _ => trivial) within rfl rfl rfl
      · exact phase.still within rfl rfl rfl
  | framework => exact frameworkStep_moves phase within stepped
  | send result => exact sendStep_moves phase within stepped
  | writeFails =>
      obtain ⟨cmd, rest, point, rfl, rfl⟩ := sessionStep_writeFails stepped
      exact writeFails_moves phase within point
  | hal =>
      obtain ⟨statement, rest, point, ran⟩ := sessionStep_hal stepped
      obtain rfl : (statement.run { s with hal := rest }).1 = after := by rw [ran]
      obtain rfl : (statement.run { s with hal := rest }).2 = out := by rw [ran]
      exact hal_moves phase within point
  | control =>
      obtain ⟨cmd, rest, polling, -, rfl, rfl⟩ := sessionStep_control stepped
      have calm : Calm s.hal := by simp [polling, Calm]
      cases cmd <;> simp only [handleControl] <;> split <;>
        exact Phase.still (phase.rehal rfl rfl rfl calm calm) within rfl rfl rfl
  | gps =>
      obtain ⟨polling, rfl, rfl⟩ := sessionStep_poll rfl stepped
      exact Phase.still (phase.rehal rfl rfl rfl (by simp [polling, Calm])
        (calm_gpsHandler s.flagUnlock)) within rfl rfl rfl
  | mnlDie =>
      obtain ⟨polling, rfl, rfl⟩ := sessionStep_poll rfl stepped
      have opened : s.startFlag = 1 := orderly
      cases phase with
      | closed flag _ _ => simp [flag] at opened
      | starting flag _ _ _ _ _ => simp [flag] at opened
      | opened flag _ resting =>
          exact Phase.still (.dying flag resting rfl List.suffix_rfl rfl rfl) within rfl rfl rfl
      | dying _ _ point _ _ _ => simp [polling] at point
  | gpsIcon status =>
      obtain ⟨polling, rfl, rfl⟩ := sessionStep_poll rfl stepped
      have quiet : gpsIconHandler s.started status = [] := by
        simp only [orderlyDaemon] at orderly
        unfold gpsIconHandler
        split_ifs with isStart zero isStop zero
        · exact absurd zero (orderly (.inr isStart))
        · rfl
        · exact absurd zero (orderly (.inl isStop))
        · rfl
        · rfl
      exact Phase.still (phase.rehal rfl rfl rfl (by simp [polling, Calm])
        (by simp [quiet, Calm])) within rfl rfl rfl

end Steps

/-! ## Runs -/

/-- In every orderly run the statuses are in a round of the session word, and the
wake locks acquired are those released and those the session holds. -/
theorem run_phase {history : History SessionEvent SessionOutput} {s : Session}
    (run : sessions.Run orderlyDaemon history s) :
    ∃ part held, Phase s part held ∧ InRound sessionWord (statuses history.outputs) part ∧
      acquires history.outputs = releases history.outputs + held := by
  refine System.Run.invariant (fun history s => ∃ part held, Phase s part held ∧
    InRound sessionWord (statuses history.outputs) part ∧
    acquires history.outputs = releases history.outputs + held) ?_ ?_ run
  · rintro _ ⟨init, rfl⟩
    exact ⟨[], 0, .closed rfl (by simp [Session.fresh, Calm]) trivial, inRound_nil, rfl⟩
  · rintro history s event after out ⟨part, held, phase, round, locks⟩ orderly stepped
    rcases sessionStep_moves phase round.1 orderly stepped with
      ⟨part', held', phaseAfter, balance, within, next⟩
    refine ⟨part', held', phaseAfter, ?_, ?_⟩
    · have extended := round.append within
      rw [History.outputs_snoc, statuses_append]
      rcases next with rfl | ⟨whole, rfl⟩
      · exact extended
      · exact (whole ▸ extended).close
    · rw [History.outputs_snoc, acquires_append, releases_append]
      omega

/-- In every run in which the daemon's death is handled only with a session open,
and start and stop icons only after `CMD_START` was handled, the statuses follow
the session word and no wake lock is released that was not acquired. -/
theorem session_callbacks_in_order {history : History SessionEvent SessionOutput} {s : Session}
    (run : sessions.Run orderlyDaemon history s) :
    FollowsCycle sessionWord (statuses history.outputs) ∧
      releases history.outputs ≤ acquires history.outputs := by
  obtain ⟨part, held, _, round, locks⟩ := run_phase run
  exact ⟨round.followsCycle, by omega⟩

/-- The events of one session, from the framework's start to the end of the
daemon's death that its stop brings about. -/
def wholeSession : List SessionEvent :=
  ([.callStart, .framework, .send .sent, .gps, .hal, .hal, .hal, .framework, .framework,
      .control] : List SessionEvent) ++
    (List.replicate 8 .framework : List SessionEvent) ++
    ([.callStop, .framework, .send .sent, .framework, .framework, .control,
      .mnlDie] : List SessionEvent) ++
    (List.replicate 8 .hal : List SessionEvent)

theorem session_callbacks_in_order_wholeSession :
    ∃ history s, sessions.Run orderlyDaemon history s ∧
      statuses history.outputs = sessionWord ∧
        FollowsCycle sessionWord (statuses history.outputs) ∧
      releases history.outputs ≤ acquires history.outputs := by
  have run := System.run_of_exec sessions orderlyDaemon wholeSession ⟨true, rfl⟩ (by decide) rfl
  exact ⟨_, _, run, rfl, session_callbacks_in_order run⟩

/-- A daemon that dies before the first start ends a session that never began and
releases a wake lock that was never acquired. -/
theorem death_without_session :
    ∃ history s, sessions.Run System.free history s ∧
      ¬FollowsCycle sessionWord (statuses history.outputs) ∧
      acquires history.outputs < releases history.outputs := by
  have run := System.run_of_exec sessions System.free (.mnlDie :: List.replicate 8 .hal)
    ⟨true, rfl⟩ (by decide) rfl
  refine ⟨_, _, run, ?_, by decide⟩
  intro follows
  exact absurd follows.head_eq (by decide)

end X3Hal.Gps
