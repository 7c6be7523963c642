import X3Hal.Transition.Core

/-!
# GPS sessions of the HAL

Two threads share the session state of `gps_mtk_aosp.c`: the framework thread,
which runs `mtk_gps_start` and `mtk_gps_stop`, and the HAL thread, which runs the
epoll loop of `gps_state_thread` and, inside it, `mnld_to_gps_handler`.  Straight
line code of either thread is a list of statements that have not run yet, so the
threads interleave between any two statements.
-/

namespace X3Hal.Gps

open X3Hal.Transition

/-- The values of `sta.status`. -/
inductive GpsStatusValue
  | none
  | sessionBegin
  | sessionEnd
  | engineOn
  | engineOff
  deriving DecidableEq, Repr

/-- The bytes of the control socket that concern a session. -/
inductive ControlCommand
  | start
  | stop
  deriving DecidableEq, Repr

/-- Statements of the handlers, each one access to what the threads share. -/
inductive Statement
  /-- `flag_unlock = value` -/
  | setFlagUnlock (value : Int)
  /-- `sta.status = value` -/
  | setStatus (value : GpsStatusValue)
  /-- `callback_backup_mtk.base.status_cb(&sta)` -/
  | statusCb
  /-- `callback_backup_mtk.base.acquire_wakelock_cb()` -/
  | acquireWakelockCb
  /-- `callback_backup_mtk.base.release_wakelock_cb()` -/
  | releaseWakelockCb
  /-- `release_condition(&lock_for_sync[M_START])` -/
  | releaseStart
  /-- `release_condition(&lock_for_sync[M_STOP])` -/
  | releaseStop
  /-- `if (lock_for_sync[M_STOP].condtion == 1) lock_for_sync[M_STOP].condtion = 0` -/
  | clearStop
  /-- `s->start_flag = value` -/
  | setStartFlag (value : Int)
  /-- `write(s->control[0], &cmd, 1)` -/
  | writeControl (cmd : ControlCommand)
  /-- the `read` of the gps descriptor -/
  | readNmea
  deriving DecidableEq, Repr

/-- Where the framework thread is. -/
inductive FrameworkPoint
  /-- outside `mtk_gps_start` and `mtk_gps_stop` -/
  | idle
  /-- `while (s->start_flag == 1)` of `mtk_gps_start` -/
  | startLoop
  /-- a send of `mtk_start`, after `idx` retries -/
  | startSend (idx : Nat)
  /-- `get_condition(&lock_for_sync[M_START])` -/
  | startWait
  /-- `while (s->start_flag == 0)` of `mtk_gps_stop` -/
  | stopLoop
  /-- the send of `mtk_stop` -/
  | stopSend
  /-- straight line code up to the return -/
  | run (rest : List Statement)
  deriving DecidableEq, Repr

/-- The shared variables and both threads' positions. -/
structure Session where
  /-- `s->init` -/
  init : Bool
  /-- `s->start_flag` -/
  startFlag : Int
  started : Int
  flagUnlock : Int
  /-- `lock_for_sync[M_START].condtion` -/
  startCondtion : Int
  /-- `lock_for_sync[M_STOP].condtion` -/
  stopCondtion : Int
  sta : GpsStatusValue
  /-- bytes written to `control[0]` and not read from `control[1]` yet -/
  control : List ControlCommand
  framework : FrameworkPoint
  /-- what the HAL thread has left of the event it handles; it polls when nothing is left -/
  hal : List Statement
  deriving DecidableEq, Repr

/-- The state of a fresh process, before or after `mtk_gps_init`. -/
def Session.fresh (init : Bool) : Session where
  init := init
  startFlag := 0
  started := 0
  flagUnlock := 0
  startCondtion := 0
  stopCondtion := 0
  sta := .none
  control := []
  framework := .idle
  hal := []

/-- How `mtk_daemon_send` ends. -/
inductive SendResult
  | sent
  /-- an error with `errno == EPIPE` -/
  | brokenPipe
  | failed
  deriving DecidableEq, Repr

/-- What the other side of the session sees. -/
inductive SessionOutput
  | status (value : GpsStatusValue)
  | acquireWakelock
  | releaseWakelock
  /-- `MNL_CMD_START` went out -/
  | startSent
  /-- `MNL_CMD_STOP` went out -/
  | stopSent
  /-- `get_condition(&lock_for_sync[M_START])` returned -/
  | startWaitReturned
  | nmeaRead
  /-- `mtk_gps_start` or `mtk_gps_stop` returned -/
  | returned (code : Int)
  deriving DecidableEq, Repr

/-- What can happen next. -/
inductive SessionEvent
  /-- the framework calls `mtk_gps_start` -/
  | callStart
  /-- the framework calls `mtk_gps_stop` -/
  | callStop
  /-- the framework thread takes its next step -/
  | framework
  /-- the framework thread sends to the daemon -/
  | send (result : SendResult)
  /-- the framework thread's `write` to the control socket fails -/
  | writeFails
  /-- the HAL thread takes the next step of the event it handles -/
  | hal
  /-- the HAL thread handles a byte of the control socket -/
  | control
  /-- the HAL thread finds the gps descriptor readable -/
  | gps
  /-- the HAL thread receives `HAL_CMD_MNL_DIE` -/
  | mnlDie
  /-- the HAL thread receives `HAL_CMD_GPS_ICON` -/
  | gpsIcon (status : Int)
  deriving DecidableEq, Repr

/-- Run one statement. -/
def Statement.run (s : Session) : Statement → Session × List SessionOutput
  | .setFlagUnlock value => ({ s with flagUnlock := value }, [])
  | .setStatus value => ({ s with sta := value }, [])
  | .statusCb => (s, [.status s.sta])
  | .acquireWakelockCb => (s, [.acquireWakelock])
  | .releaseWakelockCb => (s, [.releaseWakelock])
  | .releaseStart => ({ s with startCondtion := 1 }, [])
  | .releaseStop => ({ s with stopCondtion := 1 }, [])
  | .clearStop => (if s.stopCondtion = 1 then { s with stopCondtion := 0 } else s, [])
  | .setStartFlag value => ({ s with startFlag := value }, [])
  | .writeControl cmd => ({ s with control := s.control ++ [cmd] }, [])
  | .readNmea => (s, [.nmeaRead])

@[simp]
theorem framework_run (s : Session) (statement : Statement) :
    (statement.run s).1.framework = s.framework := by
  cases statement with
  | clearStop => simp only [Statement.run]; split <;> rfl
  | _ => rfl

@[simp]
theorem hal_run (s : Session) (statement : Statement) : (statement.run s).1.hal = s.hal := by
  cases statement with
  | clearStop => simp only [Statement.run]; split <;> rfl
  | _ => rfl

/-- `mtk_gps_start` after the wait for `M_START`. -/
def startTail : List Statement :=
  [.writeControl .start, .setStatus .engineOn, .statusCb, .setStatus .sessionBegin, .statusCb,
    .acquireWakelockCb, .clearStop, .setStartFlag 1]

/-- `mtk_gps_stop` after `mtk_stop`. -/
def stopTail : List Statement :=
  [.writeControl .stop]

/-- The case `HAL_CMD_MNL_DIE` of `mnld_to_gps_handler`. -/
def mnlDieHandler : List Statement :=
  [.setFlagUnlock 0, .setStatus .sessionEnd, .statusCb, .setStatus .engineOff, .statusCb,
    .releaseStop, .releaseWakelockCb, .setStartFlag 0]

/-- The case `HAL_CMD_GPS_ICON` of `mnld_to_gps_handler`. -/
def gpsIconHandler (started status : Int) : List Statement :=
  if status = 1 then
    if started = 0 then
      [.setStatus .engineOn, .statusCb, .setStatus .sessionBegin, .statusCb]
    else []
  else if status = 0 then
    if started = 0 then
      [.setStatus .engineOff, .statusCb, .setStatus .sessionEnd, .statusCb]
    else []
  else []

/-- The branch of `gps_state_thread` for the gps descriptor.  Thinned events read too. -/
def gpsHandler (flagUnlock : Int) : List Statement :=
  if flagUnlock = 0 then [.releaseStart, .setFlagUnlock 1, .readNmea] else [.readNmea]

/-- The branch of `gps_state_thread` for a byte of the control socket. -/
def handleControl (s : Session) : ControlCommand → Session
  | .start => if s.started = 0 then { s with started := 1 } else s
  | .stop => if s.started ≠ 0 then { s with started := 0 } else s

/-- The number of retries of `mtk_start`. -/
def maxStartRetries : Nat := 5

/-- The framework thread's next step, where it needs no answer from outside. -/
def frameworkStep (s : Session) : Option (Session × List SessionOutput) :=
  match s.framework with
  | .startLoop =>
      some (if s.startFlag = 1 then s else { s with framework := .startSend 0 }, [])
  | .startWait =>
      -- `pthread_cond_wait` blocks while the condition is not set
      if s.startCondtion = 0 then none
      else some ({ s with startCondtion := 0, framework := .run startTail }, [.startWaitReturned])
  | .stopLoop =>
      some (if s.startFlag = 0 then s else { s with framework := .stopSend }, [])
  | .run [] => some ({ s with framework := .idle }, [.returned 0])
  | .run (statement :: rest) =>
      some (Statement.run { s with framework := .run rest } statement)
  | .idle | .startSend _ | .stopSend => none

/-- The framework thread sends to the daemon and goes on with the result. -/
def sendStep (s : Session) (result : SendResult) : Option (Session × List SessionOutput) :=
  match s.framework, result with
  | .startSend _, .sent => some ({ s with framework := .startWait }, [.startSent])
  | .startSend idx, .brokenPipe =>
      if idx < maxStartRetries then some ({ s with framework := .startSend (idx + 1) }, [])
      else some ({ s with framework := .idle }, [.returned (-1)])
  | .startSend _, .failed => some ({ s with framework := .idle }, [.returned (-1)])
  | .stopSend, .sent => some ({ s with framework := .run stopTail }, [.stopSent])
  | .stopSend, _ => some ({ s with framework := .idle }, [.returned (-1)])
  | _, _ => none

/-- One step of the two threads. -/
def sessionStep (s : Session) : SessionEvent → Option (Session × List SessionOutput)
  | .callStart =>
      if s.framework ≠ .idle then none
      else if s.init then some ({ s with framework := .startLoop }, [])
      else some (s, [.returned (-1)])
  | .callStop =>
      if s.framework ≠ .idle then none
      else if s.init then some ({ s with framework := .stopLoop }, [])
      else some (s, [.returned (-1)])
  | .framework => frameworkStep s
  | .send result => sendStep s result
  | .writeFails =>
      match s.framework with
      | .run (.writeControl _ :: rest) => some ({ s with framework := .run rest }, [])
      | _ => none
  | .hal =>
      match s.hal with
      | [] => none
      | statement :: rest => some (Statement.run { s with hal := rest } statement)
  | .control =>
      match s.hal, s.control with
      | [], cmd :: rest => some (handleControl { s with control := rest } cmd, [])
      | _, _ => none
  | .gps =>
      if s.hal = [] then some ({ s with hal := gpsHandler s.flagUnlock }, []) else none
  | .mnlDie =>
      if s.hal = [] then some ({ s with hal := mnlDieHandler }, []) else none
  | .gpsIcon status =>
      if s.hal = [] then some ({ s with hal := gpsIconHandler s.started status }, []) else none

section Step

variable {s after : Session} {out : List SessionOutput}

/-- A call of the framework enters its loop, or is refused. -/
theorem sessionStep_call {event : SessionEvent} {entered : FrameworkPoint}
    (event_eq : sessionStep s event = if s.framework ≠ .idle then none
      else if s.init then some ({ s with framework := entered }, [])
      else some (s, [.returned (-1)]))
    (stepped : sessionStep s event = some (after, out)) :
    s.framework = .idle ∧
      ((after = { s with framework := entered } ∧ out = []) ∨
        (after = s ∧ out = [.returned (-1)])) := by
  rw [event_eq] at stepped
  split at stepped
  case isTrue => cases stepped
  case isFalse idle =>
    refine ⟨not_not.mp idle, ?_⟩
    split at stepped
    · cases stepped
      exact .inl ⟨rfl, rfl⟩
    · cases stepped
      exact .inr ⟨rfl, rfl⟩

theorem sessionStep_writeFails (stepped : sessionStep s .writeFails = some (after, out)) :
    ∃ cmd rest, s.framework = .run (.writeControl cmd :: rest) ∧
      after = { s with framework := .run rest } ∧ out = [] := by
  simp only [sessionStep] at stepped
  split at stepped
  case h_1 cmd rest point =>
    cases stepped
    exact ⟨cmd, rest, point, rfl, rfl⟩
  case h_2 => cases stepped

/-- The thread runs the next statement of its handler. -/
theorem sessionStep_hal (stepped : sessionStep s .hal = some (after, out)) :
    ∃ statement rest, s.hal = statement :: rest ∧
      statement.run { s with hal := rest } = (after, out) := by
  simp only [sessionStep] at stepped
  split at stepped
  case h_1 => cases stepped
  case h_2 statement rest point => exact ⟨statement, rest, point, Option.some.inj stepped⟩

theorem sessionStep_control (stepped : sessionStep s .control = some (after, out)) :
    ∃ cmd rest, s.hal = [] ∧ s.control = cmd :: rest ∧
      after = handleControl { s with control := rest } cmd ∧ out = [] := by
  simp only [sessionStep] at stepped
  split at stepped
  case h_1 cmd rest polling waiting =>
    cases stepped
    exact ⟨cmd, rest, polling, waiting, rfl, rfl⟩
  case h_2 => cases stepped

/-- An event of a descriptor finds the thread polling and starts its handler. -/
theorem sessionStep_poll {event : SessionEvent} {handler : List Statement}
    (event_eq : sessionStep s event = if s.hal = [] then some ({ s with hal := handler }, [])
      else none)
    (stepped : sessionStep s event = some (after, out)) :
    s.hal = [] ∧ after = { s with hal := handler } ∧ out = [] := by
  rw [event_eq] at stepped
  split at stepped
  case isTrue polling =>
    cases stepped
    exact ⟨polling, rfl, rfl⟩
  case isFalse => cases stepped

end Step

/-- The session system. -/
def sessions : System Session SessionEvent SessionOutput where
  Init s := ∃ init, s = Session.fresh init
  step := sessionStep

end X3Hal.Gps
