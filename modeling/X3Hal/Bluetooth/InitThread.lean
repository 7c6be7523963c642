import X3Hal.Transition.Justified
import Mathlib.Tactic.Common

/-!
# The initialisation thread of the Bluetooth controller

`BT_InitDevice` starts a thread that sends the commands of the chip's script.  The event of a
command comes to the callback that went out with it; the thread waits for it on `cmd_status`.
`BT_Cleanup` asks the thread to end, and waits for its end.

An attempt whose thread was not created is not modelled, and neither is what happens to the
mutex that each thread makes for itself.  The contents of the commands are left out.
-/

namespace X3Hal.Bluetooth

open X3Hal.Transition

/-! ## The scripts -/

/-- The functions `GORMcmd_HCC_...` -/
inductive HciCommand
  | getLocalBdAddr | setLocalBdAddr | setLinkKeyType | setUnitKey | setEncryption
  | setPinCodeType | setVoice | setPcm | setRadio | setTxPowerOffset | setSleepTimeout
  | coexPerformanceAdjust | setBtFtr | setOscInfo | setLpoInfo | setPta | setBlePta
  | setInternalPta1 | setInternalPta2 | setRfReg100 | reset | setFwSysLog | setSspDebugMode
  deriving DecidableEq

/-- The settings of the commands that are sent by request. -/
structure Settings where
  /-- whether `persist.bt.syslog.enable` is "1" -/
  syslog : Bool
  /-- whether `persist.bt.sspdebug.enable` is "1" -/
  sspDebug : Bool
  deriving DecidableEq

namespace HciCommand

/-- What the command sets `wOpCode` to -/
def opCode : HciCommand → Nat
  | getLocalBdAddr => 0x1009
  | setLocalBdAddr => 0xFC1A
  | setLinkKeyType => 0xFC1B
  | setUnitKey => 0xFC75
  | setEncryption => 0xFC76
  | setPinCodeType => 0x0C0A
  | setVoice => 0x0C26
  | setPcm => 0xFC72
  | setRadio => 0xFC79
  | setTxPowerOffset => 0xFC93
  | setSleepTimeout => 0xFC7A
  | coexPerformanceAdjust => 0xFC22
  | setBtFtr => 0xFC7D
  | setOscInfo => 0xFC7B
  | setLpoInfo => 0xFC7C
  | setPta => 0xFC74
  | setBlePta => 0xFCFC
  | setInternalPta1 => 0xFCFB
  | setInternalPta2 => 0xFCFB
  | setRfReg100 => 0xFCB0
  | reset => 0x0C03
  | setFwSysLog => 0xFCBE
  | setSspDebugMode => 0x1804

/-- Whether a debug command is not asked for. -/
def skipped (settings : Settings) : HciCommand → Bool
  | setFwSysLog => !settings.syslog
  | setSspDebugMode => !settings.sspDebug
  | _ => false

end HciCommand

open HciCommand

/-- `bt_init_preload_script_6628` -/
def script6628 : List HciCommand :=
  [getLocalBdAddr, setLocalBdAddr, setLinkKeyType, setUnitKey, setEncryption, setPinCodeType,
    setVoice, setPcm, setRadio, setTxPowerOffset, setSleepTimeout, setBtFtr, setOscInfo,
    setLpoInfo, setPta, setBlePta, reset, setInternalPta1, setInternalPta2, setRfReg100,
    setFwSysLog]

/-- `bt_init_preload_script_6630` -/
def script6630 : List HciCommand :=
  [getLocalBdAddr, setLocalBdAddr, setPcm, setRadio, setTxPowerOffset, setSleepTimeout,
    coexPerformanceAdjust, setFwSysLog, setSspDebugMode]

/-- `bt_init_preload_script_6632` -/
def script6632 : List HciCommand :=
  [getLocalBdAddr, setLocalBdAddr, setPcm, setRadio, setTxPowerOffset, setSleepTimeout, reset,
    setFwSysLog, setSspDebugMode]

/-- `bt_init_preload_script_consys` -/
def scriptConsys : List HciCommand :=
  [setLocalBdAddr, setRadio, setTxPowerOffset, setSleepTimeout, reset, setFwSysLog,
    setSspDebugMode]

def consysChips : List Nat :=
  [0x8163, 0x8127, 0x8167, 0x6582, 0x6592, 0x6752, 0x0321, 0x0335, 0x0337, 0x6580, 0x6570,
    0x6755, 0x6797, 0x6757, 0x6759, 0x6763, 0x6758, 0x6739, 0x6771, 0x6775]

/-- The script of a chip, with `fgConsys` -/
def chipScript (chipId : Nat) : Option (List HciCommand × Bool) :=
  if chipId = 0x6628 then some (script6628, false)
  else if chipId = 0x6630 then some (script6630, false)
  else if chipId = 0x6632 then some (script6632, false)
  else if chipId ∈ consysChips then some (scriptConsys, true)
  else none

/-! ## The thread -/

/-- `HCI_CMD_STATUS_T` -/
inductive CmdStatus
  | success | fail | pending | terminate
  deriving DecidableEq

/-- What an attempt has to send. -/
structure Plan where
  /-- `cur_script` -/
  script : List HciCommand
  /-- the index of the first command -/
  start : Nat
  settings : Settings
  deriving DecidableEq

/-- Where the thread is, with the index `i` of its command. -/
inductive ThreadPlace
  | none
  | created
  /-- at the condition of the loop -/
  | loop (i : Nat)
  /-- before it has a buffer and sets `CMD_PENDING` -/
  | arm (i : Nat)
  /-- before it calls `command_func` -/
  | sending (i : Nat)
  /-- before it looks at the status -/
  | waiting (i : Nat)
  /-- before it calls `fwcfg_cb` -/
  | ending (i : Nat) (ret : Bool)
  /-- before it clears `worker_thread_running` -/
  | reported
  | done
  deriving DecidableEq

/-- Where the calls of `BT_InitDevice` and `BT_Cleanup` are. -/
inductive MainPlace
  | out
  /-- before `BT_InitDevice` sets `worker_thread_running` -/
  | creating
  | inited
  | joining
  deriving DecidableEq

/-- A callback that went out with a command. -/
structure Callback where
  attempt : Nat
  index : Nat
  command : HciCommand
  deriving DecidableEq

/-- An event that its handler has looked at, before it sets `cmd_status`. -/
structure Verdict where
  attempt : Nat
  index : Nat
  code : Nat
  opCode : Nat
  status : Nat
  /-- `success` -/
  passes : Bool
  deriving DecidableEq

structure InitState where
  attempt : Nat
  chipId : Nat
  /-- whether the address is one of `ucDefaultAddr` and `ucZeroAddr` -/
  nvramIsDefault : Bool
  plan : Plan
  place : ThreadPlace
  main : MainPlace
  /-- `worker_thread_running` -/
  running : Bool
  cmdStatus : CmdStatus
  /-- `wOpCode` -/
  opCode : Nat
  fgGetEfuse : Bool
  callbacks : List Callback
  verdicts : List Verdict

inductive InitEvent
  | initDevice (chipId : Nat) (nvramIsDefault : Bool) (settings : Settings)
  | created
  | cleanup
  | join
  | start
  | check
  | arm (allocated : Bool)
  | send (accepted : Bool)
  | look
  | report
  | finish
  /-- An event comes to the callback of a command. -/
  | receive (attempt index code opCode status : Nat)
  | signal (verdict : Verdict)
  deriving DecidableEq

inductive InitOutput
  | started (attempt : Nat) (plan : Plan)
  /-- The command is in flight from `CMD_PENDING` on. -/
  | armed (attempt index : Nat)
  | sent (attempt index : Nat) (command : HciCommand)
  /-- An event of a command has set `cmd_status`. -/
  | event (attempt index code opCode status : Nat)
  /-- `notify_thread_exit` -/
  | notified (attempt : Nat)
  /-- The thread has seen `CMD_TERMINATE`. -/
  | terminated (attempt : Nat)
  /-- `fwcfg_cb` -/
  | reported (attempt : Nat) (ret : Bool)
  deriving DecidableEq

/-- The event code of Command Complete -/
def commandComplete : Nat := 0x0E

namespace InitState

/-- `BT_InitDevice`, up to the creation of the thread -/
def initDevice (chipId : Nat) (nvramIsDefault : Bool) (settings : Settings) (state : InitState) :
    InitState :=
  { state with
    attempt := state.attempt + 1
    chipId := chipId
    nvramIsDefault := nvramIsDefault
    plan := ⟨[], 0, settings⟩
    place := .created
    main := .creating
    running := false }

/-- `BT_Cleanup`, up to `pthread_join` -/
def cleanup (state : InitState) : InitState × List InitOutput :=
  if state.running then
    ({ state with main := .joining, cmdStatus := .terminate }, [.notified state.attempt])
  else ({ state with main := .joining }, [])

/-- The thread up to its loop -/
def start (state : InitState) : InitState × List InitOutput :=
  match chipScript state.chipId with
  | none => ({ state with place := .ending 0 false }, [])
  | some (script, fgConsys) =>
      let fgGetEfuse := if fgConsys then state.fgGetEfuse
        else state.fgGetEfuse || state.nvramIsDefault
      -- without the flag a combo chip skips `GORMcmd_HCC_Get_Local_BD_Addr`
      let first := if fgConsys then 0 else if fgGetEfuse then 0 else 1
      let plan := ⟨script, first, state.plan.settings⟩
      ({ state with fgGetEfuse := fgGetEfuse, plan := plan, place := .loop first },
        [.started state.attempt plan])

/-- What `ret` is when the thread leaves its loop. -/
def leave (i : Nat) (state : InitState) : InitState :=
  { state with place := .ending i (state.plan.script[i]?).isNone }

/-- The condition of the loop, and the settings -/
def check (i : Nat) (state : InitState) : InitState × List InitOutput :=
  match state.plan.script[i]? with
  | none => (state.leave i, [])
  | some command =>
      if state.cmdStatus = .terminate then (state.leave i, [.terminated state.attempt])
      else if command.skipped state.plan.settings then ({ state with place := .loop (i + 1) }, [])
      else ({ state with place := .arm i }, [])

def arm (i : Nat) (allocated : Bool) (state : InitState) : InitState × List InitOutput :=
  if allocated then
    if state.cmdStatus = .terminate then (state.leave i, [.terminated state.attempt])
    else ({ state with cmdStatus := .pending, place := .sending i }, [.armed state.attempt i])
  else (state.leave i, [])

/-- `command_func` -/
def send (i : Nat) (accepted : Bool) (command : HciCommand) (state : InitState) :
    InitState × List InitOutput :=
  let called := { state with
    opCode := command.opCode
    fgGetEfuse := if command = setLocalBdAddr then false else state.fgGetEfuse }
  if accepted then
    ({ called with
        callbacks := ⟨state.attempt, i, command⟩ :: state.callbacks, place := .waiting i },
      [.sent state.attempt i command])
  else (called.leave i, [])

/-- The thread wakes up. -/
def look (i : Nat) (state : InitState) : Option (InitState × List InitOutput) :=
  match state.cmdStatus with
  | .pending => none
  | .success => some ({ state with place := .loop (i + 1) }, [])
  | .fail => some (state.leave i, [])
  | .terminate =>
      -- restore the global variable for next time
      some ({ state.leave i with cmdStatus := .success }, [.terminated state.attempt])

/-- `GORMevt_HCE_Get_Local_BD_Addr` and `GORMevt_HCE_Common_Complete`, up to the mutex -/
def verdict (callback : Callback) (code opCode status : Nat) (state : InitState) : Verdict :=
  let expected := if callback.command = getLocalBdAddr then 0x1009 else state.opCode
  ⟨callback.attempt, callback.index, code, opCode, status,
    decide (code = commandComplete ∧ opCode = expected ∧ status = 0)⟩

def step (state : InitState) : InitEvent → Option (InitState × List InitOutput)
  | .initDevice chipId nvramIsDefault settings =>
      if state.main = .out then some (state.initDevice chipId nvramIsDefault settings, [])
      else none
  | .created =>
      if state.main = .creating then some ({ state with main := .inited, running := true }, [])
      else none
  | .cleanup => if state.main = .inited then some state.cleanup else none
  | .join =>
      if state.main = .joining ∧ state.place = .done then
        some ({ state with main := .out, place := .none }, [])
      else none
  | .start => if state.place = .created then some state.start else none
  | .check =>
      match state.place with
      | .loop i => some (state.check i)
      | _ => none
  | .arm allocated =>
      match state.place with
      | .arm i => some (state.arm i allocated)
      | _ => none
  | .send accepted =>
      match state.place with
      | .sending i => (state.plan.script[i]?).map fun command => state.send i accepted command
      | _ => none
  | .look =>
      match state.place with
      | .waiting i => state.look i
      | _ => none
  | .report =>
      match state.place with
      | .ending _ ret => some ({ state with place := .reported }, [.reported state.attempt ret])
      | _ => none
  | .finish =>
      if state.place = .reported then some ({ state with place := .done, running := false }, [])
      else none
  | .receive attempt index code opCode status =>
      (state.callbacks.find? fun callback =>
        callback.attempt = attempt ∧ callback.index = index).map fun callback =>
          ({ state with
            verdicts := state.verdict callback code opCode status :: state.verdicts }, [])
  | .signal verdict =>
      if verdict ∈ state.verdicts then
        some ({ state with
          cmdStatus := if verdict.passes then .success else .fail
          verdicts := state.verdicts.erase verdict },
          [.event verdict.attempt verdict.index verdict.code verdict.opCode verdict.status])
      else none

/-- What the state is before each event, and what its step is. -/
def Steps (state : InitState) (event : InitEvent) (result : InitState × List InitOutput) : Prop :=
  match event with
  | .initDevice chipId nvramIsDefault settings => state.main = .out ∧
      result = (state.initDevice chipId nvramIsDefault settings, [])
  | .created => state.main = .creating ∧
      result = ({ state with main := .inited, running := true }, [])
  | .cleanup => state.main = .inited ∧ result = state.cleanup
  | .join => (state.main = .joining ∧ state.place = .done) ∧
      result = ({ state with main := .out, place := .none }, [])
  | .start => state.place = .created ∧ result = state.start
  | .check => ∃ i, state.place = .loop i ∧ result = state.check i
  | .arm allocated => ∃ i, state.place = .arm i ∧ result = state.arm i allocated
  | .send accepted => ∃ i command, state.place = .sending i ∧
      state.plan.script[i]? = some command ∧ result = state.send i accepted command
  | .look => ∃ i, state.place = .waiting i ∧ state.look i = some result
  | .report => ∃ i ret, state.place = .ending i ret ∧
      result = ({ state with place := .reported }, [.reported state.attempt ret])
  | .finish => state.place = .reported ∧
      result = ({ state with place := .done, running := false }, [])
  | .receive attempt index code opCode status => ∃ callback ∈ state.callbacks,
      (callback.attempt = attempt ∧ callback.index = index) ∧
      result = ({ state with
        verdicts := state.verdict callback code opCode status :: state.verdicts }, [])
  | .signal verdict => verdict ∈ state.verdicts ∧
      result = ({ state with
          cmdStatus := if verdict.passes then .success else .fail
          verdicts := state.verdicts.erase verdict },
        [.event verdict.attempt verdict.index verdict.code verdict.opCode verdict.status])

theorem steps_of_step {state : InitState} {event : InitEvent}
    {result : InitState × List InitOutput}
    (stepped : state.step event = some result) : state.Steps event result := by
  cases event with
  | initDevice | created | cleanup | join | start | finish | signal =>
      simp only [step] at stepped
      split at stepped
      case isTrue due => exact ⟨due, (Option.some.inj stepped).symm⟩
      case isFalse => cases stepped
  | check | arm =>
      simp only [step] at stepped
      split at stepped
      case h_1 i atPlace => exact ⟨i, atPlace, (Option.some.inj stepped).symm⟩
      case h_2 => cases stepped
  | send accepted =>
      simp only [step] at stepped
      split at stepped
      case h_1 i atSending =>
        rcases Option.map_eq_some_iff.mp stepped with ⟨command, scripted, same⟩
        exact ⟨i, command, atSending, scripted, same.symm⟩
      case h_2 => cases stepped
  | look =>
      simp only [step] at stepped
      split at stepped
      case h_1 i atWaiting => exact ⟨i, atWaiting, stepped⟩
      case h_2 => cases stepped
  | report =>
      simp only [step] at stepped
      split at stepped
      case h_1 i ret atEnding => exact ⟨i, ret, atEnding, (Option.some.inj stepped).symm⟩
      case h_2 => cases stepped
  | receive attempt index code opCode status =>
      rcases Option.map_eq_some_iff.mp stepped with ⟨callback, found, same⟩
      have isCallback : callback.attempt = attempt ∧ callback.index = index := by
        simpa using List.find?_some found
      exact ⟨callback, List.mem_of_find?_eq_some found, isCallback, same.symm⟩

end InitState

def initInit : InitState :=
  ⟨0, 0, false, ⟨[], 0, ⟨false, false⟩⟩, .none, .out, false, .success, 0, false, [], []⟩

def initSystem : System InitState InitEvent InitOutput where
  Init := fun state => state = initInit
  step := InitState.step

/-! ## What an attempt promises -/

/-- What an attempt has started with. -/
def planOf (attempt : Nat) (outputs : List InitOutput) : Option Plan :=
  outputs.findSome? fun output =>
    match output with
    | .started other plan => if other = attempt then some plan else none
    | .armed _ _ | .sent _ _ _ | .event _ _ _ _ _ | .notified _ | .terminated _
    | .reported _ _ => none

/-- A command was skipped, or was sent and got its own successful Command Complete. -/
def Answered (outputs : List InitOutput) (attempt : Nat) (plan : Plan) (index : Nat) : Prop :=
  ∀ command ∈ plan.script[index]?, command.skipped plan.settings = true ∨
    (.sent attempt index command ∈ outputs ∧
      .event attempt index commandComplete command.opCode 0 ∈ outputs)

/-- A command is the next one of its script, is sent once, and was in flight when the thread was
asked to end. -/
structure SentInTurn (before : List InitOutput) (attempt index : Nat) (command : HciCommand)
    (plan : Plan) : Prop where
  started : plan.start ≤ index
  scripted : plan.script[index]? = some command
  wanted : command.skipped plan.settings = false
  answered : ∀ earlier < index, plan.start ≤ earlier → Answered before attempt plan earlier
  once : .sent attempt index command ∉ before
  inFlight : .notified attempt ∈ before →
    .armed attempt index ∈ before.takeWhile (· ≠ .notified attempt)

/-- Every command of an attempt is answered. -/
def Completed (outputs : List InitOutput) (attempt : Nat) (plan : Plan) : Prop :=
  ∀ index < plan.script.length, plan.start ≤ index → Answered outputs attempt plan index

/-- The commands are sent in turn; a thread is ended only if it was asked to end in its own
attempt; and success is reported exactly for a script that is completed. -/
def AttemptDue (before : List InitOutput) : InitOutput → Prop
  | .sent attempt index command =>
      ∃ plan ∈ planOf attempt before, SentInTurn before attempt index command plan
  | .terminated attempt => .notified attempt ∈ before
  | .reported attempt ret =>
      ∀ plan ∈ planOf attempt before, ret = true ↔ Completed before attempt plan
  | .started _ _ | .armed _ _ | .event _ _ _ _ _ | .notified _ => True

instance (outputs : List InitOutput) (attempt : Nat) (plan : Plan) (index : Nat) :
    Decidable (Answered outputs attempt plan index) :=
  inferInstanceAs (Decidable (∀ command ∈ plan.script[index]?, _ ∨ (_ ∧ _)))

instance (outputs : List InitOutput) (attempt : Nat) (plan : Plan) :
    Decidable (Completed outputs attempt plan) :=
  inferInstanceAs (Decidable (∀ index < plan.script.length, _ → Answered _ _ _ index))

instance (before : List InitOutput) (attempt index : Nat) (command : HciCommand) (plan : Plan) :
    Decidable (SentInTurn before attempt index command plan) :=
  decidable_of_iff
    (plan.start ≤ index ∧ plan.script[index]? = some command ∧
      command.skipped plan.settings = false ∧
      (∀ earlier < index, plan.start ≤ earlier → Answered before attempt plan earlier) ∧
      .sent attempt index command ∉ before ∧
      (.notified attempt ∈ before →
        .armed attempt index ∈ before.takeWhile (· ≠ .notified attempt)))
    ⟨fun ⟨started, scripted, wanted, answered, once, inFlight⟩ =>
      ⟨started, scripted, wanted, answered, once, inFlight⟩,
      fun turn => ⟨turn.started, turn.scripted, turn.wanted, turn.answered, turn.once,
        turn.inFlight⟩⟩

instance (before : List InitOutput) (output : InitOutput) : Decidable (AttemptDue before output) :=
  match output with
  | .sent attempt index command =>
      inferInstanceAs (Decidable (∃ plan ∈ planOf attempt before,
        SentInTurn before attempt index command plan))
  | .terminated _ => inferInstanceAs (Decidable (_ ∈ before))
  | .reported attempt ret =>
      inferInstanceAs (Decidable (∀ plan ∈ planOf attempt before,
        (ret = true ↔ Completed before attempt plan)))
  | .started _ _ | .armed _ _ | .event _ _ _ _ _ | .notified _ => inferInstanceAs (Decidable True)

/-! ## What the attempts rely on -/

/-- A later command of the script is not skipped. -/
def LaterCommand (plan : Plan) (i : Nat) : Prop :=
  ∃ later < plan.script.length, i < later ∧
    ∀ command ∈ plan.script[later]?, command.skipped plan.settings = false

/-- A success is the answer of the command that the thread waits for, and an error does not come
after it. -/
def SignalDue (verdict : Verdict) (state : InitState) : ThreadPlace → Prop
  | .waiting i =>
      if verdict.passes then
        state.cmdStatus = .success ∨
          (state.cmdStatus = .pending ∧ verdict.attempt = state.attempt ∧ verdict.index = i)
      else state.cmdStatus ≠ .success
  | .sending _ => verdict.passes = false
  | .ending i _ =>
      verdict.passes = false ∨ verdict.attempt ≠ state.attempt ∨ verdict.index ≠ i
  | .none | .created | .loop _ | .arm _ | .reported | .done => True

/-- The thread is asked to end while a command is in flight, and not when the last one has its
answer. -/
def NoticeDue (state : InitState) : ThreadPlace → Prop
  | .waiting i => state.cmdStatus = .success → LaterCommand state.plan i
  | .sending _ => True
  | .none | .created | .loop _ | .arm _ | .ending _ _ | .reported | .done => False

/-- Events and notices come when the thread looks for them; a command that was not accepted was
not in flight when the thread was asked to end. -/
def SignalsSeen : System.Guard InitState InitEvent InitOutput
  | _, state, .signal verdict => SignalDue verdict state state.place
  | _, state, .cleanup => state.running = true → NoticeDue state state.place
  | _, state, .send accepted => accepted = false → state.cmdStatus ≠ .terminate
  | _, _, .initDevice _ _ _ | _, _, .created | _, _, .join | _, _, .start | _, _, .check
  | _, _, .arm _ | _, _, .look | _, _, .report | _, _, .finish | _, _, .receive _ _ _ _ _ => True

instance (plan : Plan) (i : Nat) : Decidable (LaterCommand plan i) :=
  inferInstanceAs
    (Decidable (∃ later < plan.script.length, _ ∧ ∀ command ∈ plan.script[later]?, _))

instance (verdict : Verdict) (state : InitState) (place : ThreadPlace) :
    Decidable (SignalDue verdict state place) :=
  match place with
  | .waiting _ => inferInstanceAs (Decidable (if verdict.passes then _ else _))
  | .sending _ => inferInstanceAs (Decidable (_ = _))
  | .ending _ _ => inferInstanceAs (Decidable (_ ∨ _))
  | .none | .created | .loop _ | .arm _ | .reported | .done => inferInstanceAs (Decidable True)

instance (state : InitState) (place : ThreadPlace) : Decidable (NoticeDue state place) :=
  match place with
  | .waiting i => inferInstanceAs (Decidable (_ → LaterCommand state.plan i))
  | .sending _ => inferInstanceAs (Decidable True)
  | .none | .created | .loop _ | .arm _ | .ending _ _ | .reported | .done =>
      inferInstanceAs (Decidable False)

instance (history : History InitEvent InitOutput) (state : InitState) (event : InitEvent) :
    Decidable (SignalsSeen history state event) :=
  match event with
  | .signal verdict => inferInstanceAs (Decidable (SignalDue verdict state state.place))
  | .cleanup => inferInstanceAs (Decidable (_ → NoticeDue state state.place))
  | .send _ => inferInstanceAs (Decidable (_ → _))
  | .initDevice _ _ _ | .created | .join | .start | .check | .arm _ | .look | .report | .finish
  | .receive _ _ _ _ _ => inferInstanceAs (Decidable True)

end X3Hal.Bluetooth
