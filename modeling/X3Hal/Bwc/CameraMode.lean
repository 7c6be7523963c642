import X3Hal.Transition.Loops
import Mathlib.Data.List.Induction
import Mathlib.Tactic.Common

/-!
# The camera mode

`mmdvfs_set` and `mmdvfs_query` give the driver a command with flags for the kinds of camera
modes.  A set starts from the mode that the last set has left, a query from the default, and
each changes it by its arguments, pairs of a parameter and a value.
-/

namespace X3Hal.Bwc

open X3Hal.Transition

/-- An `unsigned int`, or an `int` as an argument. -/
abbrev Word := BitVec 32

/-! ## The commands -/

/-- `mmdvfs_parameter_enum` -/
inductive MmdvfsParameter
  | sensorSize | sensorFps | cameraModePip | cameraModeVfb | cameraModeEis20 | cameraModeIvhdr
  | cameraModeStereo | vencSize | eof
  deriving DecidableEq

namespace MmdvfsParameter

/-- The value of the enumerator. -/
def number : MmdvfsParameter → Nat
  | sensorSize => 0
  | sensorFps => 1
  | cameraModePip => 2
  | cameraModeVfb => 3
  | cameraModeEis20 => 4
  | cameraModeIvhdr => 5
  | cameraModeStereo => 6
  | vencSize => 7
  | eof => 8

/-- The enumerator that an argument is, if there is one. -/
def ofWord (type : Word) : Option MmdvfsParameter :=
  [sensorSize, sensorFps, cameraModePip, cameraModeVfb, cameraModeEis20, cameraModeIvhdr,
    cameraModeStereo, vencSize, eof].find? fun parameter => parameter.number = type.toNat

end MmdvfsParameter

/-- `MMDVFS_CAMERA_MODE_FLAG_DEFAULT` -/
def cameraModeFlagDefault : Word := 1

/-- `MMDVFS_CAMERA_MODE_FLAG_PIP` -/
def cameraModeFlagPip : Word := 1 <<< 1

/-- `MMDVFS_CAMERA_MODE_FLAG_VFB` -/
def cameraModeFlagVfb : Word := 1 <<< 2

/-- `MMDVFS_CAMERA_MODE_FLAG_EIS_2_0` -/
def cameraModeFlagEis20 : Word := 1 <<< 3

/-- `MMDVFS_CAMERA_MODE_FLAG_IVHDR` -/
def cameraModeFlagIvhdr : Word := 1 <<< 4

/-- `MMDVFS_CAMERA_MODE_FLAG_STEREO` -/
def cameraModeFlagStereo : Word := 1 <<< 5

/-- `MTK_MMDVFS_CMD` -/
structure MmdvfsCmd where
  type : Word
  scen : Nat
  sensorSize : Word
  sensorFps : Word
  cameraMode : Word
  vencSize : Word
  ret : Word
  deriving DecidableEq

/-- The command before its arguments are parsed. -/
def MmdvfsCmd.new (cameraMode : Word) : MmdvfsCmd :=
  ⟨0, 0, 0, 0, cameraMode, 0, 0⟩

/-- Clear a mask, and set it again for a value that is not zero. -/
def putMask (mask value mode : Word) : Word :=
  let cleared := mode &&& ~~~mask
  if value ≠ 0 then cleared ||| mask else cleared

/-- The `switch` of `mmdvfs_parse_arg` -/
def parseParameter (type value : Word) (cmd : MmdvfsCmd) : MmdvfsCmd :=
  match MmdvfsParameter.ofWord type with
  | some .sensorSize => { cmd with sensorSize := value }
  | some .sensorFps => { cmd with sensorFps := value }
  | some .cameraModePip =>
      { cmd with cameraMode := putMask cameraModeFlagPip value cmd.cameraMode }
  | some .cameraModeVfb =>
      { cmd with cameraMode := putMask cameraModeFlagVfb value cmd.cameraMode }
  | some .cameraModeEis20 =>
      { cmd with cameraMode := putMask cameraModeFlagEis20 value cmd.cameraMode }
  | some .cameraModeIvhdr =>
      { cmd with cameraMode := putMask cameraModeFlagIvhdr value cmd.cameraMode }
  | some .vencSize => { cmd with vencSize := value }
  -- `case 6`: the mask is the number of the parameter
  | some .cameraModeStereo => { cmd with cameraMode := putMask 6 value cmd.cameraMode }
  | some .eof | none => cmd

/-- `mmdvfs_parse_arg`; `none` when it reads past the arguments. -/
def mmdvfsParseArg : List Word → MmdvfsCmd → Option MmdvfsCmd
  | [], _ => none
  | [type], cmd => if MmdvfsParameter.ofWord type = some .eof then some cmd else none
  | type :: value :: rest, cmd =>
      if MmdvfsParameter.ofWord type = some .eof then some cmd
      else mmdvfsParseArg rest (parseParameter type value cmd)

/-- A parameter with its value. -/
structure Argument where
  type : Word
  value : Word
  notEof : MmdvfsParameter.ofWord type ≠ some .eof
  deriving DecidableEq

/-- The arguments of a call, up to `MMDVFS_PARAMETER_EOF`. -/
def Argument.words (arguments : List Argument) : List Word :=
  arguments.flatMap (fun argument => [argument.type, argument.value]) ++ [8]

/-- What one argument does. -/
def Argument.apply (cmd : MmdvfsCmd) (argument : Argument) : MmdvfsCmd :=
  parseParameter argument.type argument.value cmd

theorem mmdvfsParseArg_words (arguments : List Argument) (cmd : MmdvfsCmd) :
    mmdvfsParseArg (Argument.words arguments) cmd = some (arguments.foldl Argument.apply cmd) := by
  induction arguments generalizing cmd with
  | nil => rfl
  | cons argument arguments ih =>
      have split : Argument.words (argument :: arguments) =
          argument.type :: argument.value :: Argument.words arguments := by
        simp [Argument.words]
      rw [split, mmdvfsParseArg, if_neg argument.notEof, ih, List.foldl_cons]
      rfl

/-! ## The calls -/

inductive MmdvfsCall
  | query | set
  deriving DecidableEq

structure MmdvfsState where
  /-- `g_mmdvfs_camera_mode` -/
  cameraMode : Word
  /-- `mmdvfs_smi_fd` -/
  smiFd : Int

/-- A call, with what `open` returns if it is called, whether the driver takes the command, and
what it leaves in `ret`. -/
structure MmdvfsEvent where
  call : MmdvfsCall
  scenario : Int
  arguments : List Argument
  opened : Int
  taken : Bool
  ret : Word

inductive MmdvfsOutput
  /-- A command of a call, with the camera mode that its arguments were applied to. -/
  | sent (call : MmdvfsCall) (arguments : List Argument) (start : Word) (fd : Int)
      (cmd : MmdvfsCmd)
  | closed (fd : Int)
  | returned (value : Int)
  deriving DecidableEq

/-- What both calls do with their command: the driver is opened if it is not open, and closed
when it does not take the command. -/
def sendCmd (event : MmdvfsEvent) (start : Word) (cmd : MmdvfsCmd) (state : MmdvfsState)
    (failed : Int) : MmdvfsState × List MmdvfsOutput :=
  let fd := if state.smiFd = -1 then event.opened else state.smiFd
  let sent := .sent event.call event.arguments start fd cmd
  if event.taken then ({ state with smiFd := fd }, [sent, .returned event.ret.toInt])
  else ({ state with smiFd := -1 }, [sent, .closed fd, .returned failed])

/-- `mmdvfs_query` -/
def mmdvfsQuery (mapBwcProfileToSmi : Int → Nat) (event : MmdvfsEvent) (state : MmdvfsState) :
    Option (MmdvfsState × List MmdvfsOutput) := do
  let start := cameraModeFlagDefault
  let cmd ← mmdvfsParseArg (Argument.words event.arguments) (.new start)
  let cmd := { cmd with type := 1, scen := mapBwcProfileToSmi event.scenario }
  some (sendCmd event start cmd state event.ret.toInt)

/-- `mmdvfs_set` -/
def mmdvfsSet (mapBwcProfileToSmi : Int → Nat) (event : MmdvfsEvent) (state : MmdvfsState) :
    Option (MmdvfsState × List MmdvfsOutput) := do
  let start := state.cameraMode
  let cmd ← mmdvfsParseArg (Argument.words event.arguments) (.new start)
  let state := { state with cameraMode := cmd.cameraMode }
  let cmd := { cmd with type := 0, scen := mapBwcProfileToSmi event.scenario }
  some (sendCmd event start cmd state (-1))

def mmdvfsStep (mapBwcProfileToSmi : Int → Nat) (state : MmdvfsState) (event : MmdvfsEvent) :
    Option (MmdvfsState × List MmdvfsOutput) :=
  match event.call with
  | .query => mmdvfsQuery mapBwcProfileToSmi event state
  | .set => mmdvfsSet mapBwcProfileToSmi event state

def mmdvfsSystem (mapBwcProfileToSmi : Int → Nat) :
    System MmdvfsState MmdvfsEvent MmdvfsOutput where
  Init := fun state => state = ⟨cameraModeFlagDefault, -1⟩
  step := mmdvfsStep mapBwcProfileToSmi

/-! ## What the flags are for -/

/-- The kinds of camera modes. -/
inductive CameraModeKind
  | pip | vfb | eis20 | ivhdr | stereo
  deriving DecidableEq

namespace CameraModeKind

def parameter : CameraModeKind → MmdvfsParameter
  | pip => .cameraModePip
  | vfb => .cameraModeVfb
  | eis20 => .cameraModeEis20
  | ivhdr => .cameraModeIvhdr
  | stereo => .cameraModeStereo

def flag : CameraModeKind → Word
  | pip => cameraModeFlagPip
  | vfb => cameraModeFlagVfb
  | eis20 => cameraModeFlagEis20
  | ivhdr => cameraModeFlagIvhdr
  | stereo => cameraModeFlagStereo

end CameraModeKind

/-- Whether a mode has the flag of a kind. -/
def hasFlag (mode : Word) (kind : CameraModeKind) : Bool :=
  mode &&& kind.flag ≠ 0

/-- Whether an argument gives a value for a kind. -/
def Argument.isFor (kind : CameraModeKind) (argument : Argument) : Bool :=
  MmdvfsParameter.ofWord argument.type = some kind.parameter

/-- Whether the last value for a kind is not zero. -/
def given (kind : CameraModeKind) (arguments : List Argument) : Bool :=
  arguments.foldl
    (fun last argument => if argument.isFor kind then argument.value ≠ 0 else last) false

/-- The arguments of the sets, in order. -/
def setArguments (events : List MmdvfsEvent) : List Argument :=
  events.flatMap fun event => if event.call = .set then event.arguments else []

/-- The camera mode after some arguments. -/
def modeAfter (start : Word) (arguments : List Argument) : Word :=
  (arguments.foldl Argument.apply (.new start)).cameraMode

/-- An argument changes no flag but its own. -/
def ChangesOwn (start : Word) (before : List Argument) (argument : Argument) : Prop :=
  ∀ kind, argument.isFor kind = false →
    hasFlag (modeAfter start (before ++ [argument])) kind = hasFlag (modeAfter start before) kind

/-- What a call promises for its command, after the calls before it. -/
structure CallKept (before : List MmdvfsEvent) (event : MmdvfsEvent) (start : Word)
    (cmd : MmdvfsCmd) : Prop where
  own : event.call = .set → ∀ kind,
    hasFlag cmd.cameraMode kind = given kind (setArguments before ++ event.arguments)
  apart : Justified (ChangesOwn start) event.arguments
  query : event.call = .query →
    start = cameraModeFlagDefault ∧
      cmd.cameraMode = modeAfter cameraModeFlagDefault event.arguments

/-- Every command keeps its promise, and the stored mode is that of the sets. -/
structure CameraModeKept (history : History MmdvfsEvent MmdvfsOutput) (state : MmdvfsState) :
    Prop where
  calls : Justified
    (fun before call => ∀ arguments start fd cmd,
      .sent call.1.call arguments start fd cmd ∈ call.2 →
        CallKept (before.map Prod.fst) call.1 start cmd)
    history
  stored : state.cameraMode = modeAfter cameraModeFlagDefault (setArguments history.events)

/-- What the calls before a call have given to the mode that it starts from. -/
def startArguments (before : List MmdvfsEvent) : MmdvfsCall → List Argument
  | .query => []
  | .set => setArguments before

/-- A value for stereo agrees with the last values for PIP and for VFB. -/
def StereoAgrees (before : List Argument) (argument : Argument) : Prop :=
  argument.isFor .stereo = true →
    given .pip before = decide (argument.value ≠ 0) ∧
      given .vfb before = decide (argument.value ≠ 0)

/-- Stereo changes neither PIP nor VFB, and is off in what a set sends. -/
def StereoFits (before : List MmdvfsEvent) (event : MmdvfsEvent) : Prop :=
  Justified (fun earlier => StereoAgrees (startArguments before event.call ++ earlier))
      event.arguments ∧
    (event.call = .set → given .stereo (setArguments before ++ event.arguments) = false)

/-! ## What an argument does to the flags -/

/-- The mask that the switch has for a parameter. -/
def parameterMask : Option MmdvfsParameter → Word
  | some .cameraModePip => cameraModeFlagPip
  | some .cameraModeVfb => cameraModeFlagVfb
  | some .cameraModeEis20 => cameraModeFlagEis20
  | some .cameraModeIvhdr => cameraModeFlagIvhdr
  | some .cameraModeStereo => 6
  | some .sensorSize | some .sensorFps | some .vencSize | some .eof | none => 0

theorem putMask_zero (value mode : Word) : putMask 0 value mode = mode := by
  have zero : (0 : Word) = 0#32 := rfl
  have ones : ~~~0#32 = BitVec.allOnes 32 := by decide
  simp only [putMask, zero, ones, BitVec.and_allOnes, BitVec.or_zero, ite_self]

theorem getLsbD_putMask (mask value mode : Word) {bit : Nat} (less : bit < 32) :
    (putMask mask value mode).getLsbD bit =
      if mask.getLsbD bit then decide (value ≠ 0) else mode.getLsbD bit := by
  rw [putMask]
  by_cases zero : value = 0
  · cases inMask : mask.getLsbD bit <;> simp only [zero, inMask, less, ne_eq, not_true_eq_false,
      if_false, if_true, Bool.false_eq_true, BitVec.getLsbD_and, BitVec.getLsbD_not, decide_true,
      decide_false, Bool.and_true, Bool.and_false, Bool.not_false, Bool.not_true]
  · cases inMask : mask.getLsbD bit <;> simp only [zero, inMask, less, ne_eq, not_false_eq_true,
      if_false, if_true, Bool.false_eq_true, BitVec.getLsbD_or, BitVec.getLsbD_and,
      BitVec.getLsbD_not, decide_true, Bool.and_true, Bool.and_false, Bool.not_false,
      Bool.not_true, Bool.or_true, Bool.or_false]

theorem cameraMode_parseParameter (type value : Word) (cmd : MmdvfsCmd) :
    (parseParameter type value cmd).cameraMode =
      putMask (parameterMask (MmdvfsParameter.ofWord type)) value cmd.cameraMode := by
  rw [parseParameter]
  cases MmdvfsParameter.ofWord type with
  | none => exact (putMask_zero value _).symm
  | some parameter => cases parameter <;> first | rfl | exact (putMask_zero value _).symm

theorem flag_eq_twoPow (kind : CameraModeKind) :
    ∃ bit < 32, kind.flag = BitVec.twoPow 32 bit := by
  cases kind with
  | pip => exact ⟨1, by decide, by decide⟩
  | vfb => exact ⟨2, by decide, by decide⟩
  | eis20 => exact ⟨3, by decide, by decide⟩
  | ivhdr => exact ⟨4, by decide, by decide⟩
  | stereo => exact ⟨5, by decide, by decide⟩

/-- A flag is one bit. -/
theorem hasFlag_eq_getLsbD (kind : CameraModeKind) :
    ∃ bit < 32, ∀ mode, hasFlag mode kind = mode.getLsbD bit := by
  obtain ⟨bit, less, isBit⟩ := flag_eq_twoPow kind
  refine ⟨bit, less, ?_⟩
  intro mode
  rw [hasFlag, isBit, BitVec.and_twoPow]
  cases mode.getLsbD bit with
  | false => simp
  | true =>
      rw [if_pos rfl, decide_eq_true_eq]
      intro zero
      have bits := congrArg (BitVec.getLsbD · bit) zero
      simp [less] at bits

theorem hasFlag_putMask (mask value mode : Word) (kind : CameraModeKind) :
    hasFlag (putMask mask value mode) kind =
      if hasFlag mask kind then decide (value ≠ 0) else hasFlag mode kind := by
  obtain ⟨bit, less, isBit⟩ := hasFlag_eq_getLsbD kind
  rw [isBit, isBit, isBit, getLsbD_putMask mask value mode less]

/-- Which flags the mask of a parameter has: its own, but PIP and VFB for stereo. -/
theorem hasFlag_parameterMask (parameter : Option MmdvfsParameter) (kind : CameraModeKind) :
    hasFlag (parameterMask parameter) kind =
      if parameter = some .cameraModeStereo then decide (kind = .pip ∨ kind = .vfb)
      else decide (parameter = some kind.parameter) := by
  cases parameter with
  | none => cases kind <;> rfl
  | some parameter => cases parameter <;> cases kind <;> rfl

theorem modeAfter_snoc (start : Word) (before : List Argument) (argument : Argument) :
    modeAfter start (before ++ [argument]) =
      putMask (parameterMask (MmdvfsParameter.ofWord argument.type)) argument.value
        (modeAfter start before) := by
  rw [modeAfter, List.foldl_append]
  exact cameraMode_parseParameter _ _ _

theorem modeAfter_append (start : Word) (before arguments : List Argument) :
    modeAfter start (before ++ arguments) = modeAfter (modeAfter start before) arguments := by
  induction arguments using List.reverseRecOn with
  | nil =>
      rw [List.append_nil]
      rfl
  | append_singleton arguments argument ih =>
      rw [← List.append_assoc, modeAfter_snoc, modeAfter_snoc, ih]

theorem given_snoc (kind : CameraModeKind) (before : List Argument) (argument : Argument) :
    given kind (before ++ [argument]) =
      if argument.isFor kind then decide (argument.value ≠ 0) else given kind before := by
  rw [given, List.foldl_append]
  rfl

/-- An argument that is not for stereo sets its own flag only. -/
theorem hasFlag_snoc_of_not_stereo {argument : Argument}
    (notStereo : argument.isFor .stereo = false) (start : Word) (before : List Argument)
    (kind : CameraModeKind) :
    hasFlag (modeAfter start (before ++ [argument])) kind =
      if argument.isFor kind then decide (argument.value ≠ 0)
      else hasFlag (modeAfter start before) kind := by
  have other : MmdvfsParameter.ofWord argument.type ≠ some .cameraModeStereo :=
    of_decide_eq_false notStereo
  rw [modeAfter_snoc, hasFlag_putMask, hasFlag_parameterMask, if_neg other, Argument.isFor]

/-- An argument for stereo sets the flags of PIP and VFB. -/
theorem hasFlag_snoc_of_stereo {argument : Argument} (isStereo : argument.isFor .stereo = true)
    (start : Word) (before : List Argument) (kind : CameraModeKind) :
    hasFlag (modeAfter start (before ++ [argument])) kind =
      if kind = .pip ∨ kind = .vfb then decide (argument.value ≠ 0)
      else hasFlag (modeAfter start before) kind := by
  have same : MmdvfsParameter.ofWord argument.type = some .cameraModeStereo :=
    of_decide_eq_true isStereo
  rw [modeAfter_snoc, hasFlag_putMask, hasFlag_parameterMask, if_pos same]
  simp only [decide_eq_true_eq]

/-- No argument sets the flag of stereo. -/
theorem hasFlag_stereo (start : Word) (arguments : List Argument) :
    hasFlag (modeAfter start arguments) .stereo = hasFlag start .stereo := by
  induction arguments using List.reverseRecOn with
  | nil => rfl
  | append_singleton before argument ih =>
      cases isStereo : argument.isFor .stereo with
      | true => rw [hasFlag_snoc_of_stereo isStereo, if_neg (by decide), ih]
      | false => rw [hasFlag_snoc_of_not_stereo isStereo, isStereo, ih]; rfl

/-! ## Arguments one after the other -/

/-- The flags are those of the last values, but for stereo, whose flag is off. -/
def FlagsGiven (mode : Word) (arguments : List Argument) : Prop :=
  hasFlag mode .stereo = false ∧ ∀ kind ≠ .stereo, hasFlag mode kind = given kind arguments

theorem isFor_eq_false_of_isFor {argument : Argument} {kind other : CameraModeKind}
    (isFor : argument.isFor kind = true) (apart : other ≠ kind) :
    argument.isFor other = false := by
  have same : MmdvfsParameter.ofWord argument.type = some kind.parameter :=
    of_decide_eq_true isFor
  rw [Argument.isFor, same, decide_eq_false_iff_not, Option.some.injEq]
  cases kind <;> cases other <;> first | exact absurd rfl apart | decide

/-- A stereo argument changes no flag but its own exactly if it agrees with PIP and VFB. -/
theorem changesOwn_iff {start : Word} {earlier before : List Argument} {argument : Argument}
    (flags : FlagsGiven (modeAfter start before) (earlier ++ before)) :
    ChangesOwn start before argument ↔ StereoAgrees (earlier ++ before) argument := by
  cases isStereo : argument.isFor .stereo with
  | false =>
      refine iff_of_true ?_ fun stereo => ?_
      · intro kind other
        rw [hasFlag_snoc_of_not_stereo isStereo, other]
        rfl
      · rw [isStereo] at stereo
        cases stereo
  | true =>
      have pip := flags.2 .pip (by decide)
      have vfb := flags.2 .vfb (by decide)
      rw [StereoAgrees, isStereo, ← pip, ← vfb]
      constructor
      · intro own _
        have ownPip := own .pip (isFor_eq_false_of_isFor isStereo (by decide))
        have ownVfb := own .vfb (isFor_eq_false_of_isFor isStereo (by decide))
        rw [hasFlag_snoc_of_stereo isStereo, if_pos (by decide)] at ownPip ownVfb
        exact ⟨ownPip.symm, ownVfb.symm⟩
      · intro agrees kind _
        obtain ⟨samePip, sameVfb⟩ := agrees rfl
        rw [hasFlag_snoc_of_stereo isStereo]
        split
        case isTrue masked =>
          rcases masked with rfl | rfl
          · exact samePip.symm
          · exact sameVfb.symm
        case isFalse => rfl

/-- An argument that changes no flag but its own keeps the flags those of the last values. -/
theorem FlagsGiven.snoc {start : Word} {earlier before : List Argument} {argument : Argument}
    (flags : FlagsGiven (modeAfter start before) (earlier ++ before))
    (own : ChangesOwn start before argument) :
    FlagsGiven (modeAfter start (before ++ [argument])) (earlier ++ (before ++ [argument])) := by
  constructor
  · rw [hasFlag_stereo, ← hasFlag_stereo start before, flags.1]
  · intro kind notStereo
    rw [← List.append_assoc, given_snoc]
    cases isFor : argument.isFor kind with
    | true =>
        rw [hasFlag_snoc_of_not_stereo (isFor_eq_false_of_isFor isFor notStereo.symm), isFor,
          if_pos rfl, if_pos rfl]
    | false =>
        rw [own kind isFor, flags.2 kind notStereo]
        rfl

/-- The arguments of a call each change their own flag exactly if those for stereo agree. -/
theorem justified_changesOwn_iff {start : Word} {earlier arguments : List Argument}
    (flags : FlagsGiven start earlier) :
    (Justified (ChangesOwn start) arguments ↔
      Justified (fun before => StereoAgrees (earlier ++ before)) arguments) ∧
    (Justified (ChangesOwn start) arguments →
      FlagsGiven (modeAfter start arguments) (earlier ++ arguments)) := by
  induction arguments using List.reverseRecOn with
  | nil =>
      rw [List.append_nil]
      exact ⟨iff_of_true justified_nil justified_nil, fun _ => flags⟩
  | append_singleton before argument ih =>
      rw [justified_snoc_iff, justified_snoc_iff, ← ih.1]
      refine ⟨and_congr_right fun justified => changesOwn_iff (ih.2 justified), ?_⟩
      rintro ⟨justified, own⟩
      exact (ih.2 justified).snoc own

/-! ## Runs -/

theorem setArguments_snoc (before : List MmdvfsEvent) (event : MmdvfsEvent) :
    setArguments (before ++ [event]) =
      setArguments before ++ if event.call = .set then event.arguments else [] := by
  simp [setArguments]

/-- The camera mode that a call starts from. -/
def MmdvfsState.start (state : MmdvfsState) : MmdvfsCall → Word
  | .query => cameraModeFlagDefault
  | .set => state.cameraMode

variable {mapBwcProfileToSmi : Int → Nat}

theorem cameraMode_sendCmd (event : MmdvfsEvent) (start : Word) (cmd : MmdvfsCmd)
    (state : MmdvfsState) (failed : Int) :
    (sendCmd event start cmd state failed).1.cameraMode = state.cameraMode := by
  rw [sendCmd]
  split <;> rfl

theorem sent_mem_sendCmd {event : MmdvfsEvent} {start otherStart : Word} {cmd other : MmdvfsCmd}
    {state : MmdvfsState} {failed fd : Int} {call : MmdvfsCall} {arguments : List Argument}
    (isSent : .sent call arguments otherStart fd other ∈
      (sendCmd event start cmd state failed).2) :
    otherStart = start ∧ other = cmd := by
  rw [sendCmd] at isSent
  split at isSent <;> (simp at isSent; exact ⟨isSent.2.2.1, isSent.2.2.2.2⟩)

theorem sendCmd_sends {event : MmdvfsEvent} {call : MmdvfsCall} (isCall : event.call = call)
    (start : Word) (cmd : MmdvfsCmd) (state : MmdvfsState) (failed : Int) :
    ∃ fd, .sent call event.arguments start fd cmd ∈
      (sendCmd event start cmd state failed).2 := by
  rw [sendCmd, isCall]
  split <;> exact ⟨_, List.mem_cons_self⟩

/-- A call sends one command, with the camera mode that its arguments make of its start. -/
theorem mmdvfsStep_eq_some {state after : MmdvfsState} {event : MmdvfsEvent}
    {out : List MmdvfsOutput}
    (stepped : mmdvfsStep mapBwcProfileToSmi state event = some (after, out)) :
    after.cameraMode = (if event.call = .set then modeAfter state.cameraMode event.arguments
      else state.cameraMode) ∧
    ∃ cmd, cmd.cameraMode = modeAfter (state.start event.call) event.arguments ∧
      (∃ fd, .sent event.call event.arguments (state.start event.call) fd cmd ∈ out) ∧
      ∀ arguments start fd other, .sent event.call arguments start fd other ∈ out →
        start = state.start event.call ∧ other = cmd := by
  rw [mmdvfsStep] at stepped
  cases isCall : event.call with
  | query =>
      simp only [isCall, mmdvfsQuery, mmdvfsParseArg_words, Option.bind_eq_bind, Option.bind_some,
        Option.some.injEq] at stepped
      obtain ⟨rfl, rfl⟩ := Prod.mk.inj stepped
      let cmd := event.arguments.foldl Argument.apply (.new cameraModeFlagDefault)
      refine ⟨cameraMode_sendCmd _ _ _ _ _,
        { cmd with type := 1, scen := mapBwcProfileToSmi event.scenario }, rfl,
        sendCmd_sends isCall _ _ _ _, fun _ _ _ _ => sent_mem_sendCmd⟩
  | set =>
      simp only [isCall, mmdvfsSet, mmdvfsParseArg_words, Option.bind_eq_bind, Option.bind_some,
        Option.some.injEq] at stepped
      obtain ⟨rfl, rfl⟩ := Prod.mk.inj stepped
      let cmd := event.arguments.foldl Argument.apply (.new state.cameraMode)
      refine ⟨cameraMode_sendCmd _ _ _ _ _,
        { cmd with type := 0, scen := mapBwcProfileToSmi event.scenario }, rfl,
        sendCmd_sends isCall _ _ _ _, fun _ _ _ _ => sent_mem_sendCmd⟩

/-- The stored mode is what the arguments of the sets make of the default. -/
theorem cameraMode_of_run {history : History MmdvfsEvent MmdvfsOutput} {state : MmdvfsState}
    (run : (mmdvfsSystem mapBwcProfileToSmi).Run System.free history state) :
    state.cameraMode = modeAfter cameraModeFlagDefault (setArguments history.events) := by
  induction run with
  | start starts =>
      rw [starts]
      rfl
  | @next history state after event out running guarded stepped ih =>
      rw [(mmdvfsStep_eq_some stepped).1, History.events_snoc, setArguments_snoc, ih]
      split
      · rw [modeAfter_append]
      · rw [List.append_nil]

theorem flagsGiven_default : FlagsGiven cameraModeFlagDefault [] := by
  refine ⟨by decide, ?_⟩
  intro kind _
  cases kind <;> decide

/-- The promise of a call, when the flags of its start are given. -/
theorem callKept_iff {before : List MmdvfsEvent} {event : MmdvfsEvent} {start : Word}
    {cmd : MmdvfsCmd} (flags : FlagsGiven start (startArguments before event.call))
    (starts : event.call = .query → start = cameraModeFlagDefault)
    (mode : cmd.cameraMode = modeAfter start event.arguments) :
    CallKept before event start cmd ↔ StereoFits before event := by
  have apartIff := @justified_changesOwn_iff _ _ event.arguments flags
  constructor
  · intro kept
    refine ⟨apartIff.1.mp kept.apart, ?_⟩
    intro isSet
    rw [← kept.own isSet .stereo, mode]
    exact (apartIff.2 kept.apart).1
  · rintro ⟨agrees, off⟩
    have apart := apartIff.1.mpr agrees
    have after := apartIff.2 apart
    refine ⟨?_, apart, ?_⟩
    · intro isSet kind
      rw [isSet, startArguments] at after
      rw [mode]
      by_cases isStereo : kind = .stereo
      · rw [isStereo, after.1, off isSet]
      · exact after.2 kind isStereo
    · intro isQuery
      rw [mode, starts isQuery]
      exact ⟨rfl, rfl⟩

/-- The promises of a run so far, with the flags that they leave. -/
theorem callsKept_iff {history : History MmdvfsEvent MmdvfsOutput} {state : MmdvfsState}
    (run : (mmdvfsSystem mapBwcProfileToSmi).Run System.free history state) :
    (CameraModeKept history state ↔ Justified StereoFits history.events) ∧
      (Justified StereoFits history.events →
        FlagsGiven state.cameraMode (setArguments history.events)) := by
  induction run with
  | start starts =>
      refine ⟨iff_of_true ⟨justified_nil, ?_⟩ justified_nil, fun _ => ?_⟩
      · rw [starts]
        rfl
      · rw [starts]
        exact flagsGiven_default
  | @next history state after event out running guarded stepped ih =>
      obtain ⟨mode, cmd, cmdMode, ⟨fd, sends⟩, only⟩ := mmdvfsStep_eq_some stepped
      have stored := cameraMode_of_run (running.next guarded stepped)
      have flags : Justified StereoFits history.events →
          FlagsGiven (state.start event.call) (startArguments history.events event.call) := by
        intro fits
        cases event.call with
        | query => exact flagsGiven_default
        | set => exact ih.2 fits
      have starts : event.call = .query → state.start event.call = cameraModeFlagDefault := by
        intro isQuery
        rw [isQuery]
        rfl
      rw [History.events_snoc, justified_snoc_iff]
      constructor
      · rw [← ih.1]
        constructor
        · rintro ⟨calls, -⟩
          obtain ⟨earlier, last⟩ := justified_snoc_iff.mp calls
          have kept : CameraModeKept history state := ⟨earlier, cameraMode_of_run running⟩
          refine ⟨kept, ?_⟩
          exact (callKept_iff (flags (ih.1.mp kept)) starts cmdMode).mp (last _ _ _ _ sends)
        · rintro ⟨kept, fits⟩
          refine ⟨justified_snoc_iff.mpr ⟨kept.calls, ?_⟩, stored⟩
          intro arguments start fd other isSent
          obtain ⟨rfl, rfl⟩ := only arguments start fd other isSent
          exact (callKept_iff (flags (ih.1.mp kept)) starts cmdMode).mpr fits
      · rintro ⟨earlier, fits⟩
        rw [mode, setArguments_snoc]
        cases isCall : event.call with
        | query =>
            rw [if_neg (by decide), if_neg (by decide), List.append_nil]
            exact ih.2 earlier
        | set =>
            rw [if_pos rfl, if_pos rfl]
            have given := flags earlier
            rw [isCall] at given
            have agrees := fits.1
            rw [isCall] at agrees
            have apartIff := @justified_changesOwn_iff _ _ event.arguments given
            exact apartIff.2 (apartIff.1.mpr agrees)

/-- The commands keep their promises exactly when every value for stereo agrees with the last
values for PIP and VFB, and is zero at the end of a set. -/
theorem cameraModeKept_iff {history : History MmdvfsEvent MmdvfsOutput} {state : MmdvfsState}
    (run : (mmdvfsSystem mapBwcProfileToSmi).Run System.free history state) :
    CameraModeKept history state ↔ Justified StereoFits history.events :=
  (callsKept_iff run).1

/-- A call that the driver takes. -/
def plainCall (call : MmdvfsCall) (arguments : List Argument) : MmdvfsEvent :=
  ⟨call, 0, arguments, 3, true, 0⟩

/-- Stereo is off before PIP is on; a query does not see PIP; VFB and an unknown parameter. -/
theorem cameraMode_kept : ∃ history state,
    (mmdvfsSystem fun _ => 0).Run System.free history state ∧ CameraModeKept history state ∧
    history.events =
      [plainCall .set [⟨6, 0, by decide⟩, ⟨2, 1, by decide⟩],
        plainCall .query [⟨4, 1, by decide⟩],
        plainCall .set [⟨3, 5, by decide⟩, ⟨99, 1, by decide⟩, ⟨2, 0, by decide⟩]] ∧
    state.cameraMode = 5 := by
  let first := plainCall .set [⟨6, 0, by decide⟩, ⟨2, 1, by decide⟩]
  let second := plainCall .query [⟨4, 1, by decide⟩]
  let third := plainCall .set [⟨3, 5, by decide⟩, ⟨99, 1, by decide⟩, ⟨2, 0, by decide⟩]
  have run : (mmdvfsSystem fun _ => 0).Run System.free _ _ :=
    (((System.Run.start rfl).fire first trivial rfl).fire second trivial rfl).fire third trivial
      rfl
  refine ⟨_, _, run, (cameraModeKept_iff run).mpr ?_, rfl, by decide⟩
  -- a parameter that is not stereo agrees
  have others : ∀ before (argument : Argument), argument.isFor .stereo = false →
      StereoAgrees before argument := by
    intro before argument notStereo isStereo
    rw [notStereo] at isStereo
    cases isStereo
  have off : StereoAgrees [] ⟨6, 0, by decide⟩ := fun _ => by decide
  simp only [List.nil_append, List.cons_append, History.events, List.map_cons, List.map_nil]
  rw [justified_cons_iff, justified_cons_iff, justified_singleton]
  refine ⟨⟨?_, fun _ => by decide⟩, ⟨?_, fun isSet => by cases isSet⟩, ?_, fun _ => by decide⟩
  · exact justified_cons_iff.mpr
      ⟨off, justified_singleton.mpr (others _ _ (by decide))⟩
  · exact justified_singleton.mpr (others _ _ (by decide))
  · exact justified_cons_iff.mpr ⟨others _ _ (by decide), justified_cons_iff.mpr
      ⟨others _ _ (by decide), justified_singleton.mpr (others _ _ (by decide))⟩⟩

/-- A value for stereo sets the flags of PIP and VFB, and not its own. -/
theorem cameraMode_lost : ∃ history state,
    (mmdvfsSystem fun _ => 0).Run System.free history state ∧ ¬ CameraModeKept history state ∧
    history.events = [plainCall .set [⟨6, 1, by decide⟩]] ∧
    hasFlag state.cameraMode .stereo = false ∧ hasFlag state.cameraMode .pip = true ∧
    hasFlag state.cameraMode .vfb = true := by
  let call := plainCall .set [⟨6, 1, by decide⟩]
  have run : (mmdvfsSystem fun _ => 0).Run System.free _ _ :=
    (System.Run.start rfl).fire call trivial rfl
  refine ⟨_, _, run, ?_, rfl, by decide, by decide, by decide⟩
  rw [(callsKept_iff run).1]
  intro fits
  have off := (justified_singleton.mp fits).2 rfl
  revert off
  decide

end X3Hal.Bwc
