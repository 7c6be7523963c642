import Mathlib.Algebra.Ring.Nat
import Mathlib.Data.Fin.VecNotation
import X3Hal.Bluetooth.InitAttempts
import X3Hal.Stream.Frames

/-!
# The packets of the init script

Each command of a script fills a buffer with an HCI command packet: the op code, the number of
parameters and the parameters.  The transport sends as many bytes as the header of the buffer
says, and the controller finds the packets in them by their own lengths.
-/

namespace X3Hal.Bluetooth

open X3Hal.Transition X3Hal.Stream HciCommand

/-! ## Packets of a controller -/

/-- A packet whose length fits its own byte. -/
structure HciPacket where
  opCode : Nat
  params : List UInt8
  opCode_lt : opCode < 2 ^ 16
  length_lt : params.length < 2 ^ 8

/-- `UINT16_TO_STREAM` -/
def uint16ToStream (u16 : Nat) : List UInt8 :=
  [UInt8.ofNat u16, UInt8.ofNat (u16 >>> 8)]

/-- `STREAM_TO_UINT16` -/
def streamToUint16 (low high : UInt8) : Nat :=
  low.toNat + high.toNat <<< 8

theorem streamToUint16_lt (low high : UInt8) : streamToUint16 low high < 2 ^ 16 := by
  have isLow := low.toNat_lt
  have isHigh := high.toNat_lt
  rw [streamToUint16, Nat.shiftLeft_eq]
  omega

/-- The number in a stream is the one that was put there. -/
theorem streamToUint16_uint16ToStream {u16 : Nat} (small : u16 < 2 ^ 16) :
    streamToUint16 (UInt8.ofNat u16) (UInt8.ofNat (u16 >>> 8)) = u16 := by
  rw [streamToUint16, UInt8.toNat_ofNat', UInt8.toNat_ofNat', Nat.shiftLeft_eq,
    Nat.shiftRight_eq_div_pow]
  omega

namespace HciPacket

def encode (packet : HciPacket) : List UInt8 :=
  uint16ToStream packet.opCode ++ UInt8.ofNat packet.params.length :: packet.params

/-- How a controller reads a packet. -/
def decode : List UInt8 → Option (HciPacket × List UInt8)
  | low :: high :: length :: rest =>
      if h : length.toNat ≤ rest.length then
        some (⟨streamToUint16 low high, rest.take length.toNat, streamToUint16_lt low high, by
          rw [List.length_take]
          exact Nat.lt_of_le_of_lt (Nat.min_le_left _ _) length.toNat_lt⟩, rest.drop length.toNat)
      else none
  | _ => none

theorem decode_encode (packet : HciPacket) (rest : List UInt8) :
    decode (packet.encode ++ rest) = some (packet, rest) := by
  obtain ⟨opCode, params, small, short⟩ := packet
  have length : (UInt8.ofNat params.length).toNat = params.length := by
    rw [UInt8.toNat_ofNat', Nat.mod_eq_of_lt short]
  have fits : params.length ≤ (params ++ rest).length := by
    rw [List.length_append]
    omega
  simp only [encode, uint16ToStream, List.cons_append, List.nil_append, decode, length,
    streamToUint16_uint16ToStream small, List.take_left, List.drop_left]
  rw [dif_pos fits]

end HciPacket

/-- Packets are read by their own lengths. -/
def hciFraming : Framing UInt8 HciPacket where
  encode := HciPacket.encode
  decode := HciPacket.decode
  decode_encode := HciPacket.decode_encode
  encode_ne_nil packet := by
    rw [HciPacket.encode, uint16ToStream]
    exact List.cons_ne_nil _ _

/-! ## The commands -/

/-- The fields of `ap_nvram_btradio_struct` that go into packets -/
structure BtNvram where
  addr : Vector UInt8 6
  voice : Vector UInt8 2
  codec : Vector UInt8 4
  radio : Vector UInt8 6
  sleep : Vector UInt8 7
  btFtr : Vector UInt8 2
  txPwOffset : Vector UInt8 3
  coexAdjust : Vector UInt8 6
  radioExt : Vector UInt8 2
  txPwOffsetExt : Vector UInt8 4

/-- `stBtDefault_consys`, the default of the chips of this family -/
def stBtDefaultConsys : BtNvram where
  addr := .ofFn ![0x00, 0x00, 0x46, 0x00, 0x00, 0x01]
  voice := .ofFn ![0x60, 0x00]
  codec := .ofFn ![0x23, 0x10, 0x00, 0x00]
  radio := .ofFn ![0x07, 0x80, 0x00, 0x06, 0x07, 0x07]
  sleep := .ofFn ![0x03, 0x40, 0x1F, 0x40, 0x1F, 0x00, 0x04]
  btFtr := .ofFn ![0x80, 0x00]
  txPwOffset := .ofFn ![0xFF, 0xFF, 0xFF]
  coexAdjust := .ofFn ![0x00, 0x00, 0x00, 0x00, 0x00, 0x00]
  radioExt := .ofFn ![0x00, 0x00]
  txPwOffsetExt := .ofFn ![0x00, 0x00, 0x00, 0x00]

/-- A buffer for a command: `len` of its header, and what is written behind the header -/
structure HcBtHdr where
  len : Nat
  data : List UInt8

/-- A buffer as a command fills it -/
def HcBtHdr.fill (opCode len count : Nat) (params : List UInt8) : HcBtHdr :=
  ⟨len, uint16ToStream opCode ++ UInt8.ofNat count :: params⟩

/-- `HCI_CMD_MAX_SIZE`, what is allocated behind the header -/
def hciCmdMaxSize : Nat := 251

/-- A command that counts its own parameters fills its buffer with them. -/
theorem HcBtHdr.filled {opCode len count : Nat} {params : List UInt8} (isLen : len = 3 + count)
    (isCount : params.length = count) (fits : len ≤ hciCmdMaxSize) :
    HcBtHdr.fill opCode len count params =
        .fill opCode (3 + params.length) params.length params ∧
      3 + params.length ≤ hciCmdMaxSize := by
  rw [isCount, ← isLen]
  exact ⟨rfl, fits⟩

namespace HciCommand

/-- `command_func` up to `xmit_cb` -/
def commandFunc (chipId : Nat) (nvram : BtNvram) : HciCommand → HcBtHdr
  | getLocalBdAddr => .fill 0x1009 3 0 []
  -- the last byte of the address comes first
  | setLocalBdAddr => .fill 0xFC1A 9 6 nvram.addr.toList.reverse
  -- combination key
  | setLinkKeyType => .fill 0xFC1B 4 1 [0x01]
  | setUnitKey => .fill 0xFC75 19 16 (List.replicate 16 0x00)
  | setEncryption => .fill 0xFC76 6 3 [0x00, 0x02, 0x10]
  -- variable PIN
  | setPinCodeType => .fill 0x0C0A 4 1 [0x00]
  | setVoice => .fill 0x0C26 5 2 nvram.voice.toList
  | setPcm => .fill 0xFC72 7 4 nvram.codec.toList
  | setRadio =>
      if chipId ≠ 0x6632 then .fill 0xFC79 9 6 nvram.radio.toList
      else .fill 0xFC79 11 8 (nvram.radio.toList ++ nvram.radioExt.toList)
  | setTxPowerOffset =>
      if chipId ≠ 0x6632 then .fill 0xFC93 6 3 nvram.txPwOffset.toList
      else .fill 0xFC93 9 6 (nvram.txPwOffset.toList ++ nvram.txPwOffsetExt.toList.take 3)
  | setSleepTimeout => .fill 0xFC7A 10 7 nvram.sleep.toList
  | coexPerformanceAdjust => .fill 0xFC22 9 6 nvram.coexAdjust.toList
  | setBtFtr => .fill 0xFC7D 5 2 nvram.btFtr.toList
  -- clock drift and jitter, and the time until the oscillator is stable
  | setOscInfo => .fill 0xFC7B 8 5 [0x01, 0x01, 0x14, 0x0A, 0x08]
  | setLpoInfo => .fill 0xFC7C 13 10
      [0x01, 0xFA, 0x0A, 0x02, 0x00, 0xA6, 0x0E, 0x00, 0x40, 0x00]
  | setPta => .fill 0xFC74 13 10 [0xC9, 0x8B, 0xBF, 0x00, 0x00, 0x52, 0x0E, 0x0E, 0x1F, 0x1B]
  | setBlePta => .fill 0xFCFC 8 5 [0x16, 0x0E, 0x0E, 0x00, 0x07]
  | setInternalPta1 => .fill 0xFCFB 18 15
      [0x00, 0x01, 0x0F, 0x0F, 0x01, 0x0F, 0x0F, 0x01, 0x0F, 0x0F, 0x01, 0x0F, 0x0F, 0x02, 0x01]
  | setInternalPta2 => .fill 0xFCFB 10 7 [0x01, 0x19, 0x19, 0x07, 0xD0, 0x00, 0x01]
  | setRfReg100 => .fill 0xFCB0 9 6 [0x64, 0x01, 0x02, 0x00, 0x00, 0x00]
  | reset => .fill 0x0C03 3 0 []
  | setFwSysLog => .fill 0xFCBE 4 1 [0x05]
  | setSspDebugMode => .fill 0x1804 4 1 [0x01]

end HciCommand

/-- What `xmit_cb` sends of a buffer; what is behind the written bytes is not known. -/
def HcBtHdr.transmitted (cmd : HcBtHdr) : Option (List UInt8) :=
  if cmd.len ≤ cmd.data.length then some (cmd.data.take cmd.len) else none

section Packets

variable (chipId : Nat) (nvram : BtNvram) (command : HciCommand)

/-- The parameters of a command -/
def HciCommand.params : List UInt8 :=
  (command.commandFunc chipId nvram).data.drop 3

/-- Every command counts its own parameters, and they fit the buffer. -/
theorem commandFunc_params : command.commandFunc chipId nvram =
      .fill command.opCode (3 + (command.params chipId nvram).length)
        (command.params chipId nvram).length (command.params chipId nvram) ∧
    3 + (command.params chipId nvram).length ≤ hciCmdMaxSize := by
  cases command with
  | setRadio | setTxPowerOffset =>
      rw [HciCommand.params, HciCommand.commandFunc]
      split
      · exact HcBtHdr.filled rfl (by simp) (by decide)
      · exact HcBtHdr.filled rfl (by simp) (by decide)
  | setLocalBdAddr | setVoice | setPcm | setSleepTimeout | coexPerformanceAdjust | setBtFtr =>
      exact HcBtHdr.filled rfl (by simp) (by decide)
  | _ => exact HcBtHdr.filled rfl rfl (by decide)

theorem opCode_lt : command.opCode < 2 ^ 16 := by
  cases command <;> decide

theorem length_params_lt : (command.params chipId nvram).length < 2 ^ 8 := by
  have fits := (commandFunc_params chipId nvram command).2
  rw [hciCmdMaxSize] at fits
  omega

/-- The packet that a controller is to find -/
def packetOf : HciPacket :=
  ⟨command.opCode, command.params chipId nvram, opCode_lt command,
    length_params_lt chipId nvram command⟩

/-- The header of a command counts what is written behind it. -/
theorem len_commandFunc :
    (command.commandFunc chipId nvram).len = (command.commandFunc chipId nvram).data.length := by
  have filled := (commandFunc_params chipId nvram command).1
  rw [filled, HcBtHdr.fill]
  simp only [uint16ToStream, List.cons_append, List.nil_append, List.length_cons]
  omega

/-- The whole packet is sent, and it is all that was written. -/
theorem transmitted_commandFunc :
    (command.commandFunc chipId nvram).transmitted =
      some (hciFraming.encode (packetOf chipId nvram command)) := by
  have filled := (commandFunc_params chipId nvram command).1
  have len := len_commandFunc chipId nvram command
  rw [HcBtHdr.transmitted, if_pos len.le, len, List.take_length, filled]
  rfl

end Packets

/-! ## The stream of an attempt -/

/-- The commands that an attempt has sent, with their indices. -/
def sentOf (attempt : Nat) (outputs : List InitOutput) : List (Nat × HciCommand) :=
  outputs.filterMap fun output =>
    match output with
    | .sent other index command => if other = attempt then some (index, command) else none
    | .started _ _ | .armed _ _ | .event _ _ _ _ _ | .notified _ | .terminated _
    | .reported _ _ => none

namespace Plan

variable (plan : Plan)

/-- The command at an index, if it is not skipped -/
def wantedAt (index : Nat) : Option (Nat × HciCommand) :=
  (plan.script[index]?).bind fun command =>
    if command.skipped plan.settings then none else some (index, command)

/-- The commands from the first one on, before an index -/
def wantedBefore (i : Nat) : List (Nat × HciCommand) :=
  (List.range' plan.start (i - plan.start)).filterMap plan.wantedAt

@[simp]
theorem wantedBefore_start : plan.wantedBefore plan.start = [] := by
  rw [wantedBefore, Nat.sub_self, List.range'_zero, List.filterMap_nil]

variable {plan} {i : Nat}

theorem wantedBefore_succ (started : plan.start ≤ i) :
    plan.wantedBefore (i + 1) = plan.wantedBefore i ++ (plan.wantedAt i).toList := by
  have count : i + 1 - plan.start = i - plan.start + 1 := by omega
  have last : plan.start + (i - plan.start) = i := by omega
  rw [wantedBefore, wantedBefore, count, List.range'_concat, List.filterMap_append, Nat.one_mul,
    last]
  congr 1

end Plan

/-- The commands of an attempt are those before an index. -/
def SentBefore (outputs : List InitOutput) (attempt : Nat) (plan : Plan) (i : Nat) : Prop :=
  plan.start ≤ i ∧ sentOf attempt outputs = plan.wantedBefore i

/-- What an attempt has sent at each place of its thread. -/
def PlaceSent (outputs : List InitOutput) (state : InitState) : ThreadPlace → Prop
  | .created => planOf state.attempt outputs = none
  | .loop i => planOf state.attempt outputs = some state.plan ∧
      SentBefore outputs state.attempt state.plan i
  | .arm i | .sending i => planOf state.attempt outputs = some state.plan ∧
      SentBefore outputs state.attempt state.plan i ∧
      ∃ command, state.plan.script[i]? = some command ∧
        state.plan.wantedAt i = some (i, command)
  | .waiting i => planOf state.attempt outputs = some state.plan ∧
      SentBefore outputs state.attempt state.plan (i + 1)
  | .none | .ending _ _ | .reported | .done => True

structure SentInOrder (outputs : List InitOutput) (state : InitState) : Prop where
  planned : ∀ attempt plan, planOf attempt outputs = some plan →
    ∃ i, SentBefore outputs attempt plan i
  unplanned : ∀ attempt, planOf attempt outputs = none → sentOf attempt outputs = []
  fresh : ∀ attempt, state.attempt < attempt → planOf attempt outputs = none
  place : PlaceSent outputs state state.place

section Sent

variable {outputs out : List InitOutput} {state after : InitState} {attempt i : Nat} {plan : Plan}

theorem sentOf_append (attempt : Nat) (outputs out : List InitOutput) :
    sentOf attempt (outputs ++ out) = sentOf attempt outputs ++ sentOf attempt out :=
  List.filterMap_append

/-- An output that neither starts an attempt nor sends a command. -/
def InitOutput.quiet : InitOutput → Bool
  | .started _ _ | .sent _ _ _ => false
  | .armed _ _ | .event _ _ _ _ _ | .notified _ | .terminated _ | .reported _ _ => true

theorem planOf_append_of_quiet (quiet : ∀ output ∈ out, output.quiet = true) (attempt : Nat) :
    planOf attempt (outputs ++ out) = planOf attempt outputs := by
  have none : planOf attempt out = none := by
    rw [planOf, List.findSome?_eq_none_iff]
    intro output occurs
    have isQuiet := quiet output occurs
    cases output with
    | started | sent => cases isQuiet
    | armed | event | notified | terminated | reported => rfl
  rw [planOf_append, none, Option.or_none]

theorem sentOf_append_of_quiet (quiet : ∀ output ∈ out, output.quiet = true) (attempt : Nat) :
    sentOf attempt (outputs ++ out) = sentOf attempt outputs := by
  have none : sentOf attempt out = [] := by
    rw [sentOf, List.filterMap_eq_nil_iff]
    intro output occurs
    have isQuiet := quiet output occurs
    cases output with
    | started | sent => cases isQuiet
    | armed | event | notified | terminated | reported => rfl
  rw [sentOf_append, none, List.append_nil]

/-- Where the thread is matters only with what it has started and sent. -/
theorem PlaceSent.congr {others : List InitOutput} {place : ThreadPlace}
    (sent : PlaceSent outputs state place) (samePlan : ∀ attempt,
      planOf attempt others = planOf attempt outputs)
    (sameSent : ∀ attempt, sentOf attempt others = sentOf attempt outputs)
    (sameAttempt : after.attempt = state.attempt) (sameScript : after.plan = state.plan) :
    PlaceSent others after place := by
  cases place with
  | created =>
      rw [PlaceSent, samePlan, sameAttempt]
      exact sent
  | loop | arm | sending | waiting =>
      rw [PlaceSent, SentBefore, samePlan, sameSent, sameAttempt, sameScript]
      exact sent
  | none | ending | reported | done => trivial

namespace SentInOrder

/-- A step that starts nothing and sends nothing. -/
theorem silent (sound : SentInOrder outputs state)
    (quiet : ∀ output ∈ out, output.quiet = true) (sameAttempt : after.attempt = state.attempt)
    (sameScript : after.plan = state.plan) (place : PlaceSent outputs state after.place) :
    SentInOrder (outputs ++ out) after := by
  have samePlan : ∀ attempt, planOf attempt (outputs ++ out) = planOf attempt outputs :=
    planOf_append_of_quiet quiet
  have sameSent : ∀ attempt, sentOf attempt (outputs ++ out) = sentOf attempt outputs :=
    sentOf_append_of_quiet quiet
  constructor
  · intro attempt plan
    rw [samePlan]
    simpa only [SentBefore, sameSent] using sound.planned attempt plan
  · intro attempt
    rw [samePlan, sameSent]
    exact sound.unplanned attempt
  · intro attempt
    rw [samePlan, sameAttempt]
    exact sound.fresh attempt
  · exact place.congr samePlan sameSent sameAttempt sameScript

/-- A thread leaves its loop. -/
theorem leave (sound : SentInOrder outputs state)
    (quiet : ∀ output ∈ out, output.quiet = true) :
    SentInOrder (outputs ++ out) (state.leave i) :=
  sound.silent quiet rfl rfl trivial

theorem initDevice (sound : SentInOrder outputs state) (chipId : Nat) (nvramIsDefault : Bool)
    (settings : Settings) :
    SentInOrder (outputs ++ []) (state.initDevice chipId nvramIsDefault settings) := by
  rw [List.append_nil]
  constructor
  · exact sound.planned
  · exact sound.unplanned
  · exact fun attempt later => sound.fresh attempt (Nat.lt_of_succ_lt later)
  · exact sound.fresh _ (Nat.lt_succ_self _)

/-- A thread starts with its script. -/
theorem begins (sound : SentInOrder outputs state)
    (unplanned : planOf state.attempt outputs = none)
    (sameAttempt : after.attempt = state.attempt) (script : after.plan = plan)
    (atFirst : after.place = .loop plan.start) :
    SentInOrder (outputs ++ [.started state.attempt plan]) after := by
  have grown : ∀ attempt, planOf attempt (outputs ++ [.started state.attempt plan]) =
      (planOf attempt outputs).or (if state.attempt = attempt then some plan else none) := by
    intro attempt
    rw [planOf_append]
    congr 1
    by_cases same : state.attempt = attempt <;> simp [planOf, same]
  have sameSent : ∀ attempt, sentOf attempt (outputs ++ [.started state.attempt plan]) =
      sentOf attempt outputs := fun attempt => by
    rw [sentOf_append]
    exact List.append_nil _
  have nothing : SentBefore (outputs ++ [.started state.attempt plan]) state.attempt plan
      plan.start := by
    refine ⟨le_rfl, ?_⟩
    rw [sameSent, sound.unplanned _ unplanned, Plan.wantedBefore_start]
  constructor
  · intro attempt other isPlan
    rw [grown] at isPlan
    rcases Option.or_eq_some_iff.mp isPlan with earlier | ⟨none, own⟩
    · obtain ⟨i, started, sent⟩ := sound.planned attempt other earlier
      exact ⟨i, started, (sameSent attempt).trans sent⟩
    · split at own
      case isTrue same =>
        cases own
        exact ⟨plan.start, same ▸ nothing⟩
      case isFalse => cases own
  · intro attempt isNone
    rw [grown, Option.or_eq_none_iff] at isNone
    rw [sameSent]
    exact sound.unplanned attempt isNone.1
  · intro attempt later
    rw [sameAttempt] at later
    rw [grown, sound.fresh attempt later, if_neg (Nat.ne_of_lt later), Option.none_or]
  · rw [atFirst, PlaceSent, script, sameAttempt]
    refine ⟨?_, nothing⟩
    rw [grown, unplanned, if_pos rfl, Option.none_or]

theorem start (sound : SentInOrder outputs state) (isCreated : state.place = .created) :
    SentInOrder (outputs ++ state.start.2) state.start.1 := by
  have unplanned : planOf state.attempt outputs = none := by
    have place := sound.place
    rwa [isCreated] at place
  rw [InitState.start]
  split
  case h_1 => exact sound.silent (List.forall_mem_nil _) rfl rfl trivial
  case h_2 => exact sound.begins unplanned rfl rfl rfl

theorem check (sound : SentInOrder outputs state) (atLoop : state.place = .loop i) :
    SentInOrder (outputs ++ (state.check i).2) (state.check i).1 := by
  have place := sound.place
  rw [atLoop] at place
  obtain ⟨planned, started, sent⟩ := place
  rw [InitState.check]
  split
  case h_1 => exact sound.leave (List.forall_mem_nil _)
  case h_2 command scripted =>
    split
    case isTrue => exact sound.leave (by simp [InitOutput.quiet])
    case isFalse =>
      split
      case isTrue skipped =>
        apply sound.silent
        · exact List.forall_mem_nil _
        · rfl
        · rfl
        refine ⟨planned, Nat.le_succ_of_le started, ?_⟩
        have unwanted : state.plan.wantedAt i = none := by
          rw [Plan.wantedAt, scripted, Option.bind_some, if_pos skipped]
        rw [Plan.wantedBefore_succ started, unwanted, Option.toList_none, List.append_nil]
        exact sent
      case isFalse wanted =>
        apply sound.silent
        · exact List.forall_mem_nil _
        · rfl
        · rfl
        refine ⟨planned, ⟨started, sent⟩, command, scripted, ?_⟩
        rw [Plan.wantedAt, scripted, Option.bind_some, if_neg wanted]

theorem arm (sound : SentInOrder outputs state) (atArm : state.place = .arm i)
    (allocated : Bool) : SentInOrder (outputs ++ (state.arm i allocated).2)
      (state.arm i allocated).1 := by
  have place := sound.place
  rw [atArm] at place
  rw [InitState.arm]
  split
  case isTrue =>
    split
    case isTrue => exact sound.leave (by simp [InitOutput.quiet])
    case isFalse => exact sound.silent (by simp [InitOutput.quiet]) rfl rfl place
  case isFalse => exact sound.leave (List.forall_mem_nil _)

/-- The thread sends the command of its index. -/
theorem send (sound : SentInOrder outputs state) (atSending : state.place = .sending i)
    (accepted : Bool) {command : HciCommand} (scripted : state.plan.script[i]? = some command) :
    SentInOrder (outputs ++ (state.send i accepted command).2)
      (state.send i accepted command).1 := by
  have place := sound.place
  rw [atSending] at place
  obtain ⟨planned, ⟨started, sent⟩, other, isOther, wanted⟩ := place
  rw [isOther] at scripted
  cases scripted
  rw [InitState.send]
  split
  case isFalse => exact sound.silent (List.forall_mem_nil _) rfl rfl trivial
  case isTrue =>
    have samePlan : ∀ attempt, planOf attempt (outputs ++ [.sent state.attempt i command]) =
        planOf attempt outputs := fun attempt => by
      rw [planOf_append]
      exact Option.or_none
    have grown : ∀ attempt, sentOf attempt (outputs ++ [.sent state.attempt i command]) =
        sentOf attempt outputs ++ if state.attempt = attempt then [(i, command)] else [] := by
      intro attempt
      rw [sentOf_append]
      congr 1
      by_cases same : state.attempt = attempt <;> simp [sentOf, same]
    have own : SentBefore (outputs ++ [.sent state.attempt i command]) state.attempt state.plan
        (i + 1) := by
      refine ⟨Nat.le_succ_of_le started, ?_⟩
      rw [grown, if_pos rfl, sent, Plan.wantedBefore_succ started, wanted, Option.toList_some]
    constructor
    · intro attempt plan isPlan
      rw [samePlan] at isPlan
      by_cases same : state.attempt = attempt
      · subst same
        rw [planned] at isPlan
        cases isPlan
        exact ⟨i + 1, own⟩
      · obtain ⟨last, begun, before⟩ := sound.planned attempt plan isPlan
        refine ⟨last, begun, ?_⟩
        rw [grown, if_neg same, List.append_nil]
        exact before
    · intro attempt isNone
      rw [samePlan] at isNone
      have apart : state.attempt ≠ attempt := by
        rintro rfl
        rw [planned] at isNone
        cases isNone
      rw [grown, if_neg apart, List.append_nil]
      exact sound.unplanned attempt isNone
    · intro attempt later
      rw [samePlan]
      exact sound.fresh attempt later
    · exact ⟨(samePlan _).trans planned, own⟩

theorem look {result : InitState × List InitOutput} (sound : SentInOrder outputs state)
    (atWaiting : state.place = .waiting i) (looked : state.look i = some result) :
    SentInOrder (outputs ++ result.2) result.1 := by
  have place := sound.place
  rw [atWaiting] at place
  rw [InitState.look] at looked
  split at looked
  case h_1 => cases looked
  case h_2 =>
    cases looked
    exact sound.silent (List.forall_mem_nil _) rfl rfl place
  case h_3 =>
    cases looked
    exact sound.leave (List.forall_mem_nil _)
  case h_4 =>
    cases looked
    exact sound.silent (by simp [InitOutput.quiet]) rfl rfl trivial

theorem step {event : InitEvent} (sound : SentInOrder outputs state)
    (stepped : initSystem.step state event = some (after, out)) :
    SentInOrder (outputs ++ out) after := by
  have steps := InitState.steps_of_step stepped
  cases event with
  | initDevice chipId nvramIsDefault settings =>
      obtain ⟨-, same⟩ := steps
      cases same
      exact sound.initDevice chipId nvramIsDefault settings
  | created =>
      obtain ⟨-, same⟩ := steps
      cases same
      exact sound.silent (List.forall_mem_nil _) rfl rfl sound.place
  | cleanup =>
      obtain ⟨-, same⟩ := steps
      rw [InitState.cleanup] at same
      split at same
      case isTrue =>
        cases same
        exact sound.silent (by simp [InitOutput.quiet]) rfl rfl sound.place
      case isFalse =>
        cases same
        exact sound.silent (List.forall_mem_nil _) rfl rfl sound.place
  | join =>
      obtain ⟨-, same⟩ := steps
      cases same
      exact sound.silent (List.forall_mem_nil _) rfl rfl trivial
  | start =>
      obtain ⟨isCreated, same⟩ := steps
      have started := sound.start isCreated
      rw [← same] at started
      exact started
  | check =>
      obtain ⟨i, atLoop, same⟩ := steps
      have checked := sound.check atLoop
      rw [← same] at checked
      exact checked
  | arm allocated =>
      obtain ⟨i, atArm, same⟩ := steps
      have armed := sound.arm atArm allocated
      rw [← same] at armed
      exact armed
  | send accepted =>
      obtain ⟨i, command, atSending, scripted, same⟩ := steps
      have sent := sound.send atSending accepted scripted
      rw [← same] at sent
      exact sent
  | look =>
      obtain ⟨i, atWaiting, looked⟩ := steps
      exact sound.look atWaiting looked
  | report =>
      obtain ⟨i, ret, -, same⟩ := steps
      cases same
      exact sound.silent (by simp [InitOutput.quiet]) rfl rfl trivial
  | finish =>
      obtain ⟨-, same⟩ := steps
      cases same
      exact sound.silent (List.forall_mem_nil _) rfl rfl trivial
  | receive =>
      obtain ⟨callback, -, -, same⟩ := steps
      cases same
      exact sound.silent (List.forall_mem_nil _) rfl rfl sound.place
  | signal verdict =>
      obtain ⟨-, same⟩ := steps
      cases same
      exact sound.silent (by simp [InitOutput.quiet]) rfl rfl sound.place

theorem run {history : History InitEvent InitOutput} {state : InitState}
    (running : initSystem.Run System.free history state) :
    SentInOrder history.outputs state := by
  induction running with
  | start starts =>
      cases starts
      exact ⟨nofun, fun _ _ => rfl, fun _ _ => rfl, trivial⟩
  | next earlier _ stepped ih =>
      rw [History.outputs_snoc]
      exact ih.step stepped

end SentInOrder

end Sent

/-- In every run an attempt sends its script from its first command on, without the commands that
are skipped.  Of each of them exactly what was written is sent, and a controller reads its packet
from these bytes. -/
theorem packets_of_attempt {history : History InitEvent InitOutput} {state : InitState}
    (running : initSystem.Run System.free history state) {attempt : Nat} {plan : Plan}
    (planned : planOf attempt history.outputs = some plan) (chipId : Nat)
    (nvram : Nat → BtNvram) :
    ∃ i, sentOf attempt history.outputs = plan.wantedBefore i ∧
      (∀ sent ∈ sentOf attempt history.outputs,
        (sent.2.commandFunc chipId (nvram sent.1)).len =
          (sent.2.commandFunc chipId (nvram sent.1)).data.length) ∧
      ∃ bytes, ((sentOf attempt history.outputs).mapM fun sent =>
          (sent.2.commandFunc chipId (nvram sent.1)).transmitted) = some bytes ∧
        hciFraming.decodeAll bytes.flatten =
          some ((plan.wantedBefore i).map fun sent =>
            packetOf chipId (nvram sent.1) sent.2) := by
  obtain ⟨i, -, sent⟩ := (SentInOrder.run running).planned attempt plan planned
  refine ⟨i, sent, fun sent _ => len_commandFunc _ _ _,
    (plan.wantedBefore i).map fun sent =>
      hciFraming.encode (packetOf chipId (nvram sent.1) sent.2), ?_, ?_⟩
  · rw [sent]
    simp only [transmitted_commandFunc]
    exact List.mapM_pure
  · have bytes : ((plan.wantedBefore i).map fun sent =>
        hciFraming.encode (packetOf chipId (nvram sent.1) sent.2)).flatten =
          hciFraming.encodeAll
            ((plan.wantedBefore i).map fun sent => packetOf chipId (nvram sent.1) sent.2) := by
      rw [Framing.encodeAll, List.flatMap_map, List.flatMap_def]
    rw [bytes, Framing.decodeAll_encodeAll]

/-- An attempt that has sent two commands of its script. -/
theorem packets_of_first_attempt : ∃ history state,
    initSystem.Run System.free history state ∧
    sentOf 1 history.outputs = [(0, .setLocalBdAddr), (1, .setRadio)] ∧
    ∃ plan i bytes, planOf 1 history.outputs = some plan ∧
      ((sentOf 1 history.outputs).mapM fun sent =>
        (sent.2.commandFunc 0x6755 stBtDefaultConsys).transmitted) = some bytes ∧
      hciFraming.decodeAll bytes.flatten =
        some ((plan.wantedBefore i).map fun sent => packetOf 0x6755 stBtDefaultConsys sent.2) := by
  obtain ⟨history, state, running, seen⟩ := System.exists_run_of_exec initSystem System.free
    (([.initDevice 0x6755 false ⟨false, true⟩, .created, .start] : List InitEvent) ++
      exchange 1 0 .setLocalBdAddr ++ ([.check, .arm true, .send true] : List InitEvent))
    (fun final => (sentOf 1 final.1.outputs, (planOf 1 final.1.outputs).isSome)) rfl
    (by decide +kernel)
    (show _ = some (([(0, .setLocalBdAddr), (1, .setRadio)] : List (Nat × HciCommand)), true) by
      decide +kernel)
  obtain ⟨commands, isSome⟩ := Prod.mk.inj seen
  obtain ⟨plan, planned⟩ := Option.isSome_iff_exists.mp isSome
  obtain ⟨i, -, -, bytes, transmitted, decoded⟩ :=
    packets_of_attempt running planned 0x6755 (fun _ => stBtDefaultConsys)
  exact ⟨history, state, running, commands, plan, i, bytes, planned, transmitted, decoded⟩

end X3Hal.Bluetooth
