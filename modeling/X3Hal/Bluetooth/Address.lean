import X3Hal.Bluetooth.InitThread
import Mathlib.Data.Vector.Basic

/-!
# The address of the Bluetooth controller

`mtk_fw_cfg` reads the address from the NVRAM, or takes the chip's default.  A combo chip with a
default address is asked for its own one, which `GORMcmd_HCC_Set_Local_BD_Addr` sends back to it
and saves.  The thread is that of the initialisation; of the record only the address is kept, and
whether its other bytes are all zero.
-/

namespace X3Hal.Bluetooth

open X3Hal.Transition

/-! ## Addresses -/

abbrev Address := Vector UInt8 6

/-- `ucZeroAddr` -/
def zeroAddr : Address :=
  #v[0, 0, 0, 0, 0, 0]

/-- The address of `stBtDefault_...` -/
def chipDefault (chipId : Nat) : Option Address :=
  if chipId = 0x6628 then some #v[0x00, 0x00, 0x46, 0x66, 0x28, 0x01]
  else if chipId = 0x6630 then some #v[0x00, 0x00, 0x46, 0x66, 0x30, 0x01]
  else if chipId = 0x6632 then some #v[0x00, 0x00, 0x46, 0x66, 0x32, 0x01]
  else if chipId ∈ consysChips then some #v[0x00, 0x00, 0x46, 0x00, 0x00, 0x01]
  else none

/-- Whether an address is the given default or all zero. -/
def isDefaultAddr (ucDefaultAddr addr : Address) : Bool :=
  addr = ucDefaultAddr || addr = zeroAddr

/-- The record in the NVRAM. -/
structure NvramRecord where
  addr : Address
  othersZero : Bool
  deriving DecidableEq

/-- The address that `mtk_fw_cfg` gives to `BT_InitDevice`, if it calls it. -/
def startAddr (chipId : Nat) (record : NvramRecord) (readable : Bool) : Option Address :=
  if readable = false ∨ (record.addr = zeroAddr ∧ record.othersZero) then chipDefault chipId
  else some record.addr

/-- The bytes of an address that were written over an older one. -/
def writtenOver (count : Nat) (addr old : Address) : Address :=
  Vector.ofFn fun i => if i.val < count then addr[i] else old[i]

/-! ## The steps -/

structure AddressState where
  init : InitState
  /-- `btinit->bt_nvram.fields.addr` -/
  addr : Address
  ucDefaultAddr : Address
  /-- the address in the NVRAM -/
  nvram : Address

inductive AddressEvent
  /-- `mtk_fw_cfg` finds a record, which other programs may have written. -/
  | fwCfg (chipId : Nat) (record : NvramRecord) (readable : Bool) (settings : Settings)
  | start
  /-- A command is sent; so many bytes are written if it saves the address. -/
  | send (accepted : Bool) (written : Nat)
  /-- An event with its parameters comes to the callback of a command. -/
  | receive (attempt index code opCode status : Nat) (addr : Address)
  /-- Any other step of the thread or its callers. -/
  | other (event : InitEvent)
  deriving DecidableEq

inductive AddressOutput
  /-- `BT_InitDevice` -/
  | began (attempt chipId : Nat) (addr : Address)
  /-- `GORMevt_HCE_Get_Local_BD_Addr` has copied the address. -/
  | fetched (attempt : Nat) (success : Bool) (addr : Address)
  /-- `WriteBDAddrToNvram` -/
  | saved (attempt : Nat) (addr : Address)
  /-- `GORMcmd_HCC_Set_Local_BD_Addr` sends the address, if `xmit_cb` accepts it. -/
  | set (attempt : Nat) (addr : Address) (accepted : Bool)
  deriving DecidableEq

namespace AddressState

/-- `mtk_fw_cfg` with `BT_InitDevice` -/
def fwCfg (chipId : Nat) (record : NvramRecord) (readable : Bool) (settings : Settings)
    (state : AddressState) : Option (AddressState × List AddressOutput) :=
  if state.init.main = .out then
    match startAddr chipId record readable with
    | none => some (state, [])
    | some addr =>
        some ({ state with
            init := state.init.initDevice chipId false settings
            addr := addr
            nvram := record.addr },
          [.began (state.init.attempt + 1) chipId addr])
  else none

/-- The thread up to its loop, with the address as it finds it. -/
def start (state : AddressState) : Option (AddressState × List AddressOutput) :=
  let ucDefaultAddr := (chipDefault state.init.chipId).getD state.ucDefaultAddr
  let init := { state.init with nvramIsDefault := isDefaultAddr ucDefaultAddr state.addr }
  (init.step .start).map fun started =>
    ({ state with init := started.1, ucDefaultAddr := ucDefaultAddr }, [])

/-- Whether `GORMcmd_HCC_Set_Local_BD_Addr` saves the address. -/
def saves (state : AddressState) : Bool :=
  isDefaultAddr state.ucDefaultAddr state.addr || state.init.fgGetEfuse

/-- `GORMcmd_HCC_Set_Local_BD_Addr`, without the step of the thread; `BD_ADDR_AUTOGEN` is not
defined. -/
def setLocalBdAddr (accepted : Bool) (written : Nat) (state : AddressState) :
    AddressState × List AddressOutput :=
  if state.saves then
    ({ state with nvram := writtenOver written state.addr state.nvram },
      [.saved state.init.attempt state.addr, .set state.init.attempt state.addr accepted])
  else (state, [.set state.init.attempt state.addr accepted])

/-- The command of the thread's place. -/
def sends (state : AddressState) (command : HciCommand) : Prop :=
  match state.init.place with
  | .sending i => state.init.plan.script[i]? = some command
  | _ => False

instance (state : AddressState) (command : HciCommand) : Decidable (state.sends command) := by
  unfold sends
  split <;> infer_instance

def send (accepted : Bool) (written : Nat) (state : AddressState) :
    Option (AddressState × List AddressOutput) :=
  (state.init.step (.send accepted)).map fun sent =>
    let (called, out) :=
      if state.sends .setLocalBdAddr then state.setLocalBdAddr accepted written else (state, [])
    ({ called with init := sent.1 }, out)

/-- The callback that an event comes to. -/
def callback? (state : AddressState) (attempt index : Nat) : Option Callback :=
  state.init.callbacks.find? fun callback => callback.attempt = attempt ∧ callback.index = index

/-- The handlers up to the mutex: that of `Get_Local_BD_Addr` copies the address whether or not
the event reports success. -/
def receive (attempt index code opCode status : Nat) (addr : Address) (state : AddressState) :
    Option (AddressState × List AddressOutput) :=
  (state.callback? attempt index).map fun callback =>
    let verdict := state.init.verdict callback code opCode status
    let init := { state.init with verdicts := verdict :: state.init.verdicts }
    if callback.command = .getLocalBdAddr then
      ({ state with init := init, addr := addr }, [.fetched callback.attempt verdict.passes addr])
    else ({ state with init := init }, [])

def step (state : AddressState) : AddressEvent → Option (AddressState × List AddressOutput)
  | .fwCfg chipId record readable settings => state.fwCfg chipId record readable settings
  | .start => state.start
  | .send accepted written => state.send accepted written
  | .receive attempt index code opCode status addr =>
      state.receive attempt index code opCode status addr
  | .other event =>
      match event with
      | .initDevice _ _ _ | .start | .send _ | .receive _ _ _ _ _ => none
      | .created | .cleanup | .join | .check | .arm _ | .look | .report | .finish | .signal _ =>
          (state.init.step event).map fun stepped => ({ state with init := stepped.1 }, [])

end AddressState

/-- The statics of the driver, and any address in the NVRAM. -/
def addressSystem : System AddressState AddressEvent AddressOutput where
  Init state := state.init = initInit
  step := AddressState.step

/-! ## What an attempt promises -/

/-- The latest attempt with its chip and the address that it started from. -/
def latestStart (outputs : List AddressOutput) : Option (Nat × Nat × Address) :=
  (outputs.filterMap fun output =>
    match output with
    | .began attempt chipId addr => some (attempt, chipId, addr)
    | .fetched _ _ _ | .saved _ _ | .set _ _ _ => none).getLast?

/-- An attempt started from the default address of its chip or from zeros. -/
def startsDefault (chipId : Nat) (addr : Address) : Bool :=
  (chipDefault chipId).any (addr = ·) || addr = zeroAddr

/-- An address is the one that the attempt started from, or, in an attempt that started from a
default address, the one that its own successful `Get_Local_BD_Addr` gave. -/
def Rightful (before : List AddressOutput) (attempt : Nat) (addr : Address) : Prop :=
  ∃ start ∈ latestStart before, start.1 = attempt ∧
    (addr = start.2.2 ∨
      startsDefault start.2.1 start.2.2 = true ∧ .fetched attempt true addr ∈ before)

/-- The addresses that are sent and saved are rightful. -/
def AddressDue (before : List AddressOutput) : AddressOutput → Prop
  | .set attempt addr _ | .saved attempt addr => Rightful before attempt addr
  | .began _ _ _ | .fetched _ _ _ => True

/-- An attempt that did not start from a default address leaves it in the NVRAM. -/
def NvramKept (outputs : List AddressOutput) (nvram : Address) : Prop :=
  ∀ start ∈ latestStart outputs, startsDefault start.2.1 start.2.2 = false → nvram = start.2.2

instance (before : List AddressOutput) (attempt : Nat) (addr : Address) :
    Decidable (Rightful before attempt addr) :=
  inferInstanceAs (Decidable (∃ start ∈ latestStart before, _))

instance (before : List AddressOutput) (output : AddressOutput) :
    Decidable (AddressDue before output) :=
  match output with
  | .set attempt addr _ | .saved attempt addr =>
      inferInstanceAs (Decidable (Rightful _ attempt addr))
  | .began _ _ _ | .fetched _ _ _ => inferInstanceAs (Decidable True)

/-! ## What the address relies on -/

/-- The thread may still send commands. -/
def ThreadPlace.underWay : ThreadPlace → Bool
  | .created | .loop _ | .arm _ | .sending _ | .waiting _ => true
  | .none | .ending _ _ | .reported | .done => false

def AddressOutput.setsIn (attempt : Nat) : AddressOutput → Bool
  | .set other _ _ => other = attempt
  | .began _ _ _ | .fetched _ _ _ | .saved _ _ => false

def AddressOutput.succeedsIn (attempt : Nat) : AddressOutput → Bool
  | .fetched other success _ => other = attempt && success
  | .began _ _ _ | .set _ _ _ | .saved _ _ => false

/-- An event of `Get_Local_BD_Addr` comes after the address is set, or it is of this attempt, and
not a failure after a success. -/
def AnswerDue (outputs : List AddressOutput) (attempt : Nat) (verdict : Verdict) : Prop :=
  (∃ output ∈ outputs, output.setsIn attempt = true) ∨
    (verdict.attempt = attempt ∧ (verdict.passes = true ∨
      ∀ output ∈ outputs, output.succeedsIn attempt = false))

/-- A success that comes while the thread waits for the address is that of its command. -/
def SuccessDue (init : InitState) (verdict : Verdict) : ThreadPlace → Prop
  | .sending i | .waiting i => init.plan.script[i]? = some .getLocalBdAddr →
      verdict.attempt = init.attempt ∧ verdict.index = i
  | .none | .created | .loop _ | .arm _ | .ending _ _ | .reported | .done => True

/-- No flag is left from an earlier attempt; an address comes only from the attempt's own
`Get_Local_BD_Addr`, whose success is not followed by a failure; and no other event is taken for
its success. -/
def AddressGuard : System.Guard AddressState AddressEvent AddressOutput
  | _, state, .start =>
      state.init.fgGetEfuse = true → (chipScript state.init.chipId).any (!·.2) = true →
        startsDefault state.init.chipId state.addr = true
  | history, state, .receive attempt index code opCode status _ =>
      ∀ callback ∈ state.callback? attempt index, callback.command = .getLocalBdAddr →
        state.init.place.underWay = true → AnswerDue history.outputs state.init.attempt
          (state.init.verdict callback code opCode status)
  | _, state, .other (.signal verdict) =>
      verdict.passes = true → SuccessDue state.init verdict state.init.place
  | _, _, .fwCfg _ _ _ _ | _, _, .send _ _ => True
  | _, _, .other (.initDevice _ _ _) | _, _, .other .created | _, _, .other .cleanup
  | _, _, .other .join | _, _, .other .start | _, _, .other .check | _, _, .other (.arm _)
  | _, _, .other (.send _) | _, _, .other .look | _, _, .other .report | _, _, .other .finish
  | _, _, .other (.receive _ _ _ _ _) => True

instance (outputs : List AddressOutput) (attempt : Nat) (verdict : Verdict) :
    Decidable (AnswerDue outputs attempt verdict) :=
  inferInstanceAs (Decidable ((∃ output ∈ outputs, _) ∨ _))

instance (init : InitState) (verdict : Verdict) (place : ThreadPlace) :
    Decidable (SuccessDue init verdict place) :=
  match place with
  | .sending _ | .waiting _ => inferInstanceAs (Decidable (_ → _))
  | .none | .created | .loop _ | .arm _ | .ending _ _ | .reported | .done =>
      inferInstanceAs (Decidable True)

instance (history : History AddressEvent AddressOutput) (state : AddressState)
    (event : AddressEvent) : Decidable (AddressGuard history state event) :=
  match event with
  | .start => inferInstanceAs (Decidable (_ → _ → _))
  | .receive attempt index _ _ _ _ =>
      inferInstanceAs (Decidable (∀ callback ∈ state.callback? attempt index, _ → _ →
        AnswerDue _ _ _))
  | .other (.signal _) => inferInstanceAs (Decidable (_ → SuccessDue _ _ _))
  | .fwCfg _ _ _ _ | .send _ _ | .other (.initDevice _ _ _) | .other .created | .other .cleanup
  | .other .join | .other .start | .other .check | .other (.arm _) | .other (.send _)
  | .other .look | .other .report | .other .finish | .other (.receive _ _ _ _ _) =>
      inferInstanceAs (Decidable True)

end X3Hal.Bluetooth
