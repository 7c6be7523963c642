import X3Hal.Memory.Heap
import X3Hal.Registry.Entries
import X3Hal.Transition.Core

/-!
# The commands of the Wi-Fi HAL

A command that is started stands in the table `cmd` under its request id and has handlers in the
table `event_cb`, one for each vendor event it waits for.  Both tables are searched from the
front, by id and by event.  Every other handler of `event_cb` is for other events.

A call of the HAL is one step, and so is an event from the driver.
-/

namespace X3Hal.Wifi

open X3Hal.Transition X3Hal.Memory X3Hal.Registry

/-! ## The classes of commands -/

/-- The vendor events that the commands wait for. -/
inductive VendorEvent
  | significantChangeResults | hotlistResultsFound | scanResultsAvailable | fullScanResults
  | rttComplete | completeScan | hotlistResultsLost | rssiMonitor | epnoEvent
  | anqpoHotspotMatch
  deriving DecidableEq

/-- What a `start` does, in order. -/
inductive StartAction
  /-- A request is created, which may fail. -/
  | create
  | registerVendorHandler (event : VendorEvent)
  /-- The driver is asked; when it refuses, these events are unregistered. -/
  | requestResponse (unregister : List VendorEvent)

open VendorEvent StartAction

namespace FullScanResultsCommand

def start : List StartAction :=
  [create, registerVendorHandler fullScanResults, requestResponse [fullScanResults]]

/-- The events that `cancel` unregisters, in order -/
def cancel : List VendorEvent :=
  [fullScanResults]

end FullScanResultsCommand

namespace ScanCommand

def start : List StartAction :=
  [create, requestResponse [], create, requestResponse [], create,
    registerVendorHandler scanResultsAvailable, registerVendorHandler completeScan,
    registerVendorHandler fullScanResults,
    requestResponse [completeScan, scanResultsAvailable, fullScanResults]]

def cancel : List VendorEvent :=
  [completeScan, scanResultsAvailable, fullScanResults]

end ScanCommand

namespace BssidHotlistCommand

def start : List StartAction :=
  [create,
    -- unregistered here before they are registered
    requestResponse [hotlistResultsFound, hotlistResultsLost],
    create, registerVendorHandler hotlistResultsFound, registerVendorHandler hotlistResultsLost,
    requestResponse [hotlistResultsFound, hotlistResultsLost]]

def cancel : List VendorEvent :=
  [hotlistResultsFound, hotlistResultsLost]

end BssidHotlistCommand

namespace EPNOCommand

def start : List StartAction :=
  [create,
    -- unregistered here before it is registered
    requestResponse [epnoEvent],
    registerVendorHandler epnoEvent]

def cancel : List VendorEvent :=
  [epnoEvent]

end EPNOCommand

namespace SignificantWifiChangeCommand

def start : List StartAction :=
  [create, requestResponse [], create, registerVendorHandler significantChangeResults,
    requestResponse [significantChangeResults]]

def cancel : List VendorEvent :=
  [significantChangeResults]

end SignificantWifiChangeCommand

namespace AnqpoConfigureCommand

def start : List StartAction :=
  [create, registerVendorHandler anqpoHotspotMatch, requestResponse [anqpoHotspotMatch]]

def cancel : List VendorEvent :=
  [anqpoHotspotMatch]

end AnqpoConfigureCommand

namespace SetRSSIMonitorCommand

def start : List StartAction :=
  [create, requestResponse [], registerVendorHandler rssiMonitor]

def cancel : List VendorEvent :=
  [rssiMonitor]

end SetRSSIMonitorCommand

namespace RttCommand

def start : List StartAction :=
  [create, requestResponse [], registerVendorHandler rttComplete]

/-- `cancel` and `cancel_specific` -/
def cancel : List VendorEvent :=
  [rttComplete]

end RttCommand

inductive CommandKind
  | fullScanResults | scan | bssidHotlist | ePNO | significantWifiChange | anqpoConfigure
  | setRSSIMonitor | rtt
  deriving DecidableEq

namespace CommandKind

def start : CommandKind → List StartAction
  | fullScanResults => FullScanResultsCommand.start
  | scan => ScanCommand.start
  | bssidHotlist => BssidHotlistCommand.start
  | ePNO => EPNOCommand.start
  | significantWifiChange => SignificantWifiChangeCommand.start
  | anqpoConfigure => AnqpoConfigureCommand.start
  | setRSSIMonitor => SetRSSIMonitorCommand.start
  | rtt => RttCommand.start

def cancel : CommandKind → List VendorEvent
  | fullScanResults => FullScanResultsCommand.cancel
  | scan => ScanCommand.cancel
  | bssidHotlist => BssidHotlistCommand.cancel
  | ePNO => EPNOCommand.cancel
  | significantWifiChange => SignificantWifiChangeCommand.cancel
  | anqpoConfigure => AnqpoConfigureCommand.cancel
  | setRSSIMonitor => SetRSSIMonitorCommand.cancel
  | rtt => RttCommand.cancel

/-- Whether the call that stops such a command makes one of its own and cancels that:
`wifi_stop_gscan`, `wifi_disable_full_scan_results`, `wifi_reset_epno_list` and
`wifi_stop_rssi_monitoring` for the id -1, and `wifi_rtt_range_cancel`. -/
def cancelsTemporary (kind : CommandKind) (id : Int) : Bool :=
  match kind with
  | scan | fullScanResults | ePNO | setRSSIMonitor => id = -1
  | rtt => true
  | bssidHotlist | significantWifiChange | anqpoConfigure => false

end CommandKind

/-! ## The tables -/

/-- An entry of `event_cb`: `vendor_subcmd` and the command in `cb_arg`. -/
abbrev CbInfo := VendorEvent × Nat

/-- An entry of `cmd`. -/
structure CmdInfo where
  id : Int
  cmd : Nat
  deriving DecidableEq

/-- `DEFAULT_EVENT_CB_SIZE` -/
def allocEventCb : Nat := 64

/-- `DEFAULT_CMD_SIZE` -/
def allocCmd : Nat := 64

structure HalInfo where
  eventCb : List CbInfo
  cmd : List CmdInfo
  deriving DecidableEq

/-- When the table is full the handler is left out, which no caller looks at. -/
def wifiRegisterVendorHandler (event : VendorEvent) (arg : Nat) (info : HalInfo) : HalInfo :=
  if info.eventCb.length < allocEventCb then
    { info with eventCb := info.eventCb ++ [(event, arg)] }
  else info

/-- `wifi_unregister_vendor_handler`, for one event after the other -/
def wifiUnregisterVendorHandlers (events : List VendorEvent) (info : HalInfo) : HalInfo :=
  { info with eventCb := removeAll events info.eventCb }

def wifiRegisterCmd (id : Int) (cmd : Nat) (info : HalInfo) : Option HalInfo :=
  if info.cmd.length < allocCmd then some { info with cmd := info.cmd ++ [⟨id, cmd⟩] } else none

/-- The command of the id, and the table without it. -/
def wifiUnregisterCmd (id : Int) (info : HalInfo) : Option Nat × HalInfo :=
  ((info.cmd.find? fun entry => entry.id = id).map CmdInfo.cmd,
    { info with cmd := info.cmd.eraseP fun entry => entry.id = id })

/-- A `start` of the command at an address, with what the creations and the driver return. -/
def runStart (cmd : Nat) : List StartAction → List Bool → HalInfo → Bool × HalInfo
  | [], _, info => (true, info)
  | create :: rest, results, info =>
      if results.headD true then runStart cmd rest results.tail info else (false, info)
  | registerVendorHandler event :: rest, results, info =>
      runStart cmd rest results (wifiRegisterVendorHandler event cmd info)
  | requestResponse unregister :: rest, results, info =>
      if results.headD true then runStart cmd rest results.tail info
      else (false, wifiUnregisterVendorHandlers unregister info)

/-! ## The calls -/

structure WifiCommand where
  kind : CommandKind
  id : Int
  deriving DecidableEq

structure WifiHal where
  info : HalInfo
  /-- the commands made so far, each at its address -/
  made : List WifiCommand
  /-- the reference that a command is created with -/
  refs : Heap Nat
  /-- `wifi_cleanup` has not released the tables. -/
  running : Bool
  /-- A command was used or released that was released before. -/
  crashed : Bool

inductive WifiOutput
  | started (cmd : Nat)
  | stopped (cmd : Nat)
  | crash
  deriving DecidableEq

namespace WifiHal

/-- The kind of the command at an address. -/
def kind (hal : WifiHal) (cmd : Nat) : Option CommandKind :=
  (hal.made[cmd]?).map WifiCommand.kind

/-- A command with its first reference. -/
def create (command : WifiCommand) (hal : WifiHal) : WifiHal :=
  { hal with made := hal.made ++ [command], refs := hal.refs.alloc hal.made.length }

def releaseRef (cmd : Nat) (hal : WifiHal) : Option WifiHal :=
  (hal.refs.release cmd).map fun refs => { hal with refs := refs }

/-- `cancel` of the command at an address, whatever its requests return -/
def cancel (cmd : Nat) (hal : WifiHal) : Option WifiHal :=
  if hal.refs cmd = .live then
    (hal.kind cmd).map fun kind =>
      { hal with info := wifiUnregisterVendorHandlers kind.cancel hal.info }
  else none

/-- `wifi_start_gscan`, `wifi_enable_full_scan_results`, `wifi_set_bssid_hotlist`,
`wifi_set_epno_list`, `wifi_set_significant_change_handler`, `wifi_set_passpoint_list`,
`wifi_start_rssi_monitoring` and `wifi_rtt_range_request` -/
def start (kind : CommandKind) (id : Int) (results : List Bool) (hal : WifiHal) :
    Option (WifiHal × List WifiOutput) :=
  let cmd := hal.made.length
  let created := hal.create ⟨kind, id⟩
  match wifiRegisterCmd id cmd created.info with
  | none => (created.releaseRef cmd).map fun after => (after, [])
  | some registered =>
      let result := runStart cmd kind.start results registered
      if result.1 then some ({ created with info := result.2 }, [.started cmd])
      else
        let left := { created with info := (wifiUnregisterCmd id result.2).2 }
        (left.releaseRef cmd).map fun after => (after, [])

def wifiCancelCmd (id : Int) (hal : WifiHal) : Option (WifiHal × List WifiOutput) :=
  let found := wifiUnregisterCmd id hal.info
  match found.1 with
  | none => some ({ hal with info := found.2 }, [])
  | some cmd =>
      (({ hal with info := found.2 } : WifiHal).cancel cmd).bind fun cancelled =>
        (cancelled.releaseRef cmd).map fun after => (after, [.stopped cmd])

/-- The calls that stop a command of a kind -/
def stop (kind : CommandKind) (id : Int) (hal : WifiHal) : Option (WifiHal × List WifiOutput) :=
  if kind.cancelsTemporary id then
    ((hal.create ⟨kind, id⟩).cancel hal.made.length).bind fun cancelled =>
      (cancelled.releaseRef hal.made.length).map fun after => (after, [])
  else hal.wifiCancelCmd id

/-- The end of `RttCommand::handleEvent`, when the results are complete -/
def completeRtt (cmd : Nat) (id : Int) (hal : WifiHal) : Option (WifiHal × List WifiOutput) :=
  let found := wifiUnregisterCmd id (wifiUnregisterVendorHandlers [rttComplete] hal.info)
  match found.1 with
  | none => some ({ hal with info := found.2 }, [.stopped cmd])
  | some registered =>
      (({ hal with info := found.2 } : WifiHal).releaseRef registered).map fun after =>
        (after, [.stopped cmd])

/-- `internal_valid_message_handler`, with whether the event completes the results of an RTT
request.  The command has a second reference while its handler runs. -/
def handleEvent (event : VendorEvent) (completed : Bool) (hal : WifiHal) :
    Option (WifiHal × List WifiOutput) :=
  match hal.info.eventCb.find? fun entry => entry.1 = event with
  | none => some (hal, [])
  | some (_, cmd) =>
      if hal.refs cmd = .live then
        (hal.made[cmd]?).bind fun command =>
          if command.kind = .rtt ∧ completed then hal.completeRtt cmd command.id
          else some (hal, [])
      else none

/-- The loop of `wifi_cleanup`, for at most as many rounds as there are commands. -/
def cleanupLoop : Nat → Nat → WifiHal → Option (WifiHal × List WifiOutput)
  | 0, _, hal => some (hal, [])
  | rounds + 1, badCommands, hal =>
      match hal.info.cmd[badCommands]? with
      | none => some (hal, [])
      | some entry =>
          (hal.cancel entry.cmd).bind fun cancelled =>
            (cancelled.releaseRef entry.cmd).bind fun after =>
              -- a command that is still in the table is passed over
              (cleanupLoop rounds
                (if hal.info.cmd.length = after.info.cmd.length then badCommands + 1
                  else badCommands) after).map
                fun last => (last.1, .stopped entry.cmd :: last.2)

def wifiCleanup (hal : WifiHal) : Option (WifiHal × List WifiOutput) :=
  (hal.cleanupLoop hal.info.cmd.length 0).map fun last =>
    ({ last.1 with running := false }, last.2)

end WifiHal

/-! ## The system -/

inductive WifiCall
  | start (kind : CommandKind) (id : Int) (results : List Bool)
  | stop (kind : CommandKind) (id : Int)
  | event (event : VendorEvent) (completed : Bool)
  | cleanup
  deriving DecidableEq

/-- The step, unless it crashes. -/
def WifiHal.safeStep (hal : WifiHal) : WifiCall → Option (WifiHal × List WifiOutput)
  | .start kind id results => hal.start kind id results
  | .stop kind id => hal.stop kind id
  | .event event completed => hal.handleEvent event completed
  | .cleanup => hal.wifiCleanup

/-- The handle is not used after `wifi_cleanup`. -/
def WifiHal.step (hal : WifiHal) (call : WifiCall) : Option (WifiHal × List WifiOutput) :=
  if hal.crashed = false ∧ hal.running then
    some ((hal.safeStep call).getD ({ hal with crashed := true }, [.crash]))
  else none

def wifiInitialize : WifiHal :=
  { info := ⟨[], []⟩
    made := []
    refs := fun _ => .absent
    running := true
    crashed := false }

def wifiSystem : System WifiHal WifiCall WifiOutput where
  Init := fun hal => hal = wifiInitialize
  step := WifiHal.step

end X3Hal.Wifi
