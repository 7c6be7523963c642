import X3Hal.Wpa.DriverCall

/-!
# Driver commands of the supplicant

`wpa_driver_nl80211_driver_cmd` runs the handler of a command.  The command, the caller's buffer
and the arrays of the functions are blocks of bytes, and a call fails where it reads or writes
outside of them.  Addresses and sizes have 64 bits.  Log lines are left out unless they read the
buffer, and so is what the handlers set in the P2P module other than its capability.
-/

namespace X3Hal.Wpa

open X3Hal.Memory
open X3Hal.Gps (wrap32)

/-! ## Statistics, addresses and the country -/

/-- The lines of `print_sta_statistics`: 0 when one does not fit -/
def printLines : Nat → List (List UInt8) → List UInt8 → Option (Int × List UInt8)
  | pos, [], buf => some (pos, buf)
  | pos, line :: lines, buf => do
      let buf ← snprintf buf pos (buf.length - pos) line
      if buf.length - pos ≤ line.length then some (0, buf)
      else printLines (pos + line.length) lines buf

/-- `wpa_driver_get_sta_statistics` -/
def getStaStatistics (driver : Driver) (call : DriverCall) : Option (Int × DriverCall) := do
  let addr ← cString call.cmd 19
  match driver.hwaddrAton addr with
  | none => call.returns (-1)
  | some staAddr => do
      let wpaS ← driver.wpaS
      let mac := (wpaS.staMac staAddr).getD staAddr
      let (answer, call) ← sendMessage driver call (testModeMessage 0x10
        (List.replicate 8 0 ++ mac.bytes ++ [0, 0] ++ leBytes 8 driver.answerBase))
      if answer < 0 then call.returns (-1)
      else do
        let (ret, buf) ← printLines 0 wpaS.statistics call.buf
        { call with buf := buf }.returns ret

def hexByte (byte : UInt8) : List UInt8 :=
  [byte / 16, byte % 16].map fun digit => if digit < 10 then digit + 48 else digit + 87

/-- `MACSTR` -/
def macStr (addr : MacAddr) : List UInt8 :=
  [58].intercalate (addr.bytes.map hexByte)

/-- `MACADDR` -/
def macaddr (driver : Driver) (call : DriverCall) : Option (Int × DriverCall) := do
  let wpaS ← driver.wpaS
  let text := ascii "Macaddr = " ++ macStr wpaS.ownAddr ++ [10]
  let buf ← snprintf call.buf 0 call.buf.length text
  let _ ← debugString driver buf
  { call with buf := buf }.returns text.length

/-- `wpa_driver_mediatek_set_country` -/
def setCountry (driver : Driver) (alpha2 : List UInt8) : Option Int := do
  let buf ← snprintf (List.replicate 11 0) 0 11 (ascii "COUNTRY " ++ alpha2)
  let text ← cString buf 0
  some (driver.countryIoctl text)

/-- `wpa_driver_notify_country_change` -/
def notifyCountryChange (call : DriverCall) : Option DriverCall := do
  let text ← cString call.cmd 0
  if 9 < text.length then do
    let alpha2 ← load call.cmd 8 2
    some (call.emit (.countryChange alpha2))
  else some (call.emit (.countryChange [0, 0]))

/-- `COUNTRY` -/
def country (driver : Driver) (call : DriverCall) : Option (Int × DriverCall) := do
  let text ← cString call.cmd 0
  if text.length ≠ 10 then call.returns 0
  else do
    let alpha2 ← cString call.cmd 8
    let ret ← setCountry driver alpha2
    if ret = 0 then do
      let _ ← driver.wpaS
      let call ← notifyCountryChange call
      call.returns ret
    else call.returns ret

/-- `start` and `stop`, and the deauthentication before the latter -/
def start (driver : Driver) (call : DriverCall) : Option (Int × DriverCall) :=
  (call.emit (.ifaceFlags true)).returns (driver.setIfaceFlags true)

def stop (driver : Driver) (call : DriverCall) : Option (Int × DriverCall) :=
  if driver.associated then do
    let _ ← driver.wpaS
    ((call.emit .deauthenticate).emit (.ifaceFlags false)).returns (driver.setIfaceFlags false)
  else (call.emit (.ifaceFlags false)).returns (driver.setIfaceFlags false)

/-! ## Filters and hotspot clients -/

/-- `rxfilter-add` and `rxfilter-remove`, with the number behind the word -/
def rxfilter (driver : Driver) (call : DriverCall) (offset base : Nat) :
    Option (Int × DriverCall) := do
  let cp ← cString call.cmd offset
  let (value, isNumber) := strtol 0 cp
  if isNumber then do
    let idx := ((value + base) % 2 ^ 32).toNat
    let (_, call) ← driverSwCmd driver call true 0x9F000000 idx
    call.returns 0
  else call.returns (-1)

/-- `rxfilter-stop` and `rxfilter-start` -/
def rxfilterSwitch (driver : Driver) (call : DriverCall) (idx : Nat) :
    Option (Int × DriverCall) := do
  let (_, call) ← driverSwCmd driver call true 0x9F000000 idx
  call.returns 0

/-- `wpa_driver_sta_block` and `wpa_driver_sta_unblock` -/
def staBlock (driver : Driver) (call : DriverCall) (offset : Nat) (blocked : UInt8) :
    Option (Int × DriverCall) := do
  let addr ← cString call.cmd offset
  match driver.hwaddrAton addr with
  | none => call.returns (-1)
  | some bssid => do
      let (answer, call) ← sendMessage driver call
        (testModeMessage 3 ([blocked] ++ bssid.bytes ++ [0]))
      call.returns (if answer ≠ 0 then -1 else 0)

/-- `wpa_driver_set_max_client`, whose result is not used -/
def setMaxClient (driver : Driver) (call : DriverCall) : Option (Int × DriverCall) := do
  let text ← cString call.cmd 15
  let (_, call) ← sendMessage driver call
    (testModeMessage 51 (leBytes 4 1 ++ signedBytes 4 (atoi text)))
  call.returns (-1)

/-- The loop of `wpa_driver_do_mtk_acs` over the channels, into `ch` -/
def listChannel (channels : Nat) (state : List UInt8 × Nat) (i : Nat) :
    Option (List UInt8 × Nat) :=
  if channels.testBit i then do
    let ch ← store state.1 state.2 [UInt8.ofNat (i + 1)]
    some (ch, state.2 + 1)
  else some state

/-- `wpa_driver_do_mtk_acs`, with the tries that are left -/
def doMtkAcs (driver : Driver) : Nat → DriverCall → Option (List UInt8 × DriverCall)
  | 0, call => some ([0], call)
  | tries + 1, call => do
      let (_, call) ← sendMessage driver call
        (testModeMessage 0x30 (leBytes 8 driver.answerBase))
      let channels := driver.channels2g tries
      if channels.testBit 31 then do
        let (ch, _) ← (List.range 14).foldlM (listChannel channels) (List.replicate 14 0, 0)
        let first ← load ch 0 1
        some (first, call)
      else doMtkAcs driver tries call

/-- `MTK-ACS` -/
def mtkAcs (driver : Driver) (call : DriverCall) : Option (Int × DriverCall) := do
  let (ch, call) ← doMtkAcs driver 6 call
  let buf ← store call.buf 0 ch
  { call with buf := buf }.returns 1

/-! ## WAPI -/

/-- Bytes at an address: those of the buffer and of the command are known. -/
def readAt (driver : Driver) (call : DriverCall) (address size : Nat) : Option (List UInt8) :=
  if driver.bufBase ≤ address ∧ address + size ≤ driver.bufBase + call.buf.length then
    load call.buf (address - driver.bufBase) size
  else if driver.cmdBase ≤ address then load call.cmd (address - driver.cmdBase) size
  else none

/-- A copy from an address, which is not made for NULL or without bytes -/
def copyAt (driver : Driver) (call : DriverCall) (address size : Nat) (params : List UInt8)
    (offset : Nat) : Option (List UInt8) :=
  if address ≠ 0 ∧ size ≠ 0 then do
    let bytes ← readAt driver call address size
    store params offset bytes
  else some params

/-- The address of a key; that of a group without one -/
def keyAddr (driver : Driver) (call : DriverCall) (address : Nat) : Option (List UInt8) :=
  if address = 0 then some (List.replicate 6 0xff) else readAt driver call address 6

/-- `wpa_driver_wapi_key_params` before the copies -/
def wapiKeyParams (keyIdx keyLen extKeyLen flags : Nat) (addr : List UInt8) : List UInt8 :=
  testModeMessage 2 ([UInt8.ofNat (keyIdx + 1), UInt8.ofNat keyLen, 0, 0] ++
    (leBytes 4 flags ++ List.replicate 16 0 ++ addr ++ leBytes 2 0x20 ++ leBytes 2 extKeyLen ++
      List.replicate 34 0))

/-- `wpa_driver_nl80211_set_wapi_key` on what the buffer has -/
def setWapiKey (driver : Driver) (call : DriverCall) : Option (Int × DriverCall) := do
  let addr ← number call.buf 0 8
  let keyIdx ← number call.buf 8 4
  let setTx ← number call.buf 12 4
  let seq ← number call.buf 16 8
  let seqLen ← number call.buf 24 8
  let key ← number call.buf 32 8
  let keyLen ← number call.buf 40 8
  if 16 < seqLen then call.returns (-1)
  else do
    let addrBytes ← keyAddr driver call addr
    let flags := (if addrBytes = List.replicate 6 0xff then 4 else 0) +
      (if setTx ≠ 0 then 8 else 0)
    let extKeyLen := if key ≠ 0 ∧ keyLen ≠ 0 then keyLen else 0
    let params := wapiKeyParams keyIdx keyLen extKeyLen flags addrBytes
    let params ← copyAt driver call key keyLen params 42
    let params ← copyAt driver call seq seqLen params 16
    let (_, call) ← sendMessage driver call params
    call.returns 0

/-- `wpa_driver_nl80211_send_msg` on what the buffer has -/
def wapiMsgSend (call : DriverCall) : Option (Int × DriverCall) := do
  let _ ← number call.buf 0 8
  let msgInLen ← number call.buf 8 4
  let _ ← number call.buf 16 8
  let _ ← number call.buf 24 8
  call.returns (if 1024 < signed 4 msgInLen then -1 else 0)

/-! ## P2P and Wi-Fi display -/

/-- `p2p_get_capability` -/
def p2pGetCap (driver : Driver) (call : DriverCall) : Option (Int × DriverCall) := do
  let wpaS ← driver.wpaS
  match wpaS.p2p with
  | none => call.returns (-1)
  | some devCapab => do
      let text ← cString call.cmd 12
      if Comparison.strncmp.accepts (ascii "p2p_dev_capa") text then do
        let line := ascii "p2p_dev_capa=" ++ ascii (toString devCapab) ++ [10]
        let buf ← snprintf call.buf 0 call.buf.length line
        let _ ← debugString driver buf
        { call with buf := buf }.returns line.length
      else
        call.returns (if Comparison.strncmp.accepts (ascii "p2p_group_capa") text then -1 else 0)

/-- `p2p_set_capability` -/
def p2pSetCap (driver : Driver) (call : DriverCall) : Option (Int × DriverCall) := do
  let wpaS ← driver.wpaS
  match wpaS.p2p with
  | none => call.returns (-1)
  | some _ => do
      let text ← cString call.cmd 12
      if Comparison.strncmp.accepts (ascii "p2p_dev_capa ") text then do
        let value ← cString call.cmd (12 + 13)
        (call.emit (.devCapab (atoi value % 256).toNat)).returns 0
      else
        call.returns (if Comparison.strncmp.accepts (ascii "p2p_group_capa ") text then -1 else 0)

/-- The command is made shorter in its place. -/
def rebuildMiracast (call : DriverCall) : Option DriverCall := do
  let text ← cString call.cmd 0
  let cmd ← store call.cmd 0 (List.replicate text.length 0)
  let cmd ← store cmd 0 (ascii "MIRACAST 2")
  some { call with cmd := cmd }

/-- `MIRACAST`, before the private command -/
def miracast (driver : Driver) (call : DriverCall) : Option DriverCall := do
  let text ← cString call.cmd 9
  let value := atoi text % 256
  let pos ← strstr call.cmd 0 (ascii " freq=")
  if value = 0 ∨ value = 1 then do
    let _ ← driver.wpaS
    some call
  else if value = 2 then do
    let _ ← driver.wpaS
    match pos with
    | none => some call
    | some pos => do
        let _ ← cString call.cmd (pos + 6)
        let call ← rebuildMiracast call
        some call
  else some call

/-- `p2p_use_mcc=` -/
def p2pUseMcc (driver : Driver) (call : DriverCall) : Option (Int × DriverCall) := do
  let _ ← cString call.cmd 12
  let _ ← driver.wpaS
  call.returns (-1)

/-- A member of `wfd_data_s` that is copied to one of `wpa_driver_wfd_data_s` -/
inductive WfdCopy
  | number (source : Member) (offset size : Nat)
  | bytes (source : Member) (offset : Nat)

def WfdCopy.source : WfdCopy → Member
  | number source _ _ => source
  | bytes source _ => source

/-- Where it ends in `wpa_driver_wfd_data_s` -/
def WfdCopy.stop : WfdCopy → Nat
  | number _ offset size => offset + size
  | bytes source offset => offset + source.size

/-- `sizeof(wpa_driver_wfd_data_s)` -/
def wfdParamsSize : Nat := 464

def wfdCopies (layout : WfdDataLayout) : List WfdCopy :=
  [.number layout.cmdType 8 4, .number layout.enable 12 1, .number layout.coupleSinkStatus 13 1,
    .number layout.devInfo 16 2, .number layout.controlPort 18 2, .number layout.maximumTp 20 2,
    .number layout.extendCap 22 2, .bytes ⟨layout.coupleSinkAddress.offset, 6⟩ 24,
    .bytes ⟨layout.associatedBssid.offset, 6⟩ 30, .bytes layout.videoIp 36,
    .bytes layout.audioIp 40, .number layout.videoPort 44 2, .number layout.audioPort 46 2,
    .number layout.flag 48 4, .number layout.policy 52 4, .number layout.state 56 4,
    .number layout.sessionInformationIeLen 252 2]

/-- Those behind the information element -/
def wfdCopiesAfter (layout : WfdDataLayout) : List WfdCopy :=
  [.bytes ⟨layout.primarySinkMac.offset, 6⟩ 256, .bytes ⟨layout.secondarySinkMac.offset, 6⟩ 262,
    .number layout.advancedFlag 268 4, .number layout.sessionAvailable 14 1,
    .number layout.sigmaMode 15 1, .bytes layout.localIp 272]

def wfdCopy (buf params : List UInt8) (copy : WfdCopy) : Option (List UInt8) :=
  match copy with
  | .number source offset size => do
      let value ← number buf source.offset source.size
      store params offset (leBytes size value)
  | .bytes source offset => do
      let bytes ← load buf source.offset source.size
      store params offset bytes

/-- `wpas_wfd_data_update` on the structure that the buffer is taken for -/
def wfdDataUpdate (driver : Driver) (call : DriverCall) : Option (Int × DriverCall) := do
  let _ ← driver.wpaS
  let layout := driver.wfdData
  let params := testModeInfo 2 layout.size ++ List.replicate (wfdParamsSize - 8) 0
  let params ← (wfdCopies layout).foldlM (wfdCopy call.buf) params
  let ieLen ← number call.buf layout.sessionInformationIeLen.offset
    layout.sessionInformationIeLen.size
  let params ← wfdCopy call.buf params (.bytes ⟨layout.sessionInformationIe.offset, ieLen⟩ 60)
  let params ← (wfdCopiesAfter layout).foldlM (wfdCopy call.buf) params
  let (answer, call) ← sendMessage driver call params
  call.returns answer

/-! ## P2P for the certification -/

/-- `wpas_p2p_sigma_test_mode` -/
def sigmaTestMode (driver : Driver) (call : DriverCall) (index : Nat) (value : Int) :
    Option (Int × DriverCall) := do
  let _ ← driver.wpaS
  sendMessage driver call (testModeMessage 1 (leBytes 4 index ++ signedBytes 4 value))

/-- A string search from a pointer, which may be NULL -/
def strchrFrom (block : List UInt8) (str : Option Nat) (byte : UInt8) : Option (Option Nat) :=
  match str with
  | none => none
  | some offset => strchr block offset byte

/-- What a command has behind its first blank: `none` without a blank -/
def valueBehind (call : DriverCall) : Option (Option (Int × DriverCall)) := do
  let value ← strchr call.cmd 0 32
  match value with
  | none => some none
  | some blank => do
      let cmd ← store call.cmd blank [0]
      let text ← cString cmd (blank + 1)
      some (some (atoi text, { call with cmd := cmd }))

/-- `mcc` -/
def mcc (driver : Driver) (call : DriverCall) : Option (Int × DriverCall) := do
  let wpaS ← driver.wpaS
  if wpaS.drvPriv then do
    let value ← valueBehind call
    value.elim (call.returns (-1)) fun found => found.2.returns 0
  else call.returns (-1)

/-- `sigma_mode` -/
def sigmaMode (call : DriverCall) : Option (Int × DriverCall) := do
  let value ← valueBehind call
  value.elim (call.returns (-1)) fun found => found.2.returns 0

/-- The rest of `p2p_ctrl_iface_set_opps`, from `str` on -/
def p2pSetOppsFrom (driver : Driver) (call : DriverCall) (ctWin : Int) (str : Option Nat) :
    Option (Int × DriverCall) := do
  let second ← strchrFrom call.cmd str 32
  match second with
  | none => do
      let (_, call) ← sigmaTestMode driver call 107 ctWin
      call.returns 0
  | some blank => do
      let cmd ← store call.cmd blank [0]
      -- the SSID is parsed for a log line
      let _ ← cString cmd (blank + 1)
      let (_, call) ← sigmaTestMode driver { call with cmd := cmd } 107 ctWin
      call.returns 0

/-- `p2p_ctrl_iface_set_opps` -/
def p2pSetOpps (driver : Driver) (call : DriverCall) : Option (Int × DriverCall) := do
  let text ← cString call.cmd 13
  let first ← strchr call.cmd 13 32
  match first with
  | none => p2pSetOppsFrom driver call (atoi text) none
  | some blank => do
      let cmd ← store call.cmd blank [0]
      let addr ← cString cmd (blank + 1)
      match driver.hwaddrAton addr with
      | none => ({ call with cmd := cmd } : DriverCall).returns (-1)
      | some _ => p2pSetOppsFrom driver { call with cmd := cmd } (atoi text) (some (blank + 1))

/-- `p2p_ctrl_iface_set_power_save` -/
def p2pSetPowerSave (driver : Driver) (call : DriverCall) : Option (Int × DriverCall) := do
  let text ← cString call.cmd 19
  let (_, call) ← sigmaTestMode driver call 108 (atoi text)
  call.returns 0

/-- `p2p_ctrl_iface_set_sleep` on a string in the command -/
def p2pSetSleep (driver : Driver) (call : DriverCall) (offset : Nat) :
    Option (Int × DriverCall) := do
  let text ← cString call.cmd offset
  match driver.hwaddrAton text with
  | none => call.returns (-1)
  | some _ => do
      let str ← strchr call.cmd offset 32
      match str with
      | none => do
          let (_, call) ← sigmaTestMode driver call 106 0
          call.returns 0
      | some blank => do
          let cmd ← store call.cmd blank [0]
          -- the SSID is parsed for a log line
          let _ ← cString cmd (blank + 1)
          let (_, call) ← sigmaTestMode driver { call with cmd := cmd } 106 0
          call.returns 0

/-- `cmd2`, with its NUL -/
def sleepCmd : List UInt8 :=
  ascii "ff:ff:ff:ff:ff:ff \"\"" ++ [0]

/-- `p2p_set_sleep` without an address -/
def p2pSetSleepDefault (driver : Driver) (call : DriverCall) : Option (Int × DriverCall) := do
  let (ret, after) ← p2pSetSleep driver { call with cmd := sleepCmd } 0
  { after with cmd := call.cmd }.returns ret

/-! ## Notice of absence and power save -/

/-- The size of `argv` -/
def argvSize : Nat := 64

/-- The arguments of a command; `none` when there are not four tokens. -/
def fourTokens (call : DriverCall) : Option (DriverCall × Option (List Int)) := do
  let text ← cString call.cmd 0
  let (cmd, argv) ← tokenizeSpace call.cmd argvSize (wrap32 text.length)
  if argv.length ≠ 4 then some ({ call with cmd := cmd }, none)
  else do
    let texts ← (argv.drop 1).mapM (cString cmd)
    some ({ call with cmd := cmd }, some (texts.map atoi))

/-- `p2p_ctrl_iface_set_noa` -/
def p2pSetNoa (driver : Driver) (call : DriverCall) : Option (Int × DriverCall) := do
  let (call, arguments) ← fourTokens call
  match arguments with
  | none => call.returns (-1)
  | some values => do
      let _ ← driver.wpaS
      let (answer, call) ← sendMessage driver call (testModeMessage 1
        (leBytes 4 4 ++ leBytes 4 0 ++ values.flatMap (signedBytes 4)))
      call.returns answer

/-- `ctw` with the bit that says whether there is opportunistic power save -/
def oppsValue (enable ctw : Int) : Int :=
  if enable ≠ 0 ∧ ctw / 128 % 2 = 0 then ctw + 128 else ctw

/-- `p2p_ctrl_iface_set_ps` -/
def p2pSetPs (driver : Driver) (call : DriverCall) : Option (Int × DriverCall) := do
  let (call, arguments) ← fourTokens call
  match arguments with
  | none => call.returns (-1)
  | some values => do
      let _ ← driver.wpaS
      let (answer, call) ← sendMessage driver call (testModeMessage 1
        (leBytes 4 107 ++ signedBytes 4 (oppsValue (values.getD 1 0) (values.getD 2 0))))
      call.returns answer

/-! ## Commands that the kernel driver gets -/

/-- `SETSUSPENDMODE`, before the private command -/
def setsuspendmode (driver : Driver) (call : DriverCall) : Option DriverCall := do
  let suspend ← number call.cmd 15 1
  let (_, call) ← sendMessage driver call
    (testModeMessage 101 (signedBytes 1 (suspend - 48) ++ [0, 0, 0]))
  some call

/-- The text that the handler copies of eight digits -/
def filterText (cmd : List UInt8) (pos : Nat) : Option (List UInt8) := do
  let digits ← load cmd pos 8
  let buf ← store (List.replicate 9 0) 0 digits
  let buf ← store buf 8 [0]
  cString buf 0

/-- Eight digits of `mtk_rx_packet_filter` -/
def filterWordOf (long : LongSize) (cmd : List UInt8) (pos : Nat) : Option Int := do
  let text ← filterText cmd pos
  some (strtolOf long 16 text).1

/-- `mtk_rx_packet_filter` -/
def mtkRxPacketFilterOf (long : LongSize) (driver : Driver) (call : DriverCall) :
    Option (Int × DriverCall) := do
  let text ← cString call.cmd 0
  if text.length ≠ 71 then call.returns (-1)
  else do
    let words ← [21, 29, 38, 46, 55, 63].mapM (filterWordOf long call.cmd)
    let (answer, call) ← sendMessage driver call
      (testModeMessage 103 (words.flatMap (signedBytes 4)))
    call.returns answer

/-- `mtk_rx_packet_filter`, with a `long` of 64 bits -/
def mtkRxPacketFilter (driver : Driver) (call : DriverCall) : Option (Int × DriverCall) :=
  mtkRxPacketFilterOf .bits64 driver call

/-- The command of no word, before the private command: the length is that of the whole string,
in 32 bits. -/
def transparentCommand (driver : Driver) (call : DriverCall) : Option DriverCall := do
  let text ← cString call.cmd 0
  let buflen := (8 + text.length) % 2 ^ 32
  let buffer ← store (List.replicate 100 0) 0 (testModeInfo 102 buflen)
  let buffer ← store buffer 8 (strncpy (100 - 8) text)
  let (_, call) ← sendTestmode driver call buffer buflen
  some call

/-- `PRIV_CMD_SIZE` -/
def privCmdSize : Nat := 512

/-- `cmd_len`, cut to the size of the array -/
def privateLength (text : List UInt8) : Int :=
  let cmdLen := wrap32 text.length
  if (privCmdSize : Int) ≤ cmdLen then (privCmdSize : Int) - 1 else cmdLen

/-- What is copied of a private command; a negative size is one beyond every array. -/
def privateCopy (cmd : List UInt8) (cmdLen : Int) : Option (List UInt8) :=
  if 0 ≤ cmdLen + 1 then load cmd 0 (cmdLen + 1).toNat else none

/-- What follows a command that is not `handled` -/
def privateCommand (driver : Driver) (call : DriverCall) : Option (Int × DriverCall) := do
  let text ← cString call.cmd 0
  let copied ← privateCopy call.cmd (privateLength text)
  let privBuf ← store (List.replicate privCmdSize 0) 0 copied
  let call := { call with buf := List.replicate call.buf.length 0 }.emit (.privateCommand privBuf)
  if driver.privIoctl privBuf < 0 then do
    let buf ← snprintf call.buf 0 call.buf.length (ascii "FAIL\n")
    { call with buf := buf }.returns 5
  else if Comparison.strncasecmp.accepts (ascii "WLS_BATCHING") text then do
    let found ← cString call.buf 0
    call.returns found.length
  else call.returns 0

/-! ## The call -/

/-- The handler of a command; three commands are not `handled` by theirs. -/
def runCommand (driver : Driver) (call : DriverCall) : DriverCommand → Option (Int × DriverCall)
  | .powermode => do
      let _ ← cString call.cmd 10
      call.returns (-1)
  | .getStaStatistics => getStaStatistics driver call
  | .macaddr => macaddr driver call
  | .country => country driver call
  | .start => start driver call
  | .stop => stop driver call
  | .getpower => call.returns (-1)
  | .rxfilterAdd => rxfilter driver call 12 0x00900200
  | .rxfilterRemove => rxfilter driver call 15 0x00900300
  | .rxfilterStop => rxfilterSwitch driver call 0x00900000
  | .rxfilterStart => rxfilterSwitch driver call 0x00900100
  | .btcoexscanStart | .btcoexscanStop | .btcoexmode => call.returns 0
  | .staBlock => staBlock driver call 10 1
  | .staUnblock => staBlock driver call 12 0
  | .setMaxClient => setMaxClient driver call
  | .mtkAcs => mtkAcs driver call
  | .setWapiKey => setWapiKey driver call
  | .wapiMsgSend => wapiMsgSend call
  | .p2pGetCap => p2pGetCap driver call
  | .p2pSetCap => p2pSetCap driver call
  | .miracast => do
      let call ← miracast driver call
      privateCommand driver call
  | .p2pUseMcc => p2pUseMcc driver call
  | .wfdDataUpdate => wfdDataUpdate driver call
  | .mcc => mcc driver call
  | .p2pSetOpps => p2pSetOpps driver call
  | .p2pSetPowerSave => p2pSetPowerSave driver call
  | .p2pSetSleep => p2pSetSleep driver call 14
  | .p2pSetSleepDefault => p2pSetSleepDefault driver call
  | .sigmaMode => sigmaMode call
  | .p2pSetNoa => p2pSetNoa driver call
  | .p2pSetPs => p2pSetPs driver call
  | .setsuspendmode => do
      let call ← setsuspendmode driver call
      privateCommand driver call
  | .mtkRxPacketFilter => mtkRxPacketFilter driver call
  | .transparent => do
      let call ← transparentCommand driver call
      privateCommand driver call

/-- `wpa_driver_nl80211_driver_cmd` -/
def driverCmd (driver : Driver) (text buf : List UInt8) : Option (Int × DriverCall) :=
  let call := startCall text buf
  if driver.ready then runCommand driver call (driverCommand driver.config text)
  else call.returns (-1)

end X3Hal.Wpa
