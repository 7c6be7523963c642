import X3Hal.Gps.Number
import X3Hal.Wpa.Tokenize

/-!
# Calls of driver commands

A command of the supplicant is compared with a list of words, and the first one that fits says
which handler it has.  The handlers send messages to the driver and answer in the buffer of the
caller.
-/

namespace X3Hal.Wpa

open X3Hal.Memory
open X3Hal.Gps (wrap32 isSpace isHexDigit digitValue digitsValue readSign toLower)

/-! ## The C library -/

inductive LongSize
  | bits32
  | bits64
  deriving DecidableEq, Repr

/-- The least number above those of `long` -/
def LongSize.bound : LongSize → Int
  | .bits32 => 2 ^ 31
  | .bits64 => 2 ^ 63

/-- `strtol`, and whether there was a number -/
def strtolOf (long : LongSize) (base : Nat) (text : List UInt8) : Int × Bool :=
  let (negative, unsigned) := readSign (text.dropWhile isSpace)
  let hexadecimal := (base = 0 ∨ base = 16) ∧
    [48, 120].isPrefixOf ((unsigned.take 2).map toLower) ∧
    (unsigned.drop 2).head?.any isHexDigit
  let radix :=
    if hexadecimal then 16
    else if base = 0 then if unsigned.head? = some 48 then 8 else 10
    else base
  let digits := (if hexadecimal then unsigned.drop 2 else unsigned).takeWhile fun byte =>
    isHexDigit byte && digitValue byte < radix
  let magnitude : Int := digitsValue radix digits
  (max (-long.bound) (min (long.bound - 1) (if negative then -magnitude else magnitude)),
    digits ≠ [])

/-- `strtol`, with a `long` of 64 bits -/
def strtol (base : Nat) (text : List UInt8) : Int × Bool :=
  strtolOf .bits64 base text

def atoi (text : List UInt8) : Int :=
  wrap32 (strtol 10 text).1

/-- How a command is compared with a word -/
inductive Comparison
  | strncasecmp | strncmp | strcasecmp
  deriving DecidableEq

/-- The comparison with a word of as many bytes as it has gives 0. -/
def Comparison.accepts (comparison : Comparison) (word text : List UInt8) : Bool :=
  match comparison with
  | strncasecmp => (word.map toLower).isPrefixOf (text.map toLower)
  | strncmp => word.isPrefixOf text
  | strcasecmp => text.map toLower = word.map toLower

/-! ## The commands -/

/-- The macros that the driver is built with -/
structure DriverConfig where
  hotspotMgrSupport : Bool
  mtkLteCoex : Bool
  wapiSupport : Bool
  mtkWfdSink : Bool
  mtkP2pSigma : Bool
  deriving DecidableEq

inductive DriverCommand
  | powermode | getStaStatistics | macaddr | country | start | stop | getpower
  | rxfilterAdd | rxfilterRemove | rxfilterStop | rxfilterStart
  | btcoexscanStart | btcoexscanStop | btcoexmode
  | staBlock | staUnblock | setMaxClient | mtkAcs | setWapiKey | wapiMsgSend
  | p2pGetCap | p2pSetCap | miracast | p2pUseMcc | wfdDataUpdate
  | mcc | p2pSetOpps | p2pSetPowerSave | p2pSetSleep | p2pSetSleepDefault | sigmaMode
  | p2pSetNoa | p2pSetPs | setsuspendmode | mtkRxPacketFilter
  /-- the command of no word -/
  | transparent
  deriving DecidableEq

structure CommandEntry where
  comparison : Comparison
  word : String
  command : DriverCommand
  deriving DecidableEq

def CommandEntry.accepts (entry : CommandEntry) (text : List UInt8) : Bool :=
  entry.comparison.accepts (ascii entry.word) text

/-- The entries of a macro -/
def entriesIf (defined : Bool) (entries : List CommandEntry) : List CommandEntry :=
  if defined then entries else []

/-- The words, in the order of the comparisons -/
def commandTable (config : DriverConfig) : List CommandEntry :=
  [⟨.strncasecmp, "POWERMODE ", .powermode⟩,
    ⟨.strncasecmp, "GET_STA_STATISTICS ", .getStaStatistics⟩,
    ⟨.strncmp, "MACADDR", .macaddr⟩, ⟨.strncasecmp, "COUNTRY", .country⟩,
    ⟨.strcasecmp, "start", .start⟩, ⟨.strcasecmp, "stop", .stop⟩,
    ⟨.strncasecmp, "getpower", .getpower⟩, ⟨.strncasecmp, "rxfilter-add", .rxfilterAdd⟩,
    ⟨.strncasecmp, "rxfilter-remove", .rxfilterRemove⟩,
    ⟨.strncasecmp, "rxfilter-stop", .rxfilterStop⟩,
    ⟨.strncasecmp, "rxfilter-start", .rxfilterStart⟩,
    ⟨.strcasecmp, "btcoexscan-start", .btcoexscanStart⟩,
    ⟨.strcasecmp, "btcoexscan-stop", .btcoexscanStop⟩,
    ⟨.strncasecmp, "btcoexmode", .btcoexmode⟩] ++
  entriesIf config.hotspotMgrSupport
    [⟨.strncmp, "STA-BLOCK ", .staBlock⟩, ⟨.strncmp, "STA-UNBLOCK ", .staUnblock⟩,
      ⟨.strncasecmp, "set_max_client ", .setMaxClient⟩] ++
  entriesIf config.mtkLteCoex [⟨.strncmp, "MTK-ACS", .mtkAcs⟩] ++
  entriesIf config.wapiSupport
    [⟨.strncasecmp, "set-wapi-key", .setWapiKey⟩,
      ⟨.strncasecmp, "wapi-msg-send", .wapiMsgSend⟩] ++
  entriesIf config.mtkWfdSink
    [⟨.strncmp, "p2p_get_cap ", .p2pGetCap⟩, ⟨.strncmp, "p2p_set_cap ", .p2pSetCap⟩,
      ⟨.strncmp, "MIRACAST ", .miracast⟩, ⟨.strncasecmp, "p2p_use_mcc=", .p2pUseMcc⟩,
      ⟨.strncmp, "wfd_data_update", .wfdDataUpdate⟩] ++
  entriesIf config.mtkP2pSigma
    [⟨.strncasecmp, "mcc", .mcc⟩, ⟨.strncmp, "p2p_set_opps ", .p2pSetOpps⟩,
      ⟨.strncmp, "p2p_set_power_save ", .p2pSetPowerSave⟩,
      ⟨.strncmp, "p2p_set_sleep ", .p2pSetSleep⟩,
      ⟨.strncmp, "p2p_set_sleep", .p2pSetSleepDefault⟩,
      ⟨.strncasecmp, "sigma_mode", .sigmaMode⟩] ++
  [⟨.strncmp, "P2P_SET_NOA", .p2pSetNoa⟩, ⟨.strncmp, "P2P_SET_PS", .p2pSetPs⟩,
    ⟨.strncasecmp, "SETSUSPENDMODE ", .setsuspendmode⟩,
    ⟨.strncasecmp, "mtk_rx_packet_filter ", .mtkRxPacketFilter⟩]

def driverCommand (config : DriverConfig) (text : List UInt8) : DriverCommand :=
  ((commandTable config).find? (·.accepts text)).elim .transparent (·.command)

/-! ## Around a call -/

/-- An Ethernet address -/
structure MacAddr where
  bytes : List UInt8
  length_eq : bytes.length = 6
  deriving DecidableEq

/-- `wfd_data_s` -/
structure WfdDataLayout where
  size : Nat
  cmdType : Member
  enable : Member
  coupleSinkStatus : Member
  devInfo : Member
  controlPort : Member
  maximumTp : Member
  extendCap : Member
  coupleSinkAddress : Member
  associatedBssid : Member
  videoIp : Member
  audioIp : Member
  videoPort : Member
  audioPort : Member
  flag : Member
  policy : Member
  state : Member
  sessionInformationIeLen : Member
  sessionInformationIe : Member
  primarySinkMac : Member
  secondarySinkMac : Member
  advancedFlag : Member
  sessionAvailable : Member
  sigmaMode : Member
  localIp : Member

/-- What the handlers use of a `wpa_supplicant` -/
structure WpaSupplicant where
  ownAddr : MacAddr
  /-- `wpas_p2p_get_sta_mac` -/
  staMac : MacAddr → Option MacAddr
  /-- The lines of `print_sta_statistics` -/
  statistics : List (List UInt8)
  /-- `dev_capab`, when there is a P2P module -/
  p2p : Option Nat
  /-- Whether there is a `drv_priv` -/
  drvPriv : Bool

structure Driver where
  config : DriverConfig
  wfdData : WfdDataLayout
  /-- `drv`, its context and the configuration of the `wpa_supplicant` are there. -/
  ready : Bool
  /-- The `wpa_supplicant`; for `ap0`, the pointer to it is not set. -/
  wpaS : Option WpaSupplicant
  /-- The lines of `MSG_DEBUG` are printed. -/
  debug : Bool
  associated : Bool
  /-- `hwaddr_aton` -/
  hwaddrAton : List UInt8 → Option MacAddr
  /-- What the driver answers to a test-mode message -/
  testmode : List UInt8 → Int
  /-- The answers to a private command, and to a country -/
  privIoctl : List UInt8 → Int
  countryIoctl : List UInt8 → Int
  setIfaceFlags : Bool → Int
  /-- `ch_2g_base1`, for each try -/
  channels2g : Nat → Nat
  /-- Where the command and the buffer are -/
  cmdBase : Nat
  bufBase : Nat
  /-- Where a handler has the structure for an answer -/
  answerBase : Nat

inductive DriverEffect
  | testmode (message : List UInt8)
  | privateCommand (buffer : List UInt8)
  | countryChange (alpha2 : List UInt8)
  | ifaceFlags (up : Bool)
  | deauthenticate
  | devCapab (value : Nat)
  deriving DecidableEq

structure DriverCall where
  cmd : List UInt8
  buf : List UInt8
  effects : List DriverEffect
  deriving DecidableEq

/-- The call with a command and a buffer -/
def startCall (text buf : List UInt8) : DriverCall :=
  ⟨text ++ [0], buf, []⟩

def DriverCall.emit (call : DriverCall) (effect : DriverEffect) : DriverCall :=
  { call with effects := call.effects ++ [effect] }

/-- What a handler returns, and what it leaves. -/
def DriverCall.returns (call : DriverCall) (ret : Int) : Option (Int × DriverCall) :=
  some (ret, call)

/-- A `%s` of a line of `MSG_DEBUG` -/
def debugString (driver : Driver) (block : List UInt8) : Option (List UInt8) :=
  if driver.debug then cString block 0 else some []

/-! ## Test-mode messages -/

/-- `wpa_driver_test_mode_info` -/
def testModeInfo (index buflen : Nat) : List UInt8 :=
  leBytes 4 (index + 2 ^ 24) ++ leBytes 4 buflen

/-- A structure that begins with a `wpa_driver_test_mode_info` -/
def testModeMessage (index : Nat) (body : List UInt8) : List UInt8 :=
  testModeInfo index (8 + body.length) ++ body

/-- `wpa_driver_nl80211_testmode` on an array -/
def sendTestmode (driver : Driver) (call : DriverCall) (array : List UInt8) (len : Nat) :
    Option (Int × DriverCall) := do
  let message ← load array 0 len
  -- the index decides which answer is expected
  let _ ← number array 0 4
  some (driver.testmode message, call.emit (.testmode message))

def sendMessage (driver : Driver) (call : DriverCall) (message : List UInt8) :
    Option (Int × DriverCall) :=
  sendTestmode driver call message message.length

/-- `wpa_driver_nl80211_driver_sw_cmd` -/
def driverSwCmd (driver : Driver) (call : DriverCall) (set : Bool) (adr dat : Nat) :
    Option (Int × DriverCall) :=
  sendMessage driver call (testModeMessage 1
    ([if set then 1 else 0, 0, 0, 0] ++ leBytes 4 adr ++ leBytes 4 dat))

end X3Hal.Wpa
