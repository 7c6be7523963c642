import X3Hal.Wifi.Attributes

/-!
# The handlers of vendor events

The payload of `NL80211_ATTR_VENDOR_DATA` is a block of bytes, and so are the results that a
handler fills.  A handler fails where it reads or writes outside of these blocks.  Addresses and
sizes have 64 bits; what the platform's header declares is a parameter, and log lines are left
out unless they read a string or the results.
-/

namespace X3Hal.Wifi

open X3Hal.Memory X3Hal.Transition

/-! ## The platform -/

/-- `wifi_scan_result`, whose last member is `ie_data` -/
structure ScanResultLayout where
  size : Nat
  ts : Member
  ssid : Member
  bssid : Member
  channel : Member
  rssi : Member
  rtt : Member
  rttSd : Member
  beaconPeriod : Member
  capability : Member
  ieLength : Member
  ieData : Nat
  within : ∀ member ∈ [ts, ssid, bssid, channel, rssi, rtt, rttSd, beaconPeriod, capability,
    ieLength], member.stop ≤ ieData
  ieData_le : ieData ≤ size
  ssid_size : ssid.size = 33
  bssid_size : bssid.size = 6

/-- `wifi_rtt_result`, with the members that are logged -/
structure RttResultLayout where
  size : Nat
  lci : Member
  lcr : Member
  logged : List Member
  within : ∀ member ∈ lci :: lcr :: logged, member.stop ≤ size
  four_le : 4 ≤ size

structure WifiPlatform where
  scanResult : ScanResultLayout
  rttResult : RttResultLayout
  /-- `MAX_EPNO_NETWORKS` -/
  maxEpnoNetworks : Nat
  /-- `sizeof(wifi_channel)` -/
  channelSize : Nat

/-- `malloc`, at each place where it is called -/
structure Allocator where
  malloc : Nat → Nat → Option (List UInt8)
  length_eq : ∀ place size block, malloc place size = some block → block.length = size

/-! ## The layouts of the driver -/

/-- `sizeof(wifi_gscan_full_result_t)` -/
def gscanFullResultSize : Nat := 104

/-- `offsetof(wifi_gscan_full_result_t, ie_data)` -/
def gscanIeData : Nat := 96

/-- `offsetof(wifi_gscan_full_result_t, ie_length)` -/
def gscanIeLength : Nat := 92

/-- `offsetof(wifi_gscan_full_result_t, scan_ch_bucket)` -/
def gscanScanChBucket : Nat := 88

/-- `offsetof(wifi_gscan_result_t, ssid)` -/
def gscanSsid : Nat := 8

/-- `offsetof(wifi_gscan_result_t, bssid)` -/
def gscanBssid : Nat := 41

/-- `sizeof(wifi_pno_result_t)` -/
def pnoResultSize : Nat := 44

/-- `sizeof(ChangeInfo)` -/
def changeInfoSize : Nat := 18

/-- `MAX_PROBE_RESP_IE_LEN` -/
def maxProbeRespIeLen : Nat := 2048

/-- `MAX_RESULTS` of the hotlist and of the significant changes -/
def maxResults : Nat := 64

/-- `MAX_RESULTS` of the `RttCommand` -/
def rttMaxResults : Nat := 1024

/-- `GSCAN_EVENT_SIGNIFICANT_CHANGE_RESULTS` -/
def gscanEventSignificantChangeResults : Nat := 0

/-- `GSCAN_EVENT_HOTLIST_RESULTS_FOUND` -/
def gscanEventHotlistResultsFound : Nat := 1

/-- `GSCAN_EVENT_FULL_SCAN_RESULTS` -/
def gscanEventFullScanResults : Nat := 3

/-- `GSCAN_EVENT_HOTLIST_RESULTS_LOST` -/
def gscanEventHotlistResultsLost : Nat := 6

/-- `PNO_SSID_FOUND` -/
def pnoSsidFound : Nat := 1

/-- `WIFI_ATTRIBUTE_NUM_CHANNELS` -/
def wifiAttributeNumChannels : Nat := 2

/-- `WIFI_ATTRIBUTE_CHANNEL_LIST` -/
def wifiAttributeChannelList : Nat := 3

/-- `RTT_ATTRIBUTE_TARGET_MAC` -/
def rttAttributeTargetMac : Nat := 12

/-- `RTT_ATTRIBUTE_RESULTS_COMPLETE` -/
def rttAttributeResultsComplete : Nat := 30

/-- `RTT_ATTRIBUTE_RESULTS_PER_TARGET` -/
def rttAttributeResultsPerTarget : Nat := 31

/-- `RTT_ATTRIBUTE_RESULT_CNT` -/
def rttAttributeResultCnt : Nat := 32

/-- `RTT_ATTRIBUTE_RESULT` -/
def rttAttributeResult : Nat := 33

/-- `DOT11_MNG_MEASURE_REQUEST_ID` -/
def dot11MngMeasureRequestId : Nat := 38

/-- `DOT11_MEASURE_TYPE_LCI` -/
def dot11MeasureTypeLci : Nat := 8

/-- `DOT11_MEASURE_TYPE_CIVICLOC` -/
def dot11MeasureTypeCivicloc : Nat := 11

/-- `DOT11_HDR_LEN` -/
def dot11HdrLen : Nat := 2

/-! ## What the callbacks get -/

structure SignificantChange where
  bssid : List UInt8
  channel : Nat
  rssi : List Int
  deriving DecidableEq

/-- A copy of an `RTT_ATTRIBUTE_RESULT`, with the elements in it that its pointers have -/
structure RttResult where
  block : List UInt8
  lci : Option Nat
  lcr : Option Nat
  deriving DecidableEq

inductive WifiReport
  | none
  | fullScanResult (result : List UInt8) (scanChBucket : Nat)
  | hotlistApFound (num : Nat) (results : List UInt8)
  | hotlistApLost (num : Nat) (results : List UInt8)
  | networkFound (num : Nat) (results : List UInt8)
  | significantChange (results : List SignificantChange)
  /-- with the place of the ANQP element in the payload -/
  | passpointNetworkFound (networkId : Int) (result : List UInt8) (anqpLen anqp : Nat)
  | channels (numChannels : Option Int) (channels : List UInt8)
  | rttResults (results : List RttResult)
  deriving DecidableEq

/-! ## The scan handlers -/

/-- A member of `wifi_gscan_result_t` that `convert_to_hal_result` assigns to one of the
platform's -/
structure Assignment where
  source : Nat
  size : Nat
  isSigned : Bool
  target : Member

def halAssignments (layout : ScanResultLayout) : List Assignment :=
  [⟨0, 8, false, layout.ts⟩, ⟨48, 4, false, layout.channel⟩, ⟨52, 4, true, layout.rssi⟩,
    ⟨56, 8, false, layout.rtt⟩, ⟨64, 8, false, layout.rttSd⟩,
    ⟨72, 2, false, layout.beaconPeriod⟩, ⟨74, 2, false, layout.capability⟩]

/-- An integer in a member of a result -/
def assign (target : Member) (value : Int) (result : List UInt8) : Option (List UInt8) :=
  store result target.offset (signedBytes target.size value)

def assignFrom (data : List UInt8) (fixed : Nat) (result : List UInt8) (assignment : Assignment) :
    Option (List UInt8) := do
  let value ← number data (fixed + assignment.source) assignment.size
  let value := if assignment.isSigned then signed assignment.size value else value
  assign assignment.target value result

/-- `convert_to_hal_result`, from a `wifi_gscan_result_t` in the payload -/
def convertToHalResult (layout : ScanResultLayout) (result data : List UInt8) (fixed : Nat) :
    Option (List UInt8) := do
  let result ← (halAssignments layout).foldlM (assignFrom data fixed) result
  let ssid ← load data (fixed + gscanSsid) 33
  let result ← store result layout.ssid.offset ssid
  let bssid ← load data (fixed + gscanBssid) 6
  store result layout.bssid.offset bssid

/-- `wifi_handle_full_scan_event`; the payload itself has the header of an attribute. -/
def handleFullScan (platform : WifiPlatform) (allocator : Allocator) (eventId : Nat)
    (data : List UInt8) : Option WifiReport :=
  let layout := platform.scanResult
  let drvRes := nlaHdrLen
  if data.length < gscanFullResultSize then some .none
  else if eventId ≠ gscanEventFullScanResults then some .none
  else do
    let ieLength ← number data (drvRes + gscanIeLength) 4
    let ieLen := min maxProbeRespIeLen ieLength
    if data.length < ieLen + gscanIeData then some .none
    else
      match allocator.malloc 0 (ieLen + layout.ieData) with
      | none => some .none
      | some result => do
          let result ← convertToHalResult layout result data drvRes
          let result ← assign layout.ieLength ieLen result
          let ieData ← load data (drvRes + gscanIeData) ieLen
          let result ← store result layout.ieData ieData
          let scanChBucket ← number data (drvRes + gscanScanChBucket) 4
          -- the log line has the name
          let _ ← cString data (drvRes + gscanSsid)
          some (.fullScanResult result scanChBucket)

/-- `BssidHotlistCommand::handleEvent` -/
def handleHotlist (platform : WifiPlatform) (eventId : Nat) (data : List UInt8) :
    Option WifiReport :=
  let layout := platform.scanResult
  if data.length = 0 then some .none
  else do
    let num := min maxResults (data.length / layout.size)
    -- the log line has the header
    let _ ← number data 0 2
    let nlaType ← number data 2 2
    let results := List.replicate (layout.size * maxResults) 0
    let results ←
      if nlaType = gscanEventHotlistResultsLost ∨ nlaType = gscanEventHotlistResultsFound then do
        let found ← load data nlaHdrLen (num * layout.size)
        store results 0 found
      else some results
    some (if eventId = gscanEventHotlistResultsFound then .hotlistApFound num results
      else if eventId = gscanEventHotlistResultsLost then .hotlistApLost num results
      else .none)

/-- A round of the loop of `ePNOCommand::handleEvent` -/
def epnoResult (layout : ScanResultLayout) (data results : List UInt8) (i : Nat) :
    Option (List UInt8) := do
  let res := pnoResultSize * i
  let target := layout.size * i
  let flags ← number data (res + 36) 2
  if flags = pnoSsidFound then do
    let ssidLen ← number data (res + 32) 1
    let ssid ← load data res ssidLen
    let results ← store results (target + layout.ssid.offset) ssid
    let bssid ← load data (res + 38) 6
    let results ← store results (target + layout.bssid.offset) bssid
    let results ← store results (target + layout.ssid.offset + ssidLen) [0]
    let channel ← number data (res + 34) 2
    let results ← assign ⟨target + layout.channel.offset, layout.channel.size⟩ channel results
    let rssi ← number data (res + 33) 1
    assign ⟨target + layout.rssi.offset, layout.rssi.size⟩ (signed 1 rssi) results
  else some results

/-- `ePNOCommand::handleEvent` -/
def handleEpno (platform : WifiPlatform) (data : List UInt8) : Option WifiReport :=
  if data.length = 0 then some .none
  else do
    let num := min platform.maxEpnoNetworks (data.length / pnoResultSize)
    let results := List.replicate (platform.scanResult.size * platform.maxEpnoNetworks) 0
    let results ← (List.range num).foldlM (epnoResult platform.scanResult data) results
    some (.networkFound num results)

/-- A round of the loop of `SignificantWifiChangeCommand::handleEvent`, for `mResultsBuffer[i]` -/
def significantChange (data : List UInt8) (ci : Nat) (results : List SignificantChange)
    (i : Nat) : Option (List SignificantChange) :=
  if i < maxResults then do
    let bssid ← load data (ci + changeInfoSize * i + 4) 6
    let channel ← number data (ci + changeInfoSize * i + 2) 2
    let history ← load data (ci + changeInfoSize * i + 10) 8
    some (results ++ [⟨bssid, channel, history.map fun rssi => signed 1 rssi.toNat⟩])
  else none

/-- `SignificantWifiChangeCommand::handleEvent` -/
def handleSignificantChange (data : List UInt8) : Option WifiReport :=
  if data.length = 0 then some .none
  else do
    let num := min (data.length / changeInfoSize) maxResults
    let nlaType ← number data 2 2
    if nlaType = gscanEventSignificantChangeResults then do
      let results ← (List.range num).foldlM (significantChange data nlaHdrLen) []
      some (if num ≠ 0 then .significantChange results else .none)
    else some .none

/-- `AnqpoConfigureCommand::handleEvent` -/
def handleAnqpo (platform : WifiPlatform) (allocator : Allocator) (data : List UInt8) :
    Option WifiReport :=
  let layout := platform.scanResult
  if data.length < layout.size then some .none
  else
    match allocator.malloc 0 layout.size with
    | none => some .none
    | some result => do
        let result ← convertToHalResult layout result data 0
        let ieLength ← number data gscanIeLength 4
        let anqp := gscanIeData + ieLength
        let dataLen ← number data (anqp + 6) 2
        let anqpLen := 8 + dataLen
        let networkId ← number data (anqp + anqpLen) 4
        -- the log line has the name
        let _ ← cString result layout.ssid.offset
        some (.passpointNetworkFound (signed 4 networkId) result anqpLen anqp)

/-! ## The channel list -/

structure ChannelState where
  numChannels : Int
  /-- `*mNumOfChannel` -/
  reported : Option Int
  /-- `mChannels` -/
  channels : List UInt8

/-- What `num_channels` is after an attribute has said it. -/
def channelCount (maxChannels value : Nat) : Int :=
  if signed 4 value > maxChannels then maxChannels else signed 4 value

/-- The size of a copy of channels; a negative count is a size beyond every block. -/
def channelsSize (platform : WifiPlatform) (count : Int) : Option Nat :=
  if 0 ≤ count then some (platform.channelSize * count.toNat) else none

/-- A round of the loop of `GetChannelListCommand::handleResponse` -/
def channelAttribute (platform : WifiPlatform) (maxChannels : Nat) (data : List UInt8)
    (nla : Attribute) (state : ChannelState) : Option (Bool × ChannelState) :=
  if nla.type = wifiAttributeNumChannels then do
    let value ← number data nla.data 4
    let count := channelCount maxChannels value
    some (true, { state with numChannels := count, reported := some count })
  else if nla.type = wifiAttributeChannelList ∧ state.numChannels ≠ 0 then do
    let size ← channelsSize platform state.numChannels
    let list ← load data nla.data size
    let channels ← store state.channels 0 list
    some (true, { state with channels := channels })
  else some (true, state)

/-- `GetChannelListCommand::handleResponse` -/
def handleChannelList (platform : WifiPlatform) (maxChannels : Nat) (data : List UInt8) :
    Option WifiReport :=
  if data.length = 0 then some .none
  else do
    let state ← forEach data (channelAttribute platform maxChannels data) data.length data.length 0
      ⟨0, none, List.replicate (platform.channelSize * maxChannels) 0⟩
    -- the log line has the first two channels
    let _ ← load state.channels 0 platform.channelSize
    let _ ← load state.channels platform.channelSize platform.channelSize
    some (.channels state.reported state.channels)

/-! ## The RTT results -/

structure RttState where
  /-- `rttResults` up to `currentIdx`, which is `totalCnt` as well -/
  results : List RttResult
  /-- `mCompleted` -/
  completed : Nat
  /-- The handler is registered, and the command is there. -/
  registered : Bool
  deriving DecidableEq

/-- The second element, of another type, behind the first -/
def rttSecondElement (layout : RttResultLayout) (block : List UInt8) (type : Nat) :
    Option (Option Nat) := do
  let len ← number block (layout.size + 1) 1
  -- the size of the result was subtracted twice
  if (block.length : Int) - 2 * layout.size - (len + dot11HdrLen) > 0 then do
    let second := layout.size + len + dot11HdrLen
    let id ← number block second 1
    if id = dot11MngMeasureRequestId then do
      let secondType ← number block (second + 4) 1
      some (if secondType = type then some second else none)
    else some none
  else some none

/-- What `LCI` and `LCR` are set to -/
def rttElements (layout : RttResultLayout) (block : List UInt8) :
    Option (Option Nat × Option Nat) :=
  if layout.size < block.length then do
    let id ← number block layout.size 1
    if id = dot11MngMeasureRequestId then do
      let type ← number block (layout.size + 4) 1
      if type = dot11MeasureTypeLci then do
        let second ← rttSecondElement layout block dot11MeasureTypeCivicloc
        some (some layout.size, second)
      else if type = dot11MeasureTypeCivicloc then do
        let second ← rttSecondElement layout block dot11MeasureTypeLci
        some (second, some layout.size)
      else some (none, none)
    else some (none, none)
  else some (none, none)

/-- The place of a pointer that is set when there is an element -/
def rttPointer (block : List UInt8) (pointer : Member) (element : Option Nat) :
    Option (List UInt8) :=
  if element.isSome then load block pointer.offset pointer.size else some []

/-- An `RTT_ATTRIBUTE_RESULT`; `false` for the `break` without memory -/
def rttResult (platform : WifiPlatform) (allocator : Allocator) (data : List UInt8)
    (nla : Attribute) (state : RttState) : Option (Bool × RttState) :=
  let layout := platform.rttResult
  if state.results.length < rttMaxResults then
    match allocator.malloc nla.offset nla.len with
    | none => some (false, { state with completed := 1 })
    | some block => do
        let copy ← load data nla.data nla.len
        let block ← store block 0 copy
        let (lci, lcr) ← rttElements layout block
        -- the pointers and the log line
        let _ ← rttPointer block layout.lci lci
        let _ ← rttPointer block layout.lcr lcr
        let _ ← layout.logged.mapM fun member => load block member.offset member.size
        some (true, { state with results := state.results ++ [⟨block, lci, lcr⟩] })
  else none

/-- A round of the inner loop of `RttCommand::handleEvent` -/
def rttTargetAttribute (platform : WifiPlatform) (allocator : Allocator) (data : List UInt8)
    (nla : Attribute) (state : RttState) : Option (Bool × RttState) :=
  if nla.type = rttAttributeTargetMac then do
    let _ ← load data nla.data 6
    some (true, state)
  else if nla.type = rttAttributeResultCnt then do
    let _ ← number data nla.data 4
    some (true, state)
  else if nla.type = rttAttributeResult then rttResult platform allocator data nla state
  else some (true, state)

/-- A round of the outer loop -/
def rttAttribute (platform : WifiPlatform) (allocator : Allocator) (data : List UInt8)
    (nla : Attribute) (state : RttState) : Option (Bool × RttState) :=
  if nla.type = rttAttributeResultsComplete then do
    let completed ← number data nla.data 4
    some (true, { state with completed := completed })
  else if nla.type = rttAttributeResultsPerTarget then do
    let state ← forEach data (rttTargetAttribute platform allocator data) nla.len nla.len nla.data
      state
    some (true, state)
  else some (true, state)

/-- `RttCommand::handleEvent` -/
def handleRtt (platform : WifiPlatform) (allocator : Allocator) (data : List UInt8)
    (state : RttState) : Option (RttState × WifiReport) := do
  let state ← forEach data (rttAttribute platform allocator data) data.length data.length 0 state
  if state.completed ≠ 0 then
    some ({ state with results := [], registered := false }, .rttResults state.results)
  else some (state, .none)

/-! ## The messages -/

/-- The handlers, with the room of the caller of `wifi_get_valid_channels` -/
inductive VendorHandler
  | fullScan | hotlist | epno | significantChange | anqpo
  | channelList (maxChannels : Nat)
  | rtt

/-- An event or a reply with vendor data -/
structure VendorMessage where
  handler : VendorHandler
  /-- `get_vendor_subcmd` -/
  eventId : Nat
  data : List UInt8
  allocator : Allocator

/-- What a message does; an RTT event comes only while its handler is registered. -/
def handleMessage (platform : WifiPlatform) (rtt : RttState) (message : VendorMessage) :
    Option (RttState × WifiReport) :=
  match message.handler with
  | .fullScan => (handleFullScan platform message.allocator message.eventId message.data).map
      (rtt, ·)
  | .hotlist => (handleHotlist platform message.eventId message.data).map (rtt, ·)
  | .epno => (handleEpno platform message.data).map (rtt, ·)
  | .significantChange => (handleSignificantChange message.data).map (rtt, ·)
  | .anqpo => (handleAnqpo platform message.allocator message.data).map (rtt, ·)
  | .channelList maxChannels => (handleChannelList platform maxChannels message.data).map (rtt, ·)
  | .rtt =>
      if rtt.registered then handleRtt platform message.allocator message.data rtt
      else some (rtt, .none)

/-- One message after the other -/
def handleMessages (platform : WifiPlatform) : RttState → List VendorMessage →
    Option (RttState × List WifiReport)
  | rtt, [] => some (rtt, [])
  | rtt, message :: messages => do
      let (rtt, report) ← handleMessage platform rtt message
      let (rtt, reports) ← handleMessages platform rtt messages
      some (rtt, report :: reports)

/-- What `RttCommand` starts with -/
def rttStart : RttState :=
  ⟨[], 0, true⟩

end X3Hal.Wifi
