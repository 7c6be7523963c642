import X3Hal.Wifi.Commands
import X3Hal.Wifi.Requests

/-!
# Starting and cancelling commands

A command with a configuration sends it when it is started, and sends another request when it is
cancelled.  The attributes of both belong into the nest with the data of the vendor command, and
the request of a cancel takes the configuration away.

An array of a configuration has a count of its own, which is a signed number.
-/

namespace X3Hal.Wifi

open X3Hal.Memory

/-! ## Attributes -/

/-- `GSCAN_ATTRIBUTE`, those that the requests have -/
inductive GscanAttribute
  | numBuckets | basePeriod | bucketsBand | bucketId | bucketPeriod | bucketNumChannels
  | bucketChannels | numApPerScan | reportThreshold | numScansToCache
  | enableFeature | enableFullScanResults | reportEvents | bucketStepCount | bucketMaxPeriod
  | bssid
  | hotlistBssids | rssiLow | rssiHigh | hotlistElem | hotlistFlush
  | rssiSampleSize | lostApSampleSize | minBreaching | numAp | significantChangeBssids
  | significantChangeFlush
  | epnoSsidList | epnoSsid | epnoSsidLen | epnoFlags | epnoAuth | epnoSsidNum | epnoFlush
  | anqpoHsList | anqpoHsListSize | anqpoHsNetworkId | anqpoHsNaiRealm
  | anqpoHsRoamConsortiumId | anqpoHsPlmn
  | epno5gRssiThr | epno2gRssiThr | epnoInitScoreMax | epnoCurConnBonus | epnoSameNetworkBonus
  | epnoSecureBonus | epno5gBonus
  deriving DecidableEq

namespace GscanAttribute

def code : GscanAttribute → Nat
  | numBuckets => 10
  | basePeriod => 11
  | bucketsBand => 12
  | bucketId => 13
  | bucketPeriod => 14
  | bucketNumChannels => 15
  | bucketChannels => 16
  | numApPerScan => 17
  | reportThreshold => 18
  | numScansToCache => 19
  | enableFeature => 20
  | enableFullScanResults => 23
  | reportEvents => 24
  | bucketStepCount => 25
  | bucketMaxPeriod => 26
  | bssid => 41
  | hotlistBssids => 50
  | rssiLow => 51
  | rssiHigh => 52
  | hotlistElem => 53
  | hotlistFlush => 54
  | rssiSampleSize => 60
  | lostApSampleSize => 61
  | minBreaching => 62
  | numAp => 63
  | significantChangeBssids => 64
  | significantChangeFlush => 65
  | epnoSsidList => 70
  | epnoSsid => 71
  | epnoSsidLen => 72
  | epnoFlags => 74
  | epnoAuth => 75
  | epnoSsidNum => 76
  | epnoFlush => 77
  | anqpoHsList => 110
  | anqpoHsListSize => 111
  | anqpoHsNetworkId => 112
  | anqpoHsNaiRealm => 113
  | anqpoHsRoamConsortiumId => 114
  | anqpoHsPlmn => 115
  | epno5gRssiThr => 130
  | epno2gRssiThr => 131
  | epnoInitScoreMax => 132
  | epnoCurConnBonus => 133
  | epnoSameNetworkBonus => 134
  | epnoSecureBonus => 135
  | epno5gBonus => 136

end GscanAttribute

/-- `WIFI_ATTRIBUTE_MAX_RSSI` -/
def wifiAttributeMaxRssi : Nat := 9

/-- `WIFI_ATTRIBUTE_MIN_RSSI` -/
def wifiAttributeMinRssi : Nat := 10

/-- `WIFI_ATTRIBUTE_RSSI_MONITOR_START` -/
def wifiAttributeRssiMonitorStart : Nat := 11

/-- `WIFI_SUBCMD_SET_RSSI_MONITOR` -/
def wifiSubcmdSetRssiMonitor : Nat := 0x0007

/-- `GSCAN_SUBCMD_SET_CONFIG` -/
def gscanSubcmdSetConfig : Nat := 0x1001

/-- `GSCAN_SUBCMD_SET_SCAN_CONFIG` -/
def gscanSubcmdSetScanConfig : Nat := 0x1002

/-- `GSCAN_SUBCMD_ENABLE_GSCAN` -/
def gscanSubcmdEnableGscan : Nat := 0x1003

/-- `GSCAN_SUBCMD_SET_HOTLIST` -/
def gscanSubcmdSetHotlist : Nat := 0x1006

/-- `GSCAN_SUBCMD_SET_SIGNIFICANT_CHANGE_CONFIG` -/
def gscanSubcmdSetSignificantChangeConfig : Nat := 0x1007

/-- `GSCAN_SUBCMD_ENABLE_FULL_SCAN_RESULTS` -/
def gscanSubcmdEnableFullScanResults : Nat := 0x1008

/-- `GSCAN_SUBCMD_SET_EPNO_SSID` -/
def gscanSubcmdSetEpnoSsid : Nat := 0x100F

/-- `GSCAN_SUBCMD_ANQPO_CONFIG` -/
def gscanSubcmdAnqpoConfig : Nat := 0x1015

/-- `DOT11_MAX_SSID_LEN` -/
def dot11MaxSsidLen : Nat := 32

/-! ## Configurations -/

/-- `wifi_scan_bucket_spec` -/
structure ScanBucket where
  bucket : Int
  period : Int
  band : Int
  stepCount : Nat
  maxPeriod : Int
  reportEvents : Nat
  numChannels : Int
  channels : List Int

/-- `wifi_scan_cmd_params` -/
structure ScanCmdParams where
  basePeriod : Int
  maxApPerScan : Int
  reportThresholdPercent : Int
  reportThresholdNumScans : Int
  numBuckets : Int
  buckets : List ScanBucket

/-- `ap_threshold_param` -/
structure ApThreshold where
  bssid : List UInt8
  low : Int
  high : Int

/-- `wifi_bssid_hotlist_params` -/
structure BssidHotlistParams where
  lostApSampleSize : Int
  numBssid : Int
  ap : List ApThreshold

/-- `wifi_epno_network` -/
structure EpnoNetwork where
  ssid : List UInt8
  flags : Nat
  authBitField : Nat

/-- `wifi_epno_params` -/
structure EpnoParams where
  min5GHzRssi : Int
  min24GHzRssi : Int
  initialScoreMax : Int
  currentConnectionBonus : Int
  sameNetworkBonus : Int
  secureBonus : Int
  band5GHzBonus : Int
  numNetworks : Int
  networks : List EpnoNetwork

/-- `wifi_significant_change_params` -/
structure SignificantChangeParams where
  rssiSampleSize : Int
  lostApSampleSize : Int
  minBreaching : Int
  numBssid : Int
  ap : List ApThreshold

/-- `wifi_passpoint_network` -/
structure PasspointNetwork where
  id : Int
  realm : List UInt8
  roamingConsortiumIds : List UInt8
  plmn : List UInt8

/-- The limits that the platform's header declares -/
structure ConfigurationLimits where
  /-- `MAX_EPNO_NETWORKS` -/
  maxEpnoNetworks : Int
  /-- `WIFI_BAND_UNSPECIFIED` -/
  bandUnspecified : Int
  /-- `WIFI_BAND_ABG` -/
  bandAbg : Int
  /-- `WIFI_BAND_ABG_WITH_DFS` -/
  bandAbgWithDfs : Int

/-- What a command is started with. -/
inductive Configuration
  | fullScanResults
  | scan (params : ScanCmdParams)
  | bssidHotlist (params : BssidHotlistParams)
  | ePNO (params : EpnoParams)
  | significantWifiChange (params : SignificantChangeParams)
  | anqpoConfigure (numHs : Int) (networks : List PasspointNetwork)
  | setRSSIMonitor (maxRssi minRssi : Int)

def Configuration.kind : Configuration → CommandKind
  | fullScanResults => .fullScanResults
  | scan _ => .scan
  | bssidHotlist _ => .bssidHotlist
  | ePNO _ => .ePNO
  | significantWifiChange _ => .significantWifiChange
  | anqpoConfigure _ _ => .anqpoConfigure
  | setRSSIMonitor _ _ => .setRSSIMonitor

/-! ## The requests -/

open GscanAttribute

/-- The indices of a loop up to a count -/
def upToCount (count : Int) : List Nat :=
  List.range count.toNat

def createFeatureRequest (subcmd : Nat) (enable : Int) (call : RequestCall) : Build Unit := do
  WifiRequest.create call subcmd
  attrNest nl80211AttrVendorData (putInt enableFeature.code enable)

namespace FullScanResultsCommand

def createRequest (enable : Int) (call : RequestCall) : Build Unit := do
  WifiRequest.create call gscanSubcmdEnableFullScanResults
  attrNest nl80211AttrVendorData (putInt enableFullScanResults.code enable)

end FullScanResultsCommand

namespace ScanCommand

def putBucket (limits : ConfigurationLimits) (params : ScanCmdParams) (i : Nat) : Build Unit :=
  attrNest i do
    let bucket ← elementOf params.buckets i
    putInt bucketId.code bucket.bucket
    putInt bucketPeriod.code bucket.period
    putInt bucketsBand.code
      (if bucket.band < limits.bandUnspecified ∨ bucket.band > limits.bandAbgWithDfs then
        limits.bandAbg
      else bucket.band)
    putU32 bucketStepCount.code bucket.stepCount
    putInt bucketMaxPeriod.code bucket.maxPeriod
    putU32 reportEvents.code bucket.reportEvents
    putInt bucketNumChannels.code bucket.numChannels
    if bucket.numChannels ≠ 0 then
      attrNest bucketChannels.code <| (upToCount bucket.numChannels).forM fun j => do
        let channel ← elementOf bucket.channels j
        putInt j channel

def createSetupRequest (limits : ConfigurationLimits) (params : ScanCmdParams)
    (call : RequestCall) : Build Unit := do
  WifiRequest.create call gscanSubcmdSetConfig
  attrNest nl80211AttrVendorData do
    putInt basePeriod.code params.basePeriod
    putInt numBuckets.code params.numBuckets
    (upToCount params.numBuckets).forM (putBucket limits params)

def createScanConfigRequest (params : ScanCmdParams) (call : RequestCall) : Build Unit := do
  WifiRequest.create call gscanSubcmdSetScanConfig
  attrNest nl80211AttrVendorData do
    putInt numApPerScan.code params.maxApPerScan
    putInt reportThreshold.code
      (if params.reportThresholdPercent < 0 ∨ params.reportThresholdPercent > 100 then 100
      else params.reportThresholdPercent)
    putInt numScansToCache.code params.reportThresholdNumScans

def createStartRequest : RequestCall → Build Unit :=
  createFeatureRequest gscanSubcmdEnableGscan 1

def createStopRequest : RequestCall → Build Unit :=
  createFeatureRequest gscanSubcmdEnableGscan 0

end ScanCommand

/-- What is put for an access point, inside of its nest -/
def putApThreshold (ap : List ApThreshold) (i : Nat) : Build Unit := do
  let threshold ← elementOf ap i
  put bssid.code threshold.bssid
  putInt rssiHigh.code threshold.high
  putInt rssiLow.code threshold.low

namespace BssidHotlistCommand

def createSetupRequest (params : BssidHotlistParams) (call : RequestCall) : Build Unit := do
  WifiRequest.create call gscanSubcmdSetHotlist
  attrNest nl80211AttrVendorData do
    putU8 hotlistFlush.code 1
    putInt lostApSampleSize.code params.lostApSampleSize
    put numAp.code (signedBytes 2 params.numBssid)
    attrNest hotlistBssids.code <| (upToCount params.numBssid).forM fun i =>
      attrNestChecked hotlistElem.code (putApThreshold params.ap i)

def createTeardownRequest (call : RequestCall) : Build Unit := do
  WifiRequest.create call gscanSubcmdSetHotlist
  attrNest nl80211AttrVendorData do
    putU8 hotlistFlush.code 1
    attrNest hotlistBssids.code (pure ())

end BssidHotlistCommand

namespace EPNOCommand

def putNetwork (params : EpnoParams) (i : Nat) : Build Unit :=
  attrNestChecked i do
    let network ← elementOf params.networks i
    put epnoSsid.code (network.ssid.take dot11MaxSsidLen)
    putU32 epnoSsidLen.code (network.ssid.takeWhile (· ≠ 0)).length
    putU32 epnoFlags.code network.flags
    putU32 epnoAuth.code network.authBitField

def createSetupRequest (limits : ConfigurationLimits) (params : EpnoParams)
    (call : RequestCall) : Build Unit := do
  if params.numNetworks > limits.maxEpnoNetworks then throw (.failed .invalidArgs)
  else
    WifiRequest.create call gscanSubcmdSetEpnoSsid
    attrNest nl80211AttrVendorData do
      putU8 epnoFlush.code 1
      put epno5gRssiThr.code (signedBytes 1 params.min5GHzRssi)
      put epno2gRssiThr.code (signedBytes 1 params.min24GHzRssi)
      put epnoInitScoreMax.code (signedBytes 2 params.initialScoreMax)
      put epnoCurConnBonus.code (signedBytes 2 params.currentConnectionBonus)
      put epnoSameNetworkBonus.code (signedBytes 2 params.sameNetworkBonus)
      put epnoSecureBonus.code (signedBytes 2 params.secureBonus)
      put epno5gBonus.code (signedBytes 2 params.band5GHzBonus)
      put epnoSsidNum.code (signedBytes 1 params.numNetworks)
      attrNest epnoSsidList.code ((upToCount params.numNetworks).forM (putNetwork params))

def createTeardownRequest (call : RequestCall) : Build Unit := do
  WifiRequest.create call gscanSubcmdSetEpnoSsid
  attrNest nl80211AttrVendorData (putU8 epnoFlush.code 1)

end EPNOCommand

namespace SignificantWifiChangeCommand

def createSetupRequest (params : SignificantChangeParams) (call : RequestCall) :
    Build Unit := do
  WifiRequest.create call gscanSubcmdSetSignificantChangeConfig
  attrNest nl80211AttrVendorData do
    putU8 significantChangeFlush.code 1
    put rssiSampleSize.code (signedBytes 2 params.rssiSampleSize)
    put lostApSampleSize.code (signedBytes 2 params.lostApSampleSize)
    put minBreaching.code (signedBytes 2 params.minBreaching)
    put numAp.code (signedBytes 2 params.numBssid)
    attrNest significantChangeBssids.code <| (upToCount params.numBssid).forM fun i =>
      attrNestChecked i (putApThreshold params.ap i)

def createTeardownRequest (call : RequestCall) : Build Unit := do
  WifiRequest.create call gscanSubcmdSetSignificantChangeConfig
  attrNest nl80211AttrVendorData (putU16 significantChangeFlush.code 1)

end SignificantWifiChangeCommand

namespace AnqpoConfigureCommand

def putNetwork (networks : List PasspointNetwork) (i : Nat) : Build Unit :=
  attrNestChecked i do
    let network ← elementOf networks i
    putInt anqpoHsNetworkId.code network.id
    put anqpoHsNaiRealm.code (network.realm.take 256)
    put anqpoHsRoamConsortiumId.code (network.roamingConsortiumIds.take 128)
    put anqpoHsPlmn.code (network.plmn.take 3)

/-- `val` is not used, and what `create` returns is overwritten. -/
def createRequest (numHs : Int) (networks : List PasspointNetwork) (_val : Int)
    (call : RequestCall) : Build Unit := do
  ignoreResult (WifiRequest.create call gscanSubcmdAnqpoConfig)
  putInt anqpoHsListSize.code numHs
  attrNest nl80211AttrVendorData <|
    attrNest anqpoHsList.code ((upToCount numHs).forM (putNetwork networks))

end AnqpoConfigureCommand

namespace SetRSSIMonitorCommand

def createRequest (maxRssi minRssi enable : Int) (call : RequestCall) : Build Unit := do
  WifiRequest.create call wifiSubcmdSetRssiMonitor
  attrNest nl80211AttrVendorData do
    putInt wifiAttributeMaxRssi (if enable ≠ 0 then maxRssi else 0)
    putInt wifiAttributeMinRssi (if enable ≠ 0 then minRssi else 0)
    putInt wifiAttributeRssiMonitorStart enable

end SetRSSIMonitorCommand

namespace Configuration

/-- The requests of `start`, in order -/
def startRequests (limits : ConfigurationLimits) :
    Configuration → List (RequestCall → Build Unit)
  | fullScanResults => [FullScanResultsCommand.createRequest 1]
  | scan params =>
      [ScanCommand.createSetupRequest limits params, ScanCommand.createScanConfigRequest params,
        ScanCommand.createStartRequest]
  | bssidHotlist params =>
      [BssidHotlistCommand.createSetupRequest params,
        createFeatureRequest gscanSubcmdEnableGscan 1]
  | ePNO params => [EPNOCommand.createSetupRequest limits params]
  | significantWifiChange params =>
      [SignificantWifiChangeCommand.createSetupRequest params,
        createFeatureRequest gscanSubcmdEnableGscan 1]
  | anqpoConfigure numHs networks => [AnqpoConfigureCommand.createRequest numHs networks numHs]
  | setRSSIMonitor maxRssi minRssi => [SetRSSIMonitorCommand.createRequest maxRssi minRssi 1]

/-- The request of `cancel` -/
def cancelRequest : Configuration → RequestCall → Build Unit
  | fullScanResults => FullScanResultsCommand.createRequest 0
  | scan _ => ScanCommand.createStopRequest
  | bssidHotlist _ => BssidHotlistCommand.createTeardownRequest
  | ePNO _ => EPNOCommand.createTeardownRequest
  | significantWifiChange _ => SignificantWifiChangeCommand.createTeardownRequest
  | anqpoConfigure numHs networks => AnqpoConfigureCommand.createRequest numHs networks 0
  | setRSSIMonitor maxRssi minRssi => SetRSSIMonitorCommand.createRequest maxRssi minRssi 0

end Configuration

/-- What is sent of some requests, one after the other while the driver takes them.  With each
there is what it is made with, and whether the driver takes it. -/
def sent : List (RequestCall → Build Unit) → List (RequestCall × Bool) →
    List (List RequestPart)
  | request :: requests, (call, taken) :: calls =>
      match assemble (request call) with
      | .ok parts => parts :: if taken then sent requests calls else []
      | .error _ => []
  | _, _ => []

/-! ## The law -/

/-- After what `create` puts there is only the nest with the data of the vendor command. -/
def Enclosed (parts : List RequestPart) : Prop :=
  ∃ iface subcmd inner, Nested inner ∧
    parts = createdParts iface subcmd ++ (.nest nl80211AttrVendorData :: inner ++ [.nestEnd])

/-- The attributes of what a configuration lists -/
def CommandKind.elementAttributes : CommandKind → List GscanAttribute
  | fullScanResults | setRSSIMonitor | rtt => []
  | scan => [bucketId, bucketPeriod, bucketsBand, bucketStepCount, bucketMaxPeriod, reportEvents,
      bucketNumChannels, bucketChannels]
  | bssidHotlist => [hotlistElem, bssid, rssiHigh, rssiLow]
  | ePNO => [epnoSsid, epnoSsidLen, epnoFlags, epnoAuth]
  | significantWifiChange => [bssid, rssiHigh, rssiLow]
  | anqpoConfigure => [anqpoHsNetworkId, anqpoHsNaiRealm, anqpoHsRoamConsortiumId, anqpoHsPlmn]

/-- The attribute that flushes or disables the configuration -/
def CommandKind.disabling : CommandKind → Option RequestPart
  | fullScanResults => some (.attr enableFullScanResults.code (signedBytes 4 0))
  | scan => some (.attr enableFeature.code (signedBytes 4 0))
  | bssidHotlist => some (.attr hotlistFlush.code (leBytes 1 1))
  | ePNO => some (.attr epnoFlush.code (leBytes 1 1))
  | significantWifiChange => some (.attr significantChangeFlush.code (leBytes 2 1))
  | anqpoConfigure => some (.attr anqpoHsListSize.code (signedBytes 4 0))
  | setRSSIMonitor => some (.attr wifiAttributeRssiMonitorStart (signedBytes 4 0))
  | rtt => none

/-- What a start and a cancel send: the request of the cancel is the same for all configurations
of the class, has no attribute of an element, and flushes or disables. -/
structure TearsDown (limits : ConfigurationLimits) (configuration : Configuration)
    (starts : List (RequestCall × Bool)) (cancel : RequestCall) : Prop where
  enclosed : ∀ parts, parts ∈ sent (configuration.startRequests limits) starts ∨
    assemble (configuration.cancelRequest cancel) = .ok parts → Enclosed parts
  same : ∀ other : Configuration, other.kind = configuration.kind →
    assemble (other.cancelRequest cancel) = assemble (configuration.cancelRequest cancel)
  noElement : ∀ parts, assemble (configuration.cancelRequest cancel) = .ok parts →
    ∀ part ∈ parts, ∀ element ∈ configuration.kind.elementAttributes,
      part.type? ≠ some element.code
  disables : ∀ parts, assemble (configuration.cancelRequest cancel) = .ok parts →
    ∃ part ∈ parts, configuration.kind.disabling = some part

/-! ## Starts -/

section Starts

variable {limits : ConfigurationLimits} {call : RequestCall} {parts : List RequestPart}

theorem exists_of_mem_sent {requests : List (RequestCall → Build Unit)}
    {calls : List (RequestCall × Bool)} (isSent : parts ∈ sent requests calls) :
    ∃ request ∈ requests, ∃ call, assemble (request call) = .ok parts := by
  induction requests generalizing calls with
  | nil => cases isSent
  | cons request requests ih =>
      cases calls with
      | nil => cases isSent
      | cons first calls =>
          obtain ⟨call, taken⟩ := first
          rw [sent] at isSent
          cases made : assemble (request call) with
          | error fault =>
              rw [made] at isSent
              cases isSent
          | ok first =>
              rw [made] at isSent
              rcases List.mem_cons.mp isSent with rfl | later
              · exact ⟨request, List.mem_cons_self, call, made⟩
              · cases taken with
                | false => cases later
                | true =>
                    obtain ⟨other, among, found⟩ := ih later
                    exact ⟨other, List.mem_cons_of_mem request among, found⟩

/-- A request of a vendor command with well nested data -/
theorem enclosed_of_assemble {subcmd : Nat} {inner : Build Unit} (nested : PutsNested inner)
    (made : assemble (do
      WifiRequest.create call subcmd
      attrNest nl80211AttrVendorData inner) = .ok parts) :
    Enclosed parts := by
  obtain ⟨_, rfl, between, rfl, inside⟩ := parts_of_assemble (puts_attrNest _ nested) made
  exact ⟨_, _, between, inside, rfl⟩

theorem enclosed_createFeatureRequest {subcmd : Nat} {enable : Int}
    (made : assemble (createFeatureRequest subcmd enable call) = .ok parts) : Enclosed parts :=
  enclosed_of_assemble (putsNested_put _ _) made

theorem putsNested_putApThreshold (ap : List ApThreshold) (i : Nat) :
    PutsNested (putApThreshold ap i) := by
  apply putsNested_elementOf
  intro threshold
  exact (putsNested_put _ _).bind ((putsNested_put _ _).bind (putsNested_put _ _))

namespace ScanCommand

theorem putsNested_putBucket (params : ScanCmdParams) (i : Nat) :
    PutsNested (putBucket limits params i) := by
  apply putsNested_attrNest
  apply putsNested_elementOf
  intro bucket
  iterate 7 apply (putsNested_put _ _).bind
  split
  case isFalse => exact putsNested_pure
  case isTrue =>
    apply putsNested_attrNest
    apply putsNested_forM
    intro j
    apply putsNested_elementOf
    exact fun channel => putsNested_put _ _

theorem enclosed_createSetupRequest {params : ScanCmdParams}
    (made : assemble (createSetupRequest limits params call) = .ok parts) : Enclosed parts := by
  apply enclosed_of_assemble ?_ made
  iterate 2 apply (putsNested_put _ _).bind
  exact putsNested_forM (putsNested_putBucket params)

theorem enclosed_createScanConfigRequest {params : ScanCmdParams}
    (made : assemble (createScanConfigRequest params call) = .ok parts) : Enclosed parts := by
  apply enclosed_of_assemble ?_ made
  exact (putsNested_put _ _).bind ((putsNested_put _ _).bind (putsNested_put _ _))

end ScanCommand

theorem BssidHotlistCommand.enclosed_createSetupRequest {params : BssidHotlistParams}
    (made : assemble (createSetupRequest params call) = .ok parts) : Enclosed parts := by
  apply enclosed_of_assemble ?_ made
  iterate 3 apply (putsNested_put _ _).bind
  apply putsNested_attrNest
  apply putsNested_forM
  exact fun i => putsNested_attrNestChecked _ (putsNested_putApThreshold _ i)

theorem EPNOCommand.putsNested_putNetwork (params : EpnoParams) (i : Nat) :
    PutsNested (putNetwork params i) := by
  apply putsNested_attrNestChecked
  apply putsNested_elementOf
  intro network
  iterate 3 apply (putsNested_put _ _).bind
  exact putsNested_put _ _

theorem EPNOCommand.enclosed_createSetupRequest {params : EpnoParams}
    (made : assemble (createSetupRequest limits params call) = .ok parts) : Enclosed parts := by
  unfold createSetupRequest at made
  split at made
  case isTrue => cases made
  case isFalse =>
    apply enclosed_of_assemble ?_ made
    iterate 9 apply (putsNested_put _ _).bind
    exact putsNested_attrNest _ (putsNested_forM (putsNested_putNetwork params))

theorem SignificantWifiChangeCommand.enclosed_createSetupRequest
    {params : SignificantChangeParams}
    (made : assemble (createSetupRequest params call) = .ok parts) : Enclosed parts := by
  apply enclosed_of_assemble ?_ made
  iterate 5 apply (putsNested_put _ _).bind
  apply putsNested_attrNest
  apply putsNested_forM
  exact fun i => putsNested_attrNestChecked _ (putsNested_putApThreshold _ i)

theorem SetRSSIMonitorCommand.enclosed_createRequest {maxRssi minRssi enable : Int}
    (made : assemble (createRequest maxRssi minRssi enable call) = .ok parts) :
    Enclosed parts := by
  apply enclosed_of_assemble ?_ made
  exact (putsNested_put _ _).bind ((putsNested_put _ _).bind (putsNested_put _ _))

theorem FullScanResultsCommand.enclosed_createRequest {enable : Int}
    (made : assemble (createRequest enable call) = .ok parts) : Enclosed parts :=
  enclosed_of_assemble (putsNested_put _ _) made

/-- All requests of a start but those of an ANQPO command -/
theorem enclosed_startRequests {configuration : Configuration}
    (other : configuration.kind ≠ .anqpoConfigure) :
    ∀ request ∈ configuration.startRequests limits, ∀ call parts,
      assemble (request call) = .ok parts → Enclosed parts := by
  cases configuration with
  | fullScanResults =>
      simp only [Configuration.startRequests, List.forall_mem_singleton]
      exact fun _ _ => FullScanResultsCommand.enclosed_createRequest
  | scan params =>
      simp only [Configuration.startRequests, List.forall_mem_cons]
      exact ⟨fun _ _ => ScanCommand.enclosed_createSetupRequest,
        fun _ _ => ScanCommand.enclosed_createScanConfigRequest,
        fun _ _ => enclosed_createFeatureRequest, nofun⟩
  | bssidHotlist params =>
      simp only [Configuration.startRequests, List.forall_mem_cons]
      exact ⟨fun _ _ => BssidHotlistCommand.enclosed_createSetupRequest,
        fun _ _ => enclosed_createFeatureRequest, nofun⟩
  | ePNO params =>
      simp only [Configuration.startRequests, List.forall_mem_singleton]
      exact fun _ _ => EPNOCommand.enclosed_createSetupRequest
  | significantWifiChange params =>
      simp only [Configuration.startRequests, List.forall_mem_cons]
      exact ⟨fun _ _ => SignificantWifiChangeCommand.enclosed_createSetupRequest,
        fun _ _ => enclosed_createFeatureRequest, nofun⟩
  | anqpoConfigure numHs networks => exact absurd rfl other
  | setRSSIMonitor maxRssi minRssi =>
      simp only [Configuration.startRequests, List.forall_mem_singleton]
      exact fun _ _ => SetRSSIMonitorCommand.enclosed_createRequest

end Starts

/-! ## Cancels -/

section Cancels

variable {call : RequestCall} {parts : List RequestPart}

/-- The attributes of an element have numbers of their own. -/
theorem type_ne_code_of_mem_createdParts {iface : Int} {subcmd : Nat} {part : RequestPart}
    (among : part ∈ createdParts iface subcmd) (element : GscanAttribute) :
    part.type? ≠ some element.code := by
  have types : part.type? = some nl80211AttrVendorId ∨
      part.type? = some nl80211AttrVendorSubcmd ∨ part.type? = some nl80211AttrIfindex := by
    simp only [createdParts] at among
    split at among
    · simp only [List.cons_append, List.nil_append, List.mem_cons, List.not_mem_nil, or_false]
        at among
      rcases among with rfl | rfl | rfl <;> simp [RequestPart.type?]
    · simp only [List.append_nil, List.mem_cons, List.not_mem_nil, or_false] at among
      rcases among with rfl | rfl <;> simp [RequestPart.type?]
  rcases types with same | same | same <;> rw [same] <;> cases element <;> decide

/-- What a cancel must do to its class -/
structure Clears (kind : CommandKind) (parts : List RequestPart) : Prop where
  enclosed : Enclosed parts
  noElement : ∀ part ∈ parts, ∀ element ∈ kind.elementAttributes,
    part.type? ≠ some element.code
  disables : ∃ part ∈ parts, kind.disabling = some part

/-- A request of a vendor command whose data is known -/
theorem clears_of_assemble {kind : CommandKind} {subcmd : Nat} {inner : Build Unit}
    {data : List RequestPart} (puts : Puts inner fun _ between => between = data)
    (nested : Nested data)
    (noElement : ∀ part ∈ data, ∀ element ∈ kind.elementAttributes,
      part.type? ≠ some element.code)
    (disables : ∃ part ∈ data, kind.disabling = some part)
    (made : assemble (do
      WifiRequest.create call subcmd
      attrNest nl80211AttrVendorData inner) = .ok parts) :
    Clears kind parts := by
  obtain ⟨_, rfl, between, rfl, rfl⟩ :=
    parts_of_assemble (puts_attrNest nl80211AttrVendorData puts) made
  refine ⟨⟨_, _, between, nested, rfl⟩, ?_, ?_⟩
  · intro part among element listed
    simp only [List.mem_append, List.mem_cons, List.cons_append] at among
    rcases among with created | rfl | inside | ends
    · exact type_ne_code_of_mem_createdParts created element
    · cases element <;> decide
    · exact noElement part inside element listed
    · rcases ends with rfl | none
      · nofun
      · cases none
  · obtain ⟨part, inside, same⟩ := disables
    exact ⟨part, by simp [inside], same⟩

theorem puts_append {first : Build Unit} {next : Unit → Build Unit} {data more : List RequestPart}
    (front : Puts first fun _ parts => parts = data)
    (back : Puts (next ()) fun _ parts => parts = more) :
    Puts (first >>= next) fun _ parts => parts = data ++ more := by
  apply puts_bind front
  rintro _ _ rfl
  apply back.mono
  rintro _ _ rfl
  rfl

/-- All cancels but that of an ANQPO command -/
theorem clears_cancelRequest {configuration : Configuration}
    (other : configuration.kind ≠ .anqpoConfigure)
    (made : assemble (configuration.cancelRequest call) = .ok parts) :
    Clears configuration.kind parts := by
  cases configuration with
  | anqpoConfigure numHs networks => exact absurd rfl other
  | fullScanResults =>
      exact clears_of_assemble (puts_put _ _) (.attr _ _ .nil) (by nofun)
        ⟨_, List.mem_singleton_self _, rfl⟩ made
  | scan params =>
      exact clears_of_assemble (puts_put _ _) (.attr _ _ .nil)
        (by simp only [Configuration.kind]; decide)
        ⟨_, List.mem_singleton_self _, rfl⟩ made
  | bssidHotlist params =>
      have empty : Puts (attrNest hotlistBssids.code (pure ())) fun _ parts =>
          parts = [.nest hotlistBssids.code, .nestEnd] := by
        apply (puts_attrNest hotlistBssids.code (puts_pure (rfl : [] = []))).mono
        rintro _ _ ⟨_, rfl, rfl⟩
        rfl
      exact clears_of_assemble (puts_append (puts_put _ _) empty)
        (.attr _ _ (.nest _ .nil .nil)) (by simp only [Configuration.kind]; decide)
        ⟨_, List.mem_cons_self, rfl⟩ made
  | ePNO params =>
      exact clears_of_assemble (puts_put _ _) (.attr _ _ .nil)
        (by simp only [Configuration.kind]; decide)
        ⟨_, List.mem_singleton_self _, rfl⟩ made
  | significantWifiChange params =>
      exact clears_of_assemble (puts_put _ _) (.attr _ _ .nil)
        (by simp only [Configuration.kind]; decide)
        ⟨_, List.mem_singleton_self _, rfl⟩ made
  | setRSSIMonitor maxRssi minRssi =>
      exact clears_of_assemble
        (puts_append (puts_put _ _) (puts_append (puts_put _ _) (puts_put _ _)))
        (.attr _ _ (.attr _ _ (.attr _ _ .nil))) (by nofun)
        ⟨_, List.mem_cons_of_mem _ (List.mem_cons_of_mem _ List.mem_cons_self), rfl⟩ made

/-- What a cancel sends depends on the class alone, but for ANQPO. -/
theorem cancelRequest_eq {configuration other : Configuration}
    (same : other.kind = configuration.kind) (different : configuration.kind ≠ .anqpoConfigure) :
    other.cancelRequest = configuration.cancelRequest := by
  cases configuration with
  | anqpoConfigure _ _ => exact absurd rfl different
  | fullScanResults | scan _ | bssidHotlist _ | ePNO _ | significantWifiChange _
  | setRSSIMonitor _ _ => cases other <;> first | rfl | cases same

end Cancels

/-! ## The ANQPO command -/

section Anqpo

variable {call : RequestCall} {parts : List RequestPart}

/-- What is put before a put fails is the start of it all. -/
theorem exists_prefix_of_putVendorCommand (iface : Int) (subcmd : Nat) (request : Request) :
    ∃ room front, front <+: createdParts iface subcmd ∧
      ((putVendorCommand iface subcmd).run.run (some request)).2 =
        some ⟨room, request.parts ++ front⟩ := by
  unfold putVendorCommand createdParts
  rw [run_bind]
  rcases put_cases nl80211AttrVendorId (leBytes 4 googleOui) request with ⟨room, ran⟩ | ran
  swap
  · exact ⟨_, [], List.nil_prefix, by rw [putU32, ran, List.append_nil]⟩
  rw [putU32, ran]
  dsimp only
  rw [run_bind]
  rcases put_cases nl80211AttrVendorSubcmd (leBytes 4 subcmd) ⟨room, request.parts ++ [_]⟩
    with ⟨room, ran⟩ | ran
  swap
  · exact ⟨_, [_], ⟨_, rfl⟩, by rw [putU32, ran]⟩
  rw [putU32, ran]
  dsimp only
  by_cases named : iface = -1
  · rw [if_neg (not_not.mpr named), if_neg (not_not.mpr named), List.append_assoc]
    exact ⟨_, _, List.prefix_refl _, rfl⟩
  rw [if_pos named, if_pos named, putInt]
  rcases put_cases nl80211AttrIfindex (signedBytes 4 iface) ⟨room, request.parts ++ [_] ++ [_]⟩
    with ⟨room, ran⟩ | ran
  · exact ⟨_, _, List.prefix_refl _, by rw [ran, List.append_assoc, List.append_assoc]; rfl⟩
  · exact ⟨_, [_, _], ⟨_, rfl⟩, by rw [ran, List.append_assoc]; rfl⟩

theorem nest_notMem_createdParts (iface : Int) (subcmd type : Nat) :
    .nest type ∉ createdParts iface subcmd := by
  unfold createdParts
  split <;> simp

/-- An attribute of this HAL before the data -/
theorem not_enclosed_of_attr {front more : List RequestPart} {iface : Int} {subcmd : Nat}
    {payload : List UInt8} (isFront : front <+: createdParts iface subcmd)
    (element : GscanAttribute) :
    ¬ Enclosed (front ++ .attr element.code payload :: more) := by
  rintro ⟨iface', subcmd', inner, -, same⟩
  rcases List.append_eq_append_iff.mp same with ⟨rest, created, split⟩ | ⟨rest, created, split⟩
  · cases rest with
    | nil => cases split
    | cons part rest =>
        obtain ⟨rfl, -⟩ := List.cons.inj split
        have among : .attr element.code payload ∈ createdParts iface' subcmd' := by
          rw [created]
          exact List.mem_append_right front List.mem_cons_self
        exact type_ne_code_of_mem_createdParts among element rfl
  · cases rest with
    | nil => cases split
    | cons part rest =>
        obtain ⟨rfl, -⟩ := List.cons.inj split
        refine nest_notMem_createdParts iface subcmd nl80211AttrVendorData (isFront.subset ?_)
        rw [created]
        exact List.mem_append_right _ List.mem_cons_self

theorem AnqpoConfigureCommand.putsNested_putNetwork (networks : List PasspointNetwork) (i : Nat) :
    PutsNested (putNetwork networks i) := by
  apply putsNested_attrNestChecked
  apply putsNested_elementOf
  intro network
  iterate 3 apply (putsNested_put _ _).bind
  exact putsNested_put _ _

/-- The size of the list is outside of the data. -/
theorem AnqpoConfigureCommand.not_enclosed {numHs val : Int} {networks : List PasspointNetwork}
    (made : assemble (createRequest numHs networks val call) = .ok parts) : ¬ Enclosed parts := by
  have data : Puts (do
      putInt anqpoHsListSize.code numHs
      attrNest nl80211AttrVendorData <|
        attrNest anqpoHsList.code ((upToCount numHs).forM (putNetwork networks)))
      fun _ parts => ∃ more, parts = .attr anqpoHsListSize.code (signedBytes 4 numHs) :: more := by
    apply puts_bind (puts_put _ _)
    rintro _ _ rfl
    have nested : PutsNested ((upToCount numHs).forM (putNetwork networks)) :=
      putsNested_forM (putsNested_putNetwork networks)
    have data := putsNested_attrNest nl80211AttrVendorData
      (putsNested_attrNest anqpoHsList.code nested)
    exact data.mono fun _ more _ => ⟨more, rfl⟩
  rw [createRequest, assemble, run_bind, run_ignoreResult, WifiRequest.create, run_bind,
    run_createMessage] at made
  cases alloc : call.alloc with
  | none =>
      rw [alloc] at made
      cases made
  | some room =>
      obtain ⟨left, front, isFront, created⟩ :=
        exists_prefix_of_putVendorCommand call.iface gscanSubcmdAnqpoConfig ⟨room, []⟩
      rw [alloc] at made
      dsimp only at made
      rw [created] at made
      split at made
      case h_1 ran =>
        obtain ⟨_, _, same, more, rfl⟩ := data _ _ _ ran
        cases same
        cases made
        exact not_enclosed_of_attr isFront anqpoHsListSize
      case h_2 => cases made
      case h_3 => cases made

end Anqpo

/-- An ANQPO command alone puts the size of its list outside of the data, and its cancel sends
the list again. -/
theorem tearsDown_iff {limits : ConfigurationLimits} {configuration : Configuration}
    {starts : List (RequestCall × Bool)} {cancel : RequestCall}
    (started : sent (configuration.startRequests limits) starts ≠ []) :
    TearsDown limits configuration starts cancel ↔ configuration.kind ≠ .anqpoConfigure := by
  constructor
  · intro tearsDown isAnqpo
    obtain ⟨parts, isSent⟩ := List.exists_mem_of_ne_nil _ started
    have enclosed := tearsDown.enclosed parts (.inl isSent)
    obtain ⟨request, among, call, made⟩ := exists_of_mem_sent isSent
    cases configuration with
    | anqpoConfigure numHs networks =>
        obtain rfl := List.mem_singleton.mp among
        exact AnqpoConfigureCommand.not_enclosed made enclosed
    | fullScanResults | scan _ | bssidHotlist _ | ePNO _ | significantWifiChange _
    | setRSSIMonitor _ _ => cases isAnqpo
  · intro other
    refine ⟨?_, ?_, ?_, ?_⟩
    · rintro parts (isSent | made)
      · obtain ⟨request, among, call, made⟩ := exists_of_mem_sent isSent
        exact enclosed_startRequests other request among call parts made
      · exact (clears_cancelRequest other made).enclosed
    · intro configuration' same
      rw [cancelRequest_eq same other]
    · exact fun parts made => (clears_cancelRequest other made).noElement
    · exact fun parts made => (clears_cancelRequest other made).disables

/-- Limits as the platform's headers have them -/
def limits64 : ConfigurationLimits :=
  ⟨64, 0, 3, 7⟩

/-- A message of 4096 bytes, for the interface 2 -/
def pageCall : RequestCall :=
  ⟨some 4076, 2⟩

/-- A network with the id 9 -/
def network9 : PasspointNetwork :=
  ⟨9, List.replicate 256 0, List.replicate 128 0, [1, 2, 3]⟩

/-- A hotlist with an access point; and an ANQPO command -/
theorem tearsDown_iff_hotlist :
    TearsDown limits64 (.bssidHotlist ⟨4, 1, [⟨[1, 2, 3, 4, 5, 6], -80, -60⟩]⟩)
      [(pageCall, true), (pageCall, true)] pageCall ∧
    ¬ TearsDown limits64 (.anqpoConfigure 1 [network9]) [(pageCall, true)] pageCall := by
  constructor
  · exact (tearsDown_iff (by decide +kernel)).mpr (by decide)
  · exact mt (tearsDown_iff (by decide +kernel)).mp (by decide)

/-- The cancel of an ANQPO command sends its network and the size 1, which is outside of the
data. -/
theorem anqpo_kept : ∃ parts,
    assemble ((Configuration.anqpoConfigure 1 [network9]).cancelRequest pageCall) = .ok parts ∧
    .attr anqpoHsNetworkId.code (signedBytes 4 9) ∈ parts ∧
    parts[3]? = some (.attr anqpoHsListSize.code (signedBytes 4 1)) ∧ ¬ Enclosed parts ∧
    ¬ TearsDown limits64 (.anqpoConfigure 1 [network9]) [(pageCall, true)] pageCall := by
  have seen : (assemble
      ((Configuration.anqpoConfigure 1 [network9]).cancelRequest pageCall)).toOption.any
      (fun parts => .attr anqpoHsNetworkId.code (signedBytes 4 9) ∈ parts ∧
        parts[3]? = some (.attr anqpoHsListSize.code (signedBytes 4 1))) = true := by
    decide +kernel
  cases made : assemble
      ((Configuration.anqpoConfigure 1 [network9]).cancelRequest pageCall) with
  | error fault =>
      rw [made] at seen
      cases seen
  | ok parts =>
      rw [made] at seen
      obtain ⟨element, size⟩ := of_decide_eq_true seen
      have outside := @AnqpoConfigureCommand.not_enclosed _ _ _ 0 _ made
      exact ⟨parts, rfl, element, size, outside, fun tearsDown =>
        outside (tearsDown.enclosed parts (.inr made))⟩

end X3Hal.Wifi
