import Mathlib.Data.List.Basic

/-!
# Unsolicited responses and their table

The constants of the unsolicited responses and `s_unsolResponses`, which is two
lists of entries one after the other: the standard range and the vendor range.
-/

namespace X3Hal.Ril

/-- The `RIL_UNSOL_` constants. -/
inductive Unsol
  | responseRadioStateChanged | responseCallStateChanged | responseVoiceNetworkStateChanged
  | responseNewSms | responseNewSmsStatusReport | responseNewSmsOnSim | onUssd | onUssdRequest
  | nitzTimeReceived | signalStrength | dataCallListChanged | suppSvcNotification | stkSessionEnd
  | stkProactiveCommand | stkEventNotify | stkCallSetup | simSmsStorageFull | simRefresh
  | callRing | responseSimStatusChanged | responseCdmaNewSms | responseNewBroadcastSms
  | cdmaRuimSmsStorageFull | restrictedStateChanged | enterEmergencyCallbackMode
  | cdmaCallWaiting | cdmaOtaProvisionStatus | cdmaInfoRec | oemHookRaw | ringbackTone
  | resendIncallMute | cdmaSubscriptionSourceChanged | cdmaPrlChanged | exitEmergencyCallbackMode
  | rilConnected | voiceRadioTechChanged | cellInfoList | responseImsNetworkStateChanged
  | uiccSubscriptionStatusChanged | srvccStateNotify | hardwareConfigChanged | dcRtInfoChanged
  | radioCapability | onSs | stkCcAlphaNotify | lcedataRecv | pcoData | modemRestart
  | neighboringCellInfo | networkInfo | phbReadyNotification | simInsertedStatus
  | radioTemporarilyUnavailable | meSmsStorageFull | smsReadyNotification | scriResult
  | simMissing | gprsDetach | atciResponse | simRecovery | virtualSimOn | virtualSimOff
  | invalidSim | responsePsNetworkStateChanged | responseAcmt | efCspPlmnModeBit | imeiLock
  | responseMmrrStatusChanged | simPlugOut | simPlugIn | responseEtwsNotification
  | responsePlmnChanged | responseRegistrationSuspended | stkEvdlCall | dataPacketsFlush
  | femtocellInfo | stkSetupMenuReset | applicationSessionIdChanged | econfSrvccIndication
  | imsEnableDone | imsDisableDone | imsRegistrationInfo | dedicateBearerActivated
  | dedicateBearerModified | dedicateBearerDeactivated | racUpdate | econfResultIndication
  | melockNotification | callForwarding | crssNotification | incomingCallIndication
  | cipherIndication | cnap | simCommonSlotNoChanged | dataAllowed | stkCallCtrl
  | volteEpsNetworkFeatureSupport | callInfoIndication | volteEpsNetworkFeatureInfo
  | srvccHandoverInfoIndication | speechCodecInfo | mdStateChange | removeRestrictEutran
  | moDataBarringInfo | ssacBarringInfo | sipCallProgressIndicator | abnormalEvent
  | emergencyBearerSupportNotify | inter3gppIratStateChange | lteBgSearchStatus | gmssRatChanged
  | cdmaCardType | imsEnableStart | imsDisableStart | imsiRefreshDone | eusimReady
  | stkBipProactiveCommand | worldModeChanged | vtStatusInfo | vtRingInfo
  | vsimOperationIndication | setAttachApn | malAtInfo | mainSimInfo | trayPlugIn
  | callmodChangeIndicator | videoCapabilityIndicator | lteAccessStratumStateChange
  | setupDataCallResponse
  deriving DecidableEq, Repr

/-- `RIL_UNSOL_RESPONSE_BASE`. -/
def unsolResponseBase : Nat :=
  1000

/-- `RIL_UNSOL_VENDOR_BASE`. -/
def unsolVendorBase : Nat :=
  3000

/-- The value of an unsolicited response constant. -/
def Unsol.number : Unsol → Nat
  | .responseRadioStateChanged => 1000
  | .responseCallStateChanged => 1001
  | .responseVoiceNetworkStateChanged => 1002
  | .responseNewSms => 1003
  | .responseNewSmsStatusReport => 1004
  | .responseNewSmsOnSim => 1005
  | .onUssd => 1006
  | .onUssdRequest => 1007
  | .nitzTimeReceived => 1008
  | .signalStrength => 1009
  | .dataCallListChanged => 1010
  | .suppSvcNotification => 1011
  | .stkSessionEnd => 1012
  | .stkProactiveCommand => 1013
  | .stkEventNotify => 1014
  | .stkCallSetup => 1015
  | .simSmsStorageFull => 1016
  | .simRefresh => 1017
  | .callRing => 1018
  | .responseSimStatusChanged => 1019
  | .responseCdmaNewSms => 1020
  | .responseNewBroadcastSms => 1021
  | .cdmaRuimSmsStorageFull => 1022
  | .restrictedStateChanged => 1023
  | .enterEmergencyCallbackMode => 1024
  | .cdmaCallWaiting => 1025
  | .cdmaOtaProvisionStatus => 1026
  | .cdmaInfoRec => 1027
  | .oemHookRaw => 1028
  | .ringbackTone => 1029
  | .resendIncallMute => 1030
  | .cdmaSubscriptionSourceChanged => 1031
  | .cdmaPrlChanged => 1032
  | .exitEmergencyCallbackMode => 1033
  | .rilConnected => 1034
  | .voiceRadioTechChanged => 1035
  | .cellInfoList => 1036
  | .responseImsNetworkStateChanged => 1037
  | .uiccSubscriptionStatusChanged => 1038
  | .srvccStateNotify => 1039
  | .hardwareConfigChanged => 1040
  | .dcRtInfoChanged => 1041
  | .radioCapability => 1042
  | .onSs => 1043
  | .stkCcAlphaNotify => 1044
  | .lcedataRecv => 1045
  | .pcoData => 1046
  | .modemRestart => 1047
  | .neighboringCellInfo => unsolVendorBase + 0
  | .networkInfo => unsolVendorBase + 1
  | .phbReadyNotification => unsolVendorBase + 2
  | .simInsertedStatus => unsolVendorBase + 3
  | .radioTemporarilyUnavailable => unsolVendorBase + 4
  | .meSmsStorageFull => unsolVendorBase + 5
  | .smsReadyNotification => unsolVendorBase + 6
  | .scriResult => unsolVendorBase + 7
  | .simMissing => unsolVendorBase + 8
  | .gprsDetach => unsolVendorBase + 9
  | .atciResponse => unsolVendorBase + 10
  | .simRecovery => unsolVendorBase + 11
  | .virtualSimOn => unsolVendorBase + 12
  | .virtualSimOff => unsolVendorBase + 13
  | .invalidSim => unsolVendorBase + 14
  | .responsePsNetworkStateChanged => unsolVendorBase + 15
  | .responseAcmt => unsolVendorBase + 16
  | .efCspPlmnModeBit => unsolVendorBase + 17
  | .imeiLock => unsolVendorBase + 18
  | .responseMmrrStatusChanged => unsolVendorBase + 19
  | .simPlugOut => unsolVendorBase + 20
  | .simPlugIn => unsolVendorBase + 21
  | .responseEtwsNotification => unsolVendorBase + 22
  | .responsePlmnChanged => unsolVendorBase + 23
  | .responseRegistrationSuspended => unsolVendorBase + 24
  | .stkEvdlCall => unsolVendorBase + 25
  | .dataPacketsFlush => unsolVendorBase + 26
  | .femtocellInfo => unsolVendorBase + 27
  | .stkSetupMenuReset => unsolVendorBase + 28
  | .applicationSessionIdChanged => unsolVendorBase + 29
  | .econfSrvccIndication => unsolVendorBase + 30
  | .imsEnableDone => unsolVendorBase + 31
  | .imsDisableDone => unsolVendorBase + 32
  | .imsRegistrationInfo => unsolVendorBase + 33
  | .dedicateBearerActivated => unsolVendorBase + 34
  | .dedicateBearerModified => unsolVendorBase + 35
  | .dedicateBearerDeactivated => unsolVendorBase + 36
  | .racUpdate => unsolVendorBase + 37
  | .econfResultIndication => unsolVendorBase + 38
  | .melockNotification => unsolVendorBase + 39
  | .callForwarding => unsolVendorBase + 40
  | .crssNotification => unsolVendorBase + 41
  | .incomingCallIndication => unsolVendorBase + 42
  | .cipherIndication => unsolVendorBase + 43
  | .cnap => unsolVendorBase + 44
  | .simCommonSlotNoChanged => unsolVendorBase + 45
  | .dataAllowed => unsolVendorBase + 46
  | .stkCallCtrl => unsolVendorBase + 47
  | .volteEpsNetworkFeatureSupport => unsolVendorBase + 48
  | .callInfoIndication => unsolVendorBase + 49
  | .volteEpsNetworkFeatureInfo => unsolVendorBase + 50
  | .srvccHandoverInfoIndication => unsolVendorBase + 51
  | .speechCodecInfo => unsolVendorBase + 52
  | .mdStateChange => unsolVendorBase + 53
  | .removeRestrictEutran => unsolVendorBase + 54
  | .moDataBarringInfo => unsolVendorBase + 55
  | .ssacBarringInfo => unsolVendorBase + 56
  | .sipCallProgressIndicator => unsolVendorBase + 57
  | .abnormalEvent => unsolVendorBase + 58
  | .emergencyBearerSupportNotify => unsolVendorBase + 59
  | .inter3gppIratStateChange => unsolVendorBase + 60
  | .lteBgSearchStatus => unsolVendorBase + 61
  | .gmssRatChanged => unsolVendorBase + 62
  | .cdmaCardType => unsolVendorBase + 63
  | .imsEnableStart => unsolVendorBase + 64
  | .imsDisableStart => unsolVendorBase + 65
  | .imsiRefreshDone => unsolVendorBase + 66
  | .eusimReady => unsolVendorBase + 67
  | .stkBipProactiveCommand => unsolVendorBase + 68
  | .worldModeChanged => unsolVendorBase + 69
  | .vtStatusInfo => unsolVendorBase + 70
  | .vtRingInfo => unsolVendorBase + 71
  | .vsimOperationIndication => unsolVendorBase + 72
  | .setAttachApn => unsolVendorBase + 73
  | .malAtInfo => unsolVendorBase + 74
  | .mainSimInfo => unsolVendorBase + 75
  | .trayPlugIn => unsolVendorBase + 76
  | .callmodChangeIndicator => unsolVendorBase + 77
  | .videoCapabilityIndicator => unsolVendorBase + 78
  | .lteAccessStratumStateChange => unsolVendorBase + 79
  | .setupDataCallResponse => unsolVendorBase + 80

inductive WakeType
  | dontWake | wakePartial
  deriving DecidableEq, Repr

/-- An entry of the table of unsolicited responses. -/
structure UnsolResponseInfo where
  requestNumber : Nat
  /-- Whether `responseFunction` is not `NULL`. -/
  hasResponse : Bool
  wakeType : WakeType
  deriving DecidableEq, Repr

/-- The entry of an unsolicited response constant. -/
def UnsolResponseInfo.entry (unsol : Unsol) (hasResponse : Bool) (wakeType : WakeType) :
    UnsolResponseInfo :=
  ⟨unsol.number, hasResponse, wakeType⟩

/-- `s_unsolResponses`. -/
def unsolResponses : List UnsolResponseInfo :=
  [ .entry .responseRadioStateChanged true .wakePartial
  , .entry .responseCallStateChanged true .wakePartial
  , .entry .responseVoiceNetworkStateChanged true .wakePartial
  , .entry .responseNewSms true .wakePartial
  , .entry .responseNewSmsStatusReport true .wakePartial
  , .entry .responseNewSmsOnSim true .wakePartial
  , .entry .onUssd true .wakePartial
  , .entry .onUssdRequest true .dontWake
  , .entry .nitzTimeReceived true .wakePartial
  , .entry .signalStrength true .dontWake
  , .entry .dataCallListChanged true .wakePartial
  , .entry .suppSvcNotification true .wakePartial
  , .entry .stkSessionEnd true .wakePartial
  , .entry .stkProactiveCommand true .wakePartial
  , .entry .stkEventNotify true .wakePartial
  , .entry .stkCallSetup true .wakePartial
  , .entry .simSmsStorageFull true .wakePartial
  , .entry .simRefresh true .wakePartial
  , .entry .callRing true .wakePartial
  , .entry .responseSimStatusChanged true .wakePartial
  , .entry .responseCdmaNewSms true .wakePartial
  , .entry .responseNewBroadcastSms true .wakePartial
  , .entry .cdmaRuimSmsStorageFull true .wakePartial
  , .entry .restrictedStateChanged true .wakePartial
  , .entry .enterEmergencyCallbackMode true .wakePartial
  , .entry .cdmaCallWaiting true .wakePartial
  , .entry .cdmaOtaProvisionStatus true .wakePartial
  , .entry .cdmaInfoRec true .wakePartial
  , .entry .oemHookRaw true .wakePartial
  , .entry .ringbackTone true .wakePartial
  , .entry .resendIncallMute true .wakePartial
  , .entry .cdmaSubscriptionSourceChanged true .wakePartial
  , .entry .cdmaPrlChanged true .wakePartial
  , .entry .exitEmergencyCallbackMode true .wakePartial
  , .entry .rilConnected true .wakePartial
  , .entry .voiceRadioTechChanged true .wakePartial
  , .entry .cellInfoList true .wakePartial
  , .entry .responseImsNetworkStateChanged true .wakePartial
  , .entry .uiccSubscriptionStatusChanged true .wakePartial
  , .entry .srvccStateNotify true .wakePartial
  , .entry .hardwareConfigChanged true .wakePartial
  , .entry .dcRtInfoChanged false .wakePartial
  , .entry .radioCapability true .wakePartial
  , .entry .onSs true .wakePartial
  , .entry .stkCcAlphaNotify true .wakePartial
  , .entry .lcedataRecv true .wakePartial
  , .entry .pcoData true .wakePartial
  , .entry .modemRestart true .wakePartial
  , .entry .neighboringCellInfo false .wakePartial
  , .entry .networkInfo false .wakePartial
  , .entry .phbReadyNotification false .wakePartial
  , .entry .simInsertedStatus false .wakePartial
  , .entry .radioTemporarilyUnavailable false .wakePartial
  , .entry .meSmsStorageFull false .wakePartial
  , .entry .smsReadyNotification false .wakePartial
  , .entry .scriResult false .wakePartial
  , .entry .simMissing false .wakePartial
  , .entry .gprsDetach false .wakePartial
  , .entry .atciResponse false .wakePartial
  , .entry .simRecovery false .wakePartial
  , .entry .virtualSimOn false .wakePartial
  , .entry .virtualSimOff false .wakePartial
  , .entry .invalidSim false .wakePartial
  , .entry .responsePsNetworkStateChanged true .wakePartial
  , .entry .responseAcmt false .wakePartial
  , .entry .efCspPlmnModeBit false .wakePartial
  , .entry .imeiLock false .wakePartial
  , .entry .responseMmrrStatusChanged false .wakePartial
  , .entry .simPlugOut false .wakePartial
  , .entry .simPlugIn false .wakePartial
  , .entry .responseEtwsNotification false .wakePartial
  , .entry .responsePlmnChanged false .wakePartial
  , .entry .responseRegistrationSuspended true .wakePartial
  , .entry .stkEvdlCall false .wakePartial
  , .entry .dataPacketsFlush false .wakePartial
  , .entry .femtocellInfo false .wakePartial
  , .entry .stkSetupMenuReset false .wakePartial
  , .entry .applicationSessionIdChanged false .wakePartial
  , .entry .econfSrvccIndication false .wakePartial
  , .entry .imsEnableDone false .wakePartial
  , .entry .imsDisableDone false .wakePartial
  , .entry .imsRegistrationInfo false .wakePartial
  , .entry .dedicateBearerActivated false .wakePartial
  , .entry .dedicateBearerModified false .wakePartial
  , .entry .dedicateBearerDeactivated false .wakePartial
  , .entry .racUpdate false .wakePartial
  , .entry .econfResultIndication false .wakePartial
  , .entry .melockNotification false .wakePartial
  , .entry .callForwarding false .wakePartial
  , .entry .crssNotification false .wakePartial
  , .entry .incomingCallIndication true .wakePartial
  , .entry .cipherIndication false .wakePartial
  , .entry .cnap false .wakePartial
  , .entry .simCommonSlotNoChanged false .wakePartial
  , .entry .dataAllowed false .wakePartial
  , .entry .stkCallCtrl false .wakePartial
  , .entry .volteEpsNetworkFeatureSupport false .wakePartial
  , .entry .callInfoIndication true .wakePartial
  , .entry .volteEpsNetworkFeatureInfo false .wakePartial
  , .entry .srvccHandoverInfoIndication false .wakePartial
  , .entry .speechCodecInfo false .wakePartial
  , .entry .mdStateChange false .wakePartial
  , .entry .removeRestrictEutran false .wakePartial
  , .entry .moDataBarringInfo false .wakePartial
  , .entry .ssacBarringInfo false .wakePartial
  , .entry .sipCallProgressIndicator false .wakePartial
  , .entry .abnormalEvent false .wakePartial
  , .entry .emergencyBearerSupportNotify false .wakePartial
  , .entry .inter3gppIratStateChange false .wakePartial
  , .entry .lteBgSearchStatus false .wakePartial
  , .entry .gmssRatChanged false .wakePartial
  , .entry .cdmaCardType false .wakePartial
  , .entry .imsEnableStart false .wakePartial
  , .entry .imsDisableStart false .wakePartial
  , .entry .imsiRefreshDone false .wakePartial
  , .entry .eusimReady false .wakePartial
  , .entry .stkBipProactiveCommand false .wakePartial
  , .entry .worldModeChanged false .wakePartial
  , .entry .vtStatusInfo false .wakePartial
  , .entry .vtRingInfo false .wakePartial
  , .entry .vsimOperationIndication false .wakePartial
  , .entry .setAttachApn true .wakePartial
  , .entry .malAtInfo false .wakePartial
  , .entry .mainSimInfo false .wakePartial
  , .entry .trayPlugIn false .wakePartial
  , .entry .callmodChangeIndicator false .wakePartial
  , .entry .videoCapabilityIndicator false .wakePartial
  , .entry .lteAccessStratumStateChange false .wakePartial
  , .entry .setupDataCallResponse false .wakePartial ]

/-- The responses that `RIL_onUnsolicitedResponseSocket` leaves to the vendor's own client. -/
def ignoredUnsols : List Unsol :=
  [.malAtInfo, .mainSimInfo, .dataAllowed, .phbReadyNotification, .gprsDetach, .crssNotification,
    .responsePlmnChanged, .volteEpsNetworkFeatureSupport, .emergencyBearerSupportNotify,
    .smsReadyNotification, .callForwarding]

/-- The standard range is followed by the vendor range. -/
theorem unsolResponses_numbers :
    unsolResponses.map UnsolResponseInfo.requestNumber =
      List.range' unsolResponseBase 48 ++ List.range' unsolVendorBase 81 := by
  decide +kernel

@[simp]
theorem unsolResponses_length : unsolResponses.length = 129 := by
  decide +kernel

/-- An entry of the standard range carries its index above the standard base. -/
theorem unsolResponses_getElem?_standard {index : Nat} (standard : index < 48) :
    (unsolResponses[index]?).map UnsolResponseInfo.requestNumber =
      some (unsolResponseBase + index) := by
  rw [← List.getElem?_map, unsolResponses_numbers,
    List.getElem?_append_left (by rw [List.length_range']; exact standard),
    List.getElem?_range' standard, Nat.one_mul]

/-- An entry of the vendor range carries its index above the vendor base. -/
theorem unsolResponses_getElem?_vendor {index : Nat} (vendor : index < 81) :
    (unsolResponses[48 + index]?).map UnsolResponseInfo.requestNumber =
      some (unsolVendorBase + index) := by
  rw [← List.getElem?_map, unsolResponses_numbers,
    List.getElem?_append_right (by rw [List.length_range']; exact Nat.le_add_right 48 index),
    List.length_range', Nat.add_sub_cancel_left, List.getElem?_range' vendor, Nat.one_mul]

/-- There is no entry from 129 on. -/
theorem unsolResponses_getElem?_beyond {index : Nat} (beyond : 129 ≤ index) :
    unsolResponses[index]? = none := by
  exact List.getElem?_eq_none (by rw [unsolResponses_length]; exact beyond)

end X3Hal.Ril
