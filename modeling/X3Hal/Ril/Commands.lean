import Mathlib.Data.List.Basic

/-!
# Requests and the command table of the radio library

The request constants that the service and the command table use, and the table
itself, in its source order.  Of a response function only its presence is kept:
an entry without one leaves a completed request unanswered.
-/

namespace X3Hal.Ril

/-- The `RIL_REQUEST_` constants. -/
inductive Request
  | getSimStatus | enterSimPin | enterSimPuk | enterSimPin2 | enterSimPuk2 | changeSimPin
  | changeSimPin2 | enterNetworkDepersonalization | getCurrentCalls | dial | getImsi | hangup
  | hangupWaitingOrBackground | hangupForegroundResumeBackground
  | switchWaitingOrHoldingAndActive | conference | udub | lastCallFailCause | signalStrength
  | voiceRegistrationState | dataRegistrationState | operator | radioPower | dtmf | sendSms
  | sendSmsExpectMore | setupDataCall | simIo | sendUssd | cancelUssd | getClir | setClir
  | queryCallForwardStatus | setCallForward | queryCallWaiting | setCallWaiting | smsAcknowledge
  | getImei | getImeisv | answer | deactivateDataCall | queryFacilityLock | setFacilityLock
  | changeBarringPassword | queryNetworkSelectionMode | setNetworkSelectionAutomatic
  | setNetworkSelectionManual | queryAvailableNetworks | dtmfStart | dtmfStop | basebandVersion
  | separateConnection | setMute | getMute | queryClip | lastDataCallFailCause | dataCallList
  | resetRadio | oemHookRaw | oemHookStrings | screenState | setSuppSvcNotification
  | writeSmsToSim | deleteSmsOnSim | setBandMode | queryAvailableBandMode | stkGetProfile
  | stkSetProfile | stkSendEnvelopeCommand | stkSendTerminalResponse
  | stkHandleCallSetupRequestedFromSim | explicitCallTransfer | setPreferredNetworkType
  | getPreferredNetworkType | getNeighboringCellIds | setLocationUpdates
  | cdmaSetSubscriptionSource | cdmaSetRoamingPreference | cdmaQueryRoamingPreference
  | setTtyMode | queryTtyMode | cdmaSetPreferredVoicePrivacyMode
  | cdmaQueryPreferredVoicePrivacyMode | cdmaFlash | cdmaBurstDtmf | cdmaValidateAndWriteAkey
  | cdmaSendSms | cdmaSmsAcknowledge | gsmGetBroadcastSmsConfig | gsmSetBroadcastSmsConfig
  | gsmSmsBroadcastActivation | cdmaGetBroadcastSmsConfig | cdmaSetBroadcastSmsConfig
  | cdmaSmsBroadcastActivation | cdmaSubscription | cdmaWriteSmsToRuim | cdmaDeleteSmsOnRuim
  | deviceIdentity | exitEmergencyCallbackMode | getSmscAddress | setSmscAddress
  | reportSmsMemoryStatus | reportStkServiceIsRunning | cdmaGetSubscriptionSource
  | isimAuthentication | acknowledgeIncomingGsmSmsWithPdu | stkSendEnvelopeWithStatus
  | voiceRadioTech | getCellInfoList | setUnsolCellInfoListRate | setInitialAttachApn
  | imsRegistrationState | imsSendSms | simTransmitApduBasic | simOpenChannel | simCloseChannel
  | simTransmitApduChannel | nvReadItem | nvWriteItem | nvWriteCdmaPrl | nvResetConfig
  | setUiccSubscription | allowData | getHardwareConfig | simAuthentication | getDcRtInfo
  | setDcRtInfoRate | setDataProfile | shutdown | getRadioCapability | setRadioCapability
  | startLce | stopLce | pullLcedata | getActivityInfo | setCarrierRestrictions
  | getCarrierRestrictions | sendDeviceState | setUnsolicitedResponseFilter | setSimCardPower
  | stopNetworkScan | modemPoweroff | modemPoweron | resumeRegistration | setCallIndication
  deriving DecidableEq, Repr

/-- `RIL_REQUEST_VENDOR_BASE`. -/
def requestVendorBase : Nat :=
  2000

/-- The value of a request constant. -/
def Request.number : Request → Nat
  | .getSimStatus => 1
  | .enterSimPin => 2
  | .enterSimPuk => 3
  | .enterSimPin2 => 4
  | .enterSimPuk2 => 5
  | .changeSimPin => 6
  | .changeSimPin2 => 7
  | .enterNetworkDepersonalization => 8
  | .getCurrentCalls => 9
  | .dial => 10
  | .getImsi => 11
  | .hangup => 12
  | .hangupWaitingOrBackground => 13
  | .hangupForegroundResumeBackground => 14
  | .switchWaitingOrHoldingAndActive => 15
  | .conference => 16
  | .udub => 17
  | .lastCallFailCause => 18
  | .signalStrength => 19
  | .voiceRegistrationState => 20
  | .dataRegistrationState => 21
  | .operator => 22
  | .radioPower => 23
  | .dtmf => 24
  | .sendSms => 25
  | .sendSmsExpectMore => 26
  | .setupDataCall => 27
  | .simIo => 28
  | .sendUssd => 29
  | .cancelUssd => 30
  | .getClir => 31
  | .setClir => 32
  | .queryCallForwardStatus => 33
  | .setCallForward => 34
  | .queryCallWaiting => 35
  | .setCallWaiting => 36
  | .smsAcknowledge => 37
  | .getImei => 38
  | .getImeisv => 39
  | .answer => 40
  | .deactivateDataCall => 41
  | .queryFacilityLock => 42
  | .setFacilityLock => 43
  | .changeBarringPassword => 44
  | .queryNetworkSelectionMode => 45
  | .setNetworkSelectionAutomatic => 46
  | .setNetworkSelectionManual => 47
  | .queryAvailableNetworks => 48
  | .dtmfStart => 49
  | .dtmfStop => 50
  | .basebandVersion => 51
  | .separateConnection => 52
  | .setMute => 53
  | .getMute => 54
  | .queryClip => 55
  | .lastDataCallFailCause => 56
  | .dataCallList => 57
  | .resetRadio => 58
  | .oemHookRaw => 59
  | .oemHookStrings => 60
  | .screenState => 61
  | .setSuppSvcNotification => 62
  | .writeSmsToSim => 63
  | .deleteSmsOnSim => 64
  | .setBandMode => 65
  | .queryAvailableBandMode => 66
  | .stkGetProfile => 67
  | .stkSetProfile => 68
  | .stkSendEnvelopeCommand => 69
  | .stkSendTerminalResponse => 70
  | .stkHandleCallSetupRequestedFromSim => 71
  | .explicitCallTransfer => 72
  | .setPreferredNetworkType => 73
  | .getPreferredNetworkType => 74
  | .getNeighboringCellIds => 75
  | .setLocationUpdates => 76
  | .cdmaSetSubscriptionSource => 77
  | .cdmaSetRoamingPreference => 78
  | .cdmaQueryRoamingPreference => 79
  | .setTtyMode => 80
  | .queryTtyMode => 81
  | .cdmaSetPreferredVoicePrivacyMode => 82
  | .cdmaQueryPreferredVoicePrivacyMode => 83
  | .cdmaFlash => 84
  | .cdmaBurstDtmf => 85
  | .cdmaValidateAndWriteAkey => 86
  | .cdmaSendSms => 87
  | .cdmaSmsAcknowledge => 88
  | .gsmGetBroadcastSmsConfig => 89
  | .gsmSetBroadcastSmsConfig => 90
  | .gsmSmsBroadcastActivation => 91
  | .cdmaGetBroadcastSmsConfig => 92
  | .cdmaSetBroadcastSmsConfig => 93
  | .cdmaSmsBroadcastActivation => 94
  | .cdmaSubscription => 95
  | .cdmaWriteSmsToRuim => 96
  | .cdmaDeleteSmsOnRuim => 97
  | .deviceIdentity => 98
  | .exitEmergencyCallbackMode => 99
  | .getSmscAddress => 100
  | .setSmscAddress => 101
  | .reportSmsMemoryStatus => 102
  | .reportStkServiceIsRunning => 103
  | .cdmaGetSubscriptionSource => 104
  | .isimAuthentication => 105
  | .acknowledgeIncomingGsmSmsWithPdu => 106
  | .stkSendEnvelopeWithStatus => 107
  | .voiceRadioTech => 108
  | .getCellInfoList => 109
  | .setUnsolCellInfoListRate => 110
  | .setInitialAttachApn => 111
  | .imsRegistrationState => 112
  | .imsSendSms => 113
  | .simTransmitApduBasic => 114
  | .simOpenChannel => 115
  | .simCloseChannel => 116
  | .simTransmitApduChannel => 117
  | .nvReadItem => 118
  | .nvWriteItem => 119
  | .nvWriteCdmaPrl => 120
  | .nvResetConfig => 121
  | .setUiccSubscription => 122
  | .allowData => 123
  | .getHardwareConfig => 124
  | .simAuthentication => 125
  | .getDcRtInfo => 126
  | .setDcRtInfoRate => 127
  | .setDataProfile => 128
  | .shutdown => 129
  | .getRadioCapability => 130
  | .setRadioCapability => 131
  | .startLce => 132
  | .stopLce => 133
  | .pullLcedata => 134
  | .getActivityInfo => 135
  | .setCarrierRestrictions => 136
  | .getCarrierRestrictions => 137
  | .sendDeviceState => 138
  | .setUnsolicitedResponseFilter => 139
  | .setSimCardPower => 140
  | .stopNetworkScan => 143
  | .modemPoweroff => requestVendorBase + 10
  | .modemPoweron => requestVendorBase + 28
  | .resumeRegistration => requestVendorBase + 65
  | .setCallIndication => requestVendorBase + 86

/-- The sockets, one for each of the two cards. -/
inductive Slot
  | socket1 | socket2
  deriving DecidableEq, Repr

/-- The `RIL_CMD_PROXY_` channels. -/
inductive Proxy
  | proxy1 | proxy2 | proxy3 | proxy4 | proxy5 | proxy6
  deriving DecidableEq, Repr

/-- An entry of the command table. -/
structure CommandInfo where
  requestNumber : Nat
  /-- Whether `responseFunction` is not `NULL`. -/
  hasResponse : Bool
  proxyId : Proxy
  deriving DecidableEq, Repr

/-- The entry of a request constant. -/
def CommandInfo.entry (request : Request) (hasResponse : Bool) (proxyId : Proxy) : CommandInfo :=
  ⟨request.number, hasResponse, proxyId⟩

/-- `s_commands`. -/
def commands : List CommandInfo :=
  [ ⟨0, false, .proxy3⟩
  , .entry .getSimStatus true .proxy1
  , .entry .enterSimPin true .proxy1
  , .entry .enterSimPuk true .proxy1
  , .entry .enterSimPin2 true .proxy1
  , .entry .enterSimPuk2 true .proxy1
  , .entry .changeSimPin true .proxy1
  , .entry .changeSimPin2 true .proxy1
  , .entry .enterNetworkDepersonalization true .proxy1
  , .entry .getCurrentCalls true .proxy2
  , .entry .dial true .proxy2
  , .entry .getImsi true .proxy1
  , .entry .hangup true .proxy4
  , .entry .hangupWaitingOrBackground true .proxy4
  , .entry .hangupForegroundResumeBackground true .proxy4
  , .entry .switchWaitingOrHoldingAndActive true .proxy4
  , .entry .conference true .proxy4
  , .entry .udub true .proxy2
  , .entry .lastCallFailCause true .proxy2
  , .entry .signalStrength true .proxy3
  , .entry .voiceRegistrationState true .proxy3
  , .entry .dataRegistrationState true .proxy3
  , .entry .operator true .proxy3
  , .entry .radioPower true .proxy1
  , .entry .dtmf true .proxy2
  , .entry .sendSms true .proxy1
  , .entry .sendSmsExpectMore true .proxy1
  , .entry .setupDataCall true .proxy5
  , .entry .simIo true .proxy1
  , .entry .sendUssd true .proxy2
  , .entry .cancelUssd true .proxy2
  , .entry .getClir true .proxy2
  , .entry .setClir true .proxy2
  , .entry .queryCallForwardStatus true .proxy1
  , .entry .setCallForward true .proxy2
  , .entry .queryCallWaiting true .proxy1
  , .entry .setCallWaiting true .proxy2
  , .entry .smsAcknowledge true .proxy2
  , .entry .getImei false .proxy3
  , .entry .getImeisv false .proxy3
  , .entry .answer true .proxy2
  , .entry .deactivateDataCall true .proxy5
  , .entry .queryFacilityLock true .proxy1
  , .entry .setFacilityLock true .proxy1
  , .entry .changeBarringPassword true .proxy2
  , .entry .queryNetworkSelectionMode true .proxy3
  , .entry .setNetworkSelectionAutomatic true .proxy3
  , .entry .setNetworkSelectionManual true .proxy3
  , .entry .queryAvailableNetworks true .proxy3
  , .entry .dtmfStart true .proxy2
  , .entry .dtmfStop true .proxy2
  , .entry .basebandVersion true .proxy3
  , .entry .separateConnection true .proxy4
  , .entry .setMute true .proxy2
  , .entry .getMute true .proxy2
  , .entry .queryClip true .proxy2
  , .entry .lastDataCallFailCause false .proxy5
  , .entry .dataCallList true .proxy5
  , .entry .resetRadio false .proxy1
  , .entry .oemHookRaw true .proxy6
  , .entry .oemHookStrings true .proxy3
  , .entry .screenState true .proxy3
  , .entry .setSuppSvcNotification true .proxy2
  , .entry .writeSmsToSim true .proxy1
  , .entry .deleteSmsOnSim true .proxy1
  , .entry .setBandMode true .proxy3
  , .entry .queryAvailableBandMode true .proxy3
  , .entry .stkGetProfile false .proxy1
  , .entry .stkSetProfile false .proxy1
  , .entry .stkSendEnvelopeCommand true .proxy1
  , .entry .stkSendTerminalResponse true .proxy1
  , .entry .stkHandleCallSetupRequestedFromSim true .proxy1
  , .entry .explicitCallTransfer true .proxy2
  , .entry .setPreferredNetworkType true .proxy1
  , .entry .getPreferredNetworkType true .proxy1
  , .entry .getNeighboringCellIds true .proxy4
  , .entry .setLocationUpdates true .proxy3
  , .entry .cdmaSetSubscriptionSource true .proxy3
  , .entry .cdmaSetRoamingPreference true .proxy3
  , .entry .cdmaQueryRoamingPreference true .proxy3
  , .entry .setTtyMode true .proxy3
  , .entry .queryTtyMode true .proxy3
  , .entry .cdmaSetPreferredVoicePrivacyMode true .proxy2
  , .entry .cdmaQueryPreferredVoicePrivacyMode true .proxy2
  , .entry .cdmaFlash true .proxy2
  , .entry .cdmaBurstDtmf true .proxy2
  , .entry .cdmaValidateAndWriteAkey false .proxy2
  , .entry .cdmaSendSms true .proxy1
  , .entry .cdmaSmsAcknowledge true .proxy1
  , .entry .gsmGetBroadcastSmsConfig true .proxy2
  , .entry .gsmSetBroadcastSmsConfig true .proxy1
  , .entry .gsmSmsBroadcastActivation true .proxy1
  , .entry .cdmaGetBroadcastSmsConfig true .proxy1
  , .entry .cdmaSetBroadcastSmsConfig true .proxy1
  , .entry .cdmaSmsBroadcastActivation true .proxy1
  , .entry .cdmaSubscription true .proxy1
  , .entry .cdmaWriteSmsToRuim true .proxy1
  , .entry .cdmaDeleteSmsOnRuim true .proxy1
  , .entry .deviceIdentity true .proxy3
  , .entry .exitEmergencyCallbackMode true .proxy2
  , .entry .getSmscAddress true .proxy2
  , .entry .setSmscAddress true .proxy2
  , .entry .reportSmsMemoryStatus true .proxy1
  , .entry .reportStkServiceIsRunning true .proxy1
  , .entry .cdmaGetSubscriptionSource true .proxy1
  , .entry .isimAuthentication true .proxy1
  , .entry .acknowledgeIncomingGsmSmsWithPdu true .proxy1
  , .entry .stkSendEnvelopeWithStatus true .proxy2
  , .entry .voiceRadioTech true .proxy3
  , .entry .getCellInfoList true .proxy2
  , .entry .setUnsolCellInfoListRate true .proxy3
  , .entry .setInitialAttachApn true .proxy1
  , .entry .imsRegistrationState true .proxy3
  , .entry .imsSendSms true .proxy1
  , .entry .simTransmitApduBasic true .proxy1
  , .entry .simOpenChannel true .proxy1
  , .entry .simCloseChannel true .proxy1
  , .entry .simTransmitApduChannel true .proxy1
  , .entry .nvReadItem true .proxy4
  , .entry .nvWriteItem true .proxy4
  , .entry .nvWriteCdmaPrl true .proxy4
  , .entry .nvResetConfig true .proxy4
  , .entry .setUiccSubscription true .proxy1
  , .entry .allowData true .proxy5
  , .entry .getHardwareConfig true .proxy1
  , .entry .simAuthentication true .proxy3
  , .entry .getDcRtInfo false .proxy1
  , .entry .setDcRtInfoRate false .proxy1
  , .entry .setDataProfile true .proxy1
  , .entry .shutdown true .proxy1
  , .entry .getRadioCapability true .proxy1
  , .entry .setRadioCapability true .proxy1
  , .entry .startLce true .proxy5
  , .entry .stopLce true .proxy5
  , .entry .pullLcedata true .proxy5
  , .entry .getActivityInfo true .proxy1
  , .entry .setCarrierRestrictions true .proxy4
  , .entry .getCarrierRestrictions true .proxy4
  , .entry .sendDeviceState true .proxy3
  , .entry .setUnsolicitedResponseFilter true .proxy3
  , .entry .setSimCardPower true .proxy1 ]

/-- The table is indexed by the request number. -/
theorem commands_numbers : commands.map CommandInfo.requestNumber = List.range 141 := by
  decide +kernel

@[simp]
theorem commands_length : commands.length = 141 := by
  decide +kernel

/-- An entry inside the table carries its own index. -/
theorem commands_getElem?_number (index : Nat) :
    (commands[index]?).map CommandInfo.requestNumber =
      if index < 141 then some index else none := by
  rw [← List.getElem?_map, commands_numbers]
  split
  case isTrue inside => exact List.getElem?_range inside
  case isFalse outside =>
      exact List.getElem?_eq_none (by rw [List.length_range]; exact Nat.not_lt.mp outside)

end X3Hal.Ril
