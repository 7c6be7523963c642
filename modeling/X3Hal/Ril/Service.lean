import Mathlib.Tactic.SplitIfs
import X3Hal.Ril.Commands

/-!
# The requests that the radio service issues

Each method of the service adds requests to the pending list and hands them to
a dispatch helper, or answers them with an error before they reach the vendor
library.  A method is described by the requests it issues, in order; which
errors a helper may answer with and in which buffer format it enqueues are the
two facts the request list and the channel queues depend on.
-/

namespace X3Hal.Ril

/-- The error codes the service itself answers with. -/
inductive RilErrno
  | noMemory | invalidArguments | requestNotSupported
  deriving DecidableEq, Repr

/-- `BUF_FMTS`: how the pending buffer of a request is laid out. -/
inductive BufFormat
  | ignore | void | ints | str | strs | callFwSt | iccApdu | simIo | wrSmsSim | raw | attchApn
  | imsSms | simAuth | dataProf
  deriving DecidableEq, Repr

/-- The dispatch helpers, and the bodies of the methods that have no helper. -/
inductive Helper
  | dispatchVoid | dispatchString | dispatchStrings | dispatchInts | dispatchCallForwardStatus
  | dispatchRaw | dispatchIccApdu
  /-- Converts its arguments, with these errors, and enqueues in this format. -/
  | own (errors : List RilErrno) (format : BufFormat)
  /-- Answers with an error and enqueues nothing. -/
  | rejects (error : RilErrno)
  deriving DecidableEq, Repr

/-- The choice on `ignoreBF`: only the two queued channels keep the buffer. -/
def bufferFormat (queued : BufFormat) (proxyId : Proxy) : BufFormat :=
  if proxyId ≠ .proxy1 ∧ proxyId ≠ .proxy3 then .ignore else queued

namespace Helper

/-- The errors a helper may answer a request with instead of enqueueing it. -/
def errors : Helper → List RilErrno
  | dispatchVoid => []
  | dispatchString => [.noMemory]
  | dispatchStrings => [.noMemory]
  | dispatchInts => [.noMemory]
  | dispatchCallForwardStatus => [.noMemory]
  | dispatchRaw => []
  | dispatchIccApdu => [.noMemory]
  | own errors _ => errors
  | rejects error => [error]

/-- The format a helper enqueues a request of a channel in. -/
def format (proxyId : Proxy) : Helper → Option BufFormat
  | dispatchVoid => some .void
  | dispatchString => some (bufferFormat .str proxyId)
  | dispatchStrings => some (bufferFormat .strs proxyId)
  | dispatchInts => some (bufferFormat .ints proxyId)
  | dispatchCallForwardStatus => some (bufferFormat .callFwSt proxyId)
  | dispatchRaw => some .ignore
  | dispatchIccApdu => some .iccApdu
  | own _ format => some format
  | rejects _ => none

end Helper

/-- A request handed to `addRequestToList`, with the helper that takes it on. -/
structure Issue where
  request : Request
  /-- Whether the serial number is the constant -1. -/
  isInternal : Bool
  helper : Helper
  deriving DecidableEq, Repr

/-- A request under the serial number of the caller. -/
def Issue.remote (request : Request) (helper : Helper) : Issue :=
  ⟨request, false, helper⟩

/-- A request under the serial number -1. -/
def Issue.internal (request : Request) (helper : Helper) : Issue :=
  ⟨request, true, helper⟩

inductive RadioTechnologyFamily
  | radioTech3gpp | radioTech3gpp2 | other
  deriving DecidableEq, Repr

/-- The methods of `RadioImpl` and `OemHookImpl`, and the indications of the
vendor library, that issue requests.  A method keeps the arguments that decide
which request it issues. -/
inductive RadioMethod
  | getIccCardStatus | supplyIccPinForApp | supplyIccPukForApp | supplyIccPin2ForApp
  | supplyIccPuk2ForApp | changeIccPinForApp | changeIccPin2ForApp
  | supplyNetworkDepersonalization | getCurrentCalls | dial | getImsiForApp | hangup
  | hangupWaitingOrBackground | hangupForegroundResumeBackground
  | switchWaitingOrHoldingAndActive | conference | rejectCall | getLastCallFailCause
  | getSignalStrength | getVoiceRegistrationState | getDataRegistrationState | getOperator
  | setRadioPower | sendDtmf | sendSms | sendSMSExpectMore | setupDataCall (mvnoTypeKnown : Bool)
  | iccIOForApp | sendUssd | cancelPendingUssd | getClir | setClir | getCallForwardStatus
  | setCallForward | getCallWaiting | setCallWaiting | acknowledgeLastIncomingGsmSms | acceptCall
  | deactivateDataCall | getFacilityLockForApp | setFacilityLockForApp | setBarringPassword
  | getNetworkSelectionMode | setNetworkSelectionModeAutomatic | setNetworkSelectionModeManual
  | getAvailableNetworks | stopNetworkScan | startDtmf | stopDtmf | getBasebandVersion
  | separateConnection | setMute | getMute | getClip | getDataCallList
  | setSuppServiceNotifications | writeSmsToSim | deleteSmsOnSim | setBandMode
  | getAvailableBandModes | sendEnvelope | sendTerminalResponseToSim
  | handleStkCallSetupRequestFromSim | explicitCallTransfer | setPreferredNetworkType
  | getPreferredNetworkType | getNeighboringCids | setLocationUpdates | setCdmaSubscriptionSource
  | setCdmaRoamingPreference | getCdmaRoamingPreference | setTTYMode | getTTYMode
  | setPreferredVoicePrivacy | getPreferredVoicePrivacy | sendCDMAFeatureCode | sendBurstDtmf
  | sendCdmaSms | acknowledgeLastIncomingCdmaSms | getGsmBroadcastConfig | setGsmBroadcastConfig
  | setGsmBroadcastActivation | getCdmaBroadcastConfig | setCdmaBroadcastConfig
  | setCdmaBroadcastActivation | getCDMASubscription | writeSmsToRuim | deleteSmsOnRuim
  | getDeviceIdentity | exitEmergencyCallbackMode | getSmscAddress | setSmscAddress
  | reportSmsMemoryStatus | reportStkServiceIsRunning | getCdmaSubscriptionSource
  | requestIsimAuthentication | acknowledgeIncomingGsmSmsWithPdu | sendEnvelopeWithStatus
  | getVoiceRadioTechnology | getCellInfoList | setCellInfoListRate | setInitialAttachApn
  | getImsRegistrationState | sendImsSms (tech : RadioTechnologyFamily)
  | iccTransmitApduBasicChannel | iccOpenLogicalChannel | iccCloseLogicalChannel
  | iccTransmitApduLogicalChannel | nvReadItem | nvWriteItem | nvWriteCdmaPrl | nvResetConfig
  | setUiccSubscription | setDataAllowed | getHardwareConfig | requestIccSimAuthentication
  | setDataProfile | requestShutdown | getRadioCapability | setRadioCapability | startLceService
  | stopLceService | pullLceData | getModemActivityInfo | setAllowedCarriers | getAllowedCarriers
  | sendDeviceState (lowDataExpected : Bool) | setIndicationFilter
  | setSimCardPower (powerUp : Bool) | sendRequestRaw | sendRequestStrings
  | registrationSuspendInd | incomingCallInd | setAttachApnInd
  deriving DecidableEq, Repr

/-- The requests a method issues, under the version of the vendor library. -/
def RadioMethod.issues (version : Int) : RadioMethod → List Issue
  | .getIccCardStatus => [.remote .getSimStatus .dispatchVoid]
  | .supplyIccPinForApp => [.remote .enterSimPin .dispatchStrings]
  | .supplyIccPukForApp => [.remote .enterSimPuk .dispatchStrings]
  | .supplyIccPin2ForApp => [.remote .enterSimPin2 .dispatchStrings]
  | .supplyIccPuk2ForApp => [.remote .enterSimPuk2 .dispatchStrings]
  | .changeIccPinForApp => [.remote .changeSimPin .dispatchStrings]
  | .changeIccPin2ForApp => [.remote .changeSimPin2 .dispatchStrings]
  | .supplyNetworkDepersonalization => [.remote .enterNetworkDepersonalization .dispatchStrings]
  | .getCurrentCalls => [.remote .getCurrentCalls .dispatchVoid]
  | .dial => [.remote .dial (.own [.noMemory] .ignore)]
  | .getImsiForApp => [.remote .getImsi .dispatchStrings]
  | .hangup => [.remote .hangup .dispatchInts]
  | .hangupWaitingOrBackground => [.remote .hangupWaitingOrBackground .dispatchVoid]
  | .hangupForegroundResumeBackground => [.remote .hangupForegroundResumeBackground .dispatchVoid]
  | .switchWaitingOrHoldingAndActive => [.remote .switchWaitingOrHoldingAndActive .dispatchVoid]
  | .conference => [.remote .conference .dispatchVoid]
  | .rejectCall => [.remote .udub .dispatchVoid]
  | .getLastCallFailCause => [.remote .lastCallFailCause .dispatchVoid]
  | .getSignalStrength => [.remote .signalStrength (.rejects .requestNotSupported)]
  | .getVoiceRegistrationState => [.remote .voiceRegistrationState .dispatchVoid]
  | .getDataRegistrationState => [.remote .dataRegistrationState .dispatchVoid]
  | .getOperator => [.remote .operator .dispatchVoid]
  | .setRadioPower => [.remote .radioPower .dispatchInts]
  | .sendDtmf => [.remote .dtmf .dispatchString]
  | .sendSms => [.remote .sendSms .dispatchStrings]
  | .sendSMSExpectMore => [.remote .sendSmsExpectMore .dispatchStrings]
  | .setupDataCall mvnoTypeKnown =>
      if 4 ≤ version ∧ version ≤ 14 then [.remote .setupDataCall .dispatchStrings]
      else if 15 ≤ version then
        if mvnoTypeKnown then [.remote .setupDataCall .dispatchStrings]
        else [.remote .setupDataCall (.rejects .invalidArguments)]
      else [.remote .setupDataCall (.rejects .requestNotSupported)]
  | .iccIOForApp => [.remote .simIo (.own [.noMemory] .simIo)]
  | .sendUssd => [.remote .sendUssd .dispatchString]
  | .cancelPendingUssd => [.remote .cancelUssd .dispatchVoid]
  | .getClir => [.remote .getClir .dispatchVoid]
  | .setClir => [.remote .setClir .dispatchInts]
  | .getCallForwardStatus => [.remote .queryCallForwardStatus .dispatchCallForwardStatus]
  | .setCallForward => [.remote .setCallForward .dispatchCallForwardStatus]
  | .getCallWaiting => [.remote .queryCallWaiting .dispatchInts]
  | .setCallWaiting => [.remote .setCallWaiting .dispatchInts]
  | .acknowledgeLastIncomingGsmSms => [.remote .smsAcknowledge .dispatchInts]
  | .acceptCall => [.remote .answer .dispatchVoid]
  | .deactivateDataCall => [.remote .deactivateDataCall .dispatchStrings]
  | .getFacilityLockForApp => [.remote .queryFacilityLock .dispatchStrings]
  | .setFacilityLockForApp => [.remote .setFacilityLock .dispatchStrings]
  | .setBarringPassword => [.remote .changeBarringPassword .dispatchStrings]
  | .getNetworkSelectionMode => [.remote .queryNetworkSelectionMode .dispatchVoid]
  | .setNetworkSelectionModeAutomatic => [.remote .setNetworkSelectionAutomatic .dispatchVoid]
  | .setNetworkSelectionModeManual => [.remote .setNetworkSelectionManual .dispatchString]
  | .getAvailableNetworks => [.remote .queryAvailableNetworks .dispatchVoid]
  | .stopNetworkScan => [.remote .stopNetworkScan .dispatchVoid]
  | .startDtmf => [.remote .dtmfStart .dispatchString]
  | .stopDtmf => [.remote .dtmfStop .dispatchVoid]
  | .getBasebandVersion => [.remote .basebandVersion .dispatchVoid]
  | .separateConnection => [.remote .separateConnection .dispatchInts]
  | .setMute => [.remote .setMute .dispatchInts]
  | .getMute => [.remote .getMute .dispatchVoid]
  | .getClip => [.remote .queryClip .dispatchVoid]
  | .getDataCallList => [.remote .dataCallList .dispatchVoid]
  | .setSuppServiceNotifications => [.remote .setSuppSvcNotification .dispatchInts]
  | .writeSmsToSim => [.remote .writeSmsToSim (.own [.noMemory] .wrSmsSim)]
  | .deleteSmsOnSim => [.remote .deleteSmsOnSim .dispatchInts]
  | .setBandMode => [.remote .setBandMode .dispatchInts]
  | .getAvailableBandModes => [.remote .queryAvailableBandMode .dispatchVoid]
  | .sendEnvelope => [.remote .stkSendEnvelopeCommand .dispatchString]
  | .sendTerminalResponseToSim => [.remote .stkSendTerminalResponse .dispatchString]
  | .handleStkCallSetupRequestFromSim =>
      [.remote .stkHandleCallSetupRequestedFromSim .dispatchInts]
  | .explicitCallTransfer => [.remote .explicitCallTransfer .dispatchVoid]
  | .setPreferredNetworkType => [.remote .setPreferredNetworkType .dispatchInts]
  | .getPreferredNetworkType => [.remote .getPreferredNetworkType .dispatchVoid]
  | .getNeighboringCids => [.remote .getNeighboringCellIds .dispatchVoid]
  | .setLocationUpdates => [.remote .setLocationUpdates .dispatchInts]
  | .setCdmaSubscriptionSource => [.remote .cdmaSetSubscriptionSource .dispatchInts]
  | .setCdmaRoamingPreference => [.remote .cdmaSetRoamingPreference .dispatchInts]
  | .getCdmaRoamingPreference => [.remote .cdmaQueryRoamingPreference .dispatchVoid]
  | .setTTYMode => [.remote .setTtyMode .dispatchInts]
  | .getTTYMode => [.remote .queryTtyMode (.rejects .requestNotSupported)]
  | .setPreferredVoicePrivacy => [.remote .cdmaSetPreferredVoicePrivacyMode .dispatchInts]
  | .getPreferredVoicePrivacy => [.remote .cdmaQueryPreferredVoicePrivacyMode .dispatchVoid]
  | .sendCDMAFeatureCode => [.remote .cdmaFlash .dispatchString]
  | .sendBurstDtmf => [.remote .cdmaBurstDtmf .dispatchStrings]
  | .sendCdmaSms => [.remote .cdmaSendSms (.own [] .raw)]
  | .acknowledgeLastIncomingCdmaSms => [.remote .cdmaSmsAcknowledge (.own [] .raw)]
  | .getGsmBroadcastConfig => [.remote .gsmGetBroadcastSmsConfig .dispatchVoid]
  | .setGsmBroadcastConfig => [.remote .gsmSetBroadcastSmsConfig (.own [] .raw)]
  | .setGsmBroadcastActivation => [.remote .gsmSmsBroadcastActivation .dispatchInts]
  | .getCdmaBroadcastConfig => [.remote .cdmaGetBroadcastSmsConfig .dispatchVoid]
  | .setCdmaBroadcastConfig => [.remote .cdmaSetBroadcastSmsConfig (.own [] .raw)]
  | .setCdmaBroadcastActivation => [.remote .cdmaSmsBroadcastActivation .dispatchInts]
  | .getCDMASubscription => [.remote .cdmaSubscription .dispatchVoid]
  | .writeSmsToRuim => [.remote .cdmaWriteSmsToRuim (.own [] .raw)]
  | .deleteSmsOnRuim => [.remote .cdmaDeleteSmsOnRuim .dispatchInts]
  | .getDeviceIdentity =>
      -- The two local requests prepare the answer for a vendor without the third one.
      [.internal .getImei .dispatchVoid, .internal .getImeisv .dispatchVoid,
        .remote .deviceIdentity .dispatchVoid]
  | .exitEmergencyCallbackMode => [.remote .exitEmergencyCallbackMode .dispatchVoid]
  | .getSmscAddress => [.remote .getSmscAddress .dispatchVoid]
  | .setSmscAddress => [.remote .setSmscAddress .dispatchString]
  | .reportSmsMemoryStatus => [.remote .reportSmsMemoryStatus .dispatchInts]
  | .reportStkServiceIsRunning => [.remote .reportStkServiceIsRunning .dispatchVoid]
  | .getCdmaSubscriptionSource =>
      [.remote .cdmaGetSubscriptionSource (.rejects .requestNotSupported)]
  | .requestIsimAuthentication => [.remote .isimAuthentication .dispatchString]
  | .acknowledgeIncomingGsmSmsWithPdu =>
      [.remote .acknowledgeIncomingGsmSmsWithPdu .dispatchStrings]
  | .sendEnvelopeWithStatus => [.remote .stkSendEnvelopeWithStatus .dispatchString]
  | .getVoiceRadioTechnology => [.remote .voiceRadioTech .dispatchVoid]
  | .getCellInfoList => [.remote .getCellInfoList .dispatchVoid]
  | .setCellInfoListRate => [.remote .setUnsolCellInfoListRate .dispatchInts]
  | .setInitialAttachApn =>
      if version ≤ 14 then [.remote .setInitialAttachApn (.own [.noMemory] .attchApn)]
      else [.remote .setInitialAttachApn (.own [.noMemory, .invalidArguments] .ignore)]
  | .getImsRegistrationState => [.remote .imsRegistrationState .dispatchVoid]
  | .sendImsSms .radioTech3gpp =>
      [.remote .imsSendSms (.own [.invalidArguments, .noMemory] .imsSms)]
  | .sendImsSms .radioTech3gpp2 => [.remote .imsSendSms (.own [.invalidArguments] .raw)]
  | .sendImsSms .other => [.remote .imsSendSms (.rejects .invalidArguments)]
  | .iccTransmitApduBasicChannel => [.remote .simTransmitApduBasic .dispatchIccApdu]
  | .iccOpenLogicalChannel => [.remote .simOpenChannel (.rejects .requestNotSupported)]
  | .iccCloseLogicalChannel => [.remote .simCloseChannel .dispatchInts]
  | .iccTransmitApduLogicalChannel => [.remote .simTransmitApduChannel .dispatchIccApdu]
  | .nvReadItem => [.remote .nvReadItem (.own [] .ignore)]
  | .nvWriteItem => [.remote .nvWriteItem (.own [.noMemory] .ignore)]
  | .nvWriteCdmaPrl => [.remote .nvWriteCdmaPrl .dispatchRaw]
  | .nvResetConfig => [.remote .nvResetConfig .dispatchInts]
  | .setUiccSubscription => [.remote .setUiccSubscription (.own [] .raw)]
  | .setDataAllowed => [.remote .allowData .dispatchInts]
  | .getHardwareConfig => [.remote .getHardwareConfig (.rejects .requestNotSupported)]
  | .requestIccSimAuthentication => [.remote .simAuthentication (.own [.noMemory] .simAuth)]
  | .setDataProfile =>
      if version ≤ 14 then [.remote .setDataProfile (.own [.noMemory] .dataProf)]
      else [.remote .setDataProfile (.own [.noMemory, .invalidArguments] .ignore)]
  | .requestShutdown => [.remote .shutdown .dispatchVoid]
  | .getRadioCapability => [.remote .getRadioCapability .dispatchVoid]
  | .setRadioCapability => [.remote .setRadioCapability (.own [] .raw)]
  | .startLceService => [.remote .startLce (.rejects .requestNotSupported)]
  | .stopLceService => [.remote .stopLce .dispatchVoid]
  | .pullLceData => [.remote .pullLcedata .dispatchVoid]
  | .getModemActivityInfo => [.remote .getActivityInfo .dispatchVoid]
  | .setAllowedCarriers => [.remote .setCarrierRestrictions (.own [.noMemory] .ignore)]
  | .getAllowedCarriers => [.remote .getCarrierRestrictions .dispatchVoid]
  | .sendDeviceState lowDataExpected =>
      if version < 15 then
        if lowDataExpected then [.remote .screenState .dispatchInts]
        else [.remote .sendDeviceState (.rejects .requestNotSupported)]
      else [.remote .sendDeviceState .dispatchInts]
  | .setIndicationFilter =>
      if version < 15 then
        [.remote .setUnsolicitedResponseFilter (.rejects .requestNotSupported)]
      else [.remote .setUnsolicitedResponseFilter .dispatchInts]
  | .setSimCardPower powerUp =>
      if powerUp then [.remote .modemPoweron .dispatchVoid]
      else [.remote .modemPoweroff .dispatchVoid]
  | .sendRequestRaw => [.remote .oemHookRaw .dispatchRaw]
  | .sendRequestStrings => [.remote .oemHookStrings .dispatchStrings]
  | .registrationSuspendInd => [.internal .resumeRegistration .dispatchInts]
  | .incomingCallInd => [.internal .setCallIndication .dispatchInts]
  | .setAttachApnInd => [.internal .setInitialAttachApn (.own [] .ignore)]

/-- A test of requests holds of the three generations of the vendor library. -/
def RadioMethod.passes (test : Issue → Bool) (method : RadioMethod) : Bool :=
  (method.issues 3).all test && (method.issues 4).all test && (method.issues 15).all test

/-- The version of the vendor library decides by its generation alone. -/
theorem RadioMethod.issues_generation (version : Int) (method : RadioMethod) :
    method.issues version = method.issues 3 ∨ method.issues version = method.issues 4 ∨
      method.issues version = method.issues 15 := by
  cases method with
  | setupDataCall mvnoTypeKnown =>
      simp only [issues]
      split_ifs <;> first | omega | simp
  | setInitialAttachApn =>
      simp only [issues]
      split_ifs <;> first | omega | simp
  | setDataProfile =>
      simp only [issues]
      split_ifs <;> first | omega | simp
  | sendDeviceState lowDataExpected =>
      simp only [issues]
      split_ifs <;> first | omega | simp
  | setIndicationFilter =>
      simp only [issues]
      split_ifs <;> first | omega | simp
  | sendImsSms tech => cases tech <;> exact Or.inl rfl
  | _ => exact Or.inl rfl

/-- What holds of the requests of the three generations holds of every version. -/
theorem RadioMethod.all_issues_of_passes {test : Issue → Bool} {method : RadioMethod}
    (passed : method.passes test = true) (version : Int) {issue : Issue}
    (issued : issue ∈ method.issues version) : test issue = true := by
  simp only [passes, Bool.and_eq_true, List.all_eq_true] at passed
  obtain ⟨⟨oldest, middle⟩, newest⟩ := passed
  rcases method.issues_generation version with same | same | same
  · exact oldest issue (same ▸ issued)
  · exact middle issue (same ▸ issued)
  · exact newest issue (same ▸ issued)

end X3Hal.Ril
