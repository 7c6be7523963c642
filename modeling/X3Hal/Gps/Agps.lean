import X3Hal.Gps.Codec

/-!
# AGPS messages to the daemon

Each framework call puts its arguments into a message of 1024 bytes and sends the whole
message.  The puts of a call stay within the message exactly when the string or the data
of the framework is short enough.
-/

namespace X3Hal.Gps

/-! ## The framework's calls -/

/-- `char buff[1024] = {0}` -/
def emptyMessage : MsgBuffer :=
  ⟨List.replicate 1024 0, 0, by rw [List.length_replicate]; decide⟩

/-- `agps_data_conn_open` -/
def agpsDataConnOpen (apn : CString) : Option MsgBuffer := do
  let buff ← buffPutInt 125 emptyMessage
  buffPutString apn buff

/-- `agps_data_conn_open_with_apn_ip_type` -/
def agpsDataConnOpenWithApnIpType (apn : CString) (apnIpType : Int32) : Option MsgBuffer := do
  let buff ← buffPutInt 135 emptyMessage
  let buff ← buffPutString apn buff
  buffPutInt apnIpType buff

/-- `agps_data_conn_closed` -/
def agpsDataConnClosed : Option MsgBuffer :=
  buffPutInt 127 emptyMessage

/-- `agps_data_conn_failed` -/
def agpsDataConnFailed : Option MsgBuffer :=
  buffPutInt 126 emptyMessage

/-- `agps_set_server` -/
def agpsSetServer (type : Int32) (hostname : CString) (port : Int32) : Option MsgBuffer := do
  let buff ← buffPutInt 132 emptyMessage
  let buff ← buffPutInt type buff
  let buff ← buffPutString hostname buff
  buffPutInt port buff

/-- `agps_install_certificates`, with the first `length` bytes at `certificates` -/
def agpsInstallCertificates (certificates : List UInt8) : Option MsgBuffer := do
  let length := Int32.ofNat certificates.length
  let buff ← buffPutInt 136 emptyMessage
  let buff ← buffPutInt length buff
  buffPutStruct certificates length buff

/-- `agps_revoke_certificates`, with the first `length` bytes at `fingerprints` -/
def agpsRevokeCertificates (fingerprints : List UInt8) : Option MsgBuffer := do
  let length := Int32.ofNat fingerprints.length
  let buff ← buffPutInt 137 emptyMessage
  let buff ← buffPutInt length buff
  buffPutStruct fingerprints length buff

/-- `gps_ni_respond` -/
def gpsNiRespond (notifId userResponse : Int32) : Option MsgBuffer := do
  let buff ← buffPutInt 129 emptyMessage
  let buff ← buffPutInt notifId buff
  buffPutInt userResponse buff

/-- `agps_ril_set_ref_location`, with the bytes of the `AGpsRefLocation` -/
def agpsRilSetRefLocation (agpsReflocation : List UInt8) (szStruct : Int32) :
    Option MsgBuffer := do
  let buff ← buffPutInt 130 emptyMessage
  let buff ← buffPutStruct agpsReflocation (Int32.ofNat agpsReflocation.length) buff
  buffPutInt szStruct buff

/-- `agps_ril_set_set_id` -/
def agpsRilSetSetId (type : Int32) (setid : CString) : Option MsgBuffer := do
  let buff ← buffPutInt 131 emptyMessage
  let buff ← buffPutInt type buff
  buffPutString setid buff

/-- `agps_ril_ni_message` -/
def agpsRilNiMessage (msg : List UInt8) : Option MsgBuffer := do
  let buff ← buffPutInt 128 emptyMessage
  buffPutBinary msg (Int32.ofNat msg.length) buff

/-- `agps_network_connected_wifi_tragger_nlp` -/
def agpsNetworkConnectedWifiTraggerNlp : Option MsgBuffer :=
  buffPutInt 0x4a emptyMessage

/-- The string `""`, which stands for a null pointer. -/
def emptyString : CString :=
  ⟨[], List.not_mem_nil⟩

/-- The message of `agps_ril_update_network_state` -/
def agpsRilUpdateNetworkState (connected type roaming : Int32) (extraInfo : Option CString) :
    Option MsgBuffer := do
  let buff ← buffPutInt 133 emptyMessage
  let buff ← buffPutInt connected buff
  let buff ← buffPutInt type buff
  let buff ← buffPutInt roaming buff
  buffPutString (extraInfo.getD emptyString) buff

/-- `agps_ril_update_network_availability` -/
def agpsRilUpdateNetworkAvailability (avaiable : Int32) (apn : Option CString) :
    Option MsgBuffer := do
  let buff ← buffPutInt 134 emptyMessage
  let buff ← buffPutInt avaiable buff
  buffPutString (apn.getD emptyString) buff

/-- A call of one of the AGPS interfaces. -/
inductive AgpsCall
  | dataConnOpen (apn : CString)
  | dataConnOpenWithApnIpType (apn : CString) (apnIpType : Int32)
  | dataConnClosed
  | dataConnFailed
  | setServer (type : Int32) (hostname : CString) (port : Int32)
  | installCertificates (certificates : List UInt8)
  | revokeCertificates (fingerprints : List UInt8)
  | niRespond (notifId userResponse : Int32)
  | setRefLocation (agpsReflocation : List UInt8) (szStruct : Int32)
  | setSetId (type : Int32) (setid : CString)
  | niMessage (msg : List UInt8)
  | updateNetworkState (connected type roaming : Int32) (extraInfo : Option CString)
  | updateNetworkAvailability (avaiable : Int32) (apn : Option CString)

/-- The messages that a call sends, in order, while `nw_connected` is as given. -/
def AgpsCall.messages (nwConnected : Int32) : AgpsCall → Option (List MsgBuffer)
  | .dataConnOpen apn => (agpsDataConnOpen apn).map ([·])
  | .dataConnOpenWithApnIpType apn apnIpType =>
      (agpsDataConnOpenWithApnIpType apn apnIpType).map ([·])
  | .dataConnClosed => agpsDataConnClosed.map ([·])
  | .dataConnFailed => agpsDataConnFailed.map ([·])
  | .setServer type hostname port => (agpsSetServer type hostname port).map ([·])
  | .installCertificates certificates => (agpsInstallCertificates certificates).map ([·])
  | .revokeCertificates fingerprints => (agpsRevokeCertificates fingerprints).map ([·])
  | .niRespond notifId userResponse => (gpsNiRespond notifId userResponse).map ([·])
  | .setRefLocation agpsReflocation szStruct =>
      (agpsRilSetRefLocation agpsReflocation szStruct).map ([·])
  | .setSetId type setid => (agpsRilSetSetId type setid).map ([·])
  | .niMessage msg => (agpsRilNiMessage msg).map ([·])
  | .updateNetworkState connected type roaming extraInfo => do
      -- a first connection over wifi, type 1, asks the daemon for a network location
      let nlp ←
        if nwConnected = 0 ∧ connected = 1 ∧ type = 1 then
          agpsNetworkConnectedWifiTraggerNlp.map ([·])
        else some []
      let message ← agpsRilUpdateNetworkState connected type roaming extraInfo
      some (nlp ++ [message])
  | .updateNetworkAvailability avaiable apn =>
      (agpsRilUpdateNetworkAvailability avaiable apn).map ([·])

/-! ## When the messages have room -/

/-- As an `int`, a size is not negative and at most `room`. -/
def IntAtMost (size : Nat) (room : Int) : Prop :=
  0 ≤ (Int32.ofNat size).toInt ∧ (Int32.ofNat size).toInt ≤ room

/-- The string with its terminator takes at most `room` bytes. -/
def CString.AtMost (text : CString) (room : Int) : Prop :=
  IntAtMost (text.bytes.length + 1) room

/-- The framework's string or data is short enough for the message of the call. -/
def AgpsCall.Fits : AgpsCall → Prop
  | .dataConnOpen apn => apn.AtMost 1016
  | .dataConnOpenWithApnIpType apn _ => apn.AtMost 1012
  | .setServer _ hostname _ => hostname.AtMost 1008
  | .installCertificates certificates => IntAtMost certificates.length 1016
  | .revokeCertificates fingerprints => IntAtMost fingerprints.length 1016
  | .setRefLocation agpsReflocation _ => IntAtMost agpsReflocation.length 1016
  | .setSetId _ setid => setid.AtMost 1012
  | .niMessage msg => IntAtMost msg.length 1016
  | .updateNetworkState _ _ _ extraInfo => ∀ text ∈ extraInfo, text.AtMost 1004
  | .updateNetworkAvailability _ apn => ∀ text ∈ apn, text.AtMost 1012
  | .dataConnClosed | .dataConnFailed | .niRespond _ _ => True

/-- The size given to the `memcpy` of a put, as an `int`. -/
def Value.copied : Value → Int
  | .int _ => 0
  | .string text => (Int32.ofNat (text.bytes.length + 1)).toInt
  | .binary data => (Int32.ofNat data.length).toInt
  | .struct data => (Int32.ofNat data.length).toInt

/-- What a put advances by. -/
def Value.extent : Value → Int
  | .struct data => (Value.struct data).copied
  | value => 4 + value.copied

/-- As an `int`, a size is not larger than it is. -/
theorem toInt_ofNat_le {n : Nat} (nonneg : 0 ≤ (Int32.ofNat n).toInt) :
    (Int32.ofNat n).toInt ≤ n := by
  have wrapped : (Int32.ofNat n).toInt = (n : Int).bmod Int32.size := Int32.toInt_ofNat'
  rw [wrapped] at nonneg ⊢
  unfold Int.bmod at nonneg ⊢
  simp only [Int32.size] at nonneg ⊢
  omega

theorem countedBytes_some {n : Nat} {data : List UInt8} (length : data.length = n)
    (nonneg : 0 ≤ (Int32.ofNat n).toInt) :
    ∃ bytes, countedBytes (Int32.ofNat n) data = some bytes ∧
      (bytes.length : Int) = 4 + (Int32.ofNat n).toInt := by
  have atMost := toInt_ofNat_le nonneg
  refine ⟨_, by rw [countedBytes, memcpySize_of_nonneg nonneg]; rfl, ?_⟩
  rw [List.length_append, length_intBytes, List.length_take]
  omega

/-- A put writes as many bytes as it advances by, unless its `memcpy` has a negative size. -/
theorem written_some {value : Value} (nonneg : 0 ≤ value.copied) :
    ∃ data, value.written = some data ∧ (data.length : Int) = value.extent := by
  cases value with
  | int value => exact ⟨intBytes value, rfl, rfl⟩
  | string text => exact countedBytes_some (by simp) nonneg
  | binary data => exact countedBytes_some rfl nonneg
  | struct data =>
      have nonneg : 0 ≤ (Int32.ofNat data.length).toInt := nonneg
      have atMost := toInt_ofNat_le nonneg
      refine ⟨_, by rw [Value.written, memcpySize_of_nonneg nonneg]; rfl, ?_⟩
      rw [List.length_take, Value.extent]
      show _ = (Int32.ofNat data.length).toInt
      omega

theorem written_eq_none {value : Value} (negative : ¬ 0 ≤ value.copied) :
    value.written = none := by
  cases value with
  | int value => exact absurd (Int.le_refl 0) negative
  | string text =>
      rw [Value.written, countedBytes, memcpySize_of_neg negative]
      rfl
  | binary data =>
      rw [Value.written, countedBytes, memcpySize_of_neg negative]
      rfl
  | struct data =>
      rw [Value.written, memcpySize_of_neg negative]
      rfl

theorem exists_writtenAll_iff (values : List Value) (room : Int) :
    (∃ data, writtenAll values = some data ∧ (data.length : Int) ≤ room) ↔
      (∀ value ∈ values, 0 ≤ value.copied) ∧ (values.map Value.extent).sum ≤ room := by
  induction values generalizing room with
  | nil => simp [writtenAll]
  | cons value rest ih =>
      rw [List.forall_mem_cons, List.map_cons, List.sum_cons, writtenAll]
      by_cases nonneg : 0 ≤ value.copied
      · obtain ⟨data, written, length⟩ := written_some nonneg
        have later := ih (room - value.extent)
        rw [written, Option.bind_some]
        constructor
        · rintro ⟨all, isAll, fits⟩
          obtain ⟨more, isMore, rfl⟩ := Option.map_eq_some_iff.mp isAll
          rw [List.length_append] at fits
          obtain ⟨nonnegs, sum⟩ := later.mp ⟨more, isMore, by omega⟩
          exact ⟨⟨nonneg, nonnegs⟩, by omega⟩
        · rintro ⟨⟨-, nonnegs⟩, fits⟩
          obtain ⟨more, isMore, length⟩ := later.mpr ⟨nonnegs, by omega⟩
          refine ⟨data ++ more, by rw [isMore]; rfl, ?_⟩
          rw [List.length_append]
          omega
      · rw [written_eq_none nonneg]
        simp [nonneg]

/-- The puts of a message stay within it exactly when no size is negative and all
of them together have room. -/
theorem putAll_emptyMessage_isSome_iff (values : List Value) :
    (putAll values emptyMessage).isSome ↔
      (∀ value ∈ values, 0 ≤ value.copied) ∧ (values.map Value.extent).sum ≤ 1024 := by
  have length : emptyMessage.bytes.length = 1024 := List.length_replicate
  rw [← exists_writtenAll_iff, putAll_eq_write values (Nat.zero_le _)]
  cases writtenAll values with
  | none => simp
  | some data =>
      rw [Option.bind_some, write_isSome_iff, length]
      show 0 + data.length ≤ 1024 ↔ _
      simp only [Option.some.injEq, exists_eq_left']
      omega

theorem sum_extent_ints (values : List Int32) :
    ((values.map Value.int).map Value.extent).sum = 4 * values.length := by
  induction values with
  | nil => rfl
  | cons value rest ih =>
      rw [List.map_cons, List.map_cons, List.sum_cons, ih, List.length_cons]
      show 4 + 0 + 4 * (rest.length : Int) = _
      omega

theorem copied_ints (values : List Int32) :
    ∀ value ∈ values.map Value.int, 0 ≤ value.copied := by
  intro value isMem
  obtain ⟨int, -, rfl⟩ := List.mem_map.mp isMem
  exact Int.le_refl 0

/-- A message of ints. -/
theorem putInts_isSome {values : List Int32} (few : values.length ≤ 256) :
    (putAll (values.map Value.int) emptyMessage).isSome := by
  rw [putAll_emptyMessage_isSome_iff, sum_extent_ints]
  exact ⟨copied_ints values, by omega⟩

/-- A message of one value between ints. -/
theorem putBetween_isSome_iff (before after : List Int32) (value : Value) :
    (putAll (before.map Value.int ++ value :: after.map Value.int) emptyMessage).isSome ↔
      0 ≤ value.copied ∧ value.extent ≤ 1024 - 4 * (before.length + after.length) := by
  rw [putAll_emptyMessage_isSome_iff, List.map_append, List.map_cons, List.sum_append,
    List.sum_cons, sum_extent_ints, sum_extent_ints, List.forall_mem_append,
    List.forall_mem_cons]
  constructor
  · rintro ⟨⟨-, nonneg, -⟩, fits⟩
    exact ⟨nonneg, by omega⟩
  · rintro ⟨nonneg, fits⟩
    exact ⟨⟨copied_ints before, nonneg, copied_ints after⟩, by omega⟩

/-- A string between ints. -/
theorem putString_isSome_iff {before after : List Int32} {text : CString} {room : Int}
    (left : 1020 - 4 * (before.length + after.length) = room) :
    (putAll (before.map Value.int ++ .string text :: after.map Value.int) emptyMessage).isSome ↔
      text.AtMost room := by
  rw [putBetween_isSome_iff, CString.AtMost, IntAtMost]
  simp only [Value.copied, Value.extent]
  omega

/-- A raw struct between ints. -/
theorem putStruct_isSome_iff {before after : List Int32} {data : List UInt8} {room : Int}
    (left : 1024 - 4 * (before.length + after.length) = room) :
    (putAll (before.map Value.int ++ .struct data :: after.map Value.int) emptyMessage).isSome ↔
      IntAtMost data.length room := by
  rw [putBetween_isSome_iff, IntAtMost]
  simp only [Value.copied, Value.extent]
  omega

/-- Binary data between ints. -/
theorem putBinary_isSome_iff {before after : List Int32} {data : List UInt8} {room : Int}
    (left : 1020 - 4 * (before.length + after.length) = room) :
    (putAll (before.map Value.int ++ .binary data :: after.map Value.int) emptyMessage).isSome ↔
      IntAtMost data.length room := by
  rw [putBetween_isSome_iff, IntAtMost]
  simp only [Value.copied, Value.extent]
  omega

section Calls

variable (text : CString) (data : List UInt8) (a b c : Int32)

theorem agpsDataConnOpen_eq :
    agpsDataConnOpen text =
      putAll ([125].map Value.int ++ .string text :: [].map Value.int) emptyMessage := by
  simp [agpsDataConnOpen, putAll, Value.put]

theorem agpsDataConnOpenWithApnIpType_eq :
    agpsDataConnOpenWithApnIpType text a =
      putAll ([135].map Value.int ++ .string text :: [a].map Value.int) emptyMessage := by
  simp [agpsDataConnOpenWithApnIpType, putAll, Value.put]

theorem agpsSetServer_eq :
    agpsSetServer a text b =
      putAll ([132, a].map Value.int ++ .string text :: [b].map Value.int) emptyMessage := by
  simp [agpsSetServer, putAll, Value.put]

theorem agpsInstallCertificates_eq :
    agpsInstallCertificates data =
      putAll ([136, Int32.ofNat data.length].map Value.int ++ .struct data :: [].map Value.int)
        emptyMessage := by
  simp [agpsInstallCertificates, putAll, Value.put]

theorem agpsRevokeCertificates_eq :
    agpsRevokeCertificates data =
      putAll ([137, Int32.ofNat data.length].map Value.int ++ .struct data :: [].map Value.int)
        emptyMessage := by
  simp [agpsRevokeCertificates, putAll, Value.put]

theorem gpsNiRespond_eq : gpsNiRespond a b = putAll ([129, a, b].map Value.int) emptyMessage := by
  simp [gpsNiRespond, putAll, Value.put]

theorem agpsRilSetRefLocation_eq :
    agpsRilSetRefLocation data a =
      putAll ([130].map Value.int ++ .struct data :: [a].map Value.int) emptyMessage := by
  simp [agpsRilSetRefLocation, putAll, Value.put]

theorem agpsRilSetSetId_eq :
    agpsRilSetSetId a text =
      putAll ([131, a].map Value.int ++ .string text :: [].map Value.int) emptyMessage := by
  simp [agpsRilSetSetId, putAll, Value.put]

theorem agpsRilNiMessage_eq :
    agpsRilNiMessage data =
      putAll ([128].map Value.int ++ .binary data :: [].map Value.int) emptyMessage := by
  simp [agpsRilNiMessage, putAll, Value.put]

theorem agpsRilUpdateNetworkState_eq (extraInfo : Option CString) :
    agpsRilUpdateNetworkState a b c extraInfo =
      putAll ([133, a, b, c].map Value.int ++
        .string (extraInfo.getD emptyString) :: [].map Value.int) emptyMessage := by
  simp [agpsRilUpdateNetworkState, putAll, Value.put]

theorem agpsRilUpdateNetworkAvailability_eq (apn : Option CString) :
    agpsRilUpdateNetworkAvailability a apn =
      putAll ([134, a].map Value.int ++ .string (apn.getD emptyString) :: [].map Value.int)
        emptyMessage := by
  simp [agpsRilUpdateNetworkAvailability, putAll, Value.put]

/-- A single int. -/
theorem buffPutInt_isSome : (buffPutInt a emptyMessage).isSome := by
  have one : putAll ([a].map Value.int) emptyMessage = buffPutInt a emptyMessage := by
    simp [putAll, Value.put]
  rw [← one]
  exact putInts_isSome (by simp)

end Calls

/-- A null pointer is put as the empty string, which has room. -/
theorem getD_atMost_iff {text : Option CString} {room : Int} (positive : 1 ≤ room) :
    (text.getD emptyString).AtMost room ↔ ∀ given ∈ text, given.AtMost room := by
  cases text with
  | none =>
      constructor
      · rintro - given isGiven
        exact nomatch isGiven
      · rintro -
        exact ⟨by decide, positive⟩
  | some given => simp

/-- The puts of a call stay within its messages exactly when the call fits. -/
theorem messages_isSome_iff (nwConnected : Int32) (call : AgpsCall) :
    (call.messages nwConnected).isSome ↔ call.Fits := by
  cases call with
  | dataConnOpen apn =>
      rw [AgpsCall.messages, Option.isSome_map, agpsDataConnOpen_eq]
      exact putString_isSome_iff (by simp)
  | dataConnOpenWithApnIpType apn apnIpType =>
      rw [AgpsCall.messages, Option.isSome_map, agpsDataConnOpenWithApnIpType_eq]
      exact putString_isSome_iff (by simp)
  | dataConnClosed =>
      rw [AgpsCall.messages, Option.isSome_map]
      exact iff_of_true (buffPutInt_isSome 127) trivial
  | dataConnFailed =>
      rw [AgpsCall.messages, Option.isSome_map]
      exact iff_of_true (buffPutInt_isSome 126) trivial
  | setServer type hostname port =>
      rw [AgpsCall.messages, Option.isSome_map, agpsSetServer_eq]
      exact putString_isSome_iff (by simp)
  | installCertificates certificates =>
      rw [AgpsCall.messages, Option.isSome_map, agpsInstallCertificates_eq]
      exact putStruct_isSome_iff (by simp)
  | revokeCertificates fingerprints =>
      rw [AgpsCall.messages, Option.isSome_map, agpsRevokeCertificates_eq]
      exact putStruct_isSome_iff (by simp)
  | niRespond notifId userResponse =>
      rw [AgpsCall.messages, Option.isSome_map, gpsNiRespond_eq]
      exact iff_of_true (putInts_isSome (by simp)) trivial
  | setRefLocation agpsReflocation szStruct =>
      rw [AgpsCall.messages, Option.isSome_map, agpsRilSetRefLocation_eq]
      exact putStruct_isSome_iff (by simp)
  | setSetId type setid =>
      rw [AgpsCall.messages, Option.isSome_map, agpsRilSetSetId_eq]
      exact putString_isSome_iff (by simp)
  | niMessage msg =>
      rw [AgpsCall.messages, Option.isSome_map, agpsRilNiMessage_eq]
      exact putBinary_isSome_iff (by simp)
  | updateNetworkState connected type roaming extraInfo =>
      have state : (agpsRilUpdateNetworkState connected type roaming extraInfo).isSome ↔
          ∀ text ∈ extraInfo, text.AtMost 1004 := by
        rw [agpsRilUpdateNetworkState_eq, ← getD_atMost_iff (by decide)]
        exact putString_isSome_iff (by simp)
      rw [AgpsCall.Fits, ← state, AgpsCall.messages]
      obtain ⟨nlp, sent⟩ := Option.isSome_iff_exists.mp (buffPutInt_isSome 0x4a)
      rw [agpsNetworkConnectedWifiTraggerNlp, sent]
      cases agpsRilUpdateNetworkState connected type roaming extraInfo with
      | none => split <;> simp
      | some message => split <;> simp
  | updateNetworkAvailability avaiable apn =>
      rw [AgpsCall.messages, Option.isSome_map, agpsRilUpdateNetworkAvailability_eq,
        AgpsCall.Fits, ← getD_atMost_iff (by decide)]
      exact putString_isSome_iff (by simp)

end X3Hal.Gps
