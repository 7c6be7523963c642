import X3Hal.Transition.Loops
import X3Hal.Wpa.DriverCmd
import Mathlib.Data.Nat.Basic

/-!
# The bounds of the driver commands

Most handlers stay within the command, the buffer and their arrays whatever they get.  The others
take the buffer for something of a size that is not checked, trust the length of the command, or
look for a blank that need not be there.
-/

namespace X3Hal.Wpa

open X3Hal.Memory X3Hal.Transition
open X3Hal.Gps (wrap32)

/-! ## The conditions -/

/-- Bytes at an address lie within the buffer or within the command. -/
def Reaches (driver : Driver) (text buf : List UInt8) (address size : Nat) : Prop :=
  (driver.bufBase ≤ address ∧ address + size ≤ driver.bufBase + buf.length) ∨
    (driver.cmdBase ≤ address ∧ address + size ≤ driver.cmdBase + (text.length + 1))

/-- The buffer has the parameters of a WAPI key, which point to bytes of the call, and the key
fits into the message. -/
def WapiKeyFits (driver : Driver) (text buf : List UInt8) : Prop :=
  let addr := numberAt buf 0 8
  let seq := numberAt buf 16 8
  let seqLen := numberAt buf 24 8
  let key := numberAt buf 32 8
  let keyLen := numberAt buf 40 8
  48 ≤ buf.length ∧
    (seqLen ≤ 16 →
      (addr ≠ 0 → Reaches driver text buf addr 6) ∧
        (key ≠ 0 → keyLen ≠ 0 → Reaches driver text buf key keyLen ∧ keyLen ≤ 34) ∧
        (seq ≠ 0 → seqLen ≠ 0 → Reaches driver text buf seq seqLen))

/-- The buffer has a `wfd_data_s`, and its information element fits into the message. -/
def WfdDataFits (layout : WfdDataLayout) (buf : List UInt8) : Prop :=
  let ieLen := numberAt buf layout.sessionInformationIeLen.offset
    layout.sessionInformationIeLen.size
  let ie : WfdCopy := .bytes ⟨layout.sessionInformationIe.offset, ieLen⟩ 60
  ∀ copy ∈ wfdCopies layout ++ ie :: wfdCopiesAfter layout,
    copy.source.stop ≤ buf.length ∧ copy.stop ≤ wfdParamsSize

/-- What the kernel driver gets of a private command -/
def privateBuffer (text : List UInt8) : List UInt8 :=
  let copied := (text ++ [0]).take (privateLength text + 1).toNat
  copied ++ List.replicate (privCmdSize - copied.length) 0

/-- A private command: its length is not negative in 32 bits, and the answer to `WLS_BATCHING` is
a string. -/
def PrivateFits (driver : Driver) (text buf : List UInt8) : Prop :=
  -1 ≤ wrap32 text.length ∧
    (Comparison.strncasecmp.accepts (ascii "WLS_BATCHING") text →
      0 ≤ driver.privIoctl (privateBuffer text) → buf ≠ [])

/-- The private command that `MIRACAST` is -/
def miracastText (text : List UInt8) : List UInt8 :=
  if atoi (text.drop 9) % 256 = 2 ∧ (strstr (text ++ [0]) 0 (ascii " freq=")).join.isSome then
    ascii "MIRACAST 2"
  else text

/-- The tokens of a command fit into `argv`, and four of them are for a `wpa_supplicant`. -/
def TokensFit (driver : Driver) (text : List UInt8) : Prop :=
  tokenCount (wrap32 text.length) text ≤ argvSize ∧
    (tokenCount (wrap32 text.length) text = 4 → driver.wpaS.isSome)

/-- What a command needs. -/
def CommandFits (driver : Driver) (text buf : List UInt8) : DriverCommand → Prop
  | .getStaStatistics => (driver.hwaddrAton (text.drop 19)).isSome → driver.wpaS.isSome
  | .macaddr => driver.wpaS.isSome ∧ (driver.debug → buf ≠ [])
  | .country => text.length = 10 →
      driver.countryIoctl (ascii "COUNTRY " ++ text.drop 8) = 0 → driver.wpaS.isSome
  | .stop => driver.associated → driver.wpaS.isSome
  | .mtkAcs => buf ≠ []
  | .setWapiKey => WapiKeyFits driver text buf
  | .wapiMsgSend => 32 ≤ buf.length
  | .p2pGetCap => driver.wpaS.isSome ∧
      ((driver.wpaS.bind (·.p2p)).isSome →
        Comparison.strncmp.accepts (ascii "p2p_dev_capa") (text.drop 12) →
        driver.debug → buf ≠ [])
  | .p2pSetCap | .p2pUseMcc | .mcc | .p2pSetPowerSave => driver.wpaS.isSome
  | .miracast => (atoi (text.drop 9) % 256 ≤ 2 → driver.wpaS.isSome) ∧
      PrivateFits driver (miracastText text) buf
  | .wfdDataUpdate => driver.wpaS.isSome ∧ WfdDataFits driver.wfdData buf
  | .p2pSetOpps => 32 ∈ text.drop 13 ∧
      ((driver.hwaddrAton ((text.drop 13).drop ((text.drop 13).idxOf 32 + 1))).isSome →
        driver.wpaS.isSome)
  | .p2pSetSleep => (driver.hwaddrAton (text.drop 14)).isSome → driver.wpaS.isSome
  | .p2pSetSleepDefault => (driver.hwaddrAton sleepCmd.dropLast).isSome → driver.wpaS.isSome
  | .p2pSetNoa | .p2pSetPs => TokensFit driver text
  | .setsuspendmode => PrivateFits driver text buf
  | .transparent => (8 + text.length) % 2 ^ 32 ≤ 100 ∧ PrivateFits driver text buf
  | _ => True

/-! ## Messages -/

section Messages

variable {driver : Driver} {call : DriverCall}

theorem length_testModeInfo (index buflen : Nat) : (testModeInfo index buflen).length = 8 := by
  rw [testModeInfo, List.length_append, length_leBytes, length_leBytes]

theorem length_testModeMessage (index : Nat) (body : List UInt8) :
    (testModeMessage index body).length = 8 + body.length := by
  rw [testModeMessage, List.length_append, length_testModeInfo]

theorem sendTestmode_isSome_iff {array : List UInt8} {len : Nat} (long : 4 ≤ array.length) :
    (sendTestmode driver call array len).isSome ↔ len ≤ array.length := by
  rw [sendTestmode, load_bind_isSome_iff, number_bind_isSome_iff, Nat.zero_add, Nat.zero_add]
  exact and_iff_left ⟨long, rfl⟩

theorem sendTestmode_cases {array : List UInt8} {len : Nat} {sent : Int × DriverCall}
    (ran : sendTestmode driver call array len = some sent) :
    sent.2.cmd = call.cmd ∧ sent.2.buf = call.buf := by
  obtain ⟨message, _, rest⟩ := Option.bind_eq_some_iff.mp ran
  obtain ⟨_, _, made⟩ := Option.bind_eq_some_iff.mp rest
  cases made
  exact ⟨rfl, rfl⟩

/-- A structure is sent as a whole. -/
theorem sendMessage_eq {message : List UInt8} (long : 4 ≤ message.length) :
    sendMessage driver call message =
      some (driver.testmode message, call.emit (.testmode message)) := by
  rw [sendMessage, sendTestmode, load, if_pos (by omega), number_eq (by omega), List.drop_zero,
    List.take_length]
  rfl

theorem sendMessage_testModeMessage (index : Nat) (body : List UInt8) :
    sendMessage driver call (testModeMessage index body) =
      some (driver.testmode (testModeMessage index body),
        call.emit (.testmode (testModeMessage index body))) :=
  sendMessage_eq (by rw [length_testModeMessage]; omega)

@[simp]
theorem returns_isSome {ret : Int} : (call.returns ret).isSome :=
  rfl

end Messages

/-! ## Statistics, addresses and the country -/

section Answers

variable {driver : Driver} {text buf : List UInt8}

theorem cString_startCall (plain : 0 ∉ text) {offset : Nat} (inside : offset ≤ text.length) :
    cString (startCall text buf).cmd offset = some (text.drop offset) :=
  cString_text plain inside

theorem printLines_isSome {pos : Nat} (lines : List (List UInt8)) (inside : pos ≤ buf.length) :
    (printLines pos lines buf).isSome := by
  induction lines generalizing pos buf with
  | nil => rfl
  | cons line lines ih =>
      have room : pos + (buf.length - pos) ≤ buf.length := by omega
      obtain ⟨printed, isPrinted⟩ := Option.isSome_iff_exists.mp (snprintf_isSome line room)
      rw [printLines, isPrinted, some_bind_eq]
      have same := length_of_snprintf isPrinted
      split
      · rfl
      · exact ih (by omega)

/-- A line in the buffer, which is logged as a string -/
theorem printed_isSome_iff (line : List UInt8) {α : Type} {next : List UInt8 → Option α}
    (follows : ∀ printed, (next printed).isSome) :
    (do
      let printed ← snprintf buf 0 buf.length line
      let _ ← debugString driver printed
      next printed).isSome ↔ (driver.debug → buf ≠ []) := by
  obtain ⟨printed, isPrinted⟩ := Option.isSome_iff_exists.mp
    (snprintf_isSome line (show 0 + buf.length ≤ buf.length by omega))
  rw [isPrinted, some_bind_eq, debugString]
  by_cases debug : driver.debug
  · rw [if_pos debug, imp_iff_right debug, cString_bind_isSome_iff, and_iff_left (follows printed)]
    cases buf with
    | nil =>
        cases isPrinted
        simp
    | cons byte buf =>
        have ends := nul_mem_of_snprintf (by simp) isPrinted
        exact iff_of_true ends nofun
  · rw [if_neg debug]
    exact iff_of_true (follows printed) fun isDebug => absurd isDebug debug

theorem getStaStatistics_isSome_iff (plain : 0 ∉ text) (long : 19 ≤ text.length) :
    (getStaStatistics driver (startCall text buf)).isSome ↔
      ((driver.hwaddrAton (text.drop 19)).isSome → driver.wpaS.isSome) := by
  rw [getStaStatistics, cString_startCall plain long, some_bind_eq]
  cases driver.hwaddrAton (text.drop 19) with
  | none => exact iff_of_true rfl nofun
  | some staAddr =>
      rw [imp_iff_right Option.isSome_some]
      cases driver.wpaS with
      | none => exact iff_of_false nofun nofun
      | some wpaS =>
          refine iff_of_true ?_ rfl
          dsimp only
          rw [some_bind_eq, sendMessage_testModeMessage, some_bind_eq]
          dsimp only
          split
          · rfl
          · have printed : (printLines 0 wpaS.statistics (startCall text buf).buf).isSome :=
              printLines_isSome wpaS.statistics (Nat.zero_le _)
            exact bind_isSome printed fun _ _ => rfl

theorem macaddr_isSome_iff :
    (macaddr driver (startCall text buf)).isSome ↔
      driver.wpaS.isSome ∧ (driver.debug → buf ≠ []) := by
  rw [macaddr]
  cases driver.wpaS with
  | none => exact iff_of_false nofun nofun
  | some wpaS =>
      rw [some_bind_eq, and_iff_right Option.isSome_some]
      exact printed_isSome_iff _ fun _ => rfl

theorem setCountry_eq (alpha2 : List UInt8) (two : alpha2.length = 2) (plain : 0 ∉ alpha2) :
    setCountry driver alpha2 = some (driver.countryIoctl (ascii "COUNTRY " ++ alpha2)) := by
  have word : (ascii "COUNTRY ").length = 8 := by decide
  have whole : (ascii "COUNTRY " ++ alpha2).length = 10 := by
    rw [List.length_append, word, two]
  have noNul : 0 ∉ ascii "COUNTRY " ++ alpha2 := by
    rw [List.mem_append, not_or]
    exact ⟨by decide, plain⟩
  rw [setCountry, snprintf, if_neg (by decide), List.take_of_length_le (by omega),
    store_whole (by rw [List.length_append, whole]; rfl), some_bind_eq,
    cString_text noNul (Nat.zero_le _)]
  rfl

theorem country_isSome_iff (plain : 0 ∉ text) :
    (country driver (startCall text buf)).isSome ↔
      (text.length = 10 → driver.countryIoctl (ascii "COUNTRY " ++ text.drop 8) = 0 →
        driver.wpaS.isSome) := by
  rw [country, cString_startCall plain (Nat.zero_le _), some_bind_eq, List.drop_zero]
  by_cases ten : text.length = 10
  swap
  · rw [if_pos ten]
    exact iff_of_true rfl fun isTen => absurd isTen ten
  rw [if_neg (not_not.mpr ten), imp_iff_right ten, cString_startCall plain (by omega),
    some_bind_eq, setCountry_eq _ (by rw [List.length_drop]; omega)
      fun occurs => plain (List.mem_of_mem_drop occurs), some_bind_eq]
  by_cases done : driver.countryIoctl (ascii "COUNTRY " ++ text.drop 8) = 0
  swap
  · rw [if_neg done]
    exact iff_of_true rfl fun isDone => absurd isDone done
  rw [if_pos done, imp_iff_right done]
  cases driver.wpaS with
  | none => exact iff_of_false nofun nofun
  | some wpaS =>
      refine iff_of_true ?_ rfl
      have notified : (notifyCountryChange (startCall text buf)).isSome := by
        rw [notifyCountryChange, cString_startCall plain (Nat.zero_le _), some_bind_eq]
        split
        · rw [load_bind_isSome_iff]
          refine ⟨?_, rfl⟩
          simp only [startCall, List.length_append, List.length_singleton]
          omega
        · rfl
      rw [some_bind_eq]
      exact bind_isSome notified fun _ _ => rfl

theorem stop_isSome_iff :
    (stop driver (startCall text buf)).isSome ↔ (driver.associated → driver.wpaS.isSome) := by
  rw [stop]
  by_cases associated : driver.associated
  · rw [if_pos associated, imp_iff_right associated]
    cases driver.wpaS with
    | none => exact iff_of_false nofun nofun
    | some wpaS => exact iff_of_true rfl rfl
  · rw [if_neg associated]
    exact iff_of_true rfl fun isAssociated => absurd isAssociated associated

end Answers

/-! ## Filters, hotspot clients and channels -/

section Filters

variable {driver : Driver} {call : DriverCall} {text buf : List UInt8}

theorem rxfilterSwitch_isSome (idx : Nat) : (rxfilterSwitch driver call idx).isSome := by
  rw [rxfilterSwitch, driverSwCmd, sendMessage_testModeMessage]
  rfl

theorem rxfilter_isSome (plain : 0 ∉ text) {offset : Nat} (long : offset ≤ text.length)
    (base : Nat) : (rxfilter driver (startCall text buf) offset base).isSome := by
  rw [rxfilter, cString_startCall plain long, some_bind_eq]
  dsimp only
  split
  · rw [driverSwCmd, sendMessage_testModeMessage]
    rfl
  · rfl

theorem staBlock_isSome (plain : 0 ∉ text) {offset : Nat} (long : offset ≤ text.length)
    (blocked : UInt8) : (staBlock driver (startCall text buf) offset blocked).isSome := by
  rw [staBlock, cString_startCall plain long, some_bind_eq]
  cases driver.hwaddrAton (text.drop offset) with
  | none => rfl
  | some bssid =>
      dsimp only
      rw [sendMessage_testModeMessage]
      rfl

theorem setMaxClient_isSome (plain : 0 ∉ text) (long : 15 ≤ text.length) :
    (setMaxClient driver (startCall text buf)).isSome := by
  rw [setMaxClient, cString_startCall plain long, some_bind_eq, sendMessage_testModeMessage]
  rfl

/-- A channel takes one place of `ch` at most. -/
theorem listChannels_isSome (channels : Nat) (rounds : List Nat) {ch : List UInt8} {num : Nat}
    (size : ch.length = 14) (room : num + rounds.length ≤ 14) :
    ∃ final, rounds.foldlM (listChannel channels) (ch, num) = some final ∧
      final.1.length = 14 := by
  induction rounds generalizing ch num with
  | nil => exact ⟨(ch, num), rfl, size⟩
  | cons i rounds ih =>
      rw [List.length_cons] at room
      rw [List.foldlM_cons, listChannel]
      split
      · obtain ⟨stored, isStored⟩ := exists_store
          (show num + [UInt8.ofNat (i + 1)].length ≤ ch.length by
            rw [List.length_singleton, size]
            omega)
        rw [isStored]
        exact ih ((length_of_store isStored).trans size) (by omega)
      · exact ih size (by omega)

theorem doMtkAcs_cases (tries : Nat) (call : DriverCall) :
    ∃ ch after, doMtkAcs driver tries call = some (ch, after) ∧ ch.length = 1 ∧
      after.buf = call.buf := by
  induction tries generalizing call with
  | zero => exact ⟨[0], call, rfl, rfl, rfl⟩
  | succ tries ih =>
      rw [doMtkAcs, sendMessage_testModeMessage, some_bind_eq]
      dsimp only
      split
      · have empty : (List.replicate 14 (0 : UInt8)).length = 14 := List.length_replicate
        obtain ⟨⟨ch, num⟩, listed, size⟩ :=
          listChannels_isSome (driver.channels2g tries) (List.range 14) empty (Nat.le_refl 14)
        rw [listed, some_bind_eq, load, if_pos (by rw [size]; decide)]
        refine ⟨_, _, rfl, ?_, rfl⟩
        rw [List.length_take, List.drop_zero, size]
        rfl
      · exact ih _

theorem mtkAcs_isSome_iff : (mtkAcs driver (startCall text buf)).isSome ↔ buf ≠ [] := by
  obtain ⟨ch, after, ran, one, same⟩ := doMtkAcs_cases 6 (startCall text buf)
  rw [mtkAcs, ran, some_bind_eq]
  dsimp only
  rw [store_bind_isSome_iff True fun _ _ => iff_of_true rfl trivial, same, one, and_true]
  exact Nat.succ_le_iff.trans List.length_pos_iff

end Filters

/-! ## WAPI -/

section Wapi

variable {driver : Driver} {text buf : List UInt8} {address size : Nat}

theorem readAt_isSome_iff :
    (readAt driver (startCall text buf) address size).isSome ↔
      Reaches driver text buf address size := by
  have command : (startCall text buf).cmd.length = text.length + 1 := List.length_append
  have buffer : (startCall text buf).buf = buf := rfl
  rw [readAt, Reaches, buffer]
  split
  case isTrue inside =>
    exact iff_of_true (load_isSome_iff.mpr (by omega)) (Or.inl inside)
  case isFalse outside =>
    rw [or_iff_right outside]
    split
    · rw [load_isSome_iff, command]
      omega
    case isFalse below => exact iff_of_false nofun fun within => below within.1

theorem length_of_readAt {bytes : List UInt8}
    (read : readAt driver (startCall text buf) address size = some bytes) :
    bytes.length = size := by
  rw [readAt] at read
  split at read
  · exact length_of_load read
  split at read
  · exact length_of_load read
  · cases read

theorem copyAt_isSome_iff {params : List UInt8} {offset : Nat} :
    (copyAt driver (startCall text buf) address size params offset).isSome ↔
      (address ≠ 0 → size ≠ 0 →
        Reaches driver text buf address size ∧ offset + size ≤ params.length) := by
  rw [copyAt]
  by_cases copies : address ≠ 0 ∧ size ≠ 0
  · rw [if_pos copies, imp_iff_right copies.1, imp_iff_right copies.2]
    apply bind_isSome_iff readAt_isSome_iff
    intro bytes read
    rw [store_isSome_iff, length_of_readAt read]
  · rw [if_neg copies]
    exact iff_of_true rfl fun some more => absurd ⟨some, more⟩ copies

theorem length_of_copyAt {params copied : List UInt8} {offset : Nat}
    (ran : copyAt driver (startCall text buf) address size params offset = some copied) :
    copied.length = params.length := by
  rw [copyAt] at ran
  split at ran
  · obtain ⟨bytes, _, stored⟩ := Option.bind_eq_some_iff.mp ran
    exact length_of_store stored
  · cases ran
    rfl

theorem keyAddr_isSome_iff :
    (keyAddr driver (startCall text buf) address).isSome ↔
      (address ≠ 0 → Reaches driver text buf address 6) := by
  rw [keyAddr]
  by_cases group : address = 0
  · rw [if_pos group]
    exact iff_of_true rfl fun known => absurd group known
  · rw [if_neg group, imp_iff_right group, readAt_isSome_iff]

theorem length_of_keyAddr {bytes : List UInt8}
    (read : keyAddr driver (startCall text buf) address = some bytes) : bytes.length = 6 := by
  rw [keyAddr] at read
  split at read
  · cases read
    rfl
  · exact length_of_readAt read

theorem length_wapiKeyParams {keyIdx keyLen extKeyLen flags : Nat} {addr : List UInt8}
    (six : addr.length = 6) :
    (wapiKeyParams keyIdx keyLen extKeyLen flags addr).length = 76 := by
  rw [wapiKeyParams, length_testModeMessage]
  simp only [List.length_append, List.length_cons, List.length_nil, length_leBytes,
    List.length_replicate, six]

theorem setWapiKey_isSome_iff :
    (setWapiKey driver (startCall text buf)).isSome ↔ WapiKeyFits driver text buf := by
  have buffer : (startCall text buf).buf = buf := rfl
  rw [setWapiKey, WapiKeyFits, buffer, number_bind_isSome_iff, number_bind_isSome_iff,
    number_bind_isSome_iff, number_bind_isSome_iff, number_bind_isSome_iff,
    number_bind_isSome_iff, number_bind_isSome_iff]
  by_cases whole : 48 ≤ buf.length
  swap
  · exact iff_of_false (fun reads => whole reads.2.2.2.2.2.2.1) fun fits => whole fits.1
  rw [and_iff_right (by omega), and_iff_right (by omega), and_iff_right (by omega),
    and_iff_right (by omega), and_iff_right (by omega), and_iff_right (by omega),
    and_iff_right (by omega), and_iff_right whole]
  generalize numberAt buf 24 8 = seqLen
  by_cases long : 16 < seqLen
  · rw [if_pos long]
    exact iff_of_true rfl fun short => absurd short (Nat.not_le.mpr long)
  rw [if_neg long, imp_iff_right (Nat.not_lt.mp long)]
  apply bind_isSome_iff keyAddr_isSome_iff
  intro addrBytes isAddr
  have size : ∀ keyIdx keyLen extKeyLen flags,
      (wapiKeyParams keyIdx keyLen extKeyLen flags addrBytes).length = 76 := fun _ _ _ _ =>
    length_wapiKeyParams (length_of_keyAddr isAddr)
  dsimp only
  refine bind_isSome_iff ?_ fun keyed isKeyed => ?_
  · rw [copyAt_isSome_iff, size]
    have fits (keyLen : Nat) : 42 + keyLen ≤ 76 ↔ keyLen ≤ 34 := by omega
    rw [fits]
  have sizeKeyed : keyed.length = 76 := (length_of_copyAt isKeyed).trans (size _ _ _ _)
  refine (bind_isSome_iff ?_ fun params isParams => ?_).trans (and_true _).to_iff
  · rw [copyAt_isSome_iff, sizeKeyed]
    have fits : 16 + seqLen ≤ 76 := by omega
    rw [and_iff_left fits]
  have sizeParams : params.length = 76 := (length_of_copyAt isParams).trans sizeKeyed
  rw [sendMessage_eq (by omega)]
  exact iff_of_true rfl trivial

theorem wapiMsgSend_isSome_iff :
    (wapiMsgSend (startCall text buf)).isSome ↔ 32 ≤ buf.length := by
  have buffer : (startCall text buf).buf = buf := rfl
  rw [wapiMsgSend, buffer, number_bind_isSome_iff, number_bind_isSome_iff,
    number_bind_isSome_iff, number_bind_isSome_iff, and_iff_left returns_isSome]
  omega

end Wapi

/-! ## P2P and Wi-Fi display -/

section Display

variable {driver : Driver} {call : DriverCall} {text buf params : List UInt8}

theorem p2pGetCap_isSome_iff (plain : 0 ∉ text) (long : 12 ≤ text.length) :
    (p2pGetCap driver (startCall text buf)).isSome ↔
      driver.wpaS.isSome ∧
        ((driver.wpaS.bind (·.p2p)).isSome →
          Comparison.strncmp.accepts (ascii "p2p_dev_capa") (text.drop 12) →
          driver.debug → buf ≠ []) := by
  rw [p2pGetCap]
  cases driver.wpaS with
  | none => exact iff_of_false nofun nofun
  | some wpaS =>
      rw [some_bind_eq, and_iff_right Option.isSome_some, Option.bind_some]
      dsimp only
      cases wpaS.p2p with
      | none => exact iff_of_true rfl nofun
      | some devCapab =>
          dsimp only
          rw [imp_iff_right Option.isSome_some, cString_startCall plain long, some_bind_eq]
          by_cases device : Comparison.strncmp.accepts (ascii "p2p_dev_capa") (text.drop 12)
          · rw [if_pos device, imp_iff_right device]
            exact printed_isSome_iff _ fun _ => rfl
          · rw [if_neg device]
            exact iff_of_true rfl fun isDevice => absurd isDevice device

theorem length_le_of_accepts {comparison : Comparison} {word : List UInt8}
    (accepted : comparison.accepts word text) : word.length ≤ text.length := by
  cases comparison with
  | strncasecmp => simpa using (List.isPrefixOf_iff_prefix.mp accepted).length_le
  | strncmp => exact (List.isPrefixOf_iff_prefix.mp accepted).length_le
  | strcasecmp =>
      have same := congrArg List.length (of_decide_eq_true accepted)
      rw [List.length_map, List.length_map] at same
      exact same.symm.le

theorem p2pSetCap_isSome_iff (plain : 0 ∉ text) (long : 12 ≤ text.length) :
    (p2pSetCap driver (startCall text buf)).isSome ↔ driver.wpaS.isSome := by
  rw [p2pSetCap]
  cases driver.wpaS with
  | none => exact iff_of_false nofun nofun
  | some wpaS =>
      refine iff_of_true ?_ rfl
      rw [some_bind_eq]
      cases wpaS.p2p with
      | none => rfl
      | some devCapab =>
          dsimp only
          rw [cString_startCall plain long, some_bind_eq]
          split
          case isTrue device =>
            have word : (ascii "p2p_dev_capa ").length = 13 := by decide
            have longer := length_le_of_accepts device
            rw [word, List.length_drop] at longer
            rw [cString_startCall plain (by omega)]
            rfl
          case isFalse => rfl

theorem p2pUseMcc_isSome_iff (plain : 0 ∉ text) (long : 12 ≤ text.length) :
    (p2pUseMcc driver (startCall text buf)).isSome ↔ driver.wpaS.isSome := by
  rw [p2pUseMcc, cString_startCall plain long, some_bind_eq]
  cases driver.wpaS with
  | none => exact iff_of_false nofun nofun
  | some wpaS => exact iff_of_true rfl rfl

theorem wfdCopy_isSome_iff {copy : WfdCopy} :
    (wfdCopy buf params copy).isSome ↔
      copy.source.stop ≤ buf.length ∧ copy.stop ≤ params.length := by
  cases copy with
  | number source offset size =>
      rw [wfdCopy, number_bind_isSome_iff, store_isSome_iff, length_leBytes]
      rfl
  | bytes source offset =>
      rw [wfdCopy, load_bind_isSome_iff, store_isSome_iff, List.length_take, List.length_drop]
      apply and_congr_right
      intro inside
      rw [WfdCopy.stop, Nat.min_eq_left (by omega)]

theorem length_of_wfdCopy {copy : WfdCopy} {next : List UInt8}
    (ran : wfdCopy buf params copy = some next) : next.length = params.length := by
  cases copy with
  | number source offset size =>
      obtain ⟨_, _, stored⟩ := Option.bind_eq_some_iff.mp ran
      exact length_of_store stored
  | bytes source offset =>
      obtain ⟨_, _, stored⟩ := Option.bind_eq_some_iff.mp ran
      exact length_of_store stored

/-- Some members, into a message of the size of `wpa_driver_wfd_data_s` -/
theorem wfdCopies_isSome_iff (copies : List WfdCopy) (size : params.length = wfdParamsSize) :
    (copies.foldlM (wfdCopy buf) params).isSome ↔
      ∀ copy ∈ copies, copy.source.stop ≤ buf.length ∧ copy.stop ≤ wfdParamsSize := by
  apply foldlM_isSome_iff_forall fun params : List UInt8 => params.length = wfdParamsSize
  · intro params copy _ size
    rw [wfdCopy_isSome_iff, size]
  · intro params copy _ next size ran
    exact (length_of_wfdCopy ran).trans size
  · exact size

theorem length_of_wfdCopies {copies : List WfdCopy} {next : List UInt8}
    (size : params.length = wfdParamsSize)
    (ran : copies.foldlM (wfdCopy buf) params = some next) : next.length = wfdParamsSize := by
  refine keeps_of_foldlM (fun params : List UInt8 => params.length = wfdParamsSize) ?_ size ran
  intro params copy _ next size ran
  exact (length_of_wfdCopy ran).trans size

theorem wfdDataUpdate_isSome_iff :
    (wfdDataUpdate driver (startCall text buf)).isSome ↔
      driver.wpaS.isSome ∧ WfdDataFits driver.wfdData buf := by
  have buffer : (startCall text buf).buf = buf := rfl
  rw [wfdDataUpdate, WfdDataFits, buffer]
  cases driver.wpaS with
  | none => exact iff_of_false nofun nofun
  | some wpaS =>
      rw [some_bind_eq, and_iff_right Option.isSome_some]
      dsimp only
      have size : (testModeInfo 2 driver.wfdData.size ++
          List.replicate (wfdParamsSize - 8) 0).length = wfdParamsSize := by
        rw [List.length_append, length_testModeInfo, List.length_replicate]
        rfl
      rw [List.forall_mem_append, List.forall_mem_cons]
      apply bind_isSome_iff (wfdCopies_isSome_iff _ size)
      intro copied isCopied
      have sizeCopied := length_of_wfdCopies size isCopied
      have fit : ∀ copy ∈ wfdCopies driver.wfdData,
          copy.source.stop ≤ buf.length ∧ copy.stop ≤ wfdParamsSize :=
        (wfdCopies_isSome_iff _ size).mp (Option.isSome_iff_exists.mpr ⟨copied, isCopied⟩)
      have inside : driver.wfdData.sessionInformationIeLen.stop ≤ buf.length :=
        (fit (.number driver.wfdData.sessionInformationIeLen 252 2) (by simp [wfdCopies])).1
      rw [number_eq inside, some_bind_eq]
      apply bind_isSome_iff
      · rw [wfdCopy_isSome_iff, sizeCopied]
      intro named isNamed
      have sizeNamed := (length_of_wfdCopy isNamed).trans sizeCopied
      refine (bind_isSome_iff (wfdCopies_isSome_iff _ sizeNamed) ?_).trans (and_true _).to_iff
      intro message isMessage
      have sizeMessage : message.length = 464 := length_of_wfdCopies sizeNamed isMessage
      rw [sendMessage_eq (by omega)]
      exact iff_of_true rfl trivial

end Display

/-! ## P2P for the certification -/

section Sigma

variable {driver : Driver} {call : DriverCall} {text buf : List UInt8}

/-- A message of the `wpa_supplicant` -/
theorem supplicantMessage_isSome_iff {index : Nat} {body : List UInt8} {α : Type}
    {next : Int × DriverCall → Option α} (follows : ∀ sent, (next sent).isSome) :
    (do
      let _ ← driver.wpaS
      let sent ← sendMessage driver call (testModeMessage index body)
      next sent).isSome ↔ driver.wpaS.isSome := by
  cases driver.wpaS with
  | none => exact iff_of_false nofun nofun
  | some wpaS =>
      rw [some_bind_eq, sendMessage_testModeMessage, some_bind_eq]
      exact iff_of_true (follows _) rfl

theorem sigmaTestMode_bind_isSome_iff {index : Nat} {value : Int} {α : Type}
    {next : Int × DriverCall → Option α} (follows : ∀ sent, (next sent).isSome) :
    (sigmaTestMode driver call index value >>= next).isSome ↔ driver.wpaS.isSome := by
  rw [sigmaTestMode, bind_assoc]
  exact supplicantMessage_isSome_iff follows

theorem valueBehind_isSome (text buf : List UInt8) :
    (valueBehind (startCall text buf)).isSome := by
  have terminated : Terminated (startCall text buf).cmd := terminated_text text
  apply bind_isSome (strchr_isSome terminated terminated.pos 32)
  intro value found
  cases value with
  | none => rfl
  | some blank =>
      have inside := (lt_of_strchr found).2
      dsimp only
      rw [store_nul_eq (by omega), some_bind_eq,
        (terminated.set blank).cString_eq (by rw [List.length_set]; exact inside)]
      rfl

theorem sigmaMode_isSome (text buf : List UInt8) : (sigmaMode (startCall text buf)).isSome := by
  apply bind_isSome (valueBehind_isSome text buf)
  intro value _
  cases value <;> rfl

theorem mcc_isSome_iff : (mcc driver (startCall text buf)).isSome ↔ driver.wpaS.isSome := by
  rw [mcc]
  cases driver.wpaS with
  | none => exact iff_of_false nofun nofun
  | some wpaS =>
      refine iff_of_true ?_ rfl
      rw [some_bind_eq]
      split
      · exact sigmaMode_isSome text buf
      · rfl

theorem p2pSetPowerSave_isSome_iff (plain : 0 ∉ text) (long : 19 ≤ text.length) :
    (p2pSetPowerSave driver (startCall text buf)).isSome ↔ driver.wpaS.isSome := by
  rw [p2pSetPowerSave, cString_startCall plain long, some_bind_eq]
  exact sigmaTestMode_bind_isSome_iff fun _ => rfl

/-- A blank, a string behind it that is parsed for a log line, and a message -/
theorem parsed_isSome_iff {offset blank index : Nat} {value : Int}
    (terminated : Terminated call.cmd)
    (found : strchr call.cmd offset 32 = some (some blank)) :
    (do
      let cmd ← store call.cmd blank [0]
      let _ ← cString cmd (blank + 1)
      let (_, call) ← sigmaTestMode driver { call with cmd := cmd } index value
      call.returns 0).isSome ↔ driver.wpaS.isSome := by
  have inside := (lt_of_strchr found).2
  rw [store_nul_eq (by omega), some_bind_eq,
    (terminated.set blank).cString_eq (by rw [List.length_set]; exact inside), some_bind_eq]
  exact sigmaTestMode_bind_isSome_iff fun _ => rfl

theorem p2pSetOppsFrom_isSome_iff {offset : Nat} {ctWin : Int}
    (terminated : Terminated call.cmd) (inside : offset < call.cmd.length) :
    (p2pSetOppsFrom driver call ctWin (some offset)).isSome ↔ driver.wpaS.isSome := by
  rw [p2pSetOppsFrom, strchrFrom]
  obtain ⟨second, found⟩ := Option.isSome_iff_exists.mp (strchr_isSome terminated inside 32)
  rw [found, some_bind_eq]
  cases second with
  | none => exact sigmaTestMode_bind_isSome_iff fun _ => rfl
  | some blank => exact parsed_isSome_iff terminated found

/-- The first blank behind a word -/
theorem strchr_startCall (plain : 0 ∉ text) {offset : Nat} (inside : offset ≤ text.length)
    (byte : UInt8) :
    strchr (startCall text buf).cmd offset byte =
      some (if byte ∈ text.drop offset then some (offset + (text.drop offset).idxOf byte)
        else none) := by
  rw [strchr, cString_startCall plain inside]
  rfl

theorem p2pSetOpps_isSome_iff (plain : 0 ∉ text) (long : 13 ≤ text.length) :
    (p2pSetOpps driver (startCall text buf)).isSome ↔
      32 ∈ text.drop 13 ∧
        ((driver.hwaddrAton ((text.drop 13).drop ((text.drop 13).idxOf 32 + 1))).isSome →
          driver.wpaS.isSome) := by
  rw [p2pSetOpps, cString_startCall plain long, some_bind_eq, strchr_startCall plain long,
    some_bind_eq]
  by_cases blanks : 32 ∈ text.drop 13
  swap
  · rw [if_neg blanks]
    exact iff_of_false nofun fun fits => blanks fits.1
  have index := List.idxOf_lt_length_of_mem blanks
  rw [if_pos blanks, and_iff_right blanks, List.drop_drop]
  rw [List.length_drop] at index
  generalize (text.drop 13).idxOf 32 = place at index
  have size : (startCall text buf).cmd.length = text.length + 1 := List.length_append
  have terminated : Terminated (startCall text buf).cmd := terminated_text text
  have behind : 13 + (place + 1) = 13 + place + 1 := rfl
  dsimp only
  rw [store_nul_eq (by omega), some_bind_eq, cString_set (Nat.lt_succ_self _),
    cString_startCall plain (by omega), some_bind_eq, behind]
  cases driver.hwaddrAton (text.drop (13 + place + 1)) with
  | none => exact iff_of_true rfl nofun
  | some addr =>
      rw [imp_iff_right Option.isSome_some]
      apply p2pSetOppsFrom_isSome_iff (terminated.set _)
      rw [List.length_set]
      omega

theorem p2pSetSleep_isSome_iff {offset : Nat} {sleep : List UInt8}
    (terminated : Terminated call.cmd) (read : cString call.cmd offset = some sleep) :
    (p2pSetSleep driver call offset).isSome ↔
      ((driver.hwaddrAton sleep).isSome → driver.wpaS.isSome) := by
  have inside := lt_of_cString read
  rw [p2pSetSleep, read, some_bind_eq]
  cases driver.hwaddrAton sleep with
  | none => exact iff_of_true rfl nofun
  | some addr =>
      rw [imp_iff_right Option.isSome_some]
      obtain ⟨str, found⟩ := Option.isSome_iff_exists.mp
        (strchr_isSome terminated (by omega : offset < call.cmd.length) 32)
      dsimp only
      rw [found, some_bind_eq]
      cases str with
      | none => exact sigmaTestMode_bind_isSome_iff fun _ => rfl
      | some blank => exact parsed_isSome_iff terminated found

theorem p2pSetSleepDefault_isSome_iff :
    (p2pSetSleepDefault driver call).isSome ↔
      ((driver.hwaddrAton sleepCmd.dropLast).isSome → driver.wpaS.isSome) := by
  have terminated : Terminated sleepCmd := terminated_text _
  have read : cString sleepCmd 0 = some sleepCmd.dropLast := by decide
  have sleeps : (p2pSetSleep driver { call with cmd := sleepCmd } 0).isSome ↔
      ((driver.hwaddrAton sleepCmd.dropLast).isSome → driver.wpaS.isSome) :=
    p2pSetSleep_isSome_iff terminated read
  exact (bind_isSome_iff sleeps fun _ _ => iff_of_true rfl trivial).trans (and_true _).to_iff

end Sigma

/-! ## Tokens, filters and private commands -/

section Tokens

variable {driver : Driver} {call : DriverCall} {text buf : List UInt8}

theorem fourTokens_cases (plain : 0 ∉ text) (buf : List UInt8) :
    if tokenCount (wrap32 text.length) text ≤ argvSize then
      ∃ after arguments, fourTokens (startCall text buf) = some (after, arguments) ∧
        (arguments.isSome ↔ tokenCount (wrap32 text.length) text = 4)
    else fourTokens (startCall text buf) = none := by
  have spec := tokenizeSpace_spec argvSize (wrap32 text.length) plain
  rw [fourTokens, cString_startCall plain (Nat.zero_le _), some_bind_eq, List.drop_zero]
  have command : (startCall text buf).cmd = text ++ [0] := rfl
  rw [command]
  split at spec
  case isFalse full =>
    rw [if_neg full, spec]
    rfl
  case isTrue fits =>
    obtain ⟨⟨cmd, argv⟩, ran, tokenized⟩ := spec
    have count : argv.length = tokenCount (wrap32 text.length) text := tokenized.argc
    rw [if_pos fits, ran, some_bind_eq, ← count]
    dsimp only
    by_cases four : argv.length = 4
    · rw [if_neg (not_not.mpr four)]
      have reads : ((argv.drop 1).mapM (cString cmd)).isSome := by
        rw [mapM_isSome_iff]
        intro place occurs
        have inside := tokenized.inside place (List.mem_of_mem_drop occurs)
        rw [tokenized.terminated.cString_eq (by rw [tokenized.size]; exact inside)]
        rfl
      obtain ⟨texts, read⟩ := Option.isSome_iff_exists.mp reads
      rw [read]
      exact ⟨_, _, rfl, iff_of_true rfl four⟩
    · rw [if_pos four]
      exact ⟨_, _, rfl, iff_of_false nofun four⟩

/-- The tokens of a command, and a message when there are four -/
theorem fourTokens_bind_isSome_iff (plain : 0 ∉ text) {α : Type}
    {next : DriverCall × Option (List Int) → Option α}
    (without : ∀ after, (next (after, none)).isSome)
    (with4 : ∀ after values, (next (after, some values)).isSome ↔ driver.wpaS.isSome) :
    (fourTokens (startCall text buf) >>= next).isSome ↔ TokensFit driver text := by
  have spec := fourTokens_cases plain buf
  rw [TokensFit]
  split at spec
  case isFalse full =>
    rw [spec]
    exact iff_of_false nofun fun fits => full fits.1
  case isTrue fits =>
    obtain ⟨after, arguments, ran, four⟩ := spec
    rw [ran, some_bind_eq, and_iff_right fits, ← four]
    cases arguments with
    | none => exact iff_of_true (without after) nofun
    | some values => exact (with4 after values).trans (imp_iff_right Option.isSome_some).symm

theorem p2pSetNoa_isSome_iff (plain : 0 ∉ text) :
    (p2pSetNoa driver (startCall text buf)).isSome ↔ TokensFit driver text := by
  apply fourTokens_bind_isSome_iff plain
  · exact fun _ => rfl
  · exact fun _ _ => supplicantMessage_isSome_iff fun _ => rfl

theorem p2pSetPs_isSome_iff (plain : 0 ∉ text) :
    (p2pSetPs driver (startCall text buf)).isSome ↔ TokensFit driver text := by
  apply fourTokens_bind_isSome_iff plain
  · exact fun _ => rfl
  · exact fun _ _ => supplicantMessage_isSome_iff fun _ => rfl

theorem filterText_isSome {cmd : List UInt8} {pos : Nat} (inside : pos + 8 ≤ cmd.length) :
    (filterText cmd pos).isSome := by
  apply bind_isSome (load_isSome_iff.mpr inside)
  intro digits loaded
  have eight := length_of_load loaded
  have room : 0 + digits.length ≤ (List.replicate 9 (0 : UInt8)).length := by
    rw [eight]
    decide
  obtain ⟨stored, isStored⟩ := exists_store room
  have nine : stored.length = 9 := (length_of_store isStored).trans List.length_replicate
  have ends : 0 ∈ (stored.set 8 0).drop 0 := List.mem_set (by omega) 0
  rw [isStored, some_bind_eq, store_nul_eq (by omega), some_bind_eq, cString, if_pos ends]
  rfl

/-- The six words of a filter are in a text of its length. -/
theorem filterWords_isSome {read : Nat → Option Int} (isLong : ¬ text.length ≠ 71)
    (reads : ∀ pos, pos + 8 ≤ (startCall text buf).cmd.length → (read pos).isSome) :
    ([21, 29, 38, 46, 55, 63].mapM read).isSome := by
  have size : (startCall text buf).cmd.length = 72 := by
    have command : (startCall text buf).cmd.length = text.length + 1 := List.length_append
    omega
  rw [mapM_isSome_iff]
  intro pos occurs
  apply reads
  simp only [List.mem_cons, List.not_mem_nil, or_false] at occurs
  omega

theorem mtkRxPacketFilterOf_isSome (long : LongSize) (plain : 0 ∉ text) :
    (mtkRxPacketFilterOf long driver (startCall text buf)).isSome := by
  rw [mtkRxPacketFilterOf, cString_startCall plain (Nat.zero_le _), some_bind_eq, List.drop_zero]
  split
  case isTrue => rfl
  case isFalse isLong =>
    apply bind_isSome (filterWords_isSome isLong fun _ inside =>
      bind_isSome (filterText_isSome inside) fun _ _ => rfl)
    intro values _
    rw [sendMessage_testModeMessage]
    rfl

end Tokens

end X3Hal.Wpa
