import X3Hal.Wpa.CommandBounds
import Mathlib.Data.List.Infix

/-!
# Driver commands within their bounds

The commands that no handler takes for its own go to the kernel driver in an array of their own.
A call of a driver command is safe exactly when the command has what it needs.
-/

namespace X3Hal.Wpa

open X3Hal.Memory X3Hal.Transition
open X3Hal.Gps (wrap32 wrap32_natCast_le)

/-! ## Private commands -/

section Private

variable {driver : Driver} {call : DriverCall} {text more : List UInt8}

/-- A command with its text, and what there is behind the NUL -/
theorem cString_cmd (plain : 0 ∉ text) (more : List UInt8) :
    cString (text ++ 0 :: more) 0 = some text :=
  cString_split plain [] more

theorem privateLength_lt (text : List UInt8) : privateLength text < (privCmdSize : Int) := by
  rw [privateLength]
  split <;> omega

theorem privateLength_le (text : List UInt8) : privateLength text ≤ (text.length : Int) := by
  have least := wrap32_natCast_le text.length
  rw [privateLength]
  split <;> omega

theorem privateLength_negative_iff (text : List UInt8) :
    -1 ≤ privateLength text ↔ -1 ≤ wrap32 text.length := by
  have size : (0 : Int) < privCmdSize := by decide
  rw [privateLength]
  split <;> omega

/-- The copy of a private command -/
theorem privateCopy_eq (more : List UInt8) (length : -1 ≤ privateLength text) :
    privateCopy (text ++ 0 :: more) (privateLength text) =
      some ((text ++ [0]).take (privateLength text + 1).toNat) := by
  have least := privateLength_le text
  have split : text ++ 0 :: more = (text ++ [0]) ++ more := by simp
  have whole : (text ++ [0]).length = text.length + 1 := List.length_append
  have within : (privateLength text + 1).toNat ≤ (text ++ [0]).length := by omega
  rw [privateCopy, if_pos (by omega), split, load, List.drop_zero,
    if_pos (by rw [List.length_append]; omega), List.take_append_of_le_length within]

theorem privateBuffer_eq (text : List UInt8) :
    store (List.replicate privCmdSize 0) 0 ((text ++ [0]).take (privateLength text + 1).toNat) =
      some (privateBuffer text) := by
  have below := privateLength_lt text
  rw [privateBuffer, store, if_pos (by rw [List.length_take, List.length_replicate]; omega),
    List.take_zero, List.nil_append, Nat.zero_add, List.drop_replicate]

theorem privateCommand_isSome_iff (plain : 0 ∉ text) (isText : call.cmd = text ++ 0 :: more) :
    (privateCommand driver call).isSome ↔ PrivateFits driver text call.buf := by
  rw [privateCommand, PrivateFits, isText, cString_cmd plain, some_bind_eq,
    ← privateLength_negative_iff]
  by_cases length : -1 ≤ privateLength text
  swap
  · rw [privateCopy, if_neg (by omega)]
    exact iff_of_false nofun fun fits => length fits.1
  rw [and_iff_right length, privateCopy_eq more length, some_bind_eq, privateBuffer_eq,
    some_bind_eq]
  by_cases answered : driver.privIoctl (privateBuffer text) < 0
  · rw [if_pos answered]
    exact iff_of_true (bind_isSome (snprintf_isSome _ (by omega)) fun _ _ => rfl) (by omega)
  rw [if_neg answered]
  by_cases batching : Comparison.strncasecmp.accepts (ascii "WLS_BATCHING") text
  swap
  · rw [if_neg batching]
    exact iff_of_true rfl fun isBatching => absurd isBatching batching
  rw [if_pos batching, imp_iff_right batching, imp_iff_right (by omega), cString_bind_isSome_iff,
    List.drop_zero, and_iff_left returns_isSome]
  have emptied : (0 : UInt8) ∈ List.replicate call.buf.length 0 ↔ call.buf ≠ [] := by
    rw [List.mem_replicate, and_iff_left rfl, ne_eq, List.length_eq_zero_iff]
  exact emptied

end Private

/-! ## Handlers before a private command -/

section Before

variable {driver : Driver} {text buf : List UInt8}

theorem setsuspendmode_cases (long : 15 ≤ text.length) :
    ∃ after, setsuspendmode driver (startCall text buf) = some after ∧
      after.cmd = text ++ [0] ∧ after.buf = buf := by
  have size : (startCall text buf).cmd.length = text.length + 1 := List.length_append
  rw [setsuspendmode, number_eq (by omega), some_bind_eq, sendMessage_testModeMessage,
    some_bind_eq]
  exact ⟨_, rfl, rfl, rfl⟩

/-- The array of 100 bytes when it is sent -/
theorem exists_transparent (buflen : Nat) (text : List UInt8) :
    ∃ headed buffer, store (List.replicate 100 (0 : UInt8)) 0 (testModeInfo 102 buflen) =
        some headed ∧
      store headed 8 (strncpy (100 - 8) text) = some buffer ∧ buffer.length = 100 := by
  have copied : (strncpy (100 - 8) text).length = 92 := length_strncpy _ _
  obtain ⟨headed, isHeaded⟩ := exists_store
    (show 0 + (testModeInfo 102 buflen).length ≤ (List.replicate 100 (0 : UInt8)).length by
      rw [length_testModeInfo, List.length_replicate]
      decide)
  have whole := (length_of_store isHeaded).trans List.length_replicate
  obtain ⟨buffer, isBuffer⟩ := exists_store
    (show 8 + (strncpy (100 - 8) text).length ≤ headed.length by omega)
  exact ⟨headed, buffer, isHeaded, isBuffer, (length_of_store isBuffer).trans whole⟩

theorem transparentCommand_isSome_iff (plain : 0 ∉ text) :
    (transparentCommand driver (startCall text buf)).isSome ↔
      (8 + text.length) % 2 ^ 32 ≤ 100 := by
  obtain ⟨headed, buffer, isHeaded, isBuffer, size⟩ :=
    exists_transparent ((8 + text.length) % 2 ^ 32) text
  rw [transparentCommand, cString_startCall plain (Nat.zero_le _), some_bind_eq, List.drop_zero]
  dsimp only
  rw [isHeaded, some_bind_eq, isBuffer, some_bind_eq]
  have sends : (sendTestmode driver (startCall text buf) buffer
      ((8 + text.length) % 2 ^ 32)).isSome ↔ (8 + text.length) % 2 ^ 32 ≤ buffer.length :=
    sendTestmode_isSome_iff (by omega)
  rw [size] at sends
  exact (bind_isSome_iff sends fun _ _ => iff_of_true rfl trivial).trans (and_true _).to_iff

theorem transparentCommand_cases {after : DriverCall}
    (ran : transparentCommand driver (startCall text buf) = some after) :
    after.cmd = text ++ [0] ∧ after.buf = buf := by
  obtain ⟨_, _, rest⟩ := Option.bind_eq_some_iff.mp ran
  obtain ⟨_, _, rest⟩ := Option.bind_eq_some_iff.mp rest
  obtain ⟨_, _, rest⟩ := Option.bind_eq_some_iff.mp rest
  obtain ⟨sent, isSent, made⟩ := Option.bind_eq_some_iff.mp rest
  cases made
  exact sendTestmode_cases isSent

/-- The place of a word that is found -/
theorem inside_of_strstr (plain : 0 ∉ text) {word : List UInt8} {pos : Nat}
    (found : strstr (text ++ [0]) 0 word = some (some pos)) (long : word ≠ []) :
    pos + word.length ≤ text.length := by
  rw [strstr, cString_text plain (Nat.zero_le _), some_bind_eq, List.drop_zero, Option.some_inj,
    Option.map_eq_some_iff] at found
  obtain ⟨index, isIndex, rfl⟩ := found
  obtain ⟨within, fits, _⟩ := List.findIdx?_eq_some_iff_getElem.mp isIndex
  rw [List.getElem_tails] at fits
  have short := (List.isPrefixOf_iff_prefix.mp fits).length_le
  have longer := List.length_pos_iff.mpr long
  rw [List.length_drop] at short
  omega

/-- The command has ten bytes, since there is a number behind the word. -/
theorem rebuildMiracast_eq (plain : 0 ∉ text) (long : 10 ≤ text.length) :
    rebuildMiracast (startCall text buf) =
      some ⟨ascii "MIRACAST 2" ++ 0 :: List.replicate (text.length - 10) 0, buf, []⟩ := by
  have command : (startCall text buf).cmd = text ++ [0] := rfl
  have zeros : store (text ++ [0]) 0 (List.replicate text.length 0) =
      some (List.replicate text.length 0 ++ [0]) :=
    store_front List.length_replicate.symm [0]
  have behind : List.replicate text.length (0 : UInt8) ++ [0] =
      List.replicate 10 0 ++ 0 :: List.replicate (text.length - 10) 0 := by
    rw [← List.replicate_succ', ← List.replicate_succ, List.replicate_append_replicate]
    congr 1
    omega
  have size : (List.replicate 10 (0 : UInt8)).length = (ascii "MIRACAST 2").length := by decide
  rw [rebuildMiracast, cString_startCall plain (Nat.zero_le _), some_bind_eq, List.drop_zero,
    command, zeros, some_bind_eq, behind, store_front size]
  rfl

/-- `MIRACAST` on its values: for those that are known, there must be a `wpa_supplicant`. -/
theorem miracast_eq (driver : Driver) (buf : List UInt8) (plain : 0 ∉ text)
    (long : 9 ≤ text.length) :
    if atoi (text.drop 9) % 256 ≤ 2 → driver.wpaS.isSome then
      ∃ after more, miracast driver (startCall text buf) = some after ∧
        after.cmd = miracastText text ++ 0 :: more ∧ after.buf = buf
    else miracast driver (startCall text buf) = none := by
  have command : (startCall text buf).cmd = text ++ [0] := rfl
  have terminated : Terminated (text ++ [0]) := terminated_text text
  obtain ⟨pos, isPos⟩ := Option.isSome_iff_exists.mp
    (strstr_isSome terminated terminated.pos (ascii " freq="))
  rw [miracast, cString_startCall plain long, some_bind_eq, command, isPos, some_bind_eq,
    miracastText, isPos, Option.join_some]
  have least : 0 ≤ atoi (text.drop 9) % 256 := Int.emod_nonneg _ (by decide)
  by_cases small : atoi (text.drop 9) % 256 ≤ 2
  swap
  · rw [if_pos fun isSmall => absurd isSmall small, if_neg (by omega), if_neg (by omega),
      if_neg fun both => small both.1.le]
    exact ⟨_, [], rfl, rfl, rfl⟩
  cases driver.wpaS with
  | none =>
      rw [if_neg fun supplied => absurd (supplied small) nofun]
      split
      · rfl
      · rw [if_pos (by omega)]
        rfl
  | some wpaS =>
      rw [if_pos fun _ => Option.isSome_some]
      by_cases two : atoi (text.drop 9) % 256 = 2
      swap
      · rw [if_pos (by omega), if_neg fun both => two both.1]
        exact ⟨_, [], rfl, rfl, rfl⟩
      rw [if_neg (by omega), if_pos two, some_bind_eq]
      cases pos with
      | none =>
          rw [if_neg nofun]
          exact ⟨_, [], rfl, rfl, rfl⟩
      | some pos =>
          have inside := inside_of_strstr plain isPos (by decide)
          have word : (ascii " freq=").length = 6 := by decide
          have number : 10 ≤ text.length := by
            rcases Nat.lt_or_ge text.length 10 with short | enough
            · rw [List.drop_of_length_le (by omega)] at two
              cases two
            · exact enough
          rw [if_pos ⟨two, rfl⟩]
          dsimp only
          rw [cString_text plain (by omega), some_bind_eq, rebuildMiracast_eq plain number]
          exact ⟨_, _, rfl, rfl, rfl⟩

theorem miracast_isSome_iff (plain : 0 ∉ text) (long : 9 ≤ text.length) :
    (miracast driver (startCall text buf)).isSome ↔
      (atoi (text.drop 9) % 256 ≤ 2 → driver.wpaS.isSome) := by
  have spec := miracast_eq driver buf plain long
  split at spec
  case isTrue supplied =>
    obtain ⟨after, _, ran, _⟩ := spec
    exact iff_of_true (Option.isSome_iff_exists.mpr ⟨after, ran⟩) supplied
  case isFalse missing =>
    rw [spec]
    exact iff_of_false nofun missing

theorem miracast_cases (plain : 0 ∉ text) (long : 9 ≤ text.length) {after : DriverCall}
    (ran : miracast driver (startCall text buf) = some after) :
    ∃ more, after.cmd = miracastText text ++ 0 :: more ∧ after.buf = buf := by
  have spec := miracast_eq driver buf plain long
  rw [ran] at spec
  split at spec
  · obtain ⟨_, more, same, isText⟩ := spec
    cases same
    exact ⟨more, isText⟩
  · cases spec

end Before

/-! ## Calls -/

section Calls

variable {driver : Driver} {text buf : List UInt8}

/-- Where a handler takes the text behind its word -/
def wordLength : DriverCommand → Nat
  | .powermode | .staBlock => 10
  | .getStaStatistics | .p2pSetPowerSave => 19
  | .rxfilterAdd | .staUnblock | .p2pGetCap | .p2pSetCap | .p2pUseMcc => 12
  | .rxfilterRemove | .setMaxClient | .setsuspendmode => 15
  | .miracast => 9
  | .p2pSetOpps => 13
  | .p2pSetSleep => 14
  | _ => 0

theorem entriesIf_sublist (defined : Bool) (entries : List CommandEntry) :
    (entriesIf defined entries).Sublist entries := by
  cases defined
  · exact List.nil_sublist entries
  · exact List.Sublist.refl entries

/-- The commands when every macro is defined are those that there can be. -/
theorem commandTable_sublist (config : DriverConfig) :
    (commandTable config).Sublist (commandTable ⟨true, true, true, true, true⟩) := by
  refine List.Sublist.append ?_ (List.Sublist.refl _)
  refine List.Sublist.append ?_ (entriesIf_sublist _ _)
  refine List.Sublist.append ?_ (entriesIf_sublist _ _)
  refine List.Sublist.append ?_ (entriesIf_sublist _ _)
  refine List.Sublist.append ?_ (entriesIf_sublist _ _)
  exact List.Sublist.append (List.Sublist.refl _) (entriesIf_sublist _ _)

theorem wordLength_le_word {config : DriverConfig} {entry : CommandEntry}
    (occurs : entry ∈ commandTable config) :
    wordLength entry.command ≤ (ascii entry.word).length := by
  have all : ∀ entry ∈ commandTable ⟨true, true, true, true, true⟩,
      wordLength entry.command ≤ (ascii entry.word).length := by
    decide
  exact all entry ((commandTable_sublist config).subset occurs)

/-- A command has the bytes of its word. -/
theorem wordLength_le (config : DriverConfig) (text : List UInt8) :
    wordLength (driverCommand config text) ≤ text.length := by
  rw [driverCommand]
  cases chosen : (commandTable config).find? (·.accepts text) with
  | none => exact Nat.zero_le _
  | some entry =>
      have accepted := List.find?_some chosen
      exact (wordLength_le_word (List.mem_of_find?_eq_some chosen)).trans
        (length_le_of_accepts accepted)

/-- A handler that leaves a text, and the private command after it -/
theorem before_isSome_iff {first : Option DriverCall} {P : Prop} (plain : 0 ∉ text)
    (firstIff : first.isSome ↔ P)
    (kept : ∀ after, first = some after →
      ∃ more, after.cmd = text ++ 0 :: more ∧ after.buf = buf) :
    (first >>= privateCommand driver).isSome ↔ P ∧ PrivateFits driver text buf := by
  apply bind_isSome_iff firstIff
  intro after ran
  obtain ⟨more, isText, same⟩ := kept after ran
  rw [privateCommand_isSome_iff plain isText, same]

theorem miracastText_plain (plain : 0 ∉ text) : 0 ∉ miracastText text := by
  rw [miracastText]
  split
  · decide
  · exact plain

/-- A command stays within its bounds exactly when it has what it needs. -/
theorem runCommand_isSome_iff (plain : 0 ∉ text) {command : DriverCommand}
    (long : wordLength command ≤ text.length) :
    (runCommand driver (startCall text buf) command).isSome ↔
      CommandFits driver text buf command := by
  cases command with
  | powermode =>
      have long10 : 10 ≤ text.length := long
      rw [runCommand, cString_startCall plain long10]
      exact iff_of_true rfl trivial
  | getStaStatistics => exact getStaStatistics_isSome_iff plain long
  | macaddr => exact macaddr_isSome_iff
  | country => exact country_isSome_iff plain
  | start => exact iff_of_true rfl trivial
  | stop => exact stop_isSome_iff
  | getpower => exact iff_of_true rfl trivial
  | rxfilterAdd => exact iff_of_true (rxfilter_isSome plain long _) trivial
  | rxfilterRemove => exact iff_of_true (rxfilter_isSome plain long _) trivial
  | rxfilterStop => exact iff_of_true (rxfilterSwitch_isSome _) trivial
  | rxfilterStart => exact iff_of_true (rxfilterSwitch_isSome _) trivial
  | btcoexscanStart => exact iff_of_true rfl trivial
  | btcoexscanStop => exact iff_of_true rfl trivial
  | btcoexmode => exact iff_of_true rfl trivial
  | staBlock => exact iff_of_true (staBlock_isSome plain long _) trivial
  | staUnblock => exact iff_of_true (staBlock_isSome plain long _) trivial
  | setMaxClient => exact iff_of_true (setMaxClient_isSome plain long) trivial
  | mtkAcs => exact mtkAcs_isSome_iff
  | setWapiKey => exact setWapiKey_isSome_iff
  | wapiMsgSend => exact wapiMsgSend_isSome_iff
  | p2pGetCap => exact p2pGetCap_isSome_iff plain long
  | p2pSetCap => exact p2pSetCap_isSome_iff plain long
  | miracast =>
      apply before_isSome_iff (miracastText_plain plain) (miracast_isSome_iff plain long)
      exact fun after ran => miracast_cases plain long ran
  | p2pUseMcc => exact p2pUseMcc_isSome_iff plain long
  | wfdDataUpdate => exact wfdDataUpdate_isSome_iff
  | mcc => exact mcc_isSome_iff
  | p2pSetOpps => exact p2pSetOpps_isSome_iff plain long
  | p2pSetPowerSave => exact p2pSetPowerSave_isSome_iff plain long
  | p2pSetSleep =>
      exact p2pSetSleep_isSome_iff (terminated_text text) (cString_startCall plain long)
  | p2pSetSleepDefault => exact p2pSetSleepDefault_isSome_iff
  | sigmaMode => exact iff_of_true (sigmaMode_isSome text buf) trivial
  | p2pSetNoa => exact p2pSetNoa_isSome_iff plain
  | p2pSetPs => exact p2pSetPs_isSome_iff plain
  | setsuspendmode =>
      obtain ⟨after, ran, isText, same⟩ := setsuspendmode_cases long
      rw [runCommand, ran, some_bind_eq, privateCommand_isSome_iff plain isText, same]
      rfl
  | mtkRxPacketFilter => exact iff_of_true (mtkRxPacketFilterOf_isSome .bits64 plain) trivial
  | transparent =>
      apply before_isSome_iff plain (transparentCommand_isSome_iff plain)
      exact fun after ran => ⟨[], transparentCommand_cases ran⟩

end Calls

/-- Every access of a driver command is within the command, the buffer and the arrays of the
functions exactly when the driver is not ready or the command has what it needs. -/
theorem driver_cmd_in_bounds_iff (driver : Driver) (text buf : List UInt8) (plain : 0 ∉ text) :
    (driverCmd driver text buf).isSome ↔
      (driver.ready → CommandFits driver text buf (driverCommand driver.config text)) := by
  rw [driverCmd]
  by_cases ready : driver.ready
  · rw [if_pos ready, imp_iff_right ready]
    exact runCommand_isSome_iff plain (wordLength_le driver.config text)
  · rw [if_neg ready]
    exact iff_of_true rfl fun isReady => absurd isReady ready

/-- A driver with the commands of the certification, and its `wpa_supplicant` -/
def sigmaDriver : Driver where
  config := ⟨false, false, false, false, true⟩
  wfdData :=
    let absent : Member := ⟨0, 0⟩
    ⟨0, absent, absent, absent, absent, absent, absent, absent, absent, absent, absent, absent,
      absent, absent, absent, absent, absent, absent, absent, absent, absent, absent, absent,
      absent, absent⟩
  ready := true
  wpaS := some ⟨⟨List.replicate 6 2, rfl⟩, fun _ => none, [], none, true⟩
  debug := false
  associated := false
  hwaddrAton := fun _ => none
  testmode := fun _ => 0
  privIoctl := fun _ => 0
  countryIoctl := fun _ => 0
  setIfaceFlags := fun _ => 0
  channels2g := fun _ => 0
  cmdBase := 4096
  bufBase := 8192
  answerBase := 16384

theorem driver_cmd_in_bounds_iff_noa :
    (driverCmd sigmaDriver (ascii "P2P_SET_NOA 255 100 50") []).isSome := by
  refine (driver_cmd_in_bounds_iff sigmaDriver (ascii "P2P_SET_NOA 255 100 50") []
    (by decide)).mpr fun _ => ?_
  have command :
      driverCommand sigmaDriver.config (ascii "P2P_SET_NOA 255 100 50") = .p2pSetNoa := by
    decide
  rw [command]
  exact ⟨by decide, fun _ => rfl⟩

/-- 93 bytes for the kernel driver, 65 tokens, and a blank that is missing -/
theorem driver_cmd_out_of_bounds :
    (0 ∉ List.replicate 93 (97 : UInt8) ∧
      driverCmd sigmaDriver (List.replicate 93 97) [0] = none) ∧
    (0 ∉ ascii "P2P_SET_NOA" ++ List.replicate 65 32 ∧
      driverCmd sigmaDriver (ascii "P2P_SET_NOA" ++ List.replicate 65 32) [0] = none) ∧
    (0 ∉ ascii "p2p_set_opps 12" ∧
      driverCmd sigmaDriver (ascii "p2p_set_opps 12") [0] = none) := by
  decide +kernel

end X3Hal.Wpa
