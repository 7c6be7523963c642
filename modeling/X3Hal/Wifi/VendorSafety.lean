import X3Hal.Wifi.AttributeBounds
import X3Hal.Wifi.EventBounds

/-!
# Vendor messages one after the other

The handlers share the results of the RTT command.  Messages are handled in bounds when each of
them fits what the messages before it have left of the room for these results.
-/

namespace X3Hal.Wifi

open X3Hal.Memory X3Hal.Transition

section Messages

variable {platform : WifiPlatform} {rtt : RttState} {message : VendorMessage}

/-- The condition of the handler of a message -/
def MessageFits (platform : WifiPlatform) (view : RttView) (message : VendorMessage) : Prop :=
  match message.handler with
  | .fullScan => FullScanFits platform message.allocator message.eventId message.data
  | .hotlist => HotlistFits platform message.data
  | .epno => EpnoFits platform message.data
  | .significantChange => SignificantChangeFits message.data
  | .anqpo => AnqpoFits platform message.allocator message.data
  | .channelList maxChannels => ChannelListFits platform maxChannels message.data
  | .rtt => view.registered → RttFits platform message.allocator message.data view

/-- What a message leaves of the RTT command. -/
def rttAfter (view : RttView) (message : VendorMessage) : RttView :=
  match message.handler with
  | .rtt => if view.registered then rttAfterEvent message.allocator message.data view else view
  | _ => view

theorem handleMessage_isSome_iff :
    (handleMessage platform rtt message).isSome ↔ MessageFits platform rtt.view message := by
  rw [handleMessage, MessageFits]
  cases message.handler with
  | fullScan => rw [Option.isSome_map, handleFullScan_isSome_iff]
  | hotlist => rw [Option.isSome_map, handleHotlist_isSome_iff]
  | epno => rw [Option.isSome_map, handleEpno_isSome_iff]
  | significantChange => rw [Option.isSome_map, handleSignificantChange_isSome_iff]
  | anqpo => rw [Option.isSome_map, handleAnqpo_isSome_iff]
  | channelList maxChannels => rw [Option.isSome_map, handleChannelList_isSome_iff]
  | rtt =>
      dsimp only
      by_cases registered : rtt.registered
      · rw [if_pos registered, handleRtt_isSome_iff]
        exact (imp_iff_right registered).symm
      · rw [if_neg registered]
        exact iff_of_true rfl fun isRegistered => absurd isRegistered registered

/-- Only an RTT event changes the RTT command. -/
theorem handleMessage_view {next : RttState} {report : WifiReport}
    (ran : handleMessage platform rtt message = some (next, report)) :
    next.view = rttAfter rtt.view message := by
  rw [handleMessage] at ran
  rw [rttAfter]
  cases handler : message.handler with
  | rtt =>
      rw [handler] at ran
      dsimp only at ran ⊢
      by_cases registered : rtt.registered
      · rw [if_pos registered] at ran
        rw [handleRtt_view ran]
        exact (if_pos registered).symm
      · rw [if_neg registered] at ran
        cases ran
        exact (if_neg registered).symm
  | _ =>
      rw [handler] at ran
      obtain ⟨_, _, made⟩ := Option.map_eq_some_iff.mp ran
      cases made
      rfl

end Messages

/-- The handlers stay within the payloads and the results exactly when every message fits. -/
theorem vendor_events_in_bounds_iff (platform : WifiPlatform) (rtt : RttState)
    (messages : List VendorMessage) :
    (handleMessages platform rtt messages).isSome ↔
      Justified (fun before message =>
        MessageFits platform (before.foldl rttAfter rtt.view) message) messages := by
  induction messages generalizing rtt with
  | nil => exact iff_of_true rfl justified_nil
  | cons message messages ih =>
      rw [handleMessages, justified_cons_iff]
      apply bind_isSome_iff handleMessage_isSome_iff
      rintro ⟨next, report⟩ ran
      refine (bind_isSome_iff (ih next) fun _ _ => iff_of_true rfl trivial).trans ?_
      rw [and_true, handleMessage_view ran]
      rfl

/-- Structures as on a 64-bit platform -/
def platform64 : WifiPlatform where
  scanResult :=
    { size := 80, ts := ⟨0, 8⟩, ssid := ⟨8, 33⟩, bssid := ⟨41, 6⟩, channel := ⟨48, 4⟩,
      rssi := ⟨52, 4⟩, rtt := ⟨56, 8⟩, rttSd := ⟨64, 8⟩, beaconPeriod := ⟨72, 2⟩,
      capability := ⟨74, 2⟩, ieLength := ⟨76, 4⟩, ieData := 80,
      within := by decide, ieData_le := by decide, ssid_size := rfl, bssid_size := rfl }
  rttResult :=
    { size := 128, lci := ⟨112, 8⟩, lcr := ⟨120, 8⟩, logged := [⟨8, 4⟩, ⟨24, 4⟩],
      within := by decide, four_le := by decide }
  maxEpnoNetworks := 64
  channelSize := 4

/-- An allocator that has memory -/
def zeroed : Allocator where
  malloc _ size := some (List.replicate size 0)
  length_eq := by
    rintro _ size block ⟨⟩
    exact List.length_replicate

/-- The information elements that a full scan event announces end with the payload, counted
without the header, and a result of an RTT event has one byte more than its structure. -/
theorem vendor_events_out_of_bounds :
    (∃ message : VendorMessage, message.handler = .fullScan ∧ message.data.length = 104 ∧
      handleMessages platform64 rttStart [message] = none) ∧
    ∃ message : VendorMessage, message.handler = .rtt ∧ message.data.length = 137 ∧
      handleMessages platform64 rttStart [message] = none := by
  refine ⟨⟨⟨.fullScan, 3, List.replicate 96 0 ++ [8, 0, 0, 0, 0, 0, 0, 0], zeroed⟩, rfl, rfl, ?_⟩,
    ⟨.rtt, 0, [137, 0, 31, 0, 133, 0, 33, 0] ++ List.replicate 128 0 ++ [38], zeroed⟩, rfl, rfl,
    ?_⟩
  · decide +kernel
  · decide +kernel

end X3Hal.Wifi
