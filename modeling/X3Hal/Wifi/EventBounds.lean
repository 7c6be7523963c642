import X3Hal.Transition.Loops
import X3Hal.Wifi.VendorEvents
import Mathlib.Data.Nat.Basic

/-!
# The bounds of the vendor events

Lengths are checked by some handlers, against the payload with and without the header of an
attribute, and not by others.  For each handler there is a condition on the payload under which
it stays within the payload and within its results, and no other does.
-/

namespace X3Hal.Wifi

open X3Hal.Memory X3Hal.Transition

/-! ## The conditions -/

/-- `wifi_handle_full_scan_event`: the information elements end within the payload behind the
header, and so does the name. -/
def FullScanFits (platform : WifiPlatform) (allocator : Allocator) (eventId : Nat)
    (data : List UInt8) : Prop :=
  let ieLen := min maxProbeRespIeLen (numberAt data (nlaHdrLen + gscanIeLength) 4)
  gscanFullResultSize ≤ data.length → eventId = gscanEventFullScanResults →
    ieLen + gscanIeData ≤ data.length →
    (allocator.malloc 0 (ieLen + platform.scanResult.ieData)).isSome →
    nlaHdrLen + gscanIeData + ieLen ≤ data.length ∧ 0 ∈ data.drop (nlaHdrLen + gscanSsid)

/-- `BssidHotlistCommand::handleEvent`: there is a header, and the results end within the payload
behind it. -/
def HotlistFits (platform : WifiPlatform) (data : List UInt8) : Prop :=
  let nlaType := numberAt data 2 2
  let size := platform.scanResult.size
  data.length ≠ 0 →
    nlaHdrLen ≤ data.length ∧
      (nlaType = gscanEventHotlistResultsLost ∨ nlaType = gscanEventHotlistResultsFound →
        nlaHdrLen + min maxResults (data.length / size) * size ≤ data.length)

/-- An entry of an ePNO event: its `ssid_len` stays within the payload, and with the NUL within
the results. -/
def EpnoResultFits (platform : WifiPlatform) (data : List UInt8) (i : Nat) : Prop :=
  let size := platform.scanResult.size
  let ssidLen := numberAt data (pnoResultSize * i + 32) 1
  numberAt data (pnoResultSize * i + 36) 2 = pnoSsidFound →
    pnoResultSize * i + ssidLen ≤ data.length ∧
      size * i + platform.scanResult.ssid.offset + ssidLen < size * platform.maxEpnoNetworks

def EpnoFits (platform : WifiPlatform) (data : List UInt8) : Prop :=
  ∀ i < min platform.maxEpnoNetworks (data.length / pnoResultSize), EpnoResultFits platform data i

/-- `SignificantWifiChangeCommand::handleEvent`: there is a header, and the changes end within
the payload behind it. -/
def SignificantChangeFits (data : List UInt8) : Prop :=
  data.length ≠ 0 →
    nlaHdrLen ≤ data.length ∧
      (numberAt data 2 2 = gscanEventSignificantChangeResults →
        nlaHdrLen + changeInfoSize * min (data.length / changeInfoSize) maxResults ≤ data.length)

/-- `AnqpoConfigureCommand::handleEvent`: the ANQP element and the id behind it lie within the
payload, and the name that is logged ends within the result. -/
def AnqpoFits (platform : WifiPlatform) (allocator : Allocator) (data : List UInt8) : Prop :=
  let layout := platform.scanResult
  let anqp := gscanIeData + numberAt data gscanIeLength 4
  layout.size ≤ data.length →
    ∀ block ∈ allocator.malloc 0 layout.size,
      gscanIeData ≤ data.length ∧ anqp + 8 ≤ data.length ∧
        anqp + (8 + numberAt data (anqp + 6) 2) + 4 ≤ data.length ∧
        ∀ result ∈ convertToHalResult layout block data 0, 0 ∈ result.drop layout.ssid.offset

/-! ## The scan handlers -/

section Scan

variable {platform : WifiPlatform} {allocator : Allocator} {layout : ScanResultLayout}
  {data result converted : List UInt8} {fixed : Nat}

theorem length_of_assign {target : Member} {value : Int}
    (assigned : assign target value result = some converted) :
    converted.length = result.length :=
  length_of_store assigned

theorem assign_bind_isSome_iff {α : Type} {target : Member} {value : Int} {P : Prop}
    {next : List UInt8 → Option α} (inside : target.stop ≤ result.length)
    (follows : ∀ stored : List UInt8, stored.length = result.length →
      ((next stored).isSome ↔ P)) :
    (assign target value result >>= next).isSome ↔ P := by
  rw [assign, store_bind_isSome_iff _ follows, length_signedBytes]
  exact and_iff_right inside

theorem assign_isSome {target : Member} {value : Int} (inside : target.stop ≤ result.length) :
    (assign target value result).isSome := by
  rw [assign, store_isSome_iff, length_signedBytes]
  exact inside

theorem assignFrom_isSome_iff {assignment : Assignment}
    (inside : assignment.target.stop ≤ result.length) :
    (assignFrom data fixed result assignment).isSome ↔
      fixed + assignment.source + assignment.size ≤ data.length := by
  rw [assignFrom, number_bind_isSome_iff]
  exact and_iff_left (assign_isSome inside)

theorem length_of_assignFrom {assignment : Assignment}
    (assigned : assignFrom data fixed result assignment = some converted) :
    converted.length = result.length := by
  obtain ⟨_, _, stored⟩ := Option.bind_eq_some_iff.mp assigned
  exact length_of_assign stored

theorem length_of_halAssignments
    (assigned : (halAssignments layout).foldlM (assignFrom data fixed) result = some converted) :
    converted.length = result.length := by
  apply keeps_of_foldlM (fun state => state.length = result.length) _ rfl assigned
  intro state assignment _ next same made
  exact (length_of_assignFrom made).trans same

theorem halAssignments_isSome_iff (inside : layout.ieData ≤ result.length) :
    ((halAssignments layout).foldlM (assignFrom data fixed) result).isSome ↔
      fixed + 76 ≤ data.length := by
  rw [foldlM_isSome_iff_forall (fun state => state.length = result.length)
    fun assignment => fixed + assignment.source + assignment.size ≤ data.length]
  · simp only [halAssignments, List.forall_mem_cons, List.not_mem_nil, false_implies,
      implies_true, and_true]
    omega
  · intro state assignment occurs same
    apply assignFrom_isSome_iff
    have within := layout.within
    simp only [List.forall_mem_cons] at within
    simp only [halAssignments, List.mem_cons, List.not_mem_nil, or_false] at occurs
    rcases occurs with rfl | rfl | rfl | rfl | rfl | rfl | rfl <;> dsimp only <;> omega
  · intro state assignment _ next same made
    exact (length_of_assignFrom made).trans same
  · rfl

theorem length_of_convertToHalResult
    (converts : convertToHalResult layout result data fixed = some converted) :
    converted.length = result.length := by
  obtain ⟨assigned, assigns, rest⟩ := Option.bind_eq_some_iff.mp converts
  obtain ⟨_, _, rest⟩ := Option.bind_eq_some_iff.mp rest
  obtain ⟨named, names, rest⟩ := Option.bind_eq_some_iff.mp rest
  obtain ⟨_, _, stored⟩ := Option.bind_eq_some_iff.mp rest
  rw [length_of_store stored, length_of_store names, length_of_halAssignments assigns]

/-- `convert_to_hal_result` reads the members up to `capability`. -/
theorem convertToHalResult_isSome_iff (inside : layout.ieData ≤ result.length) :
    (convertToHalResult layout result data fixed).isSome ↔ fixed + 76 ≤ data.length := by
  have within := layout.within
  simp only [List.forall_mem_cons, Member.stop, layout.ssid_size, layout.bssid_size] at within
  have converts : (convertToHalResult layout result data fixed).isSome ↔
      fixed + 76 ≤ data.length ∧ fixed + gscanSsid + 33 ≤ data.length ∧
        fixed + gscanBssid + 6 ≤ data.length := by
    apply bind_isSome_iff (halAssignments_isSome_iff inside)
    intro assigned assigns
    have same := length_of_halAssignments assigns
    have follows (named : List UInt8) (sameNamed : named.length = assigned.length) :
        (load data (fixed + gscanBssid) 6 >>= store named layout.bssid.offset).isSome ↔
          fixed + gscanBssid + 6 ≤ data.length := by
      rw [load_bind_isSome_iff, store_isSome_iff, List.length_take, List.length_drop]
      omega
    rw [copy_bind_isSome_iff _ follows]
    apply and_congr_right
    intro ssid
    apply and_iff_right
    omega
  rw [converts, gscanSsid, gscanBssid]
  omega

theorem handleFullScan_isSome_iff {eventId : Nat} :
    (handleFullScan platform allocator eventId data).isSome ↔
      FullScanFits platform allocator eventId data := by
  rw [handleFullScan, FullScanFits]
  dsimp only
  by_cases short : data.length < gscanFullResultSize
  · rw [if_pos short]
    exact iff_of_true rfl fun long => absurd long (Nat.not_le.mpr short)
  rw [if_neg short, imp_iff_right (Nat.not_lt.mp short)]
  by_cases full : eventId = gscanEventFullScanResults
  swap
  · rw [if_pos full]
    exact iff_of_true rfl fun isFull => absurd isFull full
  have sizes : nlaHdrLen = 4 ∧ gscanIeLength = 92 ∧ gscanScanChBucket = 88 ∧
      gscanFullResultSize = 104 := ⟨rfl, rfl, rfl, rfl⟩
  have read : nlaHdrLen + gscanIeLength + 4 ≤ data.length := by omega
  rw [if_neg (not_not.mpr full), imp_iff_right full, number_bind_isSome_iff,
    and_iff_right read]
  generalize min maxProbeRespIeLen (numberAt data (nlaHdrLen + gscanIeLength) 4) = ieLen
  by_cases bad : data.length < ieLen + gscanIeData
  · rw [if_pos bad]
    exact iff_of_true rfl fun long => absurd long (Nat.not_le.mpr bad)
  rw [if_neg bad, imp_iff_right (Nat.not_lt.mp bad)]
  cases allocated : allocator.malloc 0 (ieLen + platform.scanResult.ieData) with
  | none => exact iff_of_true rfl nofun
  | some result =>
      rw [imp_iff_right Option.isSome_some]
      have size : result.length = ieLen + platform.scanResult.ieData :=
        allocator.length_eq _ _ _ allocated
      have within := platform.scanResult.within
      simp only [List.forall_mem_cons] at within
      have fixedInside : nlaHdrLen + 76 ≤ data.length := by omega
      refine (bind_isSome_iff (convertToHalResult_isSome_iff (by omega)) ?_).trans
        (and_iff_right fixedInside)
      intro converted converts
      have sameConverted := length_of_convertToHalResult converts
      apply assign_bind_isSome_iff (by omega)
      intro counted sameCounted
      have follows (stored : List UInt8) (_ : stored.length = counted.length) :
          (number data (nlaHdrLen + gscanScanChBucket) 4 >>= fun scanChBucket =>
            cString data (nlaHdrLen + gscanSsid) >>= fun _ =>
              some (WifiReport.fullScanResult stored scanChBucket)).isSome ↔
            0 ∈ data.drop (nlaHdrLen + gscanSsid) := by
        rw [number_bind_isSome_iff, cString_bind_isSome_iff]
        have bucketInside : nlaHdrLen + gscanScanChBucket + 4 ≤ data.length := by omega
        simp [bucketInside]
      rw [copy_bind_isSome_iff _ follows]
      apply and_congr_right
      intro ieInside
      apply and_iff_right
      omega

theorem handleHotlist_isSome_iff {eventId : Nat} :
    (handleHotlist platform eventId data).isSome ↔ HotlistFits platform data := by
  rw [handleHotlist, HotlistFits]
  dsimp only
  by_cases empty : data.length = 0
  · rw [if_pos empty]
    exact iff_of_true rfl fun found => absurd empty found
  rw [if_neg empty, imp_iff_right empty, number_bind_isSome_iff, number_bind_isSome_iff,
    nlaHdrLen]
  generalize numberAt data 2 2 = nlaType
  generalize atMost : min maxResults (data.length / platform.scanResult.size) = num
  have copies : num * platform.scanResult.size ≤ platform.scanResult.size * maxResults := by
    rw [Nat.mul_comm]
    exact Nat.mul_le_mul_left _ (atMost ▸ Nat.min_le_left _ _)
  have reads : 0 + 2 ≤ data.length ∧ 2 + 2 ≤ data.length ↔ 4 ≤ data.length := by omega
  rw [← and_assoc, reads]
  apply and_congr_right
  intro header
  by_cases listed : nlaType = gscanEventHotlistResultsLost ∨
      nlaType = gscanEventHotlistResultsFound
  · rw [if_pos listed, imp_iff_right listed]
    refine (copy_bind_isSome_iff True fun _ _ => iff_of_true rfl trivial).trans ?_
    rw [List.length_replicate, and_true, Nat.zero_add, and_iff_left copies]
  · rw [if_neg listed]
    exact iff_of_true rfl fun found => absurd found listed

theorem length_of_epnoResult {i : Nat} {next : List UInt8}
    (ran : epnoResult layout data result i = some next) : next.length = result.length := by
  obtain ⟨flags, _, ran⟩ := Option.bind_eq_some_iff.mp ran
  split at ran
  case isFalse =>
    cases ran
    rfl
  case isTrue =>
    obtain ⟨_, _, ran⟩ := Option.bind_eq_some_iff.mp ran
    obtain ⟨_, _, ran⟩ := Option.bind_eq_some_iff.mp ran
    obtain ⟨named, names, ran⟩ := Option.bind_eq_some_iff.mp ran
    obtain ⟨_, _, ran⟩ := Option.bind_eq_some_iff.mp ran
    obtain ⟨addressed, addresses, ran⟩ := Option.bind_eq_some_iff.mp ran
    obtain ⟨ended, ends, ran⟩ := Option.bind_eq_some_iff.mp ran
    obtain ⟨_, _, ran⟩ := Option.bind_eq_some_iff.mp ran
    obtain ⟨tuned, tunes, ran⟩ := Option.bind_eq_some_iff.mp ran
    obtain ⟨_, _, measures⟩ := Option.bind_eq_some_iff.mp ran
    rw [length_of_assign measures, length_of_assign tunes, length_of_store ends,
      length_of_store addresses, length_of_store names]

theorem epnoResult_isSome_iff {i : Nat} (known : i < data.length / pnoResultSize)
    (listed : i < platform.maxEpnoNetworks)
    (size : result.length = platform.scanResult.size * platform.maxEpnoNetworks) :
    (epnoResult platform.scanResult data result i).isSome ↔ EpnoResultFits platform data i := by
  rw [epnoResult, EpnoResultFits]
  have entry : pnoResultSize * i + pnoResultSize ≤ data.length := by
    rw [← Nat.mul_succ]
    exact Nat.le_trans (Nat.mul_le_mul_left _ known) (Nat.mul_div_le _ _)
  have target : platform.scanResult.size * i + platform.scanResult.size ≤ result.length := by
    rw [← Nat.mul_succ, size]
    exact Nat.mul_le_mul_left _ listed
  have pno : pnoResultSize = 44 := rfl
  rw [number_bind_isSome_iff, and_iff_right (by omega), ← size]
  by_cases found : numberAt data (pnoResultSize * i + 36) 2 = pnoSsidFound
  swap
  · rw [if_neg found]
    exact iff_of_true rfl fun isFound => absurd isFound found
  rw [if_pos found, imp_iff_right found, number_bind_isSome_iff, and_iff_right (by omega)]
  generalize numberAt data (pnoResultSize * i + 32) 1 = ssidLen
  generalize pnoResultSize * i = res at *
  generalize platform.scanResult.size * i = start at *
  have within := platform.scanResult.within
  have capacity := platform.scanResult.ieData_le
  simp only [List.forall_mem_cons, Member.stop, platform.scanResult.bssid_size] at within
  refine (copy_bind_isSome_iff (start + platform.scanResult.ssid.offset + ssidLen <
    result.length) fun named sameNamed => ?_).trans (by omega)
  refine (copy_bind_isSome_iff (start + platform.scanResult.ssid.offset + ssidLen <
    result.length) fun addressed sameAddressed => ?_).trans (by omega)
  refine (store_bind_isSome_iff True fun ended sameEnded => ?_).trans ?_
  · rw [number_bind_isSome_iff, and_iff_right (by omega)]
    apply assign_bind_isSome_iff
    · simp only [Member.stop]
      omega
    intro tuned sameTuned
    rw [number_bind_isSome_iff, and_iff_right (by omega), iff_true]
    apply assign_isSome
    simp only [Member.stop]
    omega
  · rw [List.length_singleton, sameAddressed, sameNamed, and_true]
    exact Nat.succ_le_iff

theorem handleEpno_isSome_iff :
    (handleEpno platform data).isSome ↔ EpnoFits platform data := by
  rw [handleEpno, EpnoFits]
  by_cases empty : data.length = 0
  · rw [if_pos empty, empty, Nat.zero_div, Nat.min_zero]
    exact iff_of_true rfl nofun
  rw [if_neg empty]
  dsimp only
  have loop : ((List.range (min platform.maxEpnoNetworks (data.length / pnoResultSize))).foldlM
      (epnoResult platform.scanResult data)
      (List.replicate (platform.scanResult.size * platform.maxEpnoNetworks) 0)).isSome ↔
      ∀ i ∈ List.range (min platform.maxEpnoNetworks (data.length / pnoResultSize)),
        EpnoResultFits platform data i := by
    apply foldlM_isSome_iff_forall fun results : List UInt8 =>
      results.length = platform.scanResult.size * platform.maxEpnoNetworks
    · intro results i occurs size
      have bounds := List.mem_range.mp occurs
      exact epnoResult_isSome_iff (by omega) (by omega) size
    · intro results i _ next size ran
      exact (length_of_epnoResult ran).trans size
    · exact List.length_replicate
  refine (bind_isSome_iff loop fun _ _ => iff_of_true rfl trivial).trans ?_
  simp only [List.mem_range, and_true]

theorem significantChange_isSome_iff {ci i : Nat} {results : List SignificantChange}
    (listed : i < maxResults) :
    (significantChange data ci results i).isSome ↔
      ci + changeInfoSize * i + changeInfoSize ≤ data.length := by
  rw [significantChange, if_pos listed, load_bind_isSome_iff, number_bind_isSome_iff,
    load_bind_isSome_iff, changeInfoSize, and_iff_left Option.isSome_some]
  omega

theorem handleSignificantChange_isSome_iff :
    (handleSignificantChange data).isSome ↔ SignificantChangeFits data := by
  rw [handleSignificantChange, SignificantChangeFits]
  dsimp only
  by_cases empty : data.length = 0
  · rw [if_pos empty]
    exact iff_of_true rfl fun found => absurd empty found
  rw [if_neg empty, imp_iff_right empty, number_bind_isSome_iff]
  apply and_congr_right
  intro header
  by_cases changes : numberAt data 2 2 = gscanEventSignificantChangeResults
  swap
  · rw [if_neg changes]
    exact iff_of_true rfl fun found => absurd found changes
  rw [if_pos changes, imp_iff_right changes]
  generalize atMost : min (data.length / changeInfoSize) maxResults = num
  have loop : ((List.range num).foldlM (significantChange data nlaHdrLen) []).isSome ↔
      ∀ i ∈ List.range num, nlaHdrLen + changeInfoSize * i + changeInfoSize ≤ data.length := by
    apply foldlM_isSome_iff_forall fun _ => True
    · intro results i occurs _
      have bounds := List.mem_range.mp occurs
      exact significantChange_isSome_iff (by omega)
    · exact fun _ _ _ _ _ _ => trivial
    · trivial
  refine (bind_isSome_iff loop fun _ _ => iff_of_true rfl trivial).trans ?_
  rw [and_true]
  cases num with
  | zero => exact iff_of_true nofun header
  | succ num =>
      simp only [List.mem_range]
      constructor
      · intro all
        have last := all num (Nat.lt_succ_self num)
        rw [Nat.mul_succ]
        omega
      · intro fits i before
        have upTo := Nat.mul_le_mul_left changeInfoSize (Nat.succ_le_of_lt before)
        rw [Nat.mul_succ] at upTo
        omega

theorem handleAnqpo_isSome_iff :
    (handleAnqpo platform allocator data).isSome ↔ AnqpoFits platform allocator data := by
  rw [handleAnqpo, AnqpoFits]
  dsimp only
  by_cases short : data.length < platform.scanResult.size
  · rw [if_pos short]
    exact iff_of_true rfl fun long => absurd long (Nat.not_le.mpr short)
  rw [if_neg short, imp_iff_right (Nat.not_lt.mp short)]
  cases allocated : allocator.malloc 0 platform.scanResult.size with
  | none => exact iff_of_true rfl nofun
  | some block =>
      have size : block.length = platform.scanResult.size :=
        allocator.length_eq _ _ _ allocated
      have inside := platform.scanResult.ieData_le
      rw [← size] at inside
      have conversion : (convertToHalResult platform.scanResult block data 0).isSome ↔
          0 + 76 ≤ data.length := convertToHalResult_isSome_iff inside
      have sizes : gscanIeData = 96 ∧ gscanIeLength = 92 := ⟨rfl, rfl⟩
      simp only [Option.mem_def, Option.some.injEq, forall_eq']
      cases converted : convertToHalResult platform.scanResult block data 0 with
      | none =>
          rw [converted] at conversion
          have outside : ¬ 0 + 76 ≤ data.length := fun within => nomatch conversion.mpr within
          exact iff_of_false nofun fun fits => outside (by omega)
      | some result =>
          rw [some_bind_eq, number_bind_isSome_iff, number_bind_isSome_iff, number_bind_isSome_iff,
            cString_bind_isSome_iff, and_iff_left Option.isSome_some, Nat.add_assoc _ 6 2]
          simp only [Option.some.injEq, forall_eq']
          rfl

end Scan

end X3Hal.Wifi
