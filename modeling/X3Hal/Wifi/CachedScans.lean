import X3Hal.Memory.Numbers

/-!
# The cached scans

`wifi_get_cached_gscan_results` asks the driver for scans until its caller's array is full, the
driver has no more of them, or it has asked ten times.  A reply has containers of attributes, one
for each scan.

Numbers of 32 bits that the caller gets unchanged are left as they are.  The results of the array
that are not written and the log lines are left out.
-/

namespace X3Hal.Wifi

open X3Hal.Memory

/-! ## Data -/

/-- `GSCAN_ATTRIBUTE_SCAN_RESULTS_COMPLETE` -/
def gscanAttributeScanResultsComplete : Nat := 21

/-- `GSCAN_ATTRIBUTE_NUM_OF_RESULTS` -/
def gscanAttributeNumOfResults : Nat := 30

/-- `GSCAN_ATTRIBUTE_SCAN_RESULTS` -/
def gscanAttributeScanResults : Nat := 32

/-- `GSCAN_ATTRIBUTE_SCAN_ID` -/
def gscanAttributeScanId : Nat := 33

/-- `GSCAN_ATTRIBUTE_SCAN_FLAGS` -/
def gscanAttributeScanFlags : Nat := 34

/-- `GSCAN_ATTRIBUTE_CH_BUCKET_BITMASK` -/
def gscanAttributeChBucketBitmask : Nat := 36

/-- `sizeof(wifi_gscan_result_t)` -/
def gscanResultSize : Nat := 88

/-- What the platform's header declares -/
structure CachedScanPlatform where
  /-- `sizeof(wifi_scan_result)` -/
  scanResultSize : Nat
  /-- `MAX_AP_CACHE_PER_SCAN` -/
  maxApCachePerScan : Nat

/-- The members of `wifi_scan_result` that are set -/
structure ScanResult where
  ts : Nat
  ssid : List UInt8
  bssid : List UInt8
  channel : Nat
  rssi : Int
  rtt : Nat
  rttSd : Nat
  beaconPeriod : Nat
  capability : Nat
  ieLength : Nat
  deriving DecidableEq

/-- `wifi_cached_scan_results`, with the results that are written -/
structure CachedScan where
  scanId : UInt32
  flags : UInt8
  numResults : Int
  bucketsScanned : UInt32
  results : List ScanResult
  deriving DecidableEq

/-- An attribute in a container: what its readers read, and its payload -/
structure ScanAttribute where
  type : Nat
  u8 : UInt8
  u32 : UInt32
  data : List UInt8
  deriving DecidableEq

/-- An attribute of a reply, with the attributes in it -/
structure ReplyAttribute where
  type : Nat
  u8 : UInt8
  nested : List ScanAttribute

/-- The vendor data of a reply; `none` when the reply is ignored -/
abbrev ScanReply := Option (List ReplyAttribute)

/-! ## The replies -/

/-- `scan_id`, `flags`, `num` and `scan_ch_bucket_mask` -/
structure ScanLocals where
  scanId : UInt32
  flags : UInt8
  num : Int
  scanChBucketMask : UInt32
  deriving DecidableEq

/-- `convert_to_hal_result` and the length of the elements, from a `wifi_gscan_result_t` -/
def scanResultAt (data : List UInt8) (offset : Nat) : ScanResult where
  ts := numberAt data offset 8
  ssid := (data.drop (offset + 8)).take 33
  bssid := (data.drop (offset + 41)).take 6
  channel := numberAt data (offset + 48) 4
  rssi := signed 4 (numberAt data (offset + 52) 4)
  rtt := numberAt data (offset + 56) 8
  rttSd := numberAt data (offset + 64) 8
  beaconPeriod := numberAt data (offset + 72) 2
  capability := numberAt data (offset + 74) 2
  ieLength := numberAt data (offset + 76) 4

/-- The first results of an attribute -/
def scanResults (data : List UInt8) (num : Int) : List ScanResult :=
  (List.range num.toNat).map fun i => scanResultAt data (gscanResultSize * i)

/-- What is stored for a `GSCAN_ATTRIBUTE_SCAN_RESULTS`, once `num` is bounded -/
def ScanLocals.scan (locals : ScanLocals) (data : List UInt8) : CachedScan :=
  ⟨locals.scanId, locals.flags, locals.num, locals.scanChBucketMask, scanResults data locals.num⟩

/-- The inner loop of `GetScanResultsCommand::handleResponse`; `mRetrieved` is the number of the
scans. -/
def storeScans (platform : CachedScanPlatform) (max : Int) :
    List ScanAttribute → ScanLocals → List CachedScan → List CachedScan
  | [], _, scans => scans
  | nla :: nlas, locals, scans =>
      if nla.type = gscanAttributeScanId then
        storeScans platform max nlas { locals with scanId := nla.u32 } scans
      else if nla.type = gscanAttributeScanFlags then
        storeScans platform max nlas { locals with flags := nla.u8 } scans
      else if nla.type = gscanAttributeNumOfResults then
        storeScans platform max nlas { locals with num := signed 4 nla.u32.toNat } scans
      else if nla.type = gscanAttributeChBucketBitmask then
        storeScans platform max nlas { locals with scanChBucketMask := nla.u32 } scans
      else if nla.type = gscanAttributeScanResults ∧ locals.num ≠ 0 then
        -- the `break`
        if scans.length ≥ max then scans
        else
          let num := min locals.num ↑(nla.data.length / platform.scanResultSize)
          let locals := { locals with num := min num platform.maxApCachePerScan }
          storeScans platform max nlas locals (scans ++ [locals.scan nla.data])
      else storeScans platform max nlas locals scans

/-- What the command keeps from one reply to the next -/
structure ScanState where
  /-- `mScans` up to `mRetrieved` -/
  scans : List CachedScan
  /-- `mCompleted` -/
  completed : UInt8
  deriving DecidableEq

/-- A round of the outer loop -/
def replyAttribute (platform : CachedScanPlatform) (max : Int) (state : ScanState)
    (nla : ReplyAttribute) : ScanState :=
  if nla.type = gscanAttributeScanResultsComplete then { state with completed := nla.u8 }
  else if nla.type ≥ gscanAttributeNumOfResults ∧ nla.type ≤ gscanAttributeChBucketBitmask then
    { state with scans := storeScans platform max nla.nested ⟨0, 0, 0, 0⟩ state.scans }
  else state

/-- `GetScanResultsCommand::handleResponse` -/
def handleScanReply (platform : CachedScanPlatform) (max : Int) (state : ScanState)
    (reply : ScanReply) : ScanState :=
  match reply with
  | none => state
  | some attributes => attributes.foldl (replyAttribute platform max) state

/-! ## The requests -/

/-- What becomes of a request -/
inductive ScanPage (Reply : Type)
  /-- It is not created. -/
  | failed (result : Int) (negative : result < 0)
  /-- It is answered by replies, and `requestResponse` returns a result. -/
  | answered (replies : List Reply) (result : Int)

/-- What the caller gets -/
structure ScanOutcome where
  scans : List CachedScan
  /-- how many requests were made -/
  requests : Nat
  returned : Int
  /-- `*mNum`, when it is set -/
  num : Option Nat
  deriving DecidableEq

/-- The loop of `GetScanResultsCommand::execute` over what becomes of its requests -/
def executeScans (platform : CachedScanPlatform) (max : Int) :
    List (ScanPage ScanReply) → Nat → ScanState → ScanOutcome
  | [], requests, state => ⟨state.scans, requests, 0, some state.scans.length⟩
  | page :: pages, requests, state =>
      if state.scans.length < max then
        match page with
        | .failed result _ => ⟨state.scans, requests + 1, result, none⟩
        | .answered replies result =>
            let after := replies.foldl (handleScanReply platform max) state
            if result ≠ 0 then ⟨after.scans, requests + 1, result, none⟩
            else if after.scans.length = state.scans.length ∨ after.completed ≠ 0 then
              ⟨after.scans, requests + 1, 0, some after.scans.length⟩
            else executeScans platform max pages (requests + 1) after
      else ⟨state.scans, requests, 0, some state.scans.length⟩

/-- `wifi_get_cached_gscan_results`, with memory for the command -/
def getCachedGscanResults (platform : CachedScanPlatform) (max : Int)
    (pages : Nat → ScanPage ScanReply) : ScanOutcome :=
  executeScans platform max ((List.range 10).map pages) 0 ⟨[], 0⟩

/-! ## The scans of a reply -/

/-- A container of a scan: attributes about it, then its results if it has any -/
structure ScanContainer where
  type : Nat
  isContainer : gscanAttributeNumOfResults ≤ type ∧ type ≤ gscanAttributeChBucketBitmask
  about : List ScanAttribute
  plain : ∀ nla ∈ about, nla.type ≠ gscanAttributeScanResults
  results : Option (List UInt8)

/-- A part of a reply -/
inductive ReplyPart
  | complete (flag : UInt8)
  | scan (container : ScanContainer)
  | other (type : Nat) (nested : List ScanAttribute)
      (unknown : type ≠ gscanAttributeScanResultsComplete ∧
        ¬ (gscanAttributeNumOfResults ≤ type ∧ type ≤ gscanAttributeChBucketBitmask))

/-- The attributes of a container -/
def ScanContainer.nested (container : ScanContainer) : List ScanAttribute :=
  container.about ++ (container.results.map fun data =>
    ⟨gscanAttributeScanResults, 0, 0, data⟩).toList

def ReplyPart.attribute : ReplyPart → ReplyAttribute
  | .complete flag => ⟨gscanAttributeScanResultsComplete, flag, []⟩
  | .scan container => ⟨container.type, 0, container.nested⟩
  | .other type nested _ => ⟨type, 0, nested⟩

/-- What a container says about its scan -/
structure ReportedScan where
  scanId : UInt32
  flags : UInt8
  /-- the number of results that is announced -/
  count : UInt32
  bucketMask : UInt32
  results : List UInt8
  deriving DecidableEq

/-- The last attribute of a type has the value. -/
def lastOf {α : Type} (value : ScanAttribute → α) (type : Nat) (default : α)
    (nlas : List ScanAttribute) : α :=
  nlas.foldl (fun last nla => if nla.type = type then value nla else last) default

def ScanContainer.reported (container : ScanContainer) : Option ReportedScan :=
  container.results.map fun data =>
    { scanId := lastOf ScanAttribute.u32 gscanAttributeScanId 0 container.about
      flags := lastOf ScanAttribute.u8 gscanAttributeScanFlags 0 container.about
      count := lastOf ScanAttribute.u32 gscanAttributeNumOfResults 0 container.about
      bucketMask := lastOf ScanAttribute.u32 gscanAttributeChBucketBitmask 0 container.about
      results := data }

/-- How many results a scan has: those that are announced, are there, and have room -/
def ReportedScan.size (platform : CachedScanPlatform) (scan : ReportedScan) : Nat :=
  min (min scan.count.toNat (scan.results.length / gscanResultSize)) platform.maxApCachePerScan

/-- A scan with its results, as it should be stored -/
def ReportedScan.stored (platform : CachedScanPlatform) (scan : ReportedScan) : CachedScan :=
  ⟨scan.scanId, scan.flags, scan.size platform, scan.bucketMask,
    scanResults scan.results (scan.size platform)⟩

def ReplyPart.scan? : ReplyPart → Option ReportedScan
  | .scan container => container.reported
  | .complete _ | .other _ _ _ => none

/-- The scans of a reply, in order -/
def scansOf (reply : List ReplyPart) : List ReportedScan :=
  reply.filterMap ReplyPart.scan?

/-- A page of replies that are given by their parts; `none` for a reply that is ignored -/
abbrev PartsPage := ScanPage (Option (List ReplyPart))

/-- The page as the command gets it -/
def ScanPage.attributes : PartsPage → ScanPage ScanReply
  | .failed result negative => .failed result negative
  | .answered replies result => .answered (replies.map (Option.map (List.map ReplyPart.attribute)))
      result

def ScanPage.parts : PartsPage → List ReplyPart
  | .failed _ _ => []
  | .answered replies _ => replies.flatMap (Option.getD · [])

/-- The last completion flag, or the one before -/
def completeFlag (flag : UInt8) : ReplyPart → UInt8
  | .complete last => last
  | .scan _ | .other _ _ _ => flag

/-- The scans that announce results -/
def keptScans (scans : List ReportedScan) : List ReportedScan :=
  scans.filter fun scan => scan.count ≠ 0

/-- The driver has answered with more scans, and does not say that they are all. -/
def ScanPage.GoesOn (page : PartsPage) : Prop :=
  (∃ replies, page = .answered replies 0) ∧ keptScans (scansOf page.parts) ≠ [] ∧
    page.parts.foldl completeFlag 0 = 0

instance (page : PartsPage) : Decidable page.GoesOn :=
  match page with
  | .failed _ _ => isFalse fun goesOn => nomatch goesOn.1
  | .answered replies result =>
      decidable_of_iff (result = 0 ∧ _ ∧ _)
        ⟨fun ⟨same, more⟩ => ⟨⟨replies, congrArg _ same⟩, more⟩,
          fun ⟨⟨_, same⟩, more⟩ => ⟨(ScanPage.answered.inj same).2, more⟩⟩

/-- The pages that are asked for when so many scans are there -/
def pagesReceived (max : Int) : Nat → List PartsPage → List PartsPage
  | _, [] => []
  | count, page :: pages =>
      if count < max then
        page ::
          if page.GoesOn then
            pagesReceived max (count + (keptScans (scansOf page.parts)).length) pages
          else []
      else []

/-- All scans that the driver has answered with -/
def scansReceived (max : Int) (pages : Nat → PartsPage) : List ReportedScan :=
  (pagesReceived max 0 ((List.range 10).map pages)).flatMap fun page => scansOf page.parts

/-- The first scans are stored as they were reported, and counted. -/
structure CachedScansExact (platform : CachedScanPlatform) (max : Int) (pages : Nat → PartsPage)
    (outcome : ScanOutcome) : Prop where
  stored : outcome.scans =
    ((scansReceived max pages).take max.toNat).map (ReportedScan.stored platform)
  inside : ∀ (i : Nat) reported stored, (scansReceived max pages)[i]? = some reported →
    outcome.scans[i]? = some stored →
    0 ≤ stored.numResults ∧ stored.numResults ≤ platform.maxApCachePerScan ∧
      stored.numResults * gscanResultSize ≤ reported.results.length
  num : outcome.returned = 0 → outcome.num = some outcome.scans.length
  length_le : outcome.scans.length ≤ max
  requests : outcome.requests =
    (pagesReceived max 0 ((List.range 10).map pages)).length ∧ outcome.requests ≤ 10

/-- The scans that are stored announce less than `2 ^ 31` results, and those that announce none
make no difference. -/
def ScansKept (platform : CachedScanPlatform) (max : Int) (scans : List ReportedScan) : Prop :=
  (∀ scan ∈ (keptScans scans).take max.toNat, scan.count.toNat < 2 ^ 31) ∧
    ((keptScans scans).take max.toNat).map (ReportedScan.stored platform) =
      (scans.take max.toNat).map (ReportedScan.stored platform)

/-! ## What the command makes of a reply -/

/-- `num` of a scan -/
def ReportedScan.num (platform : CachedScanPlatform) (scan : ReportedScan) : Int :=
  min (min (signed 4 scan.count.toNat) ↑(scan.results.length / platform.scanResultSize))
    platform.maxApCachePerScan

/-- A scan as it is stored -/
def ReportedScan.copied (platform : CachedScanPlatform) (scan : ReportedScan) : CachedScan :=
  ⟨scan.scanId, scan.flags, scan.num platform, scan.bucketMask,
    scanResults scan.results (scan.num platform)⟩

def storeScan (platform : CachedScanPlatform) (max : Int) (scans : List CachedScan)
    (scan : ReportedScan) : List CachedScan :=
  if scan.count = 0 ∨ scans.length ≥ max then scans else scans ++ [scan.copied platform]

section Replies

variable {platform : CachedScanPlatform} {max : Int}

/-- The locals that attributes about a scan leave -/
def localsOf (about : List ScanAttribute) (scanId : UInt32) (flags : UInt8) (count : UInt32)
    (bucketMask : UInt32) : ScanLocals :=
  { scanId := lastOf ScanAttribute.u32 gscanAttributeScanId scanId about
    flags := lastOf ScanAttribute.u8 gscanAttributeScanFlags flags about
    num := signed 4 (lastOf ScanAttribute.u32 gscanAttributeNumOfResults count about).toNat
    scanChBucketMask := lastOf ScanAttribute.u32 gscanAttributeChBucketBitmask bucketMask about }

theorem storeScans_about {about rest : List ScanAttribute} {scans : List CachedScan}
    (plain : ∀ nla ∈ about, nla.type ≠ gscanAttributeScanResults)
    (scanId : UInt32) (flags : UInt8) (count bucketMask : UInt32) :
    storeScans platform max (about ++ rest)
        ⟨scanId, flags, signed 4 count.toNat, bucketMask⟩ scans =
      storeScans platform max rest (localsOf about scanId flags count bucketMask) scans := by
  induction about generalizing scanId flags count bucketMask with
  | nil => rfl
  | cons nla about ih =>
      have later := ih fun other among => plain other (List.mem_cons_of_mem _ among)
      have notResults := plain nla List.mem_cons_self
      rw [List.cons_append, storeScans]
      by_cases isId : nla.type = gscanAttributeScanId
      · rw [if_pos isId, later]
        simp [localsOf, lastOf, isId, gscanAttributeScanId, gscanAttributeScanFlags,
          gscanAttributeNumOfResults, gscanAttributeChBucketBitmask]
      by_cases isFlags : nla.type = gscanAttributeScanFlags
      · rw [if_neg isId, if_pos isFlags, later]
        simp [localsOf, lastOf, isFlags, gscanAttributeScanId, gscanAttributeScanFlags,
          gscanAttributeNumOfResults, gscanAttributeChBucketBitmask]
      by_cases isNum : nla.type = gscanAttributeNumOfResults
      · rw [if_neg isId, if_neg isFlags, if_pos isNum, later]
        simp [localsOf, lastOf, isNum, gscanAttributeScanId, gscanAttributeScanFlags,
          gscanAttributeNumOfResults, gscanAttributeChBucketBitmask]
      by_cases isMask : nla.type = gscanAttributeChBucketBitmask
      · rw [if_neg isId, if_neg isFlags, if_neg isNum, if_pos isMask, later]
        simp [localsOf, lastOf, isMask, gscanAttributeScanId, gscanAttributeScanFlags,
          gscanAttributeNumOfResults, gscanAttributeChBucketBitmask]
      · rw [if_neg isId, if_neg isFlags, if_neg isNum, if_neg isMask,
          if_neg fun found => notResults found.1, later]
        simp [localsOf, lastOf, isId, isFlags, isNum, isMask]

theorem signed_eq_zero_iff (value : UInt32) : signed 4 value.toNat = 0 ↔ value = 0 := by
  have bound := value.toNat_lt
  rw [← UInt32.toNat_inj, UInt32.toNat_zero, signed]
  split <;> omega

/-- A container stores its scan when it announces results and there is room. -/
theorem storeScans_nested (container : ScanContainer) (scans : List CachedScan) :
    storeScans platform max container.nested ⟨0, 0, 0, 0⟩ scans =
      container.reported.toList.foldl (storeScan platform max) scans := by
  have zero : signed 4 (0 : UInt32).toNat = 0 := by decide
  rw [ScanContainer.nested, ScanContainer.reported, ← zero, storeScans_about container.plain]
  cases container.results with
  | none => rfl
  | some data =>
      have isId : gscanAttributeScanResults ≠ gscanAttributeScanId := by decide
      have isFlags : gscanAttributeScanResults ≠ gscanAttributeScanFlags := by decide
      have isNum : gscanAttributeScanResults ≠ gscanAttributeNumOfResults := by decide
      have isMask : gscanAttributeScanResults ≠ gscanAttributeChBucketBitmask := by decide
      rw [Option.map_some, Option.map_some, Option.toList_some, Option.toList_some, storeScans,
        if_neg isId, if_neg isFlags, if_neg isNum, if_neg isMask, List.foldl_cons,
        List.foldl_nil, storeScan]
      by_cases announced :
          lastOf ScanAttribute.u32 gscanAttributeNumOfResults 0 container.about = 0
      · have none : (localsOf container.about 0 0 0 0).num = 0 := by
          rw [localsOf, announced, zero]
        rw [if_neg fun found => found.2 none, if_pos (Or.inl announced)]
        rfl
      · have some : (localsOf container.about 0 0 0 0).num ≠ 0 :=
          mt (signed_eq_zero_iff _).mp announced
        rw [if_pos ⟨rfl, some⟩]
        by_cases full : scans.length ≥ max
        · rw [if_pos full, if_pos (Or.inr full)]
        · rw [if_neg full, if_neg (not_or.mpr ⟨announced, full⟩)]
          rfl

/-- A part of a reply -/
theorem replyAttribute_part (state : ScanState) (part : ReplyPart) :
    replyAttribute platform max state part.attribute =
      ⟨part.scan?.toList.foldl (storeScan platform max) state.scans,
        completeFlag state.completed part⟩ := by
  cases part with
  | complete flag => rfl
  | scan container =>
      have apart : container.type ≠ gscanAttributeScanResultsComplete := by
        intro same
        have inside := container.isContainer.1
        rw [same] at inside
        revert inside
        decide
      rw [ReplyPart.attribute, ReplyPart.scan?, replyAttribute, if_neg apart,
        if_pos container.isContainer, storeScans_nested]
      rfl
  | other type nested unknown =>
      rw [ReplyPart.attribute, ReplyPart.scan?, replyAttribute, if_neg unknown.1,
        if_neg unknown.2]
      rfl

theorem foldl_replyAttribute (parts : List ReplyPart) (state : ScanState) :
    (parts.map ReplyPart.attribute).foldl (replyAttribute platform max) state =
      ⟨(scansOf parts).foldl (storeScan platform max) state.scans,
        parts.foldl completeFlag state.completed⟩ := by
  induction parts generalizing state with
  | nil => rfl
  | cons part parts ih =>
      rw [List.map_cons, List.foldl_cons, replyAttribute_part, ih, List.foldl_cons, scansOf,
        scansOf]
      cases found : part.scan? with
      | none => rw [List.filterMap_cons_none found]; rfl
      | some scan => rw [List.filterMap_cons_some found]; rfl

theorem foldl_handleScanReply (replies : List (Option (List ReplyPart))) (state : ScanState) :
    (replies.map (Option.map (List.map ReplyPart.attribute))).foldl
        (handleScanReply platform max) state =
      ⟨(scansOf (replies.flatMap (Option.getD · []))).foldl (storeScan platform max) state.scans,
        (replies.flatMap (Option.getD · [])).foldl completeFlag state.completed⟩ := by
  induction replies generalizing state with
  | nil => rfl
  | cons reply replies ih =>
      rw [List.map_cons, List.foldl_cons, List.flatMap_cons, scansOf, List.filterMap_append,
        List.foldl_append, List.foldl_append, ih]
      cases reply with
      | none => rfl
      | some parts =>
          rw [Option.map_some, handleScanReply, foldl_replyAttribute]
          rfl

/-- The scans that announce results are stored while there is room. -/
theorem foldl_storeScan {room : Nat} {stored : List CachedScan} (fits : stored.length ≤ room)
    (scans : List ReportedScan) :
    scans.foldl (storeScan platform room) stored =
      (stored ++ (keptScans scans).map (ReportedScan.copied platform)).take room := by
  induction scans generalizing stored with
  | nil =>
      rw [List.foldl_nil, keptScans, List.filter_nil, List.map_nil, List.append_nil,
        List.take_of_length_le fits]
  | cons scan scans ih =>
      rw [List.foldl_cons, storeScan, keptScans, List.filter_cons]
      by_cases announced : scan.count = 0
      · rw [if_pos (Or.inl announced), if_neg (by simp [announced]), ih fits]
        rfl
      rw [if_pos (decide_eq_true announced), List.map_cons]
      by_cases full : stored.length ≥ room
      · have whole : stored.length = room := Nat.le_antisymm fits full
        rw [if_pos (Or.inr (Int.ofNat_le.mpr full)), ih fits, List.take_left' whole,
          List.take_left' whole]
      · have more : (stored ++ [scan.copied platform]).length ≤ room := by
          rw [List.length_append, List.length_singleton]
          omega
        rw [if_neg (not_or.mpr ⟨announced, by omega⟩), ih more, List.append_assoc]
        rfl

end Replies

/-! ## The loop -/

section Loop

variable {platform : CachedScanPlatform} {room : Nat}

variable (platform) in
/-- The page and what was received before it -/
theorem foldl_answered (earlier : List ReportedScan) (replies : List (Option (List ReplyPart)))
    (within : earlier.length ≤ room) (result : Int) :
    (replies.map (Option.map (List.map ReplyPart.attribute))).foldl
        (handleScanReply platform room) ⟨earlier.map (ReportedScan.copied platform), 0⟩ =
      ⟨((earlier ++ keptScans (scansOf (ScanPage.answered replies result).parts)).map
          (ReportedScan.copied platform)).take room,
        (ScanPage.answered replies result).parts.foldl completeFlag 0⟩ := by
  have fits : (earlier.map (ReportedScan.copied platform)).length ≤ room := by
    rwa [List.length_map]
  rw [foldl_handleScanReply, foldl_storeScan fits, List.map_append]
  rfl

theorem goesOn_answered_iff (replies : List (Option (List ReplyPart))) (result : Int) :
    (ScanPage.answered replies result).GoesOn ↔ result = 0 ∧
      keptScans (scansOf (ScanPage.answered replies result).parts) ≠ [] ∧
      (ScanPage.answered replies result).parts.foldl completeFlag 0 = 0 := by
  constructor
  · rintro ⟨⟨_, same⟩, more⟩
    exact ⟨(ScanPage.answered.inj same).2, more⟩
  · rintro ⟨rfl, more⟩
    exact ⟨⟨replies, rfl⟩, more⟩

theorem executeScans_full {pages : List (ScanPage ScanReply)} {requests : Nat} {state : ScanState}
    (full : ¬ (state.scans.length : Int) < room) :
    executeScans platform room pages requests state =
      ⟨state.scans, requests, 0, some state.scans.length⟩ := by
  cases pages with
  | nil => rfl
  | cons page pages => rw [executeScans.eq_def]; exact if_neg full

/-- A request goes out, and the loop goes on when it has brought more. -/
theorem executeScans_cons {page : ScanPage ScanReply} {pages : List (ScanPage ScanReply)}
    {requests : Nat} {state : ScanState} (goes : (state.scans.length : Int) < room) :
    executeScans platform room (page :: pages) requests state =
      match page with
      | .failed result _ => ⟨state.scans, requests + 1, result, none⟩
      | .answered replies result =>
          let after := replies.foldl (handleScanReply platform room) state
          if result ≠ 0 then ⟨after.scans, requests + 1, result, none⟩
          else if after.scans.length = state.scans.length ∨ after.completed ≠ 0 then
            ⟨after.scans, requests + 1, 0, some after.scans.length⟩
          else executeScans platform room pages (requests + 1) after := by
  rw [executeScans.eq_def]
  exact if_pos goes

variable (platform) in
/-- A round of the loop stores what the page adds.  The loop goes on with the other pages when the
page brings it on, and reports what it has otherwise. -/
theorem executeScans_page (page : PartsPage) (pages : List PartsPage) {earlier : List ReportedScan}
    (more : (earlier.length : Int) < room) (requests : Nat) :
    let run := executeScans platform room ((page :: pages).map ScanPage.attributes) requests
      ⟨earlier.map (ReportedScan.copied platform), 0⟩
    let after := ((earlier ++ keptScans (scansOf page.parts)).map
      (ReportedScan.copied platform)).take room
    if page.GoesOn then
      run = executeScans platform room (pages.map ScanPage.attributes) (requests + 1) ⟨after, 0⟩
    else
      ∃ returned num, run = ⟨after, requests + 1, returned, num⟩ ∧
        (returned = 0 → num = some after.length) := by
  have bound : earlier.length ≤ room := by omega
  have goes : ((earlier.map (ReportedScan.copied platform)).length : Int) < room := by
    rwa [List.length_map]
  dsimp only
  rw [List.map_cons, executeScans_cons goes]
  cases page with
  | failed result negative =>
      have ends : ¬ (ScanPage.failed result negative : PartsPage).GoesOn := fun goesOn =>
        nomatch goesOn.1
      have within : (earlier.map (ReportedScan.copied platform)).take room =
          earlier.map (ReportedScan.copied platform) :=
        List.take_of_length_le (by rwa [List.length_map])
      rw [ScanPage.attributes, if_neg ends, ScanPage.parts, scansOf, List.filterMap_nil, keptScans,
        List.filter_nil, List.append_nil, within]
      exact ⟨result, none, rfl, fun same => absurd same (ne_of_lt negative)⟩
  | answered replies result =>
      have answered := foldl_answered platform earlier replies bound result
      have continues := goesOn_answered_iff replies result
      rw [ScanPage.attributes]
      dsimp only
      rw [answered]
      generalize (ScanPage.answered replies result : PartsPage) = page at continues ⊢
      generalize keptScans (scansOf page.parts) = kept at continues ⊢
      generalize page.parts.foldl completeFlag 0 = flag at continues ⊢
      by_cases failed : result = 0
      swap
      · rw [if_pos failed, if_neg fun goesOn => failed (continues.mp goesOn).1]
        exact ⟨result, none, rfl, fun same => absurd same failed⟩
      have sameIff : (((earlier ++ kept).map (ReportedScan.copied platform)).take room).length =
          (earlier.map (ReportedScan.copied platform)).length ↔ kept = [] := by
        rw [List.length_take, List.length_map, List.length_map, List.length_append,
          ← List.length_eq_zero_iff]
        omega
      rw [if_neg (not_not.mpr failed)]
      by_cases ends : kept = [] ∨ flag ≠ 0
      · have stops : ¬ page.GoesOn := fun goesOn =>
          ends.elim (continues.mp goesOn).2.1 fun set => set (continues.mp goesOn).2.2
        rw [if_pos (ends.imp_left sameIff.mpr), if_neg stops]
        exact ⟨0, _, rfl, fun _ => rfl⟩
      · obtain ⟨some, unset⟩ := not_or.mp ends
        rw [if_pos (continues.mpr ⟨failed, some, not_not.mp unset⟩),
          if_neg fun found => ends (found.imp_left sameIff.mp), not_not.mp unset]

variable (platform room) in
theorem executeScans_exact (pages : List PartsPage) (earlier : List ReportedScan)
    (requests : Nat) :
    let received := pagesReceived room earlier.length pages
    let outcome := executeScans platform room (pages.map ScanPage.attributes) requests
      ⟨(earlier.map (ReportedScan.copied platform)).take room, 0⟩
    outcome.scans =
        ((earlier ++ received.flatMap fun page => keptScans (scansOf page.parts)).map
          (ReportedScan.copied platform)).take room ∧
      outcome.requests = requests + received.length ∧
      (outcome.returned = 0 → outcome.num = some outcome.scans.length) := by
  induction pages generalizing earlier requests with
  | nil => simp [pagesReceived, executeScans]
  | cons page pages ih =>
      dsimp only
      have length : ((earlier.map (ReportedScan.copied platform)).take room).length =
          min room earlier.length := by
        rw [List.length_take, List.length_map]
      by_cases more : (earlier.length : Int) < room
      swap
      · rw [List.map_cons, executeScans_full (by rw [length]; omega), pagesReceived, if_neg more]
        simp
      have within : (earlier.map (ReportedScan.copied platform)).take room =
          earlier.map (ReportedScan.copied platform) := by
        apply List.take_of_length_le
        rw [List.length_map]
        omega
      have round := executeScans_page platform page pages more requests
      rw [within, pagesReceived, if_pos more]
      dsimp only at round
      split at round
      case isTrue goesOn =>
        rw [round, if_pos goesOn, List.flatMap_cons, ← List.append_assoc, List.length_cons]
        obtain ⟨scans, made, num⟩ := ih (earlier ++ keptScans (scansOf page.parts)) (requests + 1)
        rw [List.length_append] at scans made
        refine ⟨scans, ?_, num⟩
        rw [made]
        omega
      case isFalse stops =>
        obtain ⟨returned, num, ends, counts⟩ := round
        rw [ends, if_neg stops, List.flatMap_singleton]
        exact ⟨rfl, rfl, counts⟩

end Loop

/-! ## The first scans -/

section Exact

variable {platform : CachedScanPlatform} {max : Int} {pages : Nat → PartsPage}

theorem length_pagesReceived_le (pages : List PartsPage) (count : Nat) :
    (pagesReceived max count pages).length ≤ pages.length := by
  induction pages generalizing count with
  | nil => exact Nat.le_refl _
  | cons page pages ih =>
      rw [pagesReceived]
      split
      · rw [List.length_cons, List.length_cons]
        split
        · exact Nat.succ_le_succ (ih _)
        · exact Nat.succ_le_succ (Nat.zero_le _)
      · exact Nat.zero_le _

theorem keptScans_flatMap (pages : List PartsPage) :
    keptScans (pages.flatMap fun page => scansOf page.parts) =
      pages.flatMap fun page => keptScans (scansOf page.parts) := by
  rw [keptScans, List.filter_flatMap]
  rfl

/-- A scan that announces so many results is stored as it was reported; another has a negative
number of them. -/
theorem copied_eq_stored (same : platform.scanResultSize = gscanResultSize) {scan : ReportedScan}
    (small : scan.count.toNat < 2 ^ 31) : scan.copied platform = scan.stored platform := by
  have num : scan.num platform = scan.size platform := by
    rw [ReportedScan.num, ReportedScan.size, same, signed, if_pos (by omega)]
    omega
  rw [ReportedScan.copied, ReportedScan.stored, num]

variable (platform) in
theorem num_neg {scan : ReportedScan} (large : ¬ scan.count.toNat < 2 ^ 31) :
    scan.num platform < 0 := by
  have bound := scan.count.toNat_lt
  rw [ReportedScan.num, signed, if_neg (by omega)]
  omega

/-- Scans that were stored as others were reported announce small numbers. -/
theorem small_of_stored {copied reported : List ReportedScan}
    (same : copied.map (ReportedScan.copied platform) =
      reported.map (ReportedScan.stored platform)) :
    ∀ scan ∈ copied, scan.count.toNat < 2 ^ 31 := by
  intro scan among
  by_contra large
  obtain ⟨other, -, isOther⟩ := List.mem_map.mp (same ▸ List.mem_map_of_mem among)
  have counted : (other.size platform : Int) = scan.num platform :=
    congrArg CachedScan.numResults isOther
  have := num_neg platform large
  omega

variable (platform) in
/-- The results that are counted lie within the attribute. -/
theorem size_inside (scan : ReportedScan) :
    scan.size platform ≤ platform.maxApCachePerScan ∧
      scan.size platform * gscanResultSize ≤ scan.results.length := by
  refine ⟨Nat.min_le_right _ _, ?_⟩
  calc scan.size platform * gscanResultSize
      ≤ scan.results.length / gscanResultSize * gscanResultSize :=
        Nat.mul_le_mul_right _ ((Nat.min_le_left _ _).trans (Nat.min_le_right _ _))
    _ ≤ scan.results.length := Nat.div_mul_le_self _ _

variable (platform) in
/-- What the command stores and counts, whatever the replies announce -/
theorem getCachedGscanResults_eq (room : Nat) (pages : Nat → PartsPage) :
    let outcome := getCachedGscanResults platform room fun i => (pages i).attributes
    outcome.scans = ((keptScans (scansReceived room pages)).take room).map
        (ReportedScan.copied platform) ∧
      outcome.requests = (pagesReceived room 0 ((List.range 10).map pages)).length ∧
      (outcome.returned = 0 → outcome.num = some outcome.scans.length) := by
  have exact := executeScans_exact platform room
    ((List.range 10).map pages) [] 0
  dsimp only at exact ⊢
  rw [List.map_map, List.length_nil, Nat.zero_add, List.nil_append, ← keptScans_flatMap,
    List.map_nil, List.take_nil] at exact
  rw [getCachedGscanResults, List.map_take]
  exact exact

/-- The cached scans are retrieved as they should exactly when the first scans announce what the
command keeps. -/
theorem cachedScansExact_iff (same : platform.scanResultSize = gscanResultSize) :
    CachedScansExact platform max pages
        (getCachedGscanResults platform max fun i => (pages i).attributes) ↔
      0 ≤ max ∧ ScansKept platform max (scansReceived max pages) := by
  by_cases negative : max < 0
  · refine iff_of_false (fun exact => ?_) fun kept => ?_
    · have := exact.length_le
      omega
    · omega
  obtain ⟨room, rfl⟩ := Int.eq_ofNat_of_zero_le (not_lt.mp negative)
  obtain ⟨scans, requests, num⟩ := getCachedGscanResults_eq platform room pages
  generalize (getCachedGscanResults platform room fun i => (pages i).attributes) = outcome at *
  rw [and_iff_right (Int.natCast_nonneg room)]
  constructor
  · intro exact
    have stored := exact.stored
    rw [Int.toNat_natCast, scans] at stored
    have small := small_of_stored stored
    refine ⟨by rwa [Int.toNat_natCast], ?_⟩
    rw [Int.toNat_natCast, ← stored]
    exact List.map_congr_left fun scan among => (copied_eq_stored same (small scan among)).symm
  · rintro ⟨small, kept⟩
    rw [Int.toNat_natCast] at small kept
    have stored : outcome.scans =
        ((scansReceived room pages).take room).map (ReportedScan.stored platform) := by
      rw [scans, ← kept]
      exact List.map_congr_left fun scan among => copied_eq_stored same (small scan among)
    refine ⟨by rwa [Int.toNat_natCast], ?_, num, ?_, requests, ?_⟩
    · intro i reported scan isReported isStored
      rw [stored, List.getElem?_map, List.getElem?_take, isReported] at isStored
      split at isStored
      case isTrue =>
        obtain rfl := Option.some.inj isStored
        have inside := size_inside platform reported
        refine ⟨Int.natCast_nonneg _, Int.ofNat_le.mpr inside.1, ?_⟩
        rw [ReportedScan.stored, ← Int.natCast_mul]
        exact Int.ofNat_le.mpr inside.2
      case isFalse => cases isStored
    · rw [stored, List.length_map, List.length_take]
      omega
    · rw [requests]
      calc (pagesReceived room 0 ((List.range 10).map pages)).length
          ≤ ((List.range 10).map pages).length := length_pagesReceived_le _ _
        _ = 10 := by rw [List.length_map, List.length_range]

end Exact

/-- Results of the driver's size -/
def cachedPlatform : CachedScanPlatform :=
  ⟨88, 32⟩

/-- A container with an id, a number of results, and so many bytes of them -/
def scanPart (scanId count : UInt32) (bytes : Nat) : ReplyPart :=
  .scan
    { type := gscanAttributeScanResults
      isContainer := by decide
      about := [⟨gscanAttributeScanId, 0, scanId, []⟩, ⟨gscanAttributeNumOfResults, 0, count, []⟩]
      plain := by
        simp [gscanAttributeScanId, gscanAttributeNumOfResults, gscanAttributeScanResults]
      results := some (List.replicate bytes 7) }

/-- One scan, then two of which the last is short, and no more -/
def twoPages : Nat → PartsPage
  | 0 => .answered [some [scanPart 1 2 176]] 0
  | _ => .answered [none, some [scanPart 2 1 88, .complete 1, scanPart 3 2 100]] 0

/-- Three scans over two requests -/
theorem cachedScansExact_two : CachedScansExact cachedPlatform 5 twoPages
    (getCachedGscanResults cachedPlatform 5 fun i => (twoPages i).attributes) :=
  (cachedScansExact_iff rfl).mpr ⟨by decide, by decide +kernel, by decide +kernel⟩

/-- What goes wrong: a count of `2 ^ 31` is stored as a negative number of results; and a scan
without results is not stored. -/
theorem cachedScans_negative :
    (∃ pages : Nat → PartsPage, pages 0 = .answered [some [scanPart 1 2147483648 88]] 0 ∧
      ¬ CachedScansExact cachedPlatform 5 pages
        (getCachedGscanResults cachedPlatform 5 fun i => (pages i).attributes)) ∧
    ∃ pages : Nat → PartsPage, pages 0 = .answered [some [scanPart 1 0 0, scanPart 2 1 88]] 0 ∧
      ¬ CachedScansExact cachedPlatform 5 pages
        (getCachedGscanResults cachedPlatform 5 fun i => (pages i).attributes) := by
  constructor
  · refine ⟨fun _ => .answered [some [scanPart 1 2147483648 88]] 0, rfl, ?_⟩
    rintro ⟨stored, -⟩
    revert stored
    decide +kernel
  · refine ⟨fun _ => .answered [some [scanPart 1 0 0, scanPart 2 1 88]] 0, rfl, ?_⟩
    rintro ⟨stored, -⟩
    revert stored
    decide +kernel

end X3Hal.Wifi
