import X3Hal.Transition.Loops
import X3Hal.Wifi.Requests
import Mathlib.Data.List.Induction
import Mathlib.Data.Nat.Find

/-!
# The roaming configuration

The HAL asks the driver once for the numbers of BSSIDs and SSIDs that it takes, into the struct of
the caller, and keeps them.  A configuration is checked against the numbers that are kept, and
then sent.

The struct is seen as an array of two numbers while it is filled.  What the platform's headers
declare is a parameter.
-/

namespace X3Hal.Wifi

open X3Hal.Memory X3Hal.Transition

/-! ## Data -/

/-- `WIFI_ATTRIBUTE_ROAMING_CAPABILITIES` -/
def wifiAttributeRoamingCapabilities : Nat := 12

/-- `WIFI_ATTRIBUTE_ROAMING_BLACKLIST_NUM` -/
def wifiAttributeRoamingBlacklistNum : Nat := 13

/-- `WIFI_ATTRIBUTE_ROAMING_BLACKLIST_BSSID` -/
def wifiAttributeRoamingBlacklistBssid : Nat := 14

/-- `WIFI_ATTRIBUTE_ROAMING_WHITELIST_NUM` -/
def wifiAttributeRoamingWhitelistNum : Nat := 15

/-- `WIFI_ATTRIBUTE_ROAMING_WHITELIST_SSID` -/
def wifiAttributeRoamingWhitelistSsid : Nat := 16

/-- `WIFI_SUBCMD_CONFIG_ROAMING` -/
def wifiSubcmdConfigRoaming : Nat := 0x000a

/-- What the headers declare; a message has room for the largest configuration. -/
structure RoamingPlatform where
  /-- `MAX_BLACKLIST_BSSID` -/
  maxBlacklistBssid : Nat
  /-- `MAX_WHITELIST_SSID` -/
  maxWhitelistSsid : Nat
  /-- `MAX_SSID_LENGTH` -/
  maxSsidLength : Nat
  /-- what `nlmsg_alloc` and `genlmsg_put` leave of a message -/
  room : Nat
  enough : 44 + 12 * maxBlacklistBssid + nlaAlign (5 + maxSsidLength) * maxWhitelistSsid ≤ room

/-- `wifi_roaming_capabilities` -/
structure RoamingCapabilities where
  maxBlacklistSize : Nat
  maxWhitelistSize : Nat
  deriving DecidableEq

variable {platform : RoamingPlatform}

/-- `ssid_t` -/
structure Ssid (platform : RoamingPlatform) where
  length : Nat
  ssidStr : Vector UInt8 platform.maxSsidLength
  deriving DecidableEq

/-- `wifi_roaming_config` -/
structure RoamingConfig (platform : RoamingPlatform) where
  numBlacklistBssid : Nat
  blacklistBssid : Vector (Vector UInt8 6) platform.maxBlacklistBssid
  numWhitelistSsid : Nat
  whitelistSsid : Vector (Ssid platform) platform.maxWhitelistSsid
  deriving DecidableEq

/-! ## The query -/

/-- An attribute of a reply: its type, and what `get_u32` reads -/
structure CapabilityAttribute where
  type : Nat
  u32 : Nat
  deriving DecidableEq

/-- The vendor data of a reply; `none` when the reply is ignored -/
abbrev CapabilityReply := Option (List CapabilityAttribute)

/-- What the loop of `GetFeatureSetCommand::handleResponse` does with an attribute: `i` and the
array `feature_matrix` -/
def capabilityAttribute (platform : RoamingPlatform) (setSizeMax : Nat)
    (state : Nat × List Nat) (nla : CapabilityAttribute) : Option (Nat × List Nat) :=
  if nla.type = wifiAttributeRoamingCapabilities ∧ state.1 < setSizeMax then do
    let max ← [platform.maxBlacklistBssid, platform.maxWhitelistSsid][state.1]?
    let matrix ← store state.2 state.1 [if nla.u32 > max then max else nla.u32]
    some (state.1 + 1, matrix)
  else some state

/-- `GetFeatureSetCommand::handleResponse` for the roaming capabilities -/
def handleCapabilities (platform : RoamingPlatform) (setSizeMax : Nat) (matrix : List Nat)
    (reply : CapabilityReply) : Option (List Nat) :=
  match reply with
  | none => some matrix
  | some attributes =>
      (attributes.foldlM (capabilityAttribute platform setSizeMax) (0, matrix)).map (·.2)

/-! ## The request -/

/-- What is put for an SSID.  It is written from the start of the buffer on, so that what the
buffer had before is not read. -/
def copySsid (ssid : Ssid platform) : Option (List UInt8) := do
  let bytes ← load ssid.ssidStr.toList 0 ssid.length
  let buffer ← store (List.replicate (platform.maxSsidLength + 1) 0) 0 bytes
  let buffer ← store buffer ssid.length [0]
  load buffer 0 (ssid.length + 1)

def putBssid (config : RoamingConfig platform) (i : Nat) : Build Unit := do
  let bssid ← elementOf config.blacklistBssid.toList i
  put wifiAttributeRoamingBlacklistBssid bssid.toList

def putSsid (config : RoamingConfig platform) (i : Nat) : Build Unit := do
  let ssid ← elementOf config.whitelistSsid.toList i
  let copied ← checked (copySsid ssid)
  put wifiAttributeRoamingWhitelistSsid copied

/-- `ConfigRoamingCommand::createRequest` -/
def ConfigRoamingCommand.createRequest (config : RoamingConfig platform) (call : RequestCall) :
    Build Unit := do
  WifiRequest.create call wifiSubcmdConfigRoaming
  attrNest nl80211AttrVendorData do
    putU32 wifiAttributeRoamingBlacklistNum config.numBlacklistBssid
    (List.range config.numBlacklistBssid).forM (putBssid config)
    putU32 wifiAttributeRoamingWhitelistNum config.numWhitelistSsid
    (List.range config.numWhitelistSsid).forM (putSsid config)

/-! ## The calls -/

inductive RoamingResult
  | invalidArgs | notSupported
  | request (error : RequestError)
  /-- what `requestResponse` returns -/
  | response (result : Int)
  deriving DecidableEq

inductive RoamingOutput
  /-- The HAL keeps these. -/
  | stored (capabilities : RoamingCapabilities)
  /-- The caller gets these. -/
  | filled (capabilities : RoamingCapabilities)
  | sent (parts : List RequestPart)
  /-- an access outside of an array -/
  | outside
  | returned (result : RoamingResult)
  deriving DecidableEq

/-- What a configuration is sent with -/
structure RoamingCall where
  /-- `nlmsg_alloc` has memory. -/
  memory : Bool
  /-- `nl_cb_alloc` has memory. -/
  callbacks : Bool
  iface : Int
  result : Int
  deriving DecidableEq

inductive RoamingEvent (platform : RoamingPlatform)
  /-- `wifi_get_roaming_capabilities`, with what the struct has, the replies, and the result -/
  | getCapabilities (caps : Option RoamingCapabilities) (replies : List CapabilityReply)
      (result : Int)
  /-- `wifi_configure_roaming` -/
  | configure (config : Option (RoamingConfig platform)) (call : RoamingCall)
  deriving DecidableEq

def getRoamingCapabilities (platform : RoamingPlatform) (state : RoamingCapabilities)
    (caps : Option RoamingCapabilities) (replies : List CapabilityReply) (result : Int) :
    RoamingCapabilities × List RoamingOutput :=
  match caps with
  | none => (state, [.returned .invalidArgs])
  | some caps =>
      if state.maxBlacklistSize = 0 ∧ state.maxWhitelistSize = 0 then
        match replies.foldlM (handleCapabilities platform 2)
            [caps.maxBlacklistSize, caps.maxWhitelistSize] with
        | some [black, white] =>
            if result = 0 then
              (⟨black, white⟩,
                [.filled ⟨black, white⟩, .stored ⟨black, white⟩, .returned (.response result)])
            else (state, [.filled ⟨black, white⟩, .returned (.response result)])
        | _ => (state, [.outside])
      else (state, [.filled state, .returned (.response 0)])

/-- The message that a request is made in -/
def RoamingCall.request (platform : RoamingPlatform) (call : RoamingCall) : RequestCall :=
  ⟨if call.memory then some platform.room else none, call.iface⟩

def configureRoaming (state : RoamingCapabilities) (config : Option (RoamingConfig platform))
    (call : RoamingCall) : List RoamingOutput :=
  match config with
  | none => [.returned .invalidArgs]
  | some config =>
      if config.numBlacklistBssid > state.maxBlacklistSize then [.returned .notSupported]
      else if config.numWhitelistSsid > state.maxWhitelistSize then [.returned .notSupported]
      else
        match assemble (ConfigRoamingCommand.createRequest config (call.request platform)) with
        | .ok parts =>
            if call.callbacks then [.sent parts, .returned (.response call.result)]
            else [.returned (.response 0)]
        | .error (.failed error) => [.returned (.request error)]
        | .error _ => [.outside]

def roamingStep (state : RoamingCapabilities) :
    RoamingEvent platform → RoamingCapabilities × List RoamingOutput
  | .getCapabilities caps replies result =>
      getRoamingCapabilities platform state caps replies result
  | .configure config call => (state, configureRoaming state config call)

/-- A HAL that has just been made keeps zeros. -/
def roamingSystem (platform : RoamingPlatform) :
    System RoamingCapabilities (RoamingEvent platform) RoamingOutput where
  Init state := state = ⟨0, 0⟩
  step state event := some (roamingStep state event)

/-! ## The law -/

/-- What is kept after these outputs -/
def keptCapabilities (outputs : List RoamingOutput) : RoamingCapabilities :=
  outputs.foldl (fun kept output =>
    match output with
    | .stored capabilities => capabilities
    | _ => kept) ⟨0, 0⟩

/-- Limits that the arrays of a configuration have room for -/
structure RoamingCapabilities.Within (platform : RoamingPlatform)
    (capabilities : RoamingCapabilities) : Prop where
  black : capabilities.maxBlacklistSize ≤ platform.maxBlacklistBssid
  white : capabilities.maxWhitelistSize ≤ platform.maxWhitelistSsid

/-- A configuration without more entries than are taken -/
def RoamingConfig.Accepted (capabilities : RoamingCapabilities)
    (config : RoamingConfig platform) : Prop :=
  config.numBlacklistBssid ≤ capabilities.maxBlacklistSize ∧
    config.numWhitelistSsid ≤ capabilities.maxWhitelistSize

/-- The bytes of an SSID with a NUL -/
def Ssid.text (ssid : Ssid platform) : List UInt8 :=
  ssid.ssidStr.toList.take ssid.length ++ [0]

def RoamingConfig.bssids (config : RoamingConfig platform) : List (List UInt8) :=
  (config.blacklistBssid.toList.take config.numBlacklistBssid).map (·.toList)

def RoamingConfig.ssids (config : RoamingConfig platform) : List (Ssid platform) :=
  config.whitelistSsid.toList.take config.numWhitelistSsid

/-- The data of a request: the BSSIDs and some of the SSIDs in order, after their numbers -/
def RoamingConfig.dataWith (config : RoamingConfig platform) (ssids : List (Ssid platform)) :
    List RequestPart :=
  .attr wifiAttributeRoamingBlacklistNum (leBytes 4 config.numBlacklistBssid) ::
    (config.bssids.map (.attr wifiAttributeRoamingBlacklistBssid) ++
      .attr wifiAttributeRoamingWhitelistNum (leBytes 4 config.numWhitelistSsid) ::
        ssids.map fun ssid => .attr wifiAttributeRoamingWhitelistSsid ssid.text)

def RoamingConfig.parts (iface : Int) (config : RoamingConfig platform) : List RequestPart :=
  createdParts iface wifiSubcmdConfigRoaming ++
    (.nest nl80211AttrVendorData :: (config.dataWith config.ssids ++ [.nestEnd]))

/-- A configuration is rejected, or sent as it is. -/
def ConfigureKept (before : History (RoamingEvent platform) RoamingOutput)
    (step : RoamingEvent platform × List RoamingOutput) : Prop :=
  ∀ config call, step.1 = .configure (some config) call →
    (¬ config.Accepted (keptCapabilities before.outputs) →
      step.2 = [.returned .notSupported]) ∧
    (config.Accepted (keptCapabilities before.outputs) →
      (∀ parts, .sent parts ∈ step.2 → parts = config.parts call.iface) ∧
      (call.memory = true → call.callbacks = true →
        step.2 = [.sent (config.parts call.iface), .returned (.response call.result)]))

structure RoamingKept (history : History (RoamingEvent platform) RoamingOutput) : Prop where
  inside : .outside ∉ history.outputs
  limited : ∀ capabilities, .stored capabilities ∈ history.outputs →
    capabilities.Within platform
  configured : Justified ConfigureKept history

/-- How many limits a reply has -/
def CapabilityReply.limits (reply : CapabilityReply) : Nat :=
  (reply.getD []).countP (·.type = wifiAttributeRoamingCapabilities)

/-- The struct of the caller gets a limit from a reply, or has one that is small enough. -/
def ReplyFits (platform : RoamingPlatform) (caps : RoamingCapabilities)
    (replies : List CapabilityReply) : Prop :=
  (caps.maxBlacklistSize ≤ platform.maxBlacklistBssid ∨ ∃ reply ∈ replies, 1 ≤ reply.limits) ∧
    (caps.maxWhitelistSize ≤ platform.maxWhitelistSsid ∨ ∃ reply ∈ replies, 2 ≤ reply.limits)

/-- A query that is kept fits, and so do the lengths of SSIDs that are copied. -/
def RoamingFits (before : History (RoamingEvent platform) RoamingOutput)
    (step : RoamingEvent platform × List RoamingOutput) : Prop :=
  match step.1 with
  | .getCapabilities (some caps) replies result =>
      keptCapabilities before.outputs = ⟨0, 0⟩ → result = 0 → ReplyFits platform caps replies
  | .getCapabilities none _ _ => True
  | .configure (some config) call =>
      config.Accepted (keptCapabilities before.outputs) → call.memory = true →
        ∀ ssid ∈ config.ssids, ssid.length ≤ platform.maxSsidLength
  | .configure none _ => True

/-! ## Replies -/

section Replies

variable {setSizeMax : Nat} {caps : RoamingCapabilities}

/-- After both limits the loop changes nothing. -/
theorem capabilityAttributes_two (attributes : List CapabilityAttribute) (matrix : List Nat) :
    attributes.foldlM (capabilityAttribute platform 2) (2, matrix) = some (2, matrix) := by
  induction attributes with
  | nil => rfl
  | cons nla attributes ih =>
      rw [List.foldlM_cons, capabilityAttribute, if_neg (by simp)]
      exact ih

theorem clamp_le (value max : Nat) : (if value > max then max else value) ≤ max := by
  split <;> omega

/-- With one limit read, the next attribute of the kind is the other. -/
theorem capabilityAttributes_one (attributes : List CapabilityAttribute) (black white : Nat) :
    ∃ i white', attributes.foldlM (capabilityAttribute platform 2) (1, [black, white]) =
        some (i, [black, white']) ∧
      (white' ≤ platform.maxWhitelistSsid ↔ white ≤ platform.maxWhitelistSsid ∨
        1 ≤ attributes.countP (·.type = wifiAttributeRoamingCapabilities)) := by
  induction attributes with
  | nil => exact ⟨1, white, rfl, by simp⟩
  | cons nla attributes ih =>
      rw [List.foldlM_cons, capabilityAttribute]
      by_cases limit : nla.type = wifiAttributeRoamingCapabilities
      · rw [if_pos ⟨limit, Nat.one_lt_two⟩, List.countP_cons_of_pos (by simp [limit])]
        refine ⟨2, _, capabilityAttributes_two attributes _, ?_⟩
        exact iff_of_true (clamp_le _ _) (.inr (Nat.le_add_left 1 _))
      · rw [if_neg (by simp [limit]), List.countP_cons_of_neg (by simp [limit])]
        exact ih

theorem capabilityAttributes_zero (attributes : List CapabilityAttribute) (black white : Nat) :
    ∃ i black' white', attributes.foldlM (capabilityAttribute platform 2) (0, [black, white]) =
        some (i, [black', white']) ∧
      (black' ≤ platform.maxBlacklistBssid ↔ black ≤ platform.maxBlacklistBssid ∨
        1 ≤ attributes.countP (·.type = wifiAttributeRoamingCapabilities)) ∧
      (white' ≤ platform.maxWhitelistSsid ↔ white ≤ platform.maxWhitelistSsid ∨
        2 ≤ attributes.countP (·.type = wifiAttributeRoamingCapabilities)) := by
  induction attributes with
  | nil => exact ⟨0, black, white, rfl, by simp, by simp⟩
  | cons nla attributes ih =>
      rw [List.foldlM_cons, capabilityAttribute]
      by_cases limit : nla.type = wifiAttributeRoamingCapabilities
      · rw [if_pos ⟨limit, Nat.two_pos⟩, List.countP_cons_of_pos (by simp [limit])]
        obtain ⟨i, white', rest, whiteIff⟩ := capabilityAttributes_one attributes
          (if nla.u32 > platform.maxBlacklistBssid then platform.maxBlacklistBssid else nla.u32)
          white
        refine ⟨i, _, white', rest, ?_, ?_⟩
        · exact iff_of_true (clamp_le _ _) (.inr (Nat.le_add_left 1 _))
        · rw [whiteIff, Nat.add_le_add_iff_right (n := 1)]
      · rw [if_neg (by simp [limit]), List.countP_cons_of_neg (by simp [limit])]
        exact ih

/-- A reply stays inside of the arrays, and a limit is small that it has or that was. -/
theorem exists_of_handleCapabilities (reply : CapabilityReply) (black white : Nat) :
    ∃ black' white', handleCapabilities platform 2 [black, white] reply =
        some [black', white'] ∧
      (black' ≤ platform.maxBlacklistBssid ↔
        black ≤ platform.maxBlacklistBssid ∨ 1 ≤ reply.limits) ∧
      (white' ≤ platform.maxWhitelistSsid ↔
        white ≤ platform.maxWhitelistSsid ∨ 2 ≤ reply.limits) := by
  cases reply with
  | none => exact ⟨black, white, rfl, by simp [CapabilityReply.limits],
      by simp [CapabilityReply.limits]⟩
  | some attributes =>
      obtain ⟨i, black', white', ran, blackIff, whiteIff⟩ :=
        capabilityAttributes_zero attributes black white
      exact ⟨black', white', by rw [handleCapabilities, ran]; rfl, blackIff, whiteIff⟩

theorem exists_of_handleReplies (replies : List CapabilityReply) (caps : RoamingCapabilities) :
    ∃ black white, replies.foldlM (handleCapabilities platform 2)
        [caps.maxBlacklistSize, caps.maxWhitelistSize] = some [black, white] ∧
      ((⟨black, white⟩ : RoamingCapabilities).Within platform ↔
        ReplyFits platform caps replies) := by
  induction replies generalizing caps with
  | nil =>
      refine ⟨_, _, rfl, fun within => ⟨.inl within.black, .inl within.white⟩, fun fits => ?_⟩
      exact ⟨by simpa using fits.1, by simpa using fits.2⟩
  | cons reply replies ih =>
      obtain ⟨black, white, handled, blackIff, whiteIff⟩ :=
        exists_of_handleCapabilities reply caps.maxBlacklistSize caps.maxWhitelistSize
      obtain ⟨black', white', ran, withinIff⟩ := ih ⟨black, white⟩
      refine ⟨black', white', ?_, ?_⟩
      · rw [List.foldlM_cons, handled]
        exact ran
      · rw [withinIff, ReplyFits, ReplyFits, blackIff, whiteIff]
        simp only [List.exists_mem_cons_iff, or_assoc]

end Replies

/-! ## Requests -/

section Loops

variable {α : Type} {array : List α} {body : Nat → Build Unit} {part : α → RequestPart}

/-- A loop over the first elements of an array -/
theorem ends_forM_range {count : Nat} (inside : count ≤ array.length)
    (each : ∀ i value, i < count → array[i]? = some value →
      Ends (body i) [part value] (.ok ())) :
    Ends ((List.range count).forM body) ((array.take count).map part) (.ok ()) := by
  induction count with
  | zero => exact ends_pure
  | succ count ih =>
      have found : array[count]? = some array[count] := List.getElem?_eq_getElem inside
      rw [List.range_succ, List.forM_eq_forM, List.forM_append, List.take_add_one, found,
        List.map_append]
      apply (ih (Nat.le_of_succ_le inside) fun i value below =>
        each i value (Nat.lt_succ_of_lt below)).bind
      have last := (each count _ (Nat.lt_succ_self count) found).bind ends_pure
      rwa [List.append_nil] at last

/-- A loop that ends at an element -/
theorem ends_forM_range_error {count k : Nat} {fault : RequestFault}
    (inside : count ≤ array.length) (below : k < count)
    (each : ∀ i value, i < k → array[i]? = some value → Ends (body i) [part value] (.ok ()))
    (fails : Ends (body k) [] (.error fault)) :
    Ends ((List.range count).forM body) ((array.take k).map part) (.error fault) := by
  obtain ⟨more, rfl⟩ := Nat.exists_eq_add_of_lt below
  rw [Nat.add_assoc, List.range_add, List.range_succ_eq_map, List.map_cons, List.forM_eq_forM,
    List.forM_append, ← List.append_nil (List.map part _)]
  apply (ends_forM_range (by omega) each).bind
  exact fails.bind_error

end Loops

/-- A copy leaves its array for a length that is too large. -/
theorem copySsid_eq (ssid : Ssid platform) :
    copySsid ssid =
      if ssid.length ≤ platform.maxSsidLength then some ssid.text else none := by
  have size : ssid.ssidStr.toList.length = platform.maxSsidLength := ssid.ssidStr.length_toList
  by_cases fits : ssid.length ≤ platform.maxSsidLength
  · have read : load ssid.ssidStr.toList 0 ssid.length =
        some (ssid.ssidStr.toList.take ssid.length) := by
      rw [load, if_pos (by omega), List.drop_zero]
    have taken : (ssid.ssidStr.toList.take ssid.length).length = ssid.length := by
      rw [List.length_take]
      omega
    have length : ssid.text.length = ssid.length + 1 := by
      rw [Ssid.text, List.length_append, taken, List.length_singleton]
    -- the bytes and the NUL behind them are one store
    obtain ⟨buffer, stored⟩ := @exists_store _ (List.replicate (platform.maxSsidLength + 1) 0) 0
      ssid.text (by rw [length, List.length_replicate]; omega)
    have held : load buffer 0 ssid.text.length = some ssid.text := holds_of_store stored
    rw [Ssid.text, store_append, taken, Nat.zero_add] at stored
    obtain ⟨first, writes, second⟩ := Option.bind_eq_some_iff.mp stored
    rw [length] at held
    rw [if_pos fits, copySsid, read, some_bind_eq, writes, some_bind_eq, second, some_bind_eq,
      held]
  · rw [if_neg fits, copySsid, load, if_neg (by omega)]
    rfl

section Requests

variable {config : RoamingConfig platform} {i : Nat}

theorem elementOf_eq {α : Type} {array : List α} {value : α} (found : array[i]? = some value) :
    elementOf array i = pure value := by
  rw [elementOf, found]
  rfl

theorem ends_putBssid {bssid : Vector UInt8 6}
    (found : config.blacklistBssid.toList[i]? = some bssid) :
    Ends (putBssid config i) [.attr wifiAttributeRoamingBlacklistBssid bssid.toList] (.ok ()) := by
  rw [putBssid, elementOf_eq found, pure_bind]
  exact ends_put _ _

theorem ends_putSsid {ssid : Ssid platform} (found : config.whitelistSsid.toList[i]? = some ssid)
    (fits : ssid.length ≤ platform.maxSsidLength) :
    Ends (putSsid config i) [.attr wifiAttributeRoamingWhitelistSsid ssid.text] (.ok ()) := by
  rw [putSsid, elementOf_eq found, pure_bind, copySsid_eq, if_pos fits, checked, pure_bind]
  exact ends_put _ _

theorem ends_putSsid_error {ssid : Ssid platform}
    (found : config.whitelistSsid.toList[i]? = some ssid)
    (long : ¬ ssid.length ≤ platform.maxSsidLength) :
    Ends (putSsid config i) [] (.error .outside) := by
  rw [putSsid, elementOf_eq found, pure_bind, copySsid_eq, if_neg long, checked]
  exact ends_throw_bind

/-- The data of a request up to where the loop over the SSIDs ends -/
theorem ends_data {ssids : List (Ssid platform)} {outcome : Except RequestFault Unit}
    (inside : config.numBlacklistBssid ≤ platform.maxBlacklistBssid)
    (loop : Ends ((List.range config.numWhitelistSsid).forM (putSsid config))
      (ssids.map fun ssid => .attr wifiAttributeRoamingWhitelistSsid ssid.text) outcome) :
    Ends (do
      putU32 wifiAttributeRoamingBlacklistNum config.numBlacklistBssid
      (List.range config.numBlacklistBssid).forM (putBssid config)
      putU32 wifiAttributeRoamingWhitelistNum config.numWhitelistSsid
      (List.range config.numWhitelistSsid).forM (putSsid config))
      (config.dataWith ssids) outcome := by
  have bssids : Ends ((List.range config.numBlacklistBssid).forM (putBssid config))
      (config.bssids.map (.attr wifiAttributeRoamingBlacklistBssid)) (.ok ()) := by
    rw [RoamingConfig.bssids, List.map_map]
    apply ends_forM_range (by rw [Vector.length_toList]; exact inside)
    exact fun i bssid _ found => ends_putBssid found
  exact (ends_put _ _).bind (bssids.bind ((ends_put _ _).bind loop))

end Requests

/-! ### The room -/

theorem nlaAlign_mono {len more : Nat} (le : len ≤ more) : nlaAlign len ≤ nlaAlign more := by
  rw [nlaAlign, nlaAlign]
  omega

theorem requestSize_map_le {α : Type} {items : List α} {part : α → RequestPart} {size : Nat}
    (each : ∀ item ∈ items, (part item).size ≤ size) :
    requestSize (items.map part) ≤ size * items.length := by
  induction items with
  | nil => exact Nat.zero_le _
  | cons item items ih =>
      have first := each item List.mem_cons_self
      have rest := ih fun later among => each later (List.mem_cons_of_mem item among)
      rw [List.map_cons, requestSize_cons, List.length_cons, Nat.mul_succ]
      omega

theorem requestSize_createdParts_le (iface : Int) (subcmd : Nat) :
    requestSize (createdParts iface subcmd) ≤ 24 := by
  rw [createdParts, requestSize_append, requestSize_cons, requestSize_singleton]
  split
  · rw [requestSize_singleton]
    simp [RequestPart.size, length_leBytes, length_signedBytes, nlaAlign, nlaHdrLen]
  · simp [RequestPart.size, length_leBytes, nlaAlign, nlaHdrLen, requestSize]

/-- A message has room for all BSSIDs and SSIDs that the arrays have room for. -/
theorem requestSize_le_room {config : RoamingConfig platform} {ssids : List (Ssid platform)}
    {ends : List RequestPart} (iface : Int)
    (inside : config.numBlacklistBssid ≤ platform.maxBlacklistBssid)
    (few : ssids.length ≤ platform.maxWhitelistSsid)
    (fits : ∀ ssid ∈ ssids, ssid.length ≤ platform.maxSsidLength) (none : requestSize ends = 0) :
    requestSize (createdParts iface wifiSubcmdConfigRoaming ++
      (.nest nl80211AttrVendorData :: (config.dataWith ssids ++ ends))) ≤ platform.room := by
  have created := requestSize_createdParts_le iface wifiSubcmdConfigRoaming
  have bssids : requestSize (config.bssids.map (.attr wifiAttributeRoamingBlacklistBssid)) ≤
      12 * config.bssids.length := by
    apply requestSize_map_le
    intro bssid among
    obtain ⟨vector, _, rfl⟩ := List.mem_map.mp among
    rw [RequestPart.size, Vector.length_toList]
    decide
  have few' : config.bssids.length ≤ platform.maxBlacklistBssid := by
    rw [RoamingConfig.bssids, List.length_map, List.length_take]
    omega
  have each : requestSize
      (ssids.map fun ssid => .attr wifiAttributeRoamingWhitelistSsid ssid.text) ≤
      nlaAlign (5 + platform.maxSsidLength) * ssids.length := by
    apply requestSize_map_le
    intro ssid among
    have short := fits ssid among
    apply nlaAlign_mono
    rw [Ssid.text, List.length_append, List.length_take, List.length_singleton, nlaHdrLen]
    omega
  have ssidsSize := Nat.mul_le_mul_left (nlaAlign (5 + platform.maxSsidLength)) few
  have enough := platform.enough
  rw [requestSize_append, requestSize_cons, requestSize_append, none, RoamingConfig.dataWith,
    requestSize_cons, requestSize_append, requestSize_cons]
  have number : ∀ attr value, (RequestPart.attr attr (leBytes 4 value)).size = 8 := by
    intro attr value
    rw [RequestPart.size, length_leBytes]
    rfl
  rw [number, number, RequestPart.size, nlaHdrLen]
  omega

section Calls

variable {config : RoamingConfig platform} {call : RoamingCall} {state : RoamingCapabilities}

theorem mem_ssids {i : Nat} {ssid : Ssid platform} (below : i < config.numWhitelistSsid)
    (found : config.whitelistSsid.toList[i]? = some ssid) : ssid ∈ config.ssids := by
  apply List.mem_of_getElem? (i := i)
  rw [RoamingConfig.ssids, List.getElem?_take, if_pos below, found]

theorem exists_of_mem_take {ssid : Ssid platform} {count : Nat}
    (among : ssid ∈ config.whitelistSsid.toList.take count) :
    ∃ i < count, config.whitelistSsid.toList[i]? = some ssid := by
  obtain ⟨i, found⟩ := List.mem_iff_getElem?.mp among
  rw [List.getElem?_take] at found
  split at found
  case isTrue below => exact ⟨i, below, found⟩
  case isFalse => cases found

/-- How a request is made that is within the limits -/
theorem assemble_createRequest (memory : call.memory = true)
    (black : config.numBlacklistBssid ≤ platform.maxBlacklistBssid)
    (white : config.numWhitelistSsid ≤ platform.maxWhitelistSsid) :
    assemble (ConfigRoamingCommand.createRequest config (call.request platform)) =
      if ∀ ssid ∈ config.ssids, ssid.length ≤ platform.maxSsidLength then
        .ok (config.parts call.iface)
      else .error .outside := by
  have alloc : (call.request platform).alloc = some platform.room := if_pos memory
  have inside : config.numWhitelistSsid ≤ config.whitelistSsid.toList.length := by
    rw [Vector.length_toList]
    exact white
  have count : config.ssids.length ≤ platform.maxWhitelistSsid := by
    rw [RoamingConfig.ssids, List.length_take]
    omega
  by_cases fits : ∀ ssid ∈ config.ssids, ssid.length ≤ platform.maxSsidLength
  · have loop := ends_forM_range inside fun i ssid below found =>
      ends_putSsid found (fits ssid (mem_ssids below found))
    rw [if_pos fits]
    exact assemble_create_eq (ends_attrNest _ (ends_data black loop)) alloc
      (requestSize_le_room call.iface black count fits rfl)
  · rw [if_neg fits]
    -- the loop ends at the first SSID that is too long
    have exists_long : ∃ k ssid, k < config.numWhitelistSsid ∧
        config.whitelistSsid.toList[k]? = some ssid ∧ ¬ ssid.length ≤ platform.maxSsidLength := by
      simp only [not_forall] at fits
      obtain ⟨ssid, among, long⟩ := fits
      obtain ⟨k, below, found⟩ := exists_of_mem_take among
      exact ⟨k, ssid, below, found, long⟩
    classical
    obtain ⟨long, below, found, isLong⟩ := Nat.find_spec exists_long
    have short : ∀ i ssid, i < Nat.find exists_long →
        config.whitelistSsid.toList[i]? = some ssid → ssid.length ≤ platform.maxSsidLength := by
      intro i ssid before at_i
      by_contra longer
      exact Nat.find_min exists_long before ⟨ssid, before.trans below, at_i, longer⟩
    have loop := ends_forM_range_error inside below
      (fun i ssid before at_i => ends_putSsid at_i (short i ssid before at_i))
      (ends_putSsid_error found isLong)
    have data := ends_attrNest_error nl80211AttrVendorData (ends_data black loop)
    have room : requestSize (createdParts call.iface wifiSubcmdConfigRoaming ++
        (.nest nl80211AttrVendorData ::
          (config.dataWith (config.whitelistSsid.toList.take (Nat.find exists_long)) ++ []))) ≤
        platform.room := by
      apply requestSize_le_room call.iface black _ _ rfl
      · rw [List.length_take]
        omega
      · intro ssid among
        obtain ⟨i, before, at_i⟩ := exists_of_mem_take among
        exact short i ssid before at_i
    rw [List.append_nil] at room
    exact assemble_create_eq data alloc room

/-! ### Steps -/

theorem configureRoaming_rejected (rejected : ¬ config.Accepted state) :
    configureRoaming state (some config) call = [.returned .notSupported] := by
  rw [configureRoaming]
  split
  case isTrue => rfl
  case isFalse black =>
    rw [if_pos]
    exact Nat.lt_of_not_le fun white => rejected ⟨Nat.le_of_not_lt black, white⟩

theorem configureRoaming_accepted (accepted : config.Accepted state) :
    configureRoaming state (some config) call =
      match assemble (ConfigRoamingCommand.createRequest config (call.request platform)) with
      | .ok parts =>
          if call.callbacks then [.sent parts, .returned (.response call.result)]
          else [.returned (.response 0)]
      | .error (.failed error) => [.returned (.request error)]
      | .error _ => [.outside] := by
  rw [configureRoaming]
  rw [if_neg (Nat.not_lt.mpr accepted.1), if_neg (Nat.not_lt.mpr accepted.2)]

theorem RoamingCapabilities.eq_zeros_iff {capabilities : RoamingCapabilities} :
    capabilities = ⟨0, 0⟩ ↔
      capabilities.maxBlacklistSize = 0 ∧ capabilities.maxWhitelistSize = 0 := by
  cases capabilities
  simp

/-- What a step must do -/
structure StepKept (before : History (RoamingEvent platform) RoamingOutput)
    (event : RoamingEvent platform) (out : List RoamingOutput) : Prop where
  inside : .outside ∉ out
  limited : ∀ capabilities, .stored capabilities ∈ out → capabilities.Within platform
  configured : ConfigureKept before (event, out)

variable {before : History (RoamingEvent platform) RoamingOutput}

theorem stepKept_configure_iff (same : state = keptCapabilities before.outputs)
    (within : state.Within platform) (config : Option (RoamingConfig platform)) :
    StepKept before (.configure config call) (configureRoaming state config call) ↔
      RoamingFits before (.configure config call, configureRoaming state config call) := by
  subst same
  cases config with
  | none =>
      refine iff_of_true ⟨?_, ?_, by nofun⟩ trivial <;> simp [configureRoaming]
  | some config =>
      by_cases accepted : config.Accepted (keptCapabilities before.outputs)
      swap
      · rw [configureRoaming_rejected accepted]
        refine iff_of_true ⟨by decide, by nofun, ?_⟩ fun taken => absurd taken accepted
        rintro _ _ ⟨⟩
        exact ⟨fun _ => rfl, fun taken => absurd taken accepted⟩
      rw [configureRoaming_accepted accepted]
      cases memory : call.memory with
      | false =>
          have alloc : (call.request platform).alloc = none := by
            rw [RoamingCall.request, memory]
            rfl
          rw [ConfigRoamingCommand.createRequest, assemble_create_none alloc]
          refine iff_of_true ⟨by nofun, by nofun, ?_⟩ fun _ has => by simp [memory] at has
          rintro _ _ ⟨⟩
          exact ⟨fun rejected => absurd accepted rejected, fun _ => ⟨by nofun, fun has => by
            simp [memory] at has⟩⟩
      | true =>
          rw [assemble_createRequest memory (accepted.1.trans within.black)
            (accepted.2.trans within.white)]
          by_cases fits : ∀ ssid ∈ config.ssids, ssid.length ≤ platform.maxSsidLength
          · rw [if_pos fits]
            refine iff_of_true ⟨?_, ?_, ?_⟩ fun _ _ => fits
            · dsimp only
              split <;> simp
            · intro capabilities
              dsimp only
              split <;> simp
            · rintro _ _ ⟨⟩
              refine ⟨fun rejected => absurd accepted rejected, fun _ => ⟨?_, ?_⟩⟩
              · intro parts
                dsimp only
                split <;> simp
              · intro _ callbacks
                exact if_pos callbacks
          · rw [if_neg fits]
            exact iff_of_false (fun kept => kept.inside List.mem_cons_self) fun all =>
              fits (all accepted memory)

theorem stepKept_getCapabilities_iff (same : state = keptCapabilities before.outputs)
    (caps : Option RoamingCapabilities) (replies : List CapabilityReply) (result : Int) :
    StepKept before (.getCapabilities caps replies result)
        (getRoamingCapabilities platform state caps replies result).2 ↔
      RoamingFits before (.getCapabilities caps replies result,
        (getRoamingCapabilities platform state caps replies result).2) := by
  subst same
  cases caps with
  | none =>
      refine iff_of_true ⟨?_, ?_, by nofun⟩ trivial <;> simp [getRoamingCapabilities]
  | some caps =>
      rw [getRoamingCapabilities]
      by_cases first : (keptCapabilities before.outputs).maxBlacklistSize = 0 ∧
          (keptCapabilities before.outputs).maxWhitelistSize = 0
      · obtain ⟨black, white, ran, withinIff⟩ := exists_of_handleReplies replies caps
        rw [if_pos first, ran]
        dsimp only
        by_cases success : result = 0
        · rw [if_pos success]
          constructor
          · intro kept _ _
            exact withinIff.mp (kept.limited _ (by simp))
          · intro fits
            have within := withinIff.mpr
              (fits (RoamingCapabilities.eq_zeros_iff.mpr first) success)
            refine ⟨by simp, ?_, by nofun⟩
            intro capabilities stored
            simp at stored
            rwa [stored]
        · rw [if_neg success]
          exact iff_of_true ⟨by simp, by simp, by nofun⟩ fun _ zero => absurd zero success
      · rw [if_neg first]
        exact iff_of_true ⟨by simp, by simp, by nofun⟩ fun zeros =>
          absurd (RoamingCapabilities.eq_zeros_iff.mp zeros) first

theorem stepKept_iff (same : state = keptCapabilities before.outputs)
    (within : state.Within platform) (event : RoamingEvent platform) :
    StepKept before event (roamingStep state event).2 ↔
      RoamingFits before (event, (roamingStep state event).2) := by
  cases event with
  | getCapabilities caps replies result =>
      exact stepKept_getCapabilities_iff same caps replies result
  | configure config call => exact stepKept_configure_iff same within config

/-- The HAL keeps what was stored last. -/
theorem roamingStep_keeps (same : state = keptCapabilities before.outputs)
    (event : RoamingEvent platform) :
    (roamingStep state event).1 =
      keptCapabilities (before.outputs ++ (roamingStep state event).2) := by
  rw [keptCapabilities, List.foldl_append]
  change _ = List.foldl _ (keptCapabilities before.outputs) _
  rw [← same]
  cases event with
  | configure config call =>
      simp only [roamingStep, configureRoaming]
      repeat' split
      all_goals rfl
  | getCapabilities caps replies result =>
      simp only [roamingStep, getRoamingCapabilities]
      repeat' split
      all_goals rfl

theorem within_keptCapabilities {outputs : List RoamingOutput}
    (limited : ∀ capabilities, .stored capabilities ∈ outputs → capabilities.Within platform) :
    (keptCapabilities outputs).Within platform := by
  induction outputs using List.reverseRecOn with
  | nil => exact ⟨Nat.zero_le _, Nat.zero_le _⟩
  | append_singleton outputs output ih =>
      have earlier := ih fun capabilities among =>
        limited capabilities (List.mem_append_left _ among)
      rw [keptCapabilities, List.foldl_append, List.foldl_cons, List.foldl_nil]
      cases output with
      | stored capabilities =>
          exact limited capabilities (List.mem_append_right _ List.mem_cons_self)
      | filled _ | sent _ | outside | returned _ => exact earlier

end Calls

theorem roamingKept_snoc_iff {history : History (RoamingEvent platform) RoamingOutput}
    {event : RoamingEvent platform} {out : List RoamingOutput} :
    RoamingKept (history ++ [(event, out)]) ↔
      RoamingKept history ∧ StepKept history event out := by
  constructor
  · rintro ⟨inside, limited, configured⟩
    rw [History.outputs_snoc] at inside limited
    obtain ⟨configured, last⟩ := justified_snoc_iff.mp configured
    refine ⟨⟨?_, ?_, configured⟩, ?_, ?_, last⟩
    · exact fun among => inside (List.mem_append_left _ among)
    · exact fun capabilities among => limited capabilities (List.mem_append_left _ among)
    · exact fun among => inside (List.mem_append_right _ among)
    · exact fun capabilities among => limited capabilities (List.mem_append_right _ among)
  · rintro ⟨⟨inside, limited, configured⟩, last⟩
    refine ⟨?_, ?_, justified_snoc_iff.mpr ⟨configured, last.configured⟩⟩
    · rw [History.outputs_snoc, List.mem_append]
      exact not_or.mpr ⟨inside, last.inside⟩
    · rw [History.outputs_snoc]
      intro capabilities among
      exact (List.mem_append.mp among).elim (limited capabilities) (last.limited capabilities)

/-- The configuration is safe and exact if and only if each limit that is kept comes from a reply
or was small, and no SSID that is copied is too long. -/
theorem roamingKept_iff {history : History (RoamingEvent platform) RoamingOutput}
    {state : RoamingCapabilities}
    (run : (roamingSystem platform).Run System.free history state) :
    RoamingKept history ↔ Justified RoamingFits history := by
  have kept : state = keptCapabilities history.outputs ∧
      (RoamingKept history ↔ Justified RoamingFits history) := by
    induction run with
    | start starts =>
        exact ⟨starts, iff_of_true ⟨by simp, by simp, justified_nil⟩ justified_nil⟩
    | next running _ stepped ih =>
        obtain ⟨same, ih⟩ := ih
        have made : roamingStep _ _ = _ := Option.some.inj stepped
        obtain rfl : _ = _ := congrArg Prod.fst made
        obtain rfl : _ = _ := congrArg Prod.snd made
        refine ⟨?_, ?_⟩
        · rw [History.outputs_snoc]
          exact roamingStep_keeps same _
        · rw [roamingKept_snoc_iff, justified_snoc_iff, ← ih]
          apply and_congr_right
          intro kept
          refine stepKept_iff same ?_ _
          rw [same]
          exact within_keptCapabilities kept.limited
  exact kept.2

/-- A platform with the usual limits -/
def roamingPlatform64 : RoamingPlatform :=
  ⟨16, 8, 32, 4076, by decide⟩

/-- So many copies of a BSSID, and of an SSID of a length -/
def repeatedConfig (bssids ssids length : Nat) : RoamingConfig roamingPlatform64 :=
  ⟨bssids, Vector.replicate 16 (Vector.replicate 6 7), ssids,
    Vector.replicate 8 ⟨length, Vector.replicate 32 65⟩⟩

/-- A call that succeeds, on the interface 2 -/
def roamingCall : RoamingCall :=
  ⟨true, true, 2, 0⟩

/-- A query with three limits of which two are kept; a configuration that is sent, and one that
has too many SSIDs. -/
theorem roamingKept_query : ∃ history state,
    (roamingSystem roamingPlatform64).Run System.free history state ∧ RoamingKept history ∧
    history.events = [.getCapabilities (some ⟨99, 99⟩) [some [⟨12, 20⟩, ⟨12, 5⟩, ⟨12, 9⟩]] 0,
      .configure (some (repeatedConfig 2 1 2)) roamingCall,
      .configure (some (repeatedConfig 2 6 2)) roamingCall] ∧
    history.outputs = [.filled ⟨16, 5⟩, .stored ⟨16, 5⟩, .returned (.response 0),
      .sent ((repeatedConfig 2 1 2).parts 2), .returned (.response 0),
      .returned .notSupported] := by
  let events : List (RoamingEvent roamingPlatform64) :=
    [.getCapabilities (some ⟨99, 99⟩) [some [⟨12, 20⟩, ⟨12, 5⟩, ⟨12, 9⟩]] 0,
      .configure (some (repeatedConfig 2 1 2)) roamingCall,
      .configure (some (repeatedConfig 2 6 2)) roamingCall]
  have executed : ((roamingSystem roamingPlatform64).exec ⟨0, 0⟩ events).map (·.1) =
      some [(.getCapabilities (some ⟨99, 99⟩) [some [⟨12, 20⟩, ⟨12, 5⟩, ⟨12, 9⟩]] 0,
          [.filled ⟨16, 5⟩, .stored ⟨16, 5⟩, .returned (.response 0)]),
        (.configure (some (repeatedConfig 2 1 2)) roamingCall,
          [.sent ((repeatedConfig 2 1 2).parts 2), .returned (.response 0)]),
        (.configure (some (repeatedConfig 2 6 2)) roamingCall, [.returned .notSupported])] := by
    decide +kernel
  obtain ⟨_, state, run, rfl⟩ := System.exists_run_of_exec _ System.free events _ rfl
    (by decide +kernel) executed
  refine ⟨_, state, run, (roamingKept_iff run).mpr ?_, rfl, rfl⟩
  refine justified_cons_iff.mpr ⟨?_, justified_cons_iff.mpr ⟨?_, justified_singleton.mpr ?_⟩⟩
  · exact fun _ _ => ⟨.inr ⟨_, List.mem_cons_self, by decide⟩,
      .inr ⟨_, List.mem_cons_self, by decide⟩⟩
  · exact fun _ _ => by decide +kernel
  · exact fun _ _ => by decide +kernel

/-- What goes wrong: without a limit in the reply the caller's numbers are kept, and BSSIDs
behind the array are read; and the copy of an SSID of 33 bytes leaves the buffer. -/
theorem roaming_outside :
    (∃ history state, (roamingSystem roamingPlatform64).Run System.free history state ∧
      ¬ RoamingKept history ∧ history.events =
        [.getCapabilities (some ⟨99, 99⟩) [] 0,
          .configure (some (repeatedConfig 17 0 0)) roamingCall] ∧
      history.outputs = [.filled ⟨99, 99⟩, .stored ⟨99, 99⟩, .returned (.response 0),
        .outside]) ∧
    ∃ history state, (roamingSystem roamingPlatform64).Run System.free history state ∧
      ¬ RoamingKept history ∧ history.events =
        [.getCapabilities (some ⟨0, 0⟩) [some [⟨12, 16⟩, ⟨12, 8⟩]] 0,
          .configure (some (repeatedConfig 0 1 33)) roamingCall] ∧
      history.outputs = [.filled ⟨16, 8⟩, .stored ⟨16, 8⟩, .returned (.response 0),
        .outside] := by
  have fails : ∀ (events : List (RoamingEvent roamingPlatform64)) (outputs : List RoamingOutput),
      .outside ∈ outputs → ((roamingSystem roamingPlatform64).exec ⟨0, 0⟩ events).map
        (fun final => (final.1.events, final.1.outputs)) = some (events, outputs) →
      ∃ history state, (roamingSystem roamingPlatform64).Run System.free history state ∧
        ¬ RoamingKept history ∧ history.events = events ∧ history.outputs = outputs := by
    intro events outputs outside executed
    have passes : ∀ before state events,
        (roamingSystem roamingPlatform64).meets System.free before state events = true := by
      intro before state events
      induction events generalizing before state with
      | nil => rfl
      | cons event events ih => exact ih _ _
    obtain ⟨history, state, run, seen⟩ := System.exists_run_of_exec _ System.free events _ rfl
      (passes _ _ _) executed
    obtain ⟨taken, shown⟩ := Prod.mk.inj seen
    exact ⟨history, state, run, fun kept => kept.inside (shown ▸ outside), taken, shown⟩
  constructor
  · exact fails _ _ (by decide) (by decide +kernel)
  · exact fails _ _ (by decide) (by decide +kernel)

end X3Hal.Wifi
