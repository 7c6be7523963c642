import X3Hal.Transition.Loops
import X3Hal.Wifi.VendorEvents
import Mathlib.Data.Nat.Basic

/-!
# The bounds of the channel list and of the RTT results

Both handlers loop over the attributes of the payload, and the RTT handler over those within an
attribute as well.  A round is in bounds or not by its attribute and by what the attributes
before it have counted; the RTT handler counts over all events of its command.
-/

namespace X3Hal.Wifi

open X3Hal.Memory X3Hal.Transition

/-! ## The channel list -/

section Channels

variable {platform : WifiPlatform} {maxChannels : Nat} {data : List UInt8}

/-- `num_channels` after an attribute -/
def channelAdvance (maxChannels : Nat) (data : List UInt8) (count : Int) (nla : Attribute) : Int :=
  if nla.type = wifiAttributeNumChannels then channelCount maxChannels (numberAt data nla.data 4)
  else count

/-- A count is read within the payload, and so are the channels that are copied. -/
def ChannelAttributeFits (platform : WifiPlatform) (data : List UInt8) (count : Int)
    (nla : Attribute) : Prop :=
  (nla.type = wifiAttributeNumChannels → nla.data + 4 ≤ data.length) ∧
    (nla.type = wifiAttributeChannelList → count ≠ 0 →
      0 ≤ count ∧ nla.data + platform.channelSize * count.toNat ≤ data.length)

/-- `GetChannelListCommand::handleResponse`: the caller has room for the two channels that are
logged. -/
def ChannelListFits (platform : WifiPlatform) (maxChannels : Nat) (data : List UInt8) : Prop :=
  data.length ≠ 0 →
    Justified (fun before nla => ChannelAttributeFits platform data
      (before.foldl (channelAdvance maxChannels data) 0) nla)
      (attributes data data.length data.length 0) ∧
    platform.channelSize + platform.channelSize ≤ platform.channelSize * maxChannels

/-- A count that the room is enough for -/
structure ChannelRoom (platform : WifiPlatform) (maxChannels : Nat) (state : ChannelState) :
    Prop where
  count : state.numChannels ≤ maxChannels
  room : state.channels.length = platform.channelSize * maxChannels

theorem channelCount_le (value : Nat) : channelCount maxChannels value ≤ maxChannels := by
  rw [channelCount]
  split <;> omega

/-- An attribute goes on, counts, and keeps the size of the room. -/
theorem channelAttribute_cases {nla : Attribute} {state : ChannelState}
    {next : Bool × ChannelState}
    (ran : channelAttribute platform maxChannels data nla state = some next) :
    next.1 = true ∧ next.2.numChannels = channelAdvance maxChannels data state.numChannels nla ∧
      next.2.channels.length = state.channels.length := by
  rw [channelAttribute] at ran
  rw [channelAdvance]
  by_cases counts : nla.type = wifiAttributeNumChannels
  · rw [if_pos counts] at ran
    obtain ⟨value, read, made⟩ := Option.bind_eq_some_iff.mp ran
    cases made
    rw [if_pos counts, ← eq_numberAt read]
    exact ⟨rfl, rfl, rfl⟩
  · rw [if_neg counts] at ran
    rw [if_neg counts]
    split at ran
    · obtain ⟨size, _, rest⟩ := Option.bind_eq_some_iff.mp ran
      obtain ⟨list, _, rest⟩ := Option.bind_eq_some_iff.mp rest
      obtain ⟨channels, stored, made⟩ := Option.bind_eq_some_iff.mp rest
      cases made
      exact ⟨rfl, rfl, length_of_store stored⟩
    · cases ran
      exact ⟨rfl, rfl, rfl⟩

theorem channelAttribute_room {nla : Attribute} {state : ChannelState}
    {next : Bool × ChannelState} (room : ChannelRoom platform maxChannels state)
    (ran : channelAttribute platform maxChannels data nla state = some next) :
    ChannelRoom platform maxChannels next.2 := by
  obtain ⟨_, counted, same⟩ := channelAttribute_cases ran
  constructor
  · rw [counted, channelAdvance]
    split
    · exact channelCount_le _
    · exact room.count
  · exact same.trans room.room

theorem channelAttribute_isSome_iff {nla : Attribute} {state : ChannelState}
    (room : ChannelRoom platform maxChannels state) :
    (channelAttribute platform maxChannels data nla state).isSome ↔
      ChannelAttributeFits platform data state.numChannels nla := by
  rw [channelAttribute, ChannelAttributeFits]
  by_cases counts : nla.type = wifiAttributeNumChannels
  · have other : nla.type ≠ wifiAttributeChannelList := by
      rw [counts]
      decide
    rw [if_pos counts, number_bind_isSome_iff, and_iff_left Option.isSome_some,
      imp_iff_right counts]
    exact (and_iff_left fun list => absurd list other).symm
  · rw [if_neg counts]
    simp only [counts, false_implies, true_and]
    by_cases listed : nla.type = wifiAttributeChannelList ∧ state.numChannels ≠ 0
    · rw [if_pos listed, imp_iff_right listed.1, imp_iff_right listed.2, channelsSize]
      by_cases counted : 0 ≤ state.numChannels
      · have enough : state.numChannels.toNat ≤ maxChannels := by
          have := room.count
          omega
        have fits := Nat.mul_le_mul_left platform.channelSize enough
        rw [if_pos counted, some_bind_eq, and_iff_right counted]
        refine (copy_bind_isSome_iff True fun _ _ => iff_of_true rfl trivial).trans ?_
        rw [room.room, and_true, Nat.zero_add, and_iff_left fits]
      · rw [if_neg counted]
        exact iff_of_false nofun fun fits => counted fits.1
    · rw [if_neg listed]
      exact iff_of_true rfl fun list counted => absurd ⟨list, counted⟩ listed

theorem handleChannelList_isSome_iff :
    (handleChannelList platform maxChannels data).isSome ↔
      ChannelListFits platform maxChannels data := by
  rw [handleChannelList, ChannelListFits]
  by_cases empty : data.length = 0
  · rw [if_pos empty]
    exact iff_of_true rfl fun found => absurd empty found
  rw [if_neg empty, imp_iff_right empty, forEach_eq _ _ Nat.le.refl (by omega),
    runAttributes_eq (fun _ => false) fun nla state next ran => (channelAttribute_cases ran).1,
    upTo_false]
  have start : ChannelRoom platform maxChannels
      ⟨0, none, List.replicate (platform.channelSize * maxChannels) 0⟩ :=
    ⟨Int.natCast_nonneg _, List.length_replicate⟩
  apply bind_isSome_iff
  · apply foldlM_isSome_iff (ChannelRoom platform maxChannels) ChannelState.numChannels
      (channelAdvance maxChannels data) (ChannelAttributeFits platform data)
    · intro state nla _ room
      rw [Option.isSome_map]
      exact channelAttribute_isSome_iff room
    · intro state nla _ next room ran
      obtain ⟨made, runs, rfl⟩ := Option.map_eq_some_iff.mp ran
      exact channelAttribute_room room runs
    · intro state nla _ next ran
      obtain ⟨made, runs, rfl⟩ := Option.map_eq_some_iff.mp ran
      exact (channelAttribute_cases runs).2.1
    · exact start
  · intro final runs
    have room : ChannelRoom platform maxChannels final := by
      refine keeps_of_foldlM (ChannelRoom platform maxChannels) ?_ start runs
      intro state nla _ next room ran
      obtain ⟨made, runs, rfl⟩ := Option.map_eq_some_iff.mp ran
      exact channelAttribute_room room runs
    rw [load_bind_isSome_iff, load_bind_isSome_iff, room.room]
    simp only [Option.isSome_some, and_true]
    omega

end Channels

/-! ## The RTT results -/

/-- An attribute that a round is about -/
inductive RttItem
  /-- of the outer loop -/
  | completed (nla : Attribute)
  /-- of the inner loop -/
  | target (nla : Attribute)
  deriving DecidableEq

def RttItem.nla : RttItem → Attribute
  | .completed nla => nla
  | .target nla => nla

/-- A result that there is no memory for ends the inner loop. -/
def rttStops (allocator : Allocator) (nla : Attribute) : Bool :=
  nla.type = rttAttributeResult ∧ (allocator.malloc nla.offset nla.len).isNone

/-- What an attribute of the outer loop consists of. -/
def rttItemsOf (allocator : Allocator) (data : List UInt8) (nla : Attribute) : List RttItem :=
  if nla.type = rttAttributeResultsComplete then [.completed nla]
  else if nla.type = rttAttributeResultsPerTarget then
    (upTo (rttStops allocator) (attributes data nla.len nla.len nla.data)).map .target
  else []

def rttItems (allocator : Allocator) (data : List UInt8) : List RttItem :=
  (attributes data data.length data.length 0).flatMap (rttItemsOf allocator data)

/-- What the handler keeps from one event to the next. -/
structure RttView where
  /-- The results that it has not handed over -/
  stored : Nat
  completed : Nat
  registered : Bool
  deriving DecidableEq

def RttState.view (state : RttState) : RttView :=
  ⟨state.results.length, state.completed, state.registered⟩

def rttAdvance (allocator : Allocator) (data : List UInt8) (view : RttView) : RttItem → RttView
  | .completed nla => { view with completed := numberAt data nla.data 4 }
  | .target nla =>
      if nla.type = rttAttributeResult then
        if (allocator.malloc nla.offset nla.len).isSome then
          { view with stored := view.stored + 1 }
        else { view with completed := 1 }
      else view

/-- A result has all the members that are logged, and an element after it has its type. -/
def RttResultFits (layout : RttResultLayout) (result : List UInt8) : Prop :=
  (result.length ≤ layout.size ∨ numberAt result layout.size 1 ≠ dot11MngMeasureRequestId ∨
      layout.size + 5 ≤ result.length) ∧
    ∀ member ∈ layout.logged, member.stop ≤ result.length

/-- A number or an address lies within the payload; there is room for a result. -/
def RttItemFits (platform : WifiPlatform) (allocator : Allocator) (data : List UInt8)
    (view : RttView) : RttItem → Prop
  | .completed nla => nla.data + 4 ≤ data.length
  | .target nla =>
      (nla.type = rttAttributeTargetMac → nla.data + 6 ≤ data.length) ∧
        (nla.type = rttAttributeResultCnt → nla.data + 4 ≤ data.length) ∧
        (nla.type = rttAttributeResult → view.stored < rttMaxResults ∧
          ((allocator.malloc nla.offset nla.len).isSome →
            RttResultFits platform.rttResult ((data.drop nla.data).take nla.len)))

def RttFits (platform : WifiPlatform) (allocator : Allocator) (data : List UInt8)
    (view : RttView) : Prop :=
  Justified (fun before item => RttItemFits platform allocator data
    (before.foldl (rttAdvance allocator data) view) item) (rttItems allocator data)

/-- `mCompleted` hands the results over and ends the command. -/
def rttComplete (view : RttView) : RttView :=
  if view.completed ≠ 0 then ⟨0, view.completed, false⟩ else view

def rttAfterEvent (allocator : Allocator) (data : List UInt8) (view : RttView) : RttView :=
  rttComplete ((rttItems allocator data).foldl (rttAdvance allocator data) view)

section Elements

variable {layout : RttResultLayout} {block : List UInt8}

theorem rttSecondElement_isSome (type : Nat) (inside : layout.size + 5 ≤ block.length) :
    (rttSecondElement layout block type).isSome := by
  have header := layout.four_le
  rw [rttSecondElement, number_bind_isSome_iff]
  constructor
  · omega
  split
  case isFalse => rfl
  case isTrue more =>
    have second : layout.size + numberAt block (layout.size + 1) 1 + dot11HdrLen + 5 ≤
        block.length := by omega
    rw [number_bind_isSome_iff]
    constructor
    · omega
    split
    case isFalse => rfl
    case isTrue =>
      rw [number_bind_isSome_iff]
      exact ⟨by omega, rfl⟩

/-- The elements are behind a result that has more bytes. -/
theorem rttElements_none (short : block.length ≤ layout.size) :
    rttElements layout block = some (none, none) := by
  rw [rttElements, if_neg (Nat.not_lt.mpr short)]

theorem rttElements_isSome_iff :
    (rttElements layout block).isSome ↔
      block.length ≤ layout.size ∨ numberAt block layout.size 1 ≠ dot11MngMeasureRequestId ∨
        layout.size + 5 ≤ block.length := by
  by_cases short : block.length ≤ layout.size
  · rw [rttElements_none short]
    exact iff_of_true rfl (Or.inl short)
  rw [rttElements, if_pos (Nat.lt_of_not_le short), or_iff_right short, number_bind_isSome_iff,
    and_iff_right (by omega)]
  by_cases element : numberAt block layout.size 1 = dot11MngMeasureRequestId
  swap
  · rw [if_neg element]
    exact iff_of_true rfl (Or.inl element)
  rw [if_pos element, or_iff_right (not_not.mpr element), number_bind_isSome_iff]
  apply and_iff_left_of_imp
  intro inside
  split
  · obtain ⟨second, isSecond⟩ := Option.isSome_iff_exists.mp
      (rttSecondElement_isSome dot11MeasureTypeCivicloc inside)
    rw [isSecond]
    rfl
  split
  · obtain ⟨second, isSecond⟩ := Option.isSome_iff_exists.mp
      (rttSecondElement_isSome dot11MeasureTypeLci inside)
    rw [isSecond]
    rfl
  · rfl

end Elements

section Rtt

variable {platform : WifiPlatform} {allocator : Allocator} {data : List UInt8} {nla : Attribute}
  {state : RttState}

/-- A pointer to an element is set in a result that has elements behind it. -/
theorem rttPointer_isSome {layout : RttResultLayout} {block : List UInt8} {pointer : Member}
    {element : Option Nat} (inside : pointer ∈ layout.lci :: layout.lcr :: layout.logged)
    (behind : element.isSome → layout.size < block.length) :
    (rttPointer block pointer element).isSome := by
  rw [rttPointer]
  split
  case isTrue found =>
    have within := layout.within pointer inside
    have more := behind found
    rw [Member.stop] at within
    exact load_isSome_iff.mpr (by omega)
  case isFalse => rfl

/-- A copy of a result, once there is memory for it -/
theorem rttResult_isSome_iff (inside : nla.data + nla.len ≤ data.length) :
    (rttResult platform allocator data nla state).isSome ↔
      state.results.length < rttMaxResults ∧
        ((allocator.malloc nla.offset nla.len).isSome →
          RttResultFits platform.rttResult ((data.drop nla.data).take nla.len)) := by
  rw [rttResult]
  dsimp only
  by_cases room : state.results.length < rttMaxResults
  swap
  · rw [if_neg room]
    exact iff_of_false nofun fun fits => room fits.1
  rw [if_pos room, and_iff_right room]
  cases allocated : allocator.malloc nla.offset nla.len with
  | none => exact iff_of_true rfl nofun
  | some block =>
      have size : block.length = nla.len := allocator.length_eq _ _ _ allocated
      have copied : ((data.drop nla.data).take nla.len).length = block.length := by
        rw [List.length_take, List.length_drop, size]
        omega
      rw [imp_iff_right Option.isSome_some, load_bind_isSome_iff, and_iff_right inside,
        store_whole copied, some_bind_eq, RttResultFits]
      generalize (data.drop nla.data).take nla.len = result
      apply bind_isSome_iff rttElements_isSome_iff
      rintro ⟨lci, lcr⟩ elements
      have behind : platform.rttResult.size < result.length ∨ (lci, lcr) = (none, none) := by
        by_cases short : result.length ≤ platform.rttResult.size
        · rw [rttElements_none short, Option.some.injEq] at elements
          exact Or.inr elements.symm
        · exact Or.inl (Nat.lt_of_not_le short)
      have lciBehind : lci.isSome → platform.rttResult.size < result.length := by
        rintro isElement
        refine behind.resolve_right fun none => ?_
        cases none
        cases isElement
      have lcrBehind : lcr.isSome → platform.rttResult.size < result.length := by
        rintro isElement
        refine behind.resolve_right fun none => ?_
        cases none
        cases isElement
      obtain ⟨lciPointer, lciStored⟩ := Option.isSome_iff_exists.mp
        (rttPointer_isSome List.mem_cons_self lciBehind)
      obtain ⟨lcrPointer, lcrStored⟩ := Option.isSome_iff_exists.mp
        (rttPointer_isSome (List.mem_cons_of_mem _ List.mem_cons_self) lcrBehind)
      dsimp only
      rw [lciStored, some_bind_eq, lcrStored, some_bind_eq]
      refine (bind_isSome_iff mapM_isSome_iff fun _ _ => iff_of_true rfl trivial).trans ?_
      simp only [load_isSome_iff, and_true]
      rfl

/-- A round of a loop, for one attribute -/
def rttItem (platform : WifiPlatform) (allocator : Allocator) (data : List UInt8)
    (state : RttState) : RttItem → Option RttState
  | .completed nla => do
      let completed ← number data nla.data 4
      some { state with completed := completed }
  | .target nla => (rttTargetAttribute platform allocator data nla state).map (·.2)

theorem rttItem_isSome_iff {item : RttItem} (inside : item.nla.data + item.nla.len ≤ data.length) :
    (rttItem platform allocator data state item).isSome ↔
      RttItemFits platform allocator data state.view item := by
  cases item with
  | completed nla =>
      rw [rttItem, RttItemFits, number_bind_isSome_iff, and_iff_left Option.isSome_some]
  | target nla =>
      rw [rttItem, RttItemFits, Option.isSome_map, rttTargetAttribute]
      by_cases mac : nla.type = rttAttributeTargetMac
      · rw [if_pos mac, mac, load_bind_isSome_iff, and_iff_left Option.isSome_some]
        simp [rttAttributeTargetMac, rttAttributeResultCnt, rttAttributeResult]
      by_cases count : nla.type = rttAttributeResultCnt
      · rw [if_neg mac, if_pos count, count, number_bind_isSome_iff,
          and_iff_left Option.isSome_some]
        simp [rttAttributeTargetMac, rttAttributeResultCnt, rttAttributeResult]
      rw [if_neg mac, if_neg count]
      rw [and_iff_right fun isMac => absurd isMac mac, and_iff_right fun isCount =>
        absurd isCount count]
      by_cases result : nla.type = rttAttributeResult
      · rw [if_pos result, imp_iff_right result]
        exact rttResult_isSome_iff inside
      · rw [if_neg result]
        exact iff_of_true rfl fun isResult => absurd isResult result

/-- A result is stored, or the lack of memory for it ends the loop. -/
theorem rttResult_cases {next : Bool × RttState}
    (ran : rttResult platform allocator data nla state = some next) :
    next.1 = (allocator.malloc nla.offset nla.len).isSome ∧
      next.2.view = if (allocator.malloc nla.offset nla.len).isSome then
        { state.view with stored := state.view.stored + 1 }
      else { state.view with completed := 1 } := by
  rw [rttResult] at ran
  dsimp only at ran
  split at ran
  case isFalse => cases ran
  case isTrue =>
    cases allocated : allocator.malloc nla.offset nla.len with
    | none =>
        rw [allocated] at ran
        cases ran
        exact ⟨rfl, rfl⟩
    | some block =>
        rw [allocated] at ran
        obtain ⟨copy, _, ran⟩ := Option.bind_eq_some_iff.mp ran
        obtain ⟨block, _, ran⟩ := Option.bind_eq_some_iff.mp ran
        obtain ⟨⟨lci, lcr⟩, _, ran⟩ := Option.bind_eq_some_iff.mp ran
        obtain ⟨_, _, ran⟩ := Option.bind_eq_some_iff.mp ran
        obtain ⟨_, _, ran⟩ := Option.bind_eq_some_iff.mp ran
        obtain ⟨_, _, made⟩ := Option.bind_eq_some_iff.mp ran
        cases made
        refine ⟨rfl, ?_⟩
        simp [RttState.view]

theorem rttTargetAttribute_cases {next : Bool × RttState}
    (ran : rttTargetAttribute platform allocator data nla state = some next) :
    next.1 = !rttStops allocator nla ∧
      next.2.view = rttAdvance allocator data state.view (.target nla) := by
  rw [rttTargetAttribute] at ran
  rw [rttStops, rttAdvance]
  by_cases mac : nla.type = rttAttributeTargetMac
  · rw [if_pos mac] at ran
    obtain ⟨_, _, made⟩ := Option.bind_eq_some_iff.mp ran
    cases made
    simp [mac, rttAttributeTargetMac, rttAttributeResult]
  by_cases count : nla.type = rttAttributeResultCnt
  · rw [if_neg mac, if_pos count] at ran
    obtain ⟨_, _, made⟩ := Option.bind_eq_some_iff.mp ran
    cases made
    simp [count, rttAttributeResultCnt, rttAttributeResult]
  rw [if_neg mac, if_neg count] at ran
  by_cases result : nla.type = rttAttributeResult
  · rw [if_pos result] at ran
    obtain ⟨more, advanced⟩ := rttResult_cases ran
    rw [if_pos result, more, advanced]
    cases allocator.malloc nla.offset nla.len <;> simp [result]
  · rw [if_neg result] at ran
    cases ran
    simp [result]

theorem rttItem_advance {item : RttItem} {next : RttState}
    (ran : rttItem platform allocator data state item = some next) :
    next.view = rttAdvance allocator data state.view item := by
  cases item with
  | completed nla =>
      obtain ⟨completed, read, made⟩ := Option.bind_eq_some_iff.mp ran
      cases made
      rw [eq_numberAt read]
      rfl
  | target nla =>
      obtain ⟨made, runs, rfl⟩ := Option.map_eq_some_iff.mp ran
      exact (rttTargetAttribute_cases runs).2

/-- A round of the outer loop is a loop over its items. -/
theorem rttAttribute_eq (inside : nla.data + nla.len ≤ data.length) (state : RttState) :
    rttAttribute platform allocator data nla state =
      ((rttItemsOf allocator data nla).foldlM (rttItem platform allocator data) state).map
        fun next => (true, next) := by
  rw [rttAttribute, rttItemsOf]
  by_cases complete : nla.type = rttAttributeResultsComplete
  · rw [if_pos complete, if_pos complete, List.foldlM_cons, rttItem]
    cases number data nla.data 4 <;> rfl
  rw [if_neg complete, if_neg complete]
  by_cases target : nla.type = rttAttributeResultsPerTarget
  · rw [if_pos target, if_pos target, forEach_eq _ _ Nat.le.refl inside,
      runAttributes_eq (rttStops allocator) fun nla state next ran =>
        (rttTargetAttribute_cases ran).1, List.foldlM_map]
    exact Option.map_eq_bind.symm
  · rw [if_neg target, if_neg target]
    rfl

/-- The attributes of an event, one after the other -/
theorem rttLoop_eq (state : RttState) :
    forEach data (rttAttribute platform allocator data) data.length data.length 0 state =
      (rttItems allocator data).foldlM (rttItem platform allocator data) state := by
  rw [forEach_eq _ _ Nat.le.refl (by omega)]
  apply runAttributes_flatMap
  intro nla occurs state
  have within := attributes_within nla occurs
  exact rttAttribute_eq (by omega) state

theorem rttItems_within {item : RttItem} (occurs : item ∈ rttItems allocator data) :
    item.nla.data + item.nla.len ≤ data.length := by
  obtain ⟨nla, isOuter, isItem⟩ := List.mem_flatMap.mp occurs
  have outer := attributes_within nla isOuter
  rw [rttItemsOf] at isItem
  split at isItem
  · rw [List.mem_singleton.mp isItem, RttItem.nla]
    omega
  split at isItem
  · obtain ⟨inner, isInner, rfl⟩ := List.mem_map.mp isItem
    have within := attributes_within inner (mem_of_mem_upTo inner isInner)
    rw [RttItem.nla]
    omega
  · cases isItem

theorem handleRtt_isSome_iff :
    (handleRtt platform allocator data state).isSome ↔
      RttFits platform allocator data state.view := by
  have loop : ((rttItems allocator data).foldlM (rttItem platform allocator data) state).isSome ↔
      RttFits platform allocator data state.view := by
    apply foldlM_isSome_iff (fun _ => True) RttState.view (rttAdvance allocator data)
      (RttItemFits platform allocator data)
    · intro state item occurs _
      exact rttItem_isSome_iff (rttItems_within occurs)
    · exact fun _ _ _ _ _ _ => trivial
    · exact fun _ _ _ _ ran => rttItem_advance ran
    · trivial
  rw [handleRtt, rttLoop_eq]
  refine (bind_isSome_iff loop fun final _ => iff_of_true ?_ trivial).trans (and_true _).to_iff
  split <;> rfl

theorem handleRtt_view {final : RttState} {report : WifiReport}
    (ran : handleRtt platform allocator data state = some (final, report)) :
    final.view = rttAfterEvent allocator data state.view := by
  rw [handleRtt, rttLoop_eq] at ran
  obtain ⟨next, runs, ran⟩ := Option.bind_eq_some_iff.mp ran
  have advanced :
      next.view = (rttItems allocator data).foldl (rttAdvance allocator data) state.view :=
    view_of_foldlM RttState.view (rttAdvance allocator data)
      (fun _ _ _ _ ran => rttItem_advance ran) runs
  rw [rttAfterEvent, ← advanced, rttComplete]
  split at ran
  case isTrue complete =>
    cases ran
    exact (if_pos complete).symm
  case isFalse going =>
    cases ran
    exact (if_neg going).symm

end Rtt

end X3Hal.Wifi
