import X3Hal.Wifi.VendorSafety

/-!
# The reports of the RTT results

`RttCommand` collects the results of its events, and hands them over when an event completes the
request.  A result has a fixed part, and behind it up to two elements: a location and a civic
location, in any order.
-/

namespace X3Hal.Wifi

open X3Hal.Memory X3Hal.Transition

/-! ## The elements of a result -/

def IsElement (block : List UInt8) (type place : Nat) : Prop :=
  numberAt block place 1 = dot11MngMeasureRequestId ∧ numberAt block (place + 4) 1 = type

/-- An element lies within its result. -/
def ElementInside (block : List UInt8) (place : Nat) : Prop :=
  place + 5 ≤ block.length ∧ place + numberAt block (place + 1) 1 + dot11HdrLen ≤ block.length

instance (block : List UInt8) (type place : Nat) : Decidable (IsElement block type place) :=
  inferInstanceAs (Decidable (_ ∧ _))

instance (block : List UInt8) (place : Nat) : Decidable (ElementInside block place) :=
  inferInstanceAs (Decidable (_ ∧ _))

/-- The place behind the first element -/
def secondPlace (layout : RttResultLayout) (block : List UInt8) : Nat :=
  layout.size + numberAt block (layout.size + 1) 1 + dot11HdrLen

/-- The element of a type, which is the first or the second behind the fixed part -/
def elementPlace (layout : RttResultLayout) (block : List UInt8) (type : Nat) : Option Nat :=
  if ¬ ElementInside block layout.size then none
  else if IsElement block type layout.size then some layout.size
  else if ElementInside block (secondPlace layout block) ∧
      IsElement block type (secondPlace layout block) then some (secondPlace layout block)
  else none

/-- A pointer is set to its element.  Without one it is `NULL`, which it has from the driver. -/
def PointerExact (block : List UInt8) (pointer : Member) (element set : Option Nat) : Prop :=
  set = element ∧ (element = none → numberAt block pointer.offset pointer.size = 0)

/-- `LCI` and `LCR` point to the elements of the result. -/
structure RttPointersExact (layout : RttResultLayout) (result : RttResult) : Prop where
  lci : PointerExact result.block layout.lci
    (elementPlace layout result.block dot11MeasureTypeLci) result.lci
  lcr : PointerExact result.block layout.lcr
    (elementPlace layout result.block dot11MeasureTypeCivicloc) result.lcr

/-- The element of either type at a place -/
def IsLocation (block : List UInt8) (place : Nat) : Prop :=
  IsElement block dot11MeasureTypeLci place ∨ IsElement block dot11MeasureTypeCivicloc place

/-- The size of the fixed part was subtracted twice. -/
def SecondSeen (layout : RttResultLayout) (block : List UInt8) : Prop :=
  secondPlace layout block + layout.size < block.length

instance (layout : RttResultLayout) (block : List UInt8) : Decidable (SecondSeen layout block) :=
  inferInstanceAs (Decidable (_ < _))

/-- A second element, behind one of the other type, is longer than the fixed part. -/
def SecondFound (layout : RttResultLayout) (block : List UInt8) (type : Nat) : Prop :=
  IsLocation block layout.size → ¬ IsElement block type layout.size →
    ElementInside block layout.size → IsElement block type (secondPlace layout block) →
    (ElementInside block (secondPlace layout block) ↔ SecondSeen layout block)

/-- The two elements are found where they are. -/
structure ElementsFound (layout : RttResultLayout) (block : List UInt8) : Prop where
  first : layout.size < block.length → IsLocation block layout.size →
    ElementInside block layout.size
  second : ∀ type ∈ [dot11MeasureTypeLci, dot11MeasureTypeCivicloc], SecondFound layout block type
  /-- No other element comes first. -/
  foreign : ElementInside block layout.size → ¬ IsLocation block layout.size →
    ElementInside block (secondPlace layout block) →
    ¬ IsLocation block (secondPlace layout block)
  lciNull : elementPlace layout block dot11MeasureTypeLci = none →
    numberAt block layout.lci.offset layout.lci.size = 0
  lcrNull : elementPlace layout block dot11MeasureTypeCivicloc = none →
    numberAt block layout.lcr.offset layout.lcr.size = 0

instance (block : List UInt8) (place : Nat) : Decidable (IsLocation block place) :=
  inferInstanceAs (Decidable (_ ∨ _))

instance (layout : RttResultLayout) (block : List UInt8) (type : Nat) :
    Decidable (SecondFound layout block type) :=
  inferInstanceAs (Decidable (_ → _ → _ → _ → (_ ↔ _)))

instance (layout : RttResultLayout) (block : List UInt8) :
    Decidable (ElementsFound layout block) :=
  decidable_of_iff (_ ∧ _ ∧ _ ∧ _ ∧ _)
    ⟨fun ⟨first, second, foreign, lciNull, lcrNull⟩ => ⟨first, second, foreign, lciNull, lcrNull⟩,
      fun ⟨first, second, foreign, lciNull, lcrNull⟩ => ⟨first, second, foreign, lciNull, lcrNull⟩⟩

/-- What the handler takes for the element of a type -/
def foundElement (layout : RttResultLayout) (block : List UInt8) (type other : Nat) : Option Nat :=
  if ¬ layout.size < block.length then none
  else if IsElement block type layout.size then some layout.size
  else if IsElement block other layout.size ∧ SecondSeen layout block ∧
      IsElement block type (secondPlace layout block) then some (secondPlace layout block)
  else none

section Elements

variable {layout : RttResultLayout} {block : List UInt8}

theorem rttSecondElement_eq (type : Nat) (inside : layout.size + 5 ≤ block.length) :
    rttSecondElement layout block type =
      some (if SecondSeen layout block ∧ IsElement block type (secondPlace layout block) then
        some (secondPlace layout block) else none) := by
  have room := layout.four_le
  have seenIff : (block.length : Int) - 2 * layout.size -
      (numberAt block (layout.size + 1) 1 + dot11HdrLen) > 0 ↔ SecondSeen layout block := by
    rw [SecondSeen, secondPlace]
    omega
  rw [rttSecondElement, number_eq (by omega), some_bind_eq]
  by_cases seen : SecondSeen layout block
  · have second : secondPlace layout block + layout.size < block.length := seen
    have isSecond : layout.size + numberAt block (layout.size + 1) 1 + dot11HdrLen =
        secondPlace layout block := rfl
    rw [if_pos (seenIff.mpr seen), isSecond]
    dsimp only
    rw [number_eq (by omega), some_bind_eq]
    by_cases element : numberAt block (secondPlace layout block) 1 = dot11MngMeasureRequestId
    · rw [if_pos element, number_eq (by omega), some_bind_eq]
      simp only [seen, IsElement, element, true_and]
    · rw [if_neg element, if_neg fun found => element found.2.1]
  · rw [if_neg (mt seenIff.mp seen), if_neg fun found => seen found.1]

/-- The handler finds one element of each type at most. -/
theorem rttElements_eq (inside : layout.size < block.length →
      numberAt block layout.size 1 = dot11MngMeasureRequestId → layout.size + 5 ≤ block.length) :
    rttElements layout block =
      some (foundElement layout block dot11MeasureTypeLci dot11MeasureTypeCivicloc,
        foundElement layout block dot11MeasureTypeCivicloc dot11MeasureTypeLci) := by
  rw [rttElements, foundElement, foundElement]
  by_cases more : layout.size < block.length
  swap
  · rw [if_neg more, if_pos more, if_pos more]
  rw [if_pos more, if_neg (not_not.mpr more), if_neg (not_not.mpr more), number_eq (by omega),
    some_bind_eq]
  by_cases element : numberAt block layout.size 1 = dot11MngMeasureRequestId
  swap
  · rw [if_neg element]
    simp [IsElement, element]
  have header := inside more element
  rw [if_pos element, number_eq (by omega), some_bind_eq, rttSecondElement_eq _ header,
    rttSecondElement_eq _ header, some_bind_eq, some_bind_eq]
  by_cases lci : numberAt block (layout.size + 4) 1 = dot11MeasureTypeLci
  · have isLci : IsElement block dot11MeasureTypeLci layout.size := ⟨element, lci⟩
    have notCivic : ¬ IsElement block dot11MeasureTypeCivicloc layout.size := by
      rintro ⟨-, civic⟩
      rw [lci] at civic
      cases civic
    simp only [lci, isLci, notCivic, if_true, if_false, true_and]
  by_cases civic : numberAt block (layout.size + 4) 1 = dot11MeasureTypeCivicloc
  · have isCivic : IsElement block dot11MeasureTypeCivicloc layout.size := ⟨element, civic⟩
    have notLci : ¬ IsElement block dot11MeasureTypeLci layout.size := fun found => lci found.2
    rw [if_neg lci, if_pos civic]
    simp only [isCivic, notLci, if_true, if_false, true_and]
  · have notLci : ¬ IsElement block dot11MeasureTypeLci layout.size := fun found => lci found.2
    have notCivic : ¬ IsElement block dot11MeasureTypeCivicloc layout.size :=
      fun found => civic found.2
    simp only [lci, civic, notLci, notCivic, if_false, false_and]

/-- What the handler takes for the element of a type is that element under two conditions. -/
theorem foundElement_eq_iff {type other : Nat} :
    foundElement layout block type other = elementPlace layout block type ↔
      (layout.size < block.length → ¬ ElementInside block layout.size →
        ¬ IsElement block type layout.size ∧
        ¬ (IsElement block other layout.size ∧ SecondSeen layout block ∧
          IsElement block type (secondPlace layout block))) ∧
      (ElementInside block layout.size → ¬ IsElement block type layout.size →
        IsElement block type (secondPlace layout block) →
        (IsElement block other layout.size ∧ SecondSeen layout block ↔
          ElementInside block (secondPlace layout block))) := by
  rw [foundElement, elementPlace]
  by_cases inside : ElementInside block layout.size
  · have more : layout.size < block.length := by
      have := inside.1
      omega
    simp only [more, inside, not_true_eq_false, if_false, false_implies, implies_true, true_and,
      true_implies]
    by_cases own : IsElement block type layout.size
    · simp only [own, if_true, not_true_eq_false, false_implies]
    · simp only [own, if_false, not_false_eq_true, true_implies]
      by_cases element : IsElement block type (secondPlace layout block)
      · simp only [element, and_true, true_implies]
        by_cases found : IsElement block other layout.size ∧ SecondSeen layout block <;>
          by_cases behind : ElementInside block (secondPlace layout block) <;>
          simp [found, behind]
      · simp only [element, and_false, if_false, false_implies]
  · simp only [inside, not_false_eq_true, if_true, false_implies, and_true, true_implies]
    by_cases more : layout.size < block.length
    · simp only [more, not_true_eq_false, if_false, true_implies]
      by_cases own : IsElement block type layout.size
      · simp [own]
      · by_cases found : IsElement block other layout.size ∧ SecondSeen layout block ∧
            IsElement block type (secondPlace layout block) <;> simp [own, found]
    · simp only [more, not_false_eq_true, if_true, false_implies]

/-- The pointers of a result are exact when its elements are found and no old pointer stays. -/
theorem rttPointersExact_iff {lci lcr : Option Nat}
    (made : rttElements layout block = some (lci, lcr))
    (inside : layout.size < block.length →
      numberAt block layout.size 1 = dot11MngMeasureRequestId →
      layout.size + 5 ≤ block.length) :
    RttPointersExact layout ⟨block, lci, lcr⟩ ↔ ElementsFound layout block := by
  rw [rttElements_eq inside, Option.some.injEq, Prod.mk.injEq] at made
  obtain ⟨rfl, rfl⟩ := made
  constructor
  · rintro ⟨⟨lci, lciNull⟩, lcr, lcrNull⟩
    rw [foundElement_eq_iff] at lci lcr
    refine ⟨?_, ?_, ?_, lciNull, lcrNull⟩
    · intro more location
      by_contra outside
      rcases location with isLci | isCivic
      · exact (lci.1 more outside).1 isLci
      · exact (lcr.1 more outside).1 isCivic
    · intro type isType location notOwn within element
      rcases List.mem_cons.mp isType with rfl | isType
      · rw [← lci.2 within notOwn element, and_iff_right (location.resolve_left notOwn)]
      · obtain rfl := List.mem_singleton.mp isType
        rw [← lcr.2 within notOwn element, and_iff_right (location.resolve_right notOwn)]
    · intro within notLocation behind location
      obtain ⟨notLci, notCivic⟩ := not_or.mp notLocation
      rcases location with isLci | isCivic
      · exact notCivic ((lci.2 within notLci isLci).mpr behind).1
      · exact notLci ((lcr.2 within notCivic isCivic).mpr behind).1
  · rintro ⟨first, second, foreign, lciNull, lcrNull⟩
    refine ⟨⟨foundElement_eq_iff.mpr ⟨?_, ?_⟩, lciNull⟩, foundElement_eq_iff.mpr ⟨?_, ?_⟩, lcrNull⟩
    · intro more outside
      have notLocation := not_or.mp (mt (first more) outside)
      exact ⟨notLocation.1, fun found => notLocation.2 found.1⟩
    · intro within notOwn element
      by_cases isOther : IsElement block dot11MeasureTypeCivicloc layout.size
      · rw [and_iff_right isOther]
        exact (second _ List.mem_cons_self (Or.inr isOther) notOwn within element).symm
      · refine iff_of_false (fun found => isOther found.1) fun behind => ?_
        exact foreign within (not_or.mpr ⟨notOwn, isOther⟩) behind (Or.inl element)
    · intro more outside
      have notLocation := not_or.mp (mt (first more) outside)
      exact ⟨notLocation.2, fun found => notLocation.1 found.1⟩
    · intro within notOwn element
      by_cases isOther : IsElement block dot11MeasureTypeLci layout.size
      · rw [and_iff_right isOther]
        exact (second _ (List.mem_cons_of_mem _ List.mem_cons_self) (Or.inl isOther) notOwn within
          element).symm
      · refine iff_of_false (fun found => isOther found.1) fun behind => ?_
        exact foreign within (not_or.mpr ⟨isOther, notOwn⟩) behind (Or.inr element)

end Elements

/-! ## What an event has -/

def Attribute.payload (nla : Attribute) (data : List UInt8) : List UInt8 :=
  (data.drop nla.data).take nla.len

/-- The attributes of all targets of an event -/
def targetAttributes (data : List UInt8) : List Attribute :=
  (attributes data data.length data.length 0).flatMap fun nla =>
    if nla.type = rttAttributeResultsPerTarget then attributes data nla.len nla.len nla.data
    else []

def resultAttributes (data : List UInt8) : List Attribute :=
  (targetAttributes data).filter fun nla => nla.type = rttAttributeResult

/-- The results of an event, in order -/
def receivedResults (data : List UInt8) : List (List UInt8) :=
  (resultAttributes data).map fun nla => nla.payload data

/-- The completion flag of an event, which is the last one that it has -/
def completionFlag (data : List UInt8) : Nat :=
  (attributes data data.length data.length 0).foldl
    (fun flag nla =>
      if nla.type = rttAttributeResultsComplete then numberAt data nla.data 4 else flag) 0

/-- An RTT event, with the memory that there is -/
structure RttEvent where
  data : List UInt8
  allocator : Allocator

def RttEvent.message (event : RttEvent) : VendorMessage :=
  ⟨.rtt, 0, event.data, event.allocator⟩

/-- The results are reported once, when an event completes the request, with what was received up
to then. -/
def RttReportsExact (layout : RttResultLayout) :
    List (List UInt8) → List RttEvent → List WifiReport → Prop
  | received, event :: events, report :: reports =>
      if completionFlag event.data = 0 then
        report = .none ∧
          RttReportsExact layout (received ++ receivedResults event.data) events reports
      else
        (∃ results, report = .rttResults results ∧
          results.map RttResult.block = received ++ receivedResults event.data ∧
          ∀ result ∈ results, RttPointersExact layout result) ∧
        reports = events.map fun _ => .none
  | _, [], [] => True
  | _, _, _ => False

/-- What an event has when so many results were received before it -/
structure RttEventFits (platform : WifiPlatform) (count : Nat) (event : RttEvent) : Prop where
  completed : ∀ nla ∈ attributes event.data event.data.length event.data.length 0,
    nla.type = rttAttributeResultsComplete → nla.data + 4 ≤ event.data.length
  target : ∀ nla ∈ targetAttributes event.data,
    (nla.type = rttAttributeTargetMac → nla.data + 6 ≤ event.data.length) ∧
      (nla.type = rttAttributeResultCnt → nla.data + 4 ≤ event.data.length)
  memory : ∀ nla ∈ resultAttributes event.data,
    (event.allocator.malloc nla.offset nla.len).isSome
  room : count + (receivedResults event.data).length ≤ rttMaxResults
  results : ∀ block ∈ receivedResults event.data,
    RttResultFits platform.rttResult block ∧ ElementsFound platform.rttResult block

instance (layout : RttResultLayout) (block : List UInt8) :
    Decidable (RttResultFits layout block) :=
  inferInstanceAs (Decidable ((_ ∨ _ ∨ _) ∧ ∀ member ∈ layout.logged, _))

instance (platform : WifiPlatform) (count : Nat) (event : RttEvent) :
    Decidable (RttEventFits platform count event) :=
  decidable_of_iff (_ ∧ _ ∧ _ ∧ _ ∧ _)
    ⟨fun ⟨completed, target, memory, room, results⟩ => ⟨completed, target, memory, room, results⟩,
      fun ⟨completed, target, memory, room, results⟩ => ⟨completed, target, memory, room, results⟩⟩

/-- The events fit, up to the one that completes the request. -/
def RttEventsFit (platform : WifiPlatform) : Nat → List RttEvent → Prop
  | _, [] => True
  | count, event :: events =>
      RttEventFits platform count event ∧
        (completionFlag event.data = 0 →
          RttEventsFit platform (count + (receivedResults event.data).length) events)

/-! ## The items of an event with memory -/

def RttItem.result : RttItem → Option Attribute
  | .completed _ => none
  | .target nla => if nla.type = rttAttributeResult then some nla else none

def RttItem.flag (data : List UInt8) (flag : Nat) : RttItem → Nat
  | .completed nla => numberAt data nla.data 4
  | .target _ => flag

section Items

variable {allocator : Allocator} {data : List UInt8}

theorem upTo_eq_self {stops : Attribute → Bool} {nlas : List Attribute}
    (never : ∀ nla ∈ nlas, stops nla = false) : upTo stops nlas = nlas := by
  induction nlas with
  | nil => rfl
  | cons nla nlas ih =>
      rw [upTo, never nla List.mem_cons_self, if_neg Bool.false_ne_true,
        ih fun other later => never other (List.mem_cons_of_mem _ later)]

theorem mem_targetAttributes {outer nla : Attribute}
    (isOuter : outer ∈ attributes data data.length data.length 0)
    (target : outer.type = rttAttributeResultsPerTarget)
    (inner : nla ∈ attributes data outer.len outer.len outer.data) :
    nla ∈ targetAttributes data :=
  List.mem_flatMap.mpr ⟨outer, isOuter, by rwa [if_pos target]⟩

/-- With memory for the results no loop stops early. -/
theorem rttItemsOf_eq {nla : Attribute}
    (memory : ∀ nla ∈ resultAttributes data, (allocator.malloc nla.offset nla.len).isSome)
    (isOuter : nla ∈ attributes data data.length data.length 0) :
    rttItemsOf allocator data nla =
      if nla.type = rttAttributeResultsComplete then [.completed nla]
      else if nla.type = rttAttributeResultsPerTarget then
        (attributes data nla.len nla.len nla.data).map .target
      else [] := by
  rw [rttItemsOf]
  by_cases target : nla.type = rttAttributeResultsPerTarget
  · rw [upTo_eq_self]
    intro inner isInner
    rw [rttStops, decide_eq_false_iff_not]
    rintro ⟨result, missing⟩
    have isResult : inner ∈ resultAttributes data :=
      List.mem_filter.mpr ⟨mem_targetAttributes isOuter target isInner, decide_eq_true result⟩
    rw [Option.isNone_iff_eq_none] at missing
    have found := memory inner isResult
    rw [missing] at found
    cases found
  · rw [if_neg target, if_neg target]

theorem filterMap_rttItems
    (memory : ∀ nla ∈ resultAttributes data, (allocator.malloc nla.offset nla.len).isSome) :
    (rttItems allocator data).filterMap RttItem.result = resultAttributes data := by
  rw [rttItems, resultAttributes, targetAttributes, List.filterMap_flatMap, List.filter_flatMap]
  apply List.flatMap_congr
  intro nla isOuter
  rw [rttItemsOf_eq memory isOuter]
  by_cases complete : nla.type = rttAttributeResultsComplete
  · rw [if_pos complete, complete, if_neg (by decide)]
    rfl
  rw [if_neg complete]
  split
  · rw [List.filterMap_map, ← List.filterMap_eq_filter]
    congr 1
    funext each
    simp [RttItem.result, Option.guard]
  · rfl

theorem foldl_flag_rttItems
    (memory : ∀ nla ∈ resultAttributes data, (allocator.malloc nla.offset nla.len).isSome) :
    (rttItems allocator data).foldl (RttItem.flag data) 0 = completionFlag data := by
  rw [rttItems, completionFlag, List.foldl_flatMap]
  apply List.foldl_ext
  intro flag nla isOuter
  rw [rttItemsOf_eq memory isOuter]
  split
  · rfl
  split
  · rw [List.foldl_map]
    exact List.foldl_fixed _
  · rfl

theorem mem_rttItems_target {nla : Attribute} (occurs : .target nla ∈ rttItems allocator data) :
    nla ∈ targetAttributes data := by
  obtain ⟨outer, isOuter, isItem⟩ := List.mem_flatMap.mp occurs
  rw [rttItemsOf] at isItem
  split at isItem
  · cases List.mem_singleton.mp isItem
  split at isItem
  case isTrue target =>
    obtain ⟨inner, isInner, same⟩ := List.mem_map.mp isItem
    obtain rfl := RttItem.target.inj same
    exact mem_targetAttributes isOuter target (mem_of_mem_upTo inner isInner)
  case isFalse => cases isItem

theorem mem_rttItems_completed {nla : Attribute}
    (occurs : .completed nla ∈ rttItems allocator data) :
    nla ∈ attributes data data.length data.length 0 ∧
      nla.type = rttAttributeResultsComplete := by
  obtain ⟨outer, isOuter, isItem⟩ := List.mem_flatMap.mp occurs
  rw [rttItemsOf] at isItem
  split at isItem
  case isTrue complete =>
    obtain rfl := RttItem.completed.inj (List.mem_singleton.mp isItem)
    exact ⟨isOuter, complete⟩
  split at isItem
  · obtain ⟨inner, _, same⟩ := List.mem_map.mp isItem
    cases same
  · cases isItem

theorem stored_of_foldl {items : List RttItem} {view : RttView}
    (memory : ∀ item ∈ items, ∀ nla ∈ item.result, (allocator.malloc nla.offset nla.len).isSome) :
    (items.foldl (rttAdvance allocator data) view).stored =
      view.stored + (items.filterMap RttItem.result).length := by
  induction items generalizing view with
  | nil => rfl
  | cons item items ih =>
      rw [List.foldl_cons, ih fun other later => memory other (List.mem_cons_of_mem _ later)]
      cases item with
      | completed nla => rfl
      | target nla =>
          by_cases result : nla.type = rttAttributeResult
          · have isResult : (RttItem.target nla).result = some nla := if_pos result
            have isSome := memory _ List.mem_cons_self nla isResult
            rw [List.filterMap_cons_some isResult, List.length_cons, rttAdvance, if_pos result,
              if_pos isSome]
            dsimp only
            omega
          · have isOther : (RttItem.target nla).result = none := if_neg result
            rw [List.filterMap_cons_none isOther, rttAdvance, if_neg result]

/-- An event that fits is handled in bounds. -/
theorem rttFits_of_event {platform : WifiPlatform} {event : RttEvent} {view : RttView}
    (fits : RttEventFits platform view.stored event) :
    RttFits platform event.allocator event.data view := by
  have memory : ∀ item ∈ rttItems event.allocator event.data, ∀ nla ∈ item.result,
      (event.allocator.malloc nla.offset nla.len).isSome := by
    intro item occurs nla isResult
    apply fits.memory
    rw [← filterMap_rttItems fits.memory]
    exact List.mem_filterMap.mpr ⟨item, occurs, isResult⟩
  intro before item after split
  have occurs : item ∈ rttItems event.allocator event.data := by
    rw [split]
    exact List.mem_append_right _ List.mem_cons_self
  cases item with
  | completed nla =>
      obtain ⟨isOuter, complete⟩ := mem_rttItems_completed occurs
      exact fits.completed nla isOuter complete
  | target nla =>
      have inner := mem_rttItems_target occurs
      refine ⟨(fits.target nla inner).1, (fits.target nla inner).2, fun result => ?_⟩
      have isResult : nla ∈ resultAttributes event.data :=
        List.mem_filter.mpr ⟨inner, decide_eq_true result⟩
      constructor
      · have all := congrArg List.length (filterMap_rttItems fits.memory)
        have own : (RttItem.target nla).result = some nla := if_pos result
        have room := fits.room
        rw [split, List.filterMap_append, List.filterMap_cons_some own, List.length_append,
          List.length_cons] at all
        rw [receivedResults, List.length_map] at room
        rw [stored_of_foldl fun item among => memory item (split ▸ List.mem_append_left _ among)]
        omega
      · intro _
        exact (fits.results _ (List.mem_map_of_mem isResult)).1

end Items

/-! ## Events -/

section Events

variable {platform : WifiPlatform} {allocator : Allocator} {data : List UInt8}

/-- A result with the elements that the handler finds -/
def rttResultOf (layout : RttResultLayout) (block : List UInt8) : RttResult :=
  let elements := (rttElements layout block).getD (none, none)
  ⟨block, elements.1, elements.2⟩

def rttReceive (layout : RttResultLayout) (data : List UInt8) (state : RttState) :
    RttItem → RttState
  | .completed nla => { state with completed := numberAt data nla.data 4 }
  | .target nla =>
      if nla.type = rttAttributeResult then
        { state with results := state.results ++ [rttResultOf layout (nla.payload data)] }
      else state

/-- What an item makes of the state when there is memory -/
theorem rttItem_receive {item : RttItem} {state next : RttState}
    (memory : ∀ nla ∈ item.result, (allocator.malloc nla.offset nla.len).isSome)
    (inside : item.nla.data + item.nla.len ≤ data.length)
    (ran : rttItem platform allocator data state item = some next) :
    next = rttReceive platform.rttResult data state item := by
  cases item with
  | completed nla =>
      obtain ⟨completed, read, made⟩ := Option.bind_eq_some_iff.mp ran
      cases made
      rw [eq_numberAt read, rttReceive]
  | target nla =>
      rw [RttItem.nla] at inside
      obtain ⟨⟨more, made⟩, runs, rfl⟩ := Option.map_eq_some_iff.mp ran
      rw [rttTargetAttribute] at runs
      by_cases mac : nla.type = rttAttributeTargetMac
      · rw [if_pos mac] at runs
        obtain ⟨_, _, same⟩ := Option.bind_eq_some_iff.mp runs
        cases same
        rw [rttReceive, mac, if_neg (by decide)]
      by_cases count : nla.type = rttAttributeResultCnt
      · rw [if_neg mac, if_pos count] at runs
        obtain ⟨_, _, same⟩ := Option.bind_eq_some_iff.mp runs
        cases same
        rw [rttReceive, count, if_neg (by decide)]
      rw [if_neg mac, if_neg count] at runs
      by_cases result : nla.type = rttAttributeResult
      swap
      · rw [if_neg result] at runs
        cases runs
        rw [rttReceive, if_neg result]
      rw [if_pos result, rttResult] at runs
      dsimp only at runs
      split at runs
      case isFalse => cases runs
      have isSome := memory nla (if_pos result)
      obtain ⟨block, allocated⟩ := Option.isSome_iff_exists.mp isSome
      have size : block.length = nla.len := allocator.length_eq _ _ _ allocated
      have copied : (nla.payload data).length = block.length := by
        rw [Attribute.payload, List.length_take, List.length_drop, size]
        omega
      rw [allocated] at runs
      obtain ⟨copy, loaded, runs⟩ := Option.bind_eq_some_iff.mp runs
      rw [load, if_pos inside] at loaded
      obtain rfl := Option.some.inj loaded
      obtain ⟨stored, isStored, runs⟩ := Option.bind_eq_some_iff.mp runs
      obtain rfl := Option.some.inj (isStored.symm.trans (store_whole copied))
      obtain ⟨⟨lci, lcr⟩, elements, runs⟩ := Option.bind_eq_some_iff.mp runs
      obtain ⟨_, _, runs⟩ := Option.bind_eq_some_iff.mp runs
      obtain ⟨_, _, runs⟩ := Option.bind_eq_some_iff.mp runs
      obtain ⟨_, _, same⟩ := Option.bind_eq_some_iff.mp runs
      cases same
      have isMade : rttResultOf platform.rttResult (nla.payload data) =
          ⟨nla.payload data, lci, lcr⟩ := by
        rw [rttResultOf, Attribute.payload, elements]
        rfl
      rw [rttReceive, if_pos result, isMade]
      rfl

theorem foldl_rttReceive {layout : RttResultLayout} (items : List RttItem) (state : RttState) :
    items.foldl (rttReceive layout data) state =
      { state with
        results := state.results ++ (items.filterMap RttItem.result).map
          fun nla => rttResultOf layout (nla.payload data)
        completed := items.foldl (RttItem.flag data) state.completed } := by
  induction items generalizing state with
  | nil => simp
  | cons item items ih =>
      rw [List.foldl_cons, List.foldl_cons, ih]
      cases item with
      | completed nla => rfl
      | target nla =>
          by_cases result : nla.type = rttAttributeResult
          · simp [rttReceive, RttItem.result, RttItem.flag, result]
          · simp [rttReceive, RttItem.result, RttItem.flag, result]

/-- What the handler makes of an event that fits -/
theorem handleRtt_eq {event : RttEvent} {results : List RttResult}
    (fits : RttEventFits platform results.length event) :
    handleRtt platform event.allocator event.data ⟨results, 0, true⟩ =
      let received := results ++
        (receivedResults event.data).map (rttResultOf platform.rttResult)
      some (if completionFlag event.data ≠ 0 then
        (⟨[], completionFlag event.data, false⟩, .rttResults received)
      else (⟨received, 0, true⟩, .none)) := by
  have inBounds : (handleRtt platform event.allocator event.data ⟨results, 0, true⟩).isSome :=
    handleRtt_isSome_iff.mpr (rttFits_of_event fits)
  rw [handleRtt, rttLoop_eq] at inBounds ⊢
  obtain ⟨⟨final, report⟩, ran⟩ := Option.isSome_iff_exists.mp inBounds
  obtain ⟨next, runs, -⟩ := Option.bind_eq_some_iff.mp ran
  have isNext : next = (rttItems event.allocator event.data).foldl
      (rttReceive platform.rttResult event.data) ⟨results, 0, true⟩ := by
    refine view_of_foldlM (fun state => state) _ ?_ runs
    intro state item occurs next isItem
    refine rttItem_receive ?_ (rttItems_within occurs) isItem
    intro nla isResult
    apply fits.memory
    rw [← filterMap_rttItems fits.memory]
    exact List.mem_filterMap.mpr ⟨item, occurs, isResult⟩
  rw [foldl_rttReceive, filterMap_rttItems fits.memory, foldl_flag_rttItems fits.memory] at isNext
  rw [runs, some_bind_eq, isNext, receivedResults, List.map_map]
  dsimp only
  by_cases going : completionFlag event.data = 0
  · rw [if_neg (not_not.mpr going), if_neg (not_not.mpr going), going]
    rfl
  · rw [if_pos going, if_pos going]
    rfl

theorem rttResultOf_exact {layout : RttResultLayout} {block : List UInt8}
    (fits : RttResultFits layout block) (found : ElementsFound layout block) :
    RttPointersExact layout (rttResultOf layout block) := by
  have inside : layout.size < block.length →
      numberAt block layout.size 1 = dot11MngMeasureRequestId →
      layout.size + 5 ≤ block.length := fun more element =>
    (fits.1.resolve_left (Nat.not_le.mpr more)).resolve_left (not_not.mpr element)
  have made := rttElements_eq inside
  rw [rttResultOf, made]
  exact (rttPointersExact_iff made inside).mpr found

/-- After the request is completed its events do nothing. -/
theorem handleMessages_completed {state : RttState} (gone : state.registered = false)
    (events : List RttEvent) :
    handleMessages platform state (events.map RttEvent.message) =
      some (state, events.map fun _ => .none) := by
  induction events with
  | nil => rfl
  | cons event events ih =>
      rw [List.map_cons, handleMessages, handleMessage]
      dsimp only [RttEvent.message]
      rw [gone, if_neg Bool.false_ne_true, some_bind_eq, ih]
      rfl

theorem handleMessages_exact (results : List RttResult) {events : List RttEvent}
    (fit : RttEventsFit platform results.length events)
    (pointers : ∀ result ∈ results, RttPointersExact platform.rttResult result) :
    ∃ final reports,
      handleMessages platform ⟨results, 0, true⟩ (events.map RttEvent.message) =
        some (final, reports) ∧
      RttReportsExact platform.rttResult (results.map RttResult.block) events reports := by
  induction events generalizing results with
  | nil => exact ⟨_, _, rfl, trivial⟩
  | cons event events ih =>
      obtain ⟨fits, later⟩ := fit
      generalize isReceived : (receivedResults event.data).map (rttResultOf platform.rttResult) =
        received
      have blocks : (results ++ received).map RttResult.block =
          results.map RttResult.block ++ receivedResults event.data := by
        rw [List.map_append, ← isReceived, List.map_map]
        congr 1
        exact List.map_id _
      have allExact : ∀ result ∈ results ++ received,
          RttPointersExact platform.rttResult result := by
        intro result among
        rcases List.mem_append.mp among with before | new
        · exact pointers result before
        · rw [← isReceived] at new
          obtain ⟨block, isBlock, rfl⟩ := List.mem_map.mp new
          obtain ⟨inside, found⟩ := fits.results block isBlock
          exact rttResultOf_exact inside found
      have handled := handleRtt_eq fits
      dsimp only at handled
      rw [isReceived] at handled
      rw [List.map_cons, handleMessages, handleMessage]
      dsimp only [RttEvent.message]
      rw [if_pos rfl, handled]
      by_cases going : completionFlag event.data = 0
      · have length : (results ++ received).length =
            results.length + (receivedResults event.data).length := by
          rw [List.length_append, ← isReceived, List.length_map]
        obtain ⟨final, reports, ran, reported⟩ := ih _ (length ▸ later going) allExact
        rw [if_neg (not_not.mpr going), some_bind_eq]
        refine ⟨final, .none :: reports, ?_, ?_⟩
        · dsimp only
          rw [ran]
          rfl
        · rw [RttReportsExact, if_pos going, ← blocks]
          exact ⟨rfl, reported⟩
      · rw [if_pos going, some_bind_eq]
        refine ⟨⟨[], completionFlag event.data, false⟩,
          .rttResults (results ++ received) :: events.map fun _ => .none, ?_, ?_⟩
        · dsimp only
          rw [handleMessages_completed rfl]
          rfl
        · rw [RttReportsExact, if_neg going]
          exact ⟨⟨_, rfl, blocks, allExact⟩, rfl⟩

/-- The results are reported as they were received, with their elements, when the events fit. -/
theorem rttReports_exact {events : List RttEvent} (fit : RttEventsFit platform 0 events) :
    ∃ final reports,
      handleMessages platform rttStart (events.map RttEvent.message) = some (final, reports) ∧
      RttReportsExact platform.rttResult [] events reports :=
  handleMessages_exact [] fit nofun

end Events

/-- The header of an attribute -/
def attributeHeader (type len : Nat) : List UInt8 :=
  leBytes 2 (nlaHdrLen + len) ++ leBytes 2 type

/-- An element of a type with so many bytes behind its type -/
def rmElement (type : UInt8) (len : Nat) : List UInt8 :=
  [38, UInt8.ofNat (3 + len), 0, 0, type] ++ List.replicate len 0

/-- An event with one result of `platform64`, and maybe with the flag -/
def resultEvent (result : List UInt8) (isLast : Bool) : RttEvent where
  data :=
    attributeHeader rttAttributeResultsPerTarget (4 + result.length) ++
      attributeHeader rttAttributeResult result.length ++ result ++
      if isLast then attributeHeader rttAttributeResultsComplete 4 ++ [1, 0, 0, 0] else []
  allocator := zeroed

/-- A result without elements, then one with a civic location in front of a long location -/
def plainEvents : List RttEvent :=
  [resultEvent (List.replicate 128 0) false,
    resultEvent (List.replicate 128 0 ++ rmElement 11 3 ++ rmElement 8 127) true]

/-- The results of both events are reported once, with their elements. -/
theorem rttReports_plain :
    ∃ final reports,
      handleMessages platform64 rttStart (plainEvents.map RttEvent.message) =
        some (final, reports) ∧
      RttReportsExact platform64.rttResult [] plainEvents reports :=
  rttReports_exact ⟨by decide +kernel, fun _ => ⟨by decide +kernel, fun _ => trivial⟩⟩

/-- An event that completes the request with a result whose pointers are wrong -/
theorem not_rttReportsExact {layout : RttResultLayout} {event : RttEvent} {result : RttResult}
    (completes : completionFlag event.data ≠ 0) (wrong : ¬ RttPointersExact layout result) :
    ¬ RttReportsExact layout [] [event] [.rttResults [result]] := by
  intro reported
  rw [RttReportsExact, if_neg completes] at reported
  obtain ⟨⟨results, same, -, pointers⟩, -⟩ := reported
  obtain rfl := WifiReport.rttResults.inj same
  exact wrong (pointers result (List.mem_singleton_self _))

/-- A result with a location in front of a short civic location -/
def shortResult : List UInt8 :=
  List.replicate 128 0 ++ rmElement 8 3 ++ rmElement 11 3

/-- What goes wrong: the second element of a result is not found when it is not longer than the
fixed part.  And a pointer without an element stays as the driver has it. -/
theorem rttReports_short :
    (∃ final reports,
      handleMessages platform64 rttStart [(resultEvent shortResult true).message] =
        some (final, reports) ∧
      ¬ RttReportsExact platform64.rttResult [] [resultEvent shortResult true] reports) ∧
    ∃ final reports,
      handleMessages platform64 rttStart [(resultEvent (List.replicate 128 1) true).message] =
        some (final, reports) ∧
      ¬ RttReportsExact platform64.rttResult [] [resultEvent (List.replicate 128 1) true]
        reports := by
  constructor
  · refine ⟨⟨[], 1, false⟩, [.rttResults [⟨shortResult, some 128, none⟩]], by decide +kernel,
      not_rttReportsExact (by decide +kernel) ?_⟩
    rintro ⟨-, lcr, -⟩
    revert lcr
    decide +kernel
  · refine ⟨⟨[], 1, false⟩, [.rttResults [⟨List.replicate 128 1, none, none⟩]],
      by decide +kernel, not_rttReportsExact (by decide +kernel) ?_⟩
    rintro ⟨⟨-, null⟩, -⟩
    revert null
    decide +kernel

end X3Hal.Wifi
