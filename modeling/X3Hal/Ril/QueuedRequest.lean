import X3Hal.Ril.BufferTransfer

/-!
# Which requests can be queued

A copied pointer into the caller's frame dangles, a buffer on the heap that only its caller
knows is never freed, and a string is freed twice.  The other requests are queued as they are
dispatched.
-/

namespace X3Hal.Ril

open X3Hal.Memory

/-! ## Strings, freed with their copies -/

/-- The copy of a string is taken for the string, and freed with it. -/
theorem queued_dispatchString (str : List UInt8) : (dispatchString str).queued = none := by
  rw [EnqueueCall.queued, Option.bind_eq_none_iff]
  rintro ⟨buf, waiting⟩ queued
  have notVoid : BufFormat.str ≠ .void := by decide
  have filled : (dispatchString str).format ≠ .void ∧ (dispatchString str).buflen ≠ 0 :=
    ⟨notVoid, Nat.succ_ne_zero _⟩
  rw [EnqueueCall.queue, if_pos filled, Option.map_eq_some_iff] at queued
  obtain ⟨copy, -, same⟩ := queued
  obtain ⟨rfl, rfl⟩ := Prod.mk.inj same
  rw [Option.bind_eq_none_iff]
  intro view _
  simp only [if_pos filled]
  show Option.map _ (((Store.free _ (some _)).bind fun after => Store.free after (some _)).bind
    _) = none
  rw [Store.free_free]
  rfl

theorem not_queuedAsDirect_dispatchString (str : List UInt8) :
    ¬ (dispatchString str).QueuedAsDirect := by
  rintro ⟨view, atOnce, later, -, queued, -⟩
  rw [queued_dispatchString] at queued
  cases queued

/-! ## Buffers on the heap -/

/-- A buffer of the heap is known to its caller only, who leaves it to `my_enqueue`. -/
theorem not_queuedAsDirect_of_heap {cells : List Cell} {buflen : Nat} {bf : BufFormat}
    {store : Store} (notString : bf ≠ .str) (owned : OwnedStore store)
    (inside : ∀ cell ∈ cells, ∀ next, cell.target = some next →
      next.block < store.segments.length) :
    ¬ (enqueueBlock .heap cells buflen bf store).QueuedAsDirect := by
  rintro ⟨view, atOnce, later, direct, -, released, -⟩
  rw [EnqueueCall.direct, Option.bind_eq_some_iff] at direct
  obtain ⟨_, -, clears⟩ := direct
  obtain ⟨after, cleared, same⟩ := Option.map_eq_some_iff.mp clears
  obtain ⟨rfl, rfl⟩ := Prod.mk.inj same
  have unreferenced : Unreferenced (called .heap cells store) store.segments.length := by
    intro segment occurs elements element cell among next target
    apply Nat.ne_of_lt
    rcases List.mem_append.mp occurs with old | new
    · exact owned.closed segment old elements element cell among next target
    · rw [List.mem_singleton.mp new, List.mem_singleton] at element
      rw [element] at among
      exact inside cell among next target
  rcases clearPendingBuffer_keeps unreferenced notString cleared with ⟨segments, kept⟩
  have heap : (after.segments[store.segments.length]?).map Segment.place = some .heap := by
    rw [segments]
    simp [called, Store.push]
  have freed := released store.segments.length heap
  rw [kept, called, Store.state_push, if_pos rfl] at freed
  cases freed

theorem not_queuedAsDirect_dispatchStrings (strs : List (List UInt8)) :
    ¬ (dispatchStrings strs).QueuedAsDirect := by
  rcases putAll_spec (strs.map Field.string) ownedStore_empty with ⟨owned, -⟩
  exact not_queuedAsDirect_of_heap nofun owned
    (putAll_below (strs.map Field.string) ownedStore_empty)

theorem not_queuedAsDirect_dispatchInts (ints : List Int) :
    ¬ (dispatchInts ints).QueuedAsDirect := by
  have notString : BufFormat.ints ≠ .str := by decide
  apply not_queuedAsDirect_of_heap notString ownedStore_empty
  intro cell occurs next target
  obtain ⟨value, -, rfl⟩ := List.mem_map.mp occurs
  cases target

theorem putRecords_spec (records : List (List Field)) {store : Store} (owned : OwnedStore store) :
    OwnedStore (putRecords records store).2 ∧
      store.segments.length ≤ (putRecords records store).2.segments.length ∧
      ∀ cells ∈ (putRecords records store).1, ∀ cell ∈ cells, ∀ next,
        cell.target = some next → next.block < (putRecords records store).2.segments.length := by
  induction records generalizing store with
  | nil => exact ⟨owned, Nat.le_refl _, by simp [putRecords]⟩
  | cons fields rest ih =>
      rcases putAll_spec fields owned with ⟨ownedFirst, longer, -⟩
      rcases ih ownedFirst with ⟨ownedRest, longerRest, inside⟩
      refine ⟨ownedRest, longer.trans longerRest, ?_⟩
      intro cells among cell occurs next target
      rcases List.mem_cons.mp among with rfl | later
      · exact (putAll_below fields owned cell occurs next target).trans_le longerRest
      · exact inside cells later cell occurs next target

theorem not_queuedAsDirect_setDataProfile (profiles : List DataProfileInfo) :
    ¬ (setDataProfile profiles).QueuedAsDirect := by
  rcases putRecords_spec (profiles.map DataProfileInfo.fields) ownedStore_empty with
    ⟨owned, -, inside⟩
  have notString : BufFormat.dataProf ≠ .str := by decide
  apply not_queuedAsDirect_of_heap notString (owned.push inside)
  intro cell occurs next target
  obtain ⟨i, -, rfl⟩ := List.mem_map.mp occurs
  cases target
  simp [Store.push]

/-! ## Pointers into the caller's frame -/

theorem tokens_of_target_none {cell : Cell} (plain : cell.target = none) (store other : Store)
    (depth : Nat) : store.tokens depth cell = other.tokens depth cell := by
  cases cell with
  | pointer target =>
      cases target with
      | none => cases depth <;> rfl
      | some next => cases plain
  | _ => cases depth <;> rfl

/-- The first pointer into the frame is followed at once, and dangles later. -/
theorem not_queuedAsDirect_of_frame {cells taken before beyond : List Cell} {pointer : Pointer}
    {loaded : List Cell} {buflen : Nat} {bf : BufFormat} {store : Store} (notString : bf ≠ .str)
    (notVoid : bf ≠ .void) (size : buflen ≠ 0)
    (took : takeBytes buflen cells = some taken)
    (parts : taken = before ++ .pointer (some pointer) :: beyond)
    (plain : ∀ cell ∈ before, cell.target = none)
    (frame : (store.segments[pointer.block]?).map Segment.place = some .frame)
    (readable : store.load pointer = some loaded) :
    ¬ (enqueueBlock .frame cells buflen bf store).QueuedAsDirect := by
  subst parts
  rintro ⟨view, atOnce, later, direct, queued, -, -⟩
  rw [direct_enqueueBlock notString size, took, Option.bind_some] at direct
  rw [queued_enqueueBlock notString notVoid size, took, Option.bind_some] at queued
  obtain ⟨_, -, sameDirect⟩ := Option.map_eq_some_iff.mp direct
  obtain ⟨_, -, sameQueued⟩ := Option.map_eq_some_iff.mp queued
  have below : pointer.block < store.segments.length := by
    obtain ⟨segment, found, -⟩ := Option.map_eq_some_iff.mp frame
    exact (List.getElem?_eq_some_iff.mp found).1
  have followed : (called .frame cells store).load pointer = some loaded := by
    rw [called, Store.load_push_of_lt _ below]
    exact readable
  have gone : (dequeued .frame cells (before ++ .pointer (some pointer) :: beyond) store).load
      pointer = none := by
    apply Store.load_leaveFrame_of_frame
    simp only [called, Store.push, List.append_assoc]
    rw [List.getElem?_append_left below]
    exact frame
  have views := (congrArg Prod.fst sameDirect).trans (congrArg Prod.fst sameQueued).symm
  simp only [List.flatMap_append, List.flatMap_cons] at views
  have sameBefore : before.flatMap ((called .frame cells store).tokens 3) =
      before.flatMap ((dequeued .frame cells (before ++ .pointer (some pointer) :: beyond)
        store).tokens 3) := by
    apply List.flatMap_congr
    intro cell occurs
    exact tokens_of_target_none (plain cell occurs) _ _ 3
  rw [sameBefore, List.append_cancel_left_eq] at views
  simp only [Store.tokens, followed, gone, List.cons_append, List.cons.injEq] at views
  cases views.1

theorem byteSize_elementPointers (array count : Nat) :
    byteSize (elementPointers array count) = count * 8 := by
  simp [byteSize, elementPointers, Function.comp_def, Cell.size]

theorem not_queuedAsDirect_broadcastConfig (fields : List Field) (rest : List (List Field)) :
    ¬ (broadcastConfig (fields :: rest)).QueuedAsDirect := by
  let filled := putRecords (fields :: rest) .empty
  let array := filled.2.segments.length
  have pointers : elementPointers array (rest.length + 1) =
      .pointer (some ⟨array, 0⟩) :: (List.range rest.length).map fun i =>
        .pointer (some ⟨array, i + 1⟩) := by
    simp [elementPointers, List.range_succ_eq_map, Function.comp_def]
  have took : takeBytes ((rest.length + 1) * 8) (elementPointers array (rest.length + 1)) =
      some (elementPointers array (rest.length + 1)) := by
    have whole := takeBytes_byteSize (elementPointers array (rest.length + 1)) [] (by
      simp [elementPointers, Cell.size])
    rw [List.append_nil, byteSize_elementPointers] at whole
    exact whole
  have loaded : (filled.2.push ⟨.frame, filled.1⟩).load ⟨array, 0⟩ =
      some (putAll fields .empty).1 := by
    rw [Store.load, Store.state_push, if_pos rfl, if_pos rfl]
    simp [Store.push, array, filled, putRecords]
  have parts : elementPointers array (rest.length + 1) =
      [] ++ .pointer (some ⟨array, 0⟩) :: (List.range rest.length).map fun i =>
        .pointer (some ⟨array, i + 1⟩) := pointers
  have notString : BufFormat.raw ≠ .str := by decide
  show ¬ (enqueueBlock .frame (elementPointers array (rest.length + 1)) ((rest.length + 1) * 8)
    .raw (filled.2.push ⟨.frame, filled.1⟩)).QueuedAsDirect
  apply not_queuedAsDirect_of_frame notString (by decide) (Nat.succ_ne_zero _) took parts
    (List.forall_mem_nil _) _ loaded
  simp [Store.push, array]

/-- The length of a CDMA message reaches behind the structure, and past the pointer in it. -/
theorem not_queuedAsDirect_dispatchImsCdmaSms (retry : UInt8) (messageRef : Int)
    (rcsm beyond : List UInt8) :
    ¬ (dispatchImsCdmaSms retry messageRef rcsm beyond).QueuedAsDirect := by
  let store := Store.empty.push ⟨.frame, [rcsm.map Cell.byte]⟩
  let message : List Cell := [.int 2, .byte retry, .pad 3, .int messageRef, .pad 4,
    .pointer (some Store.empty.top)]
  have notString : BufFormat.raw ≠ .str := by decide
  have size : 4 + 1 + 4 + sizeOfCdmaSmsMessage ≠ 0 := by decide
  have took : takeBytes (4 + 1 + 4 + sizeOfCdmaSmsMessage) (message ++ beyond.map Cell.byte) =
      (takeBytes 357 (beyond.map Cell.byte)).map fun taken => message ++ taken :=
    takeBytes_append 357 message (beyond.map Cell.byte) (by simp [message, Cell.size])
  show ¬ (enqueueBlock .frame (message ++ beyond.map Cell.byte)
    (4 + 1 + 4 + sizeOfCdmaSmsMessage) .raw store).QueuedAsDirect
  cases behind : takeBytes 357 (beyond.map Cell.byte) with
  | none =>
      rintro ⟨view, atOnce, later, direct, -⟩
      rw [direct_enqueueBlock notString size, took, behind] at direct
      cases direct
  | some taken =>
      rw [behind, Option.map_some] at took
      have parts : message ++ taken = [.int 2, .byte retry, .pad 3, .int messageRef, .pad 4] ++
          .pointer (some Store.empty.top) :: taken := rfl
      have loaded : store.load Store.empty.top = some (rcsm.map Cell.byte) :=
        Store.load_push_top ..
      apply not_queuedAsDirect_of_frame notString (by decide) size took parts _ rfl loaded
      simp [Cell.target]

/-! ## All requests -/

/-- A request with its contents. -/
inductive QueuedRequest
  | void
  | string (str : List UInt8)
  | strings (strs : List (List UInt8))
  | ints (values : List Int)
  | callForwardStatus (status reason serviceClass toa : Int) (number : List UInt8)
      (timeSeconds : Int)
  | iccApdu (sessionid cla instruction p1 p2 p3 : Int) (data : List UInt8)
  | iccIO (command fileid : Int) (path : List UInt8) (p1 p2 p3 : Int) (data pin2 aid : List UInt8)
  | writeSms (status : Int) (pdu smsc : List UInt8)
  | initialAttachApn (apn protocol : List UInt8) (authtype : Int)
      (username password operatorNumeric : List UInt8)
  | imsGsmSms (retry : UInt8) (messageRef : Int) (smscPdu pdu : List UInt8) (beyond : UInt8)
  | imsCdmaSms (retry : UInt8) (messageRef : Int) (rcsm beyond : List UInt8)
  | iccSimAuthentication (authContext : Int) (authData aid : List UInt8)
  | dataProfile (profiles : List DataProfileInfo)
  | gsmBroadcastConfig (configInfo : List GsmBroadcastSmsConfigInfo)
  | cdmaBroadcastConfig (configInfo : List CdmaBroadcastSmsConfigInfo)
  | raw (bytes : List UInt8)

namespace QueuedRequest

def call : QueuedRequest → EnqueueCall
  | void => dispatchVoid
  | string str => dispatchString str
  | strings strs => dispatchStrings strs
  | ints values => dispatchInts values
  | callForwardStatus status reason serviceClass toa number timeSeconds =>
      dispatchCallForwardStatus status reason serviceClass toa number timeSeconds
  | iccApdu sessionid cla instruction p1 p2 p3 data =>
      dispatchIccApdu sessionid cla instruction p1 p2 p3 data
  | iccIO command fileid path p1 p2 p3 data pin2 aid =>
      iccIOForApp command fileid path p1 p2 p3 data pin2 aid
  | writeSms status pdu smsc => writeSmsToSim status pdu smsc
  | initialAttachApn apn protocol authtype username password operatorNumeric =>
      setInitialAttachApn apn protocol authtype username password operatorNumeric
  | imsGsmSms retry messageRef smscPdu pdu beyond =>
      dispatchImsGsmSms retry messageRef smscPdu pdu beyond
  | imsCdmaSms retry messageRef rcsm beyond => dispatchImsCdmaSms retry messageRef rcsm beyond
  | iccSimAuthentication authContext authData aid =>
      requestIccSimAuthentication authContext authData aid
  | dataProfile profiles => setDataProfile profiles
  | gsmBroadcastConfig configInfo => setGsmBroadcastConfig configInfo
  | cdmaBroadcastConfig configInfo => setCdmaBroadcastConfig configInfo
  | raw bytes => enqueueRaw bytes

/-- Nothing of the request is a string or an array of its own, and nothing behind its pointers
is in the caller's frame. -/
def Transferable : QueuedRequest → Prop
  | string _ | strings _ | ints _ | dataProfile _ | imsCdmaSms .. => False
  | gsmBroadcastConfig configInfo => configInfo = []
  | cdmaBroadcastConfig configInfo => configInfo = []
  | _ => True

end QueuedRequest

/-- Exactly the transferable requests are the same to the vendor and to the heap on both
paths. -/
theorem queuedAsDirect_iff (request : QueuedRequest) :
    request.call.QueuedAsDirect ↔ request.Transferable := by
  cases request with
  | void => exact iff_of_true queuedAsDirect_dispatchVoid trivial
  | string str => exact iff_of_false (not_queuedAsDirect_dispatchString str) id
  | strings strs => exact iff_of_false (not_queuedAsDirect_dispatchStrings strs) id
  | ints values => exact iff_of_false (not_queuedAsDirect_dispatchInts values) id
  | callForwardStatus =>
      exact iff_of_true (queuedAsDirect_dispatchCallForwardStatus ..) trivial
  | iccApdu => exact iff_of_true (queuedAsDirect_dispatchIccApdu ..) trivial
  | iccIO => exact iff_of_true (queuedAsDirect_iccIOForApp ..) trivial
  | writeSms => exact iff_of_true (queuedAsDirect_writeSmsToSim ..) trivial
  | initialAttachApn => exact iff_of_true (queuedAsDirect_setInitialAttachApn ..) trivial
  | imsGsmSms => exact iff_of_true (queuedAsDirect_dispatchImsGsmSms ..) trivial
  | imsCdmaSms => exact iff_of_false (not_queuedAsDirect_dispatchImsCdmaSms _ _ _ _) id
  | iccSimAuthentication =>
      exact iff_of_true (queuedAsDirect_requestIccSimAuthentication ..) trivial
  | dataProfile profiles => exact iff_of_false (not_queuedAsDirect_setDataProfile profiles) id
  | gsmBroadcastConfig configInfo =>
      cases configInfo with
      | nil => exact iff_of_true queuedAsDirect_broadcastConfig_nil rfl
      | cons first rest => exact iff_of_false (not_queuedAsDirect_broadcastConfig _ _) nofun
  | cdmaBroadcastConfig configInfo =>
      cases configInfo with
      | nil => exact iff_of_true queuedAsDirect_broadcastConfig_nil rfl
      | cons first rest => exact iff_of_false (not_queuedAsDirect_broadcastConfig _ _) nofun
  | raw bytes => exact iff_of_true (queuedAsDirect_enqueueRaw bytes) trivial

/-- Three requests that are not: a string, two strings, and a broadcast range. -/
theorem not_queuedAsDirect :
    ¬ (QueuedRequest.string [65, 66]).call.QueuedAsDirect ∧
      ¬ (QueuedRequest.strings [[65], [66]]).call.QueuedAsDirect ∧
      ¬ (QueuedRequest.gsmBroadcastConfig [⟨0, 9, 0, 255, 1⟩]).call.QueuedAsDirect :=
  ⟨not_queuedAsDirect_dispatchString _, not_queuedAsDirect_dispatchStrings _,
    not_queuedAsDirect_broadcastConfig _ _⟩

end X3Hal.Ril
