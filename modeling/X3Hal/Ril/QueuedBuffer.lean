import X3Hal.Memory.Cells
import X3Hal.Memory.Strings
import X3Hal.Ril.Service
import Mathlib.Data.List.Perm.Basic

/-!
# The buffers of queued requests

`my_enqueue` dispatches a request at once, or copies the first bytes of its buffer for
`my_dequeue`, which runs after the caller has returned.  The copy is flat, and both paths
release what a format points to by one switch, `clearPendingBuffer`.

The structures are laid out with pointers of eight bytes.
-/

namespace X3Hal.Ril

open X3Hal.Memory

/-! ## What the requests are made of -/

/-- The cells of a block of `size` bytes after `strncpy`. -/
def stringCells (size : Nat) (src : List UInt8) : List Cell :=
  (strncpy size src).map Cell.byte

/-- A field as a method fills it in. -/
inductive Field
  | int (value : Int)
  | byte (value : UInt8)
  | pad (size : Nat)
  | null
  /-- `copyHidlStringToRil` -/
  | string (src : List UInt8)
  /-- `copyHidlStringToRil`, and one zero byte in place of NULL -/
  | text (src : List UInt8)
  /-- `strncpy` into a block of a fixed size -/
  | fixed (size : Nat) (src : List UInt8)

/-- The cell of a field, with the block it allocates. -/
def Field.put : Field → Store → Cell × Store
  | .int value, store => (.int value, store)
  | .byte value, store => (.byte value, store)
  | .pad size, store => (.pad size, store)
  | .null, store => (.pointer none, store)
  | .string src, store =>
      (.pointer (if src = [] then none else some store.top),
        if src = [] then store else store.push ⟨.heap, [stringCells (src.length + 1) src]⟩)
  | .text src, store =>
      (.pointer (some store.top), store.push ⟨.heap, [stringCells (src.length + 1) src]⟩)
  | .fixed size src, store =>
      (.pointer (some store.top), store.push ⟨.heap, [stringCells size src]⟩)

/-- Fill in a structure, field by field. -/
def putAll : List Field → Store → List Cell × Store
  | [], store => ([], store)
  | field :: rest, store =>
      let first := field.put store
      let later := putAll rest first.2
      (first.1 :: later.1, later.2)

/-- Fill in an array of structures. -/
def putRecords : List (List Field) → Store → List (List Cell) × Store
  | [], store => ([], store)
  | fields :: rest, store =>
      let first := putAll fields store
      let later := putRecords rest first.2
      (first.1 :: later.1, later.2)

/-- The pointers to the elements of an array. -/
def elementPointers (array : Nat) (count : Nat) : List Cell :=
  (List.range count).map fun i => .pointer (some ⟨array, i⟩)

/-- The arguments of `my_enqueue`, and the memory they are in. -/
structure EnqueueCall where
  store : Store
  buf : Option Pointer
  buflen : Nat
  format : BufFormat

/-- A call with a buffer that is pushed last. -/
def enqueueBlock (place : Place) (cells : List Cell) (buflen : Nat) (format : BufFormat)
    (store : Store) : EnqueueCall :=
  ⟨store.push ⟨place, [cells]⟩, some store.top, buflen, format⟩

/-- A call with a structure of the caller's frame, without its last `left` bytes. -/
def enqueueStruct (fields : List Field) (left : Nat) (format : BufFormat) : EnqueueCall :=
  let filled := putAll fields .empty
  enqueueBlock .frame filled.1 (byteSize filled.1 - left) format filled.2

/-! ## The callers of `my_enqueue` -/

def dispatchVoid : EnqueueCall :=
  ⟨.empty, none, 0, .void⟩

def dispatchString (str : List UInt8) : EnqueueCall :=
  let filled := (Field.string str).put .empty
  ⟨filled.2, filled.1.target, 8, .str⟩

def dispatchStrings (strs : List (List UInt8)) : EnqueueCall :=
  let filled := putAll (strs.map Field.string) .empty
  enqueueBlock .heap filled.1 (strs.length * 8) .strs filled.2

def dispatchInts (ints : List Int) : EnqueueCall :=
  enqueueBlock .heap (ints.map Cell.int) (ints.length * 4) .ints .empty

def dispatchCallForwardStatus (status reason serviceClass toa : Int) (number : List UInt8)
    (timeSeconds : Int) : EnqueueCall :=
  enqueueStruct [.int status, .int reason, .int serviceClass, .int toa, .string number,
    .int timeSeconds, .pad 4] 0 .callFwSt

def dispatchIccApdu (sessionid cla instruction p1 p2 p3 : Int) (data : List UInt8) :
    EnqueueCall :=
  enqueueStruct [.int sessionid, .int cla, .int instruction, .int p1, .int p2, .int p3,
    .string data] 0 .iccApdu

def iccIOForApp (command fileid : Int) (path : List UInt8) (p1 p2 p3 : Int)
    (data pin2 aid : List UInt8) : EnqueueCall :=
  enqueueStruct [.int command, .int fileid, .string path, .int p1, .int p2,
    .int (if command = 0xc0 ∧ p3 = 0 then 15 else p3), .pad 4, .string data, .string pin2,
    .string aid] 0 .simIo

def writeSmsToSim (status : Int) (pdu smsc : List UInt8) : EnqueueCall :=
  enqueueStruct [.int status, .pad 4, .string pdu, .string smsc] 0 .wrSmsSim

/-- `setInitialAttachApn` for a vendor library up to version 14 -/
def setInitialAttachApn (apn protocol : List UInt8) (authtype : Int)
    (username password operatorNumeric : List UInt8) : EnqueueCall :=
  enqueueStruct [.text apn, .text protocol, .int authtype, .pad 4, .text username,
    .text password, .fixed 8 operatorNumeric, .int 0, .pad 4, .null] 8 .attchApn

/-- `dispatchImsGsmSms`; its length ends one byte behind the structure. -/
def dispatchImsGsmSms (retry : UInt8) (messageRef : Int) (smscPdu pdu : List UInt8)
    (beyond : UInt8) : EnqueueCall :=
  let filled := putAll [.string smscPdu, .string pdu] .empty
  let store := filled.2.push ⟨.heap, [filled.1]⟩
  enqueueBlock .frame [.int 1, .byte retry, .pad 3, .int messageRef, .pad 4,
    .pointer (some filled.2.top), .byte beyond] (4 + 1 + 4 + 2 * 8) .imsSms store

/-- `sizeof(RIL_CDMA_SMS_Message)` -/
def sizeOfCdmaSmsMessage : Nat := 372

/-- `dispatchImsCdmaSms`; its length ends far behind the structure. -/
def dispatchImsCdmaSms (retry : UInt8) (messageRef : Int) (rcsm beyond : List UInt8) :
    EnqueueCall :=
  let store := Store.empty.push ⟨.frame, [rcsm.map Cell.byte]⟩
  enqueueBlock .frame ([.int 2, .byte retry, .pad 3, .int messageRef, .pad 4,
    .pointer (some Store.empty.top)] ++ beyond.map Cell.byte)
    (4 + 1 + 4 + sizeOfCdmaSmsMessage) .raw store

def requestIccSimAuthentication (authContext : Int) (authData aid : List UInt8) : EnqueueCall :=
  enqueueStruct [.int authContext, .pad 4, .string authData, .string aid] 0 .simAuth

/-- A data profile as `setDataProfile` takes it up to version 14. -/
structure DataProfileInfo where
  profileId : Int
  apn : List UInt8
  protocol : List UInt8
  authType : Int
  user : List UInt8
  password : List UInt8
  type : Int
  maxConnsTime : Int
  maxConns : Int
  waitTime : Int
  enabled : Int

def DataProfileInfo.fields (profile : DataProfileInfo) : List Field :=
  [.int profile.profileId, .pad 4, .string profile.apn, .string profile.protocol,
    .int profile.authType, .pad 4, .string profile.user, .string profile.password,
    .int profile.type, .int profile.maxConnsTime, .int profile.maxConns, .int profile.waitTime,
    .int profile.enabled, .pad 4]

def setDataProfile (profiles : List DataProfileInfo) : EnqueueCall :=
  let filled := putRecords (profiles.map DataProfileInfo.fields) .empty
  enqueueBlock .heap (elementPointers filled.2.segments.length profiles.length)
    (profiles.length * 8) .dataProf (filled.2.push ⟨.heap, filled.1⟩)

/-- `setGsmBroadcastConfig` and `setCdmaBroadcastConfig`: pointers to an array in the same
frame. -/
def broadcastConfig (records : List (List Field)) : EnqueueCall :=
  let filled := putRecords records .empty
  enqueueBlock .frame (elementPointers filled.2.segments.length records.length)
    (records.length * 8) .raw (filled.2.push ⟨.frame, filled.1⟩)

structure GsmBroadcastSmsConfigInfo where
  fromServiceId : Int
  toServiceId : Int
  fromCodeScheme : Int
  toCodeScheme : Int
  selected : UInt8

def setGsmBroadcastConfig (configInfo : List GsmBroadcastSmsConfigInfo) : EnqueueCall :=
  broadcastConfig (configInfo.map fun info =>
    [.int info.fromServiceId, .int info.toServiceId, .int info.fromCodeScheme,
      .int info.toCodeScheme, .byte info.selected, .pad 3])

structure CdmaBroadcastSmsConfigInfo where
  serviceCategory : Int
  language : Int
  selected : UInt8

def setCdmaBroadcastConfig (configInfo : List CdmaBroadcastSmsConfigInfo) : EnqueueCall :=
  broadcastConfig (configInfo.map fun info =>
    [.int info.serviceCategory, .int info.language, .byte info.selected, .pad 3])

/-- The methods that pass a structure without pointers: `sendCdmaSms`,
`acknowledgeLastIncomingCdmaSms`, `writeSmsToRuim`, `setUiccSubscription` and
`setRadioCapability`. -/
def enqueueRaw (bytes : List UInt8) : EnqueueCall :=
  enqueueBlock .frame (bytes.map Cell.byte) bytes.length .raw .empty

/-! ## The functions of `ril.cpp` -/

/-- The pointer in a field of a structure. -/
def fieldPointer (cells : List Cell) (i : Nat) : Option (Option Pointer) :=
  match cells[i]? with
  | some (.pointer target) => some target
  | _ => none

/-- `memsetAndFreeStrings` of some fields of a structure. -/
def freeFields (store : Store) (struct : Option Pointer) (fields : List Nat) : Option Store :=
  (struct.bind store.load).bind fun cells =>
    (fields.mapM (fieldPointer cells)).bind store.freeAll

/-- One round of the loop for `FMT_DATAPROF`. -/
def freeProfile (buf : Option Pointer) (store : Store) (i : Nat) : Option Store :=
  (buf.bind store.load).bind fun cells =>
    (fieldPointer cells i).bind fun profile =>
      (freeFields store profile [2, 3, 6, 7]).bind fun after => after.free profile

def clearPendingBuffer (bf : BufFormat) (buf : Option Pointer) (buflen : Nat) (store : Store) :
    Option Store :=
  match bf with
  | .str => store.free buf
  | .strs => freeFields store buf (List.range (buflen / 8))
  | .callFwSt => freeFields store buf [4]
  | .iccApdu => freeFields store buf [6]
  | .simIo => freeFields store buf [2, 7, 8, 9]
  | .wrSmsSim => freeFields store buf [3, 2]
  | .attchApn => freeFields store buf [0, 1, 4, 5, 6]
  | .imsSms =>
      (buf.bind store.load).bind fun cells =>
        (fieldPointer cells 5).bind fun pStrings =>
          (freeFields store pStrings [0, 1]).bind fun after => after.free pStrings
  | .simAuth => freeFields store buf [2, 3]
  | .dataProf => (List.range (buflen / 8)).foldlM (freeProfile buf) store
  | .ints | .ignore | .void | .raw => some store

/-- The bytes of a string up to its end. -/
def readString : List Cell → Option (List Token)
  | .byte value :: rest =>
      if value = 0 then some [.byte 0] else (readString rest).map fun later => .byte value :: later
  | _ => none

/-- What `onRequest` can read through its data pointer. -/
def vendorView (bf : BufFormat) (buf : Option Pointer) (buflen : Nat) (store : Store) :
    Option (List Token) :=
  match bf with
  | .str =>
      match buf with
      | none => some [.null]
      | some _ => (buf.bind store.load).bind readString
  | _ =>
      if buflen = 0 then some []
      else ((buf.bind store.load).bind (takeBytes buflen)).map fun cells =>
        cells.flatMap (store.tokens 3)

namespace EnqueueCall

/-- `my_enqueue` when the channel is free, with what the vendor reads. -/
def direct (call : EnqueueCall) : Option (List Token × Store) :=
  (vendorView call.format call.buf call.buflen call.store).bind fun view =>
    (clearPendingBuffer call.format call.buf call.buflen call.store).map fun after =>
      (view, after)

/-- The entry that `my_enqueue` allocates when the channel is busy, and its copy of the
buffer. -/
def queue (call : EnqueueCall) : Option (Option Pointer × Store) :=
  let entered := call.store.push ⟨.heap, []⟩
  if call.format ≠ .void ∧ call.buflen ≠ 0 then
    ((call.buf.bind call.store.load).bind (takeBytes call.buflen)).map fun copy =>
      (some entered.top, entered.push ⟨.heap, [copy]⟩)
  else some (none, entered)

/-- `my_enqueue` when the channel is busy, the return of the caller, and `my_dequeue`. -/
def queued (call : EnqueueCall) : Option (List Token × Store) :=
  call.queue.bind fun (buf, waiting) =>
    let left := waiting.leaveFrame
    (vendorView call.format buf call.buflen left).bind fun view =>
      let cleared :=
        if call.format ≠ .void ∧ call.buflen ≠ 0 then
          (clearPendingBuffer call.format buf call.buflen left).bind fun after => after.free buf
        else some left
      (cleared.bind fun after => after.free (some call.store.top)).map fun after => (view, after)

/-- Both paths let the vendor read the same, and release after it what was allocated. -/
def QueuedAsDirect (call : EnqueueCall) : Prop :=
  ∃ view atOnce later, call.direct = some (view, atOnce) ∧ call.queued = some (view, later) ∧
    atOnce.Released ∧ later.Released

end EnqueueCall

/-! ## What the fields allocate -/

/-- The addresses in the pointer cells. -/
def cellTargets (cells : List Cell) : List (Option Pointer) :=
  cells.map Cell.target

/-- Live blocks of the heap, which point to one another only. -/
structure OwnedStore (store : Store) : Prop where
  heap : ∀ segment ∈ store.segments, segment.place = .heap
  live : ∀ block < store.segments.length, store.state block = .live
  closed : ∀ segment ∈ store.segments, ∀ cells ∈ segment.elements, ∀ cell ∈ cells, ∀ next,
    cell.target = some next → next.block < store.segments.length

theorem ownedStore_empty : OwnedStore .empty := by
  constructor <;> simp [Store.empty]

theorem OwnedStore.push {store : Store} (owned : OwnedStore store) {elements : List (List Cell)}
    (inside : ∀ cells ∈ elements, ∀ cell ∈ cells, ∀ next, cell.target = some next →
      next.block < store.segments.length) :
    OwnedStore (store.push ⟨.heap, elements⟩) := by
  have length : (store.push ⟨.heap, elements⟩).segments.length = store.segments.length + 1 := by
    simp [Store.push]
  constructor
  · intro segment occurs
    rcases List.mem_append.mp occurs with old | new
    · exact owned.heap segment old
    · rw [List.mem_singleton.mp new]
  · intro block below
    rw [length] at below
    by_cases last : block = store.segments.length
    · subst last
      exact Heap.alloc_self ..
    · show store.state.alloc _ block = .live
      rw [Heap.alloc_of_ne last]
      exact owned.live block (by omega)
  · intro segment occurs cells element cell among next target
    rw [length]
    rcases List.mem_append.mp occurs with old | new
    · have := owned.closed segment old cells element cell among next target
      omega
    · rw [List.mem_singleton.mp new] at element
      have := inside cells element cell among next target
      omega

theorem target_of_stringCells {size : Nat} {src : List UInt8} {cell : Cell}
    (occurs : cell ∈ stringCells size src) : cell.target = none := by
  obtain ⟨byte, _, rfl⟩ := List.mem_map.mp occurs
  rfl

/-- A string's block holds no pointers. -/
theorem OwnedStore.pushString {store : Store} (owned : OwnedStore store) (size : Nat)
    (src : List UInt8) : OwnedStore (store.push ⟨.heap, [stringCells size src]⟩) := by
  apply owned.push
  intro cells element cell among next target
  rw [List.mem_singleton.mp element] at among
  rw [target_of_stringCells among] at target
  cases target

/-- A field allocates at most one block, to which its cell points. -/
theorem Field.put_spec (field : Field) {store : Store} (owned : OwnedStore store) :
    OwnedStore (field.put store).2 ∧
      ((field.put store).1.target = none ∧ (field.put store).2 = store ∨
        (field.put store).1.target = some store.top ∧
          (field.put store).2.segments.length = store.segments.length + 1) := by
  cases field with
  | int value => exact ⟨owned, .inl ⟨rfl, rfl⟩⟩
  | byte value => exact ⟨owned, .inl ⟨rfl, rfl⟩⟩
  | pad size => exact ⟨owned, .inl ⟨rfl, rfl⟩⟩
  | null => exact ⟨owned, .inl ⟨rfl, rfl⟩⟩
  | string src =>
      by_cases empty : src = []
      · simp only [put, empty, if_true]
        exact ⟨owned, .inl ⟨rfl, trivial⟩⟩
      · simp only [put, empty, if_false]
        exact ⟨owned.pushString _ _, .inr ⟨rfl, by simp [Store.push]⟩⟩
  | text src => exact ⟨owned.pushString _ _, .inr ⟨rfl, by simp [put, Store.push]⟩⟩
  | fixed size src => exact ⟨owned.pushString _ _, .inr ⟨rfl, by simp [put, Store.push]⟩⟩

/-- What a structure's fields allocate are the blocks that its cells point to, in order. -/
theorem putAll_spec (fields : List Field) {store : Store} (owned : OwnedStore store) :
    OwnedStore (putAll fields store).2 ∧
      store.segments.length ≤ (putAll fields store).2.segments.length ∧
      Store.freed (cellTargets (putAll fields store).1) =
        List.range' store.segments.length
          ((putAll fields store).2.segments.length - store.segments.length) ∧
      ∀ pointer, some pointer ∈ cellTargets (putAll fields store).1 → pointer.element = 0 := by
  induction fields generalizing store with
  | nil =>
      exact ⟨owned, Nat.le_refl _, by simp [putAll, cellTargets], by simp [putAll, cellTargets]⟩
  | cons field rest ih =>
      rcases field.put_spec owned with ⟨ownedFirst, cases⟩
      rcases ih ownedFirst with ⟨ownedRest, longer, blocks, starts⟩
      refine ⟨ownedRest, ?_⟩
      simp only [putAll, cellTargets, List.map_cons] at blocks starts ⊢
      rcases cases with ⟨noTarget, same⟩ | ⟨target, length⟩
      · rw [same] at longer blocks starts ⊢
        rw [noTarget]
        exact ⟨longer, blocks, by simpa using starts⟩
      · rw [target, Store.freed_some, blocks, length]
        rw [length] at longer
        refine ⟨by omega, ?_, ?_⟩
        · have split : (putAll rest (field.put store).2).2.segments.length -
              store.segments.length =
              (putAll rest (field.put store).2).2.segments.length -
                (store.segments.length + 1) + 1 := by omega
          rw [split, List.range'_succ]
          rfl
        · intro pointer occurs
          rcases List.mem_cons.mp occurs with first | later
          · cases first
            rfl
          · exact starts pointer later

end X3Hal.Ril
