import X3Hal.Transition.Justified
import Mathlib.Algebra.Order.Ring.Int
import Mathlib.Tactic.Common

/-!
# The buffers of firmware dumps

`SetAlertHandler` and `MemoryDumpCommand` allocate a buffer for a dump, ask the driver to fill it,
hand it to the user's handler when the driver answers, and free it.  A request that cannot be
created leaves `mBuff` at a block that is already freed.

`none` is undefined behaviour: a second free, a use of a freed block, a copy over the end of a
block or an overflow of an `int`.
-/

namespace X3Hal.Wifi

open X3Hal.Transition

/-! ## A buffer -/

/-- A block of memory, by the number of its allocation, with what is copied to its front -/
structure DumpBlock where
  number : Nat
  size : Nat
  front : List UInt8
  deriving DecidableEq

/-- `mBuff` -/
inductive DumpPointer
  | null
  | live (block : DumpBlock)
  /-- the block is freed -/
  | dangling (block : DumpBlock)
  deriving DecidableEq

inductive DumpOutput
  | allocated (block : DumpBlock)
  | freed (block : DumpBlock)
  /-- `WifiRequest::create` fails, and the buffer is freed -/
  | creationFailed
  /-- the user's handler is called with `mBuff` and `mBuffSize` -/
  | delivered (block : Option DumpBlock) (size : Int)
  deriving DecidableEq

/-- A command with its buffer: `mBuffSize`, `mBuff`, the number of blocks it has allocated, and
what it has done -/
structure DumpCommand where
  buffSize : Int
  buff : DumpPointer
  blocks : Nat
  outputs : List DumpOutput
  deriving DecidableEq

/-- A command when it is constructed -/
def DumpCommand.new : DumpCommand := ⟨0, .null, 0, []⟩

namespace DumpCommand

/-- `if (mBuff) free(mBuff)`, before `mBuff` is assigned -/
def release (command : DumpCommand) : Option DumpCommand :=
  match command.buff with
  | .null => some command
  | .live block =>
      some { command with buff := .null, outputs := command.outputs ++ [.freed block] }
  | .dangling _ => none

/-- `mBuff = malloc(bytes)`, and the copy of `front` into it unless it is `NULL` -/
def allocate (bytes : Int) (front : List UInt8) (allocates : Bool) (command : DumpCommand) :
    Option DumpCommand :=
  -- a negative `int` is far too many bytes for `malloc`
  if allocates = true ∧ 0 ≤ bytes then
    if (front.length : Int) ≤ bytes then
      let block : DumpBlock := ⟨command.blocks, bytes.toNat, front⟩
      some { command with
        buff := .live block
        blocks := command.blocks + 1
        outputs := command.outputs ++ [.allocated block] }
    else none
  else some { command with buff := .null }

/-- `free(mBuff)` after `WifiRequest::create` has failed; `mBuff` keeps its value. -/
def abandon (command : DumpCommand) : Option DumpCommand :=
  match command.buff with
  | .live block =>
      some { command with
        buff := .dangling block
        outputs := command.outputs ++ [.creationFailed, .freed block] }
  | .null => some { command with outputs := command.outputs ++ [.creationFailed] }
  | .dangling _ => none

/-- The handler is called, and the buffer freed. -/
def deliver (hasHandler : Bool) (command : DumpCommand) : Option DumpCommand :=
  let call (block : Option DumpBlock) : List DumpOutput :=
    if hasHandler then [.delivered block command.buffSize] else []
  match command.buff with
  | .null => some { command with outputs := command.outputs ++ call none }
  | .live block =>
      some { command with
        buff := .null
        outputs := command.outputs ++ call (some block) ++ [.freed block] }
  | .dangling _ => none

end DumpCommand

/-- How the request for a dump goes: whether `malloc`, `WifiRequest::create` and both `put` calls
succeed -/
structure DumpRequest where
  allocates : Bool
  creates : Bool
  puts : Bool
  deriving DecidableEq

/-! ## `SetAlertHandler` -/

/-- An attribute of an event -/
inductive AlertAttribute
  /-- `LOGGER_ATTRIBUTE_FW_DUMP_LEN` -/
  | dumpLen (len : UInt32)
  /-- `LOGGER_ATTRIBUTE_RING_DATA` -/
  | ringData (bytes : List UInt8)
  | other
  deriving DecidableEq

/-- A dump event with its vendor data, if it has any, how its request goes, and the replies to
it: for each attribute whether it is `LOGGER_ATTRIBUTE_FW_DUMP_DATA`, `none` for a reply that is
ignored -/
structure AlertEvent where
  attributes : Option (List AlertAttribute)
  request : DumpRequest
  replies : List (Option (List Bool))
  deriving DecidableEq

/-- A `u32` in an `int` -/
def toInt32 (value : UInt32) : Int :=
  if value.toNat < 2 ^ 31 then value.toNat else value.toNat - 2 ^ 32

/-- `mBuffSize`, and the bytes at `buffer`, after the attributes of an event -/
def readAlert (buffSize : Int) (attributes : List AlertAttribute) : Int × List UInt8 :=
  attributes.foldl (fun read nla =>
    match nla with
    | .dumpLen len => (toInt32 len, read.2)
    | .ringData bytes => (read.1, bytes)
    | .other => read) (buffSize, [])

/-- `SetAlertHandler::handleResponse` -/
def handleAlertResponse (hasHandler : Bool) (reply : Option (List Bool))
    (command : DumpCommand) : Option DumpCommand :=
  (reply.getD []).foldlM (fun command isDumpData =>
    if isDumpData then command.deliver hasHandler else some command) command

/-- `SetAlertHandler::handleEvent` after `malloc` -/
def sendAlertRequest (hasHandler : Bool) (event : AlertEvent) (bytes : Int)
    (command : DumpCommand) : Option DumpCommand :=
  if command.buff = .null then some command
  else if event.request.creates = false then command.abandon
  else if event.request.puts = false then some command
  else event.replies.foldlM (fun command reply => handleAlertResponse hasHandler reply command)
    { command with buffSize := bytes }

/-- `SetAlertHandler::handleEvent` for a dump of some size -/
def requestAlertDump (hasHandler : Bool) (event : AlertEvent) (front : List UInt8)
    (command : DumpCommand) : Option DumpCommand :=
  let bytes := command.buffSize + front.length
  if 2 ^ 31 ≤ bytes then none
  else do
    let command ← command.release
    let command ← command.allocate bytes front event.request.allocates
    sendAlertRequest hasHandler event bytes command

/-- `SetAlertHandler::handleEvent` for a `GOOGLE_DEBUG_MEM_DUMP_EVENT` -/
def handleAlertEvent (hasHandler : Bool) (command : DumpCommand) (event : AlertEvent) :
    Option DumpCommand :=
  match event.attributes with
  | none | some [] => some command
  | some attributes =>
      let read := readAlert command.buffSize attributes
      let command := { command with buffSize := read.1 }
      if read.1 = 0 then some command else requestAlertDump hasHandler event read.2 command

/-! ## `MemoryDumpCommand` -/

mutual

/-- The attributes of a reply; the request that an attribute makes is answered before the next
attribute. -/
inductive DumpReply
  | nil
  /-- `LOGGER_ATTRIBUTE_FW_DUMP_LEN` -/
  | dumpLen (len : UInt32) (request : DumpRequest) (answers : DumpReplies) (rest : DumpReply)
  /-- `LOGGER_ATTRIBUTE_FW_DUMP_DATA` -/
  | dumpData (rest : DumpReply)
  | other (rest : DumpReply)

/-- The replies to a request; those without vendor data have no attributes. -/
inductive DumpReplies
  | nil
  | cons (reply : DumpReply) (rest : DumpReplies)

end

mutual

/-- `MemoryDumpCommand::handleResponse` -/
def handleDumpResponse (hasHandler : Bool) : DumpReply → DumpCommand → Option DumpCommand
  | .nil, command => some command
  | .dumpLen len request answers rest, command => do
      let command ← { command with buffSize := toInt32 len }.release
      let command ← command.allocate (toInt32 len) [] request.allocates
      if command.buff = .null then some command
      else if request.creates = false then command.abandon
      else if request.puts = false then some command
      else do
        let command ← handleDumpResponses hasHandler answers command
        handleDumpResponse hasHandler rest command
  | .dumpData rest, command => do
      let command ← command.deliver hasHandler
      handleDumpResponse hasHandler rest command
  | .other rest, command => handleDumpResponse hasHandler rest command

/-- `requestResponse` with all its replies -/
def handleDumpResponses (hasHandler : Bool) : DumpReplies → DumpCommand → Option DumpCommand
  | .nil, command => some command
  | .cons reply rest, command => do
      let command ← handleDumpResponse hasHandler reply command
      handleDumpResponses hasHandler rest command

end

/-! ## What happens to the blocks -/

/-- When an output may come: a block is allocated when all others are freed, freed once, and
delivered while it is live and with its whole size. -/
def DumpDue (before : List DumpOutput) : DumpOutput → Prop
  | .allocated block =>
      block.front.length ≤ block.size ∧ .allocated block ∉ before ∧
      ∀ other, .allocated other ∈ before → .freed other ∈ before
  | .freed block => .allocated block ∈ before ∧ .freed block ∉ before
  | .creationFailed => True
  | .delivered (some block) size =>
      .allocated block ∈ before ∧ .freed block ∉ before ∧ size = block.size
  | .delivered none _ => ∀ block, .allocated block ∈ before → .freed block ∈ before

/-- What `mBuff` points to. -/
def PointerSound (outputs : List DumpOutput) : DumpPointer → Prop
  | .null => True
  | .live block => .allocated block ∈ outputs ∧ .freed block ∉ outputs
  | .dangling _ => .creationFailed ∈ outputs

structure DumpSound (command : DumpCommand) : Prop where
  justified : Justified DumpDue command.outputs
  pointer : PointerSound command.outputs command.buff
  /-- every block but that of `mBuff` is freed -/
  others : ∀ block, .allocated block ∈ command.outputs → command.buff ≠ .live block →
    .freed block ∈ command.outputs
  numbers : ∀ block, .allocated block ∈ command.outputs → block.number < command.blocks

section Blocks

variable {command after : DumpCommand} {front : List UInt8} {bytes : Int}

theorem dumpSound_new : DumpSound .new := by
  constructor
  · exact justified_nil
  · exact trivial
  · nofun
  · nofun

namespace DumpSound

theorem resize (sound : DumpSound command) (buffSize : Int) :
    DumpSound { command with buffSize := buffSize } :=
  ⟨sound.justified, sound.pointer, sound.others, sound.numbers⟩

/-- A block is freed when it is the one of `mBuff`. -/
theorem free (sound : DumpSound command) {block : DumpBlock} (live : command.buff = .live block)
    (pointer : DumpPointer) (due : PointerSound (command.outputs ++ [.freed block]) pointer) :
    DumpSound { command with
      buff := pointer
      outputs := command.outputs ++ [.freed block] } := by
  have points := sound.pointer
  rw [live] at points
  constructor
  · rw [justified_snoc_iff]
    exact ⟨sound.justified, points⟩
  · exact due
  · intro other allocated _
    have earlier : DumpOutput.allocated other ∈ command.outputs := by simpa using allocated
    by_cases same : other = block
    · rw [same]
      exact List.mem_append_right _ (List.mem_singleton_self _)
    · apply List.mem_append_left
      apply sound.others other earlier
      rw [live]
      rintro ⟨⟩
      exact same rfl
  · intro other allocated
    exact sound.numbers other (by simpa using allocated)

theorem release (sound : DumpSound command) (released : command.release = some after) :
    DumpSound after ∧ after.buff = .null ∧ after.buffSize = command.buffSize := by
  rw [DumpCommand.release] at released
  split at released
  case h_1 isNull =>
    cases released
    exact ⟨sound, isNull, rfl⟩
  case h_2 block live =>
    cases released
    exact ⟨sound.free live .null trivial, rfl, rfl⟩
  case h_3 => cases released

theorem allocate (sound : DumpSound command) (isNull : command.buff = .null) {allocates : Bool}
    (allocated : command.allocate bytes front allocates = some after) :
    DumpSound after ∧ after.buffSize = command.buffSize ∧
      (after.buff = .null ∨
        ∃ block : DumpBlock, after.buff = .live block ∧ bytes = block.size) := by
  rw [DumpCommand.allocate] at allocated
  split at allocated
  case isFalse =>
    cases allocated
    rw [← isNull]
    exact ⟨sound, rfl, .inl rfl⟩
  case isTrue possible =>
    split at allocated
    case isFalse => cases allocated
    case isTrue fits =>
      cases allocated
      have unknown : ∀ block : DumpBlock, block.number = command.blocks →
          .allocated block ∉ command.outputs := by
        intro block same earlier
        exact Nat.lt_irrefl _ (same ▸ sound.numbers block earlier)
      refine ⟨⟨?_, ?_, ?_, ?_⟩, rfl, .inr ⟨_, rfl, (Int.toNat_of_nonneg possible.2).symm⟩⟩
      · rw [justified_snoc_iff]
        refine ⟨sound.justified, ?_, unknown ⟨command.blocks, bytes.toNat, front⟩ rfl, ?_⟩
        · change front.length ≤ bytes.toNat
          omega
        · intro other earlier
          exact sound.others other earlier (isNull ▸ nofun)
      · refine ⟨List.mem_append_right _ (List.mem_singleton_self _), fun freed => ?_⟩
        have earlier :
            DumpOutput.freed ⟨command.blocks, bytes.toNat, front⟩ ∈ command.outputs := by
          simpa using freed
        obtain ⟨before, rest, split⟩ := List.append_of_mem earlier
        apply unknown ⟨command.blocks, bytes.toNat, front⟩ rfl
        rw [split]
        exact List.mem_append_left _ (sound.justified before _ rest split).1
      · intro other allocated notLive
        rcases List.mem_append.mp allocated with earlier | last
        · exact List.mem_append_left _ (sound.others other earlier (isNull ▸ nofun))
        · cases List.mem_singleton.mp last
          exact absurd rfl notLive
      · intro other allocated
        rcases List.mem_append.mp allocated with earlier | last
        · exact Nat.lt_succ_of_lt (sound.numbers other earlier)
        · cases List.mem_singleton.mp last
          exact Nat.lt_succ_self _

theorem emit (sound : DumpSound command) (output : DumpOutput)
    (due : DumpDue command.outputs output) (quiet : ∀ block, output ≠ .allocated block ∧
      output ≠ .freed block) :
    DumpSound { command with outputs := command.outputs ++ [output] } := by
  have sameAllocated : ∀ block, .allocated block ∈ command.outputs ++ [output] ↔
      .allocated block ∈ command.outputs := by
    intro block
    rw [List.mem_append, List.mem_singleton, or_iff_left (quiet block).1.symm]
  have sameFreed : ∀ block, .freed block ∈ command.outputs ++ [output] ↔
      .freed block ∈ command.outputs := by
    intro block
    rw [List.mem_append, List.mem_singleton, or_iff_left (quiet block).2.symm]
  constructor
  · rw [justified_snoc_iff]
    exact ⟨sound.justified, due⟩
  · have points := sound.pointer
    cases atPointer : command.buff with
    | null => trivial
    | live block =>
        rw [atPointer] at points
        exact ⟨(sameAllocated block).mpr points.1, mt (sameFreed block).mp points.2⟩
    | dangling block =>
        rw [atPointer] at points
        exact List.mem_append_left _ points
  · intro block allocated notLive
    exact (sameFreed block).mpr (sound.others block ((sameAllocated block).mp allocated) notLive)
  · intro block allocated
    exact sound.numbers block ((sameAllocated block).mp allocated)

end DumpSound

/-- `mBuff` is `NULL` or points to a block that is not freed. -/
def DumpCommand.Usable (command : DumpCommand) : Prop :=
  ∀ block, command.buff ≠ .dangling block

/-- The pointer dangles exactly when a creation has failed. -/
structure DumpKept (command : DumpCommand) : Prop where
  blocks : DumpSound command
  failed : .creationFailed ∈ command.outputs → ¬ command.Usable

theorem DumpKept.usable_iff (kept : DumpKept command) :
    command.Usable ↔ .creationFailed ∉ command.outputs := by
  constructor
  · intro usable failed
    exact kept.failed failed usable
  · intro unfailed block dangles
    have points := kept.blocks.pointer
    rw [dangles] at points
    exact unfailed points

/-- A command that may call the handler: `mBuffSize` is the size of the block. -/
structure DumpReady (command : DumpCommand) : Prop where
  kept : DumpKept command
  exact : ∀ block, command.buff = .live block → command.buffSize = block.size

/-- What the handler is given is the whole block. -/
theorem DumpReady.deliver (ready : DumpReady command) {hasHandler : Bool}
    (delivered : command.deliver hasHandler = some after) : DumpReady after := by
  obtain ⟨⟨sound, failed⟩, exact⟩ := ready
  rw [DumpCommand.deliver] at delivered
  split at delivered
  case h_1 isNull =>
    have unfailed : .creationFailed ∉ command.outputs :=
      fun isFailed => failed isFailed fun block => isNull ▸ nofun
    cases delivered
    cases hasHandler with
    | false =>
        simp only [Bool.false_eq_true, if_false, List.append_nil]
        exact ⟨⟨sound, failed⟩, exact⟩
    | true =>
        refine ⟨⟨sound.emit _ ?_ fun _ => ⟨nofun, nofun⟩, ?_⟩, exact⟩
        · intro block allocated
          exact sound.others block allocated (isNull ▸ nofun)
        · intro isFailed
          exact absurd (by simpa using isFailed) unfailed
  case h_2 block live =>
    have unfailed : .creationFailed ∉ command.outputs :=
      fun isFailed => failed isFailed fun block => live ▸ nofun
    cases delivered
    have points := sound.pointer
    rw [live] at points
    refine ⟨⟨?_, fun isFailed => absurd (by simpa using isFailed) ?_⟩, nofun⟩
    · cases hasHandler with
      | false =>
          simp only [Bool.false_eq_true, if_false, List.append_nil]
          exact sound.free live .null trivial
      | true =>
          have called := sound.emit (.delivered (some block) command.buffSize)
            ⟨points.1, points.2, exact block live⟩ fun _ => ⟨nofun, nofun⟩
          exact called.free live .null trivial
    · exact unfailed
  case h_3 => cases delivered

/-- A request that cannot be created leaves the pointer dangling. -/
theorem DumpSound.abandon (sound : DumpSound command) {block : DumpBlock}
    (live : command.buff = .live block) (abandoned : command.abandon = some after) :
    DumpReady after := by
  have failed := sound.emit .creationFailed trivial fun _ => ⟨nofun, nofun⟩
  have freed := failed.free live (.dangling block) (by simp [PointerSound])
  rw [List.append_assoc] at freed
  rw [DumpCommand.abandon, live] at abandoned
  cases abandoned
  exact ⟨⟨freed, fun _ usable => usable block rfl⟩, nofun⟩

/-- Of the blocks that a usable pointer may have, it has a live one unless it is `NULL`. -/
theorem DumpCommand.Usable.exists_live (usable : command.Usable) (notNull : command.buff ≠ .null) :
    ∃ block, command.buff = .live block := by
  cases atPointer : command.buff with
  | null => exact absurd atPointer notNull
  | live block => exact ⟨block, rfl⟩
  | dangling block => exact absurd atPointer (usable block)

namespace DumpCommand

theorem release_eq_none_iff : command.release = none ↔ ¬ command.Usable := by
  rw [release, Usable]
  cases command.buff <;> simp

theorem creationFailed_mem_release (released : command.release = some after) :
    .creationFailed ∈ after.outputs ↔ .creationFailed ∈ command.outputs := by
  rw [release] at released
  split at released
  · cases released
    rfl
  · cases released
    simp
  · cases released

theorem creationFailed_mem_allocate {allocates : Bool}
    (allocated : command.allocate bytes front allocates = some after) :
    .creationFailed ∈ after.outputs ↔ .creationFailed ∈ command.outputs := by
  rw [allocate] at allocated
  split at allocated
  · split at allocated
    · cases allocated
      simp
    · cases allocated
  · cases allocated
    rfl

theorem allocate_usable {allocates : Bool}
    (allocated : command.allocate bytes front allocates = some after) : after.Usable := by
  rw [allocate] at allocated
  split at allocated
  · split at allocated
    · cases allocated
      exact nofun
    · cases allocated
  · cases allocated
    exact nofun

theorem deliver_usable (usable : command.Usable) (hasHandler : Bool) :
    ∃ after, command.deliver hasHandler = some after ∧ after.Usable := by
  rw [deliver]
  cases atPointer : command.buff with
  | null | live => exact ⟨_, rfl, nofun⟩
  | dangling block => exact absurd atPointer (usable block)

theorem allocate_eq_none_iff {allocates : Bool} :
    command.allocate bytes front allocates = none ↔
      allocates = true ∧ 0 ≤ bytes ∧ bytes < front.length := by
  rw [allocate]
  split
  case isTrue possible =>
    split
    case isTrue fits =>
      simp only [reduceCtorEq, false_iff]
      omega
    case isFalse exceeds =>
      simp only [true_iff]
      exact ⟨possible.1, possible.2, Int.not_le.mp exceeds⟩
  case isFalse impossible =>
    simp only [reduceCtorEq, false_iff]
    exact fun ⟨allocates, nonneg, _⟩ => impossible ⟨allocates, nonneg⟩

end DumpCommand

end Blocks

/-! ## Runs of the alert handler -/

section Alert

variable {command after : DumpCommand} {hasHandler : Bool}

theorem DumpReady.handleAlertResponse {reply : Option (List Bool)} (ready : DumpReady command)
    (handled : handleAlertResponse hasHandler reply command = some after) : DumpReady after := by
  rw [X3Hal.Wifi.handleAlertResponse] at handled
  generalize reply.getD [] = attributes at handled
  induction attributes generalizing command with
  | nil =>
      cases handled
      exact ready
  | cons isDumpData rest ih =>
      rw [List.foldlM_cons, Option.bind_eq_bind, Option.bind_eq_some_iff] at handled
      obtain ⟨middle, first, handled⟩ := handled
      split at first
      case isTrue => exact ih (ready.deliver first) handled
      case isFalse =>
        cases first
        exact ih ready handled

theorem handleAlertResponse_usable (hasHandler : Bool) (reply : Option (List Bool))
    (usable : command.Usable) :
    ∃ after, handleAlertResponse hasHandler reply command = some after ∧ after.Usable := by
  rw [handleAlertResponse]
  induction reply.getD [] generalizing command with
  | nil => exact ⟨command, rfl, usable⟩
  | cons isDumpData rest ih =>
      rw [List.foldlM_cons]
      cases isDumpData with
      | false => exact ih usable
      | true =>
          obtain ⟨middle, delivered, usableNext⟩ := DumpCommand.deliver_usable usable hasHandler
          obtain ⟨after, handled, usableAfter⟩ := ih usableNext
          refine ⟨after, ?_, usableAfter⟩
          rw [if_pos rfl, delivered]
          exact handled

theorem DumpReady.replies {replies : List (Option (List Bool))} (ready : DumpReady command)
    (handled : replies.foldlM (fun command reply =>
      X3Hal.Wifi.handleAlertResponse hasHandler reply command) command = some after) :
    DumpReady after := by
  induction replies generalizing command with
  | nil =>
      cases handled
      exact ready
  | cons reply rest ih =>
      rw [List.foldlM_cons, Option.bind_eq_bind, Option.bind_eq_some_iff] at handled
      obtain ⟨middle, first, handled⟩ := handled
      exact ih (ready.handleAlertResponse first) handled

theorem replies_usable (hasHandler : Bool) (replies : List (Option (List Bool)))
    (usable : command.Usable) :
    ∃ after, replies.foldlM (fun command reply => handleAlertResponse hasHandler reply command)
      command = some after ∧ after.Usable := by
  induction replies generalizing command with
  | nil => exact ⟨command, rfl, usable⟩
  | cons reply rest ih =>
      obtain ⟨middle, first, usableNext⟩ :=
        handleAlertResponse_usable hasHandler reply usable
      obtain ⟨after, handled, usableAfter⟩ := ih usableNext
      refine ⟨after, ?_, usableAfter⟩
      rw [List.foldlM_cons, first]
      exact handled

/-- `mBuffSize` and the bytes to copy, when an event makes the handler allocate -/
def AlertEvent.dump? (event : AlertEvent) (buffSize : Int) : Option (Int × List UInt8) :=
  match event.attributes with
  | none | some [] => none
  | some attributes =>
      let read := readAlert buffSize attributes
      if read.1 = 0 then none else some read

/-- `mBuffSize` after the attributes of an event -/
def AlertEvent.sizeAfter (event : AlertEvent) (buffSize : Int) : Int :=
  match event.attributes with
  | none | some [] => buffSize
  | some attributes => (readAlert buffSize attributes).1

/-- The sum is no `int`, or the copy goes over the end of the block. -/
def Overruns (request : DumpRequest) (read : Int × List UInt8) : Prop :=
  2 ^ 31 ≤ read.1 + read.2.length ∨
    request.allocates = true ∧ 0 ≤ read.1 + read.2.length ∧ read.1 < 0

theorem sendAlertRequest_ne_none (event : AlertEvent) {bytes : Int} (usable : command.Usable) :
    sendAlertRequest hasHandler event bytes command ≠ none := by
  rw [sendAlertRequest]
  split
  · nofun
  · split
    · rw [DumpCommand.abandon]
      cases atPointer : command.buff with
      | null | live => nofun
      | dangling block => exact absurd atPointer (usable block)
    · split
      · nofun
      · have usable : DumpCommand.Usable { command with buffSize := bytes } := usable
        obtain ⟨after, handled, -⟩ := replies_usable hasHandler event.replies usable
        rw [handled]
        nofun

/-- An event is handled unless the old buffer is freed already, or the new one is too small. -/
theorem requestAlertDump_eq_none_iff {event : AlertEvent} {front : List UInt8} :
    requestAlertDump hasHandler event front command = none ↔
      ¬ command.Usable ∨ Overruns event.request (command.buffSize, front) := by
  rw [requestAlertDump, Overruns]
  split
  case isTrue exceeds => exact iff_of_true rfl (.inr (.inl exceeds))
  case isFalse within =>
    rw [or_iff_right within, Option.bind_eq_bind, Option.bind_eq_none_iff]
    constructor
    · intro fails
      by_cases usable : command.Usable
      · right
        have isSome : command.release ≠ none := by
          rw [Ne, DumpCommand.release_eq_none_iff, not_not]
          exact usable
        obtain ⟨released, isReleased⟩ := Option.ne_none_iff_exists'.mp isSome
        have fails := fails released isReleased
        rw [Option.bind_eq_none_iff] at fails
        by_contra fits
        have allocates : released.allocate (command.buffSize + front.length) front
            event.request.allocates ≠ none := by
          rw [Ne, DumpCommand.allocate_eq_none_iff]
          rintro ⟨allocates, nonneg, short⟩
          exact fits ⟨allocates, nonneg, by omega⟩
        obtain ⟨next, allocated⟩ := Option.ne_none_iff_exists'.mp allocates
        exact sendAlertRequest_ne_none event (DumpCommand.allocate_usable allocated)
          (fails next allocated)
      · exact .inl usable
    · rintro (unusable | ⟨allocates, nonneg, negative⟩) released isReleased
      · rw [← DumpCommand.release_eq_none_iff, isReleased] at unusable
        cases unusable
      · rw [DumpCommand.allocate_eq_none_iff.mpr ⟨allocates, nonneg, by dsimp only at *; omega⟩]
        rfl

/-- After `malloc` the request is sent, and all of the block delivered. -/
theorem sendAlertRequest_sound {event : AlertEvent} {bytes : Int} (sound : DumpSound command)
    (usable : command.Usable) (unfailed : .creationFailed ∉ command.outputs)
    (whole : ∀ block, command.buff = .live block → bytes = block.size)
    (sent : sendAlertRequest hasHandler event bytes command = some after) :
    DumpKept after := by
  rw [sendAlertRequest] at sent
  split at sent
  case isTrue =>
    cases sent
    exact ⟨sound, fun failed => absurd failed unfailed⟩
  case isFalse notNull =>
    split at sent
    case isTrue =>
      obtain ⟨block, live⟩ := usable.exists_live notNull
      exact (sound.abandon live sent).kept
    case isFalse =>
      split at sent
      case isTrue =>
        cases sent
        exact ⟨sound, fun failed => absurd failed unfailed⟩
      case isFalse =>
        have ready : DumpReady { command with buffSize := bytes } :=
          ⟨⟨sound.resize bytes, fun failed => absurd failed unfailed⟩, whole⟩
        exact (ready.replies sent).kept

theorem DumpKept.requestAlertDump {event : AlertEvent} {front : List UInt8}
    (sound : DumpKept command)
    (requested : requestAlertDump hasHandler event front command = some after) :
    DumpKept after := by
  rw [X3Hal.Wifi.requestAlertDump] at requested
  split at requested
  case isTrue => cases requested
  case isFalse =>
    simp only [Option.bind_eq_bind, Option.bind_eq_some_iff] at requested
    obtain ⟨released, isReleased, allocated, isAllocated, sent⟩ := requested
    have usable : command.Usable := by
      by_contra unusable
      rw [← DumpCommand.release_eq_none_iff, isReleased] at unusable
      cases unusable
    have unfailed := sound.usable_iff.mp usable
    obtain ⟨soundReleased, isNull, -⟩ := sound.blocks.release isReleased
    obtain ⟨soundAllocated, -, points⟩ := soundReleased.allocate isNull isAllocated
    have usableAllocated := DumpCommand.allocate_usable isAllocated
    refine sendAlertRequest_sound soundAllocated usableAllocated ?_ ?_ sent
    · rw [DumpCommand.creationFailed_mem_allocate isAllocated,
        DumpCommand.creationFailed_mem_release isReleased]
      exact unfailed
    · intro block live
      rcases points with isNull | ⟨other, isOther, size⟩
      · rw [isNull] at live
        cases live
      · rw [isOther] at live
        cases live
        exact size

theorem DumpKept.resize (sound : DumpKept command) (buffSize : Int) :
    DumpKept { command with buffSize := buffSize } :=
  ⟨sound.blocks.resize buffSize, sound.failed⟩

/-- What an event does, by the dump it asks for. -/
theorem handleAlertEvent_eq (hasHandler : Bool) (command : DumpCommand) (event : AlertEvent) :
    handleAlertEvent hasHandler command event =
      match event.dump? command.buffSize with
      | some read =>
          requestAlertDump hasHandler event read.2 { command with buffSize := read.1 }
      | none => some { command with buffSize := event.sizeAfter command.buffSize } := by
  rw [handleAlertEvent, AlertEvent.dump?, AlertEvent.sizeAfter]
  split
  case h_1 => rfl
  case h_2 => rfl
  case h_3 attributes _ _ =>
    by_cases isZero : (readAlert command.buffSize attributes).1 = 0
    · simp only [isZero, if_true]
    · simp only [isZero, if_false]

theorem DumpKept.event {event : AlertEvent} (sound : DumpKept command)
    (handled : handleAlertEvent hasHandler command event = some after) : DumpKept after := by
  rw [handleAlertEvent_eq] at handled
  split at handled
  case h_1 => exact (sound.resize _).requestAlertDump handled
  case h_2 =>
    cases handled
    exact sound.resize _

end Alert

/-- The events that one `SetAlertHandler` handles; its outputs are those of its command. -/
def alertSystem (hasHandler : Bool) : System DumpCommand AlertEvent Empty where
  Init command := command = .new
  step command event := (handleAlertEvent hasHandler command event).map fun after => (after, [])

theorem DumpKept.run {hasHandler : Bool} {history : History AlertEvent Empty}
    {command : DumpCommand} (running : (alertSystem hasHandler).Run System.free history command) :
    DumpKept command := by
  induction running with
  | start starts =>
      cases starts
      exact ⟨dumpSound_new, nofun⟩
  | next earlier _ stepped ih =>
      obtain ⟨after, handled, same⟩ := Option.map_eq_some_iff.mp stepped
      cases same
      exact ih.event handled

/-- In every run of the alert handler each block is delivered while it is live and with its whole
size, and freed at most once, before the next one is allocated; an event is undefined behaviour
only when it asks for a dump after a failed creation, or for one whose size does not fit. -/
theorem alert_buffers_kept {hasHandler : Bool} {history : History AlertEvent Empty}
    {command : DumpCommand} (running : (alertSystem hasHandler).Run System.free history command) :
    Justified DumpDue command.outputs ∧
    ∀ event : AlertEvent, (alertSystem hasHandler).step command event = none ↔
      ∃ read ∈ event.dump? command.buffSize,
        .creationFailed ∈ command.outputs ∨ Overruns event.request read := by
  have sound := DumpKept.run running
  refine ⟨sound.blocks.justified, fun event => ?_⟩
  rw [alertSystem, Option.map_eq_none_iff, handleAlertEvent_eq]
  cases asks : event.dump? command.buffSize with
  | none => simp
  | some read =>
      simp only [Option.mem_def, Option.some.injEq, exists_eq_left']
      rw [requestAlertDump_eq_none_iff, (sound.resize read.1).usable_iff, not_not]

/-- A dump whose buffer is delivered, and one whose request cannot be created. -/
theorem alert_buffers_kept_again :
    (∃ history command, (alertSystem true).Run System.free history command ∧
      (Justified DumpDue command.outputs ∧
        ∀ event : AlertEvent, (alertSystem true).step command event = none ↔
          ∃ read ∈ event.dump? command.buffSize,
            .creationFailed ∈ command.outputs ∨ Overruns event.request read) ∧
      command.outputs = [.allocated ⟨0, 6, [1, 2]⟩, .delivered (some ⟨0, 6, [1, 2]⟩) 6,
        .freed ⟨0, 6, [1, 2]⟩, .allocated ⟨1, 9, []⟩, .creationFailed, .freed ⟨1, 9, []⟩]) := by
  obtain ⟨history, command, running, outputs⟩ :=
    System.exists_run_of_exec (alertSystem true) System.free
      ([⟨some [.dumpLen 4, .ringData [1, 2]], ⟨true, true, true⟩, [some [false, true]]⟩,
        ⟨some [.dumpLen 9], ⟨true, false, true⟩, []⟩] : List AlertEvent)
      (fun final => final.2.outputs) rfl (by decide +kernel)
      (show _ = some [.allocated ⟨0, 6, [1, 2]⟩, .delivered (some ⟨0, 6, [1, 2]⟩) 6,
        .freed ⟨0, 6, [1, 2]⟩, .allocated ⟨1, 9, []⟩, .creationFailed, .freed ⟨1, 9, []⟩] by
        decide +kernel)
  exact ⟨history, command, running, alert_buffers_kept running, outputs⟩

/-! ## The replies to a memory dump command -/

mutual

/-- Every request that the attributes make can be created. -/
def DumpReply.Created : DumpReply → Prop
  | .nil => True
  | .dumpLen _ request answers rest => request.creates = true ∧ answers.Created ∧ rest.Created
  | .dumpData rest | .other rest => rest.Created

def DumpReplies.Created : DumpReplies → Prop
  | .nil => True
  | .cons reply rest => reply.Created ∧ rest.Created

end

section Replies

variable {hasHandler : Bool}

/-- What the first attribute of a dump leads to, up to its request -/
theorem DumpReady.startDump {command released allocated : DumpCommand} {bytes : Int}
    {allocates : Bool} (ready : DumpReady command)
    (isReleased : { command with buffSize := bytes }.release = some released)
    (isAllocated : released.allocate bytes [] allocates = some allocated) :
    DumpReady allocated ∧ allocated.Usable := by
  have usable : DumpCommand.Usable { command with buffSize := bytes } := by
    by_contra unusable
    rw [← DumpCommand.release_eq_none_iff, isReleased] at unusable
    cases unusable
  have resized := ready.kept.resize bytes
  obtain ⟨soundReleased, isNull, sizeReleased⟩ := resized.blocks.release isReleased
  obtain ⟨soundAllocated, size, points⟩ := soundReleased.allocate isNull isAllocated
  have usableAllocated := DumpCommand.allocate_usable isAllocated
  refine ⟨⟨⟨soundAllocated, fun failed => ?_⟩, fun block live => ?_⟩, usableAllocated⟩
  · rw [DumpCommand.creationFailed_mem_allocate isAllocated,
      DumpCommand.creationFailed_mem_release isReleased] at failed
    exact absurd failed (resized.usable_iff.mp usable)
  · rw [size, sizeReleased]
    rcases points with isNull | ⟨other, isOther, size⟩
    · rw [isNull] at live
      cases live
    · rw [isOther] at live
      cases live
      exact size

mutual

theorem DumpReady.response : (reply : DumpReply) → {command after : DumpCommand} →
    DumpReady command → handleDumpResponse hasHandler reply command = some after →
    DumpReady after
  | .nil, _, _, ready, handled => by
      cases handled
      exact ready
  | .dumpData rest, _, _, ready, handled => by
      rw [handleDumpResponse, Option.bind_eq_bind, Option.bind_eq_some_iff] at handled
      obtain ⟨middle, delivered, handled⟩ := handled
      exact DumpReady.response rest (ready.deliver delivered) handled
  | .other rest, _, _, ready, handled => by
      rw [handleDumpResponse] at handled
      exact DumpReady.response rest ready handled
  | .dumpLen len request answers rest, _, _, ready, handled => by
      simp only [handleDumpResponse, Option.bind_eq_bind, Option.bind_eq_some_iff] at handled
      obtain ⟨released, isReleased, allocated, isAllocated, handled⟩ := handled
      obtain ⟨started, usable⟩ := ready.startDump isReleased isAllocated
      split at handled
      case isTrue =>
        cases handled
        exact started
      case isFalse notNull =>
        split at handled
        case isTrue =>
          obtain ⟨block, live⟩ := usable.exists_live notNull
          exact started.kept.blocks.abandon live handled
        case isFalse =>
          split at handled
          case isTrue =>
            cases handled
            exact started
          case isFalse =>
            rw [Option.bind_eq_some_iff] at handled
            obtain ⟨middle, answered, handled⟩ := handled
            exact DumpReady.response rest (DumpReady.responses answers started answered) handled

theorem DumpReady.responses : (replies : DumpReplies) → {command after : DumpCommand} →
    DumpReady command → handleDumpResponses hasHandler replies command = some after →
    DumpReady after
  | .nil, _, _, ready, handled => by
      cases handled
      exact ready
  | .cons reply rest, _, _, ready, handled => by
      rw [handleDumpResponses, Option.bind_eq_bind, Option.bind_eq_some_iff] at handled
      obtain ⟨middle, first, handled⟩ := handled
      exact DumpReady.responses rest (DumpReady.response reply ready first) handled

end

mutual

/-- Replies whose requests can be created are handled without undefined behaviour. -/
theorem DumpReply.handled : (reply : DumpReply) → reply.Created → (command : DumpCommand) →
    command.Usable →
    ∃ after, handleDumpResponse hasHandler reply command = some after ∧ after.Usable
  | .nil, _, command, usable => ⟨command, rfl, usable⟩
  | .dumpData rest, created, command, usable => by
      obtain ⟨middle, delivered, usable⟩ := DumpCommand.deliver_usable usable hasHandler
      obtain ⟨after, handled, usable⟩ := DumpReply.handled rest created middle usable
      refine ⟨after, ?_, usable⟩
      rw [handleDumpResponse, delivered]
      exact handled
  | .other rest, created, command, usable => by
      rw [handleDumpResponse]
      exact DumpReply.handled rest created command usable
  | .dumpLen len request answers rest, ⟨creates, answered, created⟩, command, usable => by
      have releases : { command with buffSize := toInt32 len }.release ≠ none := by
        rw [Ne, DumpCommand.release_eq_none_iff, not_not]
        exact usable
      obtain ⟨released, isReleased⟩ := Option.ne_none_iff_exists'.mp releases
      have allocates : released.allocate (toInt32 len) [] request.allocates ≠ none := by
        rw [Ne, DumpCommand.allocate_eq_none_iff]
        rintro ⟨-, nonneg, negative⟩
        exact absurd negative (Int.not_lt.mpr nonneg)
      obtain ⟨allocated, isAllocated⟩ := Option.ne_none_iff_exists'.mp allocates
      have usable := DumpCommand.allocate_usable isAllocated
      obtain ⟨middle, first, usableMiddle⟩ := DumpReplies.handled answers answered allocated usable
      obtain ⟨after, last, usableAfter⟩ := DumpReply.handled rest created middle usableMiddle
      have unfold : handleDumpResponse hasHandler (.dumpLen len request answers rest) command =
          if allocated.buff = .null then some allocated
          else if request.puts = false then some allocated
          else some after := by
        simp only [handleDumpResponse, isReleased, isAllocated, Option.bind_eq_bind,
          Option.bind_some, creates, Bool.true_eq_false, if_false, first, last]
      rw [unfold]
      split
      · exact ⟨allocated, rfl, usable⟩
      · split
        · exact ⟨allocated, rfl, usable⟩
        · exact ⟨after, rfl, usableAfter⟩

theorem DumpReplies.handled : (replies : DumpReplies) → replies.Created →
    (command : DumpCommand) → command.Usable →
    ∃ after, handleDumpResponses hasHandler replies command = some after ∧ after.Usable
  | .nil, _, command, usable => ⟨command, rfl, usable⟩
  | .cons reply rest, ⟨created, others⟩, command, usable => by
      obtain ⟨middle, first, usable⟩ := DumpReply.handled reply created command usable
      obtain ⟨after, handled, usable⟩ := DumpReplies.handled rest others middle usable
      refine ⟨after, ?_, usable⟩
      rw [handleDumpResponses, first]
      exact handled

end

end Replies

/-- However the replies to a memory dump command nest, each block is delivered while it is live
and with its whole size, and freed at most once (a length that no data follows leaks it);
undefined behaviour comes only after a request that cannot be created. -/
theorem memory_dump_kept (hasHandler : Bool) (replies : DumpReplies) :
    (∀ after, handleDumpResponses hasHandler replies .new = some after →
      Justified DumpDue after.outputs ∧
      (after.Usable ↔ .creationFailed ∉ after.outputs)) ∧
    (replies.Created → ∃ after, handleDumpResponses hasHandler replies .new = some after ∧
      .creationFailed ∉ after.outputs) := by
  have new : DumpReady .new := ⟨⟨dumpSound_new, nofun⟩, nofun⟩
  constructor
  · intro after handled
    have ready := new.responses replies handled
    exact ⟨ready.kept.blocks.justified, ready.kept.usable_iff⟩
  · intro created
    obtain ⟨after, handled, usable⟩ := replies.handled created .new nofun
    have ready := new.responses replies handled
    exact ⟨after, handled, ready.kept.usable_iff.mp usable⟩

/-- A reply that asks for a dump, whose answer delivers it, and that delivers another one. -/
def nestedReplies : DumpReplies :=
  .cons (.dumpLen 5 ⟨true, true, true⟩ (.cons (.other (.dumpData .nil)) .nil)
    (.dumpData .nil)) .nil

theorem memory_dump_kept_nested :
    ∃ after, handleDumpResponses true nestedReplies .new = some after ∧
      Justified DumpDue after.outputs ∧ .creationFailed ∉ after.outputs ∧
      after.outputs = [.allocated ⟨0, 5, []⟩, .delivered (some ⟨0, 5, []⟩) 5, .freed ⟨0, 5, []⟩,
        .delivered none 5] := by
  obtain ⟨kept, handled⟩ := memory_dump_kept true nestedReplies
  obtain ⟨after, isAfter, unfailed⟩ := handled ⟨⟨rfl, ⟨trivial, trivial⟩, trivial⟩, trivial⟩
  refine ⟨after, isAfter, (kept after isAfter).1, unfailed, ?_⟩
  cases isAfter
  rfl

end X3Hal.Wifi
