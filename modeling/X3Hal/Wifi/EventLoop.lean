import X3Hal.Transition.Justified

/-!
# The event loop and its shutdown

`wifi_event_loop` serves the event socket until `wifi_cleanup` writes `Exit` into a socket pair;
the loop answers `Done` and leaves, and only then the handle is released.  A write or a read of
this handshake may fail, and the loop may leave by itself when the event socket hangs up.

One thread is in the loop at most: `in_event_loop` is set at its start and never reset.
-/

namespace X3Hal.Wifi

open X3Hal.Transition

/-- What `wifi_cleanup` writes. -/
def exitMessage : List Char := ['E', 'x', 'i', 't']

/-- What `wifi_event_loop` answers. -/
def doneMessage : List Char := ['D', 'o', 'n', 'e']

/-- `strncmp(buf, message, 4) == 0`, for a message of four characters -/
def startsWith (message buf : List Char) : Bool :=
  buf.take 4 = message

/-- Where the thread of `wifi_event_loop` is. -/
inductive LoopPlace
  | outside
  | polling
  /-- in `internal_pollin_handler` -/
  | handling
  /-- before the read from the cleanup socket -/
  | reading
  /-- before the answer to `Exit` -/
  | answering
  /-- before the test of `clean_up` -/
  | testing
  | left
  deriving DecidableEq

/-- Where the thread of `wifi_cleanup` is. -/
inductive CleanupPlace
  | outside
  | writing
  | reading
  /-- before `clean_up` is set -/
  | flagging
  /-- while the commands are cancelled -/
  | cancelling
  /-- in `internal_cleaned_up_handler` -/
  | releasing
  | released
  deriving DecidableEq

/-- What `poll` returns, by the branch that the loop takes. -/
inductive PollResult
  | failed
  | eventError
  | eventHangUp
  | eventIn
  | cleanupIn
  | other
  deriving DecidableEq

structure LoopState where
  inEventLoop : Bool
  cleanUp : Bool
  loop : LoopPlace
  cleanup : CleanupPlace
  /-- what can be read from `cleanup_socks[1]` -/
  toLoop : List Char
  /-- what can be read from `cleanup_socks[0]` -/
  toCleanup : List Char
  deriving DecidableEq

inductive LoopEvent
  /-- a call of `wifi_event_loop` -/
  | eventLoop
  | poll (result : PollResult)
  /-- `internal_pollin_handler` returns -/
  | handled
  /-- the loop reads from the cleanup socket -/
  | readExit (succeeds : Bool)
  | answer (succeeds : Bool)
  | test
  /-- a call of `wifi_cleanup` -/
  | cleanup
  | writeExit (succeeds : Bool)
  /-- `wifi_cleanup` reads the answer -/
  | readDone (succeeds : Bool)
  | setCleanUp
  | cancelled
  | release
  deriving DecidableEq

inductive LoopOutput
  /-- the loop uses the handle -/
  | used
  /-- the event socket hangs up -/
  | hungUp
  /-- the loop has read `Exit` -/
  | exitRead
  | answered (succeeded : Bool)
  | exitWritten (succeeded : Bool)
  | doneRead (succeeded : Bool)
  | released
  deriving DecidableEq

namespace LoopState

/-- `wifi_event_loop` up to its loop -/
def eventLoop (state : LoopState) : LoopState × List LoopOutput :=
  if state.inEventLoop then (state, [.used])
  else ({ state with inEventLoop := true, loop := .polling }, [.used])

/-- What the loop does after `poll`. -/
def poll (state : LoopState) : PollResult → LoopState × List LoopOutput
  -- an error is read away, and an unknown event only logged
  | .failed | .eventError | .other => ({ state with loop := .testing }, [])
  | .eventHangUp => ({ state with loop := .left }, [.hungUp])
  | .eventIn => ({ state with loop := .handling }, [.used])
  | .cleanupIn => ({ state with loop := .reading }, [])

/-- The loop reads from the cleanup socket; `buf` is zero when the read fails. -/
def readExit (state : LoopState) (succeeds : Bool) : LoopState × List LoopOutput :=
  let buf := if succeeds then state.toLoop else []
  let state := if succeeds then { state with toLoop := [] } else state
  if startsWith exitMessage buf then ({ state with loop := .answering }, [.exitRead])
  else ({ state with loop := .testing }, [])

def answer (state : LoopState) (succeeds : Bool) : LoopState × List LoopOutput :=
  ({ state with
      loop := .left
      toCleanup := if succeeds then state.toCleanup ++ doneMessage else state.toCleanup },
    [.answered succeeds])

/-- `while (!info->clean_up)` -/
def test (state : LoopState) : LoopState × List LoopOutput :=
  ({ state with loop := if state.cleanUp then .left else .polling }, [.used])

def writeExit (state : LoopState) (succeeds : Bool) : LoopState × List LoopOutput :=
  if succeeds then
    ({ state with cleanup := .reading, toLoop := state.toLoop ++ exitMessage },
      [.exitWritten true])
  else ({ state with cleanup := .flagging }, [.exitWritten false])

/-- What is read is only logged. -/
def readDone (state : LoopState) (succeeds : Bool) : LoopState × List LoopOutput :=
  ({ state with
      cleanup := .flagging
      toCleanup := if succeeds then [] else state.toCleanup },
    [.doneRead succeeds])

/-- One step of one of the threads.  A read waits for something to read, and `poll` sees the
cleanup socket only then. -/
def step (state : LoopState) : LoopEvent → Option (LoopState × List LoopOutput)
  | .eventLoop => if state.cleanup = .released then none else some state.eventLoop
  | .poll result =>
      if state.loop = .polling ∧ (result = .cleanupIn → state.toLoop ≠ []) then
        some (state.poll result)
      else none
  | .handled => if state.loop = .handling then some ({ state with loop := .testing }, []) else none
  | .readExit succeeds => if state.loop = .reading then some (state.readExit succeeds) else none
  | .answer succeeds => if state.loop = .answering then some (state.answer succeeds) else none
  | .test => if state.loop = .testing then some state.test else none
  | .cleanup =>
      if state.cleanup = .outside then some ({ state with cleanup := .writing }, []) else none
  | .writeExit succeeds =>
      if state.cleanup = .writing then some (state.writeExit succeeds) else none
  | .readDone succeeds =>
      if state.cleanup = .reading ∧ (succeeds = true → state.toCleanup ≠ []) then
        some (state.readDone succeeds)
      else none
  | .setCleanUp =>
      if state.cleanup = .flagging then
        some ({ state with cleanup := .cancelling, cleanUp := true }, [])
      else none
  | .cancelled =>
      if state.cleanup = .cancelling then some ({ state with cleanup := .releasing }, []) else none
  | .release =>
      if state.cleanup = .releasing then some ({ state with cleanup := .released }, [.released])
      else none

end LoopState

def loopSystem : System LoopState LoopEvent LoopOutput where
  Init state := state = ⟨false, false, .outside, .outside, [], []⟩
  step := LoopState.step

/-! ## The shutdown -/

/-- A write or a read of `wifi_cleanup` has failed. -/
def HandshakeFailed (outputs : List LoopOutput) : Prop :=
  .exitWritten false ∈ outputs ∨ .doneRead false ∈ outputs

/-- When an output may come: the handle is used before it is released, and released after the
loop has read `Exit` and answered, or the handshake has failed; a loop that is left because the
socket hung up has read no `Exit` and never does. -/
def ShutdownDue (before : List LoopOutput) : LoopOutput → Prop
  | .used => .released ∈ before → HandshakeFailed before
  | .released => (.exitRead ∈ before ∧ .answered true ∈ before) ∨ HandshakeFailed before
  | .hungUp => .exitRead ∉ before
  | .exitRead => .hungUp ∉ before ∧ .exitRead ∉ before ∧ .exitWritten true ∈ before
  | .answered _ => .exitRead ∈ before
  | .doneRead succeeded => succeeded = true → .answered true ∈ before
  | .exitWritten _ => .released ∉ before

theorem handshakeFailed_snoc {outputs : List LoopOutput} {output : LoopOutput} :
    HandshakeFailed (outputs ++ [output]) ↔
      HandshakeFailed outputs ∨ output = .exitWritten false ∨ output = .doneRead false := by
  simp only [HandshakeFailed, List.mem_append, List.mem_singleton, eq_comm (b := output)]
  tauto

/-- What the loop has done at each of its places. -/
def LoopHasDone (outputs : List LoopOutput) (inEventLoop : Bool) : LoopPlace → Prop
  | .outside => inEventLoop = false ∧ .exitRead ∉ outputs ∧ .hungUp ∉ outputs
  | .polling | .handling | .reading | .testing =>
      inEventLoop = true ∧ .exitRead ∉ outputs ∧ .hungUp ∉ outputs
  | .answering => inEventLoop = true ∧ .exitRead ∈ outputs ∧ .hungUp ∉ outputs
  | .left => inEventLoop = true ∧ (.exitRead ∈ outputs → .hungUp ∉ outputs)

/-- What has been written and read at each place of the cleanup. -/
def CleanupHasDone (outputs : List LoopOutput) (toLoop : List Char) : CleanupPlace → Prop
  | .outside | .writing =>
      toLoop = [] ∧ .exitRead ∉ outputs ∧ .released ∉ outputs
  | .reading => .released ∉ outputs
  | .flagging | .cancelling | .releasing =>
      .released ∉ outputs ∧ (.answered true ∈ outputs ∨ HandshakeFailed outputs)
  | .released => .answered true ∈ outputs ∨ HandshakeFailed outputs

/-- What holds in every run of the loop and the cleanup. -/
structure ShutdownSound (outputs : List LoopOutput) (state : LoopState) : Prop where
  justified : Justified ShutdownDue outputs
  loop : LoopHasDone outputs state.inEventLoop state.loop
  cleanup : CleanupHasDone outputs state.toLoop state.cleanup
  /-- `Exit` is written once, and waits until it is read. -/
  waiting : state.toLoop = [] ∨
    state.toLoop = exitMessage ∧ .exitRead ∉ outputs ∧ .exitWritten true ∈ outputs
  reply : state.toCleanup ≠ [] → .answered true ∈ outputs
  answered : .answered true ∈ outputs → state.loop = .left ∧ .exitRead ∈ outputs

section Shutdown

variable {outputs out : List LoopOutput} {state after : LoopState}

namespace ShutdownSound

theorem not_released (sound : ShutdownSound outputs state) (early : state.cleanup ≠ .released) :
    .released ∉ outputs := by
  have place := sound.cleanup
  cases atPlace : state.cleanup with
  | outside | writing =>
      rw [atPlace] at place
      exact place.2.2
  | reading =>
      rw [atPlace] at place
      exact place
  | flagging | cancelling | releasing =>
      rw [atPlace] at place
      exact place.1
  | released => exact absurd atPlace early

/-- A handle that is released under the loop has not been handed over. -/
theorem failed_of_released (sound : ShutdownSound outputs state) (inLoop : state.loop ≠ .left)
    (released : .released ∈ outputs) : HandshakeFailed outputs := by
  have place := sound.cleanup
  have atPlace : state.cleanup = .released := by
    by_contra early
    exact sound.not_released early released
  rw [atPlace] at place
  rcases place with answered | failed
  · exact absurd (sound.answered answered).1 inLoop
  · exact failed

/-- The cleanup goes from one of its later places to the next one. -/
theorem moveCleanup (sound : ShutdownSound outputs state) {place : CleanupPlace}
    (cleanUp : Bool) (due : CleanupHasDone outputs state.toLoop place) :
    ShutdownSound (outputs ++ []) { state with cleanup := place, cleanUp := cleanUp } := by
  rw [List.append_nil]
  constructor
  · exact sound.justified
  · exact sound.loop
  · exact due
  · exact sound.waiting
  · exact sound.reply
  · exact sound.answered

/-- The loop goes on without a word to the cleanup. -/
theorem moveLoop (sound : ShutdownSound outputs state) (place : LoopPlace)
    (inLoop : state.loop ≠ .left) (due : LoopHasDone outputs state.inEventLoop place) :
    ShutdownSound (outputs ++ []) { state with loop := place } := by
  rw [List.append_nil]
  constructor
  · exact sound.justified
  · exact due
  · exact sound.cleanup
  · exact sound.waiting
  · exact sound.reply
  · intro answered
    exact absurd (sound.answered answered).1 inLoop

/-- The loop uses the handle. -/
theorem use (sound : ShutdownSound outputs state) (present : state.loop ≠ .left ∨
    .released ∉ outputs) : ShutdownSound (outputs ++ [.used]) state := by
  constructor
  · rw [justified_snoc_iff]
    refine ⟨sound.justified, fun released => ?_⟩
    rcases present with inLoop | unreleased
    · exact sound.failed_of_released inLoop released
    · exact absurd released unreleased
  · have loop := sound.loop
    cases atLoop : state.loop <;> rw [atLoop] at loop <;>
      simpa [LoopHasDone] using loop
  · have cleanup := sound.cleanup
    cases atCleanup : state.cleanup <;> rw [atCleanup] at cleanup <;>
      simpa [CleanupHasDone, handshakeFailed_snoc] using cleanup
  · simpa using sound.waiting
  · simpa using sound.reply
  · simpa using sound.answered

theorem eventLoop (sound : ShutdownSound outputs state) (unreleased : state.cleanup ≠ .released) :
    ShutdownSound (outputs ++ state.eventLoop.2) state.eventLoop.1 := by
  have used := sound.use (.inr (sound.not_released unreleased))
  rw [LoopState.eventLoop]
  split
  case isTrue => exact used
  case isFalse out =>
    have loop := used.loop
    have outside : state.loop = .outside := by
      cases atLoop : state.loop with
      | outside => rfl
      | polling | handling | reading | testing | answering | left =>
          rw [atLoop] at loop
          exact absurd loop.1 out
    rw [outside] at loop
    constructor
    · exact used.justified
    · exact ⟨rfl, loop.2⟩
    · exact used.cleanup
    · exact used.waiting
    · exact used.reply
    · intro answered
      have left := (used.answered answered).1
      rw [outside] at left
      cases left

/-- A loop at its `poll` has read no `Exit`. -/
theorem poll (sound : ShutdownSound outputs state) (atPoll : state.loop = .polling)
    (result : PollResult) :
    ShutdownSound (outputs ++ (state.poll result).2) (state.poll result).1 := by
  have loop := sound.loop
  have inLoop : state.loop ≠ .left := atPoll ▸ nofun
  rw [atPoll] at loop
  cases result with
  | failed | eventError | other | cleanupIn => exact sound.moveLoop _ inLoop loop
  | eventIn =>
      have used := sound.use (.inl inLoop)
      have moved := used.moveLoop .handling inLoop
      rw [List.append_nil] at moved
      apply moved
      have after := used.loop
      rwa [atPoll] at after
  | eventHangUp =>
      obtain ⟨entered, unread, -⟩ := loop
      constructor
      · rw [LoopState.poll, justified_snoc_iff]
        exact ⟨sound.justified, unread⟩
      · refine ⟨entered, fun read => ?_⟩
        have earlier : LoopOutput.exitRead ∈ outputs := by simpa [LoopState.poll] using read
        exact absurd earlier unread
      · have cleanup := sound.cleanup
        cases atCleanup : state.cleanup <;> rw [atCleanup] at cleanup <;>
          simpa [LoopState.poll, atCleanup, CleanupHasDone, handshakeFailed_snoc] using cleanup
      · simpa [LoopState.poll] using sound.waiting
      · simpa [LoopState.poll] using sound.reply
      · intro answered
        have earlier : LoopOutput.answered true ∈ outputs := by
          simpa [LoopState.poll] using answered
        exact absurd (sound.answered earlier).1 inLoop

/-- The loop tests `clean_up`; it is left without a word when the flag is set. -/
theorem test (sound : ShutdownSound outputs state) (atTest : state.loop = .testing) :
    ShutdownSound (outputs ++ state.test.2) state.test.1 := by
  have inLoop : state.loop ≠ .left := atTest ▸ nofun
  have used := sound.use (.inl inLoop)
  have loop := used.loop
  rw [atTest] at loop
  have moved := used.moveLoop (if state.cleanUp then .left else .polling) inLoop
  rw [List.append_nil] at moved
  apply moved
  split
  · exact ⟨loop.1, fun _ => loop.2.2⟩
  · exact loop

/-- What is read from the cleanup socket is `Exit`, or nothing. -/
theorem readExit (sound : ShutdownSound outputs state) (atRead : state.loop = .reading)
    (succeeds : Bool) :
    ShutdownSound (outputs ++ (state.readExit succeeds).2) (state.readExit succeeds).1 := by
  have loop := sound.loop
  have inLoop : state.loop ≠ .left := atRead ▸ nofun
  rw [atRead] at loop
  cases succeeds with
  | false => exact sound.moveLoop _ inLoop loop
  | true =>
      rcases sound.waiting with empty | ⟨full, unread, written⟩
      · have moved := sound.moveLoop .testing inLoop loop
        simpa [LoopState.readExit, empty, startsWith, exitMessage] using moved
      · have answering : state.readExit true =
            ({ state with loop := .answering, toLoop := [] }, [.exitRead]) := by
          simp [LoopState.readExit, full, startsWith, exitMessage]
        rw [answering]
        constructor
        · rw [justified_snoc_iff]
          exact ⟨sound.justified, loop.2.2, unread, written⟩
        · exact ⟨loop.1, by simp, by simpa using loop.2.2⟩
        · have cleanup := sound.cleanup
          cases atCleanup : state.cleanup with
          | outside | writing =>
              rw [atCleanup] at cleanup
              rw [cleanup.1] at full
              cases full
          | reading | flagging | cancelling | releasing | released =>
              rw [atCleanup] at cleanup
              simpa [CleanupHasDone, atCleanup, handshakeFailed_snoc] using cleanup
        · exact .inl rfl
        · simpa using sound.reply
        · intro answered
          have earlier : LoopOutput.answered true ∈ outputs := by simpa using answered
          exact absurd (sound.answered earlier).1 inLoop

theorem answer (sound : ShutdownSound outputs state) (atAnswer : state.loop = .answering)
    (succeeds : Bool) :
    ShutdownSound (outputs ++ (state.answer succeeds).2) (state.answer succeeds).1 := by
  have loop := sound.loop
  rw [atAnswer] at loop
  obtain ⟨entered, read, alive⟩ := loop
  constructor
  · rw [LoopState.answer, justified_snoc_iff]
    exact ⟨sound.justified, read⟩
  · refine ⟨entered, fun _ => ?_⟩
    simpa [LoopState.answer] using alive
  · have cleanup := sound.cleanup
    change CleanupHasDone (outputs ++ [.answered succeeds]) state.toLoop state.cleanup
    cases atCleanup : state.cleanup with
    | outside | writing =>
        rw [atCleanup] at cleanup
        exact absurd read cleanup.2.1
    | reading =>
        rw [atCleanup] at cleanup
        simpa [CleanupHasDone] using cleanup
    | flagging | cancelling | releasing =>
        rw [atCleanup] at cleanup
        refine ⟨by simpa using cleanup.1, ?_⟩
        rcases cleanup.2 with answered | failed
        · exact .inl (List.mem_append_left _ answered)
        · exact .inr (handshakeFailed_snoc.mpr (.inl failed))
    | released =>
        rw [atCleanup] at cleanup
        rcases cleanup with answered | failed
        · exact .inl (List.mem_append_left _ answered)
        · exact .inr (handshakeFailed_snoc.mpr (.inl failed))
  · rcases sound.waiting with empty | ⟨-, unread, -⟩
    · exact .inl empty
    · exact absurd read unread
  · cases succeeds with
    | false =>
        intro something
        exact List.mem_append_left _ (sound.reply something)
    | true => exact fun _ => List.mem_append_right _ (List.mem_singleton_self _)
  · exact fun _ => ⟨rfl, List.mem_append_left _ read⟩

theorem writeExit (sound : ShutdownSound outputs state) (atWrite : state.cleanup = .writing)
    (succeeds : Bool) :
    ShutdownSound (outputs ++ (state.writeExit succeeds).2) (state.writeExit succeeds).1 := by
  have cleanup := sound.cleanup
  rw [atWrite] at cleanup
  obtain ⟨empty, unread, unreleased⟩ := cleanup
  have loop : LoopHasDone (outputs ++ [.exitWritten succeeds]) state.inEventLoop state.loop := by
    have loop := sound.loop
    cases atLoop : state.loop <;> rw [atLoop] at loop <;> simpa [LoopHasDone] using loop
  have answered : .answered true ∈ outputs ++ [LoopOutput.exitWritten succeeds] →
      state.loop = .left ∧ .exitRead ∈ outputs ++ [LoopOutput.exitWritten succeeds] := by
    simpa using sound.answered
  have justified : Justified ShutdownDue (outputs ++ [.exitWritten succeeds]) := by
    rw [justified_snoc_iff]
    exact ⟨sound.justified, unreleased⟩
  cases succeeds with
  | false =>
      constructor
      · exact justified
      · exact loop
      · refine ⟨by simpa [LoopState.writeExit] using unreleased, .inr ?_⟩
        exact handshakeFailed_snoc.mpr (.inr (.inl rfl))
      · exact .inl empty
      · simpa [LoopState.writeExit] using sound.reply
      · exact answered
  | true =>
      constructor
      · exact justified
      · exact loop
      · simpa [LoopState.writeExit, CleanupHasDone] using unreleased
      · refine .inr
          ⟨?_, by simpa [LoopState.writeExit] using unread, by simp [LoopState.writeExit]⟩
        rw [LoopState.writeExit, if_pos rfl, empty, List.nil_append]
      · simpa [LoopState.writeExit] using sound.reply
      · exact answered

theorem readDone (sound : ShutdownSound outputs state) (atRead : state.cleanup = .reading)
    {succeeds : Bool} (readable : succeeds = true → state.toCleanup ≠ []) :
    ShutdownSound (outputs ++ (state.readDone succeeds).2) (state.readDone succeeds).1 := by
  have unreleased := sound.cleanup
  rw [atRead] at unreleased
  have answered : succeeds = true → .answered true ∈ outputs :=
    fun succeeded => sound.reply (readable succeeded)
  constructor
  · rw [LoopState.readDone, justified_snoc_iff]
    exact ⟨sound.justified, answered⟩
  · have loop := sound.loop
    cases atLoop : state.loop <;> rw [atLoop] at loop <;>
      simpa [LoopState.readDone, atLoop, LoopHasDone] using loop
  · refine ⟨by simpa [CleanupHasDone, LoopState.readDone] using unreleased, ?_⟩
    cases succeeds with
    | false => exact .inr (handshakeFailed_snoc.mpr (.inr (.inr rfl)))
    | true => exact .inl (List.mem_append_left _ (answered rfl))
  · simpa [LoopState.readDone] using sound.waiting
  · cases succeeds with
    | false => simpa [LoopState.readDone] using sound.reply
    | true => exact fun something => absurd rfl something
  · simpa [LoopState.readDone] using sound.answered

theorem release (sound : ShutdownSound outputs state) (atRelease : state.cleanup = .releasing) :
    ShutdownSound (outputs ++ [.released]) { state with cleanup := .released } := by
  have cleanup := sound.cleanup
  rw [atRelease] at cleanup
  constructor
  · rw [justified_snoc_iff]
    refine ⟨sound.justified, ?_⟩
    rcases cleanup.2 with answered | failed
    · exact .inl ⟨(sound.answered answered).2, answered⟩
    · exact .inr failed
  · have loop := sound.loop
    cases atLoop : state.loop <;> rw [atLoop] at loop <;> simpa [LoopHasDone] using loop
  · rcases cleanup.2 with answered | failed
    · exact .inl (List.mem_append_left _ answered)
    · exact .inr (handshakeFailed_snoc.mpr (.inl failed))
  · simpa using sound.waiting
  · simpa using sound.reply
  · simpa using sound.answered

theorem step {event : LoopEvent} (sound : ShutdownSound outputs state)
    (stepped : loopSystem.step state event = some (after, out)) :
    ShutdownSound (outputs ++ out) after := by
  cases event <;> simp only [loopSystem, LoopState.step, Option.ite_none_right_eq_some,
    Option.ite_none_left_eq_some, Option.some.injEq, Prod.ext_iff] at stepped
  case eventLoop =>
    obtain ⟨unreleased, rfl, rfl⟩ := stepped
    exact sound.eventLoop unreleased
  case poll result =>
    obtain ⟨⟨atPoll, -⟩, rfl, rfl⟩ := stepped
    exact sound.poll atPoll result
  case handled =>
    obtain ⟨atHandling, rfl, rfl⟩ := stepped
    have loop := sound.loop
    rw [atHandling] at loop
    exact sound.moveLoop _ (atHandling ▸ nofun) loop
  case readExit succeeds =>
    obtain ⟨atRead, rfl, rfl⟩ := stepped
    exact sound.readExit atRead succeeds
  case answer succeeds =>
    obtain ⟨atAnswer, rfl, rfl⟩ := stepped
    exact sound.answer atAnswer succeeds
  case test =>
    obtain ⟨atTest, rfl, rfl⟩ := stepped
    exact sound.test atTest
  case cleanup =>
    obtain ⟨isOutside, rfl, rfl⟩ := stepped
    have cleanup := sound.cleanup
    rw [isOutside] at cleanup
    exact sound.moveCleanup state.cleanUp cleanup
  case writeExit succeeds =>
    obtain ⟨atWrite, rfl, rfl⟩ := stepped
    exact sound.writeExit atWrite succeeds
  case readDone succeeds =>
    obtain ⟨⟨atRead, readable⟩, rfl, rfl⟩ := stepped
    exact sound.readDone atRead readable
  case setCleanUp =>
    obtain ⟨atFlag, rfl, rfl⟩ := stepped
    have cleanup := sound.cleanup
    rw [atFlag] at cleanup
    exact sound.moveCleanup true cleanup
  case cancelled =>
    obtain ⟨atCancel, rfl, rfl⟩ := stepped
    have cleanup := sound.cleanup
    rw [atCancel] at cleanup
    exact sound.moveCleanup state.cleanUp cleanup
  case release =>
    obtain ⟨atRelease, rfl, rfl⟩ := stepped
    exact sound.release atRelease

theorem run {history : History LoopEvent LoopOutput} {state : LoopState}
    (running : loopSystem.Run System.free history state) :
    ShutdownSound history.outputs state := by
  induction running with
  | start starts =>
      cases starts
      exact ⟨justified_nil, ⟨rfl, nofun, nofun⟩, ⟨rfl, nofun, nofun⟩, .inl rfl, nofun, nofun⟩
  | next earlier _ stepped ih =>
      rw [History.outputs_snoc]
      exact ih.step stepped

end ShutdownSound

end Shutdown

/-- In every interleaving of the loop and the cleanup the handle is released only after the loop
has read `Exit`, answered and left, or after a failed write or read of the handshake; and after a
hang-up has ended the loop, it is released only when the handshake fails. -/
theorem shutdown_due {history : History LoopEvent LoopOutput} {state : LoopState}
    (running : loopSystem.Run System.free history state) :
    Justified ShutdownDue history.outputs ∧
    (.hungUp ∈ history.outputs → .released ∈ history.outputs →
      HandshakeFailed history.outputs) ∧
    (.released ∈ history.outputs → state.loop = .left ∨ HandshakeFailed history.outputs) := by
  have sound := ShutdownSound.run running
  have released : .released ∈ history.outputs →
      .answered true ∈ history.outputs ∨ HandshakeFailed history.outputs := by
    intro released
    have place := sound.cleanup
    have atPlace : state.cleanup = .released := by
      by_contra early
      exact sound.not_released early released
    rwa [atPlace] at place
  refine ⟨sound.justified, fun hungUp isReleased => ?_, fun isReleased => ?_⟩
  · rcases released isReleased with answered | failed
    · obtain ⟨left, read⟩ := sound.answered answered
      have loop := sound.loop
      rw [left] at loop
      exact absurd hungUp (loop.2 read)
    · exact failed
  · rcases released isReleased with answered | failed
    · exact .inl (sound.answered answered).1
    · exact .inr failed

/-- A shutdown with an event before it, and one that a hang-up has come before. -/
theorem shutdown_due_again :
    (∃ history state, loopSystem.Run System.free history state ∧
      (Justified ShutdownDue history.outputs ∧
        (.hungUp ∈ history.outputs → .released ∈ history.outputs →
          HandshakeFailed history.outputs) ∧
        (.released ∈ history.outputs → state.loop = .left ∨ HandshakeFailed history.outputs)) ∧
      history.outputs.getLast? = some .released ∧
      history.events = [.eventLoop, .poll .eventIn, .handled, .test, .cleanup, .writeExit true,
        .poll .cleanupIn, .readExit true, .answer true, .readDone true, .setCleanUp, .cancelled,
        .release]) ∧
    ∃ history state, loopSystem.Run System.free history state ∧
      (Justified ShutdownDue history.outputs ∧
        (.hungUp ∈ history.outputs → .released ∈ history.outputs →
          HandshakeFailed history.outputs) ∧
        (.released ∈ history.outputs → state.loop = .left ∨ HandshakeFailed history.outputs)) ∧
      (state.loop, state.cleanup) = (.left, .reading) ∧
      history.events =
        [.eventLoop, .poll .eventHangUp, .cleanup, .writeExit true, .eventLoop] := by
  constructor
  · exact System.exists_run_with (fun final => final.1.outputs.getLast?)
      (fun _ _ running => shutdown_due running) rfl (by decide +kernel) (by decide +kernel)
  · obtain ⟨history, state, running, seen⟩ := System.exists_run_of_exec loopSystem System.free
      ([.eventLoop, .poll .eventHangUp, .cleanup, .writeExit true, .eventLoop] : List LoopEvent)
      (fun final => ((final.2.loop, final.2.cleanup), final.1.events)) rfl (by decide +kernel)
      (show _ = some ((LoopPlace.left, CleanupPlace.reading), _) by rfl)
    obtain ⟨places, events⟩ := Prod.mk.inj seen
    exact ⟨history, state, running, shutdown_due running, places, events⟩

end X3Hal.Wifi
