import X3Hal.Ril.EarlyCache
import X3Hal.Transition.Core
import X3Hal.Transition.Justified
import Mathlib.Data.List.Nodup
import Mathlib.Data.List.Perm.Basic
import Mathlib.Logic.Function.Basic
import Mathlib.Tactic.Common

/-!
# NITZ times that find no client

A NITZ time that comes for a slot without a client is copied to the one saved buffer, and the
end of `onNewCommandConnect` sends what is saved to the client that connects.  The library is
built without `RIL_UNSOL_PENDING`.

An indication is one step for its response function and one for the copy; a
`setResponseFunctions` is one step for its locked section, one for the resend and one for the
release of the saved buffer.  One binder thread serves the clients of all slots.
-/

namespace X3Hal.Ril

open X3Hal.Transition

/-- The bytes before the first NUL. -/
def cString (bytes : List UInt8) : List UInt8 :=
  bytes.takeWhile fun byte => byte ≠ 0

/-- A NITZ time: the number of its indication, its slot, its text and its elapsed-realtime. -/
structure NitzTime where
  number : Nat
  slot : Nat
  text : List UInt8
  timeReceived : Nat
  deriving DecidableEq

/-- The bytes of a copy, and the NITZ time that they were copied from. -/
structure NitzData where
  nitz : NitzTime
  data : List UInt8
  deriving DecidableEq

/-- Where the binder thread is in a `setResponseFunctions`. -/
inductive Connecting
  | idle
  /-- The objects are set. -/
  | connected (slot : Nat)
  /-- The saved time is sent; the buffer is not yet released. -/
  | resent
  deriving DecidableEq

structure NitzState where
  /-- `s_registerCalled` -/
  registered : Bool
  /-- `mRadioIndication` -/
  client : Nat → ClientState
  /-- `elapsedRealtime()` -/
  clock : Nat
  /-- `s_lastNITZTimeData` -/
  last : Option NitzData
  /-- the indications that found no object and have still to make their copy -/
  missing : List NitzData
  connecting : Connecting
  /-- the number of indications so far -/
  received : Nat

inductive NitzEvent
  | register
  | elapses (milliseconds : Nat)
  | dies (slot : Nat)
  /-- Another callback resets the objects of a dead client. -/
  | checkReturnStatus (slot : Nat)
  /-- with the bytes at `data` -/
  | nitzTimeReceived (slot : Nat) (memory : List UInt8) (datalen : Nat)
  | save (missing : NitzData) (allocated : Bool)
  | setResponseFunctions (slot : Nat)
  /-- with the bytes behind the saved buffer -/
  | resend (beyond : List UInt8)
  | release
  deriving DecidableEq

inductive NitzOutput
  | received (nitz : NitzTime)
  /-- It was not delivered when it was received. -/
  | missed (nitz : NitzTime)
  /-- The client of the slot was called with the text and the time. -/
  | delivered (nitz : NitzTime)
  /-- `onNewCommandConnect` has come to its end with a client. -/
  | connected (slot : Nat)
  deriving DecidableEq

namespace NitzState

def setClient (slot : Nat) (client : ClientState) (state : NitzState) : NitzState :=
  { state with client := Function.update state.client slot client }

/-- `nitzTimeReceivedInd`, with whether it returns 0 -/
def nitzTimeReceivedInd (nitz : NitzTime) (responseLen : Nat) (state : NitzState) :
    Bool × NitzState × List NitzOutput :=
  match state.client nitz.slot with
  | .null => (false, state, [])
  | .alive =>
      if responseLen = 0 then (true, state, [])
      else (true, state, [.delivered { nitz with timeReceived := state.clock }])
  | .dead =>
      if responseLen = 0 then (true, state, [])
      -- `checkReturnStatus` resets the objects; the call counts as made
      else (true, state.setClient nitz.slot .null, [])

/-- `RIL_onUnsolicitedResponse` up to the copy -/
def onNitzTimeReceived (slot : Nat) (memory : List UInt8) (datalen : Nat) (state : NitzState) :
    NitzState × List NitzOutput :=
  let nitz : NitzTime := ⟨state.received, slot, cString memory, state.clock⟩
  let counted := { state with received := state.received + 1 }
  if state.registered = false then (counted, [.received nitz, .missed nitz])
  else
    match state.nitzTimeReceivedInd nitz datalen with
    | (false, _, _) =>
        ({ counted with missing := state.missing ++ [⟨nitz, memory.take datalen⟩] },
          [.received nitz, .missed nitz])
    | (true, after, out) =>
        ({ after with received := state.received + 1 },
          .received nitz :: if out = [] ∧ datalen ≠ 0 then [.missed nitz] else out)

/-- The end of `onNewCommandConnect`. -/
def resendLastNitzTimeData (slot : Nat) (beyond : List UInt8) (state : NitzState) :
    NitzState × List NitzOutput :=
  let ended := if state.client slot = .alive then [.connected slot] else []
  match state.last with
  | none => ({ state with connecting := .idle }, ended)
  | some last =>
      let nitz : NitzTime :=
        { last.nitz with slot := slot, text := cString (last.data ++ beyond) }
      match state.nitzTimeReceivedInd nitz last.data.length with
      | (false, after, _) => ({ after with connecting := .idle }, [])
      | (true, after, out) => ({ after with connecting := .resent }, out ++ ended)

def step (state : NitzState) : NitzEvent → Option (NitzState × List NitzOutput)
  | .register => some ({ state with registered := true }, [])
  | .elapses milliseconds => some ({ state with clock := state.clock + milliseconds }, [])
  | .dies slot =>
      if state.client slot = .alive then some (state.setClient slot .dead, []) else none
  | .checkReturnStatus slot =>
      if state.client slot = .dead then some (state.setClient slot .null, []) else none
  | .nitzTimeReceived slot memory datalen =>
      -- The text ends and the length is that of readable memory.
      if 0 ∈ memory ∧ datalen ≤ memory.length then
        some (state.onNitzTimeReceived slot memory datalen)
      else none
  | .save missing allocated =>
      if missing ∈ state.missing then
        some ({ state with
          last := if allocated then some missing else none
          missing := state.missing.erase missing }, [])
      else none
  | .setResponseFunctions slot =>
      if state.registered ∧ state.connecting = .idle then
        some ({ state.setClient slot .alive with connecting := .connected slot }, [])
      else none
  | .resend beyond =>
      match state.connecting with
      | .connected slot => some (state.resendLastNitzTimeData slot beyond)
      | .idle | .resent => none
  | .release =>
      match state.connecting with
      | .resent => some ({ state with last := none, connecting := .idle }, [])
      | .idle | .connected _ => none

end NitzState

def nitzInit : NitzState :=
  ⟨false, fun _ => .null, 0, none, [], .idle, 0⟩

def nitzSystem : System NitzState NitzEvent NitzOutput where
  Init := fun state => state = nitzInit
  step := NitzState.step

/-! ## What the clients are owed -/

/-- The numbers of the indications that were delivered. -/
def deliveries (outputs : List NitzOutput) : List Nat :=
  outputs.filterMap fun output =>
    match output with
    | .delivered nitz => some nitz.number
    | .received _ | .missed _ | .connected _ => none

/-- The last NITZ time of a slot that was not delivered when it was received. -/
def lastMissed (slot : Nat) (outputs : List NitzOutput) : Option NitzTime :=
  (outputs.filterMap fun output =>
    match output with
    | .missed nitz => if nitz.slot = slot then some nitz else none
    | .received _ | .delivered _ | .connected _ => none).getLast?

/-- What is delivered was received for the slot, with this text at this time, and is new; and a
client that is connected has what its slot missed last. -/
def NitzDue (before : List NitzOutput) : NitzOutput → Prop
  | .delivered nitz => .received nitz ∈ before ∧ nitz.number ∉ deliveries before
  | .connected slot => ∀ nitz ∈ lastMissed slot before, nitz.number ∈ deliveries before
  | .received _ | .missed _ => True

/-- A resend to a client finds it alive, the copies of its slot made, and in the buffer only a
time of the slot that has just been received. -/
def ResendsInTime (state : NitzState) : Connecting → Prop
  | .connected slot => state.client slot ≠ .null →
      (∀ missing ∈ state.missing, missing.nitz.slot ≠ slot) ∧
        ∀ last ∈ state.last, state.client slot = .alive ∧ last.nitz.slot = slot ∧
          last.nitz.timeReceived = state.clock
  | .idle | .resent => True

/-- The copy is made, and overwrites an older time of its slot or nothing. -/
def SavesOwn (missing : NitzData) (allocated : Bool) (state : NitzState) : Prop :=
  allocated = true ∧ state.connecting ≠ .resent ∧ ∀ last ∈ state.last,
    last.nitz.slot = missing.nitz.slot ∧ last.nitz.number < missing.nitz.number

/-- The indication does not meet a dead client; and where it meets none, its length is beyond
the end of its text. -/
def MeetsClient (slot : Nat) (memory : List UInt8) (datalen : Nat) (state : NitzState) : Prop :=
  state.registered = true ∧ state.client slot ≠ .dead ∧
    (state.client slot = .null → (cString memory).length < datalen)

/-- Each missed time is saved, alone in the buffer, and resent at once. -/
def NitzInTime : System.Guard NitzState NitzEvent NitzOutput
  | _, state, .nitzTimeReceived slot memory datalen => MeetsClient slot memory datalen state
  | _, state, .save missing allocated => SavesOwn missing allocated state
  | _, state, .resend _ => ResendsInTime state state.connecting
  | _, _, .register | _, _, .elapses _ | _, _, .dies _ | _, _, .checkReturnStatus _
  | _, _, .setResponseFunctions _ | _, _, .release => True

instance (before : List NitzOutput) (output : NitzOutput) : Decidable (NitzDue before output) :=
  match output with
  | .delivered _ => inferInstanceAs (Decidable (_ ∧ _))
  | .connected slot => inferInstanceAs (Decidable (∀ nitz ∈ lastMissed slot before, _))
  | .received _ | .missed _ => inferInstanceAs (Decidable True)

instance (state : NitzState) (place : Connecting) : Decidable (ResendsInTime state place) :=
  match place with
  | .connected _ => inferInstanceAs (Decidable (_ → _ ∧ ∀ last ∈ state.last, _))
  | .idle | .resent => inferInstanceAs (Decidable True)

instance (missing : NitzData) (allocated : Bool) (state : NitzState) :
    Decidable (SavesOwn missing allocated state) :=
  inferInstanceAs (Decidable (_ ∧ _ ∧ ∀ last ∈ state.last, _))

instance (slot : Nat) (memory : List UInt8) (datalen : Nat) (state : NitzState) :
    Decidable (MeetsClient slot memory datalen state) :=
  inferInstanceAs (Decidable (_ ∧ _ ∧ (_ → _)))

instance (history : History NitzEvent NitzOutput) (state : NitzState) (event : NitzEvent) :
    Decidable (NitzInTime history state event) :=
  match event with
  | .nitzTimeReceived _ _ _ => inferInstanceAs (Decidable (MeetsClient _ _ _ _))
  | .save _ _ => inferInstanceAs (Decidable (SavesOwn _ _ _))
  | .resend _ => inferInstanceAs (Decidable (ResendsInTime _ _))
  | .register | .elapses _ | .dies _ | .checkReturnStatus _ | .setResponseFunctions _
  | .release => inferInstanceAs (Decidable True)

/-! ## The invariant -/

/-- The copies that are there, the saved one first. -/
def NitzState.waiting (state : NitzState) : List NitzData :=
  state.last.toList ++ state.missing

/-- What a slot missed last is delivered or waits as it was received; the saved time is
delivered only between its resend and its release. -/
structure NitzSound (outputs : List NitzOutput) (state : NitzState) : Prop where
  due : Justified NitzDue outputs
  numbered : ∀ nitz, .received nitz ∈ outputs → nitz.number < state.received
  missed : ∀ nitz, .missed nitz ∈ outputs → .received nitz ∈ outputs ∧
    ∀ last ∈ lastMissed nitz.slot outputs, nitz.number ≤ last.number
  kept : ∀ slot, ∀ nitz ∈ lastMissed slot outputs,
    nitz.number ∈ deliveries outputs ∨ ∃ copied ∈ state.waiting, copied.nitz = nitz
  copied : ∀ copied ∈ state.waiting, .missed copied.nitz ∈ outputs ∧ copied.data ≠ [] ∧
    ∀ beyond, cString (copied.data ++ beyond) = copied.nitz.text
  distinct : (state.waiting.map fun copied => copied.nitz.number).Nodup
  undelivered : ∀ missing ∈ state.missing, missing.nitz.number ∉ deliveries outputs
  resent : ∀ last ∈ state.last,
    last.nitz.number ∈ deliveries outputs ↔ state.connecting = .resent

section Outputs

variable (slot : Nat) (nitz : NitzTime) (outputs : List NitzOutput)

@[simp]
theorem deliveries_received : deliveries (outputs ++ [.received nitz]) = deliveries outputs := by
  simp [deliveries]

@[simp]
theorem deliveries_missed : deliveries (outputs ++ [.missed nitz]) = deliveries outputs := by
  simp [deliveries]

@[simp]
theorem deliveries_delivered :
    deliveries (outputs ++ [.delivered nitz]) = deliveries outputs ++ [nitz.number] := by
  simp [deliveries]

@[simp]
theorem deliveries_connected :
    deliveries (outputs ++ [.connected slot]) = deliveries outputs := by
  simp [deliveries]

@[simp]
theorem lastMissed_received :
    lastMissed slot (outputs ++ [.received nitz]) = lastMissed slot outputs := by
  simp [lastMissed]

@[simp]
theorem lastMissed_delivered :
    lastMissed slot (outputs ++ [.delivered nitz]) = lastMissed slot outputs := by
  simp [lastMissed]

@[simp]
theorem lastMissed_connected (other : Nat) :
    lastMissed slot (outputs ++ [.connected other]) = lastMissed slot outputs := by
  simp [lastMissed]

theorem lastMissed_missed :
    lastMissed slot (outputs ++ [.missed nitz]) =
      if nitz.slot = slot then some nitz else lastMissed slot outputs := by
  by_cases same : nitz.slot = slot <;> simp [lastMissed, same]

theorem mem_deliveries_iff {number : Nat} :
    number ∈ deliveries outputs ↔ ∃ nitz, .delivered nitz ∈ outputs ∧ nitz.number = number := by
  rw [deliveries, List.mem_filterMap]
  constructor
  · rintro ⟨output, occurs, some⟩
    cases output with
    | delivered nitz => exact ⟨nitz, occurs, Option.some.inj some⟩
    | received _ => cases some
    | missed _ => cases some
    | connected _ => cases some
  · rintro ⟨nitz, occurs, rfl⟩
    exact ⟨_, occurs, rfl⟩

theorem missed_of_lastMissed {slot : Nat} {nitz : NitzTime}
    (last : nitz ∈ lastMissed slot outputs) : .missed nitz ∈ outputs ∧ nitz.slot = slot := by
  have occurs := List.mem_of_getLast? last
  obtain ⟨output, within, some⟩ := List.mem_filterMap.mp occurs
  cases output with
  | missed other =>
      by_cases same : other.slot = slot
      · simp only [same, if_true, Option.some.injEq] at some
        exact ⟨some ▸ within, some ▸ same⟩
      · simp only [same, if_false] at some
        cases some
  | received _ => cases some
  | delivered _ => cases some
  | connected _ => cases some

end Outputs

/-- A copy that is longer than the text holds it, whatever lies behind. -/
theorem cString_take_append {memory : List UInt8} {datalen : Nat}
    (ends : 0 ∈ memory) (covers : (cString memory).length < datalen) (beyond : List UInt8) :
    cString (memory.take datalen ++ beyond) = cString memory := by
  induction memory generalizing datalen with
  | nil => cases ends
  | cons byte memory ih =>
      cases datalen with
      | zero => exact absurd covers (Nat.not_lt_zero _)
      | succ datalen =>
          by_cases terminator : byte = 0
          · simp [cString, terminator]
          · have later : 0 ∈ memory := by
              rcases List.mem_cons.mp ends with same | later
              · exact absurd same.symm terminator
              · exact later
            have rest : cString (byte :: memory) = byte :: cString memory := by
              simp [cString, terminator]
            rw [rest, List.length_cons, Nat.succ_lt_succ_iff] at covers
            rw [rest, List.take_succ_cons, List.cons_append, ← ih later covers]
            simp [cString, terminator]

namespace NitzSound

variable {outputs : List NitzOutput} {state after : NitzState} {nitz : NitzTime}

/-- A step that leaves the copies alone. -/
theorem frame (sound : NitzSound outputs state) (received : after.received = state.received)
    (last : after.last = state.last) (missing : after.missing = state.missing)
    (place : after.connecting = .resent ↔ state.connecting = .resent) :
    NitzSound outputs after := by
  have waiting : after.waiting = state.waiting := by
    rw [NitzState.waiting, NitzState.waiting, last, missing]
  constructor
  · exact sound.due
  · rw [received]
    exact sound.numbered
  · exact sound.missed
  · rw [waiting]
    exact sound.kept
  · rw [waiting]
    exact sound.copied
  · rw [waiting]
    exact sound.distinct
  · rw [missing]
    exact sound.undelivered
  · rw [last]
    intro saved isLast
    exact (sound.resent saved isLast).trans place.symm

theorem number_lt_of_delivered (sound : NitzSound outputs state) {number : Nat}
    (delivered : number ∈ deliveries outputs) : number < state.received := by
  obtain ⟨nitz, occurs, rfl⟩ := (mem_deliveries_iff outputs).mp delivered
  obtain ⟨before, later, split⟩ := List.append_of_mem occurs
  have received := (sound.due before (.delivered nitz) later split).1
  apply sound.numbered nitz
  rw [split]
  exact List.mem_append_left _ received

theorem number_lt_of_waiting (sound : NitzSound outputs state) {copied : NitzData}
    (waits : copied ∈ state.waiting) : copied.nitz.number < state.received :=
  sound.numbered _ (sound.missed _ (sound.copied copied waits).1).1

/-- A NITZ time is received. -/
theorem receive (sound : NitzSound outputs state) (numbered : nitz.number = state.received) :
    NitzSound (outputs ++ [.received nitz]) { state with received := state.received + 1 } := by
  constructor
  · exact justified_snoc_iff.mpr ⟨sound.due, trivial⟩
  · intro other occurs
    rcases List.mem_append.mp occurs with earlier | new
    · exact Nat.lt_succ_of_lt (sound.numbered other earlier)
    · cases List.mem_singleton.mp new
      rw [numbered]
      exact Nat.lt_succ_self _
  · intro other occurs
    have earlier : .missed other ∈ outputs := by simpa using occurs
    rw [lastMissed_received]
    exact ⟨List.mem_append_left _ (sound.missed other earlier).1, (sound.missed other earlier).2⟩
  · intro slot other isLast
    rw [lastMissed_received] at isLast
    rw [deliveries_received]
    exact sound.kept slot other isLast
  · intro copied waits
    exact ⟨List.mem_append_left _ (sound.copied copied waits).1, (sound.copied copied waits).2⟩
  · exact sound.distinct
  · rw [deliveries_received]
    exact sound.undelivered
  · rw [deliveries_received]
    exact sound.resent

/-- A received NITZ time that no copy of an indication to come holds is delivered. -/
theorem deliver (sound : NitzSound outputs state) (received : .received nitz ∈ outputs)
    (new : nitz.number ∉ deliveries outputs)
    (apart : ∀ missing ∈ state.missing, missing.nitz.number ≠ nitz.number)
    (place : ∀ last ∈ state.last,
      (state.connecting = .resent ∨ last.nitz.number = nitz.number) ↔
        after.connecting = .resent)
    (same : after.received = state.received ∧ after.last = state.last ∧
      after.missing = state.missing) :
    NitzSound (outputs ++ [.delivered nitz]) after := by
  obtain ⟨count, last, missing⟩ := same
  have waiting : after.waiting = state.waiting := by
    rw [NitzState.waiting, NitzState.waiting, last, missing]
  constructor
  · exact justified_snoc_iff.mpr ⟨sound.due, received, new⟩
  · intro other occurs
    rw [count]
    exact sound.numbered other (by simpa using occurs)
  · intro other occurs
    have earlier : .missed other ∈ outputs := by simpa using occurs
    rw [lastMissed_delivered]
    exact ⟨List.mem_append_left _ (sound.missed other earlier).1, (sound.missed other earlier).2⟩
  · intro slot other isLast
    rw [lastMissed_delivered] at isLast
    rw [deliveries_delivered, waiting]
    exact (sound.kept slot other isLast).imp_left (List.mem_append_left _)
  · intro copied waits
    rw [waiting] at waits
    exact ⟨List.mem_append_left _ (sound.copied copied waits).1, (sound.copied copied waits).2⟩
  · rw [waiting]
    exact sound.distinct
  · intro waits isMissing
    rw [missing] at isMissing
    rw [deliveries_delivered, List.mem_append, List.mem_singleton]
    rintro (earlier | equal)
    · exact sound.undelivered waits isMissing earlier
    · exact apart waits isMissing equal
  · intro saved isLast
    rw [last] at isLast
    rw [deliveries_delivered, List.mem_append, List.mem_singleton, ← place saved isLast,
      sound.resent saved isLast]

/-- A received NITZ time is missed, and its copy waits. -/
theorem miss (sound : NitzSound outputs state) (received : .received nitz ∈ outputs)
    (newest : ∀ other, .missed other ∈ outputs → other.number ≤ nitz.number)
    (new : nitz.number ∉ deliveries outputs)
    (apart : ∀ waiting ∈ state.waiting, waiting.nitz.number ≠ nitz.number) {data : List UInt8}
    (nonempty : data ≠ []) (holds : ∀ beyond, cString (data ++ beyond) = nitz.text) :
    NitzSound (outputs ++ [.missed nitz])
      { state with missing := state.missing ++ [⟨nitz, data⟩] } := by
  have waiting : NitzState.waiting { state with missing := state.missing ++ [⟨nitz, data⟩] } =
      state.waiting ++ [⟨nitz, data⟩] := by
    simp [NitzState.waiting]
  constructor
  · exact justified_snoc_iff.mpr ⟨sound.due, trivial⟩
  · intro other occurs
    exact sound.numbered other (by simpa using occurs)
  · intro other occurs
    rw [lastMissed_missed]
    rcases List.mem_append.mp occurs with earlier | last
    · refine ⟨List.mem_append_left _ (sound.missed other earlier).1, ?_⟩
      intro last isLast
      by_cases same : nitz.slot = other.slot
      · rw [if_pos same] at isLast
        rw [← Option.some.inj isLast]
        exact newest other earlier
      · rw [if_neg same] at isLast
        exact (sound.missed other earlier).2 last isLast
    · cases List.mem_singleton.mp last
      refine ⟨List.mem_append_left _ received, ?_⟩
      intro last isLast
      rw [if_pos rfl] at isLast
      exact Nat.le_of_eq (congrArg NitzTime.number (Option.some.inj isLast))
  · intro slot other isLast
    rw [lastMissed_missed] at isLast
    rw [deliveries_missed, waiting]
    by_cases same : nitz.slot = slot
    · rw [if_pos same] at isLast
      exact Or.inr ⟨⟨nitz, data⟩, by simp, Option.some.inj isLast⟩
    · rw [if_neg same] at isLast
      rcases sound.kept slot other isLast with delivered | ⟨copied, waits, own⟩
      · exact Or.inl delivered
      · exact Or.inr ⟨copied, List.mem_append_left _ waits, own⟩
  · intro copied waits
    rw [waiting] at waits
    rcases List.mem_append.mp waits with earlier | last
    · exact ⟨List.mem_append_left _ (sound.copied copied earlier).1,
        (sound.copied copied earlier).2⟩
    · cases List.mem_singleton.mp last
      exact ⟨List.mem_append_right _ (List.mem_singleton.mpr rfl), nonempty, holds⟩
  · rw [waiting, List.map_append, List.nodup_append]
    refine ⟨sound.distinct, List.nodup_singleton _, ?_⟩
    intro number earlier other last
    obtain ⟨copied, waits, rfl⟩ := List.mem_map.mp earlier
    have own : other = nitz.number := by simpa using last
    rw [own]
    exact apart copied waits
  · intro missing isMissing
    rw [deliveries_missed]
    rcases List.mem_append.mp isMissing with earlier | last
    · exact sound.undelivered missing earlier
    · cases List.mem_singleton.mp last
      exact new
  · rw [deliveries_missed]
    exact sound.resent

theorem copied_of_missing (sound : NitzSound outputs state) {copied : NitzData}
    (isMissing : copied ∈ state.missing) :
    .missed copied.nitz ∈ outputs ∧ copied.data ≠ [] ∧
      ∀ beyond, cString (copied.data ++ beyond) = copied.nitz.text :=
  sound.copied copied (List.mem_append_right _ isMissing)

theorem missing_nodup (sound : NitzSound outputs state) :
    (state.missing.map fun copied => copied.nitz.number).Nodup :=
  sound.distinct.sublist ((List.sublist_append_right state.last.toList state.missing).map _)

/-- An indication makes its copy. -/
theorem save (sound : NitzSound outputs state) {missing : NitzData}
    (waits : missing ∈ state.missing) (own : SavesOwn missing true state) :
    NitzSound outputs { state with
      last := some missing, missing := state.missing.erase missing } := by
  obtain ⟨-, place, older⟩ := own
  have permuted : (NitzState.waiting { state with
      last := some missing, missing := state.missing.erase missing }).Perm state.missing :=
    (List.perm_cons_erase waits).symm
  constructor
  · exact sound.due
  · exact sound.numbered
  · exact sound.missed
  · intro slot nitz isLast
    rcases sound.kept slot nitz isLast with delivered | ⟨copied, copiedWaits, rfl⟩
    · exact Or.inl delivered
    · rcases List.mem_append.mp copiedWaits with isSaved | isMissing
      · -- what is overwritten is not what its slot missed last
        have saved : copied ∈ state.last := by simpa using isSaved
        obtain ⟨same, less⟩ := older copied saved
        have later := sound.missed missing.nitz (sound.copied_of_missing waits).1
        have ownSlot : copied.nitz.slot = slot := (missed_of_lastMissed outputs isLast).2
        have greatest := later.2 copied.nitz (by rw [← same, ownSlot]; exact isLast)
        omega
      · exact Or.inr ⟨copied, permuted.mem_iff.mpr isMissing, rfl⟩
  · intro copied copiedWaits
    exact sound.copied_of_missing (permuted.mem_iff.mp copiedWaits)
  · exact (permuted.map _).nodup_iff.mpr sound.missing_nodup
  · intro other isMissing
    exact sound.undelivered other (List.mem_of_mem_erase isMissing)
  · intro saved isLast
    cases isLast
    have new := sound.undelivered missing waits
    constructor
    · intro delivered
      exact absurd delivered new
    · intro resent
      exact absurd resent place

/-- The saved buffer is released after its resend. -/
theorem release (sound : NitzSound outputs state) (resent : state.connecting = .resent) :
    NitzSound outputs { state with last := none, connecting := .idle } := by
  constructor
  · exact sound.due
  · exact sound.numbered
  · exact sound.missed
  · intro slot nitz isLast
    rcases sound.kept slot nitz isLast with delivered | ⟨copied, waits, rfl⟩
    · exact Or.inl delivered
    · rcases List.mem_append.mp waits with isSaved | isMissing
      · have saved : copied ∈ state.last := by simpa using isSaved
        exact Or.inl ((sound.resent copied saved).mpr resent)
      · exact Or.inr ⟨copied, by simpa [NitzState.waiting] using isMissing, rfl⟩
  · intro copied waits
    exact sound.copied_of_missing (by simpa [NitzState.waiting] using waits)
  · exact sound.missing_nodup
  · exact sound.undelivered
  · intro saved isLast
    cases isLast

/-- A connected client has what its slot missed last. -/
theorem connect (sound : NitzSound outputs state) {slot : Nat}
    (has : ∀ nitz ∈ lastMissed slot outputs, nitz.number ∈ deliveries outputs) :
    NitzSound (outputs ++ [.connected slot]) state := by
  constructor
  · exact justified_snoc_iff.mpr ⟨sound.due, has⟩
  · intro other occurs
    exact sound.numbered other (by simpa using occurs)
  · intro other occurs
    have earlier : .missed other ∈ outputs := by simpa using occurs
    rw [lastMissed_connected]
    exact ⟨List.mem_append_left _ (sound.missed other earlier).1, (sound.missed other earlier).2⟩
  · intro other nitz isLast
    rw [lastMissed_connected] at isLast
    rw [deliveries_connected]
    exact sound.kept other nitz isLast
  · intro copied waits
    exact ⟨List.mem_append_left _ (sound.copied copied waits).1, (sound.copied copied waits).2⟩
  · exact sound.distinct
  · rw [deliveries_connected]
    exact sound.undelivered
  · rw [deliveries_connected]
    exact sound.resent

theorem onNitzTimeReceived (sound : NitzSound outputs state) {slot : Nat}
    {memory : List UInt8} {datalen : Nat} (ends : 0 ∈ memory)
    (meets : MeetsClient slot memory datalen state) :
    NitzSound (outputs ++ (state.onNitzTimeReceived slot memory datalen).2)
      (state.onNitzTimeReceived slot memory datalen).1 := by
  obtain ⟨registered, notDead, covers⟩ := meets
  let nitz : NitzTime := ⟨state.received, slot, cString memory, state.clock⟩
  have received : NitzSound (outputs ++ [.received nitz])
      { state with received := state.received + 1 } := sound.receive rfl
  have occurs : .received nitz ∈ outputs ++ [.received nitz] :=
    List.mem_append_right _ (List.mem_singleton.mpr rfl)
  have new : nitz.number ∉ deliveries (outputs ++ [.received nitz]) := by
    rw [deliveries_received]
    exact fun delivered => Nat.lt_irrefl _ (sound.number_lt_of_delivered delivered)
  have apart : ∀ copied ∈ state.waiting, copied.nitz.number ≠ nitz.number :=
    fun copied waits => Nat.ne_of_lt (sound.number_lt_of_waiting waits)
  cases client : state.client slot with
  | null =>
      have nonempty : memory.take datalen ≠ [] := by
        have positive := Nat.zero_lt_of_lt (covers client)
        intro empty
        rw [List.take_eq_nil_iff] at empty
        rcases empty with zero | nil
        · omega
        · rw [nil] at ends
          cases ends
      have newest : ∀ other, .missed other ∈ outputs ++ [.received nitz] →
          other.number ≤ nitz.number := by
        intro other isMissed
        exact Nat.lt_succ_iff.mp (received.numbered other (received.missed other isMissed).1)
      have missed := received.miss occurs newest new apart nonempty
        (cString_take_append ends (covers client))
      rw [List.append_assoc] at missed
      simpa [NitzState.onNitzTimeReceived, NitzState.nitzTimeReceivedInd, registered, client]
        using missed
  | alive =>
      by_cases zero : datalen = 0
      · simpa [NitzState.onNitzTimeReceived, NitzState.nitzTimeReceivedInd, registered, client,
          zero] using received
      · have later : ∀ missing ∈ state.missing, missing.nitz.number ≠ nitz.number :=
          fun missing waits => apart missing (List.mem_append_right _ waits)
        have place : ∀ last ∈ state.last,
            (state.connecting = .resent ∨ last.nitz.number = nitz.number) ↔
              state.connecting = .resent := by
          intro last isLast
          have waits : last ∈ state.waiting :=
            List.mem_append_left _ (Option.mem_toList.mpr isLast)
          exact or_iff_left (apart last waits)
        have delivered : NitzSound (outputs ++ [.received nitz] ++ [.delivered nitz])
            { state with received := state.received + 1 } :=
          received.deliver occurs new later place ⟨rfl, rfl, rfl⟩
        rw [List.append_assoc] at delivered
        simpa [NitzState.onNitzTimeReceived, NitzState.nitzTimeReceivedInd, registered, client,
          zero] using delivered
  | dead => exact absurd client notDead

theorem resendLastNitzTimeData (sound : NitzSound outputs state) {slot : Nat}
    (place : state.connecting = .connected slot)
    (inTime : ResendsInTime state (.connected slot)) (beyond : List UInt8) :
    NitzSound (outputs ++ (state.resendLastNitzTimeData slot beyond).2)
      (state.resendLastNitzTimeData slot beyond).1 := by
  have notResent : state.connecting ≠ .resent := by
    rw [place]
    nofun
  have idle : NitzSound outputs { state with connecting := .idle } :=
    sound.frame rfl rfl rfl (iff_of_false nofun notResent)
  cases client : state.client slot with
  | null =>
      cases last : state.last with
      | none => simpa [NitzState.resendLastNitzTimeData, client, last] using idle
      | some last =>
          simpa [NitzState.resendLastNitzTimeData, NitzState.nitzTimeReceivedInd, client, last]
            using idle
  | alive =>
      obtain ⟨copied, own⟩ := inTime (by rw [client]; nofun)
      -- what the slot missed last can only be in the saved buffer
      have saved : ∀ nitz ∈ lastMissed slot outputs,
          nitz.number ∈ deliveries outputs ∨ ∃ last ∈ state.last, last.nitz = nitz := by
        intro nitz isLast
        rcases sound.kept slot nitz isLast with delivered | ⟨waits, isWaiting, rfl⟩
        · exact Or.inl delivered
        · rcases List.mem_append.mp isWaiting with isSaved | isMissing
          · exact Or.inr ⟨waits, Option.mem_toList.mp isSaved, rfl⟩
          · exact absurd (missed_of_lastMissed outputs isLast).2 (copied waits isMissing)
      cases last : state.last with
      | none =>
          have connected : NitzSound (outputs ++ [.connected slot]) { state with
              connecting := .idle } := by
            apply idle.connect
            intro nitz isLast
            rcases saved nitz isLast with delivered | ⟨other, isSome, -⟩
            · exact delivered
            · rw [last] at isSome
              cases isSome
          simpa [NitzState.resendLastNitzTimeData, client, last] using connected
      | some last' =>
          have isLast : last' ∈ state.last := last
          obtain ⟨-, ownSlot, ownTime⟩ := own last' isLast
          have waits : last' ∈ state.waiting :=
            List.mem_append_left _ (Option.mem_toList.mpr isLast)
          obtain ⟨missed, nonempty, holds⟩ := sound.copied last' waits
          have new : last'.nitz.number ∉ deliveries outputs := by
            rw [sound.resent last' isLast]
            exact notResent
          have apart : ∀ missing ∈ state.missing,
              missing.nitz.number ≠ last'.nitz.number := by
            have distinct := sound.distinct
            rw [NitzState.waiting, last] at distinct
            simp only [Option.toList_some, List.singleton_append, List.map_cons,
              List.nodup_cons, List.mem_map, not_exists, not_and] at distinct
            exact distinct.1
          have delivered : NitzSound (outputs ++ [.delivered last'.nitz])
              { state with connecting := .resent } := by
            refine sound.deliver (sound.missed _ missed).1 new apart ?_ ⟨rfl, rfl, rfl⟩
            intro other isOther
            rw [last] at isOther
            cases isOther
            exact iff_of_true (Or.inr rfl) rfl
          have connected : NitzSound (outputs ++ [.delivered last'.nitz] ++ [.connected slot])
              { state with connecting := .resent } := by
            apply delivered.connect
            intro nitz isMissed
            rw [lastMissed_delivered] at isMissed
            rw [deliveries_delivered, List.mem_append, List.mem_singleton]
            rcases saved nitz isMissed with earlier | ⟨other, isSome, rfl⟩
            · exact Or.inl earlier
            · rw [last] at isSome
              cases isSome
              exact Or.inr rfl
          have sent : (⟨last'.nitz.number, slot, cString (last'.data ++ beyond), state.clock⟩ :
              NitzTime) = last'.nitz := by
            rw [holds, ← ownSlot, ← ownTime]
          rw [List.append_assoc] at connected
          simpa [NitzState.resendLastNitzTimeData, NitzState.nitzTimeReceivedInd, client, last,
            nonempty, sent] using connected
  | dead =>
      cases last : state.last with
      | none => simpa [NitzState.resendLastNitzTimeData, client, last] using idle
      | some last' =>
          have alive := ((inTime (by rw [client]; nofun)).2 last' last).1
          rw [client] at alive
          cases alive

theorem step {history : History NitzEvent NitzOutput} {event : NitzEvent}
    {out : List NitzOutput} (sound : NitzSound outputs state)
    (guarded : NitzInTime history state event) (stepped : state.step event = some (after, out)) :
    NitzSound (outputs ++ out) after := by
  cases event with
  | register | elapses _ =>
      cases stepped
      rw [List.append_nil]
      exact sound.frame rfl rfl rfl Iff.rfl
  | dies _ | checkReturnStatus _ =>
      simp only [NitzState.step] at stepped
      split at stepped
      · cases stepped
        rw [List.append_nil]
        exact sound.frame rfl rfl rfl Iff.rfl
      · cases stepped
  | nitzTimeReceived slot memory datalen =>
      simp only [NitzState.step] at stepped
      split at stepped
      case isTrue readable =>
        have received := sound.onNitzTimeReceived readable.1 guarded
        rw [Option.some.inj stepped] at received
        exact received
      case isFalse => cases stepped
  | save missing allocated =>
      simp only [NitzState.step] at stepped
      split at stepped
      case isTrue waits =>
        have own : SavesOwn missing allocated state := guarded
        obtain rfl : allocated = true := own.1
        cases stepped
        rw [List.append_nil]
        exact sound.save waits own
      case isFalse => cases stepped
  | setResponseFunctions slot =>
      simp only [NitzState.step] at stepped
      split at stepped
      case isTrue free =>
        cases stepped
        rw [List.append_nil]
        exact sound.frame rfl rfl rfl (iff_of_false nofun (by rw [free.2]; nofun))
      case isFalse => cases stepped
  | resend beyond =>
      simp only [NitzState.step] at stepped
      cases place : state.connecting with
      | idle => simp [place] at stepped
      | connected slot =>
          rw [place] at stepped
          rw [NitzInTime, place] at guarded
          have resent := sound.resendLastNitzTimeData place guarded beyond
          rw [Option.some.inj stepped] at resent
          exact resent
      | resent => simp [place] at stepped
  | release =>
      simp only [NitzState.step] at stepped
      cases place : state.connecting with
      | idle => simp [place] at stepped
      | connected _ => simp [place] at stepped
      | resent =>
          rw [place] at stepped
          cases stepped
          rw [List.append_nil]
          exact sound.release place

theorem run {history : History NitzEvent NitzOutput}
    (run : nitzSystem.Run NitzInTime history state) : NitzSound history.outputs state := by
  induction run with
  | start starts =>
      rw [starts]
      constructor <;> simp [nitzInit, NitzState.waiting, lastMissed]
  | next running guarded stepped ih =>
      rw [History.outputs_snoc]
      exact ih.step guarded stepped

end NitzSound

/-- What is owed is delivered in every run whose missed times are saved and resent in time. -/
theorem nitz_redelivered {history : History NitzEvent NitzOutput} {state : NitzState}
    (run : nitzSystem.Run NitzInTime history state) : Justified NitzDue history.outputs :=
  (NitzSound.run run).due

/-- A time delivered at once, and the second of two missed ones resent. -/
theorem nitz_redelivered_second : ∃ history state,
    nitzSystem.Run NitzInTime history state ∧ Justified NitzDue history.outputs ∧
    history.outputs = [.connected 0, .received ⟨0, 0, [49, 55], 0⟩, .delivered ⟨0, 0, [49, 55], 0⟩,
      .received ⟨1, 0, [49, 56], 0⟩, .missed ⟨1, 0, [49, 56], 0⟩,
      .received ⟨2, 0, [49, 57], 60⟩, .missed ⟨2, 0, [49, 57], 60⟩,
      .delivered ⟨2, 0, [49, 57], 60⟩, .connected 0] := by
  let calls : List NitzEvent := [.register, .setResponseFunctions 0, .resend [],
    .nitzTimeReceived 0 [49, 55, 0] 3, .dies 0, .checkReturnStatus 0,
    .nitzTimeReceived 0 [49, 56, 0] 3, .save ⟨⟨1, 0, [49, 56], 0⟩, [49, 56, 0]⟩ true, .elapses 60,
    .nitzTimeReceived 0 [49, 57, 0, 7] 4, .save ⟨⟨2, 0, [49, 57], 60⟩, [49, 57, 0, 7]⟩ true,
    .setResponseFunctions 0, .resend [8, 0], .release]
  have executed : (nitzSystem.exec nitzInit calls).map (fun final => final.1.outputs) =
      some [.connected 0, .received ⟨0, 0, [49, 55], 0⟩, .delivered ⟨0, 0, [49, 55], 0⟩,
        .received ⟨1, 0, [49, 56], 0⟩, .missed ⟨1, 0, [49, 56], 0⟩,
        .received ⟨2, 0, [49, 57], 60⟩, .missed ⟨2, 0, [49, 57], 60⟩,
        .delivered ⟨2, 0, [49, 57], 60⟩, .connected 0] := by
    decide +kernel
  rcases System.exists_run_of_exec nitzSystem NitzInTime calls _ rfl (by decide +kernel)
    executed with ⟨history, state, run, outputs⟩
  exact ⟨history, state, run, nitz_redelivered run, outputs⟩

/-- What goes wrong: the saved time of another slot is delivered; a time is resent later than it
was received; a time that meets a dead client is lost; a saved time is overwritten by that of
another slot; and a copy is made only after the client was connected. -/
theorem nitz_lost :
    (∃ history state, nitzSystem.Run System.free history state ∧
      ¬ Justified NitzDue history.outputs ∧
      history.events = [.register, .nitzTimeReceived 1 [49, 55, 0] 3,
        .save ⟨⟨0, 1, [49, 55], 0⟩, [49, 55, 0]⟩ true, .setResponseFunctions 0, .resend []]) ∧
    (∃ history state, nitzSystem.Run System.free history state ∧
      ¬ Justified NitzDue history.outputs ∧
      history.events = [.register, .nitzTimeReceived 0 [49, 55, 0] 3,
        .save ⟨⟨0, 0, [49, 55], 0⟩, [49, 55, 0]⟩ true, .setResponseFunctions 0, .elapses 1000,
        .resend []]) ∧
    (∃ history state, nitzSystem.Run System.free history state ∧
      ¬ Justified NitzDue history.outputs ∧
      history.events = [.register, .setResponseFunctions 0, .resend [], .dies 0,
        .nitzTimeReceived 0 [49, 55, 0] 3, .setResponseFunctions 0, .resend []]) ∧
    (∃ history state, nitzSystem.Run System.free history state ∧
      ¬ Justified NitzDue history.outputs ∧
      history.events = [.register, .nitzTimeReceived 0 [49, 55, 0] 3,
        .save ⟨⟨0, 0, [49, 55], 0⟩, [49, 55, 0]⟩ true, .nitzTimeReceived 1 [49, 56, 0] 3,
        .save ⟨⟨1, 1, [49, 56], 0⟩, [49, 56, 0]⟩ true, .setResponseFunctions 1, .resend [],
        .release, .setResponseFunctions 0, .resend []]) ∧
    ∃ history state, nitzSystem.Run System.free history state ∧
      ¬ Justified NitzDue history.outputs ∧
      history.events = [.register, .nitzTimeReceived 0 [49, 55, 0] 3, .setResponseFunctions 0,
        .resend []] := by
  refine ⟨?_, ?_, ?_, ?_, ?_⟩
  · exact exists_run_not_justified
      [.received ⟨0, 1, [49, 55], 0⟩, .missed ⟨0, 1, [49, 55], 0⟩] [.connected 0]
      (.delivered ⟨0, 0, [49, 55], 0⟩)
      rfl (by decide +kernel) (by decide +kernel) (by decide)
  · exact exists_run_not_justified
      [.received ⟨0, 0, [49, 55], 0⟩, .missed ⟨0, 0, [49, 55], 0⟩] [.connected 0]
      (.delivered ⟨0, 0, [49, 55], 1000⟩)
      rfl (by decide +kernel) (by decide +kernel) (by decide)
  · exact exists_run_not_justified
      [.connected 0, .received ⟨0, 0, [49, 55], 0⟩, .missed ⟨0, 0, [49, 55], 0⟩] []
      (.connected 0)
      rfl (by decide +kernel) (by decide +kernel) (by decide)
  · exact exists_run_not_justified
      [.received ⟨0, 0, [49, 55], 0⟩, .missed ⟨0, 0, [49, 55], 0⟩,
        .received ⟨1, 1, [49, 56], 0⟩, .missed ⟨1, 1, [49, 56], 0⟩,
        .delivered ⟨1, 1, [49, 56], 0⟩, .connected 1] []
      (.connected 0)
      rfl (by decide +kernel) (by decide +kernel) (by decide)
  · exact exists_run_not_justified
      [.received ⟨0, 0, [49, 55], 0⟩, .missed ⟨0, 0, [49, 55], 0⟩] []
      (.connected 0)
      rfl (by decide +kernel) (by decide +kernel) (by decide)

end X3Hal.Ril
