import X3Hal.Ril.EarlyCache
import X3Hal.Sync.RwLock
import X3Hal.Transition.Core
import Mathlib.Algebra.Order.Ring.Int
import Mathlib.Logic.Function.Basic
import Mathlib.Tactic.Common

/-!
# Clients that register again

`setResponseFunctions` replaces the objects of a service under the write lock.  A callback that
fails gives its read lock up, takes the write lock and clears the objects if a counter says that
they are still the ones it has called.

The two services of the two slots share one lock.  A thread is one step for each lock operation,
for each call of an object and for the read of the counter.
-/

namespace X3Hal.Ril

open X3Hal.Transition X3Hal.Sync

/-- A service of a slot. -/
abbrev SlotService := RadioService × Nat

/-- Where a thread is. -/
inductive CallbackPlace
  | idle
  /-- in `setResponseFunctions`, with the new objects set -/
  | setting
  /-- in a response function, which was entered with the read lock or without -/
  | responding (service : SlotService) (locked : Bool)
  /-- The call of the objects of a registration has failed. -/
  | failing (service : SlotService) (locked : Bool) (through : Nat)
  /-- in `checkReturnStatus`, with `counter` read -/
  | noted (service : SlotService) (locked : Bool) (through counter : Nat)
  /-- waiting for the write lock -/
  | released (service : SlotService) (locked : Bool) (through counter : Nat)
  /-- The counters are compared. -/
  | compared (service : SlotService) (locked : Bool)
  /-- waiting for the read lock -/
  | reacquiring (service : SlotService) (locked : Bool)
  deriving DecidableEq

structure RegistrationState where
  /-- `radioServiceRwlock` -/
  rwlock : RwLock Nat
  /-- the response and the indication object, by the number of their registration, or NULL -/
  objects : SlotService → Option Nat
  /-- `mCounterRadio` and `mCounterOemHook`, of which 32 bits are compared -/
  counter : SlotService → Nat
  place : Nat → CallbackPlace
  registrations : Nat

inductive RegistrationEvent
  | setResponseFunctions (thread : Nat) (service : SlotService)
  /-- A response function begins, with the read lock (`RIL_onRequestComplete`,
  `RIL_onRequestAck`, `send_unsolResponse`) or without (`sendErrorResponse`,
  `resendLastNITZTimeData`). -/
  | enters (thread : Nat) (service : SlotService) (locked : Bool)
  | calls (thread : Nat) (failed : Bool)
  | notes (thread : Nat)
  | unlocks (thread : Nat)
  /-- A response function that was entered without the lock ends. -/
  | leaves (thread : Nat)
  /-- `checkReturnStatus` takes the write lock, and compares. -/
  | wrlocks (thread : Nat)
  | rdlocks (thread : Nat)
  deriving DecidableEq

inductive RegistrationOutput
  /-- A call through one registration has cleared the objects of this one. -/
  | cleared (service : SlotService) (through : Nat) (objects : Option Nat)
  /-- A thread has unlocked a lock that it does not hold. -/
  | foreignUnlock (thread : Nat)
  deriving DecidableEq

/-- Where an unlock leads to. -/
def CallbackPlace.afterUnlock : CallbackPlace → Option CallbackPlace
  | setting => some idle
  | responding _ true => some idle
  | noted service locked through counter => some (released service locked through counter)
  | compared service locked => some (reacquiring service locked)
  | idle | responding _ false | failing _ _ _ | released _ _ _ _ | reacquiring _ _ => none

namespace RegistrationState

def enter (thread : Nat) (place : CallbackPlace) (state : RegistrationState) :
    RegistrationState :=
  { state with place := Function.update state.place thread place }

/-- A thread that gets the lock goes on. -/
def locked (thread : Nat) (place : CallbackPlace) (state : RegistrationState)
    (rwlock : RwLock Nat) : RegistrationState :=
  { state.enter thread place with rwlock := rwlock }

/-- New objects, or NULL, for a service. -/
def replace (service : SlotService) (objects : Option Nat) (state : RegistrationState) :
    RegistrationState :=
  { state with
    objects := Function.update state.objects service objects
    counter := Function.update state.counter service (state.counter service + 1) }

def step (state : RegistrationState) :
    RegistrationEvent → Option (RegistrationState × List RegistrationOutput)
  | .setResponseFunctions thread service =>
      match state.place thread with
      | .idle =>
          (state.rwlock.wrlock thread).map fun taken =>
            let replaced := (state.locked thread .setting taken).replace service
              (some state.registrations)
            ({ replaced with registrations := state.registrations + 1 }, [])
      | _ => none
  | .enters thread service locked =>
      match state.place thread with
      | .idle =>
          if locked then
            (state.rwlock.rdlock thread).map fun taken =>
              (state.locked thread (.responding service true) taken, [])
          else some (state.enter thread (.responding service false), [])
      | _ => none
  | .calls thread failed =>
      match state.place thread with
      | .responding service locked =>
          match state.objects service with
          | some through =>
              if failed then some (state.enter thread (.failing service locked through), [])
              else some (state, [])
          | none => some (state, [])
      | _ => none
  | .notes thread =>
      match state.place thread with
      | .failing service locked through =>
          some (state.enter thread (.noted service locked through (state.counter service)), [])
      | _ => none
  | .unlocks thread =>
      (state.place thread).afterUnlock.map fun next =>
        match state.rwlock.unlock thread with
        | some unlocked => (state.locked thread next unlocked, [])
        | none => (state.enter thread next, [.foreignUnlock thread])
  | .leaves thread =>
      match state.place thread with
      | .responding _ false => some (state.enter thread .idle, [])
      | _ => none
  | .wrlocks thread =>
      match state.place thread with
      | .released service locked through counter =>
          (state.rwlock.wrlock thread).map fun taken =>
            let entered := state.locked thread (.compared service locked) taken
            if counter % 2 ^ 32 = state.counter service % 2 ^ 32 then
              (entered.replace service none, [.cleared service through (state.objects service)])
            else (entered, [])
      | _ => none
  | .rdlocks thread =>
      match state.place thread with
      | .reacquiring service locked =>
          (state.rwlock.rdlock thread).map fun taken =>
            (state.locked thread (.responding service locked) taken, [])
      | _ => none

end RegistrationState

def registrationInit : RegistrationState :=
  ⟨.free, fun _ => none, fun _ => 0, fun _ => .idle, 0⟩

def registrationSystem : System RegistrationState RegistrationEvent RegistrationOutput where
  Init := fun state => state = registrationInit
  step := RegistrationState.step

/-! ## What a failed callback may do -/

/-- A failed callback clears the objects that it has called, and a thread unlocks what it
holds. -/
structure ReregistrationKept (outputs : List RegistrationOutput) : Prop where
  own : ∀ service through objects, .cleared service through objects ∈ outputs →
    objects = some through
  held : ∀ thread, .foreignUnlock thread ∉ outputs

/-- A response function without the lock calls no object that fails. -/
def FailsLocked (failed : Bool) (state : RegistrationState) : CallbackPlace → Prop
  | .responding service false => failed = true → state.objects service = none
  | _ => True

/-- The objects were not replaced as often as makes the counter the same again. -/
def CounterApart (state : RegistrationState) : CallbackPlace → Prop
  | .released service _ _ counter => state.counter service < counter + 2 ^ 32
  | _ => True

/-- Only callbacks under the read lock fail, and their counter does not wrap around. -/
def FailuresLocked : System.Guard RegistrationState RegistrationEvent RegistrationOutput
  | _, state, .calls thread failed => FailsLocked failed state (state.place thread)
  | _, state, .wrlocks thread => CounterApart state (state.place thread)
  | _, _, _ => True

instance (failed : Bool) (state : RegistrationState) (place : CallbackPlace) :
    Decidable (FailsLocked failed state place) :=
  match place with
  | .responding _ false => inferInstanceAs (Decidable (_ → _))
  | .responding _ true | .idle | .setting | .failing _ _ _ | .noted _ _ _ _ | .released _ _ _ _
  | .compared _ _ | .reacquiring _ _ => inferInstanceAs (Decidable True)

instance (state : RegistrationState) (place : CallbackPlace) :
    Decidable (CounterApart state place) :=
  match place with
  | .released _ _ _ _ => inferInstanceAs (Decidable (_ < _))
  | .responding _ _ | .idle | .setting | .failing _ _ _ | .noted _ _ _ _ | .compared _ _
  | .reacquiring _ _ => inferInstanceAs (Decidable True)

instance (history : History RegistrationEvent RegistrationOutput) (state : RegistrationState)
    (event : RegistrationEvent) : Decidable (FailuresLocked history state event) :=
  match event with
  | .calls _ _ => inferInstanceAs (Decidable (FailsLocked _ _ _))
  | .wrlocks _ => inferInstanceAs (Decidable (CounterApart _ _))
  | .setResponseFunctions _ _ | .enters _ _ _ | .notes _ | .unlocks _ | .leaves _
  | .rdlocks _ => inferInstanceAs (Decidable True)

/-! ## The invariant -/

/-- What a thread holds at its place, and what it knows of the objects. -/
def PlaceSound (state : RegistrationState) (thread : Nat) : CallbackPlace → Prop
  | .idle | .responding _ false => True
  | .setting => state.rwlock.writer = some thread
  | .responding _ true => thread ∈ state.rwlock.readers
  | .failing service locked through =>
      locked = true ∧ thread ∈ state.rwlock.readers ∧ state.objects service = some through
  | .noted service locked through counter =>
      locked = true ∧ thread ∈ state.rwlock.readers ∧ state.objects service = some through ∧
        counter = state.counter service
  | .released service locked through counter =>
      locked = true ∧ counter ≤ state.counter service ∧
        (counter = state.counter service → state.objects service = some through)
  | .compared _ locked => locked = true ∧ state.rwlock.writer = some thread
  | .reacquiring _ locked => locked = true

/-- Every thread is at a sound place. -/
def PlacesSound (state : RegistrationState) : Prop :=
  ∀ thread, PlaceSound state thread (state.place thread)

/-- A thread keeps its place while others take and release the lock. -/
theorem PlaceSound.keep {state after : RegistrationState} {thread : Nat} {place : CallbackPlace}
    (sound : PlaceSound state thread place)
    (readers : thread ∈ state.rwlock.readers → thread ∈ after.rwlock.readers)
    (writer : state.rwlock.writer = some thread → after.rwlock.writer = some thread)
    (objects : after.objects = state.objects) (counter : after.counter = state.counter) :
    PlaceSound after thread place := by
  cases place with
  | idle => trivial
  | setting => exact writer sound
  | responding service locked =>
      cases locked with
      | false => trivial
      | true => exact readers sound
  | failing service locked through =>
      obtain ⟨isLocked, reads, same⟩ := sound
      exact ⟨isLocked, readers reads, by rw [objects, same]⟩
  | noted service locked through count =>
      obtain ⟨isLocked, reads, same, read⟩ := sound
      exact ⟨isLocked, readers reads, by rw [objects, same], by rw [counter, read]⟩
  | released service locked through count =>
      simp only [PlaceSound, objects, counter] at sound ⊢
      exact sound
  | compared service locked => exact ⟨sound.1, writer sound.2⟩
  | reacquiring service locked => exact sound

/-- A thread keeps its place while the objects of a service are replaced under the write
lock. -/
theorem PlaceSound.replace {state after : RegistrationState} {thread : Nat}
    {place : CallbackPlace} (sound : PlaceSound state thread place)
    (noReader : state.rwlock.readers = []) (noWriter : state.rwlock.writer = none)
    (service : SlotService) (same : ∀ other, other ≠ service →
      after.objects other = state.objects other ∧ after.counter other = state.counter other)
    (counted : after.counter service = state.counter service + 1) :
    PlaceSound after thread place := by
  have notReading : thread ∉ state.rwlock.readers := by
    rw [noReader]
    exact List.not_mem_nil
  have notWriting : state.rwlock.writer ≠ some thread := by
    rw [noWriter]
    nofun
  cases place with
  | idle => trivial
  | setting => exact absurd sound notWriting
  | responding service locked =>
      cases locked with
      | false => trivial
      | true => exact absurd sound notReading
  | failing service locked through => exact absurd sound.2.1 notReading
  | noted service locked through count => exact absurd sound.2.1 notReading
  | released other locked through count =>
      obtain ⟨isLocked, atMost, own⟩ := sound
      by_cases isService : other = service
      · subst isService
        refine ⟨isLocked, by omega, ?_⟩
        intro equal
        omega
      · obtain ⟨objects, counter⟩ := same other isService
        exact ⟨isLocked, by rw [counter]; exact atMost, by rw [objects, counter]; exact own⟩
  | compared service locked => exact absurd sound.2 notWriting
  | reacquiring service locked => exact sound

namespace PlacesSound

variable {state after : RegistrationState} {thread : Nat} {place : CallbackPlace}

/-- One thread moves on without the lock. -/
theorem enter (sound : PlacesSound state)
    (own : PlaceSound state thread place) : PlacesSound (state.enter thread place) := by
  intro other
  by_cases same : other = thread
  · rw [RegistrationState.enter, same]
    simp only [Function.update_self]
    exact own.keep id id rfl rfl
  · simp only [RegistrationState.enter, Function.update_of_ne same]
    exact (sound other).keep id id rfl rfl

/-- One thread moves on with a lock that leaves the others theirs. -/
theorem locked (sound : PlacesSound state) {rwlock : RwLock Nat}
    (others : ∀ other, other ≠ thread →
      (other ∈ state.rwlock.readers → other ∈ rwlock.readers) ∧
        (state.rwlock.writer = some other → rwlock.writer = some other))
    (own : PlaceSound (state.locked thread place rwlock) thread place) :
    PlacesSound (state.locked thread place rwlock) := by
  intro other
  by_cases same : other = thread
  · rw [same]
    simpa [RegistrationState.locked, RegistrationState.enter] using own
  · simp only [RegistrationState.locked, RegistrationState.enter, Function.update_of_ne same]
    exact (sound other).keep (others other same).1 (others other same).2 rfl rfl

/-- One thread takes the write lock and replaces the objects of a service. -/
theorem replaced (sound : PlacesSound state) {rwlock : RwLock Nat}
    (taken : state.rwlock.wrlock thread = some rwlock) (service : SlotService)
    (objects : Option Nat)
    (own : PlaceSound ((state.locked thread place rwlock).replace service objects) thread place) :
    PlacesSound ((state.locked thread place rwlock).replace service objects) := by
  obtain ⟨noWriter, noReader, -, -⟩ := RwLock.wrlock_eq_some taken
  intro other
  by_cases same : other = thread
  · rw [same]
    simpa [RegistrationState.replace, RegistrationState.locked, RegistrationState.enter] using own
  · simp only [RegistrationState.replace, RegistrationState.locked, RegistrationState.enter,
      Function.update_of_ne same]
    apply (sound other).replace noReader noWriter service
    · intro kept apart
      simp only [Function.update_of_ne apart]
      exact ⟨trivial, trivial⟩
    · exact Function.update_self ..

theorem of_registrations (sound : PlacesSound state) (registrations : Nat) :
    PlacesSound { state with registrations := registrations } :=
  fun thread => (sound thread).keep id id rfl rfl

/-- A thread at a place with an unlock holds the lock, and what it unlocks to is sound. -/
theorem unlocks (sound : PlacesSound state) {next : CallbackPlace}
    (leads : (state.place thread).afterUnlock = some next) :
    ∃ unlocked, state.rwlock.unlock thread = some unlocked ∧
      PlacesSound (state.locked thread next unlocked) := by
  have own := sound thread
  have reader : thread ∈ state.rwlock.readers →
      ∃ unlocked, state.rwlock.unlock thread = some unlocked := by
    intro reads
    obtain ⟨unlocked, isUnlocked, -⟩ := RwLock.unlock_of_reader reads
    exact ⟨unlocked, isUnlocked⟩
  have writer : state.rwlock.writer = some thread →
      ∃ unlocked, state.rwlock.unlock thread = some unlocked :=
    fun writes => ⟨_, RwLock.unlock_of_writer writes⟩
  have moves : ∀ unlocked, state.rwlock.unlock thread = some unlocked →
      PlaceSound (state.locked thread next unlocked) thread next →
      PlacesSound (state.locked thread next unlocked) :=
    fun unlocked isUnlocked => sound.locked fun other apart =>
      RwLock.kept_of_unlock apart isUnlocked
  cases place : state.place thread with
  | idle => simp [place, CallbackPlace.afterUnlock] at leads
  | setting =>
      rw [place] at own leads
      cases leads
      obtain ⟨unlocked, isUnlocked⟩ := writer own
      exact ⟨unlocked, isUnlocked, moves unlocked isUnlocked trivial⟩
  | responding service locked =>
      cases locked with
      | false => simp [place, CallbackPlace.afterUnlock] at leads
      | true =>
          rw [place] at own leads
          cases leads
          obtain ⟨unlocked, isUnlocked⟩ := reader own
          exact ⟨unlocked, isUnlocked, moves unlocked isUnlocked trivial⟩
  | failing _ _ _ => simp [place, CallbackPlace.afterUnlock] at leads
  | noted service locked through counter =>
      rw [place] at own leads
      cases leads
      obtain ⟨isLocked, reads, same, read⟩ := own
      obtain ⟨unlocked, isUnlocked⟩ := reader reads
      exact ⟨unlocked, isUnlocked, moves unlocked isUnlocked
        ⟨isLocked, Nat.le_of_eq read, fun _ => same⟩⟩
  | released _ _ _ _ => simp [place, CallbackPlace.afterUnlock] at leads
  | compared service locked =>
      rw [place] at own leads
      cases leads
      obtain ⟨unlocked, isUnlocked⟩ := writer own.2
      exact ⟨unlocked, isUnlocked, moves unlocked isUnlocked own.1⟩
  | reacquiring _ _ => simp [place, CallbackPlace.afterUnlock] at leads

/-- A thread that takes the write lock takes it from nobody. -/
theorem wrlocks (sound : PlacesSound state) {rwlock : RwLock Nat}
    (taken : state.rwlock.wrlock thread = some rwlock)
    (own : PlaceSound (state.locked thread place rwlock) thread place) :
    PlacesSound (state.locked thread place rwlock) := by
  obtain ⟨noWriter, noReader, -, -⟩ := RwLock.wrlock_eq_some taken
  apply sound.locked _ own
  intro other _
  constructor
  · intro reads
    rw [noReader] at reads
    cases reads
  · intro writes
    rw [noWriter] at writes
    cases writes

theorem rdlocks (sound : PlacesSound state) {rwlock : RwLock Nat}
    (taken : state.rwlock.rdlock thread = some rwlock)
    (own : PlaceSound (state.locked thread place rwlock) thread place) :
    PlacesSound (state.locked thread place rwlock) := by
  obtain ⟨noWriter, -, readers⟩ := RwLock.rdlock_eq_some taken
  apply sound.locked _ own
  intro other _
  constructor
  · intro reads
    rw [readers]
    exact List.mem_cons_of_mem thread reads
  · intro writes
    rw [noWriter] at writes
    cases writes

/-- A step keeps the places sound, and what it puts out is a clearing of the objects called. -/
theorem step {history : History RegistrationEvent RegistrationOutput}
    {event : RegistrationEvent} {out : List RegistrationOutput} (sound : PlacesSound state)
    (guarded : FailuresLocked history state event)
    (stepped : state.step event = some (after, out)) :
    PlacesSound after ∧ ∀ output ∈ out, ∃ service through,
      output = .cleared service through (some through) := by
  have silent : ∀ output ∈ ([] : List RegistrationOutput), ∃ service through,
      output = .cleared service through (some through) := nofun
  cases event with
  | setResponseFunctions thread service =>
      simp only [RegistrationState.step] at stepped
      split at stepped
      · obtain ⟨taken, isTaken, same⟩ := Option.map_eq_some_iff.mp stepped
        cases same
        have writes := (RwLock.wrlock_eq_some isTaken).2.2.1
        have replaced : PlacesSound ((state.locked thread .setting taken).replace service
            (some state.registrations)) := sound.replaced isTaken service _ writes
        exact ⟨replaced.of_registrations _, silent⟩
      · cases stepped
  | enters thread service locked =>
      simp only [RegistrationState.step] at stepped
      split at stepped
      · split at stepped
        · obtain ⟨taken, isTaken, same⟩ := Option.map_eq_some_iff.mp stepped
          cases same
          have reads : thread ∈ taken.readers := by
            rw [(RwLock.rdlock_eq_some isTaken).2.2]
            exact List.mem_cons_self
          exact ⟨sound.rdlocks isTaken reads, silent⟩
        · cases stepped
          exact ⟨sound.enter trivial, silent⟩
      · cases stepped
  | calls thread failed =>
      simp only [RegistrationState.step] at stepped
      cases place : state.place thread with
      | responding service locked =>
          have own := sound thread
          rw [place] at own stepped
          rw [FailuresLocked, place] at guarded
          cases objects : state.objects service with
          | none =>
              simp only [objects] at stepped
              cases stepped
              exact ⟨sound, silent⟩
          | some through =>
              simp only [objects] at stepped
              cases failed with
              | false =>
                  cases stepped
                  exact ⟨sound, silent⟩
              | true =>
                  cases stepped
                  cases locked with
                  | false =>
                      have missing := guarded rfl
                      rw [objects] at missing
                      cases missing
                  | true => exact ⟨sound.enter ⟨rfl, own, objects⟩, silent⟩
      | idle => simp [place] at stepped
      | setting => simp [place] at stepped
      | failing _ _ _ => simp [place] at stepped
      | noted _ _ _ _ => simp [place] at stepped
      | released _ _ _ _ => simp [place] at stepped
      | compared _ _ => simp [place] at stepped
      | reacquiring _ _ => simp [place] at stepped
  | notes thread =>
      simp only [RegistrationState.step] at stepped
      split at stepped
      case h_1 service locked through place =>
        cases stepped
        have own := sound thread
        rw [place] at own
        obtain ⟨isLocked, reads, same⟩ := own
        exact ⟨sound.enter ⟨isLocked, reads, same, rfl⟩, silent⟩
      case h_2 => cases stepped
  | unlocks thread =>
      simp only [RegistrationState.step] at stepped
      obtain ⟨next, leads, same⟩ := Option.map_eq_some_iff.mp stepped
      obtain ⟨unlocked, isUnlocked, kept⟩ := sound.unlocks leads
      rw [isUnlocked] at same
      cases same
      exact ⟨kept, silent⟩
  | leaves thread =>
      simp only [RegistrationState.step] at stepped
      split at stepped
      · cases stepped
        exact ⟨sound.enter trivial, silent⟩
      · cases stepped
  | wrlocks thread =>
      simp only [RegistrationState.step] at stepped
      split at stepped
      case h_1 service locked through counter place =>
        have own := sound thread
        rw [place] at own
        rw [FailuresLocked, place] at guarded
        obtain ⟨isLocked, atMost, same⟩ := own
        obtain ⟨taken, isTaken, entered⟩ := Option.map_eq_some_iff.mp stepped
        have writes := (RwLock.wrlock_eq_some isTaken).2.2.1
        split at entered
        case isTrue equal =>
          cases entered
          -- fewer than `2 ^ 32` changes, so the counter is the one that was read
          have unchanged : counter = state.counter service := by
            have apart : state.counter service < counter + 2 ^ 32 := guarded
            omega
          refine ⟨sound.replaced isTaken service none ⟨isLocked, writes⟩, ?_⟩
          intro output occurs
          rw [List.mem_singleton] at occurs
          exact ⟨service, through, by rw [occurs, same unchanged]⟩
        case isFalse =>
          cases entered
          exact ⟨sound.wrlocks isTaken ⟨isLocked, writes⟩, silent⟩
      case h_2 => cases stepped
  | rdlocks thread =>
      simp only [RegistrationState.step] at stepped
      split at stepped
      case h_1 service locked place =>
        have own : locked = true := by
          have own := sound thread
          rw [place] at own
          exact own
        obtain ⟨taken, isTaken, same⟩ := Option.map_eq_some_iff.mp stepped
        cases same
        have reads : thread ∈ taken.readers := by
          rw [(RwLock.rdlock_eq_some isTaken).2.2]
          exact List.mem_cons_self
        subst own
        exact ⟨sound.rdlocks isTaken reads, silent⟩
      case h_2 => cases stepped

theorem run {history : History RegistrationEvent RegistrationOutput}
    (run : registrationSystem.Run FailuresLocked history state) :
    PlacesSound state ∧ ∀ output ∈ history.outputs, ∃ service through,
      output = .cleared service through (some through) := by
  induction run with
  | start starts =>
      rw [starts]
      exact ⟨fun thread => trivial, nofun⟩
  | next running guarded stepped ih =>
      obtain ⟨kept, own⟩ := ih.1.step guarded stepped
      refine ⟨kept, ?_⟩
      intro output occurs
      rw [History.outputs_snoc] at occurs
      rcases List.mem_append.mp occurs with earlier | new
      · exact ih.2 output earlier
      · exact own output new

end PlacesSound

/-- A failed callback clears what it has called, and every unlock is that of a holder, in every
run in which only callbacks under the lock fail. -/
theorem reregistration_kept {history : History RegistrationEvent RegistrationOutput}
    {state : RegistrationState} (run : registrationSystem.Run FailuresLocked history state) :
    ReregistrationKept history.outputs := by
  have own := (PlacesSound.run run).2
  constructor
  · intro service through objects occurs
    obtain ⟨_, other, same⟩ := own _ occurs
    cases same
    rfl
  · intro thread occurs
    obtain ⟨_, _, same⟩ := own _ occurs
    cases same

/-- A client that registers again between the unlock and the write lock of a failed callback,
and one whose objects are cleared. -/
theorem reregistration_kept_newer : ∃ history state,
    registrationSystem.Run FailuresLocked history state ∧
      ReregistrationKept history.outputs ∧
      history.outputs = [.cleared (.radio, 0) 1 (some 1)] ∧
        state.objects (.radio, 0) = some 2 := by
  let calls : List RegistrationEvent := [.setResponseFunctions 0 (.radio, 0), .unlocks 0,
    .enters 1 (.radio, 0) true, .enters 2 (.radio, 0) true, .calls 1 true, .calls 2 true,
    .notes 1, .unlocks 1, .notes 2, .unlocks 2, .setResponseFunctions 0 (.radio, 0), .unlocks 0,
    .wrlocks 1, .unlocks 1, .rdlocks 1, .calls 1 true, .notes 1, .unlocks 1, .wrlocks 1,
    .unlocks 1, .wrlocks 2, .unlocks 2, .setResponseFunctions 0 (.radio, 0), .unlocks 0,
    .rdlocks 2, .calls 2 false, .unlocks 2]
  have executed : (registrationSystem.exec registrationInit calls).map
      (fun final => (final.1.outputs, final.2.objects (.radio, 0))) =
        some ([.cleared (.radio, 0) 1 (some 1)], some 2) := by
    decide +kernel
  rcases System.exists_run_of_exec registrationSystem FailuresLocked calls _ rfl
    (by decide +kernel) executed with ⟨history, state, run, seen⟩
  obtain ⟨outputs, objects⟩ := Prod.mk.inj seen
  exact ⟨history, state, run, reregistration_kept run, outputs, objects⟩

/-- What goes wrong: an error response without the lock fails, and gives up the read lock that
it does not hold. -/
theorem reregistration_lost : ∃ history state,
    registrationSystem.Run System.free history state ∧
      ¬ ReregistrationKept history.outputs ∧
      history.events = [.setResponseFunctions 0 (.radio, 0), .unlocks 0,
        .enters 0 (.radio, 0) false, .calls 0 true, .notes 0, .unlocks 0] := by
  let calls : List RegistrationEvent := [.setResponseFunctions 0 (.radio, 0), .unlocks 0,
    .enters 0 (.radio, 0) false, .calls 0 true, .notes 0, .unlocks 0]
  have executed : (registrationSystem.exec registrationInit calls).map
      (fun final => (final.1.events, final.1.outputs)) = some (calls, [.foreignUnlock 0]) := by
    decide +kernel
  rcases System.exists_run_of_exec registrationSystem System.free calls _ rfl (by decide +kernel)
    executed with ⟨history, state, run, seen⟩
  obtain ⟨events, outputs⟩ := Prod.mk.inj seen
  refine ⟨history, state, run, ?_, events⟩
  intro kept
  apply kept.held 0
  rw [outputs]
  exact List.mem_singleton.mpr rfl

end X3Hal.Ril
