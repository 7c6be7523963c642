import X3Hal.Registry.KeyedVector
import X3Hal.Transition.Core
import Mathlib.Data.List.Induction
import Mathlib.Data.String.Basic
import Mathlib.Logic.Function.Basic
import Mathlib.Tactic.Common

/-!
# The registry of dump tunnels

`GuiExtService` keeps dump tunnels under string keys.  A registration links a notifier to the
death of its tunnel before it adds the entry; the notifier knows the key only, and the death is
delivered to it at any later time.

A registration is one step for each of its sections: the check that the tunnel is alive, the
link and the entry.
-/

namespace X3Hal.Gui

open X3Hal.Transition X3Hal.Registry

universe u v

variable {Key : Type u} {Tunnel : Type v} [LinearOrder Key]

/-- A linked `DeathNotifier`: `mKey`, the tunnel that it is linked to, and the call that linked
it. -/
structure Notifier (Key : Type u) (Tunnel : Type v) where
  key : Key
  tunnel : Tunnel
  caller : Nat
  number : Nat
  deriving DecidableEq

/-- Where a caller is in its `regDump`. -/
inductive RegDump (Key : Type u) (Tunnel : Type v)
  | idle
  /-- `isBinderAlive` has returned true. -/
  | checked (tunnel : Tunnel) (key : Key)
  /-- `linkToDeath` has returned, with the number of the notifier if it is linked. -/
  | linked (tunnel : Tunnel) (key : Key) (number : Option Nat)
  deriving DecidableEq

structure DumpState (Key : Type u) (Tunnel : Type v) [LinearOrder Key] where
  /-- `mDumpTunnels` -/
  dumpTunnels : KeyedVector Key Tunnel
  dead : Tunnel → Bool
  /-- the notifiers that were not called yet -/
  notifiers : List (Notifier Key Tunnel)
  call : Nat → RegDump Key Tunnel
  /-- the number of notifiers so far -/
  linked : Nat

inductive DumpEvent (Key : Type u) (Tunnel : Type v)
  | check (caller : Nat) (tunnel : Tunnel) (key : Key)
  | link (caller : Nat)
  | add (caller : Nat)
  | unregDump (key : Key)
  | dies (tunnel : Tunnel)
  | binderDied (notifier : Notifier Key Tunnel)
  deriving DecidableEq

inductive DumpOutput (Key : Type u) (Tunnel : Type v)
  | registered (key : Key) (tunnel : Tunnel)
  | unregistered (key : Key)
  /-- A death notice has removed an entry. -/
  | dropped (key : Key) (tunnel : Tunnel)
  deriving DecidableEq

namespace DumpState

def enter (caller : Nat) (place : RegDump Key Tunnel) (state : DumpState Key Tunnel) :
    DumpState Key Tunnel :=
  { state with call := Function.update state.call caller place }

/-- The entries that the locked section of `regDump` leaves: a large table is freed of its
zombies. -/
def checkedTunnels (state : DumpState Key Tunnel) : KeyedVector Key Tunnel :=
  if state.dumpTunnels.size > 200 then state.dumpTunnels.keep fun _ tunnel => !state.dead tunnel
  else state.dumpTunnels

def step [DecidableEq Tunnel] (state : DumpState Key Tunnel) :
    DumpEvent Key Tunnel → Option (DumpState Key Tunnel × List (DumpOutput Key Tunnel))
  | .check caller tunnel key =>
      match state.call caller with
      | .idle =>
          -- `BAD_VALUE` for a tunnel that is dead
          if state.dead tunnel then some (state, [])
          else some (state.enter caller (.checked tunnel key), [])
      | .checked _ _ | .linked _ _ _ => none
  | .link caller =>
      match state.call caller with
      | .checked tunnel key =>
          -- nobody looks at what `linkToDeath` returns for a dead binder
          if state.dead tunnel then some (state.enter caller (.linked tunnel key none), [])
          else
            let entered := state.enter caller (.linked tunnel key (some state.linked))
            some ({ entered with
              notifiers := state.notifiers ++ [⟨key, tunnel, caller, state.linked⟩]
              linked := state.linked + 1 }, [])
      | .idle | .linked _ _ _ => none
  | .add caller =>
      match state.call caller with
      | .linked tunnel key _ =>
          let entered := state.enter caller .idle
          some ({ entered with dumpTunnels := state.checkedTunnels.add key tunnel },
            [.registered key tunnel])
      | .idle | .checked _ _ => none
  | .unregDump key =>
      some ({ state with dumpTunnels := state.dumpTunnels.removeItem key }, [.unregistered key])
  | .dies tunnel => some ({ state with dead := Function.update state.dead tunnel true }, [])
  | .binderDied notifier =>
      if notifier ∈ state.notifiers ∧ state.dead notifier.tunnel then
        -- `unregDump(mKey)`
        some ({ state with
            dumpTunnels := state.dumpTunnels.removeItem notifier.key
            notifiers := state.notifiers.erase notifier },
          (state.dumpTunnels.valueFor notifier.key).toList.map (.dropped notifier.key))
      else none

end DumpState

def dumpInit : DumpState Key Tunnel :=
  ⟨.empty, fun _ => false, [], fun _ => .idle, 0⟩

def dumpSystem (Key : Type u) (Tunnel : Type v) [LinearOrder Key] [DecidableEq Tunnel] :
    System (DumpState Key Tunnel) (DumpEvent Key Tunnel) (DumpOutput Key Tunnel) where
  Init := fun state => state = dumpInit
  step := DumpState.step

/-! ## What the registry is for -/

/-- The tunnel registered last under a key and not unregistered since. -/
def lastRegistered (key : Key) (outputs : List (DumpOutput Key Tunnel)) : Option Tunnel :=
  outputs.foldl
    (fun last output =>
      match output with
      | .registered other tunnel => if other = key then some tunnel else last
      | .unregistered other => if other = key then none else last
      | .dropped _ _ => last)
    none

/-- With no notice to come a key has the tunnel registered last, if it is alive; and a notice
has only dropped tunnels that are dead. -/
structure RegistryKept (history : History (DumpEvent Key Tunnel) (DumpOutput Key Tunnel))
    (state : DumpState Key Tunnel) : Prop where
  current : (∀ notifier ∈ state.notifiers, state.dead notifier.tunnel = false) →
    ∀ key tunnel, state.dumpTunnels.valueFor key = some tunnel ↔
      lastRegistered key history.outputs = some tunnel ∧ state.dead tunnel = false
  dropped : ∀ key tunnel, .dropped key tunnel ∈ history.outputs → state.dead tunnel = true

/-- The tunnel that is linked is alive. -/
def LinksAlive (state : DumpState Key Tunnel) : RegDump Key Tunnel → Prop
  | .checked tunnel _ => state.dead tunnel = false
  | .idle | .linked _ _ _ => True

/-- The registration of a notifier has ended, and no live tunnel has its key. -/
def NoticeInTurn (notifier : Notifier Key Tunnel) (state : DumpState Key Tunnel) : Prop :=
  state.call notifier.caller ≠ .linked notifier.tunnel notifier.key (some notifier.number) ∧
    ∀ tunnel ∈ state.dumpTunnels.valueFor notifier.key, state.dead tunnel = true

/-- No tunnel dies before it is linked, and every notice comes in turn. -/
def NoticesInTurn : System.Guard (DumpState Key Tunnel) (DumpEvent Key Tunnel)
    (DumpOutput Key Tunnel)
  | _, state, .link caller => LinksAlive state (state.call caller)
  | _, state, .binderDied notifier => NoticeInTurn notifier state
  | _, _, .check _ _ _ | _, _, .add _ | _, _, .unregDump _ | _, _, .dies _ => True

section Decidable

variable [DecidableEq Tunnel]

instance (state : DumpState Key Tunnel) (place : RegDump Key Tunnel) :
    Decidable (LinksAlive state place) :=
  match place with
  | .checked _ _ => inferInstanceAs (Decidable (_ = _))
  | .idle | .linked _ _ _ => inferInstanceAs (Decidable True)

instance (notifier : Notifier Key Tunnel) (state : DumpState Key Tunnel) :
    Decidable (NoticeInTurn notifier state) :=
  inferInstanceAs (Decidable (_ ∧ _))

instance (history : History (DumpEvent Key Tunnel) (DumpOutput Key Tunnel))
    (state : DumpState Key Tunnel) (event : DumpEvent Key Tunnel) :
    Decidable (NoticesInTurn history state event) :=
  match event with
  | .link _ => inferInstanceAs (Decidable (LinksAlive _ _))
  | .binderDied _ => inferInstanceAs (Decidable (NoticeInTurn _ _))
  | .check _ _ _ | .add _ | .unregDump _ | .dies _ => inferInstanceAs (Decidable True)

end Decidable

/-! ## The invariant -/

/-- The entries are last registrations, every one that is alive has its entry, and every entry
and every linked call has a notifier that was not called yet. -/
structure RegistrySound (outputs : List (DumpOutput Key Tunnel))
    (state : DumpState Key Tunnel) : Prop where
  recorded : ∀ key tunnel, state.dumpTunnels.valueFor key = some tunnel →
    lastRegistered key outputs = some tunnel
  live : ∀ key tunnel, lastRegistered key outputs = some tunnel → state.dead tunnel = false →
    state.dumpTunnels.valueFor key = some tunnel
  watched : ∀ key tunnel, state.dumpTunnels.valueFor key = some tunnel →
    ∃ notifier ∈ state.notifiers, notifier.key = key ∧ notifier.tunnel = tunnel
  linking : ∀ caller tunnel key number, state.call caller = .linked tunnel key number →
    ∃ linked, number = some linked ∧ ⟨key, tunnel, caller, linked⟩ ∈ state.notifiers
  dropped : ∀ key tunnel, .dropped key tunnel ∈ outputs → state.dead tunnel = true

section LastRegistered

variable (key other : Key) (tunnel : Tunnel) (outputs : List (DumpOutput Key Tunnel))

theorem lastRegistered_registered :
    lastRegistered key (outputs ++ [.registered other tunnel]) =
      if other = key then some tunnel else lastRegistered key outputs := by
  simp [lastRegistered]

theorem lastRegistered_unregistered :
    lastRegistered key (outputs ++ [.unregistered other]) =
      if other = key then none else lastRegistered key outputs := by
  simp [lastRegistered]

theorem lastRegistered_dropped (tunnels : List Tunnel) :
    lastRegistered key (outputs ++ tunnels.map (.dropped other)) =
      lastRegistered key outputs := by
  induction tunnels using List.reverseRecOn with
  | nil => simp
  | append_singleton earlier last ih =>
      rw [List.map_append, ← List.append_assoc, ← ih]
      simp [lastRegistered]

end LastRegistered

namespace RegistrySound

variable {outputs : List (DumpOutput Key Tunnel)} {state : DumpState Key Tunnel}
  {caller : Nat} {tunnel : Tunnel} {key : Key}

/-- A call that moves on without linking. -/
theorem enter (sound : RegistrySound outputs state) {place : RegDump Key Tunnel}
    (notLinked : ∀ tunnel key number, place ≠ .linked tunnel key number) :
    RegistrySound outputs (state.enter caller place) := by
  refine ⟨sound.recorded, sound.live, sound.watched, ?_, sound.dropped⟩
  intro other tunnel key number linked
  by_cases same : other = caller
  · simp only [DumpState.enter, same, Function.update_self] at linked
    exact absurd linked (notLinked tunnel key number)
  · simp only [DumpState.enter, Function.update_of_ne same] at linked
    exact sound.linking other tunnel key number linked

theorem link (sound : RegistrySound outputs state) :
    RegistrySound outputs
      { state.enter caller (.linked tunnel key (some state.linked)) with
        notifiers := state.notifiers ++ [⟨key, tunnel, caller, state.linked⟩]
        linked := state.linked + 1 } := by
  refine ⟨sound.recorded, sound.live, ?_, ?_, sound.dropped⟩
  · intro key tunnel found
    obtain ⟨notifier, waits, own⟩ := sound.watched key tunnel found
    exact ⟨notifier, List.mem_append_left _ waits, own⟩
  · intro other tunnel' key' number linked
    by_cases same : other = caller
    · simp only [DumpState.enter, same, Function.update_self] at linked
      cases linked
      rw [same]
      exact ⟨state.linked, rfl, List.mem_append_right _ (List.mem_singleton.mpr rfl)⟩
    · simp only [DumpState.enter, Function.update_of_ne same] at linked
      obtain ⟨before, isSome, waits⟩ := sound.linking other tunnel' key' number linked
      exact ⟨before, isSome, List.mem_append_left _ waits⟩

/-- What the locked section leaves, it had before; what it removes is dead. -/
theorem valueFor_checkedTunnels (found : state.checkedTunnels.valueFor key = some tunnel) :
    state.dumpTunnels.valueFor key = some tunnel := by
  rw [DumpState.checkedTunnels] at found
  split at found
  · exact (KeyedVector.valueFor_keep_eq_some_iff.mp found).1
  · exact found

theorem valueFor_checkedTunnels_of_live (found : state.dumpTunnels.valueFor key = some tunnel)
    (alive : state.dead tunnel = false) :
    state.checkedTunnels.valueFor key = some tunnel := by
  rw [DumpState.checkedTunnels]
  split
  · rw [KeyedVector.valueFor_keep_eq_some_iff]
    exact ⟨found, by rw [alive]; rfl⟩
  · exact found

theorem add (sound : RegistrySound outputs state) {number : Option Nat}
    (linked : state.call caller = .linked tunnel key number) :
    RegistrySound (outputs ++ [.registered key tunnel])
      { state.enter caller .idle with
        dumpTunnels := state.checkedTunnels.add key tunnel } := by
  constructor
  · intro other found entry
    rw [lastRegistered_registered]
    simp only [KeyedVector.valueFor_add] at entry
    by_cases same : other = key
    · rw [if_pos same] at entry
      rw [if_pos same.symm, entry]
    · rw [if_neg same] at entry
      rw [if_neg (Ne.symm same)]
      exact sound.recorded other found (valueFor_checkedTunnels entry)
  · intro other found last alive
    rw [lastRegistered_registered] at last
    simp only [KeyedVector.valueFor_add]
    by_cases same : other = key
    · rw [if_pos same.symm] at last
      rw [if_pos same, last]
    · rw [if_neg (Ne.symm same)] at last
      rw [if_neg same]
      exact valueFor_checkedTunnels_of_live (sound.live other found last alive) alive
  · intro other found entry
    simp only [DumpState.enter, KeyedVector.valueFor_add] at entry ⊢
    by_cases same : other = key
    · rw [if_pos same] at entry
      cases entry
      obtain ⟨own, -, waits⟩ := sound.linking caller tunnel key number linked
      exact ⟨_, waits, same.symm, rfl⟩
    · rw [if_neg same] at entry
      exact sound.watched other found (valueFor_checkedTunnels entry)
  · intro other found own number' inside
    have entered : RegistrySound outputs (state.enter caller .idle) := sound.enter nofun
    exact entered.linking other found own number' inside
  · intro other found occurs
    rcases List.mem_append.mp occurs with earlier | new
    · exact sound.dropped other found earlier
    · cases List.mem_singleton.mp new

theorem unregDump (sound : RegistrySound outputs state) (key : Key) :
    RegistrySound (outputs ++ [.unregistered key])
      { state with dumpTunnels := state.dumpTunnels.removeItem key } := by
  constructor
  · intro other found entry
    obtain ⟨apart, before⟩ := KeyedVector.valueFor_removeItem_eq_some_iff.mp entry
    rw [lastRegistered_unregistered, if_neg (Ne.symm apart)]
    exact sound.recorded other found before
  · intro other found last alive
    rw [lastRegistered_unregistered] at last
    apply KeyedVector.valueFor_removeItem_eq_some_iff.mpr
    by_cases same : key = other
    · rw [if_pos same] at last
      cases last
    · rw [if_neg same] at last
      exact ⟨Ne.symm same, sound.live other found last alive⟩
  · intro other found entry
    exact sound.watched other found (KeyedVector.valueFor_removeItem_eq_some_iff.mp entry).2
  · exact sound.linking
  · intro other found occurs
    rcases List.mem_append.mp occurs with earlier | new
    · exact sound.dropped other found earlier
    · cases List.mem_singleton.mp new

variable [DecidableEq Tunnel]

theorem dies (sound : RegistrySound outputs state) (tunnel : Tunnel) :
    RegistrySound outputs { state with dead := Function.update state.dead tunnel true } := by
  have stays : ∀ other, state.dead other = true →
      Function.update state.dead tunnel true other = true := by
    intro other dead
    by_cases same : other = tunnel
    · rw [same, Function.update_self]
    · rw [Function.update_of_ne same, dead]
  refine ⟨sound.recorded, ?_, sound.watched, sound.linking, ?_⟩
  · intro key found last alive
    apply sound.live key found last
    cases before : state.dead found with
    | false => rfl
    | true => exact absurd alive (by simp [stays found before])
  · intro key found occurs
    exact stays found (sound.dropped key found occurs)

theorem binderDied (sound : RegistrySound outputs state) {notifier : Notifier Key Tunnel}
    (turn : NoticeInTurn notifier state) :
    RegistrySound
      (outputs ++ (state.dumpTunnels.valueFor notifier.key).toList.map (.dropped notifier.key))
      { state with
        dumpTunnels := state.dumpTunnels.removeItem notifier.key
        notifiers := state.notifiers.erase notifier } := by
  constructor
  · intro other found entry
    rw [lastRegistered_dropped]
    exact sound.recorded other found (KeyedVector.valueFor_removeItem_eq_some_iff.mp entry).2
  · intro other found last alive
    rw [lastRegistered_dropped] at last
    have entry := sound.live other found last alive
    refine KeyedVector.valueFor_removeItem_eq_some_iff.mpr ⟨?_, entry⟩
    rintro rfl
    have zombie := turn.2 found entry
    rw [alive] at zombie
    cases zombie
  · intro other found entry
    obtain ⟨apart, before⟩ := KeyedVector.valueFor_removeItem_eq_some_iff.mp entry
    obtain ⟨own, waits, key, tunnel⟩ := sound.watched other found before
    have different : own ≠ notifier := by
      rintro rfl
      exact apart key.symm
    exact ⟨own, (List.mem_erase_of_ne different).mpr waits, key, tunnel⟩
  · intro caller tunnel key number linked
    obtain ⟨own, isSome, waits⟩ := sound.linking caller tunnel key number linked
    have apart : (⟨key, tunnel, caller, own⟩ : Notifier Key Tunnel) ≠ notifier := by
      rintro rfl
      exact turn.1 (linked.trans (by rw [isSome]))
    exact ⟨own, isSome, (List.mem_erase_of_ne apart).mpr waits⟩
  · intro other found occurs
    rcases List.mem_append.mp occurs with earlier | new
    · exact sound.dropped other found earlier
    · obtain ⟨removed, entry, same⟩ := List.mem_map.mp new
      cases same
      exact turn.2 _ (by simpa using entry)

theorem step {history : History (DumpEvent Key Tunnel) (DumpOutput Key Tunnel)}
    {after : DumpState Key Tunnel} {event : DumpEvent Key Tunnel}
    {out : List (DumpOutput Key Tunnel)} (sound : RegistrySound outputs state)
    (guarded : NoticesInTurn history state event)
    (stepped : state.step event = some (after, out)) : RegistrySound (outputs ++ out) after := by
  cases event with
  | check caller tunnel key =>
      simp only [DumpState.step] at stepped
      cases place : state.call caller with
      | idle =>
          simp only [place] at stepped
          split at stepped
          · cases stepped
            rw [List.append_nil]
            exact sound
          · cases stepped
            rw [List.append_nil]
            exact sound.enter nofun
      | checked _ _ => simp [place] at stepped
      | linked _ _ _ => simp [place] at stepped
  | link caller =>
      simp only [DumpState.step] at stepped
      cases place : state.call caller with
      | idle => simp [place] at stepped
      | checked tunnel key =>
          rw [NoticesInTurn, place, LinksAlive] at guarded
          simp only [place, guarded, Bool.false_eq_true, if_false] at stepped
          cases stepped
          rw [List.append_nil]
          exact sound.link
      | linked _ _ _ => simp [place] at stepped
  | add caller =>
      simp only [DumpState.step] at stepped
      cases place : state.call caller with
      | idle => simp [place] at stepped
      | checked _ _ => simp [place] at stepped
      | linked tunnel key number =>
          rw [place] at stepped
          cases stepped
          exact sound.add place
  | unregDump key =>
      cases stepped
      exact sound.unregDump key
  | dies tunnel =>
      cases stepped
      rw [List.append_nil]
      exact sound.dies tunnel
  | binderDied notifier =>
      simp only [DumpState.step] at stepped
      split at stepped
      · cases stepped
        exact sound.binderDied guarded
      · cases stepped

theorem run {history : History (DumpEvent Key Tunnel) (DumpOutput Key Tunnel)}
    (run : (dumpSystem Key Tunnel).Run NoticesInTurn history state) :
    RegistrySound history.outputs state := by
  induction run with
  | start starts =>
      rw [starts]
      constructor <;> intros <;> simp_all [dumpInit, lastRegistered]
  | next running guarded stepped ih =>
      rw [History.outputs_snoc]
      exact ih.step guarded stepped

end RegistrySound

/-- The registry holds the live tunnels registered last, in every run whose notices come in
turn. -/
theorem registry_kept [DecidableEq Tunnel]
    {history : History (DumpEvent Key Tunnel) (DumpOutput Key Tunnel)}
    {state : DumpState Key Tunnel}
    (run : (dumpSystem Key Tunnel).Run NoticesInTurn history state) :
    RegistryKept history state := by
  have sound := RegistrySound.run run
  constructor
  · intro quiet key tunnel
    constructor
    · intro entry
      obtain ⟨notifier, waits, -, rfl⟩ := sound.watched key tunnel entry
      exact ⟨sound.recorded key _ entry, quiet notifier waits⟩
    · rintro ⟨last, alive⟩
      exact sound.live key tunnel last alive
  · exact sound.dropped

/-- A key that is registered again after its notice, and a key that is unregistered. -/
theorem registry_kept_again : ∃ history state,
    (dumpSystem (String) Nat).Run NoticesInTurn history state ∧ RegistryKept history state ∧
    history.outputs = [.registered "gl" 0, .registered "v" 1, .dropped "gl" 0,
      .unregistered "v", .registered "gl" 2] := by
  let calls : List (DumpEvent (String) Nat) := [.check 0 0 "gl", .check 1 1 "v",
    .link 0, .link 1, .add 0, .add 1, .dies 0, .binderDied ⟨"gl", 0, 0, 0⟩,
    .unregDump "v", .check 0 2 "gl", .link 0, .add 0]
  have executed : ((dumpSystem (String) Nat).exec dumpInit calls).map
      (fun final => final.1.outputs) =
        some [.registered "gl" 0, .registered "v" 1, .dropped "gl" 0,
          .unregistered "v", .registered "gl" 2] := by
    decide +kernel
  rcases System.exists_run_of_exec (dumpSystem (String) Nat) NoticesInTurn calls _ rfl
    (by decide +kernel) executed with ⟨history, state, run, outputs⟩
  exact ⟨history, state, run, registry_kept run, outputs⟩

/-- A dead tunnel in the table with no notice to come breaks the promise. -/
theorem not_registryKept_of_entry
    {history : History (DumpEvent Key Tunnel) (DumpOutput Key Tunnel)}
    {state : DumpState Key Tunnel} {key : Key} {tunnel : Tunnel} (quiet : state.notifiers = [])
    (entry : state.dumpTunnels.valueFor key = some tunnel) (dead : state.dead tunnel = true) :
    ¬ RegistryKept history state := by
  intro kept
  have none : ∀ notifier ∈ state.notifiers, state.dead notifier.tunnel = false := by
    simp [quiet]
  have alive := ((kept.current none key tunnel).mp entry).2
  rw [dead] at alive
  cases alive

/-- Calls after which a dead tunnel is registered and nobody waits for its notice. -/
theorem exists_run_deadEntry (calls : List (DumpEvent (String) Nat))
    (passes : (dumpSystem (String) Nat).meets System.free [] dumpInit calls = true)
    (executed : ((dumpSystem (String) Nat).exec dumpInit calls).map
      (fun final => (final.1.events, final.2.notifiers,
        final.2.dumpTunnels.valueFor "gl", final.2.dead 0)) = some (calls, [], some 0, true)) :
    ∃ history state, (dumpSystem (String) Nat).Run System.free history state ∧
      ¬ RegistryKept history state ∧ history.events = calls := by
  rcases System.exists_run_of_exec (dumpSystem (String) Nat) System.free calls _ rfl
    passes executed with ⟨history, state, run, seen⟩
  obtain ⟨events, quiet, entry, dead⟩ : history.events = calls ∧ state.notifiers = [] ∧
      state.dumpTunnels.valueFor "gl" = some 0 ∧ state.dead 0 = true := by
    simpa using seen
  exact ⟨history, state, run, not_registryKept_of_entry quiet entry dead, events⟩

/-- What goes wrong: the notice of an earlier tunnel of the key; a tunnel that dies before it is
linked; and a notice that comes before the entry. -/
theorem registry_lost :
    (∃ history state, (dumpSystem (String) Nat).Run System.free history state ∧
      ¬ RegistryKept history state ∧
      history.events = [.check 0 0 "gl", .link 0, .add 0, .check 0 1 "gl", .link 0,
        .add 0, .dies 0, .binderDied ⟨"gl", 0, 0, 0⟩]) ∧
    (∃ history state, (dumpSystem (String) Nat).Run System.free history state ∧
      ¬ RegistryKept history state ∧
      history.events = [.check 0 0 "gl", .dies 0, .link 0, .add 0]) ∧
    ∃ history state, (dumpSystem (String) Nat).Run System.free history state ∧
      ¬ RegistryKept history state ∧
      history.events = [.check 0 0 "gl", .link 0, .dies 0,
        .binderDied ⟨"gl", 0, 0, 0⟩, .add 0] := by
  refine ⟨?_, ?_, ?_⟩
  · let calls : List (DumpEvent (String) Nat) := [.check 0 0 "gl", .link 0, .add 0,
      .check 0 1 "gl", .link 0, .add 0, .dies 0, .binderDied ⟨"gl", 0, 0, 0⟩]
    have executed : ((dumpSystem (String) Nat).exec dumpInit calls).map
        (fun final => (final.1.events,
          decide (.dropped "gl" 1 ∈ final.1.outputs ∧ final.2.dead 1 = false))) =
          some (calls, true) := by
      decide +kernel
    rcases System.exists_run_of_exec (dumpSystem (String) Nat) System.free calls _ rfl
      (by decide +kernel) executed with ⟨history, state, run, seen⟩
    obtain ⟨events, lost⟩ := Prod.mk.inj seen
    obtain ⟨occurs, alive⟩ := of_decide_eq_true lost
    refine ⟨history, state, run, ?_, events⟩
    intro kept
    have dead := kept.dropped "gl" 1 occurs
    rw [alive] at dead
    cases dead
  · exact exists_run_deadEntry _ (by decide +kernel) (by decide +kernel)
  · exact exists_run_deadEntry _ (by decide +kernel) (by decide +kernel)

end X3Hal.Gui
