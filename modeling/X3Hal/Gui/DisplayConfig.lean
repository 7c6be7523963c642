import X3Hal.Gui.Pool
import X3Hal.Transition.Loops
import Mathlib.Data.List.Induction

/-!
# The configuration of the displays

`mDisplayList` of a `GuiExtPool` has an entry for each display that is configured.  A pool gets
a queue for each entry when it is made.  The first pool brings the entry of the primary display.

The pools themselves are those of `PoolState`, of which the entries are the numbers of buffers.
-/

namespace X3Hal.Gui

open X3Hal.Transition X3Hal.Registry

universe u

/-! ## The list of displays -/

structure DispInfo where
  type : Nat
  w : Nat
  h : Nat
  bufNum : Nat
  deriving DecidableEq

/-- A queue of the composer, with its default size. -/
structure HwcBqSlot where
  type : Nat
  bufNum : Nat
  w : Nat
  h : Nat
  deriving DecidableEq

inductive DisplayOutput
  /-- The default entry of the primary display is there. -/
  | defaulted
  /-- `configDisplay` has removed an entry. -/
  | removed (type : Nat)
  /-- A pool is made with its queues, from the list of displays. -/
  | made (isHwcNeeded : Bool) (queues : KeyedVector Nat HwcBqSlot)
      (displays : KeyedVector Nat DispInfo)

/-- Whether `configDisplay` is to remove an entry. -/
def disables (enable : Bool) (w h bufNum : Nat) : Bool :=
  enable = false ∨ w = 0 ∨ h = 0 ∨ bufNum = 0

/-- `GuiExtPool::configDisplay` -/
def configDispList (type : Nat) (enable : Bool) (w h bufNum : Nat)
    (displays : KeyedVector Nat DispInfo) : KeyedVector Nat DispInfo × List DisplayOutput :=
  if disables enable w h bufNum then
    match displays.valueFor type with
    | some _ =>
        let others := if type ≠ hwcDisplayPrimary then displays.removeItem type else displays
        -- this is done for the primary display, too
        (others.removeItem type, [.removed type])
    | none => (displays, [])
  else (displays.add type ⟨type, w, h, bufNum⟩, [])

/-- `ALIGN_CEIL` to an even number of 32 bits -/
def alignCeil (size : Nat) : Nat :=
  (size + 1) / 2 * 2 % 2 ^ 32

/-- The queues of `GuiExtPoolItem::GuiExtPoolItem` -/
def createBufferQueues (displays : KeyedVector Nat DispInfo) : KeyedVector Nat HwcBqSlot :=
  displays.entries.foldl
    (fun queues entry => queues.add entry.2.type
      ⟨entry.2.type, entry.2.bufNum, alignCeil entry.2.w, alignCeil entry.2.h⟩)
    .empty

variable {Token : Type u}

structure DisplayState (Token : Type u) where
  pool : PoolState Token
  /-- `mDisplayList` -/
  displays : KeyedVector Nat DispInfo

/-- A call, with the size that `getDisplayInfo` gives if it is called. -/
structure DisplayEvent (Token : Type u) where
  call : PoolEvent Token
  width : Nat
  height : Nat

/-- The default display of `GuiExtPool::alloc` -/
def allocDispList (event : DisplayEvent Token) (state : DisplayState Token) :
    KeyedVector Nat DispInfo × List DisplayOutput :=
  if state.pool.pools.size = 0 then
    (state.displays.add hwcDisplayPrimary ⟨0, event.width, event.height, maxHwcDequeuedNum⟩,
      [.defaulted])
  else (state.displays, [])

variable [DecidableEq Token]

def displayStep (state : DisplayState Token) (event : DisplayEvent Token) :
    Option (DisplayState Token × List DisplayOutput) :=
  (state.pool.step event.call).map fun next =>
    match event.call with
    | .configDisplay type enable w h bufNum =>
        let (displays, out) := configDispList type enable w h bufNum state.displays
        (⟨next.1, displays⟩, out)
    | .alloc _ isHwcNeeded =>
        if state.pool.pools.size ≥ maxAllocSize then (⟨next.1, state.displays⟩, [])
        else
          let (displays, out) := allocDispList event state
          let queues := if isHwcNeeded then createBufferQueues displays else .empty
          (⟨next.1, displays⟩, out ++ [.made isHwcNeeded queues displays])
    | .free _ | .acquire _ _ _ _ _ | .release _ _ _ _ | .disconnect _ _ _ _ | .dies _ =>
        (⟨next.1, state.displays⟩, [])

def displaySystem (Token : Type u) [DecidableEq Token] :
    System (DisplayState Token) (DisplayEvent Token) DisplayOutput where
  Init := fun state => state = ⟨poolInit, .empty⟩
  step := displayStep

/-! ## What the list is for -/

/-- What the last configuration of a display leaves. -/
def lastConfig (type : Nat) (events : List (DisplayEvent Token)) : Option DispInfo :=
  events.foldl
    (fun last event =>
      match event.call with
      | .configDisplay other enable w h bufNum =>
          if other = type then
            if disables enable w h bufNum then none else some ⟨type, w, h, bufNum⟩
          else last
      | _ => last)
    none

/-- One queue for each display, with its number of buffers. -/
def QueuePerDisplay (queues : KeyedVector Nat HwcBqSlot) (displays : KeyedVector Nat DispInfo) :
    Prop :=
  ∀ type, (queues.valueFor type).map (fun queue => (queue.type, queue.bufNum)) =
    (displays.valueFor type).map fun disp => (type, disp.bufNum)

/-- The primary entry is not removed once it is there by default. -/
def PrimaryStays (before : List DisplayOutput) (output : DisplayOutput) : Prop :=
  output = .removed hwcDisplayPrimary → .defaulted ∉ before

/-- The list has the last configurations and the primary display, and every pool for the composer
its queues. -/
structure DisplaysKept (history : History (DisplayEvent Token) DisplayOutput)
    (state : DisplayState Token) : Prop where
  configured : ∀ type ≠ hwcDisplayPrimary,
    state.displays.valueFor type = lastConfig type history.events
  primary : Justified PrimaryStays history.outputs
  queues : ∀ isHwcNeeded queues displays, .made isHwcNeeded queues displays ∈ history.outputs →
    if isHwcNeeded then QueuePerDisplay queues displays else queues = .empty

/-- Whether a call disables the primary display. -/
def disablesPrimary : PoolEvent Token → Bool
  | .configDisplay type enable w h bufNum => type = hwcDisplayPrimary ∧ disables enable w h bufNum
  | .alloc _ _ | .free _ | .acquire _ _ _ _ _ | .release _ _ _ _ | .disconnect _ _ _ _
  | .dies _ => false

/-- The primary display is not disabled once it is there by default. -/
def PrimaryEnabled (before : History (DisplayEvent Token) DisplayOutput)
    (step : DisplayEvent Token × List DisplayOutput) : Prop :=
  disablesPrimary step.1.call = true → .defaulted ∉ before.outputs

/-! ## The pools of a call -/

/-- A call that is neither an alloc nor a configuration keeps the displays. -/
theorem PoolState.step_displays {state after : PoolState Token} {event : PoolEvent Token}
    {out : List (PoolOutput Token)}
    (notAlloc : ∀ token isHwcNeeded, event ≠ .alloc token isHwcNeeded)
    (notConfig : ∀ type enable w h bufNum, event ≠ .configDisplay type enable w h bufNum)
    (stepped : state.step event = some (after, out)) : after.displays = state.displays := by
  cases event with
  | configDisplay type enable w h bufNum => exact absurd rfl (notConfig type enable w h bufNum)
  | alloc token isHwcNeeded => exact absurd rfl (notAlloc token isHwcNeeded)
  | free poolId =>
      rw [step] at stepped
      split at stepped <;> (cases stepped; rfl)
  | acquire token poolId usage type buf =>
      rw [step, acquire] at stepped
      split at stepped
      · split at stepped <;> (cases stepped; rfl)
      · cases stepped
        rfl
  | release poolId usage type buf =>
      rw [step] at stepped
      split at stepped
      · split at stepped <;> (cases stepped; rfl)
      · cases stepped
        rfl
  | disconnect token poolId usage type =>
      rw [step] at stepped
      split at stepped
      · split at stepped <;> (cases stepped; rfl)
      · cases stepped
        rfl
  | dies token =>
      rw [step] at stepped
      split at stepped
      · cases stepped
      · cases stepped
        rfl

/-- Only an alloc makes a pool. -/
theorem PoolState.step_empty {state after : PoolState Token} {event : PoolEvent Token}
    {out : List (PoolOutput Token)}
    (notAlloc : ∀ token isHwcNeeded, event ≠ .alloc token isHwcNeeded)
    (stepped : state.step event = some (after, out)) (none : state.pools.size = 0) :
    after.pools.size = 0 := by
  have absent : ∀ id, state.pools.valueFor id = Option.none := by
    intro id
    rw [KeyedVector.valueFor, List.length_eq_zero_iff.mp none]
    rfl
  cases event with
  | configDisplay _ _ _ _ _ =>
      cases stepped
      exact none
  | alloc token isHwcNeeded => exact absurd rfl (notAlloc token isHwcNeeded)
  | free _ | release _ _ _ _ | disconnect _ _ _ _ =>
      rw [step, absent] at stepped
      cases stepped
      exact none
  | acquire _ _ _ _ _ =>
      rw [step, acquire, absent] at stepped
      cases stepped
      exact none
  | dies token =>
      rw [step] at stepped
      split at stepped
      · cases stepped
      · cases stepped
        exact Nat.le_zero.mp (none ▸ List.length_filterMap_le _ _)

/-- What an alloc that makes a pool does with the displays. -/
theorem PoolState.step_alloc {state after : PoolState Token} {token : Token} {isHwcNeeded : Bool}
    {out : List (PoolOutput Token)} (room : ¬ state.pools.size ≥ maxAllocSize)
    (stepped : state.step (.alloc token isHwcNeeded) = some (after, out)) :
    after.displays = state.allocDisplays := by
  rw [step, alloc, if_neg room] at stepped
  obtain ⟨id, -, made⟩ := Option.map_eq_some_iff.mp stepped
  cases made
  rfl

/-! ## The queues of a pool -/

/-- Every entry has its own type. -/
def Typed (displays : KeyedVector Nat DispInfo) : Prop :=
  ∀ entry ∈ displays.entries, entry.2.type = entry.1

theorem foldl_queues {entries : List (Nat × DispInfo)} {queues : KeyedVector Nat HwcBqSlot}
    (typed : ∀ entry ∈ entries, entry.2.type = entry.1) (nodup : (entries.map Prod.fst).Nodup)
    (type : Nat) :
    ((entries.foldl
      (fun queues entry => queues.add entry.2.type
        ⟨entry.2.type, entry.2.bufNum, alignCeil entry.2.w, alignCeil entry.2.h⟩)
      queues).valueFor type).map (fun queue => (queue.type, queue.bufNum)) =
    match entries.find? fun entry => entry.1 = type with
    | some entry => some (type, entry.2.bufNum)
    | none => (queues.valueFor type).map fun queue => (queue.type, queue.bufNum) := by
  induction entries generalizing queues with
  | nil => rfl
  | cons entry entries ih =>
      rw [List.map_cons, List.nodup_cons] at nodup
      rw [List.foldl_cons,
        ih (fun other later => typed other (List.mem_cons_of_mem _ later)) nodup.2,
          List.find?_cons]
      have own := typed entry List.mem_cons_self
      by_cases same : entry.1 = type
      · have absent : entries.find? (fun other => other.1 = type) = none := by
          rw [List.find?_eq_none]
          intro other later isType
          exact nodup.1
            (List.mem_map.mpr ⟨other, later, (of_decide_eq_true isType).trans same.symm⟩)
        rw [absent, decide_eq_true same, own, same, KeyedVector.valueFor_add_self]
        rfl
      · rw [decide_eq_false same, KeyedVector.valueFor_add_of_ne (by rw [own]; exact Ne.symm same)]

/-- A pool has a queue for each display. -/
theorem queuePerDisplay_createBufferQueues {displays : KeyedVector Nat DispInfo}
    (typed : Typed displays) : QueuePerDisplay (createBufferQueues displays) displays := by
  intro type
  rw [createBufferQueues, foldl_queues typed displays.nodup_keys, KeyedVector.valueFor_empty,
    KeyedVector.valueFor]
  cases displays.entries.find? fun entry => entry.1 = type with
  | none => rfl
  | some entry => rfl

theorem typed_iff {displays : KeyedVector Nat DispInfo} :
    Typed displays ↔ ∀ type disp, displays.valueFor type = some disp → disp.type = type := by
  constructor
  · intro typed type disp found
    exact typed _ (KeyedVector.valueFor_eq_some_iff.mp found)
  · intro typed entry occurs
    exact typed _ _ (KeyedVector.valueFor_eq_some_iff.mpr occurs)

theorem Typed.add {displays : KeyedVector Nat DispInfo} (typed : Typed displays) {type : Nat}
    {disp : DispInfo} (own : disp.type = type) : Typed (displays.add type disp) := by
  rw [typed_iff] at typed ⊢
  intro other found isFound
  rw [KeyedVector.valueFor_add] at isFound
  split at isFound
  case isTrue same =>
    cases isFound
    rw [own, same]
  case isFalse => exact typed other found isFound

/-! ## What a configuration does -/

section Configuration

variable {type : Nat} {enable : Bool} {w h bufNum : Nat} {displays : KeyedVector Nat DispInfo}

/-- The entry of a type after a configuration. -/
theorem valueFor_configDispList (other : Nat) :
    (configDispList type enable w h bufNum displays).1.valueFor other =
      if other = type then
        if disables enable w h bufNum then none else some ⟨type, w, h, bufNum⟩
      else displays.valueFor other := by
  rw [configDispList]
  cases disables enable w h bufNum with
  | false => exact KeyedVector.valueFor_add displays type other _
  | true =>
      rw [if_pos rfl, if_pos rfl]
      cases found : displays.valueFor type with
      | none =>
          dsimp only
          split
          case isTrue same => rw [same, found]
          case isFalse => rfl
      | some disp =>
          simp only [KeyedVector.valueFor_removeItem]
          split
          case isTrue => rfl
          case isFalse apart =>
            split
            case isTrue => rw [KeyedVector.valueFor_removeItem, if_neg apart]
            case isFalse => rfl

theorem Typed.configDispList (typed : Typed displays) :
    Typed (configDispList type enable w h bufNum displays).1 := by
  rw [typed_iff] at typed ⊢
  intro other disp found
  rw [valueFor_configDispList] at found
  split at found
  case isTrue same =>
    split at found
    · cases found
    · cases found
      exact same.symm
  case isFalse => exact typed other disp found

/-- A configuration removes the entry of its type, if it disables it and there is one. -/
theorem configDispList_snd :
    (configDispList type enable w h bufNum displays).2 =
      if disables enable w h bufNum = true ∧ (displays.valueFor type).isSome
      then [.removed type] else [] := by
  rw [configDispList]
  cases disables enable w h bufNum with
  | false => rfl
  | true =>
      rw [if_pos rfl]
      cases found : displays.valueFor type with
      | none => rfl
      | some disp => rfl

end Configuration

/-! ## What an alloc does -/

section Alloc

variable {event : DisplayEvent Token} {state : DisplayState Token}

omit [DecidableEq Token]

/-- The first alloc adds the default entry. -/
theorem valueFor_allocDispList (type : Nat) :
    (allocDispList event state).1.valueFor type =
      if state.pool.pools.size = 0 ∧ type = hwcDisplayPrimary
      then some ⟨0, event.width, event.height, maxHwcDequeuedNum⟩
      else state.displays.valueFor type := by
  rw [allocDispList]
  by_cases none : state.pool.pools.size = 0
  · simp only [none, if_true, true_and]
    exact KeyedVector.valueFor_add state.displays hwcDisplayPrimary type _
  · simp only [none, if_false, false_and]

theorem allocDispList_snd :
    (allocDispList event state).2 =
      if state.pool.pools.size = 0 then [.defaulted] else [] := by
  rw [allocDispList]
  split <;> rfl

theorem Typed.allocDispList (typed : Typed state.displays) :
    Typed (allocDispList event state).1 := by
  rw [X3Hal.Gui.allocDispList]
  split
  · exact typed.add rfl
  · exact typed

end Alloc

/-! ## Runs -/

/-- A pool that was made has its queues, unless it is not for the composer. -/
def MadeSound : DisplayOutput → Prop
  | .made isHwcNeeded queues displays =>
      queues = (if isHwcNeeded then createBufferQueues displays else .empty) ∧ Typed displays
  | .defaulted | .removed _ => True

/-- The invariant of the displays of a run. -/
structure DisplaySound (history : History (DisplayEvent Token) DisplayOutput)
    (state : DisplayState Token) : Prop where
  configured : ∀ type ≠ hwcDisplayPrimary,
    state.displays.valueFor type = lastConfig type history.events
  typed : Typed state.displays
  /-- The pools see the numbers of buffers. -/
  agree : ∀ type, state.pool.displays.valueFor type =
    (state.displays.valueFor type).map fun disp => disp.bufNum
  defaulted : state.pool.pools.size ≠ 0 → .defaulted ∈ history.outputs
  present : Justified PrimaryEnabled history → .defaulted ∈ history.outputs →
    (state.displays.valueFor hwcDisplayPrimary).isSome
  primaryIff : Justified PrimaryStays history.outputs ↔ Justified PrimaryEnabled history
  made : ∀ output ∈ history.outputs, MadeSound output

omit [DecidableEq Token] in
theorem lastConfig_snoc (type : Nat) (events : List (DisplayEvent Token))
    (event : DisplayEvent Token) :
    lastConfig type (events ++ [event]) =
      match event.call with
      | .configDisplay other enable w h bufNum =>
          if other = type then
            if disables enable w h bufNum then none else some ⟨type, w, h, bufNum⟩
          else lastConfig type events
      | _ => lastConfig type events := by
  rw [lastConfig, List.foldl_append]
  rfl

section Steps

variable {history : History (DisplayEvent Token) DisplayOutput}
  {state : DisplayState Token} {event : DisplayEvent Token}

omit [DecidableEq Token]

/-- A call that neither configures nor allocates keeps the displays. -/
theorem DisplaySound.other (sound : DisplaySound history state) {pool : PoolState Token}
    (displays : pool.displays = state.pool.displays)
    (size : state.pool.pools.size = 0 → pool.pools.size = 0)
    (notConfig : ∀ type enable w h bufNum, event.call ≠ .configDisplay type enable w h bufNum) :
    DisplaySound (history ++ [(event, [])]) ⟨pool, state.displays⟩ := by
  have enabled : PrimaryEnabled history (event, ([] : List DisplayOutput)) := by
    intro (isDisabled : disablesPrimary event.call = true)
    cases isCall : event.call with
    | configDisplay type enable w h bufNum => exact absurd isCall (notConfig _ _ _ _ _)
    | alloc _ _ | free _ | acquire _ _ _ _ _ | release _ _ _ _ | disconnect _ _ _ _ | dies _ =>
        rw [isCall] at isDisabled
        cases isDisabled
  have allEnabled : Justified PrimaryEnabled (history ++ [(event, ([] : List DisplayOutput))]) ↔
      Justified PrimaryEnabled history := by
    rw [justified_snoc_iff]
    exact and_iff_left enabled
  have same : ∀ type, lastConfig type (history.events ++ [event]) =
      lastConfig type history.events := by
    intro type
    rw [lastConfig_snoc]
    split
    case h_1 isConfig => exact absurd isConfig (notConfig _ _ _ _ _)
    case h_2 => rfl
  constructor
  · intro type others
    rw [History.events_snoc, same]
    exact sound.configured type others
  · exact sound.typed
  · rw [displays]
    exact sound.agree
  · rw [History.outputs_snoc, List.append_nil]
    exact fun filled => sound.defaulted fun none => filled (size none)
  · rw [History.outputs_snoc, List.append_nil, allEnabled]
    exact sound.present
  · rw [History.outputs_snoc, List.append_nil, allEnabled]
    exact sound.primaryIff
  · rw [History.outputs_snoc, List.append_nil]
    exact sound.made

/-- A configuration. -/
theorem DisplaySound.config (sound : DisplaySound history state) {pool : PoolState Token}
    {type w h bufNum : Nat} {enable : Bool}
    (isConfig : event.call = .configDisplay type enable w h bufNum)
    (displays : pool.displays = configDisplay type enable w h bufNum state.pool.displays)
    (pools : pool.pools = state.pool.pools) :
    let next := configDispList type enable w h bufNum state.displays
    DisplaySound (history ++ [(event, next.2)]) ⟨pool, next.1⟩ := by
  intro next
  have enabledIff : Justified PrimaryEnabled (history ++ [(event, next.2)]) ↔
      Justified PrimaryEnabled history ∧
        (type = hwcDisplayPrimary ∧ disables enable w h bufNum = true →
          .defaulted ∉ history.outputs) := by
    have isDisabled : disablesPrimary event.call =
        decide (type = hwcDisplayPrimary ∧ disables enable w h bufNum) := by
      rw [isConfig]
      rfl
    rw [justified_snoc_iff, PrimaryEnabled, isDisabled, decide_eq_true_eq]
  have out : next.2 = if disables enable w h bufNum = true ∧ (state.displays.valueFor type).isSome
      then [.removed type] else [] := configDispList_snd
  have notDefaulted : .defaulted ∉ next.2 := by
    rw [out]
    split <;> simp
  constructor
  · intro other others
    rw [History.events_snoc, lastConfig_snoc, isConfig, valueFor_configDispList]
    dsimp only
    by_cases same : other = type
    · rw [if_pos same, if_pos same.symm, same]
    · rw [if_neg same, if_neg (Ne.symm same)]
      exact sound.configured other others
  · exact sound.typed.configDispList
  · intro other
    rw [displays, valueFor_configDispList, configDisplay]
    by_cases isDisabled : enable = false ∨ w = 0 ∨ h = 0 ∨ bufNum = 0
    · rw [if_pos isDisabled, disables, decide_eq_true isDisabled, KeyedVector.valueFor_removeItem,
        if_pos rfl, sound.agree]
      split <;> rfl
    · rw [if_neg isDisabled, disables, decide_eq_false isDisabled, KeyedVector.valueFor_add,
        sound.agree]
      split <;> rfl
  · rw [History.outputs_snoc, pools]
    exact fun filled => List.mem_append_left _ (sound.defaulted filled)
  · rw [enabledIff, History.outputs_snoc, valueFor_configDispList]
    rintro ⟨enabled, notDisabled⟩ isDefaulted
    have before := (List.mem_append.mp isDefaulted).resolve_right notDefaulted
    split
    case isTrue same =>
      split
      case isTrue isDisabled => exact absurd before (notDisabled ⟨same.symm, isDisabled⟩)
      case isFalse => rfl
    case isFalse => exact sound.present enabled before
  · rw [enabledIff, History.outputs_snoc, justified_append_iff, sound.primaryIff]
    apply and_congr_right
    intro enabled
    rw [out]
    split
    case isTrue removes =>
      rw [justified_singleton, PrimaryStays, List.append_nil, DisplayOutput.removed.injEq]
      exact ⟨fun stays both => stays both.1, fun stays same => stays ⟨same, removes.1⟩⟩
    case isFalse keeps =>
      refine iff_of_true justified_nil ?_
      rintro ⟨rfl, isDisabled⟩ before
      exact keeps ⟨isDisabled, sound.present enabled before⟩
  · rw [History.outputs_snoc]
    intro output occurs
    rcases List.mem_append.mp occurs with earlier | now
    · exact sound.made output earlier
    · rw [out] at now
      split at now
      · rw [List.mem_singleton.mp now]
        trivial
      · cases now

/-- An alloc that makes a pool. -/
theorem DisplaySound.alloc (sound : DisplaySound history state) {pool : PoolState Token}
    {token : Token} {isHwcNeeded : Bool} (isAlloc : event.call = .alloc token isHwcNeeded)
    (displays : pool.displays = state.pool.allocDisplays) :
    let next := allocDispList event state
    DisplaySound
      (history ++ [(event, next.2 ++ [.made isHwcNeeded
        (if isHwcNeeded then createBufferQueues next.1 else .empty) next.1])])
      ⟨pool, next.1⟩ := by
  intro next
  have allEnabled : ∀ out, Justified PrimaryEnabled (history ++ [(event, out)]) ↔
      Justified PrimaryEnabled history := by
    intro out
    rw [justified_snoc_iff]
    apply and_iff_left
    intro isDisabled
    rw [isAlloc] at isDisabled
    cases isDisabled
  have isDefaulted : .defaulted ∈ history.outputs ++ next.2 := by
    rw [allocDispList_snd]
    by_cases none : state.pool.pools.size = 0
    · rw [if_pos none]
      exact List.mem_append_right _ (List.mem_singleton_self _)
    · exact List.mem_append_left _ (sound.defaulted none)
  have present : Justified PrimaryEnabled history →
      (next.1.valueFor hwcDisplayPrimary).isSome := by
    intro enabled
    rw [valueFor_allocDispList]
    split
    case isTrue => rfl
    case isFalse filled =>
      exact sound.present enabled (sound.defaulted fun none => filled ⟨none, rfl⟩)
  have stays : ∀ output ∈ next.2 ++ [.made isHwcNeeded
      (if isHwcNeeded then createBufferQueues next.1 else .empty) next.1],
      ∀ before, PrimaryStays before output := by
    rintro output occurs before rfl
    rw [allocDispList_snd] at occurs
    split at occurs <;> simp at occurs
  constructor
  · intro type others
    rw [History.events_snoc, lastConfig_snoc, isAlloc, valueFor_allocDispList,
      if_neg fun both => others both.2]
    exact sound.configured type others
  · exact sound.typed.allocDispList
  · intro type
    rw [displays, PoolState.allocDisplays, valueFor_allocDispList]
    by_cases none : state.pool.pools.size = 0
    · simp only [none, if_true, true_and]
      rw [KeyedVector.valueFor_add, sound.agree]
      split <;> rfl
    · simp only [none, if_false, false_and]
      exact sound.agree type
  · rw [History.outputs_snoc, ← List.append_assoc]
    exact fun _ => List.mem_append_left _ isDefaulted
  · rw [allEnabled]
    exact fun enabled _ => present enabled
  · rw [allEnabled, History.outputs_snoc, justified_append_iff, sound.primaryIff]
    apply and_iff_left
    rintro before output after split
    exact stays output (split ▸ by simp) _
  · rw [History.outputs_snoc]
    intro output occurs
    rcases List.mem_append.mp occurs with earlier | now
    · exact sound.made output earlier
    · rcases List.mem_append.mp now with isDefault | isMade
      · rw [allocDispList_snd] at isDefault
        split at isDefault
        · rw [List.mem_singleton.mp isDefault]
          trivial
        · cases isDefault
      · rw [List.mem_singleton.mp isMade]
        exact ⟨rfl, sound.typed.allocDispList⟩

end Steps

theorem displaySound {history : History (DisplayEvent Token) DisplayOutput}
    {state : DisplayState Token} (run : (displaySystem Token).Run System.free history state) :
    DisplaySound history state := by
  induction run with
  | start starts =>
      rw [starts]
      exact ⟨fun _ _ => rfl, nofun, fun _ => rfl, fun filled => absurd rfl filled, nofun,
        iff_of_true justified_nil justified_nil, nofun⟩
  | @next history state after event out running guarded stepped ih =>
      obtain ⟨⟨pool, poolOut⟩, poolStepped, made⟩ := Option.map_eq_some_iff.mp stepped
      cases isCall : event.call with
      | configDisplay type enable w h bufNum =>
          rw [isCall] at made poolStepped
          cases poolStepped
          cases made
          exact ih.config isCall rfl rfl
      | alloc token isHwcNeeded =>
          rw [isCall] at made poolStepped
          dsimp only at made
          split at made
          case isTrue full =>
            have same : state.pool = pool := by
              rw [PoolState.step, PoolState.alloc, if_pos full] at poolStepped
              cases poolStepped
              rfl
            cases made
            rw [← same]
            exact ih.other rfl id fun _ _ _ _ _ isConfig => nomatch isCall.symm.trans isConfig
          case isFalse room =>
            cases made
            exact ih.alloc isCall (PoolState.step_alloc room poolStepped)
      | free _ | acquire _ _ _ _ _ | release _ _ _ _ | disconnect _ _ _ _ | dies _ =>
          have displays := PoolState.step_displays (by simp [isCall])
            (by simp [isCall]) poolStepped
          have size := PoolState.step_empty (by simp [isCall]) poolStepped
          rw [isCall] at made
          cases made
          exact ih.other displays size (by simp [isCall])

/-- The pools see the numbers of buffers of the list. -/
theorem displays_agree {history : History (DisplayEvent Token) DisplayOutput}
    {state : DisplayState Token} (run : (displaySystem Token).Run System.free history state)
    (type : Nat) :
    state.pool.displays.valueFor type = (state.displays.valueFor type).map fun disp =>
      disp.bufNum :=
  (displaySound run).agree type

/-- The list is kept exactly when the primary display is not disabled after its default. -/
theorem displaysKept_iff {history : History (DisplayEvent Token) DisplayOutput}
    {state : DisplayState Token} (run : (displaySystem Token).Run System.free history state) :
    DisplaysKept history state ↔ Justified PrimaryEnabled history := by
  have sound := displaySound run
  constructor
  · intro kept
    exact sound.primaryIff.mp kept.primary
  · intro enabled
    refine ⟨sound.configured, sound.primaryIff.mpr enabled, ?_⟩
    intro isHwcNeeded queues displays isMade
    obtain ⟨rfl, typed⟩ := sound.made _ isMade
    cases isHwcNeeded with
    | true => exact queuePerDisplay_createBufferQueues typed
    | false => rfl

/-- A second display comes and changes before a pool is made, and goes while the pool stays. -/
theorem displaysKept_two : ∃ history state,
    (displaySystem Nat).Run System.free history state ∧ DisplaysKept history state ∧
    history.events.map (·.call) =
      [.configDisplay 1 true 1280 720 3, .alloc 7 true, .configDisplay 0 true 1080 1920 4,
        .configDisplay 1 true 1920 1080 5, .alloc 8 true, .configDisplay 1 true 0 1080 5,
        .free 1] ∧
    state.displays.entries = [(0, ⟨0, 1080, 1920, 4⟩)] := by
  let calls : List (DisplayEvent Nat) := [.configDisplay 1 true 1280 720 3, .alloc 7 true,
    .configDisplay 0 true 1080 1920 4, .configDisplay 1 true 1920 1080 5, .alloc 8 true,
    .configDisplay 1 true 0 1080 5, .free 1].map fun call => ⟨call, 720, 1280⟩
  have run : (displaySystem Nat).Run System.free _ _ :=
    System.run_of_exec (displaySystem Nat) System.free calls rfl (by decide +kernel) rfl
  refine ⟨_, _, run, (displaysKept_iff run).mpr ?_, rfl, rfl⟩
  rintro before step after split isDisabled
  have none : ∀ call ∈ calls, disablesPrimary call.call = false := by decide
  have occurs : step.1 ∈ calls := by
    have isStep := congrArg History.events split
    rw [show calls = _ from isStep]
    simp [History.events]
  rw [none step.1 occurs] at isDisabled
  cases isDisabled

/-- The default entry of the primary display goes, and the pool after that has no queue. -/
theorem primary_lost : ∃ history state,
    (displaySystem Nat).Run System.free history state ∧ ¬ DisplaysKept history state ∧
    history.events.map (·.call) =
      [.alloc 7 true, .configDisplay 0 false 1080 1920 3, .alloc 8 true] ∧
    state.displays.entries = [] ∧
    state.pool.pools.entries.map (fun pool => pool.2.hwcUsedBqList.entries) = [[(0, 3)], []] := by
  let calls : List (DisplayEvent Nat) := [.alloc 7 true, .configDisplay 0 false 1080 1920 3,
    .alloc 8 true].map fun call => ⟨call, 1080, 1920⟩
  have run : (displaySystem Nat).Run System.free _ _ :=
    System.run_of_exec (displaySystem Nat) System.free calls rfl (by decide +kernel) rfl
  refine ⟨_, _, run, ?_, rfl, rfl, rfl⟩
  intro kept
  refine kept.primary [.defaulted, .made true _ _] (.removed 0) [.made true _ _] rfl rfl ?_
  exact List.mem_cons_self

end X3Hal.Gui
