import X3Hal.Gui.WatchDog
import X3Hal.Transition.Justified
import Mathlib.Data.List.Induction

/-!
# What the recipients of an anchor see

An anchor is reported between `onSetAnchor` and `onDelAnchor` only, and past its threshold only,
whatever the other threads do.
-/

namespace X3Hal.Gui

open X3Hal.Transition X3Hal.Registry

universe u v w

variable {Tid : Type u} {Dog : Type v} {Recipient : Type w}

/-! ## What the recipients see -/

variable {history : History (WatchDogEvent Tid Dog Recipient) (WatchDogOutput Tid Recipient)}
  {state after : WatchDogState Tid Dog Recipient}
  {outputs : List (WatchDogOutput Tid Recipient)} {id : Nat} {anchor : WdtAnchor Tid Recipient}

/-- The anchor that is set under an id and not deleted. -/
def anchorOf (id : Nat) (outputs : List (WatchDogOutput Tid Recipient)) :
    Option (WdtAnchor Tid Recipient) :=
  outputs.foldl
    (fun anchor output =>
      match output with
      | .onSetAnchor other set => if other = id then some set else anchor
      | .onDelAnchor other _ _ => if other = id then none else anchor
      | .onTimeout _ _ _ | .onTick _ _ | .setReturned _ _ | .delReturned _ _ _ => anchor)
    none

/-- What comes before a callback: an anchor is set under an id that is free; it is reported while
it is set, and only past its threshold; it is deleted once, by its own thread, and no report of it
is later than that. -/
def CallbackRule (before : List (WatchDogOutput Tid Recipient)) :
    WatchDogOutput Tid Recipient → Prop
  | .onSetAnchor id _ => id ≠ noAnchor ∧ anchorOf id before = none
  | .onTimeout id anchor now =>
      anchorOf id before = some anchor ∧ anchor.threshold < now - anchor.anchorTime
  | .onDelAnchor id anchor now =>
      anchorOf id before = some anchor ∧ ∀ time, .onTimeout id anchor time ∈ before → time ≤ now
  | .delReturned tid id true =>
      ∃ anchor now, anchor.tid = tid ∧ before.getLast? = some (.onDelAnchor id anchor now)
  | .delReturned _ _ false | .onTick _ _ | .setReturned _ _ => True

@[simp]
theorem anchorOf_onSetAnchor (other : Nat) :
    anchorOf id (outputs ++ [.onSetAnchor other anchor]) =
      if other = id then some anchor else anchorOf id outputs := by
  simp [anchorOf]

@[simp]
theorem anchorOf_onDelAnchor (other : Nat) (now : Int) :
    anchorOf id (outputs ++ [.onDelAnchor other anchor now]) =
      if other = id then none else anchorOf id outputs := by
  simp [anchorOf]

/-- An output that neither sets nor deletes an anchor. -/
def WatchDogOutput.quiet : WatchDogOutput Tid Recipient → Bool
  | .onSetAnchor _ _ | .onDelAnchor _ _ _ => false
  | .onTimeout _ _ _ | .onTick _ _ | .setReturned _ _ | .delReturned _ _ _ => true

theorem anchorOf_append_of_quiet {more : List (WatchDogOutput Tid Recipient)}
    (quiet : ∀ output ∈ more, output.quiet = true) (id : Nat) :
    anchorOf id (outputs ++ more) = anchorOf id outputs := by
  induction more using List.reverseRecOn with
  | nil => rw [List.append_nil]
  | append_singleton more output ih =>
      have earlier : anchorOf id (outputs ++ more) = anchorOf id outputs :=
        ih fun other occurs => quiet other (List.mem_append_left _ occurs)
      have last : output.quiet = true := quiet output (by simp)
      rw [← List.append_assoc, ← earlier]
      cases output with
      | onSetAnchor | onDelAnchor => cases last
      | onTimeout | onTick | setReturned | delReturned => simp [anchorOf]

/-- A round reports an anchor that has a time and is past its threshold. -/
theorem mem_scan_iff {now systemTime : Int} {entry : Nat × WdtAnchor Tid Recipient}
    {output : WatchDogOutput Tid Recipient} (positive : 0 < now) :
    output ∈ WatchDogState.scan now systemTime entry ↔
      output = .onTimeout entry.1 entry.2 now ∧ entry.2.anchorTime ≠ 0 ∧
        entry.2.threshold < now - entry.2.anchorTime := by
  rw [WatchDogState.scan, WdtAnchor.isTimeout, if_neg positive.ne']
  split
  case isTrue late => simpa using fun _ => of_decide_eq_true late
  case isFalse notLate =>
    rw [decide_eq_true_eq] at notLate
    simp [notLate]

/-! ## The invariant -/

namespace ClientPoint

/-- The anchor that a thread is about. -/
def id? : ClientPoint Tid Dog Recipient → Option Nat
  | .idle => none
  | .setting _ id _ | .adding _ id _ | .removing id _ | .removed id _ => some id

/-- The thread has an anchor that is set and not in the table. -/
def holds (id : Nat) (anchor : WdtAnchor Tid Recipient) : ClientPoint Tid Dog Recipient → Prop
  | .adding _ other own | .removed other own => other = id ∧ own = anchor
  | .idle | .setting _ _ _ | .removing _ _ => False

/-- What holds of the anchor of a thread. -/
def fits (outputs : List (WatchDogOutput Tid Recipient))
    (table : KeyedVector Nat (WdtAnchor Tid Recipient)) (objects : List Nat) (tid : Tid) :
    ClientPoint Tid Dog Recipient → Prop
  | .idle => True
  | .setting _ id anchor =>
      anchor.tid = tid ∧ 0 < anchor.anchorTime ∧ id ≠ noAnchor ∧ id ∈ objects ∧
        table.valueFor id = none ∧ anchorOf id outputs = none
  | .adding _ id anchor | .removed id anchor =>
      anchor.tid = tid ∧ id ∈ objects ∧ table.valueFor id = none ∧
        anchorOf id outputs = some anchor
  | .removing id anchor =>
      anchor.tid = tid ∧ id ∈ objects ∧ table.valueFor id = some anchor

end ClientPoint

/-- An anchor in the table is set; one that is set is in the table, or its thread has it. -/
structure Placed (outputs : List (WatchDogOutput Tid Recipient))
    (table : KeyedVector Nat (WdtAnchor Tid Recipient))
    (clients : Tid → ClientPoint Tid Dog Recipient) (objects : List Nat) (id : Nat) : Prop where
  set : ∀ anchor, table.valueFor id = some anchor →
    anchorOf id outputs = some anchor ∧ id ∈ objects
  found : ∀ anchor, anchorOf id outputs = some anchor →
    0 < anchor.anchorTime ∧
      (table.valueFor id = some anchor ∨ (clients anchor.tid).holds id anchor)

structure AnchorsSound (outputs : List (WatchDogOutput Tid Recipient))
    (table : KeyedVector Nat (WdtAnchor Tid Recipient))
    (clients : Tid → ClientPoint Tid Dog Recipient) (objects : List Nat) : Prop where
  placed : ∀ id, Placed outputs table clients objects id
  fits : ∀ tid, (clients tid).fits outputs table objects tid
  distinct : ∀ tid other id, (clients tid).id? = some id → (clients other).id? = some id →
    tid = other

/-- The time that the timer read for its loop over the table. -/
def LoopPoint.time : LoopPoint → Option Int
  | .locking now | .scanning now _ => some now
  | .top | .suspended | .awake | .ticking _ | .pausing | .sleeping | .done => none

/-- The outputs follow the rule, and no time is later than the clock. -/
structure WatchDogSound (history : History (WatchDogEvent Tid Dog Recipient)
    (WatchDogOutput Tid Recipient)) (state : WatchDogState Tid Dog Recipient) : Prop where
  rule : Justified CallbackRule history.outputs
  anchors : AnchorsSound history.outputs state.anchorTable state.clients state.objects
  clock : 0 < state.clock
  time : ∀ now, state.loop.time = some now → 0 < now ∧ now ≤ state.clock
  reported : ∀ id anchor time, .onTimeout id anchor time ∈ history.outputs → time ≤ state.clock

section Anchors

variable {table newTable : KeyedVector Nat (WdtAnchor Tid Recipient)}
  {clients : Tid → ClientPoint Tid Dog Recipient} {objects newObjects : List Nat}
  {newOutputs : List (WatchDogOutput Tid Recipient)} {tid : Tid} {dog : Dog}
  {point : ClientPoint Tid Dog Recipient}

/-- A thread is not concerned by what happens to other anchors. -/
theorem ClientPoint.fits_of_same (kept : point.fits outputs table objects tid)
    (sameAnchor : ∀ other ∈ point.id?, anchorOf other newOutputs = anchorOf other outputs)
    (sameEntry : ∀ other ∈ point.id?, newTable.valueFor other = table.valueFor other)
    (sameObject : ∀ other ∈ point.id?, other ∈ objects → other ∈ newObjects) :
    point.fits newOutputs newTable newObjects tid := by
  cases point with
  | idle => trivial
  | setting dog id anchor =>
      obtain ⟨own, positive, valid, allocated, absent, unset⟩ := kept
      exact ⟨own, positive, valid, sameObject id rfl allocated, (sameEntry id rfl).trans absent,
        (sameAnchor id rfl).trans unset⟩
  | adding dog id anchor =>
      obtain ⟨own, allocated, absent, isSet⟩ := kept
      exact ⟨own, sameObject id rfl allocated, (sameEntry id rfl).trans absent,
        (sameAnchor id rfl).trans isSet⟩
  | removing id anchor =>
      obtain ⟨own, allocated, present⟩ := kept
      exact ⟨own, sameObject id rfl allocated, (sameEntry id rfl).trans present⟩
  | removed id anchor =>
      obtain ⟨own, allocated, absent, isSet⟩ := kept
      exact ⟨own, sameObject id rfl allocated, (sameEntry id rfl).trans absent,
        (sameAnchor id rfl).trans isSet⟩

theorem ClientPoint.id?_of_holds (has : point.holds id anchor) : point.id? = some id := by
  cases point with
  | adding dog other own =>
      rw [← has.1]
      rfl
  | removed other own =>
      rw [← has.1]
      rfl
  | idle | setting dog other own | removing other own => cases has

theorem AnchorsSound.allocated_of_id? (sound : AnchorsSound outputs table clients objects)
    (about : (clients tid).id? = some id) : id ∈ objects := by
  have kept := sound.fits tid
  cases point : clients tid with
  | idle =>
      rw [point] at about
      cases about
  | setting dog other anchor =>
      rw [point] at kept about
      cases about
      exact kept.2.2.2.1
  | adding dog other anchor =>
      rw [point] at kept about
      cases about
      exact kept.2.1
  | removing other anchor =>
      rw [point] at kept about
      cases about
      exact kept.2.1
  | removed other anchor =>
      rw [point] at kept about
      cases about
      exact kept.2.1

theorem AnchorsSound.allocated_of_set (sound : AnchorsSound outputs table clients objects)
    (isSet : anchorOf id outputs = some anchor) : id ∈ objects := by
  rcases ((sound.placed id).found anchor isSet).2 with present | has
  · exact ((sound.placed id).set anchor present).2
  · exact sound.allocated_of_id? (ClientPoint.id?_of_holds has)

/-- Only the thread of an anchor in the table deletes it. -/
theorem AnchorsSound.only_owner (sound : AnchorsSound outputs table clients objects)
    (present : table.valueFor id = some anchor) {other : Tid}
    (about : (clients other).id? = some id) : other = anchor.tid := by
  have kept := sound.fits other
  cases point : clients other with
  | idle =>
      rw [point] at about
      cases about
  | setting dog own ownAnchor =>
      rw [point] at kept about
      cases about
      have absent := kept.2.2.2.2.1
      rw [present] at absent
      cases absent
  | adding dog own ownAnchor =>
      rw [point] at kept about
      cases about
      have absent := kept.2.2.1
      rw [present] at absent
      cases absent
  | removing own ownAnchor =>
      rw [point] at kept about
      cases about
      have same := kept.2.2
      rw [present] at same
      cases same
      exact kept.1.symm
  | removed own ownAnchor =>
      rw [point] at kept about
      cases about
      have absent := kept.2.2.1
      rw [present] at absent
      cases absent

/-- Outputs that set and delete nothing. -/
theorem AnchorsSound.append (sound : AnchorsSound outputs table clients objects)
    {more : List (WatchDogOutput Tid Recipient)} (quiet : ∀ output ∈ more, output.quiet = true) :
    AnchorsSound (outputs ++ more) table clients objects := by
  have same : ∀ id, anchorOf id (outputs ++ more) = anchorOf id outputs :=
    anchorOf_append_of_quiet quiet
  constructor
  · intro id
    constructor
    · rw [same]
      exact (sound.placed id).set
    · rw [same]
      exact (sound.placed id).found
  · intro tid
    exact ClientPoint.fits_of_same (sound.fits tid) (fun other _ => same other)
      (fun _ _ => rfl) (fun _ _ allocated => allocated)
  · exact sound.distinct

section Change

variable [DecidableEq Tid]

/-- A thread goes on with its own anchor. -/
theorem AnchorsSound.change (sound : AnchorsSound outputs table clients objects)
    (before : ∀ other ∈ (clients tid).id?, other = id) (after : ∀ other ∈ point.id?, other = id)
    (only : ∀ other, (clients other).id? = some id → other = tid)
    (sameAnchor : ∀ other ≠ id, anchorOf other newOutputs = anchorOf other outputs)
    (sameEntry : ∀ other ≠ id, newTable.valueFor other = table.valueFor other)
    (sameObject : ∀ other ≠ id, other ∈ objects → other ∈ newObjects)
    (placed : Placed newOutputs newTable (Function.update clients tid point) newObjects id)
    (fits : point.fits newOutputs newTable newObjects tid) :
    AnchorsSound newOutputs newTable (Function.update clients tid point) newObjects := by
  constructor
  · intro other
    rcases eq_or_ne other id with rfl | apart
    · exact placed
    · constructor
      · intro found present
        rw [sameEntry other apart] at present
        rw [sameAnchor other apart]
        exact ⟨((sound.placed other).set found present).1,
          sameObject other apart ((sound.placed other).set found present).2⟩
      · intro found isSet
        rw [sameAnchor other apart] at isSet
        rw [sameEntry other apart]
        apply ((sound.placed other).found found isSet).imp_right
        apply Or.imp_right
        intro has
        rcases eq_or_ne found.tid tid with same | differs
        · rw [same] at has
          exact absurd (before other (ClientPoint.id?_of_holds has)) apart
        · rwa [Function.update_of_ne differs]
  · intro other
    rcases eq_or_ne other tid with rfl | differs
    · rwa [Function.update_self]
    · rw [Function.update_of_ne differs]
      have apart : ∀ about ∈ (clients other).id?, about ≠ id := by
        rintro about isAbout rfl
        exact differs (only other isAbout)
      exact ClientPoint.fits_of_same (sound.fits other)
        (fun about isAbout => sameAnchor about (apart about isAbout))
        (fun about isAbout => sameEntry about (apart about isAbout))
        (fun about isAbout => sameObject about (apart about isAbout))
  · have ownOnly : ∀ other about, other ≠ tid → (clients other).id? = some about →
        point.id? ≠ some about := by
      intro other about differs isAbout same
      rw [after about same] at isAbout
      exact differs (only other isAbout)
    intro first second about isFirst isSecond
    rcases eq_or_ne first tid with rfl | firstDiffers
    · rcases eq_or_ne second first with rfl | secondDiffers
      · rfl
      · rw [Function.update_self] at isFirst
        rw [Function.update_of_ne secondDiffers] at isSecond
        exact absurd isFirst (ownOnly second about secondDiffers isSecond)
    · rw [Function.update_of_ne firstDiffers] at isFirst
      rcases eq_or_ne second tid with rfl | secondDiffers
      · rw [Function.update_self] at isSecond
        exact absurd isSecond (ownOnly first about firstDiffers isFirst)
      · rw [Function.update_of_ne secondDiffers] at isSecond
        exact sound.distinct first second about isFirst isSecond

/-- A thread allocates an anchor. -/
theorem AnchorsSound.allocate (sound : AnchorsSound outputs table clients objects)
    (idle : clients tid = .idle) (own : anchor.tid = tid) (positive : 0 < anchor.anchorTime)
    (valid : id ≠ noAnchor) (fresh : id ∉ objects) :
    AnchorsSound outputs table (Function.update clients tid (.setting dog id anchor))
      (id :: objects) := by
  have absent : table.valueFor id = none := by
    rw [Option.eq_none_iff_forall_ne_some]
    intro found present
    exact fresh ((sound.placed id).set found present).2
  have unset : anchorOf id outputs = none := by
    rw [Option.eq_none_iff_forall_ne_some]
    intro found isSet
    exact fresh (sound.allocated_of_set isSet)
  apply sound.change
  · rw [idle]
    rintro other ⟨⟩
  · rintro other ⟨⟩
    rfl
  · intro other about
    exact absurd (sound.allocated_of_id? about) fresh
  · exact fun _ _ => rfl
  · exact fun _ _ => rfl
  · exact fun _ _ => List.mem_cons_of_mem id
  · constructor
    · rw [absent]
      rintro found ⟨⟩
    · rw [unset]
      rintro found ⟨⟩
  · exact ⟨own, positive, valid, List.mem_cons_self, absent, unset⟩

/-- `onSetAnchor` -/
theorem AnchorsSound.announce (sound : AnchorsSound outputs table clients objects)
    (at_ : clients tid = .setting dog id anchor) :
    AnchorsSound (outputs ++ [.onSetAnchor id anchor]) table
      (Function.update clients tid (.adding dog id anchor)) objects := by
  have kept := sound.fits tid
  rw [at_] at kept
  obtain ⟨own, positive, -, allocated, absent, -⟩ := kept
  apply sound.change
  · rw [at_]
    rintro other ⟨⟩
    rfl
  · rintro other ⟨⟩
    rfl
  · intro other about
    exact sound.distinct other tid id about (by rw [at_]; rfl)
  · intro other apart
    rw [anchorOf_onSetAnchor, if_neg apart.symm]
  · exact fun _ _ => rfl
  · exact fun _ _ allocated => allocated
  · constructor
    · rw [absent]
      rintro found ⟨⟩
    · intro found isSet
      rw [anchorOf_onSetAnchor, if_pos rfl] at isSet
      cases isSet
      refine ⟨positive, Or.inr ?_⟩
      rw [own, Function.update_self]
      exact ⟨rfl, rfl⟩
  · refine ⟨own, allocated, absent, ?_⟩
    rw [anchorOf_onSetAnchor, if_pos rfl]

/-- `setAnchor` puts the anchor into the table. -/
theorem AnchorsSound.add (sound : AnchorsSound outputs table clients objects)
    (at_ : clients tid = .adding dog id anchor) :
    AnchorsSound outputs (table.add id anchor) (Function.update clients tid .idle) objects := by
  have kept := sound.fits tid
  rw [at_] at kept
  obtain ⟨own, allocated, -, isSet⟩ := kept
  apply sound.change
  · rw [at_]
    rintro other ⟨⟩
    rfl
  · rintro other ⟨⟩
  · intro other about
    exact sound.distinct other tid id about (by rw [at_]; rfl)
  · exact fun _ _ => rfl
  · exact fun other apart => KeyedVector.valueFor_add_of_ne apart table anchor
  · exact fun _ _ allocated => allocated
  · constructor
    · rw [KeyedVector.valueFor_add_self]
      rintro found ⟨⟩
      exact ⟨isSet, allocated⟩
    · intro found isFound
      rw [isSet] at isFound
      cases isFound
      exact ⟨((sound.placed id).found anchor isSet).1, Or.inl (by simp)⟩
  · trivial

/-- `delAnchor` finds an anchor of its thread. -/
theorem AnchorsSound.find (sound : AnchorsSound outputs table clients objects)
    (idle : clients tid = .idle) (present : table.valueFor id = some anchor)
    (own : anchor.tid = tid) :
    AnchorsSound outputs table (Function.update clients tid (.removing id anchor)) objects := by
  apply sound.change
  · rw [idle]
    rintro other ⟨⟩
  · rintro other ⟨⟩
    rfl
  · intro other about
    exact (sound.only_owner present about).trans own
  · exact fun _ _ => rfl
  · exact fun _ _ => rfl
  · exact fun _ _ allocated => allocated
  · constructor
    · exact (sound.placed id).set
    · intro found isSet
      rw [((sound.placed id).set anchor present).1] at isSet
      cases isSet
      exact ⟨((sound.placed id).found anchor ((sound.placed id).set anchor present).1).1,
        Or.inl present⟩
  · exact ⟨own, ((sound.placed id).set anchor present).2, present⟩

/-- `delAnchor` takes the anchor from the table. -/
theorem AnchorsSound.remove (sound : AnchorsSound outputs table clients objects)
    (at_ : clients tid = .removing id anchor) :
    AnchorsSound outputs (table.removeItem id) (Function.update clients tid (.removed id anchor))
      objects := by
  have kept := sound.fits tid
  rw [at_] at kept
  obtain ⟨own, allocated, present⟩ := kept
  have isSet : anchorOf id outputs = some anchor := ((sound.placed id).set anchor present).1
  have absent : (table.removeItem id).valueFor id = none := by
    rw [KeyedVector.valueFor_removeItem, if_pos rfl]
  apply sound.change
  · rw [at_]
    rintro other ⟨⟩
    rfl
  · rintro other ⟨⟩
    rfl
  · intro other about
    exact sound.distinct other tid id about (by rw [at_]; rfl)
  · exact fun _ _ => rfl
  · intro other apart
    rw [KeyedVector.valueFor_removeItem, if_neg apart]
  · exact fun _ _ allocated => allocated
  · constructor
    · rw [absent]
      rintro found ⟨⟩
    · intro found isFound
      rw [isSet] at isFound
      cases isFound
      refine ⟨((sound.placed id).found anchor isSet).1, Or.inr ?_⟩
      rw [own, Function.update_self]
      exact ⟨rfl, rfl⟩
  · exact ⟨own, allocated, absent, isSet⟩

/-- `onDelAnchor`, and the anchor goes. -/
theorem AnchorsSound.drop (sound : AnchorsSound outputs table clients objects)
    (at_ : clients tid = .removed id anchor) (now : Int) :
    AnchorsSound (outputs ++ [.onDelAnchor id anchor now]) table
      (Function.update clients tid .idle) (objects.erase id) := by
  have kept := sound.fits tid
  rw [at_] at kept
  obtain ⟨own, -, absent, -⟩ := kept
  apply sound.change
  · rw [at_]
    rintro other ⟨⟩
    rfl
  · rintro other ⟨⟩
  · intro other about
    exact sound.distinct other tid id about (by rw [at_]; rfl)
  · intro other apart
    rw [anchorOf_onDelAnchor, if_neg apart.symm]
  · exact fun _ _ => rfl
  · exact fun other apart => (List.mem_erase_of_ne apart).mpr
  · constructor
    · rw [absent]
      rintro found ⟨⟩
    · intro found isSet
      rw [anchorOf_onDelAnchor, if_pos rfl] at isSet
      cases isSet
  · trivial

end Change

end Anchors

/-! ## The runs -/

variable [DecidableEq Tid] [DecidableEq Dog]

namespace WatchDogSound

variable {event : WatchDogEvent Tid Dog Recipient} {more : List (WatchDogOutput Tid Recipient)}

omit [DecidableEq Tid] [DecidableEq Dog] in
/-- A step whose outputs set and delete nothing and report nothing. -/
theorem silent (sound : WatchDogSound history state)
    (anchors : AnchorsSound history.outputs after.anchorTable after.clients after.objects)
    (clock : after.clock = state.clock) (time : after.loop.time = state.loop.time ∨
      after.loop.time = none)
    (quiet : ∀ output ∈ more, (∃ tid id, output = .setReturned tid id) ∨
      (∃ tid id, output = .delReturned tid id false) ∨ ∃ notify now, output = .onTick notify now) :
    WatchDogSound (history ++ [(event, more)]) after := by
  have calm : ∀ output ∈ more, output.quiet = true := by
    intro output occurs
    rcases quiet output occurs with ⟨_, _, rfl⟩ | ⟨_, _, rfl⟩ | ⟨_, _, rfl⟩ <;> rfl
  have free : ∀ before, ∀ output ∈ more, CallbackRule before output := by
    intro before output occurs
    rcases quiet output occurs with ⟨_, _, rfl⟩ | ⟨_, _, rfl⟩ | ⟨_, _, rfl⟩ <;> trivial
  constructor
  · rw [History.outputs_snoc, justified_append_iff]
    constructor
    · exact sound.rule
    · rintro before output later rfl
      exact free _ output (by simp)
  · rw [History.outputs_snoc]
    exact anchors.append calm
  · rw [clock]
    exact sound.clock
  · intro now isTime
    rw [clock]
    rcases time with same | none
    · exact sound.time now (same ▸ isTime)
    · rw [none] at isTime
      cases isTime
  · intro id anchor time occurs
    rw [clock]
    rw [History.outputs_snoc, List.mem_append] at occurs
    rcases occurs with earlier | later
    · exact sound.reported id anchor time earlier
    · rcases quiet _ later with ⟨_, _, same⟩ | ⟨_, _, same⟩ | ⟨_, _, same⟩ <;> cases same

theorem timerSetAnchor (sound : WatchDogSound history state) {tid : Tid} {dog : Dog}
    {notify : Option Recipient} {threshold : Int} {msg : String} {object : Option Nat} {now : Int}
    (idle : state.clients tid = .idle)
    (stepped : state.timerSetAnchor tid dog notify threshold msg object now = some (after, more)) :
    WatchDogSound (history ++ [(event, more)]) after := by
  unfold WatchDogState.timerSetAnchor at stepped
  split at stepped
  case h_1 | h_2 =>
    cases stepped
    apply sound.silent
    · exact sound.anchors
    · rfl
    · exact Or.inl rfl
    · intro output occurs
      exact Or.inl ⟨tid, noAnchor, List.mem_singleton.mp occurs⟩
  case h_3 notify id =>
    split at stepped
    case isTrue => cases stepped
    case isFalse possible =>
      cases stepped
      rw [not_or, not_or, not_lt] at possible
      obtain ⟨valid, fresh, later⟩ := possible
      constructor
      · rw [History.outputs_snoc, List.append_nil]
        exact sound.rule
      · rw [History.outputs_snoc, List.append_nil]
        exact sound.anchors.allocate idle rfl (lt_of_lt_of_le sound.clock later) valid fresh
      · exact lt_of_lt_of_le sound.clock later
      · intro time isTime
        exact ⟨(sound.time time isTime).1, (sound.time time isTime).2.trans later⟩
      · intro id anchor time occurs
        rw [History.outputs_snoc, List.append_nil] at occurs
        exact (sound.reported id anchor time occurs).trans later

theorem setAnchor (sound : WatchDogSound history state) {tid : Tid} {dog : Dog} {msg : String}
    {threshold : Int} {object : Option Nat} {now : Int}
    (stepped : state.setAnchor tid dog msg threshold object now = some (after, more)) :
    WatchDogSound (history ++ [(event, more)]) after := by
  rw [WatchDogState.setAnchor] at stepped
  split at stepped
  case h_1 idle _ => exact sound.timerSetAnchor idle stepped
  case h_2 => cases stepped

omit [DecidableEq Dog] in
theorem delAnchor (sound : WatchDogSound history state) {tid : Tid} {id : Nat}
    (stepped : state.delAnchor tid id = some (after, more)) :
    WatchDogSound (history ++ [(event, more)]) after := by
  rw [WatchDogState.delAnchor] at stepped
  split at stepped
  case h_2 => cases stepped
  case h_1 idle =>
    split at stepped
    case h_1 =>
      cases stepped
      apply sound.silent
      · exact sound.anchors
      · rfl
      · exact Or.inl rfl
      · intro output occurs
        exact Or.inr (Or.inl ⟨tid, id, List.mem_singleton.mp occurs⟩)
    case h_2 anchor present =>
      split at stepped
      case isTrue =>
        cases stepped
        apply sound.silent
        · exact sound.anchors
        · rfl
        · exact Or.inl rfl
        · intro output occurs
          exact Or.inr (Or.inl ⟨tid, id, List.mem_singleton.mp occurs⟩)
      case isFalse own =>
        cases stepped
        apply sound.silent
        · exact sound.anchors.find idle present (not_not.mp own)
        · rfl
        · exact Or.inl rfl
        · exact List.forall_mem_nil _

theorem client (sound : WatchDogSound history state) {tid : Tid} {now : Int}
    (stepped : state.client tid now = some (after, more)) :
    WatchDogSound (history ++ [(event, more)]) after := by
  have kept := sound.anchors.fits tid
  rw [WatchDogState.client] at stepped
  split at stepped
  case h_1 => cases stepped
  case h_2 dog id anchor isSetting =>
    cases stepped
    rw [isSetting] at kept
    obtain ⟨-, -, valid, -, -, unset⟩ := kept
    constructor
    · rw [History.outputs_snoc, justified_snoc_iff]
      exact ⟨sound.rule, valid, unset⟩
    · rw [History.outputs_snoc]
      exact sound.anchors.announce isSetting
    · exact sound.clock
    · exact sound.time
    · intro id anchor time occurs
      rw [History.outputs_snoc, List.mem_append] at occurs
      rcases occurs with earlier | later
      · exact sound.reported id anchor time earlier
      · cases List.mem_singleton.mp later
  case h_3 dog id anchor isAdding =>
    split at stepped
    case isTrue => cases stepped
    case isFalse =>
      cases stepped
      apply sound.silent
      · exact sound.anchors.add isAdding
      · rfl
      · exact Or.inl rfl
      · intro output occurs
        exact Or.inl ⟨tid, id, List.mem_singleton.mp occurs⟩
  case h_4 id anchor isRemoving =>
    split at stepped
    case isTrue => cases stepped
    case isFalse =>
      cases stepped
      apply sound.silent
      · exact sound.anchors.remove isRemoving
      · rfl
      · exact Or.inl rfl
      · exact List.forall_mem_nil _
  case h_5 id anchor isRemoved =>
    split at stepped
    case isTrue => cases stepped
    case isFalse later =>
      cases stepped
      rw [not_lt] at later
      rw [isRemoved] at kept
      obtain ⟨own, -, -, isSet⟩ := kept
      have times : ∀ other report time, .onTimeout other report time ∈ history.outputs →
          time ≤ now := fun other report time occurs =>
        (sound.reported other report time occurs).trans later
      have split : history.outputs ++ [.onDelAnchor id anchor now, .delReturned tid id true] =
          (history.outputs ++ [.onDelAnchor id anchor now]) ++ [.delReturned tid id true] := by
        rw [List.append_assoc]
        rfl
      constructor
      · rw [History.outputs_snoc, split, justified_snoc_iff, justified_snoc_iff]
        constructor
        · exact ⟨sound.rule, isSet, times id anchor⟩
        · exact ⟨anchor, now, own, by simp⟩
      · rw [History.outputs_snoc, split]
        apply (sound.anchors.drop isRemoved now).append
        intro output occurs
        rw [List.mem_singleton.mp occurs]
        rfl
      · exact lt_of_lt_of_le sound.clock later
      · intro time isTime
        exact ⟨(sound.time time isTime).1, (sound.time time isTime).2.trans later⟩
      · intro other report time occurs
        rw [History.outputs_snoc, split, List.mem_append, List.mem_append] at occurs
        rcases occurs with (earlier | deletion) | return_
        · exact times other report time earlier
        · cases List.mem_singleton.mp deletion
        · cases List.mem_singleton.mp return_

omit [DecidableEq Tid] [DecidableEq Dog] in
/-- A round of the loop over the table. -/
theorem scan (sound : WatchDogSound history state) {now systemTime : Int} {idx : Nat}
    {entry : Nat × WdtAnchor Tid Recipient} (isScanning : state.loop = .scanning now idx)
    (isEntry : state.anchorTable.entries[idx]? = some entry) :
    WatchDogSound (history ++ [(event, WatchDogState.scan now systemTime entry)])
      { state with loop := .scanning now (idx + 1) } := by
  obtain ⟨positive, bounded⟩ := sound.time now (by rw [isScanning]; rfl)
  have present : state.anchorTable.valueFor entry.1 = some entry.2 :=
    KeyedVector.valueFor_eq_some_iff.mpr (List.mem_of_getElem? isEntry)
  have isSet := ((sound.anchors.placed entry.1).set entry.2 present).1
  have reports : ∀ output ∈ WatchDogState.scan now systemTime entry,
      output = .onTimeout entry.1 entry.2 now ∧
        entry.2.threshold < now - entry.2.anchorTime := by
    intro output occurs
    rw [mem_scan_iff positive] at occurs
    exact ⟨occurs.1, occurs.2.2⟩
  constructor
  · rw [History.outputs_snoc, justified_append_iff]
    constructor
    · exact sound.rule
    · rintro before output later split
      obtain ⟨rfl, late⟩ := reports output (by rw [split]; simp)
      have quiet : ∀ other ∈ before, other.quiet = true := by
        intro other occurs
        rw [(reports other (by rw [split]; simp [occurs])).1]
        rfl
      exact ⟨(anchorOf_append_of_quiet quiet entry.1).trans isSet, late⟩
  · rw [History.outputs_snoc]
    apply sound.anchors.append
    intro output occurs
    rw [(reports output occurs).1]
    rfl
  · exact sound.clock
  · rintro time ⟨⟩
    exact ⟨positive, bounded⟩
  · intro id anchor time occurs
    rw [History.outputs_snoc, List.mem_append] at occurs
    rcases occurs with earlier | later
    · exact sound.reported id anchor time earlier
    · cases (reports _ later).1
      exact bounded

omit [DecidableEq Tid] [DecidableEq Dog] in
theorem threadLoop (sound : WatchDogSound history state) {systemTime : Int}
    (stepped : state.threadLoop systemTime = some (after, more)) :
    WatchDogSound (history ++ [(event, more)]) after := by
  rw [WatchDogState.threadLoop] at stepped
  split at stepped
  case h_1 =>
    cases stepped
    apply sound.silent
    · exact sound.anchors
    · rfl
    · right
      dsimp only
      split <;> rfl
    · exact List.forall_mem_nil _
  case h_2 =>
    split at stepped
    case isTrue =>
      cases stepped
      apply sound.silent
      · exact sound.anchors
      · rfl
      · exact Or.inr rfl
      · exact List.forall_mem_nil _
    case isFalse =>
      split at stepped
      case isTrue => cases stepped
      case isFalse later =>
        cases stepped
        rw [not_lt] at later
        constructor
        · rw [History.outputs_snoc, List.append_nil]
          exact sound.rule
        · rw [History.outputs_snoc, List.append_nil]
          exact sound.anchors
        · exact lt_of_lt_of_le sound.clock later
        · rintro now ⟨⟩
          exact ⟨lt_of_lt_of_le sound.clock later, le_refl _⟩
        · intro id anchor time occurs
          rw [History.outputs_snoc, List.append_nil] at occurs
          exact (sound.reported id anchor time occurs).trans later
  case h_3 now isLocking =>
    cases stepped
    apply sound.silent
    · exact sound.anchors
    · rfl
    · exact Or.inl (by rw [isLocking]; rfl)
    · exact List.forall_mem_nil _
  case h_4 now idx isScanning =>
    split at stepped
    case h_1 entry isEntry =>
      cases stepped
      exact sound.scan isScanning isEntry
    case h_2 =>
      cases stepped
      apply sound.silent
      · exact sound.anchors
      · rfl
      · exact Or.inr rfl
      · exact List.forall_mem_nil _
  case h_5 now _ =>
    cases stepped
    apply sound.silent
    · exact sound.anchors
    · rfl
    · exact Or.inr rfl
    · intro output occurs
      obtain ⟨notify, -, rfl⟩ := Option.map_eq_some_iff.mp (Option.mem_toList.mp occurs)
      exact Or.inr (Or.inr ⟨notify, now, rfl⟩)
  case h_6 =>
    cases stepped
    apply sound.silent
    · exact sound.anchors
    · rfl
    · right
      dsimp only
      split <;> rfl
    · exact List.forall_mem_nil _
  case h_7 | h_8 | h_9 => cases stepped

theorem step (sound : WatchDogSound history state)
    (stepped : watchDog.step state event = some (after, more)) :
    WatchDogSound (history ++ [(event, more)]) after := by
  cases event with
  | setAnchor tid dog msg threshold object now => exact sound.setAnchor stepped
  | delAnchor tid id => exact sound.delAnchor stepped
  | client tid now => exact sound.client stepped
  | loop now => exact sound.threadLoop stepped
  | wake =>
      obtain ⟨woken, wakes, same⟩ := Option.map_eq_some_iff.mp stepped
      cases same
      rw [WatchDogState.wake] at wakes
      split at wakes
      case h_1 | h_2 =>
        cases wakes
        apply sound.silent
        · exact sound.anchors
        · rfl
        · exact Or.inr rfl
        · exact List.forall_mem_nil _
      case h_3 => cases wakes
  | suspend | resume | requestExit | setTimer | setTickNotify =>
      cases stepped
      apply sound.silent
      · exact sound.anchors
      · rfl
      · exact Or.inl rfl
      · exact List.forall_mem_nil _
  | setWdtNotify dog notify | setThreshold dog threshold =>
      obtain ⟨changed, changes, same⟩ := Option.map_eq_some_iff.mp stepped
      cases same
      rw [WatchDogState.setOf] at changes
      split at changes
      case isTrue => cases changes
      case isFalse =>
        cases changes
        apply sound.silent
        · exact sound.anchors
        · rfl
        · exact Or.inl rfl
        · exact List.forall_mem_nil _

omit [DecidableEq Tid] [DecidableEq Dog] in
theorem start (starts : state.Starts) :
    WatchDogSound ([] : History (WatchDogEvent Tid Dog Recipient) _) state := by
  constructor
  · exact justified_nil
  · rw [starts.table]
    constructor
    · intro id
      constructor
      · rintro anchor ⟨⟩
      · rintro anchor ⟨⟩
    · intro tid
      rw [starts.clients]
      trivial
    · intro tid other id about
      rw [starts.clients] at about
      cases about
  · exact starts.clock
  · intro now isTime
    rw [starts.loop] at isTime
    cases isTime
  · intro id anchor time occurs
    cases occurs

end WatchDogSound

theorem watchDog_sound (running : watchDog.Run System.free history state) :
    WatchDogSound history state := by
  induction running with
  | start starts => exact WatchDogSound.start starts
  | next earlier _ stepped ih => exact ih.step stepped

/-- Every callback follows the rule; and an anchor that is deleted in time is never reported. -/
theorem callbacks_follow_rule (running : watchDog.Run System.free history state) :
    Justified CallbackRule history.outputs ∧
      ∀ before id anchor now later,
        history.outputs = before ++ .onDelAnchor id anchor now :: later →
          now - anchor.anchorTime ≤ anchor.threshold →
            ∀ time, .onTimeout id anchor time ∉ before := by
  have rule := (watchDog_sound running).rule
  constructor
  · exact rule
  · intro before id anchor now later split inTime time reported
    have notLater : time ≤ now := (rule before _ later split).2 time reported
    obtain ⟨first, rest, isReport⟩ := List.append_of_mem reported
    have late : anchor.threshold < time - anchor.anchorTime := by
      apply (rule first (.onTimeout id anchor time) (rest ++ .onDelAnchor id anchor now :: later)
        _).2
      rw [split, isReport, List.append_assoc, List.cons_append]
    omega

/-- A process with one watchdog, of a threshold in nanoseconds. -/
def freshWatchDog (threshold : Int) : WatchDogState Nat Unit String where
  anchorTable := .empty
  tickNotify := some "tick"
  suspend := false
  timer := ms2ns defaultTimer
  exitPending := false
  loop := .top
  clients := fun _ => .idle
  dogs := fun _ => ⟨threshold, some "dog", false⟩
  objects := []
  clock := 1

theorem freshWatchDog_starts (threshold : Int) : (freshWatchDog threshold).Starts :=
  ⟨rfl, rfl, rfl, fun _ => rfl, fun _ => rfl, rfl, Int.one_pos⟩

/-- A thread sets an anchor at 5, and the timer finds it at 20. -/
def lateAnchorEvents : List (WatchDogEvent Nat Unit String) :=
  [.setAnchor 7 () "late" (-1) (some 4096) 5, .client 7 5, .client 7 5, .loop 20, .loop 20,
    .loop 20, .loop 20]

/-- Another thread cannot delete the anchor; its own does. -/
theorem callbacks_of_late_anchor :
    ∃ history after, watchDog.Run System.free history after ∧
      (Justified CallbackRule history.outputs ∧
        ∀ before id anchor now later,
          history.outputs = before ++ .onDelAnchor id anchor now :: later →
            now - anchor.anchorTime ≤ anchor.threshold →
              ∀ time, .onTimeout id anchor time ∉ before) ∧
      history.outputs = [.onSetAnchor 4096 ⟨5, 10, "late", 7, "dog"⟩, .setReturned 7 4096,
        .onTimeout 4096 ⟨5, 10, "late", 7, "dog"⟩ 20, .onTick "tick" 20,
        .delReturned 8 4096 false, .onDelAnchor 4096 ⟨5, 10, "late", 7, "dog"⟩ 30,
        .delReturned 7 4096 true] ∧
      history.events = lateAnchorEvents ++ [.loop 20, .loop 20, .delAnchor 8 4096,
        .delAnchor 7 4096, .client 7 30, .client 7 30] :=
  System.exists_run_with (fun final => final.1.outputs)
    (fun _ _ running => callbacks_follow_rule running) (freshWatchDog_starts 10) rfl rfl

end X3Hal.Gui
