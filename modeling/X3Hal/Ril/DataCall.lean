import Mathlib.Data.List.Pairwise
import Mathlib.Logic.Function.Basic
import Mathlib.Data.List.FinRange
import X3Hal.Transition.Core
import X3Hal.Ril.Commands

/-!
# The interface ids of data calls

A set-up request names the first free entry of `dataCallCids`, which all sockets
share, as its interface id; the entry is filled when the response arrives, at
whatever entry is the first free one then.  A deactivation frees the first entry
with its connection id when it is requested.
-/

namespace X3Hal.Ril

open X3Hal.Transition

/-- The table of connection ids; -1 marks a free entry. -/
abbrev DataCallCids :=
  Fin 5 → Int

/-- The loop that both requests and the response run: the first of the first four
entries with a connection id, or the fifth entry. -/
def firstWith (cids : DataCallCids) (cid : Int) : Fin 5 :=
  ((List.finRange 4).find? fun index => decide (cids index.castSucc = cid)).elim 4 Fin.castSucc

/-- A data call. -/
structure DataCall where
  uid : Nat
  socketId : Slot
  /-- The interface id handed to the modem, when one is. -/
  interfaceId : Option Nat
  /-- The connection id the modem chose; -1 until it has. -/
  cid : Int
  deriving DecidableEq, Repr

/-- The table and the calls.  A call whose deactivation the modem has not answered
is still active there: it is listed in `deactivating` and no longer in `active`. -/
structure DataCalls where
  dataCallCids : DataCallCids
  settingUp : List DataCall
  active : List DataCall
  deactivating : List DataCall
  issued : Nat

def DataCalls.initial : DataCalls :=
  ⟨fun _ => -1, [], [], [], 0⟩

/-- The calls that are active at the modem, from the successful set-up to the
answer to the deactivation. -/
def DataCalls.live (state : DataCalls) : List DataCall :=
  state.active ++ state.deactivating

inductive DataCallOutput
  | setupDataCall (uid : Nat) (socketId : Slot) (interfaceId : Option Nat)
  | rejected (socketId : Slot)
  | deactivateDataCall (socketId : Slot) (cid : Int)
  deriving DecidableEq, Repr

inductive DataCallEvent
  | setupDataCall (slotId : Slot) (mvnoTypeKnown : Bool)
  /-- A set-up is answered: whether it succeeded, the connection id of the payload
  if there is a payload of the right size, and whether the client is connected. -/
  | setupDataCallResponse (uid : Nat) (succeeded : Bool) (payload : Option Int)
      (connected : Bool)
  | deactivateDataCall (slotId : Slot) (cid : Int)
  | deactivateDataCallResponse (uid : Nat) (succeeded : Bool)
  deriving DecidableEq, Repr

namespace DataCalls

/-- The interface id of a new call: one more than the index of the first free entry. -/
def nextInterfaceId (cids : DataCallCids) : Nat :=
  let index := firstWith cids (-1)
  if index.val < 4 then index.val + 1 else 0

/-- A set-up request goes to the modem. -/
def request (state : DataCalls) (slotId : Slot) (interfaceId : Option Nat) :
    DataCalls × List DataCallOutput :=
  ({ state with
      settingUp := ⟨state.issued, slotId, interfaceId, -1⟩ :: state.settingUp
      issued := state.issued + 1 },
    [.setupDataCall state.issued slotId interfaceId])

/-- `RadioImpl::setupDataCall`. -/
def setupDataCall (version : Int) (state : DataCalls) (slotId : Slot) (mvnoTypeKnown : Bool) :
    DataCalls × List DataCallOutput :=
  if 4 ≤ version ∧ version ≤ 14 then
    state.request slotId (some (nextInterfaceId state.dataCallCids))
  else if 15 ≤ version then
    if mvnoTypeKnown then state.request slotId none else (state, [.rejected slotId])
  else (state, [.rejected slotId])

/-- The table after a response; it depends on the payload alone, not on the outcome. -/
def filled (cids : DataCallCids) (payload : Option Int) (connected : Bool) : DataCallCids :=
  match payload with
  | none => cids
  | some cid => if connected then Function.update cids (firstWith cids (-1)) cid else cids

/-- `setupDataCallResponse`; a call is active when its set-up succeeded. -/
def setupDataCallResponse (state : DataCalls) (uid : Nat) (succeeded : Bool)
    (payload : Option Int) (connected : Bool) : Option DataCalls :=
  match state.settingUp.find? (fun call => call.uid = uid) with
  | none => none
  | some call =>
      let answered := { state with
        dataCallCids := filled state.dataCallCids payload connected
        settingUp := state.settingUp.eraseP (fun call => call.uid = uid) }
      match succeeded, payload with
      | true, some cid => some { answered with active := { call with cid } :: state.active }
      | true, none => none
      | false, _ => some answered

/-- The table after a deactivation was requested. -/
def freed (cids : DataCallCids) (cid : Int) : DataCallCids :=
  let index := firstWith cids cid
  if index.val < 4 then Function.update cids index (-1) else cids

/-- Whether a deactivation request is for a call. -/
def meant (slotId : Slot) (cid : Int) (call : DataCall) : Bool :=
  decide (call.socketId = slotId ∧ call.cid = cid)

/-- `RadioImpl::deactivateDataCall`. -/
def deactivateDataCall (state : DataCalls) (slotId : Slot) (cid : Int) :
    DataCalls × List DataCallOutput :=
  ({ state with
      dataCallCids := freed state.dataCallCids cid
      active := state.active.filter (fun call => !meant slotId cid call)
      deactivating := state.deactivating ++ state.active.filter (meant slotId cid) },
    [.deactivateDataCall slotId cid])

/-- A deactivation is answered; the call goes on when it failed. -/
def deactivateDataCallResponse (state : DataCalls) (uid : Nat) (succeeded : Bool) :
    Option DataCalls :=
  match state.deactivating.find? (fun call => call.uid = uid) with
  | none => none
  | some call =>
      let answered := { state with
        deactivating := state.deactivating.eraseP (fun call => call.uid = uid) }
      if succeeded then some answered else some { answered with active := call :: state.active }

/-- One event. -/
def step (version : Int) (state : DataCalls) :
    DataCallEvent → Option (DataCalls × List DataCallOutput)
  | .setupDataCall slotId mvnoTypeKnown => some (state.setupDataCall version slotId mvnoTypeKnown)
  | .setupDataCallResponse uid succeeded payload connected =>
      (state.setupDataCallResponse uid succeeded payload connected).map fun after => (after, [])
  | .deactivateDataCall slotId cid => some (state.deactivateDataCall slotId cid)
  | .deactivateDataCallResponse uid succeeded =>
      (state.deactivateDataCallResponse uid succeeded).map fun after => (after, [])

end DataCalls

/-- The data calls of all sockets under a vendor library of a version. -/
def dataCallSystem (version : Int) : System DataCalls DataCallEvent DataCallOutput where
  Init state := state = .initial
  step := DataCalls.step version

section Search

variable {cids : DataCallCids} {cid : Int} {index : Fin 5}

/-- The search stops at the first of the first four entries with the connection id,
or at the fifth entry when there is none. -/
theorem firstWith_cases (cids : DataCallCids) (cid : Int) :
    ((firstWith cids cid).val < 4 ∧ cids (firstWith cids cid) = cid ∧
        ∀ before, before < firstWith cids cid → cids before ≠ cid) ∨
      (firstWith cids cid = 4 ∧ ∀ index : Fin 5, index.val < 4 → cids index ≠ cid) := by
  unfold firstWith
  cases search : (List.finRange 4).find? fun index => decide (cids index.castSucc = cid) with
  | none =>
      refine Or.inr ⟨rfl, ?_⟩
      intro index inside found
      have missed := List.find?_eq_none.mp search (index.castLT inside) (List.mem_finRange _)
      exact missed (decide_eq_true found)
  | some index =>
      obtain ⟨passed, earlier, later, split, failed⟩ := List.find?_eq_some_iff_append.mp search
      refine Or.inl ⟨index.isLt, of_decide_eq_true passed, ?_⟩
      intro before below found
      have inside : before.val < 4 := Nat.lt_trans below index.isLt
      have ordered := List.pairwise_lt_finRange 4
      have listed := List.mem_finRange (before.castLT inside)
      rw [split] at ordered listed
      rcases List.mem_append.mp listed with inEarlier | inLater
      · have failedBefore := failed _ inEarlier
        rw [Bool.not_eq_true', decide_eq_false_iff_not] at failedBefore
        exact failedBefore found
      · rcases List.mem_cons.mp inLater with same | inLater
        · exact absurd below (by simp [← same])
        · have above := List.rel_of_pairwise_cons (List.pairwise_append.mp ordered).2.1 inLater
          exact absurd below (Nat.lt_asymm above)

/-- The search finds an entry that has the connection id when no entry before it does. -/
theorem firstWith_eq (inside : index.val < 4) (found : cids index = cid)
    (others : ∀ before : Fin 5, before < index → cids before ≠ cid) :
    firstWith cids cid = index := by
  rcases firstWith_cases cids cid with ⟨_, hit, minimal⟩ | ⟨_, missed⟩
  · rcases lt_trichotomy (firstWith cids cid) index with below | same | above
    · exact absurd hit (others _ below)
    · exact same
    · exact absurd found (minimal _ above)
  · exact absurd found (missed index inside)

end Search

/-- The interface ids of two calls differ, when both were handed one. -/
def DataCall.Apart (first second : DataCall) : Prop :=
  ∀ id, first.interfaceId = some id → second.interfaceId ≠ some id

/-- Calls that are active or being set up have different interface ids; and an
entry holds a connection id exactly when the call it was reserved for is active with
that id, as long as no deactivation of that call is unanswered: the request alone has
freed the entry. -/
structure CallsExact (state : DataCalls) : Prop where
  apart : (state.settingUp ++ state.live).Pairwise DataCall.Apart
  occupied : ∀ (index : Fin 5) (cid : Int), cid ≠ -1 →
    (∀ call ∈ state.deactivating, call.interfaceId ≠ some (index.val + 1)) →
    (state.dataCallCids index = cid ↔
      ∃ call ∈ state.live, call.interfaceId = some (index.val + 1) ∧ call.cid = cid)
  released : ∀ call ∈ state.deactivating, ∀ index : Fin 5,
    call.interfaceId = some (index.val + 1) → state.dataCallCids index = -1

section Invariant

/-- The entries of the active calls, the freed entries of the calls whose
deactivation is unanswered, and the entry of the one call being set up. -/
structure Reserved (state : DataCalls) : Prop where
  occupied : ∀ (index : Fin 5) (cid : Int), cid ≠ -1 →
    (state.dataCallCids index = cid ↔
      ∃ call ∈ state.active, call.interfaceId = some (index.val + 1) ∧ call.cid = cid)
  entry : ∀ call ∈ state.active, call.cid ≠ -1 ∧
    ∃ index : Fin 5, index.val < 4 ∧ call.interfaceId = some (index.val + 1)
  sameId : ∀ first ∈ state.active, ∀ second ∈ state.active,
    first.interfaceId = second.interfaceId → first = second
  sameCid : ∀ first ∈ state.active, ∀ second ∈ state.active,
    first.cid = second.cid → first = second
  nodup : state.active.Nodup
  freed : ∀ call ∈ state.deactivating, ∃ index : Fin 5,
    call.interfaceId = some (index.val + 1) ∧ state.dataCallCids index = -1
  leavingApart : state.deactivating.Pairwise DataCall.Apart
  single : state.settingUp = [] ∨ ∃ call, state.settingUp = [call]
  pending : ∀ call ∈ state.settingUp, (firstWith state.dataCallCids (-1)).val < 4 ∧
    call.interfaceId = some ((firstWith state.dataCallCids (-1)).val + 1)
  pendingLeaving : ∀ pending ∈ state.settingUp, ∀ call ∈ state.deactivating,
    pending.interfaceId ≠ call.interfaceId

variable {version : Int} {state after : DataCalls} {out : List DataCallOutput}

theorem reserved_initial : Reserved .initial where
  occupied index cid taken := by
    constructor
    · intro same
      exact absurd same.symm taken
    · rintro ⟨call, listed, _⟩
      exact absurd listed List.not_mem_nil
  entry _ listed := absurd listed List.not_mem_nil
  sameId _ listed := absurd listed List.not_mem_nil
  sameCid _ listed := absurd listed List.not_mem_nil
  nodup := List.nodup_nil
  freed _ listed := absurd listed List.not_mem_nil
  leavingApart := List.Pairwise.nil
  single := Or.inl rfl
  pending _ listed := absurd listed List.not_mem_nil
  pendingLeaving _ listed := absurd listed List.not_mem_nil

/-- The entry of an active call holds its connection id. -/
theorem Reserved.cid_at (reserved : Reserved state) {call : DataCall}
    (active : call ∈ state.active) {index : Fin 5}
    (own : call.interfaceId = some (index.val + 1)) : state.dataCallCids index = call.cid :=
  (reserved.occupied index call.cid (reserved.entry call active).1).mpr ⟨call, active, own, rfl⟩

/-- The free entry of a call being set up belongs to no active call. -/
theorem Reserved.pending_apart (reserved : Reserved state) {pending call : DataCall}
    (settingUp : pending ∈ state.settingUp) (active : call ∈ state.active) :
    pending.interfaceId ≠ call.interfaceId := by
  intro same
  obtain ⟨inside, handed⟩ := reserved.pending pending settingUp
  have free : state.dataCallCids (firstWith state.dataCallCids (-1)) = -1 := by
    rcases firstWith_cases state.dataCallCids (-1) with ⟨_, found, _⟩ | ⟨beyond, _⟩
    · exact found
    · rw [beyond] at inside
      exact absurd inside (by decide)
  have held := reserved.cid_at active (same ▸ handed)
  exact (reserved.entry call active).1 (held.symm.trans free)

/-- Calls with different interface ids are apart. -/
theorem DataCall.Apart.of_ne {first second : DataCall}
    (different : first.interfaceId ≠ second.interfaceId) : first.Apart second :=
  fun _ firstId secondId => different (firstId.trans secondId.symm)

/-- The entry of an active call is taken, that of a deactivating one is free. -/
theorem Reserved.active_leaving (reserved : Reserved state) {call leaving : DataCall}
    (active : call ∈ state.active) (deactivating : leaving ∈ state.deactivating) :
    call.interfaceId ≠ leaving.interfaceId := by
  intro same
  obtain ⟨index, own, free⟩ := reserved.freed leaving deactivating
  have held := reserved.cid_at active (same.trans own)
  exact (reserved.entry call active).1 (held.symm.trans free)

theorem Reserved.active_pairwise (reserved : Reserved state) :
    state.active.Pairwise DataCall.Apart := by
  refine reserved.nodup.pairwise_of_forall_ne ?_
  intro first firstListed second secondListed different
  exact .of_ne fun same =>
    different (reserved.sameId first firstListed second secondListed same)

/-- What is reserved makes the calls exact. -/
theorem Reserved.callsExact (reserved : Reserved state) : CallsExact state where
  apart := by
    have liveApart : state.live.Pairwise DataCall.Apart := by
      refine List.pairwise_append.mpr
        ⟨reserved.active_pairwise, reserved.leavingApart, ?_⟩
      intro call active leaving deactivating
      exact .of_ne (reserved.active_leaving active deactivating)
    have across : ∀ pending ∈ state.settingUp, ∀ call ∈ state.live,
        DataCall.Apart pending call := by
      intro pending settingUp call live
      rcases List.mem_append.mp live with active | deactivating
      · exact .of_ne (reserved.pending_apart settingUp active)
      · exact .of_ne (reserved.pendingLeaving pending settingUp call deactivating)
    rcases reserved.single with none | ⟨call, one⟩
    · rw [none]
      exact liveApart
    · refine List.pairwise_append.mpr ⟨?_, liveApart, across⟩
      rw [one]
      exact List.pairwise_singleton _ _
  occupied index cid taken settled := by
    rw [reserved.occupied index cid taken]
    constructor
    · rintro ⟨call, active, own⟩
      exact ⟨call, List.mem_append_left _ active, own⟩
    · rintro ⟨call, live, own, same⟩
      rcases List.mem_append.mp live with active | deactivating
      · exact ⟨call, active, own, same⟩
      · exact absurd own (settled call deactivating)
  released call deactivating index own := by
    obtain ⟨freed, freedId, free⟩ := reserved.freed call deactivating
    have same : index.val + 1 = freed.val + 1 := Option.some.inj (own.symm.trans freedId)
    rw [Fin.ext (by omega : index.val = freed.val)]
    exact free

/-- The steps under which the entries stay those of their calls. -/
def Orderly (version : Int) : System.Guard DataCalls DataCallEvent DataCallOutput :=
  fun _ state event =>
    match event with
    | .setupDataCall _ mvnoTypeKnown =>
        if 4 ≤ version ∧ version ≤ 14 then
          state.settingUp = [] ∧ (firstWith state.dataCallCids (-1)).val < 4 ∧
            ∀ call ∈ state.deactivating,
              call.interfaceId ≠ some (DataCalls.nextInterfaceId state.dataCallCids)
        else version < 4 ∨ mvnoTypeKnown = false
    | .setupDataCallResponse _ true none _ => True
    | .setupDataCallResponse _ true (some cid) connected =>
        connected = true ∧ cid ≠ -1 ∧ ∀ call ∈ state.active, call.cid ≠ cid
    | .setupDataCallResponse _ false none _ => True
    | .setupDataCallResponse _ false (some cid) connected => connected = false ∨ cid = -1
    | .deactivateDataCall slotId cid => ∀ call ∈ state.active, call.cid = cid →
        call.socketId = slotId ∧ ∀ pending ∈ state.settingUp,
          pending.interfaceId.getD 0 < call.interfaceId.getD 0
    | .deactivateDataCallResponse _ succeeded => succeeded = true

instance (history : History DataCallEvent DataCallOutput) (state : DataCalls)
    (event : DataCallEvent) : Decidable (Orderly version history state event) := by
  unfold Orderly
  split <;> infer_instance

/-- A set-up with nothing else being set up and a free entry reserves the entry,
unless the entry is that of a call whose deactivation is unanswered. -/
theorem Reserved.request (reserved : Reserved state) (slotId : Slot)
    (alone : state.settingUp = []) (inside : (firstWith state.dataCallCids (-1)).val < 4)
    (settled : ∀ call ∈ state.deactivating,
      call.interfaceId ≠ some (DataCalls.nextInterfaceId state.dataCallCids)) :
    Reserved (state.request slotId
      (some (DataCalls.nextInterfaceId state.dataCallCids))).1 where
  occupied := reserved.occupied
  entry := reserved.entry
  sameId := reserved.sameId
  sameCid := reserved.sameCid
  nodup := reserved.nodup
  freed := reserved.freed
  leavingApart := reserved.leavingApart
  single := by
    have one : (state.request slotId
        (some (DataCalls.nextInterfaceId state.dataCallCids))).1.settingUp =
          [⟨state.issued, slotId, some (DataCalls.nextInterfaceId state.dataCallCids), -1⟩] := by
      rw [DataCalls.request, alone]
    exact Or.inr ⟨_, one⟩
  pending := by
    intro call listed
    have only : call ∈ _ :: state.settingUp := listed
    rw [alone, List.mem_singleton] at only
    subst only
    refine ⟨inside, ?_⟩
    show some (DataCalls.nextInterfaceId state.dataCallCids) =
      some ((firstWith state.dataCallCids (-1)).val + 1)
    rw [DataCalls.nextInterfaceId, if_pos inside]
  pendingLeaving := by
    intro pending listed call deactivating same
    have only : pending ∈ _ :: state.settingUp := listed
    rw [alone, List.mem_singleton] at only
    subst only
    exact settled call deactivating same.symm

/-- The answered call was the only one being set up. -/
theorem Reserved.settingUp_erased (reserved : Reserved state) {uid : Nat} {call : DataCall}
    (found : state.settingUp.find? (fun call => call.uid = uid) = some call) :
    state.settingUp.eraseP (fun call => decide (call.uid = uid)) = [] := by
  rcases reserved.single with none | ⟨only, one⟩
  · rw [none] at found
    cases found
  · rw [one] at found ⊢
    have passed := List.find?_some found
    rw [List.mem_singleton.mp (List.mem_of_find?_eq_some found)] at passed
    exact List.eraseP_cons_of_pos passed

/-- A call leaves the ones being set up and the table stays as it is. -/
theorem Reserved.dropPending (reserved : Reserved state) {uid : Nat} {call : DataCall}
    (found : state.settingUp.find? (fun call => call.uid = uid) = some call) :
    Reserved { state with
      settingUp := state.settingUp.eraseP (fun call => call.uid = uid) } := by
  have empty := reserved.settingUp_erased found
  constructor
  · exact reserved.occupied
  · exact reserved.entry
  · exact reserved.sameId
  · exact reserved.sameCid
  · exact reserved.nodup
  · exact reserved.freed
  · exact reserved.leavingApart
  · exact Or.inl empty
  · intro other listed
    rw [empty] at listed
    exact absurd listed List.not_mem_nil
  · intro other listed
    rw [empty] at listed
    exact absurd listed List.not_mem_nil

/-- The call being set up becomes active at the entry that was reserved for it. -/
theorem Reserved.activate (reserved : Reserved state) {call : DataCall}
    (settingUp : call ∈ state.settingUp) {cid : Int} (taken : cid ≠ -1)
    (fresh : ∀ other ∈ state.active, other.cid ≠ cid) :
    Reserved { state with
      dataCallCids := Function.update state.dataCallCids (firstWith state.dataCallCids (-1)) cid
      settingUp := []
      active := { call with cid } :: state.active } := by
  obtain ⟨inside, handed⟩ := reserved.pending call settingUp
  generalize entryEq : firstWith state.dataCallCids (-1) = entry at inside handed
  have otherId : ∀ other ∈ state.active, other.interfaceId ≠ call.interfaceId :=
    fun other active same => reserved.pending_apart settingUp active same.symm
  constructor
  · intro index held notFree
    simp only [List.exists_mem_cons_iff]
    by_cases own : index = entry
    · subst own
      rw [Function.update_self]
      constructor
      · rintro rfl
        exact Or.inl ⟨handed, rfl⟩
      · rintro (⟨_, same⟩ | ⟨other, active, sameId, _⟩)
        · exact same
        · exact absurd (sameId.trans handed.symm) (otherId other active)
    · rw [Function.update_of_ne own, reserved.occupied index held notFree]
      constructor
      · exact Or.inr
      · rintro (⟨sameId, _⟩ | known)
        · have same : entry.val + 1 = index.val + 1 := Option.some.inj (handed.symm.trans sameId)
          exact absurd (Fin.ext (by omega)) own
        · exact known
  · intro other listed
    rcases List.mem_cons.mp listed with rfl | active
    · exact ⟨taken, entry, inside, handed⟩
    · exact reserved.entry other active
  · intro first firstListed second secondListed sameId
    rcases List.mem_cons.mp firstListed with rfl | firstActive
    · rcases List.mem_cons.mp secondListed with rfl | secondActive
      · rfl
      · exact absurd sameId.symm (otherId second secondActive)
    · rcases List.mem_cons.mp secondListed with rfl | secondActive
      · exact absurd sameId (otherId first firstActive)
      · exact reserved.sameId first firstActive second secondActive sameId
  · intro first firstListed second secondListed sameCid
    rcases List.mem_cons.mp firstListed with rfl | firstActive
    · rcases List.mem_cons.mp secondListed with rfl | secondActive
      · rfl
      · exact absurd sameCid.symm (fresh second secondActive)
    · rcases List.mem_cons.mp secondListed with rfl | secondActive
      · exact absurd sameCid (fresh first firstActive)
      · exact reserved.sameCid first firstActive second secondActive sameCid
  · refine List.nodup_cons.mpr ⟨?_, reserved.nodup⟩
    intro already
    exact fresh _ already rfl
  · intro leaving deactivating
    obtain ⟨index, own, free⟩ := reserved.freed leaving deactivating
    refine ⟨index, own, ?_⟩
    have other : index ≠ entry := by
      rintro rfl
      exact reserved.pendingLeaving call settingUp leaving deactivating (handed.trans own.symm)
    show Function.update state.dataCallCids entry cid index = -1
    rw [Function.update_of_ne other]
    exact free
  · exact reserved.leavingApart
  · exact Or.inl rfl
  · intro other listed
    exact absurd listed List.not_mem_nil
  · intro other listed
    exact absurd listed List.not_mem_nil

/-- Writing -1 at the first free entry changes nothing. -/
theorem Reserved.fill_free (reserved : Reserved state) :
    Function.update state.dataCallCids (firstWith state.dataCallCids (-1)) (-1) =
      state.dataCallCids := by
  rw [Function.update_eq_self_iff]
  rcases firstWith_cases state.dataCallCids (-1) with ⟨_, found, _⟩ | ⟨beyond, _⟩
  · exact found.symm
  · -- The fifth entry is free because no active call was handed the id 5.
    rw [beyond]
    by_contra held
    obtain ⟨call, active, fifth, _⟩ := (reserved.occupied 4 _ (Ne.symm held)).mp rfl
    obtain ⟨_, index, inside, own⟩ := reserved.entry call active
    have same : (4 : Fin 5).val + 1 = index.val + 1 := Option.some.inj (fifth.symm.trans own)
    have four : (4 : Fin 5).val = 4 := rfl
    omega

/-- A response that the guard admits keeps the entries reserved. -/
theorem Reserved.setupDataCallResponse (reserved : Reserved state)
    {history : History DataCallEvent DataCallOutput} {uid : Nat} {succeeded connected : Bool}
    {payload : Option Int}
    (guarded : Orderly version history state
      (.setupDataCallResponse uid succeeded payload connected))
    (stepped : state.setupDataCallResponse uid succeeded payload connected = some after) :
    Reserved after := by
  unfold DataCalls.setupDataCallResponse at stepped
  split at stepped
  · cases stepped
  case h_2 call found =>
      have dropped := reserved.dropPending found
      cases succeeded with
      | true =>
          cases payload with
          | none => cases stepped
          | some cid =>
              obtain ⟨rfl, taken, fresh⟩ := guarded
              simp only [Option.some.injEq] at stepped
              subst stepped
              rw [reserved.settingUp_erased found]
              exact reserved.activate (List.mem_of_find?_eq_some found) taken fresh
      | false =>
          simp only [Option.some.injEq] at stepped
          subst stepped
          have unchanged : DataCalls.filled state.dataCallCids payload connected =
              state.dataCallCids := by
            cases payload with
            | none => rfl
            | some cid =>
                rcases guarded with rfl | rfl
                · rfl
                · rw [DataCalls.filled]
                  split
                  · exact reserved.fill_free
                  · rfl
          rw [unchanged]
          exact dropped

/-- A deactivation of a connection id that no active call has frees nothing. -/
theorem Reserved.freed_unknown (reserved : Reserved state) {cid : Int}
    (unknown : ∀ call ∈ state.active, call.cid ≠ cid) :
    DataCalls.freed state.dataCallCids cid = state.dataCallCids := by
  rw [DataCalls.freed]
  split
  case isFalse missed => rfl
  case isTrue inside =>
      rw [Function.update_eq_self_iff]
      rcases firstWith_cases state.dataCallCids cid with ⟨_, found, _⟩ | ⟨beyond, _⟩
      · by_contra held
        have taken : cid ≠ -1 := fun free => held (free ▸ found.symm)
        obtain ⟨call, active, _, same⟩ := (reserved.occupied _ cid taken).mp found
        exact unknown call active same
      · rw [beyond] at inside
        exact absurd inside (by decide)

/-- A deactivation frees the entry of the active call with the connection id. -/
theorem Reserved.freed_known (reserved : Reserved state) {call : DataCall}
    (active : call ∈ state.active) {index : Fin 5} (inside : index.val < 4)
    (own : call.interfaceId = some (index.val + 1)) :
    DataCalls.freed state.dataCallCids call.cid =
      Function.update state.dataCallCids index (-1) := by
  have only : ∀ other : Fin 5, state.dataCallCids other = call.cid → other = index := by
    intro other held
    obtain ⟨holder, holderActive, holderId, sameCid⟩ :=
      (reserved.occupied other call.cid (reserved.entry call active).1).mp held
    obtain rfl := reserved.sameCid holder holderActive call active sameCid
    have same : other.val + 1 = index.val + 1 := Option.some.inj (holderId.symm.trans own)
    exact Fin.ext (by omega)
  have search : firstWith state.dataCallCids call.cid = index := by
    refine firstWith_eq inside (reserved.cid_at active own) ?_
    intro before below held
    exact absurd (only before held) (Fin.ne_of_lt below)
  rw [DataCalls.freed, search, if_pos inside]

/-- Freeing an entry behind the first free one leaves that one the first. -/
theorem firstWith_free_behind {cids : DataCallCids} {index : Fin 5}
    (free : (firstWith cids (-1)).val < 4) (behind : firstWith cids (-1) < index) :
    firstWith (Function.update cids index (-1)) (-1) = firstWith cids (-1) := by
  rcases firstWith_cases cids (-1) with ⟨_, found, minimal⟩ | ⟨beyond, _⟩
  · refine firstWith_eq free ?_ ?_
    · rw [Function.update_of_ne (Fin.ne_of_lt behind)]
      exact found
    · intro before earlier
      rw [Function.update_of_ne (Fin.ne_of_lt (Fin.lt_trans earlier behind))]
      exact minimal before earlier
  · rw [beyond] at free
    exact absurd free (by decide)

/-- A deactivation that the guard admits keeps the entries reserved. -/
theorem Reserved.deactivateDataCall (reserved : Reserved state)
    {history : History DataCallEvent DataCallOutput} {slotId : Slot} {cid : Int}
    (guarded : Orderly version history state (.deactivateDataCall slotId cid)) :
    Reserved (state.deactivateDataCall slotId cid).1 := by
  have own : ∀ call ∈ state.active, call.cid = cid → call.socketId = slotId ∧
      ∀ pending ∈ state.settingUp,
        pending.interfaceId.getD 0 < call.interfaceId.getD 0 := guarded
  have kept : ∀ call, call ∈ state.active.filter (fun call => !DataCalls.meant slotId cid call) ↔
      call ∈ state.active ∧ call.cid ≠ cid := by
    intro call
    simp only [List.mem_filter, DataCalls.meant, Bool.not_eq_true', decide_eq_false_iff_not]
    constructor
    · rintro ⟨active, notMeant⟩
      exact ⟨active, fun same => notMeant ⟨(own call active same).1, same⟩⟩
    · rintro ⟨active, other⟩
      exact ⟨active, fun meant => other meant.2⟩
  by_cases known : ∃ call ∈ state.active, call.cid = cid
  · obtain ⟨call, active, rfl⟩ := known
    obtain ⟨_, index, inside, handed⟩ := reserved.entry call active
    have freed := reserved.freed_known active inside handed
    have same_of_meant : ∀ {other : DataCall},
        other ∈ state.active.filter (DataCalls.meant slotId call.cid) → other = call := by
      intro other listed
      obtain ⟨otherActive, meant⟩ := List.mem_filter.mp listed
      exact reserved.sameCid other otherActive call active (of_decide_eq_true meant).2
    constructor
    · intro other held notFree
      show DataCalls.freed state.dataCallCids call.cid other = held ↔ _
      rw [freed]
      constructor
      · intro holds
        by_cases sameIndex : other = index
        · subst sameIndex
          rw [Function.update_self] at holds
          exact absurd holds.symm notFree
        · rw [Function.update_of_ne sameIndex] at holds
          obtain ⟨holder, holderActive, holderId, rfl⟩ :=
            (reserved.occupied other held notFree).mp holds
          refine ⟨holder, (kept holder).mpr ⟨holderActive, ?_⟩, holderId, rfl⟩
          intro sameCid
          obtain rfl := reserved.sameCid holder holderActive call active sameCid
          have same : other.val + 1 = index.val + 1 :=
            Option.some.inj (holderId.symm.trans handed)
          exact sameIndex (Fin.ext (by omega))
      · rintro ⟨holder, listed, holderId, rfl⟩
        obtain ⟨holderActive, otherCid⟩ := (kept holder).mp listed
        have held := reserved.cid_at holderActive holderId
        have notIndex : other ≠ index := by
          rintro rfl
          exact otherCid (congrArg DataCall.cid (reserved.sameId holder holderActive call active
            (holderId.trans handed.symm)))
        rw [Function.update_of_ne notIndex]
        exact held
    · intro other listed
      exact reserved.entry other ((kept other).mp listed).1
    · intro first firstListed second secondListed
      exact reserved.sameId first ((kept first).mp firstListed).1 second
        ((kept second).mp secondListed).1
    · intro first firstListed second secondListed
      exact reserved.sameCid first ((kept first).mp firstListed).1 second
        ((kept second).mp secondListed).1
    · exact reserved.nodup.filter _
    · intro leaving listed
      rcases List.mem_append.mp listed with deactivating | meant
      · obtain ⟨other, otherId, free⟩ := reserved.freed leaving deactivating
        refine ⟨other, otherId, ?_⟩
        show DataCalls.freed state.dataCallCids call.cid other = -1
        rw [freed, Function.update_apply, free, ite_self]
      · obtain rfl := same_of_meant meant
        refine ⟨index, handed, ?_⟩
        show DataCalls.freed state.dataCallCids leaving.cid index = -1
        rw [freed, Function.update_self]
    · refine List.pairwise_append.mpr ⟨reserved.leavingApart,
        reserved.active_pairwise.filter _, ?_⟩
      intro leaving deactivating meant listed
      exact .of_ne (reserved.active_leaving (List.mem_filter.mp listed).1 deactivating).symm
    · exact reserved.single
    · intro pending settingUp
      obtain ⟨free, pendingId⟩ := reserved.pending pending settingUp
      have below := (own call active rfl).2 pending settingUp
      rw [pendingId, handed, Option.getD_some, Option.getD_some] at below
      have same : firstWith (DataCalls.freed state.dataCallCids call.cid) (-1) =
          firstWith state.dataCallCids (-1) := by
        rw [freed]
        exact firstWith_free_behind free (Fin.lt_def.mpr (by omega))
      show (firstWith (DataCalls.freed state.dataCallCids call.cid) (-1)).val < 4 ∧
        pending.interfaceId =
          some ((firstWith (DataCalls.freed state.dataCallCids call.cid) (-1)).val + 1)
      rw [same]
      exact ⟨free, pendingId⟩
    · intro pending settingUp leaving listed
      rcases List.mem_append.mp listed with deactivating | meant
      · exact reserved.pendingLeaving pending settingUp leaving deactivating
      · exact reserved.pending_apart settingUp (List.mem_filter.mp meant).1
  · have unknown : ∀ call ∈ state.active, call.cid ≠ cid :=
      fun call active same => known ⟨call, active, same⟩
    have sameActive : state.active.filter (fun call => !DataCalls.meant slotId cid call) =
        state.active := by
      rw [List.filter_eq_self]
      intro call active
      have listed := (kept call).mpr ⟨active, unknown call active⟩
      exact (List.mem_filter.mp listed).2
    have noneMeant : state.active.filter (DataCalls.meant slotId cid) = [] := by
      rw [List.filter_eq_nil_iff]
      intro call active meant
      exact unknown call active (of_decide_eq_true meant).2
    unfold DataCalls.deactivateDataCall
    rw [reserved.freed_unknown unknown, sameActive, noneMeant, List.append_nil]
    exact reserved

/-- A deactivation is answered with success. -/
theorem Reserved.dropLeaving (reserved : Reserved state) (uid : Nat) :
    Reserved { state with
      deactivating := state.deactivating.eraseP (fun call => call.uid = uid) } where
  occupied := reserved.occupied
  entry := reserved.entry
  sameId := reserved.sameId
  sameCid := reserved.sameCid
  nodup := reserved.nodup
  freed call listed := reserved.freed call (List.mem_of_mem_eraseP listed)
  leavingApart := reserved.leavingApart.sublist List.eraseP_sublist
  single := reserved.single
  pending := reserved.pending
  pendingLeaving pending settingUp call listed :=
    reserved.pendingLeaving pending settingUp call (List.mem_of_mem_eraseP listed)

end Invariant

section Runs

variable {version : Int}

/-- What an orderly run keeps. -/
theorem reserved_of_run {history : History DataCallEvent DataCallOutput} {state : DataCalls}
    (run : (dataCallSystem version).Run (Orderly version) history state) : Reserved state := by
  refine System.Run.invariant (fun _ state => Reserved state) ?_ ?_ run
  · rintro state rfl
    exact reserved_initial
  · intro history state event after out reserved guarded stepped
    cases event with
    | setupDataCall slotId mvnoTypeKnown =>
        have result : state.setupDataCall version slotId mvnoTypeKnown = (after, out) :=
          Option.some.inj stepped
        have afterEq : (state.setupDataCall version slotId mvnoTypeKnown).1 = after :=
          congrArg Prod.fst result
        rw [← afterEq]
        unfold DataCalls.setupDataCall
        unfold Orderly at guarded
        dsimp only at guarded
        by_cases handed : 4 ≤ version ∧ version ≤ 14
        · rw [if_pos handed] at guarded ⊢
          exact reserved.request slotId guarded.1 guarded.2.1 guarded.2.2
        · rw [if_neg handed] at guarded ⊢
          rcases guarded with old | rfl
          · rw [if_neg (by omega)]
            exact reserved
          · rw [if_neg Bool.false_ne_true, ite_self]
            exact reserved
    | setupDataCallResponse uid succeeded payload connected =>
        obtain ⟨answered, result, same⟩ := Option.map_eq_some_iff.mp stepped
        obtain rfl := congrArg Prod.fst same
        exact reserved.setupDataCallResponse guarded result
    | deactivateDataCall slotId cid =>
        have result : state.deactivateDataCall slotId cid = (after, out) :=
          Option.some.inj stepped
        have afterEq : (state.deactivateDataCall slotId cid).1 = after := congrArg Prod.fst result
        rw [← afterEq]
        exact reserved.deactivateDataCall guarded
    | deactivateDataCallResponse uid succeeded =>
        obtain ⟨answered, result, same⟩ := Option.map_eq_some_iff.mp stepped
        obtain rfl := congrArg Prod.fst same
        obtain rfl : succeeded = true := guarded
        unfold DataCalls.deactivateDataCallResponse at result
        split at result
        · cases result
        · simp only [if_true, Option.some.injEq] at result
          subst result
          exact reserved.dropLeaving _

/-- In every orderly run, calls that are active or being set up have different
interface ids, a call counting as active until its deactivation is answered, and an
entry is occupied exactly when its call is active and not being deactivated. -/
theorem calls_exact {history : History DataCallEvent DataCallOutput} {state : DataCalls}
    (run : (dataCallSystem version).Run (Orderly version) history state) : CallsExact state :=
  (reserved_of_run run).callsExact

end Runs

section Samples

/-- Calls of both cards, one failed set-up, the first call deactivated and its entry
used again, and another deactivation that is unanswered. -/
def twoCards : List DataCallEvent :=
  [.setupDataCall .socket1 true, .setupDataCallResponse 0 true (some 7) true,
    .setupDataCall .socket2 true, .setupDataCallResponse 1 false none true,
    .setupDataCall .socket2 true, .setupDataCallResponse 2 true (some 3) true,
    .setupDataCall .socket1 true, .setupDataCallResponse 3 true (some 5) true,
    .deactivateDataCall .socket1 7, .deactivateDataCallResponse 0 true,
    .setupDataCall .socket2 true, .deactivateDataCall .socket2 3]

/-- The interface ids of the calls being set up, of the active calls and of those
whose deactivation is unanswered. -/
def idView (result : History DataCallEvent DataCallOutput × DataCalls) :
    List (Option Nat) × List (Option Nat) × List (Option Nat) :=
  (result.2.settingUp.map DataCall.interfaceId, result.2.active.map DataCall.interfaceId,
    result.2.deactivating.map DataCall.interfaceId)

theorem calls_exact_twoCards :
    ∃ history state, CallsExact state ∧
      idView (history, state) = ([some 1], [some 3], [some 2]) := by
  obtain ⟨history, state, run, viewed⟩ :=
    System.exists_run_of_exec (dataCallSystem 10) (Orderly 10) twoCards idView rfl
      (by decide +kernel) (by decide +kernel : _ = some ([some 1], [some 3], [some 2]))
  exact ⟨history, state, calls_exact run, viewed⟩

/-- Two set-ups at the same time are handed the same interface id. -/
theorem overlapping_setups_share_id :
    ¬∀ (version : Int) (history : History DataCallEvent DataCallOutput) (state : DataCalls),
      (dataCallSystem version).Run System.free history state → CallsExact state := by
  intro claimed
  obtain ⟨history, state, run, viewed⟩ :=
    System.exists_run_of_exec (dataCallSystem 10) System.free
      [.setupDataCall .socket1 true, .setupDataCall .socket2 true]
      (fun result => (result.2.settingUp, result.2.live)) rfl (by decide +kernel)
      (by decide +kernel : _ =
        some ([⟨1, .socket2, some 1, -1⟩, ⟨0, .socket1, some 1, -1⟩], []))
  rw [Prod.mk.injEq] at viewed
  dsimp only at viewed
  have apart := (claimed 10 history state run).apart
  rw [viewed.1, viewed.2] at apart
  have differ := List.rel_of_pairwise_cons apart (List.mem_singleton.mpr rfl)
  exact differ 1 rfl rfl

end Samples

end X3Hal.Ril
