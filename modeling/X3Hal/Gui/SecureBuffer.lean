import X3Hal.Transition.Loops
import Mathlib.Tactic.Common

/-!
# The secure buffer of a region

The handles of a buffer share a region of the ged driver.  Its record says which handle has
allocated the secure buffer for the composer, and that handle frees the buffer, at the latest
when it is released.  The calls of ged, ion and gralloc may fail.
-/

namespace X3Hal.Gui

open X3Hal.Transition

/-! ## The record -/

/-- `ge_sec_hwc_t` -/
structure SecHwc where
  /-- `_64hnd`, the handle as a number -/
  hnd64 : Nat
  geHnd : Nat
  ionHnd : Nat
  secHnd : Nat
  deriving DecidableEq

/-- A record of zeros. -/
def SecHwc.zero : SecHwc :=
  ⟨0, 0, 0, 0⟩

/-- What the calls of a function return. -/
structure SecureCalls where
  /-- `_ge_get` fails, and the variable that it should fill has this. -/
  unread : Option SecHwc
  /-- `GRALLOC_EXTRA_GET_ION_CLIENT` -/
  ionClient : Except Int Nat
  /-- what is in the variables after the queries for the size and the usage -/
  size : Int
  usage : Int
  ionAlloc : Except Int Nat
  /-- the address that `_ge_ion_get_phys` gets, if it does -/
  phys : Option Nat
  /-- `ion_free` succeeds. -/
  ionFree : Bool
  /-- `_ge_set` succeeds. -/
  set : Bool
  /-- `ged_ge_release` -/
  geRelease : Int

inductive SecureOutput
  /-- A handle has got a buffer. -/
  | ionAlloc (hnd client : Nat) (size usage : Int) (ionHnd : Nat)
  | ionFree (client ionHnd : Nat) (freed : Bool)
  /-- The record of the region has changed. -/
  | geSet (record : SecHwc)
  | released (hnd : Nat)
  | returned (err : Int)
  deriving DecidableEq

/-- The variable after `_ge_get`. -/
def SecureCalls.read (calls : SecureCalls) (record : SecHwc) : SecHwc :=
  calls.unread.getD record

/-- `_ge_set` -/
def geSet (calls : SecureCalls) (new record : SecHwc) : SecHwc × List SecureOutput :=
  if calls.set then (new, [.geSet new]) else (record, [])

/-- `_ge_perform_alloc_sec_hwc` -/
def gePerformAllocSecHwc (geHnd hnd : Nat) (calls : SecureCalls) (record : SecHwc) :
    SecHwc × List SecureOutput :=
  let sechwc := calls.read record
  if sechwc.secHnd = 0 then
    match calls.ionClient, calls.ionAlloc with
    | .error err, _ => (record, [.returned err])
    | .ok _, .error err => (record, [.returned err])
    | .ok client, .ok ionHnd =>
        -- without an address the variable keeps its zero
        let made := ⟨hnd, geHnd, ionHnd, calls.phys.getD sechwc.secHnd⟩
        let (after, out) := geSet calls made record
        (after, .ionAlloc hnd client calls.size calls.usage ionHnd :: out ++ [.returned 0])
  else (record, [.returned 1])

/-- `_ge_perform_free_sec_hwc` -/
def gePerformFreeSecHwc (hnd : Nat) (calls : SecureCalls) (record : SecHwc) :
    SecHwc × List SecureOutput :=
  let sechwc := calls.read record
  if sechwc.secHnd ≠ 0 ∧ sechwc.hnd64 = hnd then
    match calls.ionClient with
    | .error err => (record, [.returned err])
    | .ok client =>
        let (after, out) := geSet calls .zero record
        (after, .ionFree client sechwc.ionHnd calls.ionFree :: out ++ [.returned 0])
  else (record, [.returned 0])

/-- `ge_release` -/
def geRelease (hnd : Nat) (calls : SecureCalls) (record : SecHwc) : SecHwc × List SecureOutput :=
  let (after, out) := gePerformFreeSecHwc hnd calls record
  (after, out ++ [.released hnd, .returned calls.geRelease])

inductive SecureEvent
  | alloc (hnd : Nat) (calls : SecureCalls)
  | free (hnd : Nat) (calls : SecureCalls)
  | release (hnd : Nat) (calls : SecureCalls)

def secureStep (geHnd : Nat) (record : SecHwc) : SecureEvent → SecHwc × List SecureOutput
  | .alloc hnd calls => gePerformAllocSecHwc geHnd hnd calls record
  | .free hnd calls => gePerformFreeSecHwc hnd calls record
  | .release hnd calls => geRelease hnd calls record

/-- The calls on the handles of a region that was just allocated. -/
def secureSystem (geHnd : Nat) : System SecHwc SecureEvent SecureOutput where
  Init := fun record => record = .zero
  step := fun record event => some (secureStep geHnd record event)

/-! ## What is allocated -/

/-- A buffer that a handle has allocated with a client. -/
structure SecureAlloc where
  hnd : Nat
  client : Nat
  ionHnd : Nat
  deriving DecidableEq

/-- The buffers that are allocated and not freed, after one more output. -/
def trackAlloc (live : List SecureAlloc) : SecureOutput → List SecureAlloc
  | .ionAlloc hnd client _ _ ionHnd => live ++ [⟨hnd, client, ionHnd⟩]
  | .ionFree client ionHnd true =>
      live.filter fun alloc => ¬ (alloc.client = client ∧ alloc.ionHnd = ionHnd)
  | .ionFree _ _ false | .geSet _ | .released _ | .returned _ => live

def liveAllocs (outputs : List SecureOutput) : List SecureAlloc :=
  outputs.foldl trackAlloc []

/-- What is freed is a live buffer with its client. -/
def FreesLive (before : List SecureOutput) (output : SecureOutput) : Prop :=
  ∀ client ionHnd freed, output = .ionFree client ionHnd freed →
    ∃ alloc ∈ liveAllocs before, alloc.client = client ∧ alloc.ionHnd = ionHnd

/-- A handle that is released has no live buffer then. -/
def ReleasesNone (before : List SecureOutput) (output : SecureOutput) : Prop :=
  ∀ hnd, output = .released hnd → ∀ alloc ∈ liveAllocs before, alloc.hnd ≠ hnd

/-- A free or a release leaves the record alone when its handle has no live buffer. -/
def OthersKeep (before : History SecureEvent SecureOutput)
    (step : SecureEvent × List SecureOutput) : Prop :=
  ∀ hnd calls, step.1 = .free hnd calls ∨ step.1 = .release hnd calls →
    (∀ alloc ∈ liveAllocs before.outputs, alloc.hnd ≠ hnd) → ∀ record, .geSet record ∉ step.2

/-- Every buffer is freed once, with its client, and before its handle is released; other handles
leave the record alone. -/
structure BuffersFreed (history : History SecureEvent SecureOutput) : Prop where
  once : Justified FreesLive history.outputs
  released : Justified ReleasesNone history.outputs
  others : Justified OthersKeep history

/-- A buffer is allocated only while there is none, and its address and its record are kept. -/
def AllocSucceeds (calls : SecureCalls) (record : SecHwc) : Prop :=
  (calls.read record).secHnd = 0 → calls.ionClient.isOk → calls.ionAlloc.isOk →
    record.secHnd = 0 ∧ calls.phys.getD 0 ≠ 0 ∧ calls.set

/-- Of a handle that finds itself in the record: the record is read, the client is the one of the
handle's live buffer, and the calls that free succeed. -/
def FreeSucceeds (live : List SecureAlloc) (hnd : Nat) (calls : SecureCalls) (record : SecHwc) :
    Prop :=
  (calls.read record).secHnd ≠ 0 → (calls.read record).hnd64 = hnd →
    ∀ client ∈ calls.ionClient.toOption,
      calls.unread = none ∧ (∀ alloc ∈ live, alloc.hnd = hnd → alloc.client = client) ∧
        calls.ionFree ∧ calls.set

/-- Of a handle with a live buffer: the record is read, and there is a client. -/
def ReleaseFrees (live : List SecureAlloc) (hnd : Nat) (calls : SecureCalls) : Prop :=
  (∃ alloc ∈ live, alloc.hnd = hnd) → calls.unread = none ∧ calls.ionClient.isOk

/-- The calls that matter succeed. -/
def SecureCallsSucceed : System.Guard SecHwc SecureEvent SecureOutput
  | _, record, .alloc _ calls => AllocSucceeds calls record
  | history, record, .free hnd calls => FreeSucceeds (liveAllocs history.outputs) hnd calls record
  | history, record, .release hnd calls =>
      FreeSucceeds (liveAllocs history.outputs) hnd calls record ∧
        ReleaseFrees (liveAllocs history.outputs) hnd calls

instance (calls : SecureCalls) (record : SecHwc) : Decidable (AllocSucceeds calls record) :=
  inferInstanceAs (Decidable (_ → _ → _ → _ ∧ _ ∧ _))

instance (live : List SecureAlloc) (hnd : Nat) (calls : SecureCalls) (record : SecHwc) :
    Decidable (FreeSucceeds live hnd calls record) :=
  inferInstanceAs (Decidable (_ → _ → ∀ client ∈ calls.ionClient.toOption,
    _ ∧ (∀ alloc ∈ live, _ → _) ∧ _ ∧ _))

instance (live : List SecureAlloc) (hnd : Nat) (calls : SecureCalls) :
    Decidable (ReleaseFrees live hnd calls) :=
  inferInstanceAs (Decidable ((∃ alloc ∈ live, _) → _ ∧ _))

instance (history : History SecureEvent SecureOutput) (record : SecHwc) (event : SecureEvent) :
    Decidable (SecureCallsSucceed history record event) :=
  match event with
  | .alloc _ _ => inferInstanceAs (Decidable (AllocSucceeds _ _))
  | .free _ _ => inferInstanceAs (Decidable (FreeSucceeds _ _ _ _))
  | .release _ _ => inferInstanceAs (Decidable (FreeSucceeds _ _ _ _ ∧ ReleaseFrees _ _ _))

/-! ## The invariant -/

/-- The record says which buffer is live. -/
inductive RecordSound : List SecureAlloc → SecHwc → Prop
  | empty {record : SecHwc} (none : record.secHnd = 0) : RecordSound [] record
  | one {alloc : SecureAlloc} {record : SecHwc} (some : record.secHnd ≠ 0)
      (hnd : record.hnd64 = alloc.hnd) (ionHnd : record.ionHnd = alloc.ionHnd) :
      RecordSound [alloc] record

theorem liveAllocs_append (outputs more : List SecureOutput) :
    liveAllocs (outputs ++ more) = more.foldl trackAlloc (liveAllocs outputs) :=
  List.foldl_append

section Steps

variable {live : List SecureAlloc} {geHnd hnd : Nat} {calls : SecureCalls} {record : SecHwc}

/-- An alloc either only returns, or makes the only live buffer and its record. -/
theorem gePerformAllocSecHwc_cases (sound : RecordSound live record)
    (succeeds : AllocSucceeds calls record) :
    (∃ err, gePerformAllocSecHwc geHnd hnd calls record = (record, [.returned err])) ∨
    ∃ client ionHnd after, live = [] ∧ RecordSound [⟨hnd, client, ionHnd⟩] after ∧
      gePerformAllocSecHwc geHnd hnd calls record =
        (after, [.ionAlloc hnd client calls.size calls.usage ionHnd, .geSet after,
          .returned 0]) := by
  rw [gePerformAllocSecHwc]
  by_cases free : (calls.read record).secHnd = 0
  · rw [if_pos free]
    cases isClient : calls.ionClient with
    | error err => exact Or.inl ⟨err, rfl⟩
    | ok client =>
        cases isHnd : calls.ionAlloc with
        | error err => exact Or.inl ⟨err, rfl⟩
        | ok ionHnd =>
            obtain ⟨none, address, set⟩ := succeeds free (by rw [isClient]; rfl)
              (by rw [isHnd]; rfl)
            have made : RecordSound [⟨hnd, client, ionHnd⟩]
                ⟨hnd, geHnd, ionHnd, calls.phys.getD (calls.read record).secHnd⟩ := by
              rw [free]
              exact .one address rfl rfl
            refine Or.inr ⟨client, ionHnd, _, ?_, made, ?_⟩
            · cases sound with
              | empty none => rfl
              | one some => exact absurd none some
            · simp only [geSet, set, if_true, List.cons_append, List.nil_append]
  · rw [if_neg free]
    exact Or.inl ⟨1, rfl⟩

/-- A handle that finds itself in the record has the only live buffer, which the record names. -/
theorem RecordSound.owner (sound : RecordSound live record) (taken : record.secHnd ≠ 0)
    (own : record.hnd64 = hnd) :
    ∃ alloc, live = [alloc] ∧ alloc.hnd = hnd ∧ alloc.ionHnd = record.ionHnd := by
  cases sound with
  | empty none => exact absurd none taken
  | one some hnd ionHnd => exact ⟨_, rfl, hnd.symm.trans own, ionHnd.symm⟩

/-- A handle with a live buffer finds itself in the record. -/
theorem RecordSound.of_owner (sound : RecordSound live record) {alloc : SecureAlloc}
    (occurs : alloc ∈ live) : record.secHnd ≠ 0 ∧ record.hnd64 = alloc.hnd := by
  cases sound with
  | empty none => cases occurs
  | one some hnd ionHnd =>
      rw [List.mem_singleton.mp occurs]
      exact ⟨some, hnd⟩

theorem read_of_none (read : calls.unread = none) (record : SecHwc) :
    calls.read record = record := by
  rw [SecureCalls.read, read]
  rfl

/-- A free either only returns, or frees the only live buffer and clears the record. -/
theorem gePerformFreeSecHwc_cases (sound : RecordSound live record)
    (succeeds : FreeSucceeds live hnd calls record) :
    (∃ err, gePerformFreeSecHwc hnd calls record = (record, [.returned err]) ∧
      ¬ ((calls.read record).secHnd ≠ 0 ∧ (calls.read record).hnd64 = hnd ∧
        calls.ionClient.isOk)) ∨
    ∃ client ionHnd, live = [⟨hnd, client, ionHnd⟩] ∧
      gePerformFreeSecHwc hnd calls record =
        (.zero, [.ionFree client ionHnd true, .geSet .zero, .returned 0]) := by
  rw [gePerformFreeSecHwc]
  by_cases own : (calls.read record).secHnd ≠ 0 ∧ (calls.read record).hnd64 = hnd
  · rw [if_pos own]
    cases isClient : calls.ionClient with
    | error err => exact Or.inl ⟨err, rfl, fun found => nomatch found.2.2⟩
    | ok client =>
        obtain ⟨read, sameClient, freed, set⟩ :=
          succeeds own.1 own.2 client (by rw [isClient]; rfl)
        rw [read_of_none read] at own ⊢
        obtain ⟨alloc, isLive, isHnd, isIon⟩ := sound.owner own.1 own.2
        have isClient := sameClient alloc (isLive ▸ List.mem_singleton_self alloc) isHnd
        refine Or.inr ⟨client, record.ionHnd, ?_, ?_⟩
        · rw [isLive, ← isHnd, ← isClient, ← isIon]
        · simp only [geSet, set, freed, if_true, List.cons_append, List.nil_append]
  · rw [if_neg own]
    exact Or.inl ⟨0, rfl, fun found => own ⟨found.1, found.2.1⟩⟩

end Steps

/-! ## Runs -/

section Runs

variable {geHnd : Nat} {outputs : List SecureOutput}

theorem freesLive_of_ne {output : SecureOutput}
    (other : ∀ client ionHnd freed, output ≠ .ionFree client ionHnd freed) :
    FreesLive outputs output :=
  fun client ionHnd freed same => absurd same (other client ionHnd freed)

theorem releasesNone_of_ne {output : SecureOutput} (other : ∀ hnd, output ≠ .released hnd) :
    ReleasesNone outputs output :=
  fun hnd same => absurd same (other hnd)

/-- What a free with its outputs keeps. -/
theorem free_keeps {hnd : Nat} {calls : SecureCalls} {record after : SecHwc}
    {out : List SecureOutput} (sound : RecordSound (liveAllocs outputs) record)
    (succeeds : FreeSucceeds (liveAllocs outputs) hnd calls record)
    (made : gePerformFreeSecHwc hnd calls record = (after, out)) :
    (Justified (fun before => FreesLive (outputs ++ before)) out ∧
      Justified (fun before => ReleasesNone (outputs ++ before)) out) ∧
    RecordSound (liveAllocs (outputs ++ out)) after ∧
    ((∀ alloc ∈ liveAllocs outputs, alloc.hnd ≠ hnd) → ∀ record, .geSet record ∉ out) ∧
    (ReleaseFrees (liveAllocs outputs) hnd calls →
      ∀ alloc ∈ liveAllocs (outputs ++ out), alloc.hnd ≠ hnd) := by
  rw [liveAllocs_append]
  rcases gePerformFreeSecHwc_cases sound succeeds with ⟨err, returns, notFreed⟩ |
    ⟨client, ionHnd, isLive, frees⟩
  · rw [returns] at made
    obtain ⟨rfl, rfl⟩ := Prod.mk.inj made
    refine ⟨⟨?_, ?_⟩, sound, by simp, ?_⟩
    · exact justified_singleton.mpr (freesLive_of_ne nofun)
    · exact justified_singleton.mpr (releasesNone_of_ne nofun)
    · intro found alloc occurs isHnd
      obtain ⟨read, isClient⟩ := found ⟨alloc, occurs, isHnd⟩
      obtain ⟨taken, own⟩ := sound.of_owner occurs
      rw [read_of_none read] at notFreed
      exact notFreed ⟨taken, own.trans isHnd, isClient⟩
  · rw [frees] at made
    obtain ⟨rfl, rfl⟩ := Prod.mk.inj made
    have isMem : ⟨hnd, client, ionHnd⟩ ∈ liveAllocs outputs := isLive ▸ List.mem_singleton_self _
    have none : [.ionFree client ionHnd true, .geSet .zero, .returned 0].foldl trackAlloc
        (liveAllocs outputs) = [] := by
      rw [isLive]
      simp [trackAlloc]
    rw [none]
    refine ⟨⟨?_, ?_⟩, .empty rfl, ?_, nofun⟩
    · refine justified_cons_iff.mpr ⟨?_, justified_cons_iff.mpr
        ⟨freesLive_of_ne nofun, justified_singleton.mpr (freesLive_of_ne nofun)⟩⟩
      rw [List.append_nil]
      rintro _ _ _ ⟨⟩
      exact ⟨_, isMem, rfl, rfl⟩
    · exact justified_cons_iff.mpr ⟨releasesNone_of_ne nofun, justified_cons_iff.mpr
        ⟨releasesNone_of_ne nofun, justified_singleton.mpr (releasesNone_of_ne nofun)⟩⟩
    · intro notOwn
      exact absurd rfl (notOwn _ isMem)

/-- What a step keeps. -/
theorem secureStep_keeps {history : History SecureEvent SecureOutput} {record after : SecHwc}
    {event : SecureEvent} {out : List SecureOutput}
    (sound : RecordSound (liveAllocs history.outputs) record)
    (guarded : SecureCallsSucceed history record event)
    (made : secureStep geHnd record event = (after, out)) :
    (Justified (fun before => FreesLive (history.outputs ++ before)) out ∧
      Justified (fun before => ReleasesNone (history.outputs ++ before)) out) ∧
    RecordSound (liveAllocs (history.outputs ++ out)) after ∧ OthersKeep history (event, out) := by
  cases event with
  | alloc hnd calls =>
      have isAlloc : OthersKeep history (.alloc hnd calls, out) := by
        rintro _ _ (same | same) <;> cases same
      rw [liveAllocs_append]
      rcases gePerformAllocSecHwc_cases sound guarded with
        ⟨err, alloc⟩ | ⟨client, ionHnd, new, none, newSound, alloc⟩
      · obtain ⟨rfl, rfl⟩ := Prod.mk.inj (alloc.symm.trans made)
        exact ⟨⟨justified_singleton.mpr (freesLive_of_ne nofun),
          justified_singleton.mpr (releasesNone_of_ne nofun)⟩, sound, isAlloc⟩
      · obtain ⟨rfl, rfl⟩ := Prod.mk.inj (alloc.symm.trans made)
        refine ⟨⟨?_, ?_⟩, ?_, isAlloc⟩
        · exact justified_cons_iff.mpr ⟨freesLive_of_ne nofun, justified_cons_iff.mpr
            ⟨freesLive_of_ne nofun, justified_singleton.mpr (freesLive_of_ne nofun)⟩⟩
        · exact justified_cons_iff.mpr ⟨releasesNone_of_ne nofun, justified_cons_iff.mpr
            ⟨releasesNone_of_ne nofun, justified_singleton.mpr (releasesNone_of_ne nofun)⟩⟩
        · rw [none]
          exact newSound
  | free hnd calls =>
      obtain ⟨justified, kept, others, -⟩ := free_keeps sound guarded made
      refine ⟨justified, kept, ?_⟩
      rintro _ _ (same | same) <;> cases same
      exact others
  | release hnd calls =>
      obtain ⟨rfl, rfl⟩ := Prod.mk.inj made
      obtain ⟨⟨frees, releases⟩, kept, others, none⟩ := free_keeps sound guarded.1 rfl
      have gone := none guarded.2
      refine ⟨⟨?_, ?_⟩, ?_, ?_⟩
      · refine justified_append_iff.mpr ⟨frees, justified_cons_iff.mpr
          ⟨freesLive_of_ne nofun, justified_singleton.mpr (freesLive_of_ne nofun)⟩⟩
      · refine justified_append_iff.mpr ⟨releases, justified_cons_iff.mpr
          ⟨?_, justified_singleton.mpr (releasesNone_of_ne nofun)⟩⟩
        rintro _ ⟨⟩
        rw [List.append_nil]
        exact gone
      · rw [← List.append_assoc, liveAllocs_append]
        exact kept
      · rintro _ _ (same | same) <;> cases same
        intro notOwn new
        rw [List.mem_append, not_or]
        exact ⟨others notOwn new, by simp⟩

/-- The buffers are freed as they should in every run whose calls succeed where it matters. -/
theorem buffersFreed {history : History SecureEvent SecureOutput} {record : SecHwc}
    (run : (secureSystem geHnd).Run SecureCallsSucceed history record) : BuffersFreed history := by
  have kept : BuffersFreed history ∧ RecordSound (liveAllocs history.outputs) record := by
    induction run with
    | start starts =>
        rw [starts]
        exact ⟨⟨justified_nil, justified_nil, justified_nil⟩, .empty rfl⟩
    | next running guarded stepped ih =>
        obtain ⟨freed, sound⟩ := ih
        obtain ⟨⟨frees, releases⟩, after, others⟩ :=
          secureStep_keeps sound guarded (Option.some.inj stepped)
        rw [History.outputs_snoc]
        refine ⟨⟨?_, ?_, justified_snoc_iff.mpr ⟨freed.others, others⟩⟩, after⟩
        · rw [History.outputs_snoc]
          exact justified_append_iff.mpr ⟨freed.once, frees⟩
        · rw [History.outputs_snoc]
          exact justified_append_iff.mpr ⟨freed.released, releases⟩
  exact kept.1

end Runs

/-- Calls that all succeed. -/
def plainCalls (ionHnd : Nat) : SecureCalls :=
  ⟨none, .ok 5, 4096, 0, .ok ionHnd, some 256, true, true, 1⟩

/-- A second handle neither allocates nor frees while the first has the buffer; an allocation
without memory; and the second handle has a buffer after the first. -/
theorem buffersFreed_two : ∃ history record,
    (secureSystem 9).Run SecureCallsSucceed history record ∧ BuffersFreed history ∧
    history.outputs = [.ionAlloc 1 5 4096 0 7, .geSet ⟨1, 9, 7, 256⟩, .returned 0,
      .returned 1, .returned 0, .released 2, .returned 1,
      .ionFree 5 7 true, .geSet .zero, .returned 0, .released 1, .returned 1,
      .returned (-12),
      .ionAlloc 2 5 4096 0 8, .geSet ⟨2, 9, 8, 256⟩, .returned 0,
      .ionFree 5 8 true, .geSet .zero, .returned 0] := by
  let calls : List SecureEvent := [.alloc 1 (plainCalls 7), .alloc 2 (plainCalls 8),
    .release 2 (plainCalls 0), .release 1 (plainCalls 0),
    .alloc 2 { plainCalls 8 with ionAlloc := .error (-12) }, .alloc 2 (plainCalls 8),
    .free 2 (plainCalls 0)]
  obtain ⟨history, record, run, outputs⟩ := System.exists_run_of_exec (secureSystem 9)
    SecureCallsSucceed calls (fun final => final.1.outputs) rfl (by decide +kernel) rfl
  exact ⟨history, record, run, buffersFreed run, outputs⟩

/-- What goes wrong: without its address a buffer is never freed; and one whose record stays is
freed again. -/
theorem buffers_lost :
    (∃ history record, (secureSystem 9).Run System.free history record ∧
      ¬ BuffersFreed history ∧ history.events =
        [.alloc 1 { plainCalls 7 with phys := none }, .release 1 (plainCalls 0)]) ∧
    ∃ history record, (secureSystem 9).Run System.free history record ∧
      ¬ BuffersFreed history ∧ history.events = [.alloc 1 (plainCalls 7),
        .free 1 { plainCalls 0 with set := false }, .release 1 (plainCalls 0)] := by
  constructor
  · obtain ⟨history, record, run, seen⟩ := System.exists_run_of_exec (secureSystem 9)
      System.free [.alloc 1 { plainCalls 7 with phys := none }, .release 1 (plainCalls 0)]
      (fun final => (final.1.events, final.1.outputs)) rfl (by decide +kernel) rfl
    obtain ⟨events, outputs⟩ := Prod.mk.inj seen
    refine ⟨history, record, run, ?_, events⟩
    intro freed
    have alone := freed.released
      [.ionAlloc 1 5 4096 0 7, .geSet ⟨1, 9, 7, 0⟩, .returned 0, .returned 0] (.released 1)
      [.returned 1] outputs 1 rfl ⟨1, 5, 7⟩ (by decide)
    exact alone rfl
  · obtain ⟨history, record, run, seen⟩ := System.exists_run_of_exec (secureSystem 9)
      System.free [.alloc 1 (plainCalls 7), .free 1 { plainCalls 0 with set := false },
        .release 1 (plainCalls 0)]
      (fun final => (final.1.events, final.1.outputs)) rfl (by decide +kernel) rfl
    obtain ⟨events, outputs⟩ := Prod.mk.inj seen
    refine ⟨history, record, run, ?_, events⟩
    intro freed
    obtain ⟨alloc, occurs, -⟩ := freed.once
      [.ionAlloc 1 5 4096 0 7, .geSet ⟨1, 9, 7, 256⟩, .returned 0, .ionFree 5 7 true,
        .returned 0] (.ionFree 5 7 true)
      [.geSet .zero, .returned 0, .released 1, .returned 1] outputs 5 7 true rfl
    revert occurs
    simp [liveAllocs, trackAlloc]

end X3Hal.Gui
