import X3Hal.Ril.Unsol
import X3Hal.Ril.Service

/-!
# Registration and the offset arithmetic of the tables

Registration checks both tables once and computes where their vendor ranges
start.  A request or an unsolicited response then selects its entry by an offset
from one of two bases.  The vendor entries of the command table are compiled
out, so its start stays zero, and an unsolicited number is compared with the
last vendor number only.
-/

namespace X3Hal.Ril

/-- `RIL_VERSION_MIN`. -/
def rilVersionMin : Int :=
  6

/-- What registration leaves behind. -/
structure Registry where
  registerCalled : Bool
  mtkCommandStart : Nat
  mtkUnsolStart : Nat
  deriving DecidableEq, Repr

/-- The state before registration. -/
def Registry.initial : Registry :=
  ⟨false, 0, 0⟩

/-- The self-check over the numbers of a table: the start of its vendor range,
or nothing when an assertion fails. -/
def selfCheck (base vendorBase : Nat) : List Nat → Nat → Nat → Option Nat
  | [], _, start => some start
  | number :: rest, index, start =>
      if number < vendorBase then
        if index + base = number then selfCheck base vendorBase rest (index + 1) start else none
      else
        let start := if start = 0 then index else start
        if index + vendorBase - start = number then
          selfCheck base vendorBase rest (index + 1) start
        else none

/-- Registration over the numbers of the two tables: the version of the callbacks,
if there are any, and the state before. -/
def registerTables (commandNumbers unsolNumbers : List Nat) (callbacks : Option Int)
    (registry : Registry) : Option Registry :=
  match callbacks with
  | none => some registry
  | some version =>
      if version < rilVersionMin then some registry
      else if registry.registerCalled then some registry
      else
        match selfCheck 0 requestVendorBase commandNumbers 0 registry.mtkCommandStart with
        | none => none
        | some mtkCommandStart =>
            match selfCheck unsolResponseBase unsolVendorBase unsolNumbers 0
                registry.mtkUnsolStart with
            | none => none
            | some mtkUnsolStart => some ⟨true, mtkCommandStart, mtkUnsolStart⟩

/-- `RIL_register` and `RIL_registerSocket`. -/
def register (callbacks : Option Int) (registry : Registry) : Option Registry :=
  registerTables (commands.map CommandInfo.requestNumber)
    (unsolResponses.map UnsolResponseInfo.requestNumber) callbacks registry

/-- Registrations one after the other. -/
def registers : List (Option Int) → Registry → Option Registry
  | [], registry => some registry
  | callbacks :: rest, registry => (register callbacks registry).bind (registers rest)

/-- The state after the first registration that is taken. -/
def Registry.registered : Registry :=
  ⟨true, 0, 48⟩

/-- The command table has no vendor range. -/
theorem selfCheck_commands :
    selfCheck 0 requestVendorBase (commands.map CommandInfo.requestNumber) 0 0 = some 0 := by
  decide +kernel

/-- The vendor range of the unsolicited responses starts after the standard one. -/
theorem selfCheck_unsolResponses :
    selfCheck unsolResponseBase unsolVendorBase
      (unsolResponses.map UnsolResponseInfo.requestNumber) 0 0 = some 48 := by
  decide +kernel

/-- The first registration with callbacks of a current version is taken when both
tables pass their self-check. -/
theorem registerTables_initial {commandNumbers unsolNumbers : List Nat}
    {mtkCommandStart mtkUnsolStart : Nat}
    (commandsPass : selfCheck 0 requestVendorBase commandNumbers 0 0 = some mtkCommandStart)
    (unsolsPass : selfCheck unsolResponseBase unsolVendorBase unsolNumbers 0 0 =
      some mtkUnsolStart) (version : Int) :
    registerTables commandNumbers unsolNumbers (some version) .initial =
      if version < rilVersionMin then some .initial
      else some ⟨true, mtkCommandStart, mtkUnsolStart⟩ := by
  simp only [registerTables, Registry.initial, commandsPass, unsolsPass, Bool.false_eq_true,
    if_false]

/-- Every later registration is ignored. -/
theorem registerTables_called {registry : Registry} (called : registry.registerCalled = true)
    (commandNumbers unsolNumbers : List Nat) (callbacks : Option Int) :
    registerTables commandNumbers unsolNumbers callbacks registry = some registry := by
  cases callbacks with
  | none => rfl
  | some version => simp only [registerTables, called, if_true, ite_self]

/-- Every sequence of registrations ends unregistered or with the same starts. -/
theorem registers_cases (attempts : List (Option Int)) {registry : Registry}
    (reached : registry = .initial ∨ registry = .registered) :
    registers attempts registry = some .initial ∨
      registers attempts registry = some .registered := by
  induction attempts generalizing registry with
  | nil =>
      rcases reached with rfl | rfl
      · exact Or.inl rfl
      · exact Or.inr rfl
  | cons callbacks rest ih =>
      rw [registers, register]
      rcases reached with rfl | rfl
      · cases callbacks with
        | none => exact ih (Or.inl rfl)
        | some version =>
            rw [registerTables_initial selfCheck_commands selfCheck_unsolResponses]
            split
            · exact ih (Or.inl rfl)
            · exact ih (Or.inr rfl)
      · rw [registerTables_called rfl]
        exact ih (Or.inr rfl)

/-- After a registration that was taken the starts are those of the two tables. -/
theorem eq_registered {attempts : List (Option Int)} {registry : Registry}
    (ran : registers attempts .initial = some registry) (called : registry.registerCalled = true) :
    registry = .registered := by
  rcases registers_cases attempts (Or.inl rfl) with initial | registered
  · rw [initial, Option.some.injEq] at ran
    subst ran
    exact absurd called (by decide)
  · rw [registered, Option.some.injEq] at ran
    exact ran.symm

section Commands

/-- The index that `addRequestToList` computes for a request. -/
def Registry.commandIndex (registry : Registry) (request : Nat) : Nat :=
  if request < requestVendorBase then request
  else request - requestVendorBase + registry.mtkCommandStart

/-- The entry that `addRequestToList` selects; nothing when it lies outside the table. -/
def Registry.commandInfo (registry : Registry) (request : Request) : Option CommandInfo :=
  commands[registry.commandIndex request.number]?

/-- The selected entry exists and carries the request's own number. -/
def Registry.SelectsOwnEntry (registry : Registry) (request : Request) : Prop :=
  (registry.commandInfo request).map CommandInfo.requestNumber = some request.number

instance (registry : Registry) (request : Request) :
    Decidable (registry.SelectsOwnEntry request) :=
  inferInstanceAs (Decidable (_ = _))

/-- Where the entry of a number is looked up once registration is done. -/
theorem commandIndex_registered (number : Nat) :
    Registry.registered.commandIndex number = if number < 2000 then number else number - 2000 := by
  rw [Registry.commandIndex, Registry.registered, Nat.add_zero, requestVendorBase]

/-- Exactly the requests of the standard table select their own entry. -/
theorem selectsOwnEntry_iff (request : Request) :
    Registry.registered.SelectsOwnEntry request ↔ request.number < 141 := by
  rw [Registry.SelectsOwnEntry, Registry.commandInfo, commands_getElem?_number,
    commandIndex_registered]
  generalize request.number = number
  by_cases standard : number < 2000
  · simp only [if_pos standard, Option.ite_none_right_eq_some, and_true]
  · simp only [if_neg standard, Option.ite_none_right_eq_some, Option.some.injEq]
    omega

/-- The entry of a request; past the table it is whatever the memory there holds. -/
def entryOf (beyond : Request → CommandInfo) (request : Request) : CommandInfo :=
  (Registry.registered.commandInfo request).getD (beyond request)

/-- Memory past the table that holds no response function. -/
def emptyMemory : Request → CommandInfo :=
  fun _ => ⟨0, false, .proxy3⟩

/-- The entry of the one request past the table is what the memory there holds. -/
theorem entryOf_stopNetworkScan (beyond : Request → CommandInfo) :
    entryOf beyond .stopNetworkScan = beyond .stopNetworkScan := by
  have outside : Registry.registered.commandInfo .stopNetworkScan = none := by decide +kernel
  rw [entryOf, outside, Option.getD_none]

/-- The methods that issue a request outside the standard table. -/
def RadioMethod.issuesVendorRequest : RadioMethod → Bool
  | .setSimCardPower _ => true
  | .stopNetworkScan => true
  | .registrationSuspendInd => true
  | .incomingCallInd => true
  | _ => false

/-- The requests of every other method are in the standard table, whatever the
version of the vendor library. -/
theorem number_lt_of_mem_issues {version : Int} {method : RadioMethod} {issue : Issue}
    (standard : method.issuesVendorRequest = false) (issued : issue ∈ method.issues version) :
    issue.request.number < 141 := by
  have passed : method.passes (fun issue => decide (issue.request.number < 141)) = true := by
    cases method with
    | setupDataCall mvnoTypeKnown => cases mvnoTypeKnown <;> decide
    | sendImsSms tech => cases tech <;> decide
    | sendDeviceState lowDataExpected => cases lowDataExpected <;> decide
    | setSimCardPower powerUp => cases standard
    | stopNetworkScan => cases standard
    | registrationSuspendInd => cases standard
    | incomingCallInd => cases standard
    | _ => decide
  exact of_decide_eq_true (RadioMethod.all_issues_of_passes passed version issued)

/-- A method issues only requests that select their own entry exactly when it
issues none outside the standard table. -/
theorem issues_selectOwnEntry_iff (version : Int) (method : RadioMethod) :
    (∀ issue ∈ method.issues version, Registry.registered.SelectsOwnEntry issue.request) ↔
      method.issuesVendorRequest = false := by
  constructor
  · intro own
    cases method with
    | setSimCardPower powerUp =>
        cases powerUp
        · exact absurd (own _ (List.mem_singleton.mpr rfl)) (by decide +kernel)
        · exact absurd (own _ (List.mem_singleton.mpr rfl)) (by decide +kernel)
    | stopNetworkScan => exact absurd (own _ (List.mem_singleton.mpr rfl)) (by decide +kernel)
    | registrationSuspendInd =>
        exact absurd (own _ (List.mem_singleton.mpr rfl)) (by decide +kernel)
    | incomingCallInd => exact absurd (own _ (List.mem_singleton.mpr rfl)) (by decide +kernel)
    | _ => rfl
  · intro standard issue issued
    rw [selectsOwnEntry_iff]
    exact number_lt_of_mem_issues standard issued

end Commands

section Unsols

/-- The least value of an `int`. -/
def intMin : Int :=
  -2147483648

/-- The greatest value of an `int`. -/
def intMax : Int :=
  2147483647

/-- The result of an `int` operation; the language leaves an overflow undefined. -/
def checkedInt (value : Int) : Option Int :=
  if intMin ≤ value ∧ value ≤ intMax then some value else none

/-- What becomes of an unsolicited number. -/
inductive UnsolAccess
  /-- The index computation has no defined result. -/
  | overflow
  /-- The number is left before the table is consulted. -/
  | dropped
  | rejected
  /-- The table is read at this index. -/
  | entry (index : Nat)
  deriving DecidableEq, Repr

/-- The index that `send_unsolResponse` computes. -/
def Registry.unsolResponseIndex (registry : Registry) (unsolResponse : Int) : Option Int :=
  if unsolResponse < unsolVendorBase then checkedInt (unsolResponse - unsolResponseBase)
  else (checkedInt (unsolResponse - unsolVendorBase)).bind fun offset =>
    checkedInt (offset + registry.mtkUnsolStart)

/-- The checks of `send_unsolResponse` up to its first access to the table. -/
def Registry.sendUnsolResponse (registry : Registry) (unsolResponse : Int) : UnsolAccess :=
  match registry.unsolResponseIndex unsolResponse with
  | none => .overflow
  | some index =>
      if index < 0 then .rejected
      else if unsolResponse > unsolVendorBase + 80 then .rejected
      else .entry index.toNat

/-- `RIL_onUnsolicitedResponseSocket`. -/
def Registry.onUnsolicitedResponse (registry : Registry) (unsolResponse : Int) : UnsolAccess :=
  if registry.registerCalled = false then .dropped
  else if unsolResponse ∈ ignoredUnsols.map (fun unsol => (unsol.number : Int)) then .dropped
  else registry.sendUnsolResponse unsolResponse

/-- The number reaches no table access, or it reads its own entry; and only a
number without an entry is rejected. -/
def UnsolAccess.Sound (unsolResponse : Int) : UnsolAccess → Prop
  | overflow => False
  | dropped => True
  | rejected => ∀ info ∈ unsolResponses, (info.requestNumber : Int) ≠ unsolResponse
  | entry index =>
      ∃ info, unsolResponses[index]? = some info ∧ (info.requestNumber : Int) = unsolResponse

/-- The numbers of the two ranges of the table. -/
theorem mem_unsolResponses {info : UnsolResponseInfo} (listed : info ∈ unsolResponses) :
    (1000 ≤ info.requestNumber ∧ info.requestNumber < 1048) ∨
      (3000 ≤ info.requestNumber ∧ info.requestNumber < 3081) := by
  have number := List.mem_map_of_mem (f := UnsolResponseInfo.requestNumber) listed
  rw [unsolResponses_numbers, List.mem_append, List.mem_range'_1, List.mem_range'_1] at number
  exact number

/-- The index of a number once registration is done. -/
theorem unsolResponseIndex_registered {unsolResponse : Int} (least : intMin ≤ unsolResponse)
    (greatest : unsolResponse ≤ intMax) :
    Registry.registered.unsolResponseIndex unsolResponse =
      if unsolResponse < intMin + 1000 then none
      else if unsolResponse < 3000 then some (unsolResponse - 1000)
      else some (unsolResponse - 3000 + 48) := by
  have bases : (unsolResponseBase : Int) = 1000 ∧ (unsolVendorBase : Int) = 3000 := ⟨rfl, rfl⟩
  have start : (Registry.registered.mtkUnsolStart : Int) = 48 := rfl
  rw [Registry.unsolResponseIndex, bases.1, bases.2, start]
  unfold intMin at least ⊢
  unfold intMax at greatest
  by_cases standard : unsolResponse < 3000
  · rw [if_pos standard, if_pos standard, checkedInt, intMin, intMax]
    by_cases low : unsolResponse < -2147483648 + 1000
    · rw [if_pos low, if_neg (by omega)]
    · rw [if_neg low, if_pos (by omega)]
  · rw [if_neg standard, if_neg standard, if_neg (by omega), checkedInt, intMin, intMax,
      if_pos (by omega), Option.bind_some, checkedInt, intMin, intMax, if_pos (by omega)]

/-- Where a number ends up once registration is done. -/
theorem sendUnsolResponse_registered {unsolResponse : Int} (least : intMin ≤ unsolResponse)
    (greatest : unsolResponse ≤ intMax) :
    Registry.registered.sendUnsolResponse unsolResponse =
      if unsolResponse < intMin + 1000 then .overflow
      else if unsolResponse < 1000 then .rejected
      else if unsolResponse < 3000 then .entry (unsolResponse - 1000).toNat
      else if unsolResponse ≤ 3080 then .entry (unsolResponse - 3000 + 48).toNat
      else .rejected := by
  have bound : (unsolVendorBase : Int) + 80 = 3080 := rfl
  rw [Registry.sendUnsolResponse, unsolResponseIndex_registered least greatest, bound]
  by_cases overflows : unsolResponse < intMin + 1000
  · rw [if_pos overflows, if_pos overflows]
  · rw [if_neg overflows, if_neg overflows]
    by_cases standard : unsolResponse < 3000
    · rw [if_pos standard, if_pos standard]
      by_cases below : unsolResponse < 1000
      · simp only [if_pos below, if_pos (by omega : unsolResponse - 1000 < 0)]
      · simp only [if_neg below, if_neg (by omega : ¬unsolResponse - 1000 < 0),
          if_neg (by omega : ¬unsolResponse > 3080)]
    · have notBelow : ¬unsolResponse < 1000 := by omega
      have notNegative : ¬unsolResponse - 3000 + 48 < 0 := by omega
      simp only [if_neg standard, if_neg notBelow, if_neg notNegative]
      by_cases vendor : unsolResponse ≤ 3080
      · rw [if_pos vendor, if_neg (by omega)]
      · rw [if_neg vendor, if_pos (by omega)]

/-- A number outside both ranges of the table has no entry. -/
theorem rejected_sound {unsolResponse : Int}
    (outside : unsolResponse < 1000 ∨ 3080 < unsolResponse) :
    UnsolAccess.Sound unsolResponse .rejected := by
  intro info listed own
  have range := mem_unsolResponses listed
  omega

/-- A number of the standard range reads its own entry. -/
theorem standardEntry_sound {unsolResponse : Int} (least : 1000 ≤ unsolResponse)
    (greatest : unsolResponse < 1048) :
    UnsolAccess.Sound unsolResponse (.entry (unsolResponse - 1000).toNat) := by
  have number := unsolResponses_getElem?_standard
    (by omega : (unsolResponse - 1000).toNat < 48)
  rw [Option.map_eq_some_iff] at number
  obtain ⟨info, found, own⟩ := number
  refine ⟨info, found, ?_⟩
  rw [own, unsolResponseBase]
  omega

/-- A number of the vendor range reads its own entry. -/
theorem vendorEntry_sound {unsolResponse : Int} (least : 3000 ≤ unsolResponse)
    (greatest : unsolResponse ≤ 3080) :
    UnsolAccess.Sound unsolResponse (.entry (unsolResponse - 3000 + 48).toNat) := by
  have number := unsolResponses_getElem?_vendor
    (by omega : (unsolResponse - 3000).toNat < 81)
  rw [Option.map_eq_some_iff] at number
  obtain ⟨info, found, own⟩ := number
  have index : (unsolResponse - 3000 + 48).toNat = 48 + (unsolResponse - 3000).toNat := by omega
  refine ⟨info, index ▸ found, ?_⟩
  rw [own, unsolVendorBase]
  omega

/-- A number between the two ranges reads an entry of the vendor range or none at all. -/
theorem betweenEntry_not_sound {unsolResponse : Int} (least : 1048 ≤ unsolResponse)
    (greatest : unsolResponse < 3000) :
    ¬UnsolAccess.Sound unsolResponse (.entry (unsolResponse - 1000).toNat) := by
  rintro ⟨info, found, own⟩
  by_cases inside : (unsolResponse - 1000).toNat < 129
  · have number := unsolResponses_getElem?_vendor
      (by omega : (unsolResponse - 1000).toNat - 48 < 81)
    have index : 48 + ((unsolResponse - 1000).toNat - 48) = (unsolResponse - 1000).toNat := by
      omega
    rw [index, found, Option.map_some, Option.some.injEq, unsolVendorBase] at number
    omega
  · rw [unsolResponses_getElem?_beyond (by omega)] at found
    cases found

/-- The numbers the library leaves alone are all in the vendor range. -/
theorem ignoredUnsols_vendor :
    ∀ number ∈ ignoredUnsols.map (fun unsol => (unsol.number : Int)),
      3000 ≤ number ∧ number ≤ 3080 := by
  decide +kernel

/-- Exactly the numbers between the two ranges, and those whose index overflows,
are not handled soundly. -/
theorem onUnsolicitedResponse_sound_iff {unsolResponse : Int} (least : intMin ≤ unsolResponse)
    (greatest : unsolResponse ≤ intMax) :
    UnsolAccess.Sound unsolResponse (Registry.registered.onUnsolicitedResponse unsolResponse) ↔
      intMin + 1000 ≤ unsolResponse ∧ ¬(1048 ≤ unsolResponse ∧ unsolResponse < 3000) := by
  rw [Registry.onUnsolicitedResponse, if_neg (by decide)]
  by_cases ignored : unsolResponse ∈ ignoredUnsols.map (fun unsol => (unsol.number : Int))
  · have vendor := ignoredUnsols_vendor unsolResponse ignored
    rw [if_pos ignored, intMin]
    exact iff_of_true trivial ⟨by omega, by omega⟩
  · rw [if_neg ignored, sendUnsolResponse_registered least greatest]
    have lowest : intMin = -2147483648 := rfl
    by_cases overflows : unsolResponse < intMin + 1000
    · rw [if_pos overflows]
      exact iff_of_false id (by omega)
    · rw [if_neg overflows]
      split_ifs with below standard vendor
      · exact iff_of_true (rejected_sound (Or.inl below)) (by omega)
      · by_cases inRange : unsolResponse < 1048
        · exact iff_of_true (standardEntry_sound (by omega) inRange) (by omega)
        · exact iff_of_false (betweenEntry_not_sound (by omega) standard) (by omega)
      · exact iff_of_true (vendorEntry_sound (by omega) vendor) (by omega)
      · exact iff_of_true (rejected_sound (Or.inr (by omega))) (by omega)

end Unsols

/-- After registration, a method issues only requests that select their own
entry exactly when it issues none of the vendor range or beyond the table; and
an unsolicited number reaches no foreign entry exactly when it is not between
the two ranges of the table and its index does not overflow. -/
theorem tables_select_own_entry {attempts : List (Option Int)} {registry : Registry}
    (ran : registers attempts .initial = some registry)
    (called : registry.registerCalled = true) :
    (∀ version method,
      (∀ issue ∈ RadioMethod.issues version method, registry.SelectsOwnEntry issue.request) ↔
        method.issuesVendorRequest = false) ∧
    ∀ unsolResponse, intMin ≤ unsolResponse → unsolResponse ≤ intMax →
      (UnsolAccess.Sound unsolResponse (registry.onUnsolicitedResponse unsolResponse) ↔
        intMin + 1000 ≤ unsolResponse ∧ ¬(1048 ≤ unsolResponse ∧ unsolResponse < 3000)) := by
  obtain rfl := eq_registered ran called
  constructor
  · intro version method
    exact issues_selectOwnEntry_iff version method
  · intro unsolResponse least greatest
    exact onUnsolicitedResponse_sound_iff least greatest

/-- A registration that is too old, then one that is taken, then one that is ignored. -/
theorem tables_select_own_entry_thirdAttempt :
    (∀ version method,
      (∀ issue ∈ RadioMethod.issues version method,
        Registry.registered.SelectsOwnEntry issue.request) ↔
        method.issuesVendorRequest = false) ∧
    ∀ unsolResponse, intMin ≤ unsolResponse → unsolResponse ≤ intMax →
      (UnsolAccess.Sound unsolResponse
          (Registry.registered.onUnsolicitedResponse unsolResponse) ↔
        intMin + 1000 ≤ unsolResponse ∧ ¬(1048 ≤ unsolResponse ∧ unsolResponse < 3000)) :=
  @tables_select_own_entry [some 5, some 10, some 12] .registered (by decide +kernel) rfl

/-- Powering the card up selects the entry of another request, and a number
between the two ranges reads past the table. -/
theorem foreign_entries :
    ¬∀ (attempts : List (Option Int)) (registry : Registry),
      registers attempts .initial = some registry → registry.registerCalled = true →
        (∀ version method, ∀ issue ∈ RadioMethod.issues version method,
          registry.SelectsOwnEntry issue.request) ∧
        ∀ unsolResponse, intMin ≤ unsolResponse → unsolResponse ≤ intMax →
          UnsolAccess.Sound unsolResponse (registry.onUnsolicitedResponse unsolResponse) := by
  intro claimed
  have ⟨requests, _⟩ := claimed [some 10] .registered (by decide +kernel) rfl
  have selects := requests 10 (.setSimCardPower true) (.remote .modemPoweron .dispatchVoid)
    (List.mem_singleton.mpr rfl)
  exact absurd selects (by decide +kernel)

end X3Hal.Ril
