import X3Hal.Memory.Numbers
import X3Hal.Wifi.Attributes

/-!
# Requests

A request is assembled by one put after the other.  A put fails when the message has no room
left; how much of it there is at first is up to the library.  What a computation has put is a
list of parts, in which a nest is closed before the one around it.
-/

namespace X3Hal.Wifi

open X3Hal.Memory

/-! ## Puts -/

inductive RequestPart
  | attr (type : Nat) (payload : List UInt8)
  | nest (type : Nat)
  | nestEnd
  deriving DecidableEq

namespace RequestPart

/-- `nla_total_size`; the end of a nest takes nothing. -/
def size : RequestPart → Nat
  | attr _ payload => nlaAlign (nlaHdrLen + payload.length)
  | nest _ => nlaHdrLen
  | nestEnd => 0

/-- The type of an attribute or of a nest -/
def type? : RequestPart → Option Nat
  | attr type _ => some type
  | nest type => some type
  | nestEnd => none

end RequestPart

def requestSize (parts : List RequestPart) : Nat :=
  (parts.map RequestPart.size).sum

/-- `nl_msg` -/
structure Request where
  room : Nat
  parts : List RequestPart
  deriving DecidableEq

/-- What makes a function return. -/
inductive RequestError
  /-- `-NLE_NOMEM` -/
  | noMemory
  /-- `WIFI_ERROR_OUT_OF_MEMORY` -/
  | outOfMemory
  /-- `WIFI_ERROR_INVALID_ARGS` -/
  | invalidArgs
  deriving DecidableEq

inductive RequestFault
  | failed (error : RequestError)
  | nullPointer
  /-- an access behind an array -/
  | outside
  deriving DecidableEq

/-- What assembles a `WifiRequest`; the state is `mMsg`. -/
abbrev Build :=
  ExceptT RequestFault (StateM (Option Request))

/-- `nla_put`, once a part of this size is in the message -/
def putPart (part : RequestPart) : Build Bool := fun message =>
  match message with
  | none => (.error .nullPointer, none)
  | some request =>
      if part.size ≤ request.room then
        (.ok true, some ⟨request.room - part.size, request.parts ++ [part]⟩)
      else (.ok false, some request)

/-- `put`, and the return when it fails -/
def put (attr : Nat) (payload : List UInt8) : Build Unit := do
  if (← putPart (.attr attr payload)) then pure ()
  else throw (.failed .noMemory)

def putU8 (attr value : Nat) : Build Unit :=
  put attr (leBytes 1 value)

def putU16 (attr value : Nat) : Build Unit :=
  put attr (leBytes 2 value)

def putU32 (attr value : Nat) : Build Unit :=
  put attr (leBytes 4 value)

/-- `put_u32` of a signed number -/
def putInt (attr : Nat) (value : Int) : Build Unit :=
  put attr (signedBytes 4 value)

/-- `attr_end` of what `attr_start` has given, which is NULL when there was no room -/
def attrEnd (started : Bool) : Build Unit :=
  if started then
    modify fun message => message.map fun request =>
      { request with parts := request.parts ++ [.nestEnd] }
  else throw .nullPointer

/-- `attr_start`, what is put between, and `attr_end` -/
def attrNest (attr : Nat) (inner : Build Unit) : Build Unit := do
  let started ← putPart (.nest attr)
  inner
  attrEnd started

/-- `attrNest` where the function returns when `attr_start` gives NULL -/
def attrNestChecked (attr : Nat) (inner : Build Unit) : Build Unit := do
  let started ← putPart (.nest attr)
  if started then
    inner
    attrEnd started
  else throw (.failed .outOfMemory)

/-- An access that may leave its array -/
def checked {α : Type} (access : Option α) : Build α :=
  match access with
  | some value => pure value
  | none => throw .outside

/-- An element of an array that the caller has given -/
def elementOf {α : Type} (array : List α) (i : Nat) : Build α :=
  checked array[i]?

/-- A call whose result is not read -/
def ignoreResult (build : Build Unit) : Build Unit := fun message =>
  (.ok (), (build.run.run message).2)

/-! ## Vendor commands -/

/-- `GOOGLE_OUI` -/
def googleOui : Nat := 0x001A11

/-- `NL80211_ATTR_IFINDEX` -/
def nl80211AttrIfindex : Nat := 3

/-- `NL80211_ATTR_VENDOR_ID` -/
def nl80211AttrVendorId : Nat := 195

/-- `NL80211_ATTR_VENDOR_SUBCMD` -/
def nl80211AttrVendorSubcmd : Nat := 196

/-- `NL80211_ATTR_VENDOR_DATA` -/
def nl80211AttrVendorData : Nat := 197

/-- What a request is made with -/
structure RequestCall where
  /-- the room that `nlmsg_alloc` and `genlmsg_put` leave; `none` when there is no memory -/
  alloc : Option Nat
  /-- `mIface` -/
  iface : Int

/-- `WifiRequest::create` for a command -/
def createMessage (call : RequestCall) : Build Unit := fun _ =>
  match call.alloc with
  | none => (.error (.failed .outOfMemory), none)
  | some room => (.ok (), some ⟨room, []⟩)

/-- What `create` puts for a vendor command -/
def putVendorCommand (iface : Int) (subcmd : Nat) : Build Unit := do
  putU32 nl80211AttrVendorId googleOui
  putU32 nl80211AttrVendorSubcmd subcmd
  if iface ≠ -1 then putInt nl80211AttrIfindex iface

/-- `WifiRequest::create` for a vendor command -/
def WifiRequest.create (call : RequestCall) (subcmd : Nat) : Build Unit := do
  createMessage call
  putVendorCommand call.iface subcmd

/-- What `create` has put. -/
def createdParts (iface : Int) (subcmd : Nat) : List RequestPart :=
  [.attr nl80211AttrVendorId (leBytes 4 googleOui),
    .attr nl80211AttrVendorSubcmd (leBytes 4 subcmd)] ++
  if iface ≠ -1 then [.attr nl80211AttrIfindex (signedBytes 4 iface)] else []

/-- How a request is made, from the start. -/
def assemble (build : Build Unit) : Except RequestFault (List RequestPart) :=
  match build.run.run none with
  | (.ok _, some request) => .ok request.parts
  | (.ok _, none) => .error .nullPointer
  | (.error fault, _) => .error fault

/-! ## What a computation puts -/

/-- Each nest is closed before the one around it. -/
inductive Nested : List RequestPart → Prop
  | nil : Nested []
  | attr {more : List RequestPart} (type : Nat) (payload : List UInt8) (rest : Nested more) :
      Nested (.attr type payload :: more)
  | nest {inner more : List RequestPart} (type : Nat) (inside : Nested inner)
      (rest : Nested more) : Nested (.nest type :: inner ++ .nestEnd :: more)

theorem Nested.append {parts more : List RequestPart} (first : Nested parts)
    (second : Nested more) : Nested (parts ++ more) := by
  induction first with
  | nil => exact second
  | attr type payload _ ih => exact .attr type payload ih
  | nest type inside _ _ ih =>
      rw [List.cons_append, List.cons_append, List.append_assoc, List.cons_append]
      exact .nest type inside ih

@[simp]
theorem requestSize_cons (part : RequestPart) (parts : List RequestPart) :
    requestSize (part :: parts) = part.size + requestSize parts := by
  rw [requestSize, List.map_cons, List.sum_cons]
  rfl

theorem requestSize_singleton (part : RequestPart) : requestSize [part] = part.size := by
  rw [requestSize_cons, requestSize, List.map_nil, List.sum_nil, Nat.add_zero]

theorem requestSize_append (parts more : List RequestPart) :
    requestSize (parts ++ more) = requestSize parts + requestSize more := by
  rw [requestSize, List.map_append, List.sum_append]
  rfl

section Rules

variable {α β : Type} {first : Build α} {next : α → Build β}

theorem run_bind (state : Option Request) :
    (first >>= next).run.run state =
      match first.run.run state with
      | (.ok value, after) => (next value).run.run after
      | (.error fault, after) => (.error fault, after) := by
  change (ExceptT.bind first next).run.run state = _
  simp only [ExceptT.bind, ExceptT.mk, ExceptT.run, StateT.run, bind, StateT.bind]
  rcases first state with ⟨value | fault, after⟩ <;> rfl

/-- A computation that succeeds has put parts with a property. -/
def Puts (build : Build α) (P : α → List RequestPart → Prop) : Prop :=
  ∀ request value after, build.run.run (some request) = (.ok value, after) →
    ∃ parts room, after = some ⟨room, request.parts ++ parts⟩ ∧ P value parts

variable {P : α → List RequestPart → Prop} {Q : β → List RequestPart → Prop}

theorem puts_bind (front : Puts first P)
    (back : ∀ value parts, P value parts → Puts (next value) fun result more =>
      Q result (parts ++ more)) : Puts (first >>= next) Q := by
  intro request result final ran
  rw [run_bind] at ran
  cases started : first.run.run (some request) with
  | mk outcome after =>
      rw [started] at ran
      cases outcome with
      | error fault => cases ran
      | ok value =>
          obtain ⟨parts, room, rfl, holds⟩ := front request value after started
          obtain ⟨more, left, rfl, both⟩ := back value parts holds _ result final ran
          exact ⟨parts ++ more, left, by rw [List.append_assoc], both⟩

theorem puts_pure {value : α} (holds : P value []) : Puts (pure value) P := by
  intro request result after ran
  cases ran
  exact ⟨[], request.room, by rw [List.append_nil], holds⟩

theorem puts_throw {fault : RequestFault} : Puts (throw fault : Build α) P := by
  intro request value after ran
  cases ran

theorem Puts.mono {build : Build α} {R : α → List RequestPart → Prop} (puts : Puts build P)
    (weaker : ∀ value parts, P value parts → R value parts) : Puts build R := by
  intro request value after ran
  obtain ⟨parts, room, left, holds⟩ := puts request value after ran
  exact ⟨parts, room, left, weaker value parts holds⟩

/-! ### The functions of a request -/

theorem run_putPart (part : RequestPart) (request : Request) :
    (putPart part).run.run (some request) =
      if part.size ≤ request.room then
        (.ok true, some ⟨request.room - part.size, request.parts ++ [part]⟩)
      else (.ok false, some request) :=
  rfl

theorem puts_putPart (part : RequestPart) :
    Puts (putPart part) fun placed parts => placed = true → parts = [part] := by
  intro request placed after ran
  rw [run_putPart] at ran
  split at ran
  · cases ran
    exact ⟨[part], _, rfl, fun _ => rfl⟩
  · cases ran
    exact ⟨[], request.room, by rw [List.append_nil], nofun⟩

theorem run_put (attr : Nat) (payload : List UInt8) (request : Request) :
    (put attr payload).run.run (some request) =
      if (RequestPart.attr attr payload).size ≤ request.room then
        (.ok (), some ⟨request.room - (RequestPart.attr attr payload).size,
          request.parts ++ [.attr attr payload]⟩)
      else (.error (.failed .noMemory), some request) := by
  rw [put, run_bind, run_putPart]
  by_cases fits : (RequestPart.attr attr payload).size ≤ request.room
  · rw [if_pos fits, if_pos fits]
    rfl
  · rw [if_neg fits, if_neg fits]
    rfl

theorem put_cases (attr : Nat) (payload : List UInt8) (request : Request) :
    (∃ room, (put attr payload).run.run (some request) =
      (.ok (), some ⟨room, request.parts ++ [.attr attr payload]⟩)) ∨
    (put attr payload).run.run (some request) = (.error (.failed .noMemory), some request) := by
  rw [run_put]
  split
  case isTrue => exact .inl ⟨_, rfl⟩
  case isFalse => exact .inr rfl

theorem puts_put (attr : Nat) (payload : List UInt8) :
    Puts (put attr payload) fun _ parts => parts = [.attr attr payload] := by
  apply puts_bind (puts_putPart _)
  intro placed parts isPart
  cases placed with
  | false => exact puts_throw
  | true => exact puts_pure (by rw [isPart rfl]; rfl)

theorem puts_elementOf (array : List α) (i : Nat) :
    Puts (elementOf array i) fun element parts => array[i]? = some element ∧ parts = [] := by
  unfold elementOf checked
  split
  case h_1 element found => exact puts_pure ⟨found, rfl⟩
  case h_2 => exact puts_throw

theorem puts_attrEnd (started : Bool) :
    Puts (attrEnd started) fun _ parts => started = true ∧ parts = [.nestEnd] := by
  cases started with
  | false => exact puts_throw
  | true =>
      intro request value after ran
      cases ran
      exact ⟨[.nestEnd], request.room, rfl, rfl, rfl⟩

theorem puts_attrNest {inner : Build Unit} {R : List RequestPart → Prop} (attr : Nat)
    (inside : Puts inner fun _ parts => R parts) :
    Puts (attrNest attr inner) fun _ parts =>
      ∃ between, parts = .nest attr :: between ++ [.nestEnd] ∧ R between := by
  apply puts_bind (puts_putPart _)
  intro started front isNest
  apply puts_bind inside
  intro _ between holds
  apply (puts_attrEnd started).mono
  rintro _ parts ⟨placed, rfl⟩
  exact ⟨between, by rw [isNest placed]; rfl, holds⟩

theorem puts_attrNestChecked {inner : Build Unit} {R : List RequestPart → Prop} (attr : Nat)
    (inside : Puts inner fun _ parts => R parts) :
    Puts (attrNestChecked attr inner) fun _ parts =>
      ∃ between, parts = .nest attr :: between ++ [.nestEnd] ∧ R between := by
  apply puts_bind (puts_putPart _)
  intro started front isNest
  cases started with
  | false => exact puts_throw
  | true =>
      apply puts_bind inside
      intro _ between holds
      apply (puts_attrEnd true).mono
      rintro _ parts ⟨placed, rfl⟩
      exact ⟨between, by rw [isNest placed]; rfl, holds⟩

theorem puts_putVendorCommand (iface : Int) (subcmd : Nat) :
    Puts (putVendorCommand iface subcmd) fun _ parts => parts = createdParts iface subcmd := by
  apply puts_bind (puts_put _ _)
  rintro _ _ rfl
  apply puts_bind (puts_put _ _)
  rintro _ _ rfl
  unfold createdParts
  split
  case isTrue =>
    apply (puts_put _ _).mono
    rintro _ _ rfl
    rfl
  case isFalse => exact puts_pure rfl

theorem run_createMessage (call : RequestCall) (state : Option Request) :
    (createMessage call).run.run state =
      match call.alloc with
      | none => (.error (.failed .outOfMemory), none)
      | some room => (.ok (), some ⟨room, []⟩) :=
  rfl

theorem run_ignoreResult (build : Build Unit) (state : Option Request) :
    (ignoreResult build).run.run state = (.ok (), (build.run.run state).2) :=
  rfl

/-- A request starts with what `create` puts. -/
theorem parts_of_assemble {rest : Build Unit} {R : List RequestPart → Prop} {call : RequestCall}
    {subcmd : Nat} {sent : List RequestPart} (puts : Puts rest fun _ parts => R parts)
    (made : assemble (do WifiRequest.create call subcmd; rest) = .ok sent) :
    ∃ parts, sent = createdParts call.iface subcmd ++ parts ∧ R parts := by
  have created : Puts (putVendorCommand call.iface subcmd >>= fun _ => rest) fun _ parts =>
      ∃ more, parts = createdParts call.iface subcmd ++ more ∧ R more := by
    apply puts_bind (puts_putVendorCommand _ _)
    rintro _ _ rfl
    exact puts.mono fun _ more holds => ⟨more, rfl, holds⟩
  rw [WifiRequest.create, bind_assoc, assemble, run_bind, run_createMessage] at made
  cases alloc : call.alloc with
  | none =>
      rw [alloc] at made
      cases made
  | some room =>
      rw [alloc] at made
      dsimp only at made
      cases ran : (putVendorCommand call.iface subcmd >>= fun _ => rest).run.run
          (some ⟨room, []⟩) with
      | mk outcome after =>
          rw [ran] at made
          cases outcome with
          | error fault => cases made
          | ok value =>
              obtain ⟨parts, left, rfl, split⟩ := created _ _ _ ran
              cases made
              exact split

end Rules

/-! ### Computations that put well nested parts -/

/-- What a computation puts is well nested. -/
def PutsNested (build : Build Unit) : Prop :=
  Puts build fun _ parts => Nested parts

section Nested

variable {inner first : Build Unit}

theorem putsNested_pure : PutsNested (pure ()) :=
  puts_pure .nil

theorem putsNested_put (attr : Nat) (payload : List UInt8) : PutsNested (put attr payload) := by
  apply (puts_put attr payload).mono
  rintro _ _ rfl
  exact .attr attr payload .nil

theorem PutsNested.bind {next : Unit → Build Unit} (front : PutsNested first)
    (back : PutsNested (next ())) : PutsNested (first >>= next) := by
  apply puts_bind front
  intro _ parts nested
  exact back.mono fun _ more rest => nested.append rest

theorem putsNested_elementOf {α : Type} {array : List α} {i : Nat} {next : α → Build Unit}
    (back : ∀ element, PutsNested (next element)) :
    PutsNested (elementOf array i >>= next) := by
  apply puts_bind (puts_elementOf array i)
  rintro element _ ⟨_, rfl⟩
  exact back element

theorem nested_nest {parts : List RequestPart} (attr : Nat) :
    (∃ between, parts = .nest attr :: between ++ [.nestEnd] ∧ Nested between) →
      Nested parts := by
  rintro ⟨between, rfl, inside⟩
  exact .nest attr inside .nil

theorem putsNested_attrNest (attr : Nat) (inside : PutsNested inner) :
    PutsNested (attrNest attr inner) :=
  (puts_attrNest attr inside).mono fun _ _ => nested_nest attr

theorem putsNested_attrNestChecked (attr : Nat) (inside : PutsNested inner) :
    PutsNested (attrNestChecked attr inner) :=
  (puts_attrNestChecked attr inside).mono fun _ _ => nested_nest attr

theorem putsNested_forM {ι : Type} {items : List ι} {body : ι → Build Unit}
    (each : ∀ item, PutsNested (body item)) : PutsNested (items.forM body) := by
  induction items with
  | nil => exact putsNested_pure
  | cons item items ih => exact (each item).bind ih

end Nested

/-! ### Computations that have enough room -/

/-- With room for these parts, a computation puts them and ends so. -/
def Ends (build : Build Unit) (parts : List RequestPart) (outcome : Except RequestFault Unit) :
    Prop :=
  ∀ request : Request, requestSize parts ≤ request.room →
    build.run.run (some request) =
      (outcome, some ⟨request.room - requestSize parts, request.parts ++ parts⟩)

section Room

variable {first inner : Build Unit} {next : Unit → Build Unit} {parts more : List RequestPart}
  {outcome : Except RequestFault Unit} {fault : RequestFault}

theorem ends_pure : Ends (pure ()) [] (.ok ()) := by
  intro request _
  rw [List.append_nil]
  rfl

theorem ends_throw_bind {α : Type} {next : α → Build Unit} :
    Ends ((throw fault : Build α) >>= next) [] (.error fault) := by
  intro request _
  rw [run_bind, List.append_nil]
  rfl

theorem Ends.bind (front : Ends first parts (.ok ())) (back : Ends (next ()) more outcome) :
    Ends (first >>= next) (parts ++ more) outcome := by
  intro request room
  rw [requestSize_append] at room
  rw [run_bind, front request (by omega)]
  dsimp only
  rw [back _ (by dsimp only; omega), List.append_assoc, requestSize_append, Nat.sub_sub]

theorem Ends.bind_error (front : Ends first parts (.error fault)) :
    Ends (first >>= next) parts (.error fault) := by
  intro request room
  rw [run_bind, front request room]

theorem ends_put (attr : Nat) (payload : List UInt8) :
    Ends (put attr payload) [.attr attr payload] (.ok ()) := by
  intro request room
  rw [requestSize_singleton] at room
  rw [run_put, if_pos room, requestSize_singleton]

theorem ends_putPart_bind {part : RequestPart} {next : Bool → Build Unit}
    (back : Ends (next true) more outcome) :
    Ends (putPart part >>= next) (part :: more) outcome := by
  intro request room
  rw [requestSize_cons] at room
  rw [run_bind, run_putPart, if_pos (by omega)]
  dsimp only
  rw [back _ (by dsimp only; omega), List.append_assoc, requestSize_cons, Nat.sub_sub]
  rfl

theorem ends_attrEnd : Ends (attrEnd true) [.nestEnd] (.ok ()) := by
  intro request _
  rfl

theorem ends_attrNest (attr : Nat) (inside : Ends inner parts (.ok ())) :
    Ends (attrNest attr inner) (.nest attr :: (parts ++ [.nestEnd])) (.ok ()) :=
  ends_putPart_bind (inside.bind ends_attrEnd)

theorem ends_attrNest_error (attr : Nat) (inside : Ends inner parts (.error fault)) :
    Ends (attrNest attr inner) (.nest attr :: parts) (.error fault) :=
  ends_putPart_bind inside.bind_error

theorem ends_putVendorCommand (iface : Int) (subcmd : Nat) :
    Ends (putVendorCommand iface subcmd) (createdParts iface subcmd) (.ok ()) := by
  rw [createdParts, List.cons_append, ← List.singleton_append]
  apply (ends_put _ _).bind
  apply (ends_put _ _).bind
  split
  case isTrue => exact ends_put _ _
  case isFalse => exact ends_pure

/-- How a request ends that there is room for. -/
theorem assemble_create_eq {call : RequestCall} {subcmd room : Nat}
    (ends : Ends first parts outcome) (alloc : call.alloc = some room)
    (fits : requestSize (createdParts call.iface subcmd ++ parts) ≤ room) :
    assemble (do WifiRequest.create call subcmd; first) =
      outcome.map fun _ => createdParts call.iface subcmd ++ parts := by
  rw [WifiRequest.create, bind_assoc, assemble, run_bind, run_createMessage, alloc]
  dsimp only
  rw [((ends_putVendorCommand _ _).bind ends) _ fits]
  cases outcome <;> rfl

end Room

/-- A request that there is no memory for -/
theorem assemble_create_none {rest : Build Unit} {call : RequestCall} {subcmd : Nat}
    (alloc : call.alloc = none) :
    assemble (do WifiRequest.create call subcmd; rest) = .error (.failed .outOfMemory) := by
  rw [WifiRequest.create, bind_assoc, assemble, run_bind, run_createMessage, alloc]

end X3Hal.Wifi
