import X3Hal.Remote.Calls
import X3Hal.Remote.Parcels

/-!
# The remote interface of `GuiExtService`

`BpGuiExtService` packs the calls of the clients, and `BnGuiExtService` makes them in the process
of the service.  The stub has its own variables for what a method returns through a pointer, and
replies with them whether or not the method has set them.

A read of a graphic buffer imports it, which may fail.  A method of the service is one step: that
its locks make it one is assumed here, though `regDump` links to the death of its client outside
of them.
-/

namespace X3Hal.Gui

open X3Hal.Transition X3Hal.Remote

/-- What the parcels of the interface are made of. -/
inductive ParcelKind
  | token | int32 | binder | string8 | graphicBuffer
  deriving DecidableEq

abbrev ParcelValue (Binder Buffer : Type) : ParcelKind → Type
  | .token => String
  | .int32 => BitVec 32
  | .binder => Option Binder
  | .string8 => String
  | .graphicBuffer => Option Buffer

/-- What a read behind the end gives. -/
def ParcelValue.absent (Binder Buffer : Type) :
    (kind : ParcelKind) → ParcelValue Binder Buffer kind
  | .token => ""
  | .int32 => 0
  | .binder => none
  | .string8 => ""
  | .graphicBuffer => none

/-- The library that the interface uses. -/
abbrev GuiExtParcels (Binder Buffer : Type) : Type 1 :=
  ParcelLib (ParcelValue Binder Buffer) (ParcelValue.absent Binder Buffer)

/-- `IGuiExtService::getInterfaceDescriptor()` -/
def guiExtDescriptor : String := "GuiExtService"

/-- `PERMISSION_DENIED` -/
def permissionDenied : Status := -1

/-- `NOT_ENOUGH_DATA` -/
def notEnoughData : Status := -61

inductive GuiExtCode
  | alloc | free | acquire | request | release | disconnect | configDisplay | regDump | unregDump
  deriving DecidableEq

/-- The calls of `IGuiExtService`.  An argument that points to a variable of the caller has its
value. -/
inductive GuiExtRequest (Binder Buffer : Type)
  | alloc (token : Option Binder) (grallocUsage w h id : BitVec 32)
  | free (id : BitVec 32)
  | acquire (token : Option Binder) (poolId usage type buf : BitVec 32)
  | request (poolId usage type buf : BitVec 32) (buffer : Option Buffer)
  | release (poolId usage type buf : BitVec 32)
  | disconnect (poolId usage type : BitVec 32)
  | configDisplay (type : BitVec 32) (enable : Bool) (w h bufNum : BitVec 32)
  /-- with the binder of the tunnel -/
  | regDump (tunnel : Option Binder) (key : String)
  | unregDump (key : String)
  deriving DecidableEq

variable {Binder Buffer S Inner : Type}

/-- The status, and what the variable of the caller is afterwards. -/
abbrev GuiExtAnswer : GuiExtRequest Binder Buffer → Type
  | .alloc _ _ _ _ _ | .acquire _ _ _ _ _ => Status × BitVec 32
  | .request _ _ _ _ _ => Status × Option Buffer
  | .free _ | .release _ _ _ _ | .disconnect _ _ _ | .configDisplay _ _ _ _ _ | .regDump _ _
  | .unregDump _ => Status

/-- What the ends depend on besides their arguments. -/
structure GuiExtEnv (Parcel : Type) where
  /-- what the variables of the stub happen to be -/
  uninitialized : BitVec 32
  /-- `BBinder::onTransact` -/
  unknown : Status × Parcel
  /-- what `GraphicBuffer::unflatten` returns -/
  unflattened : Status

/-! ## The proxy -/

section Ends

variable (lib : GuiExtParcels Binder Buffer)

/-- What `BpGuiExtService` sends. -/
def guiExtTransaction : GuiExtRequest Binder Buffer → Option GuiExtCode × lib.Parcel
  | .alloc token grallocUsage w h _ =>
      (some .alloc, lib.writeAll [⟨.token, guiExtDescriptor⟩, ⟨.binder, token⟩,
        ⟨.int32, grallocUsage⟩, ⟨.int32, w⟩, ⟨.int32, h⟩])
  | .free id => (some .free, lib.writeAll [⟨.token, guiExtDescriptor⟩, ⟨.int32, id⟩])
  | .acquire token poolId usage type _ =>
      (some .acquire, lib.writeAll [⟨.token, guiExtDescriptor⟩, ⟨.binder, token⟩,
        ⟨.int32, poolId⟩, ⟨.int32, usage⟩, ⟨.int32, type⟩])
  | .request poolId usage type buf _ =>
      (some .request, lib.writeAll [⟨.token, guiExtDescriptor⟩, ⟨.int32, poolId⟩,
        ⟨.int32, usage⟩, ⟨.int32, type⟩, ⟨.int32, buf⟩])
  | .release poolId usage type buf =>
      (some .release, lib.writeAll [⟨.token, guiExtDescriptor⟩, ⟨.int32, poolId⟩,
        ⟨.int32, usage⟩, ⟨.int32, type⟩, ⟨.int32, buf⟩])
  | .disconnect poolId usage type =>
      (some .disconnect, lib.writeAll [⟨.token, guiExtDescriptor⟩, ⟨.int32, poolId⟩,
        ⟨.int32, usage⟩, ⟨.int32, type⟩])
  | .configDisplay type enable w h bufNum =>
      (some .configDisplay, lib.writeAll [⟨.token, guiExtDescriptor⟩, ⟨.int32, type⟩,
        ⟨.int32, if enable then 1 else 0⟩, ⟨.int32, w⟩, ⟨.int32, h⟩, ⟨.int32, bufNum⟩])
  | .regDump tunnel key =>
      (some .regDump, lib.writeAll [⟨.token, guiExtDescriptor⟩, ⟨.binder, tunnel⟩,
        ⟨.string8, key⟩])
  | .unregDump key =>
      (some .unregDump, lib.writeAll [⟨.token, guiExtDescriptor⟩, ⟨.string8, key⟩])

/-- The status and a variable, as a reply has them. -/
def readVariable : lib.Reading (Status × BitVec 32) := do
  let out ← lib.next .int32
  let result ← lib.next .int32
  pure (result, out)

/-- `request` of the proxy, after its transaction; `buffer` is the variable of the caller. -/
def readBuffer (unflattened : Status) (buffer : Option Buffer) :
    lib.Reading (Status × Option Buffer) := do
  let nonNull ← lib.next .int32
  if nonNull ≠ 0 then
    let flat ← lib.next .graphicBuffer
    let status := if flat.isSome then unflattened else notEnoughData
    if status ≠ noError then
      -- `(*buffer).clear()`
      pure (status, none)
    else
      let result ← lib.next .int32
      pure (result, flat)
  else
    let result ← lib.next .int32
    pure (result, buffer)

/-- What `BpGuiExtService` makes of a reply.  Nobody looks at the status of the transaction of
`regDump` and `unregDump`. -/
def guiExtResult (env : GuiExtEnv lib.Parcel) :
    (request : GuiExtRequest Binder Buffer) → Status → lib.Parcel → GuiExtAnswer request
  | .alloc _ _ _ _ id, status, reply =>
      if status ≠ noError then (status, id) else lib.readBy (readVariable lib) reply
  | .free _, status, reply => if status ≠ noError then -1 else lib.readBy (lib.next .int32) reply
  | .acquire _ _ _ _ buf, status, reply =>
      if status ≠ noError then (status, buf) else lib.readBy (readVariable lib) reply
  | .request _ _ _ _ buffer, status, reply =>
      if status ≠ noError then (status, buffer)
      else lib.readBy (readBuffer lib env.unflattened buffer) reply
  | .release _ _ _ _, status, reply | .disconnect _ _ _, status, reply
  | .configDisplay _ _ _ _ _, status, reply =>
      if status ≠ noError then status else lib.readBy (lib.next .int32) reply
  | .regDump _ _, _, reply | .unregDump _, _, reply => lib.readBy (lib.next .int32) reply

/-! ## The stub -/

/-- What the stub does with a transaction. -/
abbrev GuiExtDispatch : Type :=
  Dispatch (@GuiExtAnswer Binder Buffer) lib.Parcel

/-- `CHECK_INTERFACE` -/
def checkInterface (body : lib.Reading (GuiExtDispatch lib)) :
    lib.Reading (GuiExtDispatch lib) := do
  let descriptor ← lib.next .token
  if descriptor = guiExtDescriptor then body else pure (.reject permissionDenied lib.empty)

/-- A call whose reply is its status. -/
def replyStatus (status : Status) : Status × lib.Parcel :=
  (noError, lib.writeAll [⟨.int32, status⟩])

/-- A call whose reply is a variable of the stub, and its status. -/
def replyVariable (answer : Status × BitVec 32) : Status × lib.Parcel :=
  (noError, lib.writeAll [⟨.int32, answer.2⟩, ⟨.int32, answer.1⟩])

/-- The reply of `request`. -/
def replyBuffer (answer : Status × Option Buffer) : Status × lib.Parcel :=
  (noError, lib.writeAll (match answer.2 with
    | some buffer => [⟨.int32, 1⟩, ⟨.graphicBuffer, some buffer⟩, ⟨.int32, answer.1⟩]
    | none => [⟨.int32, 0⟩, ⟨.int32, answer.1⟩]))

/-- `BnGuiExtService::onTransact` -/
def guiExtOnTransact (env : GuiExtEnv lib.Parcel) :
    Option GuiExtCode → lib.Reading (GuiExtDispatch lib)
  | some .alloc => checkInterface lib do
      let token ← lib.next .binder
      let grallocUsage ← lib.next .int32
      let w ← lib.next .int32
      let h ← lib.next .int32
      pure (.invoke (.alloc token grallocUsage w h env.uninitialized) (replyVariable lib))
  | some .free => checkInterface lib do
      let id ← lib.next .int32
      pure (.invoke (.free id) (replyStatus lib))
  | some .acquire => checkInterface lib do
      let token ← lib.next .binder
      let poolId ← lib.next .int32
      let usage ← lib.next .int32
      let type ← lib.next .int32
      pure (.invoke (.acquire token poolId usage type env.uninitialized) (replyVariable lib))
  | some .request => checkInterface lib do
      let poolId ← lib.next .int32
      let usage ← lib.next .int32
      let type ← lib.next .int32
      let buf ← lib.next .int32
      pure (.invoke (.request poolId usage type buf none) (replyBuffer lib))
  | some .release => checkInterface lib do
      let poolId ← lib.next .int32
      let usage ← lib.next .int32
      let type ← lib.next .int32
      let buf ← lib.next .int32
      pure (.invoke (.release poolId usage type buf) (replyStatus lib))
  | some .disconnect => checkInterface lib do
      let poolId ← lib.next .int32
      let usage ← lib.next .int32
      let type ← lib.next .int32
      pure (.invoke (.disconnect poolId usage type) (replyStatus lib))
  | some .configDisplay => checkInterface lib do
      let type ← lib.next .int32
      let enable ← lib.next .int32
      let w ← lib.next .int32
      let h ← lib.next .int32
      let bufNum ← lib.next .int32
      pure (.invoke (.configDisplay type (enable ≠ 0) w h bufNum) (replyStatus lib))
  | some .regDump => checkInterface lib do
      let tunnel ← lib.next .binder
      let key ← lib.next .string8
      pure (.invoke (.regDump tunnel key) (replyStatus lib))
  | some .unregDump => checkInterface lib do
      let key ← lib.next .string8
      pure (.invoke (.unregDump key) (replyStatus lib))
  | none => pure (.reject env.unknown.1 env.unknown.2)

/-- `IGuiExtService`, remote -/
def guiExtInterface :
    Interface (@GuiExtAnswer Binder Buffer) (Option GuiExtCode) lib.Parcel
      (GuiExtEnv lib.Parcel) where
  empty := lib.empty
  transaction := guiExtTransaction lib
  dispatch := fun env code data => lib.readBy (guiExtOnTransact lib env code) data
  result := guiExtResult lib

/-! ## What the interface is for -/

/-- The request that reaches the service. -/
def guiExtLocals (uninitialized : BitVec 32) :
    GuiExtRequest Binder Buffer → GuiExtRequest Binder Buffer
  | .alloc token grallocUsage w h _ => .alloc token grallocUsage w h uninitialized
  | .acquire token poolId usage type _ => .acquire token poolId usage type uninitialized
  | .request poolId usage type buf _ => .request poolId usage type buf none
  | .free id => .free id
  | .release poolId usage type buf => .release poolId usage type buf
  | .disconnect poolId usage type => .disconnect poolId usage type
  | .configDisplay type enable w h bufNum => .configDisplay type enable w h bufNum
  | .regDump tunnel key => .regDump tunnel key
  | .unregDump key => .unregDump key

/-- What the client sees of an answer: a buffer that cannot be imported is lost with the status. -/
def guiExtSeen (unflattened uninitialized : BitVec 32) :
    (request : GuiExtRequest Binder Buffer) → GuiExtAnswer (guiExtLocals uninitialized request) →
      GuiExtAnswer request
  | .request _ _ _ _ buffer, answer =>
      match answer.2 with
      | none => (answer.1, buffer)
      | some sent =>
          if unflattened = noError then (answer.1, some sent) else (unflattened, none)
  | .alloc _ _ _ _ _, answer | .acquire _ _ _ _ _, answer => answer
  | .free _, answer | .release _ _ _ _, answer | .disconnect _ _ _, answer
  | .configDisplay _ _ _ _ _, answer | .regDump _ _, answer | .unregDump _, answer => answer

/-- What the client sees of a failure: a dump tunnel seems to be registered. -/
def guiExtFailed : (request : GuiExtRequest Binder Buffer) → Status → GuiExtAnswer request
  | .alloc _ _ _ _ out, status | .acquire _ _ _ _ out, status => (status, out)
  | .request _ _ _ _ buffer, status => (status, buffer)
  | .free _, _ => -1
  | .release _ _ _ _, status | .disconnect _ _ _, status | .configDisplay _ _ _ _ _, status =>
      status
  | .regDump _ _, _ | .unregDump _, _ => noError

/-- The contract of `IGuiExtService` -/
def guiExtContract :
    Contract (@GuiExtAnswer Binder Buffer) (Option GuiExtCode) lib.Parcel
      (GuiExtEnv lib.Parcel) where
  locals := fun env => guiExtLocals env.uninitialized
  seen := fun returning env => guiExtSeen returning.unflattened env.uninitialized
  failed := guiExtFailed
  Admits := fun code data => code.isSome ∧ (lib.read .token data).1 = guiExtDescriptor

end Ends

variable {lib : GuiExtParcels Binder Buffer}

/-! ## Both ends meet it -/

/-- A stub reads what stands behind the token. -/
theorem reads_checkInterface {body : lib.Reading (GuiExtDispatch lib)}
    {items : List (Item (ParcelValue Binder Buffer))} {result : GuiExtDispatch lib}
    (later : lib.Reads body items result) :
    lib.Reads (checkInterface lib body) (⟨.token, guiExtDescriptor⟩ :: items) result := by
  apply ParcelLib.reads_next
  rw [if_pos rfl]
  exact later

theorem readBy_replyStatus (status : Status) :
    lib.readBy (lib.next .int32) (replyStatus lib status).2 = status := by
  apply ParcelLib.Reads.writeAll
  exact lib.reads_last ParcelKind.int32 status []

theorem readBy_replyVariable (answer : Status × BitVec 32) :
    lib.readBy (readVariable lib) (replyVariable lib answer).2 = answer := by
  apply ParcelLib.Reads.writeAll
  apply ParcelLib.reads_next
  apply ParcelLib.reads_next
  exact ParcelLib.reads_pure [] answer

theorem readBy_replyBuffer (unflattened : Status) (buffer : Option Buffer)
    (answer : Status × Option Buffer) :
    lib.readBy (readBuffer lib unflattened buffer) (replyBuffer lib answer).2 =
      match answer.2 with
      | none => (answer.1, buffer)
      | some sent =>
          if unflattened = noError then (answer.1, some sent) else (unflattened, none) := by
  obtain ⟨status, given⟩ := answer
  apply ParcelLib.Reads.writeAll
  cases given with
  | none =>
      apply ParcelLib.reads_next
      rw [if_neg (not_not.mpr rfl)]
      apply ParcelLib.reads_next
      exact ParcelLib.reads_pure [] _
  | some sent =>
      apply ParcelLib.reads_next
      rw [if_pos (show (1 : BitVec 32) ≠ 0 by decide)]
      apply ParcelLib.reads_next
      by_cases succeeds : unflattened = noError
      · simp only [Option.isSome_some, if_true, succeeds, ne_eq, not_true_eq_false, if_false]
        apply ParcelLib.reads_next
        exact ParcelLib.reads_pure [] _
      · simp only [Option.isSome_some, if_true, succeeds, ne_eq, not_false_eq_true, if_false]
        exact ParcelLib.reads_pure _ _

/-- The stub makes the call that the proxy has packed. -/
theorem dispatch_transaction (env : GuiExtEnv lib.Parcel) (request : GuiExtRequest Binder Buffer) :
    ∃ reply, (guiExtInterface lib).dispatch env (guiExtTransaction lib request).1
        (guiExtTransaction lib request).2 =
          .invoke (guiExtLocals env.uninitialized request) reply ∧
      ∀ given, (reply given).1 = noError ∧ ∀ returning,
        guiExtResult lib returning request noError (reply given).2 =
          guiExtSeen returning.unflattened env.uninitialized request given := by
  cases request with
  | alloc token grallocUsage w h id =>
      refine ⟨replyVariable lib, ?_, fun given => ⟨rfl, fun _ => readBy_replyVariable given⟩⟩
      apply ParcelLib.Reads.writeAll
      apply reads_checkInterface
      iterate 4 apply ParcelLib.reads_next
      exact ParcelLib.reads_pure [] _
  | free id =>
      refine ⟨replyStatus lib, ?_, fun given => ⟨rfl, fun _ => readBy_replyStatus given⟩⟩
      apply ParcelLib.Reads.writeAll
      apply reads_checkInterface
      apply ParcelLib.reads_next
      exact ParcelLib.reads_pure [] _
  | acquire token poolId usage type buf =>
      refine ⟨replyVariable lib, ?_, fun given => ⟨rfl, fun _ => readBy_replyVariable given⟩⟩
      apply ParcelLib.Reads.writeAll
      apply reads_checkInterface
      iterate 4 apply ParcelLib.reads_next
      exact ParcelLib.reads_pure [] _
  | request poolId usage type buf buffer =>
      refine ⟨replyBuffer lib, ?_, fun given => ⟨rfl, fun returning =>
        readBy_replyBuffer returning.unflattened buffer given⟩⟩
      apply ParcelLib.Reads.writeAll
      apply reads_checkInterface
      iterate 4 apply ParcelLib.reads_next
      exact ParcelLib.reads_pure [] _
  | release poolId usage type buf =>
      refine ⟨replyStatus lib, ?_, fun given => ⟨rfl, fun _ => readBy_replyStatus given⟩⟩
      apply ParcelLib.Reads.writeAll
      apply reads_checkInterface
      iterate 4 apply ParcelLib.reads_next
      exact ParcelLib.reads_pure [] _
  | disconnect poolId usage type =>
      refine ⟨replyStatus lib, ?_, fun given => ⟨rfl, fun _ => readBy_replyStatus given⟩⟩
      apply ParcelLib.Reads.writeAll
      apply reads_checkInterface
      iterate 3 apply ParcelLib.reads_next
      exact ParcelLib.reads_pure [] _
  | configDisplay type enable w h bufNum =>
      refine ⟨replyStatus lib, ?_, fun given => ⟨rfl, fun _ => readBy_replyStatus given⟩⟩
      apply ParcelLib.Reads.writeAll
      apply reads_checkInterface
      iterate 5 apply ParcelLib.reads_next
      cases enable with
      | false => exact ParcelLib.reads_pure [] _
      | true => exact ParcelLib.reads_pure [] _
  | regDump tunnel key =>
      refine ⟨replyStatus lib, ?_, fun given => ⟨rfl, fun _ => readBy_replyStatus given⟩⟩
      apply ParcelLib.Reads.writeAll
      apply reads_checkInterface
      iterate 2 apply ParcelLib.reads_next
      exact ParcelLib.reads_pure [] _
  | unregDump key =>
      refine ⟨replyStatus lib, ?_, fun given => ⟨rfl, fun _ => readBy_replyStatus given⟩⟩
      apply ParcelLib.Reads.writeAll
      apply reads_checkInterface
      apply ParcelLib.reads_next
      exact ParcelLib.reads_pure [] _

/-- A stub that checks the interface calls a method only for the token of the interface. -/
theorem descriptor_of_invoke {body : lib.Reading (GuiExtDispatch lib)} {data : lib.Parcel}
    {request : GuiExtRequest Binder Buffer} {reply : GuiExtAnswer request → Status × lib.Parcel}
    (invokes : lib.readBy (checkInterface lib body) data = .invoke request reply) :
    (lib.read .token data).1 = guiExtDescriptor := by
  by_contra wrong
  have rejects : lib.readBy (checkInterface lib body) data =
      .reject permissionDenied lib.empty := by
    show ((if (lib.read .token data).1 = guiExtDescriptor then body
      else pure (.reject permissionDenied lib.empty) : lib.Reading (GuiExtDispatch lib)).run
        (lib.read .token data).2).1 = _
    rw [if_neg wrong]
    rfl
  rw [rejects] at invokes
  cases invokes

/-- Both ends of the interface meet its contract. -/
theorem guiExt_met : (guiExtContract lib).MetBy (guiExtInterface lib) where
  served := dispatch_transaction
  failed := by
    intro env request status failure
    cases request with
    | free _ => exact if_pos failure
    | regDump _ _ => exact (ParcelLib.reads_absent ParcelKind.int32).empty
    | unregDump _ => exact (ParcelLib.reads_absent ParcelKind.int32).empty
    | _ => exact if_pos failure
  admitted := by
    intro env code data request reply invokes
    cases code with
    | none => cases invokes
    | some code =>
        constructor
        · rfl
        · cases code <;> exact descriptor_of_invoke invokes

/-! ## Runs -/

/-- The status of an answer. -/
def statusOf : {request : GuiExtRequest Binder Buffer} → GuiExtAnswer request → Status
  | .alloc _ _ _ _ _, answer | .acquire _ _ _ _ _, answer | .request _ _ _ _ _, answer => answer.1
  | .free _, answer | .release _ _ _ _, answer | .disconnect _ _ _, answer
  | .configDisplay _ _ _ _ _, answer | .regDump _ _, answer | .unregDump _, answer => answer

/-- The calls for dump tunnels. -/
def GuiExtRequest.isForDump : GuiExtRequest Binder Buffer → Bool
  | .regDump _ _ | .unregDump _ => true
  | .alloc _ _ _ _ _ | .free _ | .acquire _ _ _ _ _ | .request _ _ _ _ _ | .release _ _ _ _
  | .disconnect _ _ _ | .configDisplay _ _ _ _ _ => false

theorem statusOf_failed {request : GuiExtRequest Binder Buffer} (pool : request.isForDump = false)
    {status : Status} (failure : status ≠ noError) :
    statusOf (guiExtFailed request status) ≠ noError := by
  cases request with
  | free _ => exact (show (-1 : BitVec 32) ≠ 0 by decide)
  | regDump _ _ => cases pool
  | unregDump _ => cases pool
  | _ => exact failure

/-- However the calls of any number of clients overlap, fail or are lost, and whatever else is sent
to the service: its state is what the methods make of it one after another, each call reaches its
method at most once and with its arguments, and gets the answer of a direct call or that of a
failure.  An answer without error is no failure, except for dump tunnels. -/
theorem remote_calls_explained {service : Service (@GuiExtAnswer Binder Buffer) S Inner}
    {initial : S}
    {history : History (RemoteEvent (GuiExtRequest Binder Buffer) (Option GuiExtCode) lib.Parcel
      (GuiExtEnv lib.Parcel) Inner)
      (RemoteOutput (@GuiExtAnswer Binder Buffer) (Option GuiExtCode) lib.Parcel Inner)}
    {state : RemoteState S (GuiExtRequest Binder Buffer) (Option GuiExtCode) lib.Parcel}
    (run : (remoteSystem (guiExtInterface lib) service initial).Run System.free history state) :
    (guiExtContract lib).Kept service initial history.outputs state ∧
      ∀ number request answer, .returned number request answer ∈ history.outputs →
        statusOf answer = noError → request.isForDump = false →
          ∃ uninitialized given,
            .served number (guiExtLocals uninitialized request) given ∈ history.outputs := by
  have kept := Contract.kept_of_run guiExt_met run
  constructor
  · exact kept
  · intro number request answer returned succeeded pool
    obtain ⟨before, later, split⟩ := List.append_of_mem returned
    obtain ⟨-, -, explained⟩ := kept.explained before _ later split
    rcases explained with ⟨env, given, returning, served, rfl⟩ | ⟨status, failure, rfl⟩
    · refine ⟨env.uninitialized, given, ?_⟩
      rw [split]
      exact List.mem_append_left _ served
    · exact absurd succeeded (statusOf_failed pool failure)

/-- A service that has only the table of the dump tunnels. -/
def tunnelsOnly : Service (@GuiExtAnswer Nat Nat) (List String) Empty where
  serve := fun request keys =>
    match request with
    | .regDump _ key => (noError, key :: keys)
    | .unregDump key => (noError, keys.filter (· ≠ key))
    | .alloc _ _ _ _ out | .acquire _ _ _ _ out => ((permissionDenied, out), keys)
    | .request _ _ _ _ buffer => ((permissionDenied, buffer), keys)
    | .free _ | .release _ _ _ _ | .disconnect _ _ _ | .configDisplay _ _ _ _ _ =>
        (permissionDenied, keys)
  inner := fun change _ => nomatch change

/-- The status that a call returns. -/
def returnedStatus {Code Parcel : Type} :
    RemoteOutput (@GuiExtAnswer Nat Nat) Code Parcel Inner → Option (Nat × Status)
  | .returned number _ answer => some (number, statusOf answer)
  | .called _ _ | .served _ _ _ | .servedRaw _ _ _ _ | .changed _ => none

/-- The first tunnel is not registered, and its client does not know. -/
theorem remote_calls_explained_unregistered :
    ∃ history state,
      (remoteSystem (guiExtInterface (listParcels _ (ParcelValue.absent Nat Nat))) tunnelsOnly
        []).Run System.free history state ∧
      ((guiExtContract _).Kept tunnelsOnly [] history.outputs state ∧
        ∀ number request answer, .returned number request answer ∈ history.outputs →
          statusOf answer = noError → request.isForDump = false → ∃ uninitialized given,
            .served number (guiExtLocals uninitialized request) given ∈ history.outputs) ∧
      state.service = ["BQ-2"] ∧
      history.outputs.filterMap returnedStatus = [(0, noError), (1, noError), (2, -1)] := by
  have run := System.exists_run_of_exec
    (remoteSystem (guiExtInterface (listParcels _ (ParcelValue.absent Nat Nat))) tunnelsOnly [])
    System.free
    [.call (.regDump (some 5) "BQ-1"), .call (.regDump (some 6) "BQ-2"), .refuse 0 (-32),
      .serve 1 ⟨0, (0, []), 0⟩, .returns 0 ⟨0, (0, []), 0⟩, .call (.free 3),
      .returns 1 ⟨0, (0, []), 0⟩, .refuse 2 (-32), .returns 2 ⟨0, (0, []), 0⟩]
    (fun final => (final.2.service, final.1.outputs.filterMap returnedStatus))
    rfl rfl rfl
  obtain ⟨history, state, run, shows⟩ := run
  obtain ⟨service, statuses⟩ := Prod.mk.inj shows
  exact ⟨history, state, run, remote_calls_explained run, service, statuses⟩

end X3Hal.Gui
