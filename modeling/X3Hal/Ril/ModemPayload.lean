import X3Hal.Memory.Faults
import X3Hal.Wpa.DriverCall

/-!
# Payloads of modem responses

A response handler of `ril_service.cpp` gets a pointer and a length in bytes.  It reads the
memory as an array of strings or of `int`s, which is what a structure of `int`s is, too.
-/

namespace X3Hal.Ril

open X3Hal.Memory
open X3Hal.Gps (wrap32 wrap32_natCast_le)

/-- The memory behind a response, as an array of pointers to strings and as one of `int`s -/
structure ModemPayload where
  responseLen : Nat
  strings : List (Option (List UInt8))
  ints : List Int
  strings_length : strings.length = responseLen / 8
  ints_length : ints.length = responseLen / 4

namespace ModemPayload

variable (payload : ModemPayload)

/-- `responseLen / sizeof(char *)` in an `int` -/
def numStrings : Int :=
  wrap32 ((payload.responseLen / 8 : Nat) : Int)

/-- `responseLen / sizeof(int)` in an `int` -/
def numInts : Int :=
  wrap32 ((payload.responseLen / 4 : Nat) : Int)

end ModemPayload

theorem ModemPayload.numStrings_le (payload : ModemPayload) :
    payload.numStrings ≤ payload.strings.length := by
  rw [payload.strings_length]
  exact wrap32_natCast_le _

theorem ModemPayload.numInts_le (payload : ModemPayload) :
    payload.numInts ≤ payload.ints.length := by
  rw [payload.ints_length]
  exact wrap32_natCast_le _

/-! ## What goes with every response -/

inductive RadioResponseType
  | solicited | solicitedAck | solicitedAckExp
  deriving DecidableEq, Repr

/-- An error of the vendor library, or that of a payload which does not fit -/
inductive RadioError
  | rilErrno (e : Int)
  | invalidResponse
  deriving DecidableEq, Repr

structure RadioResponseInfo where
  type : RadioResponseType
  serial : Int
  error : RadioError
  deriving DecidableEq, Repr

/-- `populateResponseInfo` on an empty structure -/
def populateResponseInfo (responseType serial e : Int) : RadioResponseInfo where
  type := if responseType = 3 then .solicitedAckExp else .solicited
  serial := serial
  error := .rilErrno e

/-- What handlers do on a payload that does not fit -/
def RadioResponseInfo.invalidate (info : RadioResponseInfo) : RadioResponseInfo :=
  if info.error = .rilErrno 0 then { info with error := .invalidResponse } else info

end X3Hal.Ril
