import X3Hal.Memory.Block
import Mathlib

/-!
# The message codec

`buff_put_*` write an int, a string, binary data or a raw struct at an offset of a
message buffer and advance the offset; `buff_get_*` read them.  Every value has an
encoding, a put is the store of it, and what the encodings hold is read back.
-/

namespace X3Hal.Gps

open X3Hal.Memory

/-- A message buffer and the offset into it.  The offset is an `int`, so the buffer has
less than 2^31 bytes. -/
@[ext]
structure MsgBuffer where
  bytes : List UInt8
  offset : Nat
  addressable : bytes.length < 2 ^ 31
  deriving DecidableEq

/-- The same buffer at another offset. -/
def MsgBuffer.at (buff : MsgBuffer) (offset : Nat) : MsgBuffer :=
  { buff with offset := offset }

section At

variable (buff : MsgBuffer) (offset further : Nat)

@[simp]
theorem at_bytes : (buff.at offset).bytes = buff.bytes :=
  rfl

@[simp]
theorem at_offset : (buff.at offset).offset = offset :=
  rfl

@[simp]
theorem at_at : (buff.at offset).at further = buff.at further :=
  rfl

end At

/-- A string without its terminator. -/
structure CString where
  bytes : List UInt8
  nulFree : 0 ∉ bytes
  deriving DecidableEq

/-! ## Ints in memory -/

/-- The bytes of an `int`, little endian. -/
def intBytes (value : Int32) : List UInt8 :=
  let n := value.toUInt32.toNat
  [UInt8.ofNat n, UInt8.ofNat (n / 2 ^ 8), UInt8.ofNat (n / 2 ^ 16), UInt8.ofNat (n / 2 ^ 24)]

/-- The `int` that four bytes are. -/
def bytesInt : List UInt8 → Int32
  | [b₀, b₁, b₂, b₃] =>
      Int32.ofNat (b₀.toNat + 2 ^ 8 * b₁.toNat + 2 ^ 16 * b₂.toNat + 2 ^ 24 * b₃.toNat)
  | _ => 0

@[simp]
theorem length_intBytes (value : Int32) : (intBytes value).length = 4 :=
  rfl

@[simp]
theorem bytesInt_intBytes (value : Int32) : bytesInt (intBytes value) = value := by
  have bound : value.toUInt32.toNat < 2 ^ 32 := value.toUInt32.toNat_lt
  simp only [intBytes, bytesInt, UInt8.toNat_ofNat']
  have whole : value.toUInt32.toNat % 2 ^ 8 +
      2 ^ 8 * (value.toUInt32.toNat / 2 ^ 8 % 2 ^ 8) +
      2 ^ 16 * (value.toUInt32.toNat / 2 ^ 16 % 2 ^ 8) +
      2 ^ 24 * (value.toUInt32.toNat / 2 ^ 24 % 2 ^ 8) = value.toUInt32.toNat := by
    omega
  rw [whole, ← UInt32.toInt32_ofNat', UInt32.ofNat_toNat]
  rfl

/-- The size that `memcpy` is given; no block of memory is as large as the `size_t` of a
negative `int`. -/
def memcpySize (len : Int32) : Option Nat :=
  if 0 ≤ len.toInt then some len.toInt.toNat else none

theorem memcpySize_of_nonneg {len : Int32} (nonneg : 0 ≤ len.toInt) :
    memcpySize len = some len.toInt.toNat :=
  if_pos nonneg

theorem memcpySize_of_neg {len : Int32} (negative : ¬ 0 ≤ len.toInt) : memcpySize len = none :=
  if_neg negative

theorem memcpySize_ofNat {n : Nat} (small : n < 2 ^ 31) :
    memcpySize (Int32.ofNat n) = some n := by
  have is : (Int32.ofNat n).toInt = n := Int32.toInt_ofNat_of_lt small
  rw [memcpySize_of_nonneg (by omega), is, Int.toNat_natCast]

/-! ## Access at the offset -/

/-- Write bytes at the offset and advance it. -/
def MsgBuffer.write (data : List UInt8) (buff : MsgBuffer) : Option MsgBuffer :=
  match stored : store buff.bytes buff.offset data with
  | none => none
  | some bytes =>
      some ⟨bytes, buff.offset + data.length, (length_of_store stored).symm ▸ buff.addressable⟩

/-- Read bytes at the offset and advance it. -/
def MsgBuffer.read (size : Nat) (buff : MsgBuffer) : Option (List UInt8 × MsgBuffer) :=
  (load buff.bytes buff.offset size).map fun data => (data, buff.at (buff.offset + size))

/-- `buff_put_int` -/
def buffPutInt (input : Int32) (buff : MsgBuffer) : Option MsgBuffer :=
  buff.write (intBytes input)

/-- `buff_put_string` -/
def buffPutString (str : CString) (buff : MsgBuffer) : Option MsgBuffer := do
  let len := Int32.ofNat (str.bytes.length + 1)
  let buff ← buffPutInt len buff
  let size ← memcpySize len
  buff.write ((str.bytes ++ [0]).take size)

/-- `buff_put_binary`; `input` holds at least `len` bytes -/
def buffPutBinary (input : List UInt8) (len : Int32) (buff : MsgBuffer) : Option MsgBuffer := do
  let buff ← buffPutInt len buff
  let size ← memcpySize len
  buff.write (input.take size)

/-- `buff_put_struct`; `input` holds at least `size` bytes -/
def buffPutStruct (input : List UInt8) (size : Int32) (buff : MsgBuffer) : Option MsgBuffer := do
  let size ← memcpySize size
  buff.write (input.take size)

/-- `buff_get_int` -/
def buffGetInt (buff : MsgBuffer) : Option (Int32 × MsgBuffer) := do
  let (bytes, buff) ← buff.read 4
  some (bytesInt bytes, buff)

/-- The body that `buff_get_string` and `buff_get_binary` share: the length, and as many
bytes copied to the start of `output`. -/
def buffGetCounted (output : List UInt8) (buff : MsgBuffer) :
    Option (List UInt8 × Int32 × MsgBuffer) := do
  let (len, buff) ← buffGetInt buff
  let size ← memcpySize len
  let (data, buff) ← buff.read size
  let output ← store output 0 data
  some (output, len, buff)

/-- `buff_get_string` -/
def buffGetString (str : List UInt8) (buff : MsgBuffer) :
    Option (List UInt8 × Int32 × MsgBuffer) :=
  buffGetCounted str buff

/-- `buff_get_binary` -/
def buffGetBinary (output : List UInt8) (buff : MsgBuffer) :
    Option (List UInt8 × Int32 × MsgBuffer) :=
  buffGetCounted output buff

/-- `buff_get_struct` -/
def buffGetStruct (output : List UInt8) (size : Int32) (buff : MsgBuffer) :
    Option (List UInt8 × MsgBuffer) := do
  let size ← memcpySize size
  let (data, buff) ← buff.read size
  let output ← store output 0 data
  some (output, buff)

/-! ## Values -/

/-- What the codec writes. -/
inductive Value
  | int (value : Int32)
  | string (text : CString)
  | binary (data : List UInt8)
  | struct (data : List UInt8)
  deriving DecidableEq

/-- Write a value with the function for its kind. -/
def Value.put : Value → MsgBuffer → Option MsgBuffer
  | .int value => buffPutInt value
  | .string text => buffPutString text
  | .binary data => buffPutBinary data (Int32.ofNat data.length)
  | .struct data => buffPutStruct data (Int32.ofNat data.length)

/-- The string that memory starts with. -/
def cString (memory : List UInt8) : CString :=
  ⟨memory.takeWhile (· ≠ 0), fun isMem => by simpa using List.mem_takeWhile_imp isMem⟩

/-- What is read, and the memory it is copied to. -/
inductive Target
  | int
  | string (str : List UInt8)
  | binary (output : List UInt8)
  | struct (output : List UInt8) (size : Int32)

/-- Read a value with the function for its kind. -/
def Target.get : Target → MsgBuffer → Option (Value × MsgBuffer)
  | .int, buff => do
      let (value, buff) ← buffGetInt buff
      some (.int value, buff)
  | .string str, buff => do
      let (str, _, buff) ← buffGetString str buff
      some (.string (cString str), buff)
  | .binary output, buff => do
      let (output, len, buff) ← buffGetBinary output buff
      some (.binary (output.take len.toInt.toNat), buff)
  | .struct output size, buff => do
      let (output, buff) ← buffGetStruct output size buff
      some (.struct (output.take size.toInt.toNat), buff)

/-- The target is of the value's kind and has room for it. -/
def Value.Matches : Value → Target → Prop
  | .int _, .int => True
  | .string text, .string str => text.bytes.length + 1 ≤ str.length
  | .binary data, .binary output => data.length ≤ output.length
  | .struct data, .struct output size =>
      size = Int32.ofNat data.length ∧ data.length ≤ output.length
  | _, _ => False

def putAll : List Value → MsgBuffer → Option MsgBuffer
  | [], buff => some buff
  | value :: rest, buff => (value.put buff).bind (putAll rest)

def getAll : List Target → MsgBuffer → Option (List Value × MsgBuffer)
  | [], buff => some ([], buff)
  | target :: rest, buff => do
      let (value, buff) ← target.get buff
      let (values, buff) ← getAll rest buff
      some (value :: values, buff)

/-! ## Encodings -/

/-- The bytes that a value is written as. -/
def Value.encoding : Value → List UInt8
  | .int value => intBytes value
  | .string text => intBytes (Int32.ofNat (text.bytes.length + 1)) ++ (text.bytes ++ [0])
  | .binary data => intBytes (Int32.ofNat data.length) ++ data
  | .struct data => data

def encodings (values : List Value) : List UInt8 :=
  values.flatMap Value.encoding

section Write

variable {buff next : MsgBuffer} {data : List UInt8}

theorem write_eq_some_iff :
    buff.write data = some next ↔
      store buff.bytes buff.offset data = some next.bytes ∧
        next.offset = buff.offset + data.length := by
  unfold MsgBuffer.write
  split
  case h_1 failed => simp [failed]
  case h_2 bytes stored =>
      constructor
      · rintro written
        rw [← Option.some.inj written]
        exact ⟨stored, rfl⟩
      · rintro ⟨same, offset⟩
        rw [stored] at same
        exact congrArg some (MsgBuffer.ext (Option.some.inj same) offset.symm)

theorem write_isSome_iff :
    (buff.write data).isSome ↔ buff.offset + data.length ≤ buff.bytes.length := by
  rw [← store_isSome_iff, Option.isSome_iff_exists, Option.isSome_iff_exists]
  constructor
  · rintro ⟨next, written⟩
    exact ⟨next.bytes, (write_eq_some_iff.mp written).1⟩
  · rintro ⟨bytes, stored⟩
    exact ⟨⟨bytes, buff.offset + data.length, length_of_store stored ▸ buff.addressable⟩,
      write_eq_some_iff.mpr ⟨stored, rfl⟩⟩

theorem write_append (buff : MsgBuffer) (data more : List UInt8) :
    buff.write (data ++ more) = (buff.write data).bind fun next => next.write more := by
  apply Option.ext
  intro final
  rw [Option.bind_eq_some_iff, write_eq_some_iff, store_append, Option.bind_eq_some_iff,
    List.length_append, ← Nat.add_assoc]
  constructor
  · rintro ⟨⟨bytes, stored, rest⟩, offset⟩
    refine ⟨⟨bytes, buff.offset + data.length, length_of_store stored ▸ buff.addressable⟩,
      write_eq_some_iff.mpr ⟨stored, rfl⟩, write_eq_some_iff.mpr ⟨rest, offset⟩⟩
  · rintro ⟨next, written, rest⟩
    obtain ⟨stored, offset⟩ := write_eq_some_iff.mp written
    obtain ⟨restStored, restOffset⟩ := write_eq_some_iff.mp rest
    rw [offset] at restStored restOffset
    exact ⟨⟨next.bytes, stored, restStored⟩, restOffset⟩

theorem write_nil (inside : buff.offset ≤ buff.bytes.length) : buff.write [] = some buff :=
  write_eq_some_iff.mpr ⟨store_nil inside, rfl⟩

theorem read_of_holds (held : Holds buff.bytes buff.offset data) :
    buff.read data.length = some (data, buff.at (buff.offset + data.length)) := by
  rw [MsgBuffer.read, held]
  rfl

end Write

/-! ## What puts write -/

/-- A length, and as many bytes of the data as `memcpy` is told to copy. -/
def countedBytes (len : Int32) (data : List UInt8) : Option (List UInt8) :=
  (memcpySize len).map fun size => intBytes len ++ data.take size

/-- The bytes that a put writes; `none` when its `memcpy` is given a negative size. -/
def Value.written : Value → Option (List UInt8)
  | .int value => some (intBytes value)
  | .string text => countedBytes (Int32.ofNat (text.bytes.length + 1)) (text.bytes ++ [0])
  | .binary data => countedBytes (Int32.ofNat data.length) data
  | .struct data => (memcpySize (Int32.ofNat data.length)).map data.take

def writtenAll : List Value → Option (List UInt8)
  | [] => some []
  | value :: rest => value.written.bind fun data => (writtenAll rest).map (data ++ ·)

theorem counted_eq_write (len : Int32) (data : List UInt8) (buff : MsgBuffer) :
    ((buffPutInt len buff).bind fun buff =>
        (memcpySize len).bind fun size => buff.write (data.take size)) =
      (countedBytes len data).bind buff.write := by
  unfold countedBytes
  cases memcpySize len with
  | none => simp
  | some size =>
      rw [Option.map_some, Option.bind_some, write_append]
      rfl

/-- A put is the write of its bytes. -/
theorem put_eq_write (value : Value) (buff : MsgBuffer) :
    value.put buff = value.written.bind buff.write := by
  cases value with
  | int value => rfl
  | string text => exact counted_eq_write _ _ buff
  | binary data => exact counted_eq_write _ _ buff
  | struct data =>
      simp only [Value.put, Value.written, buffPutStruct, Option.bind_eq_bind]
      cases memcpySize (Int32.ofNat data.length) <;> rfl

theorem putAll_eq_write (values : List Value) {buff : MsgBuffer}
    (inside : buff.offset ≤ buff.bytes.length) :
    putAll values buff = (writtenAll values).bind buff.write := by
  induction values generalizing buff with
  | nil => exact (write_nil inside).symm
  | cons value rest ih =>
      rw [putAll, put_eq_write, writtenAll]
      cases value.written with
      | none => rfl
      | some data =>
          simp only [Option.bind_some, Option.bind_map, Function.comp_def, write_append]
          cases written : buff.write data with
          | none => simp
          | some next =>
              obtain ⟨stored, offset⟩ := write_eq_some_iff.mp written
              have within : next.offset ≤ next.bytes.length := by
                rw [offset, length_of_store stored]
                exact within_of_store stored
              simp only [Option.bind_some]
              exact ih within

/-- A value of less than 2^31 bytes is written as its encoding. -/
theorem written_eq_encoding {value : Value} (small : value.encoding.length < 2 ^ 31) :
    value.written = some value.encoding := by
  cases value with
  | int value => rfl
  | string text =>
      simp only [Value.encoding, List.length_append, length_intBytes, List.length_singleton]
        at small
      rw [Value.written, countedBytes, @memcpySize_ofNat (text.bytes.length + 1) (by omega),
        Option.map_some, List.take_of_length_le (by simp)]
      rfl
  | binary data =>
      simp only [Value.encoding, List.length_append, length_intBytes] at small
      rw [Value.written, countedBytes, @memcpySize_ofNat data.length (by omega),
        Option.map_some, List.take_length]
      rfl
  | struct data =>
      rw [Value.encoding] at small
      rw [Value.written, memcpySize_ofNat small, Option.map_some, List.take_length]
      rfl

theorem encodings_cons (value : Value) (rest : List Value) :
    encodings (value :: rest) = value.encoding ++ encodings rest :=
  List.flatMap_cons

theorem writtenAll_eq_encodings {values : List Value}
    (small : (encodings values).length < 2 ^ 31) :
    writtenAll values = some (encodings values) := by
  induction values with
  | nil => rfl
  | cons value rest ih =>
      rw [encodings_cons, List.length_append] at small
      rw [writtenAll, written_eq_encoding (by omega), ih (by omega), encodings_cons]
      rfl

/-! ## Reading back -/

theorem getInt_of_holds {buff : MsgBuffer} {value : Int32}
    (held : Holds buff.bytes buff.offset (intBytes value)) :
    buffGetInt buff = some (value, buff.at (buff.offset + 4)) := by
  have bytes := read_of_holds held
  rw [length_intBytes] at bytes
  rw [buffGetInt, bytes, Option.bind_eq_bind, Option.bind_some]
  exact congrArg (fun int => some (int, buff.at (buff.offset + 4))) (bytesInt_intBytes value)

/-- Data behind its length is copied to the start of the output. -/
theorem getCounted_of_holds {buff : MsgBuffer} {data : List UInt8} (output : List UInt8)
    (small : data.length < 2 ^ 31)
    (held : Holds buff.bytes buff.offset (intBytes (Int32.ofNat data.length) ++ data)) :
    buffGetCounted output buff =
      (store output 0 data).map fun output =>
        (output, Int32.ofNat data.length, buff.at (buff.offset + (4 + data.length))) := by
  obtain ⟨len, rest⟩ := held.append
  rw [length_intBytes] at rest
  have body : (buff.at (buff.offset + 4)).read data.length =
      some (data, buff.at (buff.offset + 4 + data.length)) :=
    @read_of_holds (buff.at (buff.offset + 4)) data rest
  rw [buffGetCounted, getInt_of_holds len]
  simp only [Option.bind_eq_bind, Option.bind_some, memcpySize_ofNat small, body, Nat.add_assoc]
  cases store output 0 data <;> rfl

theorem store_start {output data : List UInt8} (room : data.length ≤ output.length) :
    store output 0 data = some (data ++ output.drop data.length) := by
  have split := @store_split _ (output.take data.length) data
    (List.length_take_of_le room) [] (output.drop data.length)
  rwa [List.nil_append, List.take_append_drop] at split

theorem cString_append_nul (text : CString) (rest : List UInt8) :
    cString (text.bytes ++ 0 :: rest) = text := by
  have noNul : ∀ c ∈ text.bytes, decide (c ≠ 0) = true := fun c isMem =>
    decide_eq_true fun isNul => text.nulFree (isNul ▸ isMem)
  have bytes : (text.bytes ++ 0 :: rest).takeWhile (· ≠ 0) = text.bytes := by
    rw [List.takeWhile_append_of_pos noNul, List.takeWhile_cons_of_neg (by simp),
      List.append_nil]
  cases text
  simpa [cString] using bytes

/-- A get reads the value whose encoding the buffer holds. -/
theorem get_of_holds {value : Value} {target : Target} (matching : value.Matches target)
    {buff : MsgBuffer} (small : value.encoding.length < 2 ^ 31)
    (held : Holds buff.bytes buff.offset value.encoding) :
    target.get buff = some (value, buff.at (buff.offset + value.encoding.length)) := by
  cases value with
  | int value =>
      cases target with
      | int =>
          rw [Target.get, getInt_of_holds held]
          rfl
      | _ => exact matching.elim
  | string text =>
      cases target with
      | string str =>
          have length : (text.bytes ++ [0]).length = text.bytes.length + 1 := by simp
          rw [Value.encoding, List.length_append, length_intBytes, length] at small ⊢
          rw [Value.encoding, ← length] at held
          have room : (text.bytes ++ [0]).length ≤ str.length := by rw [length]; exact matching
          rw [Target.get, buffGetString, getCounted_of_holds str (by omega) held,
            store_start room, length]
          simp only [Option.map_some, Option.bind_eq_bind, Option.bind_some, List.append_assoc,
            List.singleton_append, cString_append_nul]
      | _ => exact matching.elim
  | binary data =>
      cases target with
      | binary output =>
          rw [Value.encoding, List.length_append, length_intBytes] at small ⊢
          have short : data.length < 2 ^ 31 := by omega
          rw [Target.get, buffGetBinary, getCounted_of_holds output short held,
            store_start matching]
          simp only [Option.map_some, Option.bind_eq_bind, Option.bind_some,
            Int32.toInt_ofNat_of_lt short, Int.toNat_natCast, List.take_left]
      | _ => exact matching.elim
  | struct data =>
      cases target with
      | struct output size =>
          obtain ⟨rfl, room⟩ := matching
          rw [Value.encoding] at held small ⊢
          rw [Target.get, buffGetStruct, memcpySize_ofNat small]
          simp only [Option.bind_eq_bind, Option.bind_some, read_of_holds held, store_start room,
            Int32.toInt_ofNat_of_lt small, Int.toNat_natCast, List.take_left]
      | _ => exact matching.elim

theorem getAll_of_holds {values : List Value} {targets : List Target}
    (matching : List.Forall₂ Value.Matches values targets) {buff : MsgBuffer}
    (small : (encodings values).length < 2 ^ 31)
    (held : Holds buff.bytes buff.offset (encodings values)) :
    getAll targets buff =
      some (values, buff.at (buff.offset + (encodings values).length)) := by
  induction matching generalizing buff with
  | nil => rfl
  | @cons value target values targets first rest ih =>
      rw [encodings_cons, List.length_append] at small ⊢
      rw [encodings_cons] at held
      obtain ⟨here, later⟩ := held.append
      rw [getAll, get_of_holds first (by omega) here]
      simp only [Option.bind_eq_bind, Option.bind_some]
      have remaining := @ih (buff.at (buff.offset + value.encoding.length)) (by omega) later
      rw [remaining]
      simp only [Option.bind_some, MsgBuffer.at, Nat.add_assoc]

/-- Values that fit are written, and read back in the same order with the same offset at
the end, whatever the buffer held. -/
theorem codec_roundTrip (values : List Value) (targets : List Target)
    (matching : List.Forall₂ Value.Matches values targets) (buff : MsgBuffer)
    (fits : buff.offset + (encodings values).length ≤ buff.bytes.length) :
    ∃ written, putAll values buff = some written ∧
      getAll targets (written.at buff.offset) = some (values, written) := by
  have small : (encodings values).length < 2 ^ 31 := by
    have := buff.addressable
    omega
  obtain ⟨written, put⟩ := Option.isSome_iff_exists.mp (write_isSome_iff.mpr fits)
  obtain ⟨stored, offset⟩ := write_eq_some_iff.mp put
  refine ⟨written, ?_, ?_⟩
  · rw [putAll_eq_write values (by omega), writtenAll_eq_encodings small, Option.bind_some, put]
  · rw [@getAll_of_holds values targets matching (written.at buff.offset) small
      (holds_of_store stored)]
    exact congrArg (fun final => some (values, final)) (MsgBuffer.ext rfl offset.symm)

/-- One value of each kind, through a buffer that was not clear. -/
theorem codec_roundTrip_mixed :
    ∃ written, putAll [.int (-2), .string ⟨[97, 112, 110], by decide⟩, .binary [0, 7], .struct [9]]
        ⟨List.replicate 40 170, 3, by decide⟩ = some written ∧
      getAll [.int, .string (List.replicate 8 1), .binary [5, 5, 5], .struct [4, 4] 1]
        (written.at 3) =
          some ([.int (-2), .string ⟨[97, 112, 110], by decide⟩, .binary [0, 7], .struct [9]],
            written) :=
  codec_roundTrip
    [.int (-2), .string ⟨[97, 112, 110], by decide⟩, .binary [0, 7], .struct [9]]
    [.int, .string (List.replicate 8 1), .binary [5, 5, 5], .struct [4, 4] 1]
    (.cons trivial (.cons (by decide : 4 ≤ 8) (.cons (by decide : 2 ≤ 3)
      (.cons ⟨rfl, by decide⟩ .nil))))
    ⟨List.replicate 40 170, 3, by decide⟩ (by decide)

end X3Hal.Gps
