import X3Hal.Gps.Agps

/-!
# Messages from the daemon

`mnld_to_gps_handler` reads a datagram into a buffer of 9000 bytes and takes it apart by
its type.  Lengths in the datagram are trusted, so a message stays within the receive
buffer and the destinations of its copies only when its own lengths do.
-/

namespace X3Hal.Gps

open X3Hal.Memory

/-! ## Text of notifications -/

/-- The loop of `asc_str_to_usc2_str`; `none` also when the string has no end. -/
def usc2Chars : List UInt8 → List UInt8 → Nat → Option (List UInt8 × Nat)
  | [], _, _ => none
  | c :: rest, output, len =>
      if c = 0 then some (output, len)
      else (store output len [0, c]).bind fun output => usc2Chars rest output (len + 2)

/-- `asc_str_to_usc2_str`, with the length it returns; the two zeros at the end leave out
the byte at `len` -/
def ascStrToUsc2Str (output input : List UInt8) : Option (List UInt8 × Nat) := do
  let output ← store output 0 [0xfe, 0xff]
  let (output, len) ← usc2Chars input output 2
  let output ← store output (len + 1) [0, 0]
  some (output, len)

/-- The digit of four bits. -/
def hexDigit (tmp : UInt8) : UInt8 :=
  if tmp ≤ 9 then tmp + 48 else tmp - 10 + 65

/-- The loop of `raw_data_to_hex_string`, from index `i`. -/
def hexChars : List UInt8 → Nat → List UInt8 → Option (List UInt8)
  | [], _, output => some output
  | c :: rest, i, output =>
      (store output (i * 2) [hexDigit (c >>> 4 &&& 0xf), hexDigit (c &&& 0xf)]).bind fun output =>
        hexChars rest (i + 1) output

/-- `raw_data_to_hex_string` -/
def rawDataToHexString (output input : List UInt8) (inputLen : Nat) : Option (List UInt8) :=
  hexChars (input.take inputLen) 0 output

/-- A text through the cleared `ucs2_buff` into a field of the notification. -/
def notificationText (field text : List UInt8) : Option (List UInt8) := do
  let (ucs2Buff, usc2Len) ← ascStrToUsc2Str (List.replicate 1024 0) text
  rawDataToHexString field ucs2Buff usc2Len

/-! ## The handler -/

/-- Sizes in `gps.h`. -/
structure GpsHeader where
  /-- `GPS_NI_SHORT_STRING_MAXLEN`, the size of `requestor_id` -/
  niShortStringMaxlen : Nat
  /-- `GPS_NI_LONG_STRING_MAXLEN`, the size of `text` -/
  niLongStringMaxlen : Nat
  /-- the size of `addr` of an `AGpsStatus` -/
  statusAddrSize : Nat

/-- A local `char` array of 1024 bytes, as the stack left it. -/
structure StackArray where
  bytes : List UInt8
  length_eq : bytes.length = 1024

/-- What the handler finds besides the datagram. -/
structure HandlerEnv where
  requestorId : StackArray
  clientName : StackArray
  /-- `gpsmeasurement_init_flag` is 1 -/
  measurementInit : Bool
  /-- `gpsnavigation_init_flag` is 1 -/
  navigationInit : Bool
  /-- the `malloc` of the navigation event succeeds -/
  mallocEvent : Bool
  /-- the `malloc` of the navigation data succeeds -/
  mallocData : Bool

/-- `notify_flags` -/
structure NotifyFlags where
  needNotify : Bool
  needVerify : Bool
  privacyOverride : Bool
  deriving DecidableEq

/-- The flags of an `mnl_agps_notify_type`. -/
def notifyFlags (type : Int32) : NotifyFlags :=
  if type = 1 then ⟨true, false, false⟩
  else if type = 2 then ⟨true, true, false⟩
  else if type = 3 then ⟨true, true, false⟩
  else if type = 4 then ⟨false, false, true⟩
  else ⟨false, false, false⟩

/-- An encoding of a text: `GPS_ENC_SUPL_UCS2`, or what the daemon says. -/
inductive NiEncoding
  | suplUcs2
  | told (encoding : Int32)
  deriving DecidableEq

/-- The fields of a `GpsNiNotification` that depend on the message; the type is always
`GPS_NI_TYPE_UMTS_SUPL`, the default response `GPS_NI_RESPONSE_NORESP`, the timeout 8. -/
structure GpsNiNotification where
  notificationId : Int32
  notifyFlags : NotifyFlags
  requestorId : List UInt8
  text : List UInt8
  requestorIdEncoding : NiEncoding
  textEncoding : NiEncoding
  deriving DecidableEq

/-- What the handler passes on. -/
inductive DaemonCall
  | notify (notification : GpsNiNotification)
  | dataConnReq (ipaddr : Int32)
  | dataConnReq2 (addr : List UInt8)
  | dataConnRelease
  | requestSetId (flags : Int32)
  | requestRefloc (flags : Int32)
  /-- `location_cb`, with the bytes of the daemon's location -/
  | location (location : List UInt8)
  | gpsIcon (status : Int32)
  /-- the measurement callback, with the bytes of the measurements and of the clock -/
  | measurement (measurements clock : List UInt8)
  /-- the navigation callback, with the bytes of the event and of the data -/
  | navigation (event data : List UInt8)
  /-- nothing is read behind the type -/
  | other (type : Int32)
  deriving DecidableEq

/-- `char buff[9000] = {0}` after a `safe_read`; nothing is read when it fails. -/
def receiveBuffer (datagram : List UInt8) : MsgBuffer :=
  ⟨datagram.take 9000 ++ List.replicate (9000 - (datagram.take 9000).length) 0, 0, by
    rw [List.length_append, List.length_replicate, List.length_take]
    omega⟩

/-- `case MNL_AGPS_CMD_NOTIFICATION` -/
def handleNotification (header : GpsHeader) (env : HandlerEnv) (buff : MsgBuffer) :
    Option DaemonCall := do
  let (notificationId, buff) ← buffGetInt buff
  let (type, buff) ← buffGetInt buff
  let (requestorId, _, buff) ← buffGetString env.requestorId.bytes buff
  let (clientName, _, _) ← buffGetString env.clientName.bytes buff
  let requestorId ← notificationText (List.replicate header.niShortStringMaxlen 0) requestorId
  let text ← notificationText (List.replicate header.niLongStringMaxlen 0) clientName
  some (.notify ⟨notificationId, notifyFlags type, requestorId, text, .suplUcs2, .suplUcs2⟩)

/-- `case MNL_AGPS_CMD_NOTIFICATION_2` -/
def handleNotification2 (header : GpsHeader) (buff : MsgBuffer) : Option DaemonCall := do
  let (notificationId, buff) ← buffGetInt buff
  let (type, buff) ← buffGetInt buff
  let (requestorId, _, buff) ←
    buffGetString (List.replicate header.niShortStringMaxlen 0) buff
  let (text, _, buff) ← buffGetString (List.replicate header.niLongStringMaxlen 0) buff
  let (requestorIdEncoding, buff) ← buffGetInt buff
  let (textEncoding, _) ← buffGetInt buff
  some (.notify ⟨notificationId, notifyFlags type, requestorId, text,
    .told requestorIdEncoding, .told textEncoding⟩)

/-- `case MNL_AGPS_CMD_DATA_CONN_REQ` -/
def handleDataConnReq (buff : MsgBuffer) : Option DaemonCall := do
  let (ipaddr, buff) ← buffGetInt buff
  let _ ← buffGetInt buff
  some (.dataConnReq ipaddr)

/-- `case MNL_AGPS_CMD_DATA_CONN_REQ2`, with a `sockaddr_storage` of 128 bytes -/
def handleDataConnReq2 (header : GpsHeader) (buff : MsgBuffer) : Option DaemonCall := do
  let (addr, buff) ← buffGetStruct (List.replicate header.statusAddrSize 0) 128 buff
  let _ ← buffGetInt buff
  some (.dataConnReq2 addr)

/-- `case MNL_AGPS_CMD_AGPS_LOC`; an `mnl_agps_agps_location` has 72 bytes -/
def handleAgpsLoc (buff : MsgBuffer) : Option DaemonCall := do
  let (location, _) ← buffGetStruct (List.replicate 72 0) 72 buff
  some (.location location)

/-- `case HAL_CMD_MEASUREMENT`; an `MTK_GPS_MEASUREMENT` has 220 bytes and an
`MTK_GPS_CLOCK` 68 -/
def handleMeasurement (env : HandlerEnv) (buff : MsgBuffer) : Option DaemonCall :=
  if env.measurementInit then do
    let (measurements, buff) ← buffGetStruct (List.replicate (32 * 220) 0) (32 * 220) buff
    let (clock, _) ← buffGetStruct (List.replicate 68 0) 68 buff
    some (.measurement measurements clock)
  else some (.other 0x76)

/-- `case HAL_CMD_NAVIGATION`; an `MTK_GPS_NAVIGATION_EVENT` has 56 bytes, its length
at 12 and its data at 16.  As many bytes of the event's block as the length says are copied
to a block of that length, or to a null pointer. -/
def handleNavigation (env : HandlerEnv) (buff : MsgBuffer) : Option DaemonCall :=
  if env.navigationInit ∧ env.mallocEvent then do
    let (event, _) ← buffGetStruct (List.replicate 56 0) 56 buff
    let length := (bytesInt ((event.drop 12).take 4)).toUInt32
    let data ← load event 16 length.toNat
    if env.mallocData ∨ length = 0 then some (.navigation event data) else none
  else some (.other 0x77)

/-- The type of the message in the buffer, and its case. -/
def handleMessage (header : GpsHeader) (env : HandlerEnv) (buff : MsgBuffer) :
    Option DaemonCall := do
  let (type, buff) ← buffGetInt buff
  if type = 230 then handleNotification header env buff
  else if type = 236 then handleNotification2 header buff
  else if type = 231 then handleDataConnReq buff
  else if type = 237 then handleDataConnReq2 header buff
  else if type = 232 then some .dataConnRelease
  else if type = 233 then do
    let (flags, _) ← buffGetInt buff
    some (.requestSetId flags)
  else if type = 234 then do
    let (flags, _) ← buffGetInt buff
    some (.requestRefloc flags)
  else if type = 235 then handleAgpsLoc buff
  else if type = 0x42 then do
    let (status, _) ← buffGetInt buff
    some (.gpsIcon status)
  else if type = 0x76 then handleMeasurement env buff
  else if type = 0x77 then handleNavigation env buff
  else some (.other type)

/-- `mnld_to_gps_handler`; `none` when an access leaves its memory. -/
def mnldToGpsHandler (header : GpsHeader) (env : HandlerEnv) (datagram : List UInt8) :
    Option DaemonCall :=
  handleMessage header env (receiveBuffer datagram)

/-! ## When a message stays within its memory -/

/-- The `int` at an offset. -/
def intAt (bytes : List UInt8) (offset : Nat) : Int32 :=
  bytesInt ((bytes.drop offset).take 4)

/-- The length of the string that memory starts with. -/
def strlen (memory : List UInt8) : Nat :=
  (cString memory).bytes.length

/-- The text ends, and has room in `ucs2_buff` and, as hexadecimal digits, in a field. -/
def TextFits (text : List UInt8) (room : Nat) : Prop :=
  0 ∈ text ∧ strlen text ≤ 509 ∧ 4 + 4 * strlen text ≤ room

/-- An array with `n` bytes copied over its start. -/
def copiedOver (array bytes : List UInt8) (offset n : Nat) : List UInt8 :=
  (bytes.drop offset).take n ++ array.drop n

/-- The two strings of a notification end in their arrays and have room. -/
def NotificationFits (header : GpsHeader) (env : HandlerEnv) (bytes : List UInt8) : Prop :=
  let len₁ := (intAt bytes 12).toInt
  let len₂ := (intAt bytes (16 + len₁.toNat)).toInt
  (0 ≤ len₁ ∧ len₁ ≤ 1024) ∧ (0 ≤ len₂ ∧ len₂ ≤ 1024) ∧
    TextFits (copiedOver env.requestorId.bytes bytes 16 len₁.toNat) header.niShortStringMaxlen ∧
    TextFits (copiedOver env.clientName.bytes bytes (20 + len₁.toNat) len₂.toNat)
      header.niLongStringMaxlen

/-- The two strings are no longer than their fields, and the encodings lie in the buffer. -/
def Notification2Fits (header : GpsHeader) (bytes : List UInt8) : Prop :=
  let len₁ := (intAt bytes 12).toInt
  let len₂ := (intAt bytes (16 + len₁.toNat)).toInt
  (0 ≤ len₁ ∧ len₁ ≤ header.niShortStringMaxlen) ∧
    (0 ≤ len₂ ∧ len₂ ≤ header.niLongStringMaxlen) ∧ 28 + len₁ + len₂ ≤ 9000

/-- The data lies in the event, and there is a block to copy it to. -/
def NavigationFits (env : HandlerEnv) (bytes : List UInt8) : Prop :=
  0 ≤ (intAt bytes 16).toInt ∧ (intAt bytes 16).toInt ≤ 40 ∧
    (env.mallocData ∨ intAt bytes 16 = 0)

/-- The condition of each type of message. -/
def MessageFits (header : GpsHeader) (env : HandlerEnv) (bytes : List UInt8) : Prop :=
  (intAt bytes 0 = 230 → NotificationFits header env bytes) ∧
    (intAt bytes 0 = 236 → Notification2Fits header bytes) ∧
    (intAt bytes 0 = 237 → 128 ≤ header.statusAddrSize) ∧
    (intAt bytes 0 = 0x77 → env.navigationInit → env.mallocEvent → NavigationFits env bytes)

/-- The condition on a datagram, which is on the buffer that it is read into. -/
def DatagramFits (header : GpsHeader) (env : HandlerEnv) (datagram : List UInt8) : Prop :=
  MessageFits header env (receiveBuffer datagram).bytes

section Reads

variable {buff : MsgBuffer}

theorem read_eq {size : Nat} (inside : buff.offset + size ≤ buff.bytes.length) :
    buff.read size =
      some ((buff.bytes.drop buff.offset).take size, buff.at (buff.offset + size)) := by
  rw [MsgBuffer.read, load, if_pos inside]
  rfl

theorem read_eq_none {size : Nat} (outside : ¬ buff.offset + size ≤ buff.bytes.length) :
    buff.read size = none := by
  rw [MsgBuffer.read, load, if_neg outside]
  rfl

theorem buffGetInt_eq (inside : buff.offset + 4 ≤ buff.bytes.length) :
    buffGetInt buff = some (intAt buff.bytes buff.offset, buff.at (buff.offset + 4)) := by
  rw [buffGetInt, read_eq inside]
  rfl

theorem buffGetInt_eq_none (outside : ¬ buff.offset + 4 ≤ buff.bytes.length) :
    buffGetInt buff = none := by
  rw [buffGetInt, read_eq_none outside]
  rfl

/-- A length that is not negative, within the buffer and within the destination. -/
def CountedFits (bytes : List UInt8) (offset room : Nat) : Prop :=
  0 ≤ (intAt bytes offset).toInt ∧ offset + 4 + (intAt bytes offset).toInt ≤ bytes.length ∧
    (intAt bytes offset).toInt ≤ room

variable {output : List UInt8}

theorem buffGetCounted_eq (fits : CountedFits buff.bytes buff.offset output.length) :
    buffGetCounted output buff =
      some (copiedOver output buff.bytes (buff.offset + 4)
          (intAt buff.bytes buff.offset).toInt.toNat,
        intAt buff.bytes buff.offset,
        buff.at (buff.offset + 4 + (intAt buff.bytes buff.offset).toInt.toNat)) := by
  obtain ⟨nonneg, within, room⟩ := fits
  have body := @read_eq (buff.at (buff.offset + 4)) (intAt buff.bytes buff.offset).toInt.toNat
    (by simp only [MsgBuffer.at]; omega)
  have length : ((buff.bytes.drop (buff.offset + 4)).take
      (intAt buff.bytes buff.offset).toInt.toNat).length =
        (intAt buff.bytes buff.offset).toInt.toNat := by
    rw [List.length_take, List.length_drop]
    omega
  simp only [MsgBuffer.at] at body
  rw [buffGetCounted, buffGetInt_eq (by omega)]
  simp only [Option.bind_eq_bind, Option.bind_some, memcpySize_of_nonneg nonneg, MsgBuffer.at,
    body]
  rw [store_start (by rw [length]; omega), length]
  rfl

theorem buffGetCounted_eq_none (fails : ¬ CountedFits buff.bytes buff.offset output.length) :
    buffGetCounted output buff = none := by
  by_cases inside : buff.offset + 4 ≤ buff.bytes.length
  · rw [buffGetCounted, buffGetInt_eq inside]
    simp only [Option.bind_eq_bind, Option.bind_some]
    by_cases nonneg : 0 ≤ (intAt buff.bytes buff.offset).toInt
    · rw [memcpySize_of_nonneg nonneg, Option.bind_some]
      by_cases within :
          buff.offset + 4 + (intAt buff.bytes buff.offset).toInt ≤ buff.bytes.length
      · have noRoom : ¬ (intAt buff.bytes buff.offset).toInt ≤ output.length := fun room =>
          fails ⟨nonneg, within, room⟩
        rw [read_eq (by simp only [at_bytes, at_offset]; omega), Option.bind_some,
          store_eq_none, Option.bind_none]
        simp only [List.length_take, List.length_drop, at_bytes, at_offset]
        omega
      · rw [read_eq_none (by simp only [at_bytes, at_offset]; omega), Option.bind_none]
    · rw [memcpySize_of_neg nonneg, Option.bind_none]
  · rw [buffGetCounted, buffGetInt_eq_none inside]
    rfl

end Reads

/-! ## Room for the text -/

theorem strlen_cons {c : UInt8} (rest : List UInt8) (notNul : c ≠ 0) :
    strlen (c :: rest) = strlen rest + 1 := by
  simp [strlen, cString, notNul]

theorem usc2Chars_isSome_iff (input output : List UInt8) {len : Nat}
    (inside : len ≤ output.length) :
    (usc2Chars input output len).isSome ↔ 0 ∈ input ∧ len + 2 * strlen input ≤ output.length := by
  induction input generalizing output len with
  | nil => simp [usc2Chars]
  | cons c rest ih =>
      rw [usc2Chars]
      split
      case isTrue isNul =>
          subst isNul
          have empty : strlen (0 :: rest) = 0 := by simp [strlen, cString]
          simpa [empty] using inside
      case isFalse notNul =>
          have inRest : 0 ∈ c :: rest ↔ 0 ∈ rest := by simp [Ne.symm notNul]
          rw [strlen_cons rest notNul, inRest]
          by_cases room : len + 2 ≤ output.length
          · obtain ⟨next, stored⟩ := @exists_store _ output len [0, c] room
            have length := length_of_store stored
            have advanced : len + 2 + 2 * strlen rest = len + 2 * (strlen rest + 1) := by omega
            rw [stored, Option.bind_some, ih next (by omega), length, advanced]
          · have noRoom : ¬ len + 2 * (strlen rest + 1) ≤ output.length := by omega
            rw [store_eq_none (by exact room), Option.bind_none]
            simp [noRoom]

/-- The conversion keeps the size of the array and returns two bytes a character more. -/
theorem usc2Chars_some {input output next : List UInt8} {len final : Nat}
    (is : usc2Chars input output len = some (next, final)) :
    next.length = output.length ∧ final = len + 2 * strlen input := by
  induction input generalizing output len with
  | nil => exact nomatch is
  | cons c rest ih =>
      rw [usc2Chars] at is
      split at is
      case isTrue isNul =>
          subst isNul
          have empty : strlen (0 :: rest) = 0 := by simp [strlen, cString]
          obtain ⟨rfl, rfl⟩ := Prod.mk.inj (Option.some.inj is)
          exact ⟨rfl, by rw [empty]; rfl⟩
      case isFalse notNul =>
          obtain ⟨stored, isStored, later⟩ := Option.bind_eq_some_iff.mp is
          obtain ⟨length, position⟩ := ih later
          rw [length, length_of_store isStored, position, strlen_cons rest notNul]
          exact ⟨rfl, by omega⟩

theorem hexChars_isSome_iff (input : List UInt8) (i : Nat) (output : List UInt8)
    (inside : 2 * i ≤ output.length) :
    (hexChars input i output).isSome ↔ 2 * (i + input.length) ≤ output.length := by
  induction input generalizing i output with
  | nil => simpa [hexChars] using inside
  | cons c rest ih =>
      rw [hexChars, List.length_cons]
      by_cases room : i * 2 + 2 ≤ output.length
      · obtain ⟨next, stored⟩ := @exists_store _ output (i * 2)
          [hexDigit (c >>> 4 &&& 0xf), hexDigit (c &&& 0xf)] room
        have length := length_of_store stored
        rw [stored, Option.bind_some, ih (i + 1) next (by omega), length]
        omega
      · rw [store_eq_none (by exact room), Option.bind_none]
        simp only [Option.isSome_none, Bool.false_eq_true, false_iff]
        omega

/-- The converted text has two bytes for each character behind the mark, and room for the
two zeros. -/
theorem ascStrToUsc2Str_some {output input next : List UInt8} {final : Nat}
    (is : ascStrToUsc2Str output input = some (next, final)) :
    (next.length = output.length ∧ final = 2 + 2 * strlen input) ∧
      0 ∈ input ∧ 5 + 2 * strlen input ≤ output.length := by
  rw [ascStrToUsc2Str] at is
  obtain ⟨marked, isMarked, is⟩ := Option.bind_eq_some_iff.mp is
  obtain ⟨⟨chars, len⟩, isChars, is⟩ := Option.bind_eq_some_iff.mp is
  obtain ⟨ended, isEnded, is⟩ := Option.bind_eq_some_iff.mp is
  obtain ⟨rfl, rfl⟩ := Prod.mk.inj (Option.some.inj is)
  have markFits : 0 + 2 ≤ output.length := within_of_store isMarked
  have endFits : len + 1 + 2 ≤ chars.length := within_of_store isEnded
  obtain ⟨length, position⟩ := usc2Chars_some isChars
  have markedLength := length_of_store isMarked
  have ends := @usc2Chars_isSome_iff input marked 2 (by omega)
  rw [isChars] at ends
  rw [length_of_store isEnded, length, markedLength]
  exact ⟨⟨rfl, position⟩, (ends.mp rfl).1, by omega⟩

theorem ascStrToUsc2Str_isSome_iff (output input : List UInt8) :
    (ascStrToUsc2Str output input).isSome ↔ 0 ∈ input ∧ 5 + 2 * strlen input ≤ output.length := by
  constructor
  · intro converts
    obtain ⟨result, is⟩ := Option.isSome_iff_exists.mp converts
    exact (ascStrToUsc2Str_some is).2
  · rintro ⟨ends, fits⟩
    obtain ⟨marked, isMarked⟩ := @exists_store _ output 0 [0xfe, 0xff]
      (show 0 + 2 ≤ output.length by omega)
    have length := length_of_store isMarked
    have chars := @usc2Chars_isSome_iff input marked 2 (by omega)
    obtain ⟨⟨next, final⟩, isChars⟩ :=
      Option.isSome_iff_exists.mp (chars.mpr ⟨ends, by omega⟩)
    obtain ⟨nextLength, position⟩ := usc2Chars_some isChars
    obtain ⟨ended, isEnded⟩ := @exists_store _ next (final + 1) [0, 0]
      (show final + 1 + 2 ≤ next.length by omega)
    rw [ascStrToUsc2Str, isMarked]
    simp only [Option.bind_eq_bind, Option.bind_some, isChars, isEnded]
    rfl

theorem notificationText_isSome_iff (field text : List UInt8) :
    (notificationText field text).isSome ↔ TextFits text field.length := by
  have converts := ascStrToUsc2Str_isSome_iff (List.replicate 1024 0) text
  have size : (List.replicate 1024 (0 : UInt8)).length = 1024 := List.length_replicate
  rw [size] at converts
  rw [notificationText, TextFits]
  cases converted : ascStrToUsc2Str (List.replicate 1024 0) text with
  | none =>
      rw [converted] at converts
      simp only [Option.isSome_none, Bool.false_eq_true, false_iff] at converts
      simp only [Option.bind_eq_bind, Option.bind_none, Option.isSome_none, Bool.false_eq_true,
        false_iff]
      rintro ⟨ends, short, -⟩
      exact converts ⟨ends, by omega⟩
  | some result =>
      obtain ⟨ucs2Buff, usc2Len⟩ := result
      obtain ⟨⟨length, position⟩, -⟩ := ascStrToUsc2Str_some converted
      rw [converted] at converts
      obtain ⟨ends, short⟩ := converts.mp rfl
      simp only [Option.bind_eq_bind, Option.bind_some, rawDataToHexString]
      rw [hexChars_isSome_iff _ 0 field (by omega), List.length_take]
      constructor
      · intro fits
        exact ⟨ends, by omega, by omega⟩
      · rintro ⟨-, -, fits⟩
        omega

/-! ## The handler stays within its memory -/

theorem length_receiveBuffer (datagram : List UInt8) :
    (receiveBuffer datagram).bytes.length = 9000 := by
  simp only [receiveBuffer, List.length_append, List.length_replicate, List.length_take]
  omega

section Handler

variable {header : GpsHeader} {env : HandlerEnv} {buff : MsgBuffer}

theorem getInt_bind {α : Type} (inside : buff.offset + 4 ≤ buff.bytes.length)
    (next : Int32 × MsgBuffer → Option α) :
    (buffGetInt buff >>= next) =
      next (intAt buff.bytes buff.offset, buff.at (buff.offset + 4)) := by
  rw [buffGetInt_eq inside]
  rfl

theorem getInt_bind_isSome_iff {α : Type} (next : Int32 × MsgBuffer → Option α) :
    (buffGetInt buff >>= next).isSome ↔
      buff.offset + 4 ≤ buff.bytes.length ∧
        (next (intAt buff.bytes buff.offset, buff.at (buff.offset + 4))).isSome := by
  by_cases inside : buff.offset + 4 ≤ buff.bytes.length
  · rw [getInt_bind inside]
    simp [inside]
  · rw [buffGetInt_eq_none inside]
    simp [inside]

theorem getString_bind_isSome_iff {α : Type} {str : List UInt8}
    (next : List UInt8 × Int32 × MsgBuffer → Option α) :
    (buffGetString str buff >>= next).isSome ↔
      CountedFits buff.bytes buff.offset str.length ∧
        (next (copiedOver str buff.bytes (buff.offset + 4)
            (intAt buff.bytes buff.offset).toInt.toNat,
          intAt buff.bytes buff.offset,
          buff.at (buff.offset + 4 + (intAt buff.bytes buff.offset).toInt.toNat))).isSome := by
  rw [buffGetString]
  by_cases fits : CountedFits buff.bytes buff.offset str.length
  · rw [buffGetCounted_eq fits]
    simp [fits]
  · rw [buffGetCounted_eq_none fits]
    simp [fits]

theorem bind_isSome_iff {α β : Type} {x : Option α} {next : α → Option β}
    (goesOn : ∀ a, (next a).isSome) : (x >>= next).isSome ↔ x.isSome := by
  cases x with
  | none => rfl
  | some a => simp [goesOn a]

theorem getStruct_bind_isSome_iff {α : Type} {output : List UInt8} {size : Nat}
    (small : size < 2 ^ 31) (inside : buff.offset + size ≤ buff.bytes.length)
    (next : List UInt8 × MsgBuffer → Option α) :
    (buffGetStruct output (Int32.ofNat size) buff >>= next).isSome ↔
      size ≤ output.length ∧
        (next (copiedOver output buff.bytes buff.offset size,
          buff.at (buff.offset + size))).isSome := by
  have length : ((buff.bytes.drop buff.offset).take size).length = size := by
    rw [List.length_take, List.length_drop]
    omega
  rw [buffGetStruct, memcpySize_ofNat small]
  simp only [Option.bind_eq_bind, Option.bind_some, read_eq inside]
  by_cases room : size ≤ output.length
  · rw [store_start (by rwa [length]), length]
    simp [room, copiedOver]
  · rw [store_eq_none (by rwa [length, Nat.zero_add])]
    simp [room]

theorem textsFit_iff {requestorField textField requestorId clientName : List UInt8}
    {notify : List UInt8 → List UInt8 → DaemonCall} :
    (do
      let requestorId ← notificationText requestorField requestorId
      let text ← notificationText textField clientName
      some (notify requestorId text) : Option DaemonCall).isSome ↔
        TextFits requestorId requestorField.length ∧ TextFits clientName textField.length := by
  rw [← notificationText_isSome_iff, ← notificationText_isSome_iff]
  cases notificationText requestorField requestorId with
  | none => simp
  | some requestorId =>
      simp only [Option.bind_eq_bind, Option.bind_some, Option.isSome_some, true_and]
      rw [← Option.bind_eq_bind, bind_isSome_iff fun _ => rfl]

/-- Where the length lies in the buffer, only the destination may be too small. -/
theorem countedFits_iff {bytes : List UInt8} {offset room : Nat} (length : bytes.length = 9000)
    (inside : offset + 4 + room ≤ 9000) :
    CountedFits bytes offset room ↔
      0 ≤ (intAt bytes offset).toInt ∧ (intAt bytes offset).toInt ≤ room := by
  rw [CountedFits, length]
  omega

theorem handleNotification_isSome_iff (length : buff.bytes.length = 9000)
    (atBody : buff.offset = 4) :
    (handleNotification header env buff).isSome ↔ NotificationFits header env buff.bytes := by
  have requestor : CountedFits buff.bytes 12 env.requestorId.bytes.length ↔
      0 ≤ (intAt buff.bytes 12).toInt ∧ (intAt buff.bytes 12).toInt ≤ 1024 := by
    rw [env.requestorId.length_eq]
    exact countedFits_iff length (by decide)
  rw [handleNotification, getInt_bind (by omega)]
  dsimp only
  rw [getInt_bind (by simp only [at_bytes, at_offset]; omega)]
  simp only [at_bytes, at_offset, at_at, atBody, Nat.reduceAdd]
  rw [getString_bind_isSome_iff]
  simp only [at_bytes, at_offset, at_at, Nat.reduceAdd, NotificationFits]
  rw [requestor]
  refine and_congr_right fun ⟨nonneg, atMost⟩ => ?_
  have client : CountedFits buff.bytes (16 + (intAt buff.bytes 12).toInt.toNat)
      env.clientName.bytes.length ↔
        0 ≤ (intAt buff.bytes (16 + (intAt buff.bytes 12).toInt.toNat)).toInt ∧
        (intAt buff.bytes (16 + (intAt buff.bytes 12).toInt.toNat)).toInt ≤ 1024 := by
    rw [env.clientName.length_eq]
    exact countedFits_iff length (by omega)
  have behind : 16 + (intAt buff.bytes 12).toInt.toNat + 4 =
      20 + (intAt buff.bytes 12).toInt.toNat := by omega
  rw [getString_bind_isSome_iff]
  simp only [at_bytes, at_offset, behind]
  rw [client]
  refine and_congr_right fun _ => ?_
  rw [textsFit_iff, List.length_replicate, List.length_replicate]

/-- As with the notification, but the strings go to the fields and two ints follow. -/
theorem handleNotification2_isSome_iff (length : buff.bytes.length = 9000)
    (atBody : buff.offset = 4) :
    (handleNotification2 header buff).isSome ↔ Notification2Fits header buff.bytes := by
  rw [handleNotification2, getInt_bind (by omega)]
  dsimp only
  rw [getInt_bind (by simp only [at_bytes, at_offset]; omega)]
  simp only [at_bytes, at_offset, at_at, atBody, Nat.reduceAdd]
  rw [getString_bind_isSome_iff]
  simp only [at_bytes, at_offset, at_at, Nat.reduceAdd]
  rw [getString_bind_isSome_iff]
  simp only [at_bytes, at_offset, at_at]
  rw [getInt_bind_isSome_iff]
  simp only [at_bytes, at_offset, at_at]
  rw [getInt_bind_isSome_iff]
  simp only [at_bytes, at_offset, CountedFits, Notification2Fits, length, List.length_replicate,
    Option.isSome_some, and_true]
  have behind : 12 + 4 + (intAt buff.bytes 12).toInt.toNat =
      16 + (intAt buff.bytes 12).toInt.toNat := rfl
  rw [behind]
  omega

theorem handleDataConnReq_isSome (length : buff.bytes.length = 9000) (atBody : buff.offset = 4) :
    (handleDataConnReq buff).isSome := by
  rw [handleDataConnReq, getInt_bind (by omega)]
  dsimp only
  rw [getInt_bind (by simp only [at_bytes, at_offset]; omega)]
  rfl

theorem handleAgpsLoc_isSome (length : buff.bytes.length = 9000) (atBody : buff.offset = 4) :
    (handleAgpsLoc buff).isSome :=
  (getStruct_bind_isSome_iff (by decide : 72 < 2 ^ 31) (by omega) _).mpr
    ⟨by rw [List.length_replicate], rfl⟩

theorem handleDataConnReq2_isSome_iff (length : buff.bytes.length = 9000)
    (atBody : buff.offset = 4) :
    (handleDataConnReq2 header buff).isSome ↔ 128 ≤ header.statusAddrSize := by
  refine (getStruct_bind_isSome_iff (by decide : 128 < 2 ^ 31) (by omega) _).trans ?_
  dsimp only
  rw [getInt_bind_isSome_iff, at_bytes, at_offset, List.length_replicate]
  simp only [Option.isSome_some, and_true]
  omega

theorem handleMeasurement_isSome (length : buff.bytes.length = 9000) (atBody : buff.offset = 4) :
    (handleMeasurement env buff).isSome := by
  rw [handleMeasurement]
  split
  case isTrue _ =>
      refine (getStruct_bind_isSome_iff (by decide : 7040 < 2 ^ 31) (by omega) _).mpr
        ⟨by rw [List.length_replicate], ?_⟩
      exact (getStruct_bind_isSome_iff (by decide : 68 < 2 ^ 31)
        (by simp only [at_bytes, at_offset]; omega) _).mpr ⟨by rw [List.length_replicate], rfl⟩
  case isFalse _ => rfl

/-- A length of an event is read without its sign. -/
theorem toUInt32_le_iff (length : Int32) :
    length.toUInt32.toNat ≤ 40 ↔ 0 ≤ length.toInt ∧ length.toInt ≤ 40 := by
  have small := length.toUInt32.toNat_lt
  have value : length.toInt = (length.toUInt32.toNat : Int).bmod (2 ^ 32) :=
    BitVec.toInt_eq_toNat_bmod length.toBitVec
  rw [value, Int.bmod_def]
  omega

theorem handleNavigation_isSome_iff (length : buff.bytes.length = 9000)
    (atBody : buff.offset = 4) :
    (handleNavigation env buff).isSome ↔
      (env.navigationInit → env.mallocEvent → NavigationFits env buff.bytes) := by
  rw [handleNavigation]
  split
  case isTrue ready =>
      obtain ⟨init, event⟩ := ready
      have lengthField : ((copiedOver (List.replicate 56 0) buff.bytes 4 56).drop 12).take 4 =
          (buff.bytes.drop 16).take 4 := by
        rw [copiedOver, List.drop_replicate, List.replicate_zero, List.append_nil,
          List.drop_take, List.drop_drop, List.take_take]
        rfl
      have block : (copiedOver (List.replicate 56 0) buff.bytes 4 56).length = 56 := by
        simp only [copiedOver, List.length_append, List.length_take, List.length_drop, length,
          List.length_replicate]
        rfl
      refine (getStruct_bind_isSome_iff (by decide : 56 < 2 ^ 31) (by omega) _).trans ?_
      dsimp only
      rw [atBody, lengthField, ← intAt, List.length_replicate, load, block]
      have isZero : (intAt buff.bytes 16).toUInt32 = 0 ↔ intAt buff.bytes 16 = 0 :=
        ⟨fun zero => congrArg UInt32.toInt32 zero, fun zero => by rw [zero]; rfl⟩
      have within := toUInt32_le_iff (intAt buff.bytes 16)
      by_cases inside : 16 + (intAt buff.bytes 16).toUInt32.toNat ≤ 56
      · have bounds := within.mp (by omega)
        by_cases data : env.mallocData ∨ intAt buff.bytes 16 = 0
        · simp [NavigationFits, inside, isZero, data, bounds]
        · simp [NavigationFits, inside, isZero, data, init, event]
      · have outside : ¬ (0 ≤ (intAt buff.bytes 16).toInt ∧ (intAt buff.bytes 16).toInt ≤ 40) := by
          rw [← within]
          omega
        have unfit : ¬ NavigationFits env buff.bytes := fun fits => outside ⟨fits.1, fits.2.1⟩
        simp [inside, unfit, init, event]
  case isFalse notReady =>
      refine iff_of_true rfl fun init event => ?_
      exact absurd ⟨init, event⟩ notReady

theorem handleMessage_isSome_iff (length : buff.bytes.length = 9000) (start : buff.offset = 0) :
    (handleMessage header env buff).isSome ↔ MessageFits header env buff.bytes := by
  rw [handleMessage, getInt_bind (by omega), MessageFits, start]
  dsimp only
  have body : (buff.at (0 + 4)).bytes.length = 9000 := length
  have readsInt : (buff.at (0 + 4)).offset + 4 ≤ (buff.at (0 + 4)).bytes.length := by
    rw [body, at_offset]
    decide
  -- each type meets one of the conditions, and the conditions of the other types say nothing
  by_cases notification : intAt buff.bytes 0 = 230
  · rw [if_pos notification, handleNotification_isSome_iff body rfl]
    simp [notification]
  rw [if_neg notification]
  by_cases notification2 : intAt buff.bytes 0 = 236
  · rw [if_pos notification2, handleNotification2_isSome_iff body rfl]
    simp [notification2]
  rw [if_neg notification2]
  by_cases dataConnReq : intAt buff.bytes 0 = 231
  · rw [if_pos dataConnReq]
    simp [dataConnReq, handleDataConnReq_isSome body rfl]
  rw [if_neg dataConnReq]
  by_cases dataConnReq2 : intAt buff.bytes 0 = 237
  · rw [if_pos dataConnReq2, handleDataConnReq2_isSome_iff body rfl]
    simp [dataConnReq2]
  rw [if_neg dataConnReq2]
  by_cases dataConnRelease : intAt buff.bytes 0 = 232
  · rw [if_pos dataConnRelease]
    simp [dataConnRelease]
  rw [if_neg dataConnRelease]
  by_cases requestSetId : intAt buff.bytes 0 = 233
  · rw [if_pos requestSetId, getInt_bind readsInt]
    simp [requestSetId]
  rw [if_neg requestSetId]
  by_cases requestRefloc : intAt buff.bytes 0 = 234
  · rw [if_pos requestRefloc, getInt_bind readsInt]
    simp [requestRefloc]
  rw [if_neg requestRefloc]
  by_cases agpsLoc : intAt buff.bytes 0 = 235
  · rw [if_pos agpsLoc]
    simp [agpsLoc, handleAgpsLoc_isSome body rfl]
  rw [if_neg agpsLoc]
  by_cases gpsIcon : intAt buff.bytes 0 = 0x42
  · rw [if_pos gpsIcon, getInt_bind readsInt]
    simp [gpsIcon]
  rw [if_neg gpsIcon]
  by_cases measurement : intAt buff.bytes 0 = 0x76
  · rw [if_pos measurement]
    simp [measurement, handleMeasurement_isSome body rfl]
  rw [if_neg measurement]
  by_cases navigation : intAt buff.bytes 0 = 0x77
  · rw [if_pos navigation, handleNavigation_isSome_iff body rfl]
    simp [navigation]
  · rw [if_neg navigation]
    simp [notification, notification2, dataConnReq2, navigation]

/-- The handler stays within its memory exactly when the datagram fits. -/
theorem mnldToGpsHandler_isSome_iff (datagram : List UInt8) :
    (mnldToGpsHandler header env datagram).isSome ↔ DatagramFits header env datagram :=
  handleMessage_isSome_iff (length_receiveBuffer datagram) rfl

end Handler

/-- What the framework passes stays within the message of its call, and what the daemon
sends within the receive buffer and the destinations, exactly when they fit. -/
theorem daemonWire_inside_iff (nwConnected : Int32) (call : AgpsCall) (header : GpsHeader)
    (env : HandlerEnv) (datagram : List UInt8) :
    ((call.messages nwConnected).isSome ↔ call.Fits) ∧
      ((mnldToGpsHandler header env datagram).isSome ↔ DatagramFits header env datagram) :=
  ⟨messages_isSome_iff nwConnected call, mnldToGpsHandler_isSome_iff datagram⟩

/-- The stack, and memory to allocate. -/
def clearEnv : HandlerEnv where
  requestorId := ⟨List.replicate 1024 0, List.length_replicate⟩
  clientName := ⟨List.replicate 1024 0, List.length_replicate⟩
  measurementInit := true
  navigationInit := true
  mallocEvent := true
  mallocData := true

/-- A name of one letter, again and again. -/
def longName (length : Nat) : CString :=
  ⟨List.replicate length 97, fun isMem => absurd (List.eq_of_mem_replicate isMem) (by decide)⟩

/-- An apn of 1016 characters, and a notification from a requestor of 64 characters, whose
digits do not fit in the 256 bytes of `requestor_id`. -/
theorem daemonWire_leaves :
    (AgpsCall.dataConnOpen (longName 1016)).messages 0 = none ∧
      mnldToGpsHandler ⟨256, 2048, 128⟩ clearEnv
        (intBytes 230 ++ intBytes 1 ++ intBytes 1 ++
          intBytes 65 ++ ((longName 64).bytes ++ [0]) ++ intBytes 1 ++ [0]) = none := by
  constructor
  · rw [← Option.not_isSome_iff_eq_none, messages_isSome_iff]
    rintro ⟨-, atMost⟩
    rw [longName, List.length_replicate] at atMost
    revert atMost
    decide
  · rw [← Option.not_isSome_iff_eq_none, mnldToGpsHandler_isSome_iff]
    rintro ⟨notification, -⟩
    obtain ⟨-, -, ⟨-, -, room⟩, -⟩ := notification (by decide +kernel)
    revert room
    decide +kernel

end X3Hal.Gps
