import X3Hal.Gps.Decimal
import X3Hal.Wpa.CommandSafety

/-!
# The packet filter

`mtk_rx_packet_filter` has three 64-bit masks in hexadecimal.  The handler reads each of them in
two halves with `strtol`, which stops at the limits of `long`, and sends six words of 32 bits.
-/

namespace X3Hal.Wpa

open X3Hal.Memory X3Hal.Transition
open X3Hal.Gps (isSpace isDigit isHexDigit digitValue digitsValue readSign toLower)

/-! ## The size of `long` -/

/-- The greatest number up to a number that `long` holds -/
def LongSize.hold (long : LongSize) (value : Nat) : Nat :=
  min value (long.bound - 1).toNat

/-- The handlers; only that of the packet filter depends on the size of `long`. -/
def runCommandOf (long : LongSize) (driver : Driver) (call : DriverCall) :
    DriverCommand → Option (Int × DriverCall)
  | .mtkRxPacketFilter => mtkRxPacketFilterOf long driver call
  | command => runCommand driver call command

/-- `wpa_driver_nl80211_driver_cmd` -/
def driverCmdOf (long : LongSize) (driver : Driver) (text buf : List UInt8) :
    Option (Int × DriverCall) :=
  let call := startCall text buf
  if driver.ready then runCommandOf long driver call (driverCommand driver.config text)
  else call.returns (-1)

/-- A `long` of 64 bits is that of the other commands. -/
theorem driverCmdOf_bits64 (driver : Driver) (text buf : List UInt8) :
    driverCmdOf .bits64 driver text buf = driverCmd driver text buf := by
  have commands (call : DriverCall) (command : DriverCommand) :
      runCommandOf .bits64 driver call command = runCommand driver call command := by
    cases command <;> rfl
  rw [driverCmdOf, driverCmd]
  simp only [commands]

/-! ## The command's word -/

/-- What a comparison accepts begins with the word, if the case of letters is left aside. -/
theorem prefix_of_accepts {comparison : Comparison} {word text : List UInt8}
    (accepted : comparison.accepts word text) : word.map toLower <+: text.map toLower := by
  cases comparison with
  | strncasecmp => exact List.isPrefixOf_iff_prefix.mp accepted
  | strncmp => exact (List.isPrefixOf_iff_prefix.mp accepted).map toLower
  | strcasecmp => exact (of_decide_eq_true accepted : text.map toLower = word.map toLower) ▸
      List.prefix_rfl

/-- The word of the packet filter, as the table has it -/
def filterEntry : CommandEntry :=
  ⟨.strncasecmp, "mtk_rx_packet_filter ", .mtkRxPacketFilter⟩

/-- No other word begins like that of the packet filter. -/
theorem driverCommand_filter (config : DriverConfig) {text : List UInt8}
    (named : filterEntry.accepts text) : driverCommand config text = .mtkRxPacketFilter := by
  have apart : ∀ entry ∈ commandTable ⟨true, true, true, true, true⟩,
      (ascii entry.word).map toLower <+: (ascii filterEntry.word).map toLower ∨
        (ascii filterEntry.word).map toLower <+: (ascii entry.word).map toLower →
      entry.command = .mtkRxPacketFilter := by
    decide +kernel
  have known : filterEntry ∈ commandTable config :=
    List.mem_append_right _ (by decide)
  rw [driverCommand]
  cases found : (commandTable config).find? (·.accepts text) with
  | none => exact absurd named (by simpa using List.find?_eq_none.mp found filterEntry known)
  | some entry =>
      have accepted := List.find?_some found
      have occurs := (commandTable_sublist config).subset (List.mem_of_find?_eq_some found)
      exact apart entry occurs
        (List.prefix_or_prefix_of_prefix (prefix_of_accepts accepted) (prefix_of_accepts named))

/-! ## Masks -/

/-- A mask of 64 bits as sixteen hexadecimal digits of either case. -/
structure Mask where
  digits : List UInt8
  sixteen : digits.length = 16
  areDigits : ∀ byte ∈ digits, isHexDigit byte = true

namespace Mask

def value (mask : Mask) : Nat :=
  digitsValue 16 mask.digits

/-- The upper 32 bits -/
def high (mask : Mask) : Nat :=
  mask.value / 2 ^ 32

/-- The lower 32 bits -/
def low (mask : Mask) : Nat :=
  mask.value % 2 ^ 32

end Mask

theorem not_of_isHexDigit : ∀ byte : UInt8, isHexDigit byte = true →
    isSpace byte = false ∧ byte ≠ 45 ∧ byte ≠ 43 ∧ byte ≠ 0 ∧ toLower byte ≠ 120 ∧
      digitValue byte < 16 :=
  forall_byte (by decide +kernel)

section Digits

variable {digits : List UInt8} (areDigits : ∀ byte ∈ digits, isHexDigit byte = true)
include areDigits

/-- `strtol` of hexadecimal digits is their number, or the greatest `long`. -/
theorem strtolOf_digits (long : LongSize) :
    (strtolOf long 16 digits).1 = long.hold (digitsValue 16 digits) := by
  have noSpace : digits.dropWhile isSpace = digits := by
    cases digits with
    | nil => rfl
    | cons byte rest =>
        have facts := not_of_isHexDigit byte (areDigits byte List.mem_cons_self)
        exact List.dropWhile_cons_of_neg (by rw [facts.1]; exact Bool.false_ne_true)
  have unsigned : readSign digits = (false, digits) := by
    unfold readSign
    split
    · exact absurd rfl (not_of_isHexDigit 45 (areDigits 45 List.mem_cons_self)).2.1
    · exact absurd rfl (not_of_isHexDigit 43 (areDigits 43 List.mem_cons_self)).2.2.1
    · rfl
  have noPrefix : [48, 120].isPrefixOf ((digits.take 2).map toLower) = false := by
    rw [← Bool.not_eq_true, List.isPrefixOf_iff_prefix]
    intro begins
    rcases List.mem_map.mp (begins.subset (by decide : (120 : UInt8) ∈ [48, 120])) with
      ⟨byte, occurs, isX⟩
    exact (not_of_isHexDigit byte
      (areDigits byte (List.take_subset 2 digits occurs))).2.2.2.2.1 isX
  have whole :
      (digits.takeWhile fun byte => isHexDigit byte && digitValue byte < 16) = digits := by
    rw [List.takeWhile_eq_self_iff]
    intro byte occurs
    have isDigit := areDigits byte occurs
    simpa [isDigit] using (not_of_isHexDigit byte isDigit).2.2.2.2.2
  have nonneg : (0 : Int) ≤ digitsValue 16 digits := Int.natCast_nonneg _
  unfold strtolOf
  rw [noSpace, unsigned]
  simp only [noPrefix, Bool.false_eq_true, false_and, and_false, if_false, OfNat.ofNat_ne_zero,
    whole]
  cases long with
  | bits32 =>
      simp only [LongSize.bound, LongSize.hold]
      omega
  | bits64 =>
      simp only [LongSize.bound, LongSize.hold]
      omega

theorem digitsValue_lt_pow : digitsValue 16 digits < 16 ^ digits.length := by
  induction digits using List.reverseRecOn with
  | nil => decide
  | append_singleton front byte ih =>
      have before := ih fun other occurs => areDigits other (List.mem_append_left _ occurs)
      have last := (not_of_isHexDigit byte (areDigits byte (by simp))).2.2.2.2.2
      have single : digitsValue 16 [byte] = digitValue byte := by simp [digitsValue]
      rw [Gps.digitsValue_append, single, List.length_append, List.length_singleton, pow_one,
        pow_succ]
      omega

end Digits

namespace Mask

variable (mask : Mask)

/-- The eight digits in front are the upper half. -/
theorem value_eq : mask.value =
    digitsValue 16 (mask.digits.take 8) * 2 ^ 32 + digitsValue 16 (mask.digits.drop 8) := by
  have sixteen := mask.sixteen
  have rest : (mask.digits.drop 8).length = 8 := by
    rw [List.length_drop, sixteen]
  have split := @Gps.digitsValue_append 16 (mask.digits.take 8) (mask.digits.drop 8)
  rw [List.take_append_drop, rest] at split
  rw [value, split]
  rfl

theorem lower_lt : digitsValue 16 (mask.digits.drop 8) < 2 ^ 32 := by
  have small := digitsValue_lt_pow fun byte occurs =>
    mask.areDigits byte (List.drop_subset 8 mask.digits occurs)
  rwa [List.length_drop, mask.sixteen] at small

theorem high_eq : mask.high = digitsValue 16 (mask.digits.take 8) := by
  have small := mask.lower_lt
  rw [high, mask.value_eq]
  omega

theorem low_eq : mask.low = digitsValue 16 (mask.digits.drop 8) := by
  have small := mask.lower_lt
  rw [low, mask.value_eq]
  omega

end Mask

/-- A command with its three masks. -/
structure FilterCommand where
  name : List UInt8
  isName : name.map toLower = (ascii filterEntry.word).map toLower
  ipv4 : Mask
  ipv6 : Mask
  snap : Mask

namespace FilterCommand

variable (command : FilterCommand)

/-- Single spaces separate the masks. -/
def text : List UInt8 :=
  command.name ++ (command.ipv4.digits ++ 32 :: (command.ipv6.digits ++ 32 :: command.snap.digits))

/-- The words of `wpa_driver_rx_filter_params` -/
def words : List Nat :=
  [command.ipv4.high, command.ipv4.low, command.ipv6.high, command.ipv6.low, command.snap.high,
    command.snap.low]

/-- `wpa_driver_rx_filter_params` with these words -/
def message : List UInt8 :=
  testModeMessage 103 (command.words.flatMap (leBytes 4))

theorem length_name : command.name.length = 21 := by
  have same := congrArg List.length command.isName
  rw [List.length_map, List.length_map] at same
  rw [same]
  decide

theorem length_text : command.text.length = 71 := by
  have name := command.length_name
  have ipv4 := command.ipv4.sixteen
  have ipv6 := command.ipv6.sixteen
  have snap := command.snap.sixteen
  simp only [text, List.length_append, List.length_cons]
  omega

theorem words_lt : ∀ word ∈ command.words, word < 2 ^ 32 := by
  have bound (mask : Mask) : mask.value < 2 ^ 64 := by
    have small := digitsValue_lt_pow mask.areDigits
    rwa [mask.sixteen] at small
  have high (mask : Mask) : mask.high < 2 ^ 32 := by
    have small := bound mask
    rw [Mask.high]
    omega
  have low (mask : Mask) : mask.low < 2 ^ 32 := Nat.mod_lt _ (Nat.two_pow_pos 32)
  simp only [words, List.forall_mem_cons, List.not_mem_nil, false_implies, implies_true, and_true]
  exact ⟨high _, low _, high _, low _, high _, low _⟩

end FilterCommand

/-! ## What is sent -/

theorem filterText_eq {digits : List UInt8} (eight : digits.length = 8) (plain : 0 ∉ digits)
    (before after : List UInt8) :
    filterText (before ++ (digits ++ after)) before.length = some digits := by
  have loaded := load_split before digits after
  rw [eight] at loaded
  have nine : List.replicate 9 (0 : UInt8) = List.replicate 8 0 ++ [0] := rfl
  have eightZeros : (List.replicate 8 (0 : UInt8)).length = digits.length :=
    List.length_replicate.trans eight.symm
  have stored := store_front eightZeros [0]
  have ended : store (digits ++ [0]) 8 [0] = some (digits ++ [0]) := by
    have last := store_split (rfl : [(0 : UInt8)].length = [(0 : UInt8)].length) digits []
    rwa [List.append_nil, eight] at last
  simp only [filterText, loaded, nine, stored, ended, Option.bind_eq_bind, Option.bind_some]
  exact cString_cmd plain []

/-- The two words of a mask in a command. -/
theorem filterWordOf_mask (long : LongSize) (mask : Mask) (before after : List UInt8) :
    filterWordOf long (before ++ (mask.digits ++ after)) before.length =
        some (long.hold mask.high : Int) ∧
      filterWordOf long (before ++ (mask.digits ++ after)) (before.length + 8) =
        some (long.hold mask.low : Int) := by
  have plain (digits : List UInt8) (subset : digits ⊆ mask.digits) : 0 ∉ digits := fun occurs =>
    (not_of_isHexDigit 0 (mask.areDigits 0 (subset occurs))).2.2.2.1 rfl
  have sixteen := mask.sixteen
  have front : (mask.digits.take 8).length = 8 := by
    rw [List.length_take]
    omega
  have rest : (mask.digits.drop 8).length = 8 := by
    rw [List.length_drop]
    omega
  have halves : mask.digits ++ after = mask.digits.take 8 ++ (mask.digits.drop 8 ++ after) := by
    rw [← List.append_assoc, List.take_append_drop]
  constructor
  · rw [filterWordOf, halves, filterText_eq front (plain _ (List.take_subset 8 _)),
      Option.bind_eq_bind, Option.bind_some, mask.high_eq,
      strtolOf_digits fun byte occurs => mask.areDigits byte (List.take_subset 8 _ occurs)]
  · have place : (before ++ mask.digits.take 8).length = before.length + 8 := by
      rw [List.length_append, front]
    rw [filterWordOf, halves, ← List.append_assoc, ← place,
      filterText_eq rest (plain _ (List.drop_subset 8 _)), Option.bind_eq_bind, Option.bind_some,
      mask.low_eq,
      strtolOf_digits fun byte occurs => mask.areDigits byte (List.drop_subset 8 _ occurs)]

namespace FilterCommand

variable (command : FilterCommand) (long : LongSize)

theorem mapM_filterWordOf :
    [21, 29, 38, 46, 55, 63].mapM (filterWordOf long (command.text ++ [0])) =
      some (command.words.map fun word => (long.hold word : Int)) := by
  have name := command.length_name
  have ipv4 := filterWordOf_mask long command.ipv4 command.name
    (32 :: (command.ipv6.digits ++ 32 :: command.snap.digits) ++ [0])
  have ipv6 := filterWordOf_mask long command.ipv6 (command.name ++ command.ipv4.digits ++ [32])
    (32 :: command.snap.digits ++ [0])
  have snap := filterWordOf_mask long command.snap
    (command.name ++ command.ipv4.digits ++ [32] ++ command.ipv6.digits ++ [32]) [0]
  simp only [List.length_append, List.length_cons, List.length_nil, name, Mask.sixteen,
    List.append_assoc, List.cons_append, List.nil_append, Nat.reduceAdd,
      zero_add] at ipv4 ipv6 snap
  have text : command.text ++ [0] = command.name ++ (command.ipv4.digits ++
      32 :: (command.ipv6.digits ++ 32 :: (command.snap.digits ++ [0]))) := by
    simp [FilterCommand.text]
  rw [text]
  simp only [List.mapM_cons, List.mapM_nil, ipv4, ipv6, snap, Option.bind_eq_bind,
    Option.bind_some, Option.pure_def, words, List.map_cons, List.map_nil]

/-- Three masks are answered with one message, whose words are those that `long` holds. -/
theorem mtkRxPacketFilterOf_text (driver : Driver) (buf : List UInt8) (plain : 0 ∉ command.text) :
    mtkRxPacketFilterOf long driver (startCall command.text buf) =
      let message := testModeMessage 103 ((command.words.map long.hold).flatMap (leBytes 4))
      some (driver.testmode message, (startCall command.text buf).emit (.testmode message)) := by
  have text : cString (startCall command.text buf).cmd 0 = some command.text :=
    cString_startCall plain (Nat.zero_le _)
  have words := command.mapM_filterWordOf long
  have signed : (command.words.map fun word => (long.hold word : Int)).flatMap (signedBytes 4) =
      (command.words.map long.hold).flatMap (leBytes 4) := by
    rw [List.flatMap_map, List.flatMap_map]
    apply List.flatMap_congr
    intro word occurs
    have small := command.words_lt word occurs
    have atMost : long.hold word ≤ word := Nat.min_le_left _ _
    have same : ((long.hold word : Int) % 256 ^ 4).toNat = long.hold word := by omega
    rw [signedBytes, same]
  rw [mtkRxPacketFilterOf, text, some_bind_eq, if_neg (not_not.mpr command.length_text)]
  change ([21, 29, 38, 46, 55, 63].mapM (filterWordOf long (command.text ++ [0])) >>= _) = _
  rw [words, some_bind_eq, signed, sendMessage_testModeMessage]
  rfl

/-- The words are held as they are just if `long` has 64 bits or they fit 31 bits. -/
theorem map_hold_eq_iff :
    command.words.map long.hold = command.words ↔
      long = .bits64 ∨ ∀ word ∈ command.words, word < 2 ^ 31 := by
  conv_lhs => rw [← List.map_id command.words, List.map_map]
  rw [Function.comp_id, List.map_inj_left]
  cases long with
  | bits64 =>
      refine iff_of_true (fun word occurs => ?_) (.inl rfl)
      have small := command.words_lt word occurs
      simp only [LongSize.hold, LongSize.bound, id]
      omega
  | bits32 =>
      rw [or_iff_right (by decide)]
      refine forall₂_congr fun word occurs => ?_
      simp only [LongSize.hold, LongSize.bound, id]
      omega

/-- The message has the words in it. -/
theorem message_hold_eq_iff :
    testModeMessage 103 ((command.words.map long.hold).flatMap (leBytes 4)) = command.message ↔
      command.words.map long.hold = command.words := by
  constructor
  · intro messages
    rw [message, testModeMessage, testModeMessage] at messages
    have lengths (body : List UInt8) : (testModeInfo 103 (8 + body.length)).length = 8 :=
      length_testModeInfo _ _
    have bodies := (List.append_inj messages ((lengths _).trans (lengths _).symm)).2
    apply flatMap_leBytes_injective (List.length_map _) _ command.words_lt bodies
    intro value occurs
    rcases List.mem_map.mp occurs with ⟨word, isWord, rfl⟩
    exact (Nat.min_le_left _ _).trans_lt (command.words_lt word isWord)
  · intro held
    rw [held]
    rfl

end FilterCommand

/-! ## The law -/

/-- What the command is to do: every access is within its bounds, a text of another length is
rejected without a message, and three masks are sent as their halves. -/
structure FiltersExactly (long : LongSize) (driver : Driver) (text buf : List UInt8) : Prop where
  inBounds : (driverCmdOf long driver text buf).isSome
  rejects : text.length ≠ 71 → driverCmdOf long driver text buf = some (-1, startCall text buf)
  sends : ∀ command : FilterCommand, command.text = text →
    ∃ ret after, driverCmdOf long driver text buf = some (ret, after) ∧
      after.effects = [.testmode command.message]

section Law

variable {driver : Driver} {text buf : List UInt8} (plain : 0 ∉ text) (long : LongSize)
include plain

/-- The filter is exact just if `long` has 64 bits or all halves of the masks fit 31 bits. -/
theorem filtersExactly_iff (ready : driver.ready = true) (named : filterEntry.accepts text) :
    FiltersExactly long driver text buf ↔
      long = .bits64 ∨ ∀ command : FilterCommand, command.text = text →
        ∀ word ∈ command.words, word < 2 ^ 31 := by
  have handled : driverCmdOf long driver text buf =
      mtkRxPacketFilterOf long driver (startCall text buf) := by
    rw [driverCmdOf, if_pos ready, driverCommand_filter driver.config named]
    rfl
  have sent (command : FilterCommand) (isText : command.text = text) :
      ∃ ret, driverCmdOf long driver text buf = some (ret, (startCall text buf).emit (.testmode
        (testModeMessage 103 ((command.words.map long.hold).flatMap (leBytes 4))))) := by
    subst isText
    exact ⟨_, handled.trans (command.mtkRxPacketFilterOf_text long driver buf plain)⟩
  have exactly (command : FilterCommand) (isText : command.text = text) :
      (∃ ret after, driverCmdOf long driver text buf = some (ret, after) ∧
        after.effects = [.testmode command.message]) ↔
      long = .bits64 ∨ ∀ word ∈ command.words, word < 2 ^ 31 := by
    obtain ⟨ret, ran⟩ := sent command isText
    rw [← command.map_hold_eq_iff long, ← command.message_hold_eq_iff long]
    constructor
    · rintro ⟨other, after, ranToo, effects⟩
      rw [ran, Option.some_inj, Prod.mk.injEq] at ranToo
      rw [← ranToo.2] at effects
      exact DriverEffect.testmode.inj (List.singleton_inj.mp effects)
    · intro same
      refine ⟨ret, _, ran, ?_⟩
      rw [same]
      rfl
  constructor
  · intro law
    rw [or_iff_not_imp_left]
    intro not64 command isText
    exact ((exactly command isText).mp (law.sends command isText)).resolve_left not64
  · intro fits
    constructor
    · rw [handled]
      exact mtkRxPacketFilterOf_isSome long plain
    · intro other
      rw [handled, mtkRxPacketFilterOf, cString_startCall plain (Nat.zero_le _), some_bind_eq,
        List.drop_zero, if_pos other]
      rfl
    · intro command isText
      exact (exactly command isText).mpr (fits.imp id fun all => all command isText)

end Law

/-- A mask of one digit -/
def Mask.repeated (digit : UInt8) (areDigits : isHexDigit digit = true) : Mask where
  digits := List.replicate 16 digit
  sixteen := List.length_replicate
  areDigits := fun _ occurs => (List.eq_of_mem_replicate occurs).symm ▸ areDigits

/-- `FFFFFFFFFFFFFFFF`, and two masks of zeros -/
def fullMaskCommand : FilterCommand where
  name := ascii filterEntry.word
  isName := rfl
  ipv4 := .repeated 70 rfl
  ipv6 := .repeated 48 rfl
  snap := .repeated 48 rfl

theorem filtersExactly_iff_bits64 :
    FiltersExactly .bits64 sigmaDriver
      (ascii "mtk_rx_packet_filter 00000000000000FE 0000000000000000 0000000000000000") [] := by
  apply (filtersExactly_iff (by decide +kernel) .bits64 rfl (by decide +kernel)).mpr
  exact Or.inl rfl

/-- With a `long` of 32 bits the mask `FFFFFFFFFFFFFFFF` is sent as two words `0x7fffffff`. -/
theorem filter_saturated :
    ¬ FiltersExactly .bits32 sigmaDriver fullMaskCommand.text [] := by
  intro exact
  rcases exact.sends fullMaskCommand rfl with ⟨ret, after, ran, effects⟩
  have sent := congrArg (Option.map fun result => result.2.effects) ran
  rw [Option.map_some, effects] at sent
  exact absurd sent (by decide +kernel)

end X3Hal.Wpa
