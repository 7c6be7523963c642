import X3Hal.Memory.Strings
import X3Hal.Ril.QueuedBuffer

/-!
# The initial attach parameters

`setInitialAttachApn` cuts the operator numeric of its slot out of a property, which it reads into
a small buffer.  `isInitialAttachAPN` formats the parameters of a request as the vendor library
caches them, and compares.
-/

namespace X3Hal.Ril

open X3Hal.Memory

/-! ## The operator numeric of a slot -/

/-- The text that `p` points to when it is copied; `none` when an access leaves `prop` or `p` is
NULL.  The arguments are what `prop` holds before, the slot, and the property's value. -/
def operatorNumericText (prop : Vector UInt8 32) (mSlotId : Nat) (value : List UInt8) :
    Option (List UInt8) := do
  -- `property_get` copies the value with its NUL and returns its length.
  let block ← store prop.toList 0 (value ++ [0])
  if value = [] then
    cString block 0
  else
    match ← strchr block 0 44 with
    | some comma =>
        let block ← store block comma [0]
        cString block (if mSlotId = 0 then 0 else comma + 1)
    | none => if mSlotId = 0 then cString block 0 else none

/-- The block that `setInitialAttachApn` sends -/
def operatorNumeric (prop : Vector UInt8 32) (mSlotId : Nat) (value : List UInt8) :
    Option (List Cell) :=
  (operatorNumericText prop mSlotId value).map (stringCells 8)

/-- A slot's part of the property, which is empty when there is none -/
def numericOf (mSlotId : Nat) (value : List UInt8) : List UInt8 :=
  (value.splitOn 44)[mSlotId]?.getD []

/-- The block is there and has the slot's part with a NUL behind it. -/
def SendsNumeric (prop : Vector UInt8 32) (mSlotId : Nat) (value : List UInt8) : Prop :=
  ∃ after, operatorNumeric prop mSlotId value =
    some ((numericOf mSlotId value).map Cell.byte ++ Cell.byte 0 :: after)

/-- The value fits the buffer and the slot's part fits the block, a slot other than the first finds
a comma or no value at all, and there are parts for the slots up to this one. -/
structure NumericFits (mSlotId : Nat) (value : List UInt8) : Prop where
  value_lt : value.length < 32
  part_lt : (numericOf mSlotId value).length < 8
  comma : value = [] ∨ mSlotId = 0 ∨ 44 ∈ value
  slots : 2 ≤ mSlotId → numericOf 1 value = []

section Numeric

variable {prop : Vector UInt8 32} {mSlotId : Nat} {value : List UInt8}

/-- The buffer with a value that fits -/
theorem exists_store_value (prop : Vector UInt8 32) (fits : value.length < 32) :
    ∃ rest, store prop.toList 0 (value ++ [0]) = some (value ++ 0 :: rest) := by
  have inside : 0 + (value ++ [0]).length ≤ prop.toList.length := by
    simp
    omega
  refine ⟨prop.toList.drop (value.length + 1), ?_⟩
  rw [store, if_pos inside]
  simp

theorem operatorNumericText_long (long : ¬ value.length < 32) :
    operatorNumericText prop mSlotId value = none := by
  have outside : ¬ 0 + (value ++ [0]).length ≤ prop.toList.length := by
    simp
    omega
  rw [operatorNumericText, store_eq_none outside]
  rfl

theorem operatorNumericText_nil : operatorNumericText prop mSlotId [] = some [] := by
  have fits : ([] : List UInt8).length < 32 := by decide
  obtain ⟨rest, stored⟩ := exists_store_value prop fits
  have read : cString ([] ++ ([] ++ 0 :: rest)) 0 = some [] :=
    cString_split List.not_mem_nil [] rest
  rw [operatorNumericText, stored]
  simpa using read

/-- Without a comma, `p` is NULL for a slot other than the first. -/
theorem operatorNumericText_single (fits : value.length < 32) (plain : 0 ∉ value)
    (given : value ≠ []) (single : 44 ∉ value) :
    operatorNumericText prop mSlotId value = if mSlotId = 0 then some value else none := by
  obtain ⟨rest, stored⟩ := exists_store_value prop fits
  have read : cString (value ++ 0 :: rest) 0 = some value := cString_split plain [] rest
  have absent : strchr (value ++ 0 :: rest) 0 44 = some none := by
    rw [strchr, read]
    exact congrArg some (if_neg single)
  rw [operatorNumericText, stored]
  simp only [Option.bind_eq_bind, Option.bind_some, given, if_false, absent, read]

/-- With one, each slot has its side of it. -/
theorem operatorNumericText_pair {first second : List UInt8}
    (fits : (first ++ 44 :: second).length < 32) (plain : 0 ∉ first ++ 44 :: second)
    (single : 44 ∉ first) :
    operatorNumericText prop mSlotId (first ++ 44 :: second) =
      some (if mSlotId = 0 then first else second) := by
  obtain ⟨rest, stored⟩ := exists_store_value prop fits
  have plainFirst : 0 ∉ first := fun among => plain (List.mem_append_left _ among)
  have plainSecond : 0 ∉ second := fun among =>
    plain (List.mem_append_right _ (List.mem_cons_of_mem _ among))
  have read : cString (first ++ 44 :: second ++ 0 :: rest) 0 = some (first ++ 44 :: second) :=
    cString_split plain [] rest
  have found : strchr (first ++ 44 :: second ++ 0 :: rest) 0 44 = some (some first.length) := by
    rw [strchr, read, Option.bind_eq_bind, Option.bind_some, if_pos (by simp),
      List.idxOf_append_of_notMem single, List.idxOf_cons_self]
    simp
  have cut : store (first ++ 44 :: second ++ 0 :: rest) first.length [0] =
      some (first ++ 0 :: (second ++ 0 :: rest)) := by
    have lengths : ([44] : List UInt8).length = ([0] : List UInt8).length := rfl
    simpa using store_split lengths first (second ++ 0 :: rest)
  have readFirst : cString (first ++ 0 :: (second ++ 0 :: rest)) 0 = some first :=
    cString_split plainFirst [] _
  have readSecond : cString (first ++ 0 :: (second ++ 0 :: rest)) (first.length + 1) =
      some second := by
    have reads := cString_split plainSecond (first ++ [0]) rest
    simpa using reads
  rw [operatorNumericText, stored]
  simp only [Option.bind_eq_bind, Option.bind_some, found, cut]
  split
  case isTrue is => simp at is
  case isFalse =>
    split
    case isTrue => exact readFirst
    case isFalse => exact readSecond

end Numeric

section Sent

variable {size : Nat} {src part : List UInt8}

theorem stringCells_eq (plain : 0 ∉ src) :
    stringCells size src =
      (src.take size ++ List.replicate (size - src.length) 0).map Cell.byte := by
  have all : (src.takeWhile fun byte => byte ≠ 0) = src := by
    simpa using takeWhile_append_replicate plain 0
  have same : size - min size src.length = size - src.length := by omega
  rw [stringCells, strncpy, all, List.length_take, same]

/-- A block of a fixed size has a string with its NUL just if it is shorter than the block. -/
theorem stringCells_terminated_iff (plainSrc : 0 ∉ src) (plainPart : 0 ∉ part) :
    (∃ after, stringCells size src = part.map Cell.byte ++ Cell.byte 0 :: after) ↔
      src = part ∧ part.length < size := by
  constructor
  · rintro ⟨after, same⟩
    rw [stringCells_eq plainSrc] at same
    obtain ⟨front, back, split, isPart, isAfter⟩ := List.map_eq_append_iff.mp same
    obtain ⟨byte, rest, rfl, isNul, -⟩ := List.map_eq_cons_iff.mp isAfter
    obtain rfl : front = part := List.map_injective_iff.mpr (fun a b => Cell.byte.inj) isPart
    obtain rfl : byte = 0 := Cell.byte.inj isNul
    have plainCut : 0 ∉ src.take size := fun among => plainSrc (List.mem_of_mem_take among)
    have cut : src.take size = front := by
      rw [← takeWhile_append_replicate plainCut (size - src.length), split,
        takeWhile_nul plainPart]
    have lengths := congrArg List.length split
    simp only [List.length_append, List.length_take, List.length_replicate,
      List.length_cons] at lengths
    have short : front.length < size := by omega
    have whole : src.length ≤ size := by
      rw [← cut, List.length_take] at short
      omega
    exact ⟨(List.take_of_length_le whole).symm.trans cut, short⟩
  · rintro ⟨rfl, short⟩
    obtain ⟨more, is⟩ := Nat.exists_eq_add_of_lt short
    refine ⟨(List.replicate more 0).map Cell.byte, ?_⟩
    have room : size - src.length = more + 1 := by omega
    rw [stringCells_eq plainSrc, List.take_of_length_le short.le, room, List.replicate_succ]
    simp

end Sent

section Sends

variable {prop : Vector UInt8 32} {mSlotId : Nat} {value : List UInt8}

theorem numericOf_single (single : 44 ∉ value) :
    numericOf mSlotId value = if mSlotId = 0 then value else [] := by
  rw [numericOf, List.splitOn_eq_singleton single]
  cases mSlotId <;> rfl

/-- The parts of a value with one comma -/
theorem numericOf_pair {first second : List UInt8} (before : 44 ∉ first) (after : 44 ∉ second) :
    numericOf mSlotId (first ++ 44 :: second) =
      if mSlotId = 0 then first else if mSlotId = 1 then second else [] := by
  rw [numericOf, List.splitOn_append_cons_self_of_not_mem before,
    List.splitOn_eq_singleton after]
  match mSlotId with
  | 0 => rfl
  | 1 => rfl
  | _ + 2 => rfl

/-- A value with two parts at most has at most one comma. -/
theorem exists_pair (parts : (value.splitOn 44).length ≤ 2) (comma : 44 ∈ value) :
    ∃ first second, value = first ++ 44 :: second ∧ 44 ∉ first ∧ 44 ∉ second := by
  obtain ⟨first, second, rfl, before⟩ := List.eq_append_cons_of_mem comma
  refine ⟨first, second, rfl, before, fun among => ?_⟩
  obtain ⟨third, fourth, rfl, between⟩ := List.eq_append_cons_of_mem among
  rw [List.splitOn_append_cons_self_of_not_mem before,
    List.splitOn_append_cons_self_of_not_mem between] at parts
  have nonempty := List.length_pos_of_ne_nil (List.splitOn_ne_nil 44 fourth)
  simp only [List.length_cons] at parts
  omega

theorem not_sendsNumeric (stops : operatorNumericText prop mSlotId value = none) :
    ¬ SendsNumeric prop mSlotId value := by
  rintro ⟨after, sent⟩
  rw [operatorNumeric, stops] at sent
  cases sent

theorem sendsNumeric_of_text {text : List UInt8}
    (copied : operatorNumericText prop mSlotId value = some text) (plainText : 0 ∉ text)
    (plainPart : 0 ∉ numericOf mSlotId value) :
    SendsNumeric prop mSlotId value ↔
      text = numericOf mSlotId value ∧ (numericOf mSlotId value).length < 8 := by
  rw [← stringCells_terminated_iff plainText plainPart, SendsNumeric, operatorNumeric, copied]
  simp

theorem sendsNumeric_single_iff (fits : value.length < 32) (plain : 0 ∉ value)
    (single : 44 ∉ value) : SendsNumeric prop mSlotId value ↔ NumericFits mSlotId value := by
  have part : numericOf mSlotId value = if mSlotId = 0 then value else [] :=
    numericOf_single single
  have second : numericOf 1 value = [] := numericOf_single single
  by_cases given : value = []
  · subst given
    have empty : numericOf mSlotId [] = [] := by simpa using part
    rw [sendsNumeric_of_text operatorNumericText_nil (by simp) (by simp [empty])]
    simp only [empty, List.length_nil, true_and]
    exact iff_of_true (by decide)
      ⟨by decide, by simp [empty], .inl rfl, fun _ => second⟩
  · have copied : operatorNumericText prop mSlotId value =
        if mSlotId = 0 then some value else none :=
      operatorNumericText_single fits plain given single
    by_cases slot : mSlotId = 0
    · rw [if_pos slot] at copied part
      rw [sendsNumeric_of_text copied plain (by rw [part]; exact plain), part]
      constructor
      · rintro ⟨-, short⟩
        exact ⟨fits, by rw [part]; exact short, .inr (.inl slot), fun _ => second⟩
      · rintro ⟨-, short, -, -⟩
        rw [part] at short
        exact ⟨rfl, short⟩
    · rw [if_neg slot] at copied
      refine iff_of_false (not_sendsNumeric copied) ?_
      rintro ⟨-, -, found, -⟩
      simp [given, slot, single] at found

theorem sendsNumeric_pair_iff {first second : List UInt8}
    (fits : (first ++ 44 :: second).length < 32) (plain : 0 ∉ first ++ 44 :: second)
    (before : 44 ∉ first) (after : 44 ∉ second) :
    SendsNumeric prop mSlotId (first ++ 44 :: second) ↔
      NumericFits mSlotId (first ++ 44 :: second) := by
  have copied : operatorNumericText prop mSlotId (first ++ 44 :: second) =
      some (if mSlotId = 0 then first else second) :=
    operatorNumericText_pair fits plain before
  have part : numericOf mSlotId (first ++ 44 :: second) = _ := numericOf_pair before after
  have other : numericOf 1 (first ++ 44 :: second) = second := numericOf_pair before after
  have plainFirst : 0 ∉ first := fun among => plain (List.mem_append_left _ among)
  have plainSecond : 0 ∉ second := fun among =>
    plain (List.mem_append_right _ (List.mem_cons_of_mem _ among))
  have plainText : 0 ∉ if mSlotId = 0 then first else second := by
    split
    · exact plainFirst
    · exact plainSecond
  have plainPart : 0 ∉ numericOf mSlotId (first ++ 44 :: second) := by
    rw [part]
    split
    · exact plainFirst
    · split
      · exact plainSecond
      · exact List.not_mem_nil
  -- The text is the slot's part, except that later slots get the second part, too.
  have same : (if mSlotId = 0 then first else second) = numericOf mSlotId (first ++ 44 :: second) ↔
      (2 ≤ mSlotId → numericOf 1 (first ++ 44 :: second) = []) := by
    rw [part, other]
    match mSlotId with
    | 0 => simp
    | 1 => simp
    | _ + 2 => simp
  rw [sendsNumeric_of_text copied plainText plainPart, same]
  constructor
  · rintro ⟨slots, short⟩
    exact ⟨fits, short, .inr (.inr (by simp)), slots⟩
  · rintro ⟨-, short, -, slots⟩
    exact ⟨slots, short⟩

/-- The slot's part is sent just if all of it fits. -/
theorem sendsNumeric_iff (prop : Vector UInt8 32) (mSlotId : Nat) (plain : 0 ∉ value)
    (parts : (value.splitOn 44).length ≤ 2) :
    SendsNumeric prop mSlotId value ↔ NumericFits mSlotId value := by
  by_cases fits : value.length < 32
  · by_cases comma : 44 ∈ value
    · obtain ⟨first, second, rfl, before, after⟩ := exists_pair parts comma
      exact sendsNumeric_pair_iff fits plain before after
    · exact sendsNumeric_single_iff fits plain comma
  · exact iff_of_false (not_sendsNumeric (operatorNumericText_long fits))
      fun numericFits => fits numericFits.value_lt

end Sends

theorem sendsNumeric_iff_pair :
    SendsNumeric (.replicate 32 0) 1 (ascii "46000,46001") ↔ NumericFits 1 (ascii "46000,46001") :=
  sendsNumeric_iff _ 1 (by decide) (by decide)

/-- The second slot of a phone with one operator copies from NULL. -/
theorem numeric_null : ¬ SendsNumeric (.replicate 32 0) 1 (ascii "46000") := by
  rintro ⟨after, sent⟩
  have stops : operatorNumeric (.replicate 32 0) 1 (ascii "46000") = none := by
    decide +kernel
  rw [stops] at sent
  cases sent

/-! ## The comparison with the cache -/

/-- What is asked to be the initial attach APN.  Strings are their bytes in front of the NUL. -/
structure AttachRequest where
  requestedApn : List UInt8
  protocol : List UInt8
  authType : Int
  username : List UInt8
  password : Option (List UInt8)

namespace AttachRequest

variable (request : AttachRequest)

/-- `password == NULL || strlen(password) == 0` -/
def NoPassword : Prop :=
  request.password.getD [] = []

instance : Decidable request.NoPassword :=
  inferInstanceAs (Decidable (_ = _))

/-- What the format gives with an ICC id -/
def formatted (iccid : List UInt8) : List UInt8 :=
  iccid ++ ascii "," ++ request.protocol ++ ascii "," ++ ascii (toString request.authType) ++
    ascii "," ++ request.username ++ ascii ",0," ++ request.requestedApn

end AttachRequest

/-- The text of a buffer after `sprintf`; `none` when it leaves the buffer. -/
def sprintf (size : Nat) (text : List UInt8) : Option (List UInt8) :=
  if text.length < size then some text else none

/-- What `apnParameter` holds.  For a password `printf` stands in place of `sprintf`: its format is
the buffer, which is empty and stays so. -/
def apnParameter (iccid : List UInt8) (request : AttachRequest) : Option (List UInt8) :=
  if request.NoPassword then sprintf 184 (request.formatted iccid) else some []

/-- `isInitialAttachAPN`, with the cache and the ICC id that it reads -/
def isInitialAttachAPN (iaProperty iccid : List UInt8) (request : AttachRequest) : Option Int :=
  if iaProperty = [] then
    some 0
  else do
    let parameter ← apnParameter iccid request
    if parameter = iaProperty ∨ request.requestedApn = ascii "ctnet" then some 1 else some 0

/-- The string that the cache is compared with -/
def attachReference (iccid : List UInt8) (request : AttachRequest) : List UInt8 :=
  request.formatted (if request.NoPassword then iccid else [])

/-- The result is 1 for a cache that is there, for the one APN or the string. -/
def ComparesWithCache (iaProperty iccid : List UInt8) (request : AttachRequest) : Prop :=
  ∃ result, isInitialAttachAPN iaProperty iccid request = some result ∧
    (result = 1 ↔ iaProperty ≠ [] ∧
      (request.requestedApn = ascii "ctnet" ∨ iaProperty = attachReference iccid request))

/-- The comparison is not reached; or what it needs fits the buffer; or, with a password, it is not
what decides. -/
def ComparisonSound (iaProperty iccid : List UInt8) (request : AttachRequest) : Prop :=
  iaProperty = [] ∨
    (request.NoPassword ∧ (request.formatted iccid).length < 184) ∨
    (¬ request.NoPassword ∧
      (request.requestedApn = ascii "ctnet" ∨ iaProperty ≠ request.formatted []))

section Compare

variable {iaProperty iccid : List UInt8} {request : AttachRequest}

/-- The result on a text that was formatted -/
theorem comparesWithCache_of_text {parameter : List UInt8} (given : iaProperty ≠ [])
    (formats : apnParameter iccid request = some parameter) :
    ComparesWithCache iaProperty iccid request ↔
      (parameter = iaProperty ∨ request.requestedApn = ascii "ctnet" ↔
        request.requestedApn = ascii "ctnet" ∨ iaProperty = attachReference iccid request) := by
  have runs : isInitialAttachAPN iaProperty iccid request =
      if parameter = iaProperty ∨ request.requestedApn = ascii "ctnet" then some 1
      else some 0 := by
    rw [isInitialAttachAPN, if_neg given, formats]
    rfl
  rw [ComparesWithCache, runs]
  split
  case isTrue same => simp [same, given]
  case isFalse differs => simp [differs, given]

/-- The result is right just if the comparison is sound. -/
theorem comparesWithCache_iff (iaProperty iccid : List UInt8) (request : AttachRequest) :
    ComparesWithCache iaProperty iccid request ↔ ComparisonSound iaProperty iccid request := by
  by_cases given : iaProperty = []
  · refine iff_of_true ⟨0, if_pos given, ?_⟩ (.inl given)
    simp [given]
  by_cases noPassword : request.NoPassword
  · have reference : attachReference iccid request = request.formatted iccid := by
      rw [attachReference, if_pos noPassword]
    have parameter : apnParameter iccid request = sprintf 184 (request.formatted iccid) :=
      if_pos noPassword
    by_cases fits : (request.formatted iccid).length < 184
    · have formats := parameter.trans (if_pos fits)
      rw [comparesWithCache_of_text given formats, reference]
      exact iff_of_true (or_comm.trans (or_congr_right eq_comm)) (.inr (.inl ⟨noPassword, fits⟩))
    · have overflows := parameter.trans (if_neg fits)
      refine iff_of_false ?_ ?_
      · rintro ⟨result, runs, -⟩
        rw [isInitialAttachAPN, if_neg given, overflows] at runs
        cases runs
      · simp [ComparisonSound, given, noPassword, fits]
  · have reference : attachReference iccid request = request.formatted [] := by
      rw [attachReference, if_neg noPassword]
    have formats : apnParameter iccid request = some [] := if_neg noPassword
    have differs : [] ≠ iaProperty := Ne.symm given
    rw [comparesWithCache_of_text given formats, reference]
    simp only [differs, false_or, ComparisonSound, given, noPassword, false_and,
      not_false_eq_true, true_and]
    tauto

end Compare

/-- A request with a password, whose string is what the cache holds -/
def passwordRequest : AttachRequest :=
  ⟨ascii "apn", ascii "IP", 1, ascii "user", some (ascii "secret")⟩

/-- Nothing was formatted to compare the cache with. -/
theorem attach_notFormatted :
    ¬ ComparesWithCache (passwordRequest.formatted []) [] passwordRequest := by
  rintro ⟨result, runs, compares⟩
  have zero : isInitialAttachAPN (passwordRequest.formatted []) [] passwordRequest = some 0 := by
    decide +kernel
  rw [zero] at runs
  cases runs
  have isOne := compares.mpr ⟨by decide +kernel, .inr (by decide +kernel)⟩
  cases isOne

end X3Hal.Ril
