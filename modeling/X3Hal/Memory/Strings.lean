import X3Hal.Memory.Numbers

/-!
# Strings in a block of bytes

A string goes up to a NUL.  A block whose last byte is a NUL has a string at each of its places,
and it keeps one when NULs are stored in it.
-/

namespace X3Hal.Memory

/-- The bytes of a literal -/
def ascii (text : String) : List UInt8 :=
  text.toList.map fun char => UInt8.ofNat char.toNat

/-- What is decided for 256 numbers holds of all bytes. -/
theorem forall_byte {property : UInt8 → Prop}
    (holds : ∀ number : Fin 256, property (.ofFin number))
    (byte : UInt8) : property byte :=
  holds byte.toFin

/-- The place of a byte in a string -/
def strchr (block : List UInt8) (offset : Nat) (byte : UInt8) : Option (Option Nat) := do
  let text ← cString block offset
  some (if byte ∈ text then some (offset + text.idxOf byte) else none)

/-- The place of a string in a string -/
def strstr (block : List UInt8) (offset : Nat) (word : List UInt8) : Option (Option Nat) := do
  let text ← cString block offset
  some ((text.tails.findIdx? word.isPrefixOf).map (offset + ·))

/-- A string cut to a size, with its NUL -/
def snprintf (block : List UInt8) (offset size : Nat) (text : List UInt8) :
    Option (List UInt8) :=
  if size = 0 then some block else store block offset (text.take (size - 1) ++ [0])

/-- `strncpy` into a block of some size: the string is cut to it, or NULs are put behind it. -/
def strncpy (size : Nat) (src : List UInt8) : List UInt8 :=
  let text := (src.takeWhile fun byte => byte ≠ 0).take size
  text ++ List.replicate (size - text.length) 0

theorem length_strncpy (size : Nat) (src : List UInt8) : (strncpy size src).length = size := by
  rw [strncpy, List.length_append, List.length_replicate, List.length_take]
  omega

/-- The last byte is a NUL. -/
def Terminated (block : List UInt8) : Prop :=
  ∃ before, block = before ++ [0]

section Block

variable {block next : List UInt8} {offset size : Nat}

theorem Terminated.mem_drop (terminated : Terminated block) (inside : offset < block.length) :
    0 ∈ block.drop offset := by
  obtain ⟨before, rfl⟩ := terminated
  rw [List.length_append, List.length_singleton, Nat.lt_succ_iff] at inside
  rw [List.drop_append_of_le_length inside]
  exact List.mem_append_right _ (List.mem_singleton_self 0)

theorem Terminated.pos (terminated : Terminated block) : 0 < block.length := by
  obtain ⟨before, rfl⟩ := terminated
  simp

/-- A string, and a NUL behind it -/
theorem Terminated.cString_eq (terminated : Terminated block) (inside : offset < block.length) :
    cString block offset = some ((block.drop offset).takeWhile (· ≠ 0)) :=
  if_pos (terminated.mem_drop inside)

theorem length_takeWhile_lt (ends : 0 ∈ block) :
    (block.takeWhile (· ≠ 0)).length < block.length := by
  induction block with
  | nil => cases ends
  | cons byte block ih =>
      by_cases isNul : byte = 0
      · simp [isNul]
      · have later : 0 ∈ block := (List.mem_cons.mp ends).resolve_left (Ne.symm isNul)
        simpa [isNul] using ih later

theorem lt_of_cString {text : List UInt8} (read : cString block offset = some text) :
    offset + text.length < block.length := by
  rw [cString] at read
  split at read
  case isTrue ends =>
    cases read
    have within := length_takeWhile_lt ends
    rw [List.length_drop] at within
    omega
  case isFalse => cases read

theorem lt_of_strchr {byte : UInt8} {place : Nat}
    (found : strchr block offset byte = some (some place)) :
    offset ≤ place ∧ place + 1 < block.length := by
  obtain ⟨text, read, chosen⟩ := Option.bind_eq_some_iff.mp found
  split at chosen
  case isTrue occurs =>
    cases chosen
    have within := lt_of_cString read
    have index := List.idxOf_lt_length_of_mem occurs
    omega
  case isFalse => cases chosen

theorem strchr_isSome (terminated : Terminated block) (inside : offset < block.length)
    (byte : UInt8) : (strchr block offset byte).isSome := by
  rw [strchr, terminated.cString_eq inside]
  rfl

theorem strstr_isSome (terminated : Terminated block) (inside : offset < block.length)
    (word : List UInt8) : (strstr block offset word).isSome := by
  rw [strstr, terminated.cString_eq inside]
  rfl

theorem Terminated.set (terminated : Terminated block) (offset : Nat) :
    Terminated (block.set offset 0) := by
  obtain ⟨before, rfl⟩ := terminated
  by_cases inside : offset < before.length
  · exact ⟨before.set offset 0, by rw [List.set_append_left _ _ inside]⟩
  · refine ⟨before, ?_⟩
    rw [List.set_append_right _ _ (Nat.le_of_not_lt inside)]
    cases offset - before.length <;> rfl

/-- A NUL before a string does not change it. -/
theorem cString_set {place : Nat} (before : place < offset) :
    cString (block.set place 0) offset = cString block offset := by
  rw [cString, cString, List.drop_set_of_lt before]

theorem store_nul_eq (inside : offset < block.length) :
    store block offset [0] = some (block.set offset 0) := by
  rw [store, List.length_singleton, if_pos (Nat.succ_le_of_lt inside),
    List.set_eq_take_append_cons_drop, if_pos inside]
  rfl

theorem snprintf_isSome (text : List UInt8) (inside : offset + size ≤ block.length) :
    (snprintf block offset size text).isSome := by
  rw [snprintf]
  split
  · rfl
  · rw [store_isSome_iff, List.length_append, List.length_take, List.length_singleton]
    omega

theorem length_of_snprintf {text : List UInt8}
    (printed : snprintf block offset size text = some next) : next.length = block.length := by
  rw [snprintf] at printed
  split at printed
  · cases printed
    rfl
  · exact length_of_store printed

/-- What is printed is a string. -/
theorem nul_mem_of_snprintf {text : List UInt8} (room : size ≠ 0)
    (printed : snprintf block offset size text = some next) : 0 ∈ next.drop offset := by
  rw [snprintf, if_neg room, store] at printed
  split at printed
  case isTrue inside =>
    cases printed
    have start : (block.take offset).length = offset := by
      rw [List.length_take]
      omega
    rw [List.drop_append_of_le_length (by omega), List.drop_of_length_le (by omega)]
    simp
  case isFalse => cases printed

end Block

section Text

variable {text : List UInt8} {offset : Nat}

theorem terminated_text (text : List UInt8) : Terminated (text ++ [0]) :=
  ⟨text, rfl⟩

theorem takeWhile_append_plain (plain : 0 ∉ text) (after : List UInt8) :
    (text ++ after).takeWhile (· ≠ 0) = text ++ after.takeWhile (· ≠ 0) :=
  List.takeWhile_append_of_pos fun _ among =>
    decide_eq_true fun isZero => plain (isZero ▸ among)

/-- The text in front of NULs, or of none -/
theorem takeWhile_append_replicate (plain : 0 ∉ text) (count : Nat) :
    (text ++ List.replicate count 0).takeWhile (· ≠ 0) = text := by
  rw [takeWhile_append_plain plain]
  simp

theorem takeWhile_nul (plain : 0 ∉ text) (after : List UInt8) :
    (text ++ 0 :: after).takeWhile (· ≠ 0) = text := by
  rw [takeWhile_append_plain plain]
  simp

theorem takeWhile_text (plain : 0 ∉ text) : (text ++ [0]).takeWhile (· ≠ 0) = text :=
  takeWhile_nul plain []

/-- The text of a string from one of its places on -/
theorem cString_text (plain : 0 ∉ text) (inside : offset ≤ text.length) :
    cString (text ++ [0]) offset = some (text.drop offset) := by
  have bound : offset < (text ++ [0]).length := by
    rw [List.length_append, List.length_singleton]
    omega
  rw [(terminated_text text).cString_eq bound, List.drop_append_of_le_length inside,
    takeWhile_text fun occurs => plain (List.mem_of_mem_drop occurs)]

/-- A string with anything before and behind it -/
theorem cString_split (plain : 0 ∉ text) (before after : List UInt8) :
    cString (before ++ (text ++ 0 :: after)) before.length = some text := by
  rw [cString, List.drop_left, if_pos (by simp), takeWhile_nul plain]

end Text

/-- A NUL behind bytes ends them. -/
theorem takeWhile_append_nul (bytes after : List UInt8) :
    (bytes ++ 0 :: after).takeWhile (· ≠ 0) = bytes.takeWhile (· ≠ 0) := by
  induction bytes with
  | nil => simp
  | cons byte bytes ih =>
      by_cases nul : byte = 0
      · simp [nul]
      · simpa [nul] using ih

/-- Bytes with a NUL behind them are a string up to the first NUL among them. -/
theorem cString_cut (before bytes after : List UInt8) :
    cString (before ++ (bytes ++ 0 :: after)) before.length = some (bytes.takeWhile (· ≠ 0)) := by
  rw [cString, List.drop_left, if_pos (by simp), takeWhile_append_nul]

end X3Hal.Memory
