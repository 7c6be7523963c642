import Mathlib.Data.List.TakeWhile
import X3Hal.Memory.Strings

/-!
# The words of a string

`strtok` puts a NUL behind each word of a string, one call for each word.  The words of a text are
its parts between delimiters that are not empty.
-/

namespace X3Hal.Memory

/-- The words of a text -/
def words (delimiter : UInt8) (text : List UInt8) : List (List UInt8) :=
  (text.splitOn delimiter).filter (· ≠ [])

/-- `strtok` with one delimiter, at the place that it keeps: the block, the place that it keeps
next, and the place of the word -/
def strtok (delimiter : UInt8) (block : List UInt8) :
    Option Nat → Option (List UInt8 × Option Nat × Option Nat)
  | none => some (block, none, none)
  | some place => do
      let text ← cString block place
      let before := text.takeWhile (· = delimiter)
      let word := (text.drop before.length).takeWhile (· ≠ delimiter)
      let start := place + before.length
      if word = [] then some (block, none, none)
      else if before.length + word.length = text.length then some (block, none, some start)
      else do
        let block ← store block (start + word.length) [0]
        some (block, some (start + word.length + 1), some start)

section Words

variable {delimiter : UInt8} {word : List UInt8}

theorem words_nil (delimiter : UInt8) : words delimiter [] = [] := by
  rw [words, List.splitOn_nil]
  rfl

/-- Delimiters in front of a text -/
theorem words_replicate_append (count : Nat) (text : List UInt8) :
    words delimiter (List.replicate count delimiter ++ text) = words delimiter text := by
  induction count with
  | zero => rfl
  | succ count ih =>
      have first := List.splitOn_append_cons_self_of_not_mem (@List.not_mem_nil _ delimiter)
        (List.replicate count delimiter ++ text)
      rw [List.nil_append] at first
      rw [List.replicate_succ, List.cons_append, words, first, ← ih]
      rfl

/-- A word at the end of a text -/
theorem words_eq_singleton (some_byte : word ≠ []) (plain : delimiter ∉ word) :
    words delimiter word = [word] := by
  rw [words, List.splitOn_eq_singleton plain]
  simp [some_byte]

/-- A word in front of a text -/
theorem words_append_cons (some_byte : word ≠ []) (plain : delimiter ∉ word) (rest : List UInt8) :
    words delimiter (word ++ delimiter :: rest) = word :: words delimiter rest := by
  rw [words, List.splitOn_append_cons_self_of_not_mem plain]
  simp [some_byte, words]

/-- A text is delimiters, a word that is not empty, and more behind a delimiter. -/
inductive WordSplit (delimiter : UInt8) : List UInt8 → Prop
  | blank (count : Nat) : WordSplit delimiter (List.replicate count delimiter)
  | last (count : Nat) (word : List UInt8) (some_byte : word ≠ []) (plain : delimiter ∉ word) :
      WordSplit delimiter (List.replicate count delimiter ++ word)
  | more (count : Nat) (word rest : List UInt8) (some_byte : word ≠ [])
      (plain : delimiter ∉ word) :
      WordSplit delimiter (List.replicate count delimiter ++ (word ++ delimiter :: rest))

theorem wordSplit (delimiter : UInt8) (text : List UInt8) : WordSplit delimiter text := by
  induction text with
  | nil => exact .blank 0
  | cons byte text ih =>
      by_cases isDelimiter : byte = delimiter
      · subst isDelimiter
        cases ih with
        | blank count => exact .blank (count + 1)
        | last count word some_byte plain => exact .last (count + 1) word some_byte plain
        | more count word rest some_byte plain =>
            exact .more (count + 1) word rest some_byte plain
      · -- The byte is a word of its own in front of a delimiter, and else begins the next word.
        have single : delimiter ∉ [byte] := by
          simpa using Ne.symm isDelimiter
        have extend {word : List UInt8} (plain : delimiter ∉ word) : delimiter ∉ byte :: word := by
          simp [plain, Ne.symm isDelimiter]
        have nonempty (word : List UInt8) : byte :: word ≠ [] := List.cons_ne_nil byte word
        cases ih with
        | blank count =>
            cases count with
            | zero => exact .last 0 [byte] (nonempty []) single
            | succ count => exact .more 0 [byte] _ (nonempty []) single
        | last count word some_byte plain =>
            cases count with
            | zero => exact .last 0 (byte :: word) (nonempty word) (extend plain)
            | succ count => exact .more 0 [byte] _ (nonempty []) single
        | more count word rest some_byte plain =>
            cases count with
            | zero => exact .more 0 (byte :: word) rest (nonempty word) (extend plain)
            | succ count => exact .more 0 [byte] _ (nonempty []) single

end Words

/-! ## Calls of `strtok` -/

section Calls

variable {delimiter : UInt8} {word rest : List UInt8}

theorem takeWhile_replicate_delimiter (count : Nat) (text : List UInt8)
    (other : text.head? ≠ some delimiter) :
    (List.replicate count delimiter ++ text).takeWhile (· = delimiter) =
      List.replicate count delimiter := by
  have each (byte : UInt8) (among : byte ∈ List.replicate count delimiter) :
      decide (byte = delimiter) = true :=
    decide_eq_true (List.eq_of_mem_replicate among)
  rw [List.takeWhile_append_of_pos each]
  cases text with
  | nil => simp
  | cons byte text =>
      have differs : byte ≠ delimiter := fun same => other (congrArg some same)
      simp [differs]

theorem head?_ne_of_not_mem (some_byte : word ≠ []) (plain : delimiter ∉ word)
    (after : List UInt8) : (word ++ after).head? ≠ some delimiter := by
  cases word with
  | nil => exact absurd rfl some_byte
  | cons byte word =>
      intro same
      cases same
      exact plain List.mem_cons_self

theorem takeWhile_word (plain : delimiter ∉ word) (after : List UInt8) :
    (word ++ delimiter :: after).takeWhile (· ≠ delimiter) = word := by
  have each (byte : UInt8) (among : byte ∈ word) : decide (byte ≠ delimiter) = true :=
    decide_eq_true fun same => plain (same ▸ among)
  rw [List.takeWhile_append_of_pos each]
  simp

theorem takeWhile_last_word (plain : delimiter ∉ word) :
    word.takeWhile (· ≠ delimiter) = word := by
  rw [List.takeWhile_eq_self_iff]
  exact fun byte among => decide_eq_true fun same => plain (same ▸ among)

variable (before after : List UInt8) (count : Nat)

theorem strtok_blank (plain : 0 ∉ List.replicate count delimiter) :
    strtok delimiter (before ++ (List.replicate count delimiter ++ 0 :: after))
        (some before.length) =
      some (before ++ (List.replicate count delimiter ++ 0 :: after), none, none) := by
  have blanks := @takeWhile_replicate_delimiter delimiter count [] nofun
  rw [List.append_nil] at blanks
  rw [strtok, cString_split plain]
  simp only [Option.bind_eq_bind, Option.bind_some, blanks, List.length_replicate]
  simp

theorem strtok_last (some_byte : word ≠ []) (plain : delimiter ∉ word)
    (text : 0 ∉ List.replicate count delimiter ++ word) :
    strtok delimiter (before ++ (List.replicate count delimiter ++ word ++ 0 :: after))
        (some before.length) =
      some (before ++ (List.replicate count delimiter ++ word ++ 0 :: after), none,
        some (before.length + count)) := by
  have blanks := takeWhile_replicate_delimiter count word
    (List.append_nil word ▸ head?_ne_of_not_mem some_byte plain [])
  have rest : (List.replicate count delimiter ++ word).drop count = word := by simp
  rw [strtok, cString_split text]
  simp only [Option.bind_eq_bind, Option.bind_some, blanks, List.length_replicate, rest,
    takeWhile_last_word plain, some_byte, if_false, List.length_append, if_true]

theorem strtok_more (some_byte : word ≠ []) (plain : delimiter ∉ word)
    (text : 0 ∉ List.replicate count delimiter ++ (word ++ delimiter :: rest)) :
    strtok delimiter
        (before ++ (List.replicate count delimiter ++ (word ++ delimiter :: rest) ++ 0 :: after))
        (some before.length) =
      some ((before ++ List.replicate count delimiter ++ word ++ [0]) ++ (rest ++ 0 :: after),
        some (before ++ List.replicate count delimiter ++ word ++ [0]).length,
        some (before.length + count)) := by
  have blanks := takeWhile_replicate_delimiter count (word ++ delimiter :: rest)
    (head?_ne_of_not_mem some_byte plain _)
  have dropped : (List.replicate count delimiter ++ (word ++ delimiter :: rest)).drop count =
      word ++ delimiter :: rest := by
    simp
  have stored := @store_split _ [delimiter] [0] rfl
    (before ++ List.replicate count delimiter ++ word) (rest ++ 0 :: after)
  simp only [List.length_append, List.length_replicate, List.append_assoc, List.cons_append,
    List.nil_append, ← Nat.add_assoc] at stored
  rw [strtok, cString_split text]
  simp only [Option.bind_eq_bind, Option.bind_some, blanks, List.length_replicate, dropped,
    takeWhile_word plain, some_byte, if_false, List.length_append, List.length_cons,
    List.append_assoc, List.cons_append, stored]
  rw [if_neg (by omega)]
  simp [Nat.add_assoc]

/-- A string that is read stays when the block grows behind it. -/
theorem cString_append {block text : List UInt8} {offset : Nat}
    (read : cString block offset = some text) (more : List UInt8) :
    cString (block ++ more) offset = some text := by
  have inside := lt_of_cString read
  rw [cString] at read ⊢
  split at read
  case isFalse => cases read
  case isTrue ends =>
    cases read
    have short := length_takeWhile_lt ends
    rw [List.drop_append_of_le_length (by omega), if_pos (List.mem_append_left more ends),
      List.takeWhile_append, if_neg (Nat.ne_of_lt short)]

end Calls

end X3Hal.Memory
