import X3Hal.Memory.Strings

/-!
# The tokens of a command

`tokenize_space` puts a NUL in place of each blank and each line feed of a command, and keeps
where the tokens begin.  It does not know the size of the array that it keeps them in, and the
length that it is told is an `int`.
-/

namespace X3Hal.Wpa

open X3Hal.Memory

/-- A byte between tokens -/
def isBlank (byte : UInt8) : Bool :=
  byte = 10 ∨ byte = 32

/-- The inner loop of `tokenize_space` -/
def skipToken (cmd : List UInt8) (len : Int) : Nat → Nat → Option Nat
  | 0, _ => none
  | fuel + 1, pos => do
      let byte ← cmd[pos]?
      if isBlank byte ∨ byte = 0 then some pos
      else if len ≤ pos + 1 then some (pos + 1)
      else skipToken cmd len fuel (pos + 1)

/-- The loop of `tokenize_space`, into an array of `argvSize` places -/
def tokens (argvSize : Nat) (len : Int) : Nat → Nat → List UInt8 → List Nat →
    Option (List UInt8 × List Nat)
  | 0, _, _, _ => none
  | fuel + 1, pos, cmd, argv =>
      if argv.length < argvSize then do
        let next ← skipToken cmd len cmd.length pos
        let byte ← cmd[next]?
        if byte = 0 then some (cmd, argv ++ [pos])
        else if isBlank byte then do
          let cmd ← store cmd next [0]
          if len ≤ next + 1 then some (cmd, argv ++ [pos])
          else tokens argvSize len fuel (next + 1) cmd (argv ++ [pos])
        else tokens argvSize len fuel next cmd (argv ++ [pos])
      else none

/-- `tokenize_space`: the command afterwards, and `argv` -/
def tokenizeSpace (cmd : List UInt8) (argvSize : Nat) (len : Int) :
    Option (List UInt8 × List Nat) :=
  tokens argvSize len cmd.length 0 cmd []

/-- The tokens from one that begins a text on; the text's end is `len` bytes away. -/
def tokensFrom : Int → List UInt8 → Nat
  | _, [] => 1
  | len, byte :: text =>
      if isBlank byte then
        if len ≤ 1 then 1 else tokensFrom (len - 1) text + 1
      else if len ≤ 1 then
        if text.head?.all isBlank then 1 else tokensFrom (len - 1) text + 1
      else tokensFrom (len - 1) text

/-- One token, one more behind each blank before the last byte, and one for each byte beyond
`len` up to a blank -/
def tokenCount (len : Int) (text : List UInt8) : Nat :=
  let last := (max len 1).toNat - 1
  1 + (text.take last).countP isBlank +
    if text[last]?.any isBlank then 0
    else ((text.drop (last + 1)).takeWhile fun byte => !isBlank byte).length

theorem tokensFrom_eq (len : Int) (text : List UInt8) :
    tokensFrom len text = tokenCount len text := by
  induction text generalizing len with
  | nil => simp [tokensFrom, tokenCount]
  | cons byte text ih =>
      rw [tokensFrom, ih]
      by_cases near : len ≤ 1
      · have last : (max len 1).toNat - 1 = 0 := by omega
        have lastNext : (max (len - 1) 1).toNat - 1 = 0 := by omega
        cases text with
        | nil => simp [tokenCount, near]
        | cons next text =>
            simp only [tokenCount, near, last, lastNext]
            by_cases blank : isBlank byte <;> by_cases blankNext : isBlank next <;>
              simp [blank, blankNext]
            omega
      · obtain ⟨more, isMore⟩ : ∃ more, (max len 1).toNat - 1 = more + 1 :=
          ⟨len.toNat - 2, by omega⟩
        have lastNext : (max (len - 1) 1).toNat - 1 = more := by omega
        simp only [tokenCount, near, isMore, lastNext]
        by_cases blank : isBlank byte <;> simp [blank]
        omega

section Run

variable {cmd text : List UInt8} {pos : Nat}

/-- What lies ahead of a place of a command: a text, and the NUL behind it -/
structure Ahead (cmd : List UInt8) (pos : Nat) (text : List UInt8) : Prop where
  drop : cmd.drop pos = text ++ [0]
  plain : 0 ∉ text

theorem Ahead.length (ahead : Ahead cmd pos text) : pos + text.length + 1 = cmd.length := by
  have length := congrArg List.length ahead.drop
  rw [List.length_drop, List.length_append, List.length_singleton] at length
  omega

theorem Ahead.byte (ahead : Ahead cmd pos text) : cmd[pos]? = some (text.headD 0) := by
  have head := congrArg List.head? ahead.drop
  rw [List.head?_drop] at head
  rw [head]
  cases text <;> rfl

theorem Ahead.advance {byte : UInt8} (ahead : Ahead cmd pos (byte :: text)) :
    Ahead cmd (pos + 1) text := by
  constructor
  · rw [← List.drop_drop, ahead.drop]
    rfl
  · exact fun occurs => ahead.plain (List.mem_cons_of_mem byte occurs)

/-- A NUL behind what lies ahead -/
theorem Ahead.set {place : Nat} (ahead : Ahead cmd pos text) (before : place < pos) :
    Ahead (cmd.set place 0) pos text := by
  constructor
  · rw [List.drop_set_of_lt before, ahead.drop]
  · exact ahead.plain

/-- Where the inner loop ends: at the end of the token, or behind `len` in the middle of it. -/
theorem skipToken_spec (len : Int) {fuel : Nat} (ahead : Ahead cmd pos text)
    (enough : text.length < fuel) :
    ∃ next rest, skipToken cmd len fuel pos = some next ∧ Ahead cmd next rest ∧
      pos ≤ next ∧
      ((tokensFrom (len - pos) text = tokensFrom (len - next) rest ∧
          rest.head?.all isBlank = true) ∨
        pos < next ∧ len ≤ next ∧ tokensFrom (len - pos) text =
          if rest.head?.all isBlank then 1 else tokensFrom (len - next) rest + 1) := by
  induction text generalizing pos fuel with
  | nil =>
      obtain ⟨fuel, rfl⟩ := Nat.exists_eq_succ_of_ne_zero (Nat.ne_zero_of_lt enough)
      refine ⟨pos, [], ?_, ahead, Nat.le_refl pos, Or.inl ⟨rfl, rfl⟩⟩
      rw [skipToken, ahead.byte]
      rfl
  | cons byte text ih =>
      obtain ⟨fuel, rfl⟩ := Nat.exists_eq_succ_of_ne_zero (Nat.ne_zero_of_lt enough)
      have other : byte ≠ 0 := fun isNul => ahead.plain (isNul ▸ List.mem_cons_self)
      have step : skipToken cmd len (fuel + 1) pos =
          if isBlank byte then some pos
          else if len ≤ pos + 1 then some (pos + 1) else skipToken cmd len fuel (pos + 1) := by
        rw [skipToken, ahead.byte]
        simp [other]
      rw [step]
      by_cases blank : isBlank byte
      · refine ⟨pos, byte :: text, if_pos blank, ahead, Nat.le_refl pos, Or.inl ⟨rfl, ?_⟩⟩
        exact blank
      rw [if_neg blank]
      have cast : len - (pos : Int) - 1 = len - ((pos + 1 : Nat) : Int) := by omega
      by_cases near : len ≤ pos + 1
      · refine ⟨pos + 1, text, if_pos near, ahead.advance, by omega, Or.inr ⟨by omega, ?_, ?_⟩⟩
        · exact_mod_cast near
        · rw [tokensFrom, if_neg blank, if_pos (by omega), cast]
      · rw [if_neg near]
        obtain ⟨next, rest, skipped, aheadNext, later, ends⟩ :=
          ih ahead.advance (Nat.lt_of_succ_lt_succ enough)
        have same : tokensFrom (len - pos) (byte :: text) =
            tokensFrom (len - ((pos + 1 : Nat) : Int)) text := by
          rw [tokensFrom, if_neg blank, if_neg (by omega), cast]
        rw [same]
        refine ⟨next, rest, skipped, aheadNext, by omega, ?_⟩
        rcases ends with atEnd | ⟨_, beyond, counted⟩
        · exact Or.inl atEnd
        · exact Or.inr ⟨by omega, beyond, counted⟩

/-- What `tokenize_space` leaves: a string of the same size, and places in it -/
structure Tokenized (cmd : List UInt8) (count : Nat) (result : List UInt8 × List Nat) : Prop where
  size : result.1.length = cmd.length
  terminated : Terminated result.1
  argc : result.2.length = count
  inside : ∀ place ∈ result.2, place < cmd.length

theorem Tokenized.congr {other : List UInt8} {count : Nat} {result : List UInt8 × List Nat}
    (tokenized : Tokenized other count result) (same : other.length = cmd.length) :
    Tokenized cmd count result where
  size := tokenized.size.trans same
  terminated := tokenized.terminated
  argc := tokenized.argc
  inside := fun place occurs => same ▸ tokenized.inside place occurs

/-- What the outer loop does when the inner one has ended. -/
theorem tokens_step {argvSize fuel next : Nat} {len : Int} {argv : List Nat}
    (room : argv.length < argvSize) (skipped : skipToken cmd len cmd.length pos = some next)
    (ahead : Ahead cmd next text) :
    tokens argvSize len (fuel + 1) pos cmd argv =
      if text.headD 0 = 0 then some (cmd, argv ++ [pos])
      else if isBlank (text.headD 0) then
        if len ≤ next + 1 then some (cmd.set next 0, argv ++ [pos])
        else tokens argvSize len fuel (next + 1) (cmd.set next 0) (argv ++ [pos])
      else tokens argvSize len fuel next cmd (argv ++ [pos]) := by
  have inside : next < cmd.length := by
    have bound := ahead.length
    omega
  rw [tokens, if_pos room, skipped]
  simp only [Option.bind_eq_bind, Option.bind_some, ahead.byte, store_nul_eq inside]

/-- The loop goes through when the array has a place for each token that is left. -/
theorem tokens_spec {argvSize fuel : Nat} {len : Int} {argv : List Nat}
    (ahead : Ahead cmd pos text) (terminated : Terminated cmd) (enough : text.length < fuel)
    (inside : ∀ place ∈ argv, place < cmd.length) :
    if argv.length + tokensFrom (len - pos) text ≤ argvSize then
      ∃ result, tokens argvSize len fuel pos cmd argv = some result ∧
        Tokenized cmd (argv.length + tokensFrom (len - pos) text) result
    else tokens argvSize len fuel pos cmd argv = none := by
  induction fuel generalizing pos text cmd argv with
  | zero => cases enough
  | succ fuel ih =>
      by_cases room : argv.length < argvSize
      swap
      · have atLeast : 0 < tokensFrom (len - pos) text := by
          rw [tokensFrom_eq, tokenCount]
          omega
        rw [if_neg (by omega), tokens, if_neg room]
      have bound := ahead.length
      have insideNext : ∀ place ∈ argv ++ [pos], place < cmd.length := by
        intro place occurs
        rcases List.mem_append.mp occurs with before | last
        · exact inside place before
        · rw [List.mem_singleton.mp last]
          omega
      have counted : (argv ++ [pos]).length = argv.length + 1 := List.length_append
      obtain ⟨next, rest, skipped, aheadNext, later, ends⟩ :=
        skipToken_spec len ahead (show text.length < cmd.length by omega)
      have boundNext := aheadNext.length
      rw [tokens_step room skipped aheadNext]
      -- a loop that ends here has taken one more token
      have done (last : List UInt8) (same : last.length = cmd.length) (ended : Terminated last)
          (one : tokensFrom (len - pos) text = 1) :
          if argv.length + tokensFrom (len - pos) text ≤ argvSize then
            ∃ result, some (last, argv ++ [pos]) = some result ∧
              Tokenized cmd (argv.length + tokensFrom (len - pos) text) result
          else some (last, argv ++ [pos]) = none := by
        rw [one, if_pos (by omega)]
        exact ⟨_, rfl, same, ended, counted, insideNext⟩
      cases rest with
      | nil =>
          rw [if_pos (show ([] : List UInt8).headD 0 = 0 from rfl)]
          apply done cmd rfl terminated
          rcases ends with ⟨same, _⟩ | ⟨_, _, same⟩
          · exact same
          · exact same
      | cons byte rest =>
          have other : byte ≠ 0 := fun isNul => aheadNext.plain (isNul ▸ List.mem_cons_self)
          rw [List.headD_cons, if_neg other]
          by_cases blank : isBlank byte
          · rw [if_pos blank]
            have after : (cmd.set next 0).length = cmd.length := List.length_set
            by_cases near : len ≤ next + 1
            · rw [if_pos near]
              apply done _ after (terminated.set next)
              rcases ends with ⟨same, _⟩ | ⟨_, _, same⟩
              · rw [same, tokensFrom, if_pos blank, if_pos (by omega)]
              · rw [same]
                exact if_pos blank
            · rw [if_neg near]
              have more : tokensFrom (len - pos) text =
                  tokensFrom (len - ((next + 1 : Nat) : Int)) rest + 1 := by
                rcases ends with ⟨same, _⟩ | ⟨_, beyond, _⟩
                · have cast : len - (next : Int) - 1 = len - ((next + 1 : Nat) : Int) := by omega
                  rw [same, tokensFrom, if_pos blank, if_neg (by omega), cast]
                · omega
              have rest := ih (aheadNext.advance.set (Nat.lt_succ_self next)) (terminated.set next)
                (by rw [List.length_cons] at boundNext; omega) (after.symm ▸ insideNext)
              rw [counted, Nat.add_assoc, Nat.add_comm 1, ← more] at rest
              split at rest
              case isTrue fits =>
                obtain ⟨result, ran, tokenized⟩ := rest
                rw [if_pos fits]
                exact ⟨result, ran, tokenized.congr after⟩
              case isFalse full =>
                rw [if_neg full]
                exact rest
          · rw [if_neg blank]
            rcases ends with ⟨_, atEnd⟩ | ⟨moved, _, same⟩
            · exact absurd atEnd blank
            have more :
                tokensFrom (len - pos) text = tokensFrom (len - next) (byte :: rest) + 1 := by
              rw [same]
              exact if_neg blank
            have rest := ih aheadNext terminated (by omega) insideNext
            rw [counted, Nat.add_assoc, Nat.add_comm 1, ← more] at rest
            exact rest

/-- `tokenize_space` on a string and its length -/
theorem tokenizeSpace_spec (argvSize : Nat) (len : Int) (plain : 0 ∉ text) :
    if tokenCount len text ≤ argvSize then
      ∃ result, tokenizeSpace (text ++ [0]) argvSize len = some result ∧
        Tokenized (text ++ [0]) (tokenCount len text) result
    else tokenizeSpace (text ++ [0]) argvSize len = none := by
  have enough : text.length < (text ++ [0]).length := by
    rw [List.length_append]
    exact Nat.lt_succ_self _
  have spec : if ([] : List Nat).length + tokensFrom (len - (0 : Nat)) text ≤ argvSize then
      ∃ result, tokenizeSpace (text ++ [0]) argvSize len = some result ∧
        Tokenized (text ++ [0]) (([] : List Nat).length + tokensFrom (len - (0 : Nat)) text) result
      else tokenizeSpace (text ++ [0]) argvSize len = none :=
    tokens_spec ⟨rfl, plain⟩ (terminated_text text) enough nofun
  rw [List.length_nil, Nat.zero_add, Int.natCast_zero, Int.sub_zero, tokensFrom_eq] at spec
  exact spec

end Run

end X3Hal.Wpa
