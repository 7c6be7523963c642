import Mathlib.Data.List.Basic
import Mathlib.Tactic.Common

/-!
# Pieces of a stream

A reader with a buffer takes a stream in pieces: each ends at a stop item, or without one where
the buffer is full or the stream ends.  A line that fits the buffer with its stop is one piece.
-/

namespace X3Hal.Stream

universe u

variable {α : Type u} [DecidableEq α] (stop : α) (size : Nat)

/-- The pieces of a stream after a piece that has begun -/
def piecesFrom (held : List α) : List α → List (List α)
  | [] => if held = [] then [] else [held]
  | item :: rest =>
      if item = stop ∨ held.length + 1 = size then (held ++ [item]) :: piecesFrom [] rest
      else piecesFrom (held ++ [item]) rest

/-- The pieces of a stream -/
def pieces (stream : List α) : List (List α) :=
  piecesFrom stop size [] stream

variable {stop size} {body : List α}

theorem flatten_piecesFrom (held stream : List α) :
    (piecesFrom stop size held stream).flatten = held ++ stream := by
  induction stream generalizing held with
  | nil =>
      rw [piecesFrom]
      split
      case isTrue empty => simp [empty]
      case isFalse => simp
  | cons item rest ih =>
      rw [piecesFrom]
      split
      case isTrue => simp [ih]
      case isFalse => simp [ih]

/-- The pieces are all of the stream. -/
theorem flatten_pieces (stream : List α) : (pieces stop size stream).flatten = stream :=
  flatten_piecesFrom [] stream

theorem mem_of_mem_pieces {stream piece : List α} {item : α}
    (among : piece ∈ pieces stop size stream) (occurs : item ∈ piece) : item ∈ stream := by
  have all : (pieces stop size stream).flatten = stream := flatten_pieces stream
  exact all ▸ List.mem_flatten_of_mem among occurs

/-- Items that neither stop nor fill the buffer are held. -/
theorem piecesFrom_append (inLine : stop ∉ body) {held : List α}
    (short : held.length + body.length < size) (rest : List α) :
    piecesFrom stop size held (body ++ rest) = piecesFrom stop size (held ++ body) rest := by
  induction body generalizing held with
  | nil => simp
  | cons item body ih =>
      rw [List.mem_cons, not_or] at inLine
      rw [List.length_cons] at short
      have goesOn : ¬ (item = stop ∨ held.length + 1 = size) := by
        rintro (same | full)
        · exact inLine.1 same.symm
        · omega
      have room : (held ++ [item]).length + body.length < size := by
        rw [List.length_append, List.length_singleton]
        omega
      rw [List.cons_append, piecesFrom, if_neg goesOn, ih inLine.2 room, List.append_assoc,
        List.singleton_append]

theorem pieces_line (inLine : stop ∉ body) (short : body.length < size) (rest : List α) :
    pieces stop size (body ++ stop :: rest) = (body ++ [stop]) :: pieces stop size rest := by
  rw [pieces, piecesFrom_append inLine (by simpa using short), List.nil_append, piecesFrom,
    if_pos (.inl rfl), pieces]

theorem pieces_last (inLine : stop ∉ body) (short : body.length < size) :
    pieces stop size body = if body = [] then [] else [body] := by
  have held : piecesFrom stop size [] (body ++ []) = piecesFrom stop size ([] ++ body) [] :=
    piecesFrom_append inLine (by simpa using short) []
  rw [List.append_nil, List.nil_append] at held
  rw [pieces, held, piecesFrom]

/-! ## Long lines -/

omit [DecidableEq α] in
/-- A list is shorter than the size, or begins with a block of the size. -/
theorem blocks_induction {size : Nat} (some_room : 0 < size) {P : List α → Prop}
    (short : ∀ body : List α, body.length < size → P body)
    (block : ∀ first rest : List α, first.length = size → P rest → P (first ++ rest))
    (body : List α) : P body := by
  induction length : body.length using Nat.strongRecOn generalizing body with
  | ind count ih =>
      by_cases fits : body.length < size
      · exact short body fits
      · rw [← List.take_append_drop size body]
        apply block
        · rw [List.length_take]
          omega
        · exact ih (body.drop size).length (by rw [List.length_drop]; omega) _ rfl

/-- A full buffer is a piece. -/
theorem pieces_block {block : List α} (some_room : 0 < size) (inLine : stop ∉ block)
    (full : block.length = size) (rest : List α) :
    pieces stop size (block ++ rest) = block :: pieces stop size rest := by
  obtain ⟨front, last, rfl⟩ : ∃ front last, block = front ++ [last] := by
    have nonempty : block ≠ [] := by
      rintro rfl
      exact Nat.ne_of_lt some_room full
    exact ⟨_, _, (List.dropLast_append_getLast nonempty).symm⟩
  rw [List.length_append, List.length_singleton] at full
  have inFront : stop ∉ front := fun among => inLine (List.mem_append_left _ among)
  rw [pieces, List.append_assoc, piecesFrom_append inFront (by simp only [List.length_nil]; omega),
    List.nil_append, List.singleton_append, piecesFrom, if_pos (.inr full), pieces]

/-- The pieces of a line are those of the stream up to its stop. -/
theorem pieces_append_stop (some_room : 0 < size) (inLine : stop ∉ body) (rest : List α) :
    pieces stop size (body ++ stop :: rest) =
      pieces stop size (body ++ [stop]) ++ pieces stop size rest := by
  induction body using blocks_induction some_room with
  | short body fits =>
      rw [pieces_line inLine fits, pieces_line inLine fits]
      rfl
  | block first more full ih =>
      rw [List.mem_append, not_or] at inLine
      rw [List.append_assoc, List.append_assoc, pieces_block some_room inLine.1 full,
        pieces_block some_room inLine.1 full, ih inLine.2, List.cons_append]

theorem length_pieces_stop (some_room : 0 < size) (inLine : stop ∉ body) :
    (pieces stop size (body ++ [stop])).length = body.length / size + 1 := by
  induction body using blocks_induction some_room with
  | short body fits =>
      rw [pieces_line inLine fits, Nat.div_eq_of_lt fits]
      rfl
  | block first more full ih =>
      rw [List.mem_append, not_or] at inLine
      rw [List.append_assoc, pieces_block some_room inLine.1 full, List.length_cons, ih inLine.2,
        List.length_append, full, Nat.add_div_left _ some_room]

theorem length_pieces (some_room : 0 < size) (inLine : stop ∉ body) :
    (pieces stop size body).length = (body.length + size - 1) / size := by
  induction body using blocks_induction some_room with
  | short body fits =>
      rw [pieces_last inLine fits]
      split
      case isTrue empty =>
        rw [empty, List.length_nil, List.length_nil, Nat.zero_add,
          Nat.div_eq_of_lt (Nat.sub_lt some_room Nat.one_pos)]
      case isFalse nonempty =>
        have more := List.length_pos_of_ne_nil nonempty
        rw [show body.length + size - 1 = body.length - 1 + size by omega,
          Nat.add_div_right _ some_room, Nat.div_eq_of_lt (by omega)]
        rfl
  | block first more full ih =>
      rw [List.mem_append, not_or] at inLine
      rw [pieces_block some_room inLine.1 full, List.length_cons, ih inLine.2, List.length_append,
        full, show size + more.length + size - 1 = more.length + size - 1 + size by omega,
        Nat.add_div_right _ some_room]

end X3Hal.Stream
