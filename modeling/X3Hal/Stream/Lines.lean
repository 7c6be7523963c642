import Mathlib.Algebra.Ring.Parity
import Mathlib.Data.List.DropRight

/-!
# Lines of a stream

The complete lines of a stream are the parts that end at a stop item.  A line buffer
of fixed size takes the stream item by item, hands on the lines that fit, and skips
to the next stop when it is full; an item that arrives at a full buffer is not looked
at, so a line that fills the buffer exactly swallows the line after it.
-/

namespace X3Hal.Stream

universe u

/-! ## Items that swallow the next one -/

section Survivors

variable {α : Type u} (arm keep : α → Bool)

/-- The items that are left when every armed item that is left swallows the next one. -/
def survivors : Bool → List α → List α
  | _, [] => []
  | true, _ :: rest => survivors false rest
  | false, item :: rest => item :: survivors (arm item) rest

/-- Whether the item after these ones is swallowed. -/
def swallowing (start : Bool) (items : List α) : Bool :=
  items.foldl (fun swallow item => !swallow && arm item) start

theorem survivors_sublist (start : Bool) (items : List α) :
    (survivors arm start items).Sublist items := by
  induction items generalizing start with
  | nil => exact List.Sublist.refl []
  | cons item rest ih =>
      cases start with
      | true => exact (ih false).cons item
      | false => exact (ih (arm item)).cons_cons item

private theorem swallowing_concat (start : Bool) (items : List α) (item : α) :
    swallowing arm start (items ++ [item]) = (!swallowing arm start items && arm item) := by
  simp [swallowing]

theorem swallowing_eq_odd (items : List α) :
    swallowing arm false items = decide (Odd (items.rtakeWhile arm).length) := by
  induction items using List.reverseRecOn with
  | nil => rfl
  | append_singleton items item ih =>
      rw [swallowing_concat, ih, List.rtakeWhile_concat]
      cases armed : arm item with
      | true => simp [Nat.odd_add_one, -Nat.not_odd_iff_even]
      | false => simp

/-- Nothing kept is swallowed exactly when no kept item stands where the one before it
swallows. -/
theorem filter_survivors_eq_iff (start : Bool) (items : List α) :
    (survivors arm start items).filter keep = items.filter keep ↔
      ∀ before item after, items = before ++ item :: after → keep item →
        swallowing arm start before = false := by
  induction items generalizing start with
  | nil => simp [survivors]
  | cons first rest ih =>
      -- an item of `first :: rest` is `first` itself or an item of `rest`
      have split : (∀ before item after, first :: rest = before ++ item :: after → keep item →
            swallowing arm start before = false) ↔
          (keep first → start = false) ∧
            ∀ before item after, rest = before ++ item :: after → keep item →
              swallowing arm (!start && arm first) before = false := by
        constructor
        · intro all
          exact ⟨fun kept => all [] first rest rfl kept,
            fun before item after equal kept =>
              all (first :: before) item after (by rw [equal]; rfl) kept⟩
        · rintro ⟨head, tail⟩ before item after equal kept
          cases before with
          | nil =>
              obtain ⟨rfl, rfl⟩ := List.cons.inj equal
              exact head kept
          | cons _ before =>
              obtain ⟨rfl, inRest⟩ := List.cons.inj equal
              exact tail before item after inRest kept
      rw [split]
      cases start with
      | false =>
          simp only [survivors, Bool.not_false, Bool.true_and, implies_true, true_and]
          rw [← ih (arm first)]
          cases kept : keep first with
          | true => simp [kept]
          | false => simp [kept]
      | true =>
          simp only [survivors, Bool.not_true, Bool.false_and, Bool.true_eq_false, imp_false,
            Bool.not_eq_true]
          rw [← ih false]
          cases kept : keep first with
          | true =>
              have shorter := ((survivors_sublist arm false rest).filter keep).length_le
              simp only [Bool.true_eq_false, false_and, iff_false]
              intro equal
              rw [equal, List.filter_cons_of_pos kept, List.length_cons] at shorter
              omega
          | false => simp [kept]

/-- No kept item is directly preceded by an odd run of armed ones. -/
def EvenRuns (items : List α) : Prop :=
  ∀ before item after, items = before ++ item :: after → keep item →
    Even (before.rtakeWhile arm).length

theorem filter_survivors_eq_iff_evenRuns (items : List α) :
    (survivors arm false items).filter keep = items.filter keep ↔ EvenRuns arm keep items := by
  rw [filter_survivors_eq_iff]
  simp only [swallowing_eq_odd, decide_eq_false_iff_not, Nat.not_odd_iff_even]
  exact Iff.rfl

theorem evenRuns_of_not_armed {items : List α} (none : ∀ item ∈ items, arm item = false) :
    EvenRuns arm keep items := by
  rintro before item after rfl -
  have noRun : before.rtakeWhile arm = [] := by
    rw [List.rtakeWhile_eq_nil_iff]
    intro notNil
    simp [none (before.getLast notNil) (List.mem_append_left _ (before.getLast_mem notNil))]
  simp [noRun]

end Survivors

/-! ## Lines -/

section Lines

variable {α : Type u} [DecidableEq α] (stop : α)

/-- The complete lines of a stream, each with its stop, after a line that has begun. -/
def linesFrom (held : List α) : List α → List (List α)
  | [] => []
  | item :: rest =>
      if item = stop then (held ++ [item]) :: linesFrom [] rest
      else linesFrom (held ++ [item]) rest

/-- The complete lines of a stream, each with its stop. -/
def lines (stream : List α) : List (List α) :=
  linesFrom stop [] stream

/-- The line that a stream ends in before its stop, after a line that has begun. -/
def unfinishedFrom (held : List α) : List α → List α
  | [] => held
  | item :: rest =>
      if item = stop then unfinishedFrom [] rest else unfinishedFrom (held ++ [item]) rest

/-- The line that a stream ends in before its stop. -/
def unfinished (stream : List α) : List α :=
  unfinishedFrom stop [] stream

variable {stop}

theorem linesFrom_append (held stream more : List α) :
    linesFrom stop held (stream ++ more) =
      linesFrom stop held stream ++ linesFrom stop (unfinishedFrom stop held stream) more := by
  induction stream generalizing held with
  | nil => rfl
  | cons item rest ih =>
      rw [List.cons_append, linesFrom, linesFrom, unfinishedFrom]
      split
      case isTrue _ => rw [ih, List.cons_append]
      case isFalse _ => rw [ih]

theorem unfinishedFrom_append (held stream more : List α) :
    unfinishedFrom stop held (stream ++ more) =
      unfinishedFrom stop (unfinishedFrom stop held stream) more := by
  induction stream generalizing held with
  | nil => rfl
  | cons item rest ih =>
      rw [List.cons_append, unfinishedFrom, unfinishedFrom]
      split
      case isTrue _ => exact ih []
      case isFalse _ => exact ih _

theorem linesFrom_of_notMem {stream : List α} (unfinished : stop ∉ stream) (held : List α) :
    linesFrom stop held stream = [] := by
  induction stream generalizing held with
  | nil => rfl
  | cons item rest ih =>
      rw [List.mem_cons, not_or] at unfinished
      rw [linesFrom, if_neg (Ne.symm unfinished.1)]
      exact ih unfinished.2 _

theorem linesFrom_append_stop {body : List α} (inLine : stop ∉ body) (held rest : List α) :
    linesFrom stop held (body ++ stop :: rest) =
      (held ++ body ++ [stop]) :: linesFrom stop [] rest := by
  induction body generalizing held with
  | nil => simp [linesFrom]
  | cons item body ih =>
      rw [List.mem_cons, not_or] at inLine
      rw [List.cons_append, linesFrom, if_neg (Ne.symm inLine.1), ih inLine.2]
      simp

/-- A stream is an unfinished line, or a line and a stream after it. -/
theorem stream_induction (stop : α) {P : List α → Prop}
    (unfinished : ∀ body, stop ∉ body → P body)
    (line : ∀ body rest, stop ∉ body → P rest → P (body ++ stop :: rest))
    (stream : List α) : P stream := by
  by_cases ends : stop ∈ stream
  · obtain ⟨body, rest, rfl, inLine⟩ := List.eq_append_cons_of_mem ends
    exact line body rest inLine (stream_induction stop unfinished line rest)
  · exact unfinished stream ends
termination_by stream.length
decreasing_by
  subst_vars
  simp
  omega

end Lines

/-! ## A line buffer -/

/-- A line that has begun, and whether the rest of a line is being skipped. -/
structure LineBuffer (α : Type u) where
  held : List α
  overflow : Bool

namespace LineBuffer

variable {α : Type u} [DecidableEq α] (stop : α) (size : Nat)

/-- An empty buffer. -/
def empty : LineBuffer α :=
  ⟨[], false⟩

/-- Take one item, and hand on the line that it completes. -/
def push (item : α) (buffer : LineBuffer α) : LineBuffer α × List (List α) :=
  if buffer.overflow then (⟨buffer.held, item ≠ stop⟩, [])
  else if size ≤ buffer.held.length then (⟨[], true⟩, [])
  else if item = stop then (⟨[], false⟩, [buffer.held ++ [item]])
  else (⟨buffer.held ++ [item], false⟩, [])

/-- The lines handed on while a stream is taken. -/
def taken (buffer : LineBuffer α) : List α → List (List α)
  | [] => []
  | item :: rest => (push stop size item buffer).2 ++ taken (push stop size item buffer).1 rest

/-- The buffer after a stream is taken. -/
def after (buffer : LineBuffer α) (stream : List α) : LineBuffer α :=
  stream.foldl (fun buffer item => (push stop size item buffer).1) buffer

/-- A line has at most as many items as the buffer, its stop included. -/
def fits (line : List α) : Bool :=
  line.length ≤ size

/-- A line fills the buffer without its stop. -/
def fills (line : List α) : Bool :=
  line.length = size + 1

variable {stop size}

theorem taken_append (buffer : LineBuffer α) (stream more : List α) :
    taken stop size buffer (stream ++ more) =
      taken stop size buffer stream ++ taken stop size (after stop size buffer stream) more := by
  induction stream generalizing buffer with
  | nil => rfl
  | cons item rest ih =>
      rw [List.cons_append, taken, taken, ih, List.append_assoc]
      rfl

theorem push_overflow (item : α) (held : List α) :
    push stop size item ⟨held, true⟩ = (⟨held, item ≠ stop⟩, []) :=
  rfl

theorem push_full {held : List α} (full : size ≤ held.length) (item : α) :
    push stop size item ⟨held, false⟩ = (⟨[], true⟩, []) := by
  simp [push, full]

theorem push_stop {held : List α} (room : ¬ size ≤ held.length) :
    push stop size stop ⟨held, false⟩ = (⟨[], false⟩, [held ++ [stop]]) := by
  simp [push, room]

theorem push_store {held : List α} (room : ¬ size ≤ held.length) {item : α}
    (inside : item ≠ stop) :
    push stop size item ⟨held, false⟩ = (⟨held ++ [item], false⟩, []) := by
  simp [push, room, inside]

theorem taken_overflow {body : List α} (inLine : stop ∉ body) (held rest : List α) :
    taken stop size ⟨held, true⟩ (body ++ stop :: rest) = taken stop size ⟨held, false⟩ rest := by
  induction body with
  | nil => simp [taken, push_overflow]
  | cons item body ih =>
      rw [List.mem_cons, not_or] at inLine
      rw [List.cons_append, taken, push_overflow, decide_eq_true (Ne.symm inLine.1)]
      exact ih inLine.2

theorem taken_overflow_unfinished {body : List α} (unfinished : stop ∉ body) (held : List α) :
    taken stop size ⟨held, true⟩ body = [] := by
  induction body with
  | nil => rfl
  | cons item body ih =>
      rw [List.mem_cons, not_or] at unfinished
      rw [taken, push_overflow, decide_eq_true (Ne.symm unfinished.1)]
      exact ih unfinished.2

/-- A line that begins in a buffer is handed on when it fits, and swallows the next one
when it fills the buffer. -/
theorem taken_line {body : List α} (inLine : stop ∉ body) {held : List α}
    (within : held.length ≤ size) (rest : List α) :
    taken stop size ⟨held, false⟩ (body ++ stop :: rest) =
      if held.length + body.length < size then
        (held ++ body ++ [stop]) :: taken stop size empty rest
      else taken stop size ⟨[], decide (held.length + body.length = size)⟩ rest := by
  induction body generalizing held with
  | nil =>
      rw [List.nil_append, taken]
      rcases Nat.lt_or_eq_of_le within with room | full
      · rw [push_stop (Nat.not_le.mpr room)]
        simp [room, empty]
      · rw [push_full full.ge]
        simp [full]
  | cons item body ih =>
      rw [List.mem_cons, not_or] at inLine
      rw [List.cons_append, taken]
      by_cases full : size ≤ held.length
      · -- the buffer is full: the rest of the line is skipped
        have notShort : ¬ held.length + (item :: body).length < size := by
          rw [List.length_cons]; omega
        have notFilled : held.length + (item :: body).length ≠ size := by
          rw [List.length_cons]; omega
        rw [push_full full, List.nil_append, taken_overflow inLine.2, if_neg notShort,
          decide_eq_false notFilled]
      · have inside : (held ++ [item]).length ≤ size := by
          rw [List.length_append, List.length_singleton]; omega
        rw [push_store full (Ne.symm inLine.1), List.nil_append, ih inLine.2 inside]
        simp [Nat.add_assoc, Nat.add_comm 1]

theorem taken_unfinished {body : List α} (unfinished : stop ∉ body) (held : List α) :
    taken stop size ⟨held, false⟩ body = [] := by
  induction body generalizing held with
  | nil => rfl
  | cons item body ih =>
      rw [List.mem_cons, not_or] at unfinished
      rw [taken]
      by_cases full : size ≤ held.length
      · rw [push_full full]
        exact taken_overflow_unfinished unfinished.2 []
      · rw [push_store full (Ne.symm unfinished.1)]
        exact ih unfinished.2 _

/-- The buffer hands on the lines that fit and are not swallowed. -/
theorem taken_eq_filter_survivors (overflow : Bool) (stream : List α) :
    taken stop size ⟨[], overflow⟩ stream =
      (survivors (fills size) overflow (lines stop stream)).filter (fits size) := by
  induction stream using stream_induction stop generalizing overflow with
  | unfinished body unfinished =>
      rw [lines, linesFrom_of_notMem unfinished]
      cases overflow with
      | true => exact taken_overflow_unfinished unfinished []
      | false => exact taken_unfinished unfinished []
  | line body rest inLine ih =>
      rw [lines, linesFrom_append_stop inLine, ← lines]
      cases overflow with
      | true => rw [taken_overflow inLine, ih false]; rfl
      | false =>
          rw [taken_line inLine (Nat.zero_le size), survivors, List.filter_cons]
          by_cases short : body.length < size
          · have notFilled : body.length ≠ size := by omega
            have fitting : body.length + 1 ≤ size := by omega
            simp [short, fits, fills, empty, ih false, notFilled, fitting]
          · have notFitting : ¬ body.length + 1 ≤ size := by omega
            simp [short, fits, fills, ih, notFitting]

/-- The buffer hands on exactly the lines that fit when no such line is directly
preceded by an odd run of lines that fill it. -/
theorem taken_eq_fitting_iff (stream : List α) :
    taken stop size empty stream = (lines stop stream).filter (fits size) ↔
      EvenRuns (fills size) (fits size) (lines stop stream) := by
  rw [empty, taken_eq_filter_survivors, filter_survivors_eq_iff_evenRuns]

/-! ### A buffer that may have missed items -/

variable (size) in
/-- The buffer skips the line, or holds what the line has begun with. -/
def Aligned (line : List α) (buffer : LineBuffer α) : Prop :=
  buffer.overflow ∨ size ≤ buffer.held.length ∨ buffer.held = line

instance (line : List α) (buffer : LineBuffer α) : Decidable (Aligned size line buffer) :=
  inferInstanceAs (Decidable (_ ∨ _ ∨ _))

/-- A buffer that skips a line holds nothing. -/
def SkipsEmpty (buffer : LineBuffer α) : Prop :=
  buffer.overflow → buffer.held = []

theorem skipsEmpty_push {buffer : LineBuffer α} (empty : buffer.SkipsEmpty) (item : α) :
    (push stop size item buffer).1.SkipsEmpty := by
  obtain ⟨held, overflow⟩ := buffer
  cases overflow with
  | true => exact fun _ => empty rfl
  | false =>
      by_cases full : size ≤ held.length
      · rw [push_full full]
        exact fun _ => rfl
      · by_cases ends : item = stop
        · rw [ends, push_stop full]
          exact fun _ => rfl
        · rw [push_store full ends]
          exact fun skips => nomatch skips

theorem Aligned.push {line : List α} {buffer : LineBuffer α} (aligned : Aligned size line buffer)
    (empty : buffer.SkipsEmpty) (item : α) :
    Aligned size (unfinishedFrom stop line [item]) (push stop size item buffer).1 ∧
      (push stop size item buffer).2.Sublist (linesFrom stop line [item]) := by
  obtain ⟨held, overflow⟩ := buffer
  simp only [unfinishedFrom, linesFrom]
  cases overflow with
  | true =>
      obtain rfl : held = [] := empty rfl
      rw [push_overflow]
      refine ⟨?_, List.nil_sublist _⟩
      by_cases ends : item = stop
      · rw [if_pos ends]
        exact .inr (.inr rfl)
      · exact .inl (decide_eq_true ends)
  | false =>
      by_cases full : size ≤ held.length
      · rw [push_full full]
        exact ⟨.inl rfl, List.nil_sublist _⟩
      · have begins : held = line := by simpa [Aligned, full] using aligned
        subst begins
        by_cases ends : item = stop
        · rw [ends, push_stop full, if_pos rfl, if_pos rfl]
          exact ⟨.inr (.inr rfl), List.Sublist.refl _⟩
        · rw [push_store full ends, if_neg ends, if_neg ends]
          exact ⟨.inr (.inr rfl), List.Sublist.refl _⟩

theorem skipsEmpty_after {buffer : LineBuffer α} (empty : buffer.SkipsEmpty) (stream : List α) :
    (after stop size buffer stream).SkipsEmpty := by
  induction stream generalizing buffer with
  | nil => exact empty
  | cons item rest ih => exact ih (skipsEmpty_push empty item)

/-- An aligned buffer stays aligned, and hands on only lines of the stream. -/
theorem Aligned.after {line : List α} {buffer : LineBuffer α} (aligned : Aligned size line buffer)
    (empty : buffer.SkipsEmpty) (stream : List α) :
    Aligned size (unfinishedFrom stop line stream) (after stop size buffer stream) ∧
      (taken stop size buffer stream).Sublist (linesFrom stop line stream) := by
  induction stream generalizing line buffer with
  | nil => exact ⟨aligned, List.Sublist.refl _⟩
  | cons item rest ih =>
      obtain ⟨pushed, handed⟩ := @Aligned.push _ _ stop size line buffer aligned empty item
      obtain ⟨later, sublist⟩ := ih pushed (skipsEmpty_push empty item)
      have lineSplit := @linesFrom_append _ _ stop line [item] rest
      have endSplit := @unfinishedFrom_append _ _ stop line [item] rest
      rw [List.singleton_append] at lineSplit endSplit
      rw [lineSplit, endSplit]
      exact ⟨later, handed.append sublist⟩

end LineBuffer

end X3Hal.Stream
