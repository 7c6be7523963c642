import Mathlib.Algebra.Order.BigOperators.Group.List
import Mathlib.Algebra.Order.Ring.Nat
import Mathlib.Data.List.TakeWhile
import X3Hal.Memory.Strings
import X3Hal.Stream.Pieces
import X3Hal.Transition.Loops

/-!
# The log of the child

`md_ctrl` reads what its child writes and logs it line by line.  Between its rounds the buffer
begins with the part of a line that was read without its end, where CRs are NULs already.
-/

namespace X3Hal.Mdctrl

open X3Hal.Memory
open X3Hal.Transition
open X3Hal.Stream (pieces piecesFrom)

/-! ## The buffer -/

/-- The size of `buffer` -/
def bufferSize : Nat := 4096

/-- The buffer with the indices of what is not processed. -/
structure LogBuffer where
  buffer : List UInt8
  a : Nat
  b : Nat
  deriving DecidableEq

/-- The loop over what is in the buffer, for as many bytes; the lines are logged. -/
def scan : Nat → LogBuffer → Option (LogBuffer × List (List UInt8))
  | 0, log => some (log, [])
  | count + 1, log => do
      let byte ← log.buffer[log.b]?
      if byte = 13 then
        let buffer ← store log.buffer log.b [0]
        scan count { log with buffer := buffer, b := log.b + 1 }
      else if byte = 10 then
        let buffer ← store log.buffer log.b [0]
        let line ← cString buffer log.a
        let (log, lines) ← scan count ⟨buffer, log.b + 1, log.b + 1⟩
        some (log, line :: lines)
      else scan count { log with b := log.b + 1 }

/-- What follows the loop: a full buffer is logged, and left-overs are moved to the front. -/
def keepLeftOvers (log : LogBuffer) : Option (LogBuffer × List (List UInt8)) :=
  if log.a = 0 ∧ log.b = bufferSize - 1 then do
    let buffer ← store log.buffer log.b [0]
    let line ← cString buffer log.a
    some (⟨buffer, log.a, 0⟩, [line])
  else if log.a ≠ log.b then do
    let data ← load log.buffer log.a (log.b - log.a)
    let buffer ← store log.buffer 0 data
    some (⟨buffer, 0, log.b - log.a⟩, [])
  else some (⟨log.buffer, 0, 0⟩, [])

/-- What is done with `sz` bytes in the buffer. -/
def logLines (sz : Int) (log : LogBuffer) : Option (LogBuffer × List (List UInt8)) := do
  let (log, lines) ← scan sz.toNat { log with b := 0 }
  let (log, flushed) ← keepLeftOvers log
  some (log, lines ++ flushed)

/-! ## Rounds -/

/-- What `waitpid` says of the child. -/
inductive Status
  | exited (code : Nat)
  | signaled (signal : Nat)
  | stopped (signal : Nat)
  deriving DecidableEq

inductive Wait
  | fails (errno : Int)
  | running
  | gone (status : Status)
  deriving DecidableEq

/-- `read`: a failure, or as many bytes as there are and fit. -/
inductive ReadResult
  | fails
  | bytes (count : Nat)
  deriving DecidableEq

/-- A round of `parent`, with what `poll` returns. -/
inductive Round
  | pollFails
  | timeout (wait : Wait)
  | ready (pollin : Option ReadResult) (pollhup : Option Wait)
  deriving DecidableEq

/-- How `parent` returns. -/
inductive Ending
  | pollFailed
  | waitFailed (errno : Int)
  | childFound (status : Status)
  deriving DecidableEq

/-- The value that is returned when the caller does not take the status. -/
def Ending.rc : Ending → Int
  | pollFailed => -1
  | waitFailed errno => errno
  | childFound (.exited code) => code
  -- `-ECHILD`
  | childFound _ => -10

/-- What is logged: a line, or how the child ended. -/
inductive Entry
  | line (text : List UInt8)
  | terminatedByExit (code : Nat)
  | terminatedBySignal (signal : Nat)
  | stoppedBySignal (signal : Nat)
  deriving DecidableEq

def Entry.line? : Entry → Option (List UInt8)
  | line text => some text
  | terminatedByExit _ | terminatedBySignal _ | stoppedBySignal _ => none

/-- What is logged of a status. -/
def Status.entries : Status → List Entry
  | exited code => if code ≠ 0 then [.terminatedByExit code] else []
  | signaled signal => [.terminatedBySignal signal]
  | stopped signal => [.stoppedBySignal signal]

/-- `parent`, with what the child writes and nobody has read. -/
structure Parent where
  log : LogBuffer
  pending : List UInt8
  ending : Option Ending
  deriving DecidableEq

namespace Parent

/-- The bytes that a `read` gets. -/
def taken (parent : Parent) (count : Nat) : List UInt8 :=
  parent.pending.take (min count (bufferSize - 1 - parent.log.b))

/-- `read`, and the lines in what it got. -/
def readChild (parent : Parent) : ReadResult → Option (Parent × List (List UInt8))
  | .fails => do
      -- The result -1 is added to the end of the left-overs.
      let (log, lines) ← logLines ((parent.log.b : Int) - 1) parent.log
      some ({ parent with log := log }, lines)
  | .bytes count => do
      let data := parent.taken count
      let buffer ← store parent.log.buffer parent.log.b data
      let (log, lines) ← logLines (data.length + parent.log.b : Nat)
        { parent.log with buffer := buffer }
      some ({ parent with log := log, pending := parent.pending.drop data.length }, lines)

/-- What is left is logged when the child is found. -/
def flush (parent : Parent) : Option (List (List UInt8)) :=
  if parent.log.a ≠ parent.log.b then do
    let buffer ← store parent.log.buffer parent.log.b [0]
    let line ← cString buffer parent.log.a
    some [line]
  else some []

/-- What follows a `waitpid`. -/
def afterWait (parent : Parent) : Wait → Option (Parent × List Entry)
  | .fails errno => some ({ parent with ending := some (.waitFailed errno) }, [])
  | .running => some (parent, [])
  | .gone status => do
      let lines ← parent.flush
      some ({ parent with ending := some (.childFound status) },
        lines.map Entry.line ++ status.entries)

/-- A round; it has no result when an index leaves the buffer. -/
def round (parent : Parent) : Round → Option (Parent × List Entry)
  | .pollFails => some ({ parent with ending := some .pollFailed }, [])
  | .timeout wait => parent.afterWait wait
  | .ready pollin pollhup => do
      let (parent, lines) ← (pollin.map parent.readChild).getD (some (parent, []))
      let (parent, entries) ← (pollhup.map parent.afterWait).getD (some (parent, []))
      some (parent, lines.map Entry.line ++ entries)

end Parent

/-- `parent` for a child that writes a stream, with anything in its buffer -/
def childLog (stream : List UInt8) : System Parent Round Entry where
  Init parent := parent.log.buffer.length = bufferSize ∧ parent.log.a = 0 ∧ parent.log.b = 0 ∧
    parent.pending = stream ∧ parent.ending = none
  step parent round := if parent.ending = none then parent.round round else none

/-! ## What is to be logged -/

/-- A line of the child, with its end. -/
structure OutputLine where
  text : List UInt8
  crlf : Bool
  plain : 10 ∉ text ∧ 13 ∉ text

def OutputLine.bytes (line : OutputLine) : List UInt8 :=
  line.text ++ if line.crlf then [13, 10] else [10]

/-- Lines, and the last one that has no end: a stream whose CRs stand before LFs. -/
structure Output where
  lines : List OutputLine
  last : List UInt8
  plain : 10 ∉ last ∧ 13 ∉ last

def Output.bytes (output : Output) : List UInt8 :=
  output.lines.flatMap OutputLine.bytes ++ output.last

/-- The pieces of a line, each as long as the buffer takes it. -/
def linePieces (text : List UInt8) : List (List UInt8) :=
  if text = [] then [[]] else pieces 10 (bufferSize - 1) text

/-- What is to be logged of a stream. -/
def Output.logged (output : Output) : List (List UInt8) :=
  output.lines.flatMap (fun line => linePieces line.text) ++
    if output.last = [] then [] else linePieces output.last

def loggedLines (history : History Round Entry) : List (List UInt8) :=
  (History.outputs history).filterMap Entry.line?

/-- The text of a line is empty or leaves the buffer room for its end. -/
def OutputLine.Fits (line : OutputLine) : Prop :=
  line.text = [] ∨ line.text.length % (bufferSize - 1) ≠ 0 ∧
    (line.crlf = true → line.text.length % (bufferSize - 1) ≠ bufferSize - 2)

/-- No NUL is written, and every line leaves room for its end. -/
structure Output.Fits (output : Output) : Prop where
  plain : 0 ∉ output.bytes
  lines : ∀ line ∈ output.lines, line.Fits

def Round.wait? : Round → Option Wait
  | pollFails => none
  | timeout wait => some wait
  | ready _ pollhup => pollhup

/-- What nobody has read after the read of a round. -/
def Parent.unread (parent : Parent) : Round → List UInt8
  | .ready (some (.bytes count)) _ => parent.pending.drop (parent.taken count).length
  | .pollFails | .timeout _ | .ready none _ | .ready (some .fails) _ => parent.pending

/-- A read fails only without left-overs, neither `poll` nor `waitpid` fails, and the child is
found when nothing is unread. -/
structure RoundFits (parent : Parent) (round : Round) : Prop where
  reads : ∀ pollhup, round = .ready (some .fails) pollhup → parent.log.b = 0
  polls : round ≠ .pollFails
  waits : ∀ errno, round.wait? ≠ some (.fails errno)
  ends : ∀ status, round.wait? = some (.gone status) → parent.unread round = []

/-- The guard of the rounds that go as they are meant to -/
def roundFits : System.Guard Parent Round Entry :=
  fun _ parent round => RoundFits parent round

/-! ## The loop over the buffer -/

/-- What the buffer has of the lines in a text, where `held` is what it has of a line that has
begun: the lines, and what it has of the last one. -/
def linesIn (held : List UInt8) : List UInt8 → List (List UInt8) × List UInt8
  | [] => ([], held)
  | byte :: text =>
      if byte = 13 then linesIn (held ++ [0]) text
      else if byte = 10 then
        (held.takeWhile (· ≠ 0) :: (linesIn [] text).1, (linesIn [] text).2)
      else linesIn (held ++ [byte]) text

/-- A text without line ends is held. -/
theorem linesIn_append {text : List UInt8} (plain : 10 ∉ text ∧ 13 ∉ text)
    (held more : List UInt8) : linesIn held (text ++ more) = linesIn (held ++ text) more := by
  induction text generalizing held with
  | nil => rw [List.nil_append, List.append_nil]
  | cons byte text ih =>
      simp only [List.mem_cons, not_or] at plain
      rw [List.cons_append, linesIn, if_neg (Ne.symm plain.2.1), if_neg (Ne.symm plain.1.1),
        ih ⟨plain.1.2, plain.2.2⟩, List.append_assoc, List.singleton_append]

/-- A line end in the buffer is replaced by a NUL. -/
theorem store_nul (before held text after : List UInt8) (byte : UInt8) :
    store (before ++ (held ++ (byte :: text ++ after))) (before.length + held.length) [0] =
      some (before ++ (held ++ 0 :: (text ++ after))) := by
  have stored := @store_split _ [byte] [0] rfl (before ++ held) (text ++ after)
  rw [List.length_append] at stored
  simpa using stored

theorem scan_spec (before held text after : List UInt8) :
    ∃ front, scan text.length ⟨before ++ (held ++ (text ++ after)), before.length,
        before.length + held.length⟩ =
      some (⟨front ++ ((linesIn held text).2 ++ after), front.length,
        front.length + (linesIn held text).2.length⟩, (linesIn held text).1) ∧
      front.length + (linesIn held text).2.length =
        before.length + held.length + text.length := by
  induction text generalizing before held with
  | nil => exact ⟨before, rfl, rfl⟩
  | cons byte text ih =>
      have here : (before ++ (held ++ (byte :: text ++ after)))[before.length + held.length]? =
          some byte := by
        rw [← List.append_assoc, ← List.length_append, List.getElem?_append_right (Nat.le_refl _)]
        simp
      have snoc (next : UInt8) : before ++ (held ++ next :: (text ++ after)) =
          before ++ ((held ++ [next]) ++ (text ++ after)) := by
        rw [List.append_assoc, List.singleton_append]
      have index (next : UInt8) : before.length + held.length + 1 =
          before.length + (held ++ [next]).length := by
        rw [List.length_append, List.length_singleton, Nat.add_assoc]
      rw [List.length_cons, scan, linesIn]
      simp only [here, Option.bind_eq_bind, Option.bind_some, store_nul]
      by_cases isCr : byte = 13
      · simp only [if_pos isCr]
        obtain ⟨front, scanned, length⟩ := ih before (held ++ [0])
        rw [snoc, index 0]
        refine ⟨front, scanned, ?_⟩
        rw [length, ← index]
        omega
      · by_cases isLf : byte = 10
        · simp only [if_neg isCr, if_pos isLf]
          obtain ⟨front, scanned, length⟩ := ih (before ++ (held ++ [0])) []
          simp only [List.length_append, List.length_nil, List.length_singleton, List.append_assoc,
            List.nil_append, List.singleton_append, Nat.add_zero,
              ← Nat.add_assoc] at scanned length
          refine ⟨front, ?_, by omega⟩
          simp only [cString_cut, scanned, Option.bind_some]
        · simp only [if_neg isCr, if_neg isLf]
          obtain ⟨front, scanned, length⟩ := ih before (held ++ [byte])
          rw [List.cons_append, snoc, index byte]
          refine ⟨front, scanned, ?_⟩
          rw [length, ← index]
          omega

/-! ## Reads -/

/-- Between two rounds the buffer begins with what it has of a line. -/
structure Ready (log : LogBuffer) (held : List UInt8) : Prop where
  length : log.buffer.length = bufferSize
  a : log.a = 0
  b : log.b = held.length
  begins : held <+: log.buffer
  short : held.length < bufferSize - 1
  plain : 10 ∉ held ∧ 13 ∉ held

/-- What the buffer holds after a text, and what is logged of it -/
def afterText (held text : List UInt8) : List UInt8 × List (List UInt8) :=
  let lines := linesIn held text
  if lines.2.length = bufferSize - 1 then ([], lines.1 ++ [lines.2.takeWhile (· ≠ 0)])
  else (lines.2, lines.1)

theorem plain_linesIn {held : List UInt8} (plain : 10 ∉ held ∧ 13 ∉ held) (text : List UInt8) :
    10 ∉ (linesIn held text).2 ∧ 13 ∉ (linesIn held text).2 := by
  induction text generalizing held with
  | nil => exact plain
  | cons byte text ih =>
      rw [linesIn]
      split
      case isTrue => exact ih (by simp [plain])
      case isFalse isCr =>
        split
        case isTrue => exact ih (by simp)
        case isFalse isLf => exact ih (by simp [plain, Ne.symm isCr, Ne.symm isLf])

/-- What is held after the loop is at the front of the buffer, or logged when it fills it. -/
theorem keepLeftOvers_spec {front held after : List UInt8} (plain : 10 ∉ held ∧ 13 ∉ held)
    (room : front.length + held.length ≤ bufferSize - 1)
    (length : (front ++ (held ++ after)).length = bufferSize) :
    ∃ next, keepLeftOvers ⟨front ++ (held ++ after), front.length, front.length + held.length⟩ =
        some (next, if held.length = bufferSize - 1 then [held.takeWhile (· ≠ 0)] else []) ∧
      Ready next (if held.length = bufferSize - 1 then [] else held) := by
  rw [keepLeftOvers]
  by_cases full : held.length = bufferSize - 1
  · have none : front = [] := List.length_eq_zero_iff.mp (by omega)
    subst none
    obtain ⟨last, more, rfl⟩ : ∃ last more, after = last :: more := by
      cases after with
      | nil =>
          rw [List.nil_append, List.append_nil, full] at length
          cases length
      | cons last more => exact ⟨last, more, rfl⟩
    have stored := @store_split _ [last] [0] rfl held more
    have read := cString_cut [] held more
    have sized := length_of_store stored
    simp only [List.nil_append, List.length_nil, List.singleton_append] at stored read sized length
    simp only [List.nil_append, List.length_nil, Nat.zero_add, full, true_and, if_true,
      Option.bind_eq_bind]
    rw [← full, stored, Option.bind_some, read, Option.bind_some]
    refine ⟨_, rfl, sized.trans length, rfl, rfl, List.nil_prefix, ?_, ?_⟩
    · decide
    · exact ⟨List.not_mem_nil, List.not_mem_nil⟩
  · have short : held.length < bufferSize - 1 := by omega
    have notFull : ¬ (front.length = 0 ∧ front.length + held.length = bufferSize - 1) := by
      rintro ⟨none, all⟩
      exact full (by omega)
    simp only [if_neg notFull, if_neg full]
    by_cases empty : held = []
    · subst empty
      exact ⟨_, if_neg (not_not_intro rfl), length, rfl, rfl, List.nil_prefix, short, plain⟩
    · have some_byte := List.length_pos_of_ne_nil empty
      have apart : front.length ≠ front.length + held.length := by omega
      have loaded := load_split front held after
      have fits : 0 + held.length ≤ (front ++ (held ++ after)).length := by
        simp only [List.length_append]
        omega
      obtain ⟨buffer, stored⟩ := exists_store fits
      have sized := length_of_store stored
      rw [if_pos apart, Nat.add_sub_cancel_left, loaded]
      simp only [Option.bind_eq_bind, Option.bind_some, stored]
      refine ⟨_, rfl, sized.trans length, rfl, rfl, ?_, short, plain⟩
      rw [store, if_pos fits] at stored
      cases stored
      exact List.prefix_append _ _

/-- The lines of a text that is in the buffer are logged. -/
theorem logLines_spec {text after : List UInt8} {log : LogBuffer} {sz : Int}
    (isText : sz.toNat = text.length) (buffer : log.buffer = text ++ after) (start : log.a = 0)
    (length : log.buffer.length = bufferSize) (room : text.length ≤ bufferSize - 1) :
    ∃ next, logLines sz log = some (next, (afterText [] text).2) ∧
      Ready next (afterText [] text).1 := by
  obtain ⟨front, scanned, total⟩ := scan_spec [] [] text after
  simp only [List.length_nil, Nat.zero_add, List.nil_append] at scanned total
  have plain := @plain_linesIn [] ⟨List.not_mem_nil, List.not_mem_nil⟩ text
  have sized : (front ++ ((linesIn [] text).2 ++ after)).length = bufferSize := by
    rw [buffer, List.length_append] at length
    rw [← length, List.length_append, List.length_append, ← Nat.add_assoc, total]
  obtain ⟨next, kept, ready⟩ := keepLeftOvers_spec plain (total ▸ room) sized
  refine ⟨next, ?_, ?_⟩
  · rw [logLines, isText, start, buffer, scanned]
    simp only [Option.bind_eq_bind, Option.bind_some, kept, afterText]
    split
    · rfl
    · rw [List.append_nil]
  · unfold afterText
    split at ready
    case isTrue full => rwa [if_pos full]
    case isFalse open' => rwa [if_neg open']

theorem afterText_append {held : List UInt8} (plain : 10 ∉ held ∧ 13 ∉ held) (text : List UInt8) :
    afterText [] (held ++ text) = afterText held text := by
  rw [afterText, afterText, linesIn_append plain, List.nil_append]

theorem afterText_plain {held : List UInt8} (plain : 10 ∉ held ∧ 13 ∉ held)
    (short : held.length < bufferSize - 1) : afterText [] held = (held, []) := by
  have all := afterText_append plain []
  rw [List.append_nil] at all
  rw [all, afterText]
  exact if_neg (Nat.ne_of_lt short)

theorem length_taken (parent : Parent) (count : Nat) :
    (parent.taken count).length ≤ bufferSize - 1 - parent.log.b := by
  rw [Parent.taken, List.length_take]
  omega

/-- A read of bytes goes on with the line that is held. -/
theorem readChild_bytes {parent : Parent} {held : List UInt8} (ready : Ready parent.log held)
    (count : Nat) :
    ∃ next, parent.readChild (.bytes count) =
        some ({ parent with
          log := next, pending := parent.pending.drop (parent.taken count).length },
          (afterText held (parent.taken count)).2) ∧
      Ready next (afterText held (parent.taken count)).1 := by
  have within := length_taken parent count
  have short := ready.short
  rw [Parent.readChild]
  generalize parent.taken count = data at within ⊢
  rw [ready.b] at within
  have fits : held.length + data.length ≤ parent.log.buffer.length := by
    rw [ready.length]
    omega
  obtain ⟨rest, isBuffer⟩ := ready.begins
  obtain ⟨buffer, stored⟩ := exists_store fits
  have sized := length_of_store stored
  have shape : buffer = held ++ data ++ rest.drop data.length := by
    rw [store, if_pos fits, ← isBuffer] at stored
    cases stored
    rw [List.take_left, ← List.drop_drop, List.drop_left, List.append_assoc]
  have room : (held ++ data).length ≤ bufferSize - 1 := by
    rw [List.length_append]
    omega
  have count : Int.toNat (data.length + parent.log.b : Nat) = (held ++ data).length := by
    rw [ready.b, List.length_append, Int.toNat_natCast, Nat.add_comm]
  obtain ⟨next, logged, readyNext⟩ :=
    @logLines_spec (held ++ data) (rest.drop data.length) { parent.log with buffer := buffer } _
      count shape ready.a (sized.trans ready.length) room
  rw [afterText_append ready.plain] at logged readyNext
  refine ⟨next, ?_, readyNext⟩
  simp only [ready.b] at logged ⊢
  simp only [stored, Option.bind_eq_bind, Option.bind_some, logged]

/-- A read that fails drops the last byte that is held. -/
theorem readChild_fails {parent : Parent} {held : List UInt8} (ready : Ready parent.log held) :
    ∃ next, parent.readChild .fails = some ({ parent with log := next }, []) ∧
      Ready next held.dropLast := by
  obtain ⟨rest, isBuffer⟩ := ready.begins
  have short := ready.short
  have plain : 10 ∉ held.dropLast ∧ 13 ∉ held.dropLast :=
    ⟨fun among => ready.plain.1 (List.dropLast_subset held among),
      fun among => ready.plain.2 (List.dropLast_subset held among)⟩
  have length := held.length_dropLast
  obtain ⟨last, split⟩ : ∃ last, held = held.dropLast ++ last := by
    cases held with
    | nil => exact ⟨[], rfl⟩
    | cons byte held => exact ⟨_, (List.dropLast_append_getLast (List.cons_ne_nil byte held)).symm⟩
  have shape : parent.log.buffer = held.dropLast ++ (last ++ rest) := by
    rw [← List.append_assoc, ← split, isBuffer]
  have count : ((parent.log.b : Int) - 1).toNat = held.dropLast.length := by
    rw [ready.b]
    omega
  obtain ⟨next, logged, readyNext⟩ :=
    logLines_spec count shape ready.a ready.length (by omega)
  rw [afterText_plain plain (by omega)] at logged readyNext
  refine ⟨next, ?_, readyNext⟩
  rw [Parent.readChild]
  simp only [logged, Option.bind_eq_bind, Option.bind_some]

/-! ## Bounds -/

theorem flush_spec {parent : Parent} {held : List UInt8} (ready : Ready parent.log held) :
    parent.flush = some (if held = [] then [] else [held.takeWhile (· ≠ 0)]) := by
  obtain ⟨rest, isBuffer⟩ := ready.begins
  have length := ready.length
  have short := ready.short
  rw [Parent.flush, ready.a, ready.b, ← isBuffer]
  by_cases empty : held = []
  · rw [if_pos empty, if_neg (by simp [empty])]
  · have some_byte := List.length_pos_of_ne_nil empty
    obtain ⟨next, rest, rfl⟩ : ∃ next more, rest = next :: more := by
      cases rest with
      | nil =>
          rw [← isBuffer, List.append_nil] at length
          omega
      | cons next more => exact ⟨next, more, rfl⟩
    have stored := @store_split _ [next] [0] rfl held rest
    have read := cString_cut [] held rest
    simp only [List.singleton_append, List.nil_append, List.length_nil] at stored read
    rw [if_pos (by omega), if_neg empty]
    simp only [stored, read, Option.bind_eq_bind, Option.bind_some]

theorem afterWait_gone {parent : Parent} {held : List UInt8} (ready : Ready parent.log held)
    (status : Status) :
    parent.afterWait (.gone status) =
      some ({ parent with ending := some (.childFound status) },
        (if held = [] then [] else [Entry.line (held.takeWhile (· ≠ 0))]) ++ status.entries) := by
  rw [Parent.afterWait, flush_spec ready]
  by_cases empty : held = []
  · simp [empty]
  · simp [empty]

/-! ## Pieces of the stream -/

/-- A CR is a NUL in the buffer. -/
def blank (byte : UInt8) : UInt8 :=
  if byte = 13 then 0 else byte

/-- What is logged of a piece -/
def entryOf (piece : List UInt8) : List UInt8 :=
  (piece.takeWhile (· ≠ 10)).takeWhile (· ≠ 0)

theorem linesIn_map_blank (held text : List UInt8) :
    linesIn held (text.map blank) = linesIn held text := by
  induction text generalizing held with
  | nil => rfl
  | cons byte text ih =>
      rw [List.map_cons, linesIn, linesIn]
      simp only [ih]
      by_cases isCr : byte = 13
      · rw [blank, if_pos isCr, if_pos isCr, if_neg (by decide), if_neg (by decide)]
      · rw [blank, if_neg isCr]

theorem afterText_map_blank (held text : List UInt8) :
    afterText held (text.map blank) = afterText held text := by
  rw [afterText, afterText, linesIn_map_blank]

theorem takeWhile_plain {held : List UInt8} (plain : 10 ∉ held) :
    held.takeWhile (· ≠ 10) = held := by
  rw [List.takeWhile_eq_self_iff]
  exact fun byte among => decide_eq_true fun same => plain (same ▸ among)

theorem entryOf_plain {held : List UInt8} (plain : 10 ∉ held) :
    entryOf held = held.takeWhile (· ≠ 0) := by
  rw [entryOf, takeWhile_plain plain]

theorem entryOf_line {held : List UInt8} (plain : 10 ∉ held) :
    entryOf (held ++ [10]) = held.takeWhile (· ≠ 0) := by
  have each (byte : UInt8) (among : byte ∈ held) : decide (byte ≠ 10) = true :=
    decide_eq_true fun same => plain (same ▸ among)
  rw [entryOf, List.takeWhile_append_of_pos each]
  simp

theorem afterText_lf (held text : List UInt8) :
    afterText held (10 :: text) =
      ((afterText [] text).1, held.takeWhile (· ≠ 0) :: (afterText [] text).2) := by
  rw [afterText, afterText, linesIn]
  simp only [show ((10 : UInt8) = 13) = False by decide, if_false, if_true]
  split
  · rfl
  · rfl

theorem afterText_cons {byte : UInt8} (plain : byte ≠ 10 ∧ byte ≠ 13) (held text : List UInt8) :
    afterText held (byte :: text) = afterText (held ++ [byte]) text := by
  rw [afterText, afterText, linesIn, if_neg plain.2, if_neg plain.1]

/-- The pieces from a line that is held are what is logged after a text and the pieces from what
is held then. -/
theorem map_entryOf_piecesFrom {held text : List UInt8} (plain : 10 ∉ held) (inText : 13 ∉ text)
    (short : held.length < bufferSize - 1) (room : held.length + text.length ≤ bufferSize - 1)
    (rest : List UInt8) :
    (piecesFrom 10 (bufferSize - 1) held (text ++ rest)).map entryOf =
      (afterText held text).2 ++
        (piecesFrom 10 (bufferSize - 1) (afterText held text).1 rest).map entryOf := by
  induction text generalizing held with
  | nil =>
      have same : afterText held [] = (held, []) := if_neg (Nat.ne_of_lt short)
      rw [same]
      rfl
  | cons byte text ih =>
      rw [List.mem_cons, not_or] at inText
      rw [List.length_cons] at room
      rw [List.cons_append, piecesFrom]
      by_cases isLf : byte = 10
      · subst isLf
        rw [if_pos (.inl rfl), List.map_cons, entryOf_line plain, afterText_lf,
          ih List.not_mem_nil inText.2 (Nat.succ_pos _) (by rw [List.length_nil]; omega)]
        rfl
      · rw [afterText_cons ⟨isLf, Ne.symm inText.1⟩]
        have plainNext : 10 ∉ held ++ [byte] := by
          simp [plain, Ne.symm isLf]
        have longer : (held ++ [byte]).length = held.length + 1 := by
          rw [List.length_append, List.length_singleton]
        by_cases full : held.length + 1 = bufferSize - 1
        · -- The byte fills the buffer, and ends the text.
          have ends : text = [] := List.length_eq_zero_iff.mp (by omega)
          subst ends
          have flushed : afterText (held ++ [byte]) [] =
              ([], [(held ++ [byte]).takeWhile (· ≠ 0)]) :=
            if_pos (longer.trans full)
          rw [if_pos (.inr full), flushed, List.map_cons, entryOf_plain plainNext]
          rfl
        · have goesOn : ¬ (byte = 10 ∨ held.length + 1 = bufferSize - 1) := by
            rintro (same | same)
            · exact isLf same
            · exact full same
          rw [if_neg goesOn]
          exact ih plainNext inText.2 (by omega) (by omega)

/-! ## Rounds -/

/-- What is to be logged of a line that is held and of what nobody has read. -/
def remaining (held pending : List UInt8) : List (List UInt8) :=
  (piecesFrom 10 (bufferSize - 1) held (pending.map blank)).map entryOf

theorem remaining_nil {held : List UInt8} (plain : 10 ∉ held) :
    remaining held [] = if held = [] then [] else [held.takeWhile (· ≠ 0)] := by
  rw [remaining, List.map_nil, piecesFrom]
  split
  · rfl
  · rw [List.map_singleton, entryOf_plain plain]

theorem not_mem_map_blank (text : List UInt8) : 13 ∉ text.map blank := by
  rw [List.mem_map]
  rintro ⟨byte, -, isCr⟩
  unfold blank at isCr
  split at isCr
  case isTrue => cases isCr
  case isFalse other => exact other isCr

section Round

variable {parent : Parent} {held : List UInt8}

/-- What the read of a round leaves. -/
theorem read_spec (ready : Ready parent.log held) (pollin : Option ReadResult)
    (pollhup : Option Wait) :
    ∃ after lines heldAfter,
      (pollin.map parent.readChild).getD (some (parent, [])) = some (after, lines) ∧
      after.ending = parent.ending ∧ after.pending = parent.unread (.ready pollin pollhup) ∧
      Ready after.log heldAfter ∧
      ((pollin = some .fails → held = []) →
        remaining held parent.pending = lines ++ remaining heldAfter after.pending) := by
  rcases pollin with _ | _ | count
  · exact ⟨parent, [], held, rfl, rfl, rfl, ready, fun _ => rfl⟩
  · obtain ⟨next, read, readyNext⟩ := readChild_fails ready
    refine ⟨_, _, _, read, rfl, rfl, readyNext, ?_⟩
    intro without
    rw [without rfl]
    rfl
  · obtain ⟨next, read, readyNext⟩ := readChild_bytes ready count
    refine ⟨_, _, _, read, rfl, rfl, readyNext, fun _ => ?_⟩
    have within := length_taken parent count
    have short := ready.short
    obtain ⟨more, split⟩ : parent.taken count <+: parent.pending := List.take_prefix _ _
    rw [ready.b] at within
    have pieces := map_entryOf_piecesFrom ready.plain.1 (not_mem_map_blank (parent.taken count))
      short (by rw [List.length_map]; omega) (more.map blank)
    rw [afterText_map_blank] at pieces
    rw [remaining, remaining, ← split, List.drop_left, List.map_append, pieces]

theorem line?_entries (status : Status) : status.entries.filterMap Entry.line? = [] := by
  cases status with
  | exited code =>
      rw [Status.entries]
      split
      · rfl
      · rfl
  | signaled signal | stopped signal => rfl

theorem line?_lines (lines : List (List UInt8)) :
    (lines.map Entry.line).filterMap Entry.line? = lines := by
  rw [List.filterMap_map]
  exact List.filterMap_some

/-- What a `waitpid` leaves. -/
theorem wait_spec (ready : Ready parent.log held) (going : parent.ending = none)
    (wait : Option Wait) :
    ∃ after entries, (wait.map parent.afterWait).getD (some (parent, [])) = some (after, entries) ∧
      (after.ending = none → after = parent ∧ entries = []) ∧
      (after.ending ≠ none → (∀ errno, wait ≠ some (.fails errno)) →
        (∀ status, wait = some (.gone status) → parent.pending = []) →
        entries.filterMap Entry.line? = remaining held parent.pending) := by
  rcases wait with _ | errno | _ | status
  · exact ⟨parent, [], rfl, fun _ => ⟨rfl, rfl⟩, fun ended => absurd going ended⟩
  · exact ⟨_, _, rfl, nofun, fun _ waits => absurd rfl (waits errno)⟩
  · exact ⟨parent, [], rfl, fun _ => ⟨rfl, rfl⟩, fun ended => absurd going ended⟩
  · refine ⟨_, _, afterWait_gone ready status, nofun, fun _ _ read => ?_⟩
    rw [read status rfl, remaining_nil ready.plain.1, List.filterMap_append, line?_entries,
      List.append_nil]
    split
    · rfl
    · rfl

/-- A round goes through and leaves the buffer as it found it, or ends. -/
theorem round_spec (ready : Ready parent.log held) (going : parent.ending = none) (round : Round) :
    ∃ after entries, parent.round round = some (after, entries) ∧
      (after.ending = none → ∃ heldAfter, Ready after.log heldAfter ∧
        (RoundFits parent round → remaining held parent.pending =
          entries.filterMap Entry.line? ++ remaining heldAfter after.pending)) ∧
      (after.ending ≠ none → RoundFits parent round →
        entries.filterMap Entry.line? = remaining held parent.pending) := by
  cases round with
  | pollFails => exact ⟨_, _, rfl, nofun, fun _ fits => absurd rfl fits.polls⟩
  | timeout wait =>
      obtain ⟨after, entries, waited, goesOn, ends⟩ := wait_spec ready going (some wait)
      refine ⟨after, entries, waited, ?_, ?_⟩
      · intro still
        obtain ⟨rfl, rfl⟩ := goesOn still
        exact ⟨held, ready, fun _ => rfl⟩
      · exact fun ended fits => ends ended fits.waits fits.ends
  | ready pollin pollhup =>
      obtain ⟨next, lines, heldNext, read, sameEnding, pending, readyNext, logged⟩ :=
        read_spec ready pollin pollhup
      obtain ⟨after, entries, waited, goesOn, ends⟩ :=
        wait_spec readyNext (sameEnding.trans going) pollhup
      have without (fits : RoundFits parent (.ready pollin pollhup)) :
          pollin = some .fails → held = [] := by
        rintro rfl
        exact List.length_eq_zero_iff.mp (ready.b ▸ fits.reads pollhup rfl)
      refine ⟨after, lines.map Entry.line ++ entries, ?_, ?_, ?_⟩
      · rw [Parent.round, read]
        simp only [Option.bind_eq_bind, Option.bind_some, waited]
      · intro still
        obtain ⟨rfl, rfl⟩ := goesOn still
        refine ⟨heldNext, readyNext, fun fits => ?_⟩
        rw [List.append_nil, line?_lines]
        exact logged (without fits)
      · intro ended fits
        rw [List.filterMap_append, line?_lines, logged (without fits),
          ends ended fits.waits fun status gone => pending.trans (fits.ends status gone)]

end Round

/-! ## Runs -/

section Runs

variable {stream : List UInt8} {history : History Round Entry} {parent : Parent}

/-- Until it returns, `parent` has a buffer that is ready for the next round. -/
theorem ready_of_run (run : (childLog stream).Run System.free history parent) :
    parent.ending = none → ∃ held, Ready parent.log held := by
  apply run.invariant fun _ parent => parent.ending = none → ∃ held, Ready parent.log held
  · rintro state ⟨length, a, b, -, -⟩ -
    exact ⟨[], length, a, b, List.nil_prefix, Nat.succ_pos _, List.not_mem_nil, List.not_mem_nil⟩
  · intro history state round after out ready _ stepped going
    simp only [childLog] at stepped
    split at stepped
    case isFalse => cases stepped
    case isTrue wasGoing =>
      obtain ⟨held, isReady⟩ := ready wasGoing
      obtain ⟨next, entries, rounded, goesOn, -⟩ := round_spec isReady wasGoing round
      rw [rounded] at stepped
      cases stepped
      obtain ⟨heldAfter, readyAfter, -⟩ := goesOn going
      exact ⟨heldAfter, readyAfter⟩

/-- Every round goes through. -/
theorem round_isSome (run : (childLog stream).Run System.free history parent)
    (going : parent.ending = none) (round : Round) : (parent.round round).isSome := by
  obtain ⟨held, ready⟩ := ready_of_run run going
  obtain ⟨after, entries, rounded, -⟩ := round_spec ready going round
  rw [rounded]
  rfl

/-- What is logged and what remains are the pieces of the stream. -/
structure LogSound (stream : List UInt8) (history : History Round Entry) (parent : Parent) :
    Prop where
  going : parent.ending = none → ∃ held, Ready parent.log held ∧
    loggedLines history ++ remaining held parent.pending = remaining [] stream
  ended : parent.ending ≠ none → loggedLines history = remaining [] stream

theorem logSound (run : (childLog stream).Run roundFits history parent) :
    LogSound stream history parent := by
  apply run.invariant
  · rintro state ⟨length, a, b, pending, going⟩
    refine ⟨fun _ => ⟨[], ⟨length, a, b, List.nil_prefix, Nat.succ_pos _, List.not_mem_nil,
      List.not_mem_nil⟩, ?_⟩, fun ended => absurd going ended⟩
    rw [pending]
    rfl
  · intro history state round after out sound fits stepped
    simp only [childLog] at stepped
    split at stepped
    case isFalse => cases stepped
    case isTrue wasGoing =>
      obtain ⟨held, ready, logged⟩ := sound.going wasGoing
      obtain ⟨next, entries, rounded, goesOn, ends⟩ := round_spec ready wasGoing round
      rw [rounded] at stepped
      cases stepped
      have more : loggedLines (history ++ [(round, out)]) =
          loggedLines history ++ out.filterMap Entry.line? := by
        rw [loggedLines, History.outputs_snoc, List.filterMap_append]
        rfl
      constructor
      · intro going
        obtain ⟨heldAfter, readyAfter, keeps⟩ := goesOn going
        refine ⟨heldAfter, readyAfter, ?_⟩
        rw [more, List.append_assoc, ← keeps fits, logged]
      · intro ended
        rw [more, ends ended fits, logged]

end Runs

/-! ## Lines of the stream -/

/-- What is logged of a line with its end -/
def OutputLine.entries (line : OutputLine) : List (List UInt8) :=
  remaining [] line.bytes

/-- The NUL that a CR leaves in front of the LF -/
def OutputLine.mark (line : OutputLine) : List UInt8 :=
  if line.crlf then [0] else []

theorem map_blank {text : List UInt8} (plain : 13 ∉ text) : text.map blank = text := by
  have each (byte : UInt8) (among : byte ∈ text) : blank byte = id byte := by
    have other : byte ≠ 13 := by
      rintro rfl
      exact plain among
    exact if_neg other
  rw [List.map_congr_left each, List.map_id]

theorem map_blank_bytes (line : OutputLine) :
    line.bytes.map blank = line.text ++ line.mark ++ [10] := by
  rw [OutputLine.bytes, OutputLine.mark, List.map_append, map_blank line.plain.2]
  cases line.crlf with
  | true => simp [blank]
  | false => simp [blank]

theorem not_mem_mark (line : OutputLine) : 10 ∉ line.text ++ line.mark := by
  rw [OutputLine.mark, List.mem_append, not_or]
  refine ⟨line.plain.1, ?_⟩
  split
  · decide
  · exact List.not_mem_nil

theorem bufferSize_pos : 0 < bufferSize - 1 :=
  Nat.succ_pos _

theorem remaining_bytes (output : Output) :
    remaining [] output.bytes =
      output.lines.flatMap OutputLine.entries ++ remaining [] output.last := by
  rcases output with ⟨lines, last, plain⟩
  unfold Output.bytes
  induction lines with
  | nil => rfl
  | cons line lines ih =>
      have first := Stream.pieces_append_stop bufferSize_pos (not_mem_mark line)
        ((lines.flatMap OutputLine.bytes ++ last).map blank)
      rw [List.flatMap_cons, List.flatMap_cons, List.append_assoc, List.append_assoc, ← ih,
        OutputLine.entries, remaining, remaining, remaining, List.map_append, map_blank_bytes,
        List.append_assoc, List.singleton_append, ← List.map_append]
      exact congrArg (List.map entryOf) first

/-- A text without its end is logged in its pieces, up to the NULs in them. -/
theorem remaining_last {text : List UInt8} (plain : 10 ∉ text ∧ 13 ∉ text) :
    remaining [] text =
      (if text = [] then [] else linePieces text).map fun piece => piece.takeWhile (· ≠ 0) := by
  rw [remaining, map_blank plain.2]
  split
  case isTrue empty =>
    rw [empty]
    rfl
  case isFalse nonempty =>
    rw [linePieces, if_neg nonempty]
    apply List.map_congr_left
    intro piece among
    exact entryOf_plain fun occurs => plain.1 (Stream.mem_of_mem_pieces among occurs)

/-- The pieces of a line that leaves room for its end are logged, the end with the last of them. -/
theorem map_entryOf_pieces {text mark : List UInt8} (plain : 10 ∉ text)
    (isMark : mark = [] ∨ mark = [0])
    (fits : text = [] ∨ text.length % (bufferSize - 1) ≠ 0 ∧
      text.length % (bufferSize - 1) + mark.length < bufferSize - 1) :
    (pieces 10 (bufferSize - 1) (text ++ (mark ++ [10]))).map entryOf =
      (linePieces text).map fun piece => piece.takeWhile (· ≠ 0) := by
  have inMark : 10 ∉ mark := by
    rcases isMark with rfl | rfl
    · decide
    · decide
  induction text using Stream.blocks_induction bufferSize_pos with
  | short text short =>
      have inBody : 10 ∉ text ++ mark := by
        rw [List.mem_append, not_or]
        exact ⟨plain, inMark⟩
      have room : (text ++ mark).length < bufferSize - 1 := by
        rw [List.length_append]
        rcases fits with rfl | ⟨-, room⟩
        · rcases isMark with rfl | rfl
          · decide
          · decide
        · rwa [Nat.mod_eq_of_lt short] at room
      have cut : (text ++ mark).takeWhile (· ≠ 0) = text.takeWhile (· ≠ 0) := by
        rcases isMark with rfl | rfl
        · rw [List.append_nil]
        · exact takeWhile_append_nul text []
      have whole : linePieces text = [text] := by
        rw [linePieces]
        split
        case isTrue empty => rw [empty]
        case isFalse nonempty => rw [Stream.pieces_last plain short, if_neg nonempty]
      rw [← List.append_assoc, Stream.pieces_line inBody room, whole, List.map_cons,
        entryOf_line inBody, cut]
      rfl
  | block first more full ih =>
      rw [List.mem_append, not_or] at plain
      have nonempty : first ++ more ≠ [] := by
        intro empty
        rw [(List.append_eq_nil_iff.mp empty).1] at full
        exact Nat.ne_of_lt bufferSize_pos full
      have room := fits.resolve_left nonempty
      rw [List.length_append, full, Nat.add_mod_left] at room
      have nonemptyMore : more ≠ [] := by
        rintro rfl
        exact room.1 rfl
      rw [List.append_assoc, Stream.pieces_block bufferSize_pos plain.1 full, linePieces,
        if_neg nonempty, Stream.pieces_block bufferSize_pos plain.1 full, List.map_cons,
        List.map_cons, entryOf_plain plain.1, ih plain.2 (.inr room), linePieces,
        if_neg nonemptyMore]

/-- The entries of a line that leaves room for its end are its pieces. -/
theorem entries_of_fits {line : OutputLine} (fits : line.Fits) :
    line.entries = (linePieces line.text).map fun piece => piece.takeWhile (· ≠ 0) := by
  have isMark : line.mark = [] ∨ line.mark = [0] := by
    rw [OutputLine.mark]
    split
    · exact .inr rfl
    · exact .inl rfl
  rw [OutputLine.entries, remaining, map_blank_bytes, List.append_assoc]
  apply map_entryOf_pieces line.plain.1 isMark
  refine fits.imp id fun ⟨some_rest, room⟩ => ⟨some_rest, ?_⟩
  have within := Nat.mod_lt line.text.length bufferSize_pos
  rw [OutputLine.mark]
  split
  case isTrue crlf =>
    have apart := room crlf
    rw [List.length_singleton]
    unfold bufferSize at apart within ⊢
    omega
  case isFalse => exact within

/-- Another line has one entry more. -/
theorem length_entries_of_not_fits {line : OutputLine} (full : ¬ line.Fits) :
    line.entries.length = (linePieces line.text).length + 1 := by
  rw [OutputLine.Fits, not_or, not_and_or, not_not] at full
  have nonempty := List.length_pos_of_ne_nil full.1
  rw [OutputLine.entries, remaining, map_blank_bytes, List.length_map]
  have count := Stream.length_pieces_stop bufferSize_pos (not_mem_mark line)
  have countText := Stream.length_pieces bufferSize_pos line.plain.1
  rw [List.length_append] at count
  rw [linePieces, if_neg full.1, countText]
  refine count.trans ?_
  have rests := full.2
  rw [OutputLine.mark]
  unfold bufferSize at rests ⊢
  by_cases crlf : line.crlf = true
  · rw [if_pos crlf, List.length_singleton]
    simp only [crlf, true_implies, not_not] at rests
    omega
  · rw [if_neg crlf, List.length_nil]
    simp only [crlf, false_implies, Bool.false_eq_true, not_true, or_false] at rests
    omega

theorem length_linePieces_le (line : OutputLine) :
    (linePieces line.text).length ≤ line.entries.length := by
  by_cases fits : line.Fits
  · rw [entries_of_fits fits, List.length_map]
  · rw [length_entries_of_not_fits fits]
    exact Nat.le_succ _

theorem flatten_linePieces (text : List UInt8) : (linePieces text).flatten = text := by
  rw [linePieces]
  split
  case isTrue empty => rw [empty]; rfl
  case isFalse => exact Stream.flatten_pieces text

/-- The NULs of a stream are in what is to be logged. -/
theorem nul_mem_bytes_iff (output : Output) :
    0 ∈ output.bytes ↔ ∃ piece ∈ output.logged, 0 ∈ piece := by
  have inPieces (text : List UInt8) : 0 ∈ text ↔ ∃ piece ∈ linePieces text, 0 ∈ piece := by
    rw [← List.mem_flatten, flatten_linePieces]
  have inLine (line : OutputLine) :
      0 ∈ line.bytes ↔ ∃ piece ∈ linePieces line.text, 0 ∈ piece := by
    rw [← inPieces, OutputLine.bytes, List.mem_append, or_iff_left]
    split
    · decide
    · decide
  have inLast : 0 ∈ output.last ↔
      ∃ piece ∈ (if output.last = [] then [] else linePieces output.last), 0 ∈ piece := by
    split
    case isTrue empty => simp [empty]
    case isFalse => exact inPieces output.last
  rw [Output.bytes, Output.logged, List.mem_append, List.mem_flatMap, inLast]
  simp only [List.mem_append, List.mem_flatMap, or_and_right, exists_or, inLine]
  refine or_congr_left ⟨?_, ?_⟩
  · rintro ⟨line, among, piece, isPiece, nul⟩
    exact ⟨piece, ⟨line, among, isPiece⟩, nul⟩
  · rintro ⟨piece, ⟨line, among, isPiece⟩, nul⟩
    exact ⟨line, among, piece, isPiece, nul⟩

/-- When the lines fit, what remains of a stream is what is to be logged, up to the NULs in it. -/
theorem remaining_eq_map_logged {output : Output} (fits : ∀ line ∈ output.lines, line.Fits) :
    remaining [] output.bytes = output.logged.map fun piece => piece.takeWhile (· ≠ 0) := by
  rw [remaining_bytes, remaining_last output.plain, Output.logged, List.map_append,
    List.map_flatMap]
  congr 1
  exact List.flatMap_congr fun line among => entries_of_fits (fits line among)

/-- When a line does not fit, there are more entries than pieces. -/
theorem length_logged_lt {output : Output} {line : OutputLine} (among : line ∈ output.lines)
    (full : ¬ line.Fits) : output.logged.length < (remaining [] output.bytes).length := by
  rw [remaining_bytes, remaining_last output.plain, Output.logged, List.length_append,
    List.length_append, List.length_map, List.length_flatMap, List.length_flatMap]
  apply Nat.add_lt_add_right
  apply List.sum_lt_sum
  · exact fun other _ => length_linePieces_le other
  · refine ⟨line, among, ?_⟩
    rw [length_entries_of_not_fits full]
    exact Nat.lt_succ_self _

/-- What remains of a stream is what is to be logged of it exactly when the stream fits. -/
theorem remaining_eq_logged_iff (output : Output) :
    remaining [] output.bytes = output.logged ↔ output.Fits := by
  by_cases fits : ∀ line ∈ output.lines, line.Fits
  · have plain : output.Fits ↔ 0 ∉ output.bytes :=
      ⟨fun all => all.plain, fun noNul => ⟨noNul, fits⟩⟩
    rw [remaining_eq_map_logged fits, plain, nul_mem_bytes_iff, not_exists]
    conv_lhs => rw [← List.map_id output.logged, List.map_map]
    rw [List.map_inj_left]
    refine forall_congr' fun piece => ?_
    rw [not_and]
    refine imp_congr_right fun _ => ?_
    rw [Function.comp_id, id_eq, List.takeWhile_eq_self_iff]
    constructor
    · intro all nul
      exact absurd rfl (of_decide_eq_true (all 0 nul))
    · rintro noNul byte among
      exact decide_eq_true fun same => noNul (same ▸ among)
  · constructor
    · intro same
      push Not at fits
      obtain ⟨line, among, full⟩ := fits
      have more := length_logged_lt among full
      rw [same] at more
      exact absurd more (Nat.lt_irrefl _)
    · exact fun all => absurd all.lines fits

/-- Every round of every run goes through.  When the rounds fit, what is logged when `parent`
returns is what is to be logged of the stream exactly when the stream fits, and what is logged
before is the beginning of it. -/
theorem childLog_exact (output : Output) :
    (∀ history parent, (childLog output.bytes).Run System.free history parent →
      parent.ending = none → ∀ round, (parent.round round).isSome) ∧
    ∀ history parent, (childLog output.bytes).Run roundFits history parent →
      (parent.ending ≠ none → (loggedLines history = output.logged ↔ output.Fits)) ∧
        (output.Fits → loggedLines history <+: output.logged) := by
  constructor
  · exact fun history parent run going round => round_isSome run going round
  · intro history parent run
    have sound := logSound run
    constructor
    · intro ended
      rw [sound.ended ended]
      exact remaining_eq_logged_iff output
    · intro fits
      rw [← (remaining_eq_logged_iff output).mpr fits]
      by_cases going : parent.ending = none
      · obtain ⟨held, -, logged⟩ := sound.going going
        exact ⟨_, logged⟩
      · exact ⟨[], (List.append_nil _).trans (sound.ended going)⟩

/-- The stream `ab\nc`. -/
def shortOutput : Output :=
  ⟨[⟨[97, 98], false, by decide⟩], [99], by decide⟩

/-- Before the first round, with NULs in the buffer. -/
def beforeRounds (stream : List UInt8) : Parent :=
  ⟨⟨List.replicate bufferSize 0, 0, 0⟩, stream, none⟩

theorem init_beforeRounds (stream : List UInt8) : (childLog stream).Init (beforeRounds stream) :=
  ⟨List.length_replicate, rfl, rfl, rfl, rfl⟩

theorem step_of_going {stream : List UInt8} {parent : Parent} (going : parent.ending = none)
    (round : Round) : (childLog stream).step parent round = parent.round round :=
  if_pos going

/-- A read that ends within the first line -/
def cutRead : Round :=
  .ready (some (.bytes 1)) none

/-- The read of the rest, after which the child is found -/
def lastRead : Round :=
  .ready (some (.bytes 3)) (some (.gone (.exited 0)))

/-- The child is found after the last of its two lines is read. -/
theorem childLog_shortOutput :
    ∃ history parent, (childLog shortOutput.bytes).Run roundFits history parent ∧
      parent.ending ≠ none ∧ loggedLines history = [[97, 98], [99]] := by
  have seen : (((beforeRounds shortOutput.bytes).round cutRead).bind fun middle =>
      (middle.1.round lastRead).map fun last =>
        (middle.1.ending, middle.1.unread lastRead, last.1.ending)) =
          some (none, [], some (.childFound (.exited 0))) := by
    decide +kernel
  obtain ⟨⟨middle, _⟩, begun, rest⟩ := Option.bind_eq_some_iff.mp seen
  obtain ⟨⟨after, _⟩, rounded, found⟩ := Option.map_eq_some_iff.mp rest
  obtain ⟨going, unread, ending⟩ : middle.ending = none ∧ middle.unread lastRead = [] ∧
      after.ending = some (.childFound (.exited 0)) := by
    simpa only [Prod.mk.injEq] using found
  rw [← step_of_going rfl] at begun
  rw [← step_of_going going] at rounded
  have first : RoundFits (beforeRounds shortOutput.bytes) cutRead := ⟨nofun, nofun, nofun, nofun⟩
  have second : RoundFits middle lastRead := ⟨nofun, nofun, nofun, fun _ _ => unread⟩
  have run : (childLog shortOutput.bytes).Run roundFits _ after :=
    .next (.next (.start (init_beforeRounds shortOutput.bytes)) first begun) second rounded
  have ended : after.ending ≠ none := by
    rw [ending]
    exact nofun
  have plain : shortOutput.Fits := by
    refine ⟨by decide, ?_⟩
    rintro line (_ | ⟨_, ⟨⟩⟩)
    exact .inr ⟨by decide, nofun⟩
  have pieces : shortOutput.logged = [[97, 98], [99]] := by decide
  have logged := (((childLog_exact shortOutput).2 _ after run).1 ended).mpr plain
  exact ⟨_, after, run, ended, logged.trans pieces⟩

/-- A read that fails behind `ab` drops the `b`. -/
theorem childLog_failedRead :
    ¬ ∀ (output : Output) (history : History Round Entry) (parent : Parent),
      (childLog output.bytes).Run System.free history parent →
        parent.ending = some (.childFound (.exited 0)) → loggedLines history = output.logged := by
  intro claimed
  have executed : ((childLog [97, 98]).exec (beforeRounds [97, 98])
      [.ready (some (.bytes 2)) none,
        .ready (some .fails) (some (.gone (.exited 0)))]).map
          (fun final => (loggedLines final.1, final.2.ending)) =
        some ([[97]], some (.childFound (.exited 0))) := by
    decide +kernel
  obtain ⟨history, parent, run, seen⟩ := System.exists_run_of_exec _ System.free _ _
    (init_beforeRounds [97, 98]) (by decide +kernel) executed
  obtain ⟨logged, found⟩ := Prod.mk.inj seen
  have same := claimed ⟨[], [97, 98], by decide⟩ history parent run found
  rw [logged] at same
  revert same
  decide

end X3Hal.Mdctrl
