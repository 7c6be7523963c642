import X3Hal.Gps.Parse
import X3Hal.Transition.Core
import Mathlib.Data.Int.Log

/-!
# The HAL thread

`gps_state_thread` reads the daemon's NMEA data and feeds it to the reader byte by
byte, and takes commands in between.  What its events do to the reader is a list of
reader events.
-/

namespace X3Hal.Gps

open X3Hal.Transition

/-- What the thread does to the reader. -/
inductive ReaderEvent
  /-- `nmea_reader_addc`, with `gps_nmea_end_tag` and the time -/
  | addc (now : Int) (endTag : Bool) (c : UInt8)
  /-- `nmea_reader_set_callback` -/
  | setCallback
  /-- `fix_mode = 0` -/
  | clearFixMode
  deriving DecidableEq, Repr

/-- The reader events of one successful `read`; the last byte carries the end tag. -/
def readEvents (now : Int) : List UInt8 → List ReaderEvent
  | [] => []
  | c :: rest => .addc now (rest = []) c :: readEvents now rest

/-! ## The report interval -/

/-- The nearest integer, and of two the even one. -/
def roundHalfEven (q : ℚ) : Int :=
  if Int.fract q < 1 / 2 then ⌊q⌋
  else if 1 / 2 < Int.fract q then ⌊q⌋ + 1
  else if 2 ∣ ⌊q⌋ then ⌊q⌋
  else ⌊q⌋ + 1

/-- A positive number as a `float` of 24 significant bits. -/
def toFloat (q : ℚ) : ℚ :=
  let ulp : ℚ := 2 ^ (Int.log 2 q - 23)
  roundHalfEven (q / ulp) * ulp

/-- What `mtk_gps_set_position_mode` sets `report_time_interval` to. -/
def positionModeInterval (minInterval : Nat) : ℚ :=
  if minInterval ≤ 1000 then 1 else toFloat (toFloat minInterval / 1000)

/-- The thread's variables beside the reader. -/
structure HalThread where
  reader : NmeaReader
  started : Bool
  /-- `report_time_interval` -/
  reportTimeInterval : ℚ
  /-- `count` of the reads that were thinned out -/
  count : Nat

def halThreadInit : HalThread :=
  ⟨nmeaReaderInit, false, 0, 0⟩

/-- What the thread waits for, and `mtk_gps_set_position_mode`. -/
inductive HalEvent
  /-- data from the daemon, as the `read` calls of this event deliver it -/
  | gps (now : Int) (reads : List (List UInt8))
  /-- `CMD_START` -/
  | start
  /-- `CMD_STOP` -/
  | stop
  /-- `CMD_RESTART` -/
  | restart
  | setPositionMode (minInterval : Nat)
  deriving DecidableEq, Repr

section Step

variable (cfg : GpsConfig) (libc : LibcTime)

def readerStep (event : ReaderEvent) (r : NmeaReader) : Parsed :=
  match event with
  | .addc now endTag c => nmeaReaderAddc cfg libc now endTag c r
  | .setCallback => (nmeaReaderSetCallback r, [.dropSets])
  | .clearFixMode => ({ r with fixMode := 0 }, [])

/-- The reader after a list of events. -/
def readerRun : List ReaderEvent → NmeaReader → Parsed
  | [], r => (r, [])
  | event :: events, r => (readerStep cfg libc event r).andThen (readerRun events)

/-- The reader as a system, for runs of any length. -/
def readerSystem : System NmeaReader ReaderEvent ReaderOutput where
  Init := fun r => r = nmeaReaderInit
  step := fun r event => some (readerStep cfg libc event r)

/-- The thread thins out a gps event: one `read`, and its data is dropped. -/
def HalThread.thinsOut (thread : HalThread) : Bool :=
  (thread.count + 1 : ℚ) < thread.reportTimeInterval

/-- The reader events of one event of the thread. -/
def HalThread.readerEvents (thread : HalThread) : HalEvent → List ReaderEvent
  | .gps now reads => if thread.thinsOut then [] else reads.flatMap (readEvents now)
  | .start => if thread.started then [] else [.setCallback]
  | .stop => []
  | .restart => [.clearFixMode]
  | .setPositionMode _ => []

/-- One event of `gps_state_thread`. -/
def HalThread.step (thread : HalThread) (event : HalEvent) : HalThread × List ReaderOutput :=
  let fed := readerRun cfg libc (thread.readerEvents event) thread.reader
  (match event with
    | .gps _ _ =>
        { thread with reader := fed.1, count := if thread.thinsOut then thread.count + 1 else 0 }
    | .start => { thread with reader := fed.1, started := true }
    | .stop => { thread with reader := fed.1, started := false }
    | .restart => { thread with reader := fed.1 }
    | .setPositionMode minInterval =>
        { thread with
          reader := fed.1
          reportTimeInterval := positionModeInterval minInterval },
    fed.2)

/-- What the thread shows for a list of events. -/
def HalThread.outputs (thread : HalThread) : List HalEvent → List ReaderOutput
  | [] => []
  | event :: events =>
      (thread.step cfg libc event).2 ++ (thread.step cfg libc event).1.outputs events

end Step

/-! ## Runs of the reader -/

section Run

variable {cfg : GpsConfig} {libc : LibcTime}

@[simp]
theorem readerRun_nil (r : NmeaReader) : readerRun cfg libc [] r = (r, []) :=
  rfl

@[simp]
theorem Parsed.silent_andThen (r : NmeaReader) (next : NmeaReader → Parsed) :
    Parsed.andThen (r, []) next = next r := by
  simp [Parsed.andThen]

@[simp]
theorem Parsed.andThen_silent (parsed : Parsed) :
    (parsed.andThen fun r => (r, [])) = parsed := by
  simp [Parsed.andThen]

theorem Parsed.andThen_assoc (first : Parsed) (second third : NmeaReader → Parsed) :
    (first.andThen second).andThen third =
      first.andThen fun r => (second r).andThen third := by
  simp [Parsed.andThen]

theorem readerRun_append (events more : List ReaderEvent) (r : NmeaReader) :
    readerRun cfg libc (events ++ more) r =
      (readerRun cfg libc events r).andThen (readerRun cfg libc more) := by
  induction events generalizing r with
  | nil => simp [readerRun, Parsed.andThen]
  | cons event events ih =>
      rw [List.cons_append, readerRun, readerRun, Parsed.andThen_assoc]
      congr 1
      funext next
      exact ih next

variable (cfg libc) in
/-- Executing reader events as a system is the reader's run. -/
theorem execFrom_readerSystem (events : List ReaderEvent)
    (history : History ReaderEvent ReaderOutput) (r : NmeaReader) :
    ∃ final, (readerSystem cfg libc).execFrom history r events =
        some (final, (readerRun cfg libc events r).1) ∧
      final.outputs = history.outputs ++ (readerRun cfg libc events r).2 := by
  induction events generalizing history r with
  | nil => exact ⟨history, rfl, by simp⟩
  | cons event events ih =>
      obtain ⟨final, executed, outputs⟩ :=
        ih (history ++ [(event, (readerStep cfg libc event r).2)]) (readerStep cfg libc event r).1
      refine ⟨final, executed, ?_⟩
      rw [outputs, History.outputs_snoc, List.append_assoc]
      rfl

variable (cfg libc) in
/-- Reader events that meet a guard are a guarded run of the reader. -/
theorem exists_run_readerRun (guard : System.Guard NmeaReader ReaderEvent ReaderOutput)
    [∀ history r event, Decidable (guard history r event)] (events : List ReaderEvent)
    (passes : (readerSystem cfg libc).meets guard [] nmeaReaderInit events = true) :
    ∃ history, (readerSystem cfg libc).Run guard history
        (readerRun cfg libc events nmeaReaderInit).1 ∧
      history.outputs = (readerRun cfg libc events nmeaReaderInit).2 := by
  obtain ⟨history, executed, outputs⟩ :=
    execFrom_readerSystem cfg libc events [] nmeaReaderInit
  exact ⟨history, System.run_of_exec _ guard events rfl passes executed, outputs⟩

end Run

end X3Hal.Gps
