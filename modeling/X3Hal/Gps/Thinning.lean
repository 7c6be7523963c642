import X3Hal.Gps.Framing

/-!
# Thinning of reports

When the framework asks for reports less often than every second, the thread drops the
data of some of its gps events.  The reader keeps the line that it has begun meanwhile, so
what it parses are lines of the daemon only when the data fed after a drop goes on where
the reader's line stands.
-/

namespace X3Hal.Gps

open X3Hal.Stream X3Hal.Transition

/-- A gps event that is thinned out makes a single `read`. -/
def HalThread.takes (thread : HalThread) : HalEvent → Bool
  | .gps _ reads => !thread.thinsOut || reads.length ≤ 1
  | _ => true

/-- The thread as a system, for runs of any length. -/
def halSystem (cfg : GpsConfig) (libc : LibcTime) : System HalThread HalEvent ReaderOutput where
  Init := fun thread => thread = halThreadInit
  step := fun thread event =>
    if thread.takes event then some (thread.step cfg libc event) else none

/-- The sentences parsed so far are lines of the daemon's data, in its order. -/
def OnlyLines (history : History HalEvent ReaderOutput) : Prop :=
  (parsedSentences history.outputs).Sublist (lines newline (gpsStream history.events))

/-- The bytes collected are what the daemon's current line has begun with, or the rest of
a line is being skipped. -/
def InStep (history : History HalEvent ReaderOutput) (thread : HalThread) : Prop :=
  LineBuffer.Aligned nmeaMaxSize (unfinished newline (gpsStream history.events))
    thread.reader.lineBuffer

instance (history : History HalEvent ReaderOutput) (thread : HalThread) :
    Decidable (InStep history thread) :=
  inferInstanceAs (Decidable (LineBuffer.Aligned _ _ _))

/-- The first gps event that is processed after dropped ones finds the reader in step. -/
def dropsInStep : System.Guard HalThread HalEvent ReaderOutput
  | history, thread, .gps _ _ => thread.thinsOut = false → thread.count ≠ 0 → InStep history thread
  | _, _, _ => True

instance (history : History HalEvent ReaderOutput) (thread : HalThread) (event : HalEvent) :
    Decidable (dropsInStep history thread event) :=
  match event with
  | .gps _ _ => inferInstanceAs (Decidable (_ → _ → _))
  | .start | .stop | .restart | .setPositionMode _ => inferInstanceAs (Decidable True)

section Step

variable {cfg : GpsConfig} {libc : LibcTime} {history : History HalEvent ReaderOutput}
  {thread : HalThread}

theorem gpsStream_append (events more : List HalEvent) :
    gpsStream (events ++ more) = gpsStream events ++ gpsStream more :=
  List.flatMap_append

/-- The reader is in step between drops, and has parsed only lines. -/
structure ReaderOnLines (history : History HalEvent ReaderOutput) (thread : HalThread) : Prop where
  skipsEmpty : thread.reader.lineBuffer.SkipsEmpty
  inStep : thread.count = 0 → InStep history thread
  onlyLines : OnlyLines history

/-- A step is the run of its reader events. -/
theorem step_reader (cfg : GpsConfig) (libc : LibcTime) (thread : HalThread) (event : HalEvent) :
    (thread.step cfg libc event).1.reader =
        (readerRun cfg libc (thread.readerEvents event) thread.reader).1 ∧
      (thread.step cfg libc event).2 =
        (readerRun cfg libc (thread.readerEvents event) thread.reader).2 := by
  cases event <;> exact ⟨rfl, rfl⟩

theorem step_line (cfg : GpsConfig) (libc : LibcTime) (thread : HalThread) (event : HalEvent) :
    (thread.step cfg libc event).1.reader.lineBuffer =
        LineBuffer.after newline nmeaMaxSize thread.reader.lineBuffer
          (fedBytes (thread.readerEvents event)) ∧
      parsedSentences (thread.step cfg libc event).2 =
        LineBuffer.taken newline nmeaMaxSize thread.reader.lineBuffer
          (fedBytes (thread.readerEvents event)) := by
  obtain ⟨reader, outputs⟩ := step_reader cfg libc thread event
  rw [reader, outputs]
  exact readerRun_line cfg libc (thread.readerEvents event) thread.reader

theorem lines_snoc (event : HalEvent) (out : List ReaderOutput) :
    lines newline (gpsStream (history ++ [(event, out)]).events) =
      lines newline (gpsStream history.events) ++
        linesFrom newline (unfinished newline (gpsStream history.events)) (gpsStream [event]) := by
  rw [History.events_snoc, gpsStream_append, lines, linesFrom_append]
  rfl

theorem unfinished_snoc (event : HalEvent) (out : List ReaderOutput) :
    unfinished newline (gpsStream (history ++ [(event, out)]).events) =
      unfinishedFrom newline (unfinished newline (gpsStream history.events))
        (gpsStream [event]) := by
  rw [History.events_snoc, gpsStream_append, unfinished, unfinishedFrom_append]
  rfl

/-- Whatever the daemon sends, a step that feeds nothing parses nothing. -/
theorem OnlyLines.unfed (before : OnlyLines history) (cfg : GpsConfig) (libc : LibcTime)
    {event : HalEvent} (unfed : fedBytes (thread.readerEvents event) = []) :
    OnlyLines (history ++ [(event, (thread.step cfg libc event).2)]) := by
  rw [OnlyLines, lines_snoc, History.outputs_snoc, parsedSentences_append,
    (step_line cfg libc thread event).2, unfed]
  exact before.append (List.nil_sublist _)

/-- What is fed to a reader in step is parsed as lines, and leaves it in step. -/
theorem OnlyLines.fed (before : OnlyLines history)
    (empty : thread.reader.lineBuffer.SkipsEmpty) (inStep : InStep history thread)
    (cfg : GpsConfig) (libc : LibcTime) {event : HalEvent} (all : thread.thinsOut = false) :
    InStep (history ++ [(event, (thread.step cfg libc event).2)])
        (thread.step cfg libc event).1 ∧
      OnlyLines (history ++ [(event, (thread.step cfg libc event).2)]) := by
  obtain ⟨buffer, sentences⟩ := step_line cfg libc thread event
  rw [fedBytes_readerEvents all] at buffer sentences
  have after := @LineBuffer.Aligned.after _ _ newline nmeaMaxSize _ _ inStep empty
    (gpsStream [event])
  constructor
  · rw [InStep, unfinished_snoc, buffer]
    exact after.1
  · rw [OnlyLines, lines_snoc, History.outputs_snoc, parsedSentences_append, sentences]
    exact before.append after.2

/-- The events that are not the daemon's feed nothing and leave the reader in step. -/
theorem ReaderOnLines.command (before : ReaderOnLines history thread) (cfg : GpsConfig)
    (libc : LibcTime) {event : HalEvent} (unfed : fedBytes (thread.readerEvents event) = [])
    (noData : gpsStream [event] = [])
    (sameCount : (thread.step cfg libc event).1.count = thread.count) :
    ReaderOnLines (history ++ [(event, (thread.step cfg libc event).2)])
      (thread.step cfg libc event).1 := by
  obtain ⟨buffer, -⟩ := step_line cfg libc thread event
  rw [unfed] at buffer
  refine ⟨?_, ?_, before.onlyLines.unfed cfg libc unfed⟩
  · rw [buffer]
    exact before.skipsEmpty
  · intro idle
    rw [sameCount] at idle
    rw [InStep, unfinished_snoc, noData, buffer]
    exact before.inStep idle

theorem readerOnLines_step (cfg : GpsConfig) (libc : LibcTime)
    (before : ReaderOnLines history thread) {event : HalEvent}
    (guarded : dropsInStep history thread event) :
    ReaderOnLines (history ++ [(event, (thread.step cfg libc event).2)])
      (thread.step cfg libc event).1 := by
  cases event with
  | gps now reads =>
      cases thins : thread.thinsOut with
      | true =>
          have unfed : fedBytes (thread.readerEvents (.gps now reads)) = [] := by
            rw [HalThread.readerEvents, if_pos thins]
            rfl
          obtain ⟨buffer, -⟩ := step_line cfg libc thread (.gps now reads)
          rw [unfed] at buffer
          refine ⟨?_, ?_, before.onlyLines.unfed cfg libc unfed⟩
          · rw [buffer]
            exact before.skipsEmpty
          · intro idle
            simp [HalThread.step, thins] at idle
      | false =>
          have inStep : InStep history thread := by
            by_cases idle : thread.count = 0
            · exact before.inStep idle
            · exact guarded thins idle
          obtain ⟨stillInStep, onlyLines⟩ :=
            @OnlyLines.fed history thread before.onlyLines before.skipsEmpty inStep cfg libc
              (.gps now reads) thins
          refine ⟨?_, fun _ => stillInStep, onlyLines⟩
          rw [(step_line cfg libc thread (.gps now reads)).1]
          exact LineBuffer.skipsEmpty_after before.skipsEmpty _
  | start =>
      refine before.command cfg libc ?_ rfl rfl
      cases started : thread.started with
      | true => simp [HalThread.readerEvents, started, fedBytes]
      | false => simp [HalThread.readerEvents, started, fedBytes]
  | stop => exact before.command cfg libc rfl rfl rfl
  | restart => exact before.command cfg libc rfl rfl rfl
  | setPositionMode minInterval => exact before.command cfg libc rfl rfl rfl

end Step

/-- In every run whose drops leave the reader in step, the sentences parsed are lines of
the daemon's data. -/
theorem parsed_lines_of_dropsInStep (cfg : GpsConfig) (libc : LibcTime)
    (history : History HalEvent ReaderOutput) (thread : HalThread)
    (running : (halSystem cfg libc).Run dropsInStep history thread) :
    OnlyLines history := by
  have invariant : ReaderOnLines history thread := by
    refine running.invariant ReaderOnLines ?_ ?_
    · rintro thread rfl
      exact ⟨fun _ => rfl, fun _ => .inr (.inr rfl), List.Sublist.refl _⟩
    · intro history thread event after out before guarded stepped
      simp only [halSystem] at stepped
      split at stepped
      case isTrue _ =>
          obtain ⟨rfl, rfl⟩ := Prod.mk.inj (Option.some.inj stepped)
          exact readerOnLines_step cfg libc before guarded
      case isFalse _ => exact nomatch stepped
  exact invariant.onlyLines

/-- Reports every two seconds: a line in two reads, a dropped read of whole lines, and a
line after it. -/
def wholeLinesDropped : List HalEvent :=
  [.gps 0 [ascii ['$', 'G', 'P'], ascii ['A', '\n']], .setPositionMode 2000,
    .gps 1 [ascii ['B', '\n']], .gps 2 [ascii ['C', '\n']]]

/-- The head of one line, a dropped read, and the tail of another line. -/
def headDropped : List HalEvent :=
  [.gps 0 [ascii ['A']], .setPositionMode 2000, .gps 1 [ascii ['B', '\n', 'C']],
    .gps 2 [ascii ['D', '\n']]]

/-- What a run shows: the sentences parsed, and the daemon's lines. -/
def linesView (result : History HalEvent ReaderOutput × HalThread) :
    List (List UInt8) × List (List UInt8) :=
  (parsedSentences result.1.outputs, lines newline (gpsStream result.1.events))

theorem parsed_lines_of_dropsInStep_wholeLines :
    ∃ history thread, OnlyLines history ∧
      linesView (history, thread) =
        ([ascii ['$', 'G', 'P', 'A', '\n'], ascii ['C', '\n']],
          [ascii ['$', 'G', 'P', 'A', '\n'], ascii ['B', '\n'], ascii ['C', '\n']]) := by
  obtain ⟨history, thread, running, viewed⟩ :=
    System.exists_run_of_exec (halSystem gnssConfig LibcTime.utc) dropsInStep wholeLinesDropped
      linesView rfl (by decide +kernel)
      (by decide +kernel : _ = some
        ([ascii ['$', 'G', 'P', 'A', '\n'], ascii ['C', '\n']],
          [ascii ['$', 'G', 'P', 'A', '\n'], ascii ['B', '\n'], ascii ['C', '\n']]))
  exact ⟨history, thread,
    parsed_lines_of_dropsInStep gnssConfig LibcTime.utc history thread running, viewed⟩

/-- The dropped read joins the head to the tail. -/
theorem headDropped_joined :
    ¬∀ (cfg : GpsConfig) (libc : LibcTime) (history : History HalEvent ReaderOutput)
      (thread : HalThread), (halSystem cfg libc).Run System.free history thread →
        OnlyLines history := by
  intro claimed
  obtain ⟨history, thread, running, viewed⟩ :=
    System.exists_run_of_exec (halSystem gnssConfig LibcTime.utc) System.free headDropped
      linesView rfl (by decide +kernel)
      (by decide +kernel : _ = some
        ([ascii ['A', 'D', '\n']], [ascii ['A', 'B', '\n'], ascii ['C', 'D', '\n']]))
  have only := claimed gnssConfig LibcTime.utc history thread running
  obtain ⟨parsed, daemon⟩ := Prod.mk.inj viewed
  rw [OnlyLines, parsed, daemon] at only
  exact absurd only (by decide)

end X3Hal.Gps
