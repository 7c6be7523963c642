import X3Hal.Gps.HalThread
import X3Hal.Gps.ParseFrame
import X3Hal.Stream.Lines

/-!
# Framing of NMEA sentences

The bytes a reader collects are a line buffer of 128 bytes, and nothing that parsing
does touches them.  So the sentences handed to `nmea_reader_parse` are the lines of
the daemon's data that fit, however the data is split into reads, as long as no line
fills the buffer exactly: the newline of such a line arrives at a full buffer, is not
looked at, and the line after it is skipped.
-/

namespace X3Hal.Gps

open X3Hal.Stream

/-- The sentences handed to `nmea_reader_parse`. -/
def parsedSentences (outputs : List ReaderOutput) : List (List UInt8) :=
  outputs.filterMap fun
    | .parse sentence => some sentence
    | _ => none

@[simp]
theorem parsedSentences_append (outputs more : List ReaderOutput) :
    parsedSentences (outputs ++ more) = parsedSentences outputs ++ parsedSentences more :=
  List.filterMap_append

/-- The bytes collected for a sentence. -/
def NmeaReader.lineBuffer (r : NmeaReader) : LineBuffer UInt8 :=
  ⟨r.input, r.overflow⟩

theorem lineBuffer_eq {r : NmeaReader} {overflow : Bool} (is : r.overflow = overflow) :
    r.lineBuffer = ⟨r.input, overflow⟩ :=
  congrArg (LineBuffer.mk r.input) is

/-! ## Parsing keeps the bytes collected -/

section Keeps

variable (cfg : GpsConfig) (libc : LibcTime) (now : Int)

theorem lineBuffer_of_apartFromFix {r next : NmeaReader}
    (same : next.apartFromFix = r.apartFromFix) : next.lineBuffer = r.lineBuffer := by
  show next.apartFromFix.lineBuffer = r.apartFromFix.lineBuffer
  rw [same]

/-- A step keeps the bytes collected and hands on no sentence. -/
structure KeepsLine (r : NmeaReader) (parsed : Parsed) : Prop where
  lineBuffer : parsed.1.lineBuffer = r.lineBuffer
  sentences : parsedSentences parsed.2 = []

variable {cfg libc now}

theorem KeepsLine.refl (r : NmeaReader) : KeepsLine r (r, []) :=
  ⟨rfl, rfl⟩

theorem KeepsLine.andThen {r : NmeaReader} {parsed : Parsed} (first : KeepsLine r parsed)
    {next : NmeaReader → Parsed} (second : ∀ r, KeepsLine r (next r)) :
    KeepsLine r (parsed.andThen next) := by
  constructor
  · rw [Parsed.andThen, (second parsed.1).lineBuffer, first.lineBuffer]
  · rw [Parsed.andThen, parsedSentences_append, first.sentences, (second parsed.1).sentences]
    rfl

theorem KeepsLine.of_changesSvs {r : NmeaReader} {parsed : Parsed}
    (changes : ChangesSvs r parsed) :
    KeepsLine r parsed := by
  constructor
  · show parsed.1.apartFromSvs.lineBuffer = r.apartFromSvs.lineBuffer
    rw [changes.reader]
  · rw [parsedSentences, List.filterMap_eq_nil_iff]
    intro output shown
    have about := changes.outputs output shown
    cases output with
    | parse => exact about.elim
    | _ => rfl

theorem keepsLine_parseSentence (field : List UInt8) (tzer : NmeaTokenizer) (r : NmeaReader) :
    KeepsLine r (parseSentence cfg libc now field tzer r) := by
  unfold parseSentence
  dsimp only
  cases sentenceKind cfg field with
  | gsvGnss => exact .of_changesSvs (changesSvs_parseGsvGnss cfg _ tzer r)
  | gsvGps => exact .of_changesSvs (changesSvs_parseGsvGps cfg _ tzer r)
  | gga => exact ⟨lineBuffer_of_apartFromFix (apartFromFix_parseGga libc now tzer r), rfl⟩
  | gsaGnss =>
      refine ⟨?_, rfl⟩
      rw [parseGsaGnss_eq]
      rfl
  | gsaGps => exact ⟨rfl, rfl⟩
  | rmc => exact ⟨lineBuffer_of_apartFromFix (apartFromFix_parseRmc libc now tzer r), rfl⟩
  | accuracy => exact ⟨lineBuffer_of_apartFromFix (apartFromFix_parseAccuracy tzer r), rfl⟩
  | unknown => exact .refl r

theorem keepsLine_reportFix (endTag : Bool) (r : NmeaReader) :
    KeepsLine r (reportFix endTag r) := by
  unfold reportFix
  split
  · exact ⟨rfl, rfl⟩
  · exact .refl r

theorem keepsLine_reportSvs (endTag : Bool) (r : NmeaReader) :
    KeepsLine r (reportSvs cfg endTag r) := by
  unfold reportSvs
  split
  · split
    · exact ⟨rfl, rfl⟩
    · exact .refl r
  · split
    · exact ⟨rfl, rfl⟩
    · exact .refl r

private theorem parse_andThen (r : NmeaReader) (sentence : List UInt8)
    {next : NmeaReader → Parsed} (keeps : ∀ r, KeepsLine r (next r)) :
    (Parsed.andThen (r, [.parse sentence]) next).1.lineBuffer = r.lineBuffer ∧
      parsedSentences (Parsed.andThen (r, [.parse sentence]) next).2 = [sentence] := by
  refine ⟨(keeps r).lineBuffer, ?_⟩
  rw [Parsed.andThen, parsedSentences_append, (keeps r).sentences]
  rfl

variable (cfg libc now) in
/-- `nmea_reader_parse` is entered with the bytes collected, and keeps them. -/
theorem nmeaReaderParse_line (endTag : Bool) (r : NmeaReader) :
    (nmeaReaderParse cfg libc now endTag r).1.lineBuffer = r.lineBuffer ∧
      parsedSentences (nmeaReaderParse cfg libc now endTag r).2 = [r.input] := by
  unfold nmeaReaderParse
  dsimp only
  split
  · exact ⟨rfl, rfl⟩
  · split
    · exact ⟨rfl, rfl⟩
    · rw [Parsed.andThen_assoc, Parsed.andThen_assoc]
      exact parse_andThen r r.input fun next =>
        (keepsLine_parseSentence _ _ next).andThen fun next =>
          (keepsLine_reportFix endTag next).andThen (keepsLine_reportSvs endTag)

variable (cfg libc now) in
/-- `nmea_reader_addc` is the line buffer of `NMEA_MAX_SIZE` bytes. -/
theorem nmeaReaderAddc_push (endTag : Bool) (c : UInt8) (r : NmeaReader) :
    (nmeaReaderAddc cfg libc now endTag c r).1.lineBuffer =
        (LineBuffer.push newline nmeaMaxSize c r.lineBuffer).1 ∧
      parsedSentences (nmeaReaderAddc cfg libc now endTag c r).2 =
        (LineBuffer.push newline nmeaMaxSize c r.lineBuffer).2 := by
  unfold nmeaReaderAddc
  split
  case isTrue overflow =>
    rw [lineBuffer_eq overflow, LineBuffer.push_overflow]
    exact ⟨rfl, rfl⟩
  case isFalse notOverflow =>
    have clear : r.overflow = false := Bool.eq_false_iff.mpr notOverflow
    rw [lineBuffer_eq clear]
    split
    case isTrue full =>
      rw [LineBuffer.push_full full]
      exact ⟨rfl, rfl⟩
    case isFalse room =>
      dsimp only
      split
      case isTrue ends =>
        obtain ⟨kept, sentence⟩ := nmeaReaderParse_line cfg libc now endTag
          { r with input := r.input ++ [c] }
        generalize nmeaReaderParse cfg libc now endTag { r with input := r.input ++ [c] } =
          parsed at kept sentence
        rw [ends, LineBuffer.push_stop room, ← ends]
        refine ⟨?_, ?_⟩
        · have stillClear : parsed.1.overflow = r.overflow := congrArg LineBuffer.overflow kept
          rw [clear] at stillClear
          exact congrArg (LineBuffer.mk []) stillClear
        · rw [Parsed.andThen, parsedSentences_append, sentence]
          rfl
      case isFalse inside =>
        rw [LineBuffer.push_store room inside]
        exact ⟨congrArg (LineBuffer.mk (r.input ++ [c])) clear, rfl⟩

/-! ## Framing -/

/-- The bytes that reader events feed. -/
def fedBytes (events : List ReaderEvent) : List UInt8 :=
  events.filterMap fun
    | .addc _ _ c => some c
    | _ => none

@[simp]
theorem fedBytes_readEvents (bytes : List UInt8) : fedBytes (readEvents now bytes) = bytes := by
  induction bytes with
  | nil => rfl
  | cons c rest ih => exact congrArg (c :: ·) ih

variable (cfg libc) in
theorem readerRun_line (events : List ReaderEvent) (r : NmeaReader) :
    (readerRun cfg libc events r).1.lineBuffer =
        LineBuffer.after newline nmeaMaxSize r.lineBuffer (fedBytes events) ∧
      parsedSentences (readerRun cfg libc events r).2 =
        LineBuffer.taken newline nmeaMaxSize r.lineBuffer (fedBytes events) := by
  induction events generalizing r with
  | nil => exact ⟨rfl, rfl⟩
  | cons event events ih =>
      obtain ⟨buffer, sentences⟩ := ih (readerStep cfg libc event r).1
      rw [readerRun, Parsed.andThen, parsedSentences_append, buffer, sentences]
      cases event with
      | addc now endTag c =>
          obtain ⟨pushed, handed⟩ :=
            nmeaReaderAddc_push cfg libc now endTag c r
          dsimp only [readerStep]
          rw [pushed, handed]
          exact ⟨rfl, rfl⟩
      | setCallback => exact ⟨rfl, rfl⟩
      | clearFixMode => exact ⟨rfl, rfl⟩

end Keeps

/-! ## The daemon's data -/

/-- The daemon's data, without its division into events and reads. -/
def gpsStream (events : List HalEvent) : List UInt8 :=
  events.flatMap fun
    | .gps _ reads => reads.flatten
    | _ => []

/-- No position mode asks for an interval of more than a second. -/
def ThinningInactive (events : List HalEvent) : Prop :=
  ∀ minInterval, HalEvent.setPositionMode minInterval ∈ events → minInterval ≤ 1000

section Framing

variable (cfg : GpsConfig) (libc : LibcTime)

/-- The sentences that a thread hands to `nmea_reader_parse`, from its start. -/
def sentencesParsed (events : List HalEvent) : List (List UInt8) :=
  parsedSentences (halThreadInit.outputs cfg libc events)

/-- The sentences parsed are the lines of the data that fit, and any other division of
the same data has the same sentences parsed. -/
def Framed (events : List HalEvent) : Prop :=
  sentencesParsed cfg libc events =
      (lines newline (gpsStream events)).filter (LineBuffer.fits nmeaMaxSize) ∧
    ∀ other, ThinningInactive other → gpsStream other = gpsStream events →
      sentencesParsed cfg libc other = sentencesParsed cfg libc events

variable {cfg libc}

theorem thinsOut_eq_false {thread : HalThread} (idle : thread.count = 0)
    (often : thread.reportTimeInterval ≤ 1) : thread.thinsOut = false := by
  simpa [HalThread.thinsOut, idle] using often

/-- An event that is not thinned out feeds the bytes it reads. -/
theorem fedBytes_readerEvents {thread : HalThread} (all : thread.thinsOut = false)
    (event : HalEvent) : fedBytes (thread.readerEvents event) = gpsStream [event] := by
  cases event with
  | gps now reads =>
      simp only [HalThread.readerEvents, all, gpsStream]
      induction reads with
      | nil => rfl
      | cons read reads ih =>
          simp only [Bool.false_eq_true, if_false, List.flatMap_cons, List.flatMap_nil,
            List.append_nil, List.flatten_cons] at ih ⊢
          rw [← ih, fedBytes, List.filterMap_append]
          congr 1
          exact fedBytes_readEvents read
  | start =>
      cases started : thread.started with
      | true => simp [HalThread.readerEvents, started, fedBytes, gpsStream]
      | false => simp [HalThread.readerEvents, started, fedBytes, gpsStream]
  | stop => rfl
  | restart => rfl
  | setPositionMode minInterval => rfl

variable (cfg libc) in
/-- Without thinning, an event runs its reader events, and thinning stays inactive. -/
theorem step_unthinned {thread : HalThread} (idle : thread.count = 0)
    (often : thread.reportTimeInterval ≤ 1) {event : HalEvent}
    (inactive : ThinningInactive [event]) :
    (thread.step cfg libc event).1.count = 0 ∧
      (thread.step cfg libc event).1.reportTimeInterval ≤ 1 ∧
      (thread.step cfg libc event).1.reader =
        (readerRun cfg libc (thread.readerEvents event) thread.reader).1 := by
  cases event with
  | gps now reads =>
      refine ⟨?_, often, rfl⟩
      simp [HalThread.step, thinsOut_eq_false idle often]
  | start => exact ⟨idle, often, rfl⟩
  | stop => exact ⟨idle, often, rfl⟩
  | restart => exact ⟨idle, often, rfl⟩
  | setPositionMode minInterval =>
      have short : minInterval ≤ 1000 := inactive minInterval (List.mem_singleton.mpr rfl)
      refine ⟨idle, ?_, rfl⟩
      simp [HalThread.step, positionModeInterval, short]

theorem parsedSentences_outputs {thread : HalThread} (idle : thread.count = 0)
    (often : thread.reportTimeInterval ≤ 1) {events : List HalEvent}
    (inactive : ThinningInactive events) :
    parsedSentences (thread.outputs cfg libc events) =
      LineBuffer.taken newline nmeaMaxSize thread.reader.lineBuffer (gpsStream events) := by
  induction events generalizing thread with
  | nil => rfl
  | cons event events ih =>
      have inactiveHere : ThinningInactive [event] := by
        intro minInterval isEvent
        rw [List.mem_singleton] at isEvent
        exact inactive minInterval (isEvent ▸ List.mem_cons_self)
      have inactiveAfter : ThinningInactive events := fun minInterval later =>
        inactive minInterval (List.mem_cons_of_mem event later)
      have fed := readerRun_line cfg libc (thread.readerEvents event) thread.reader
      rw [fedBytes_readerEvents (thinsOut_eq_false idle often)] at fed
      obtain ⟨stillIdle, stillOften, reader⟩ := step_unthinned cfg libc idle often inactiveHere
      have split : gpsStream (event :: events) = gpsStream [event] ++ gpsStream events := by
        simp [gpsStream]
      rw [HalThread.outputs, parsedSentences_append, split, LineBuffer.taken_append, ← fed.1,
        ← fed.2, ih stillIdle stillOften inactiveAfter, reader]
      rfl

variable (cfg libc) in
/-- From its start, a thread parses what a line buffer hands on. -/
theorem sentencesParsed_eq_taken {events : List HalEvent} (inactive : ThinningInactive events) :
    sentencesParsed cfg libc events =
      LineBuffer.taken newline nmeaMaxSize LineBuffer.empty (gpsStream events) :=
  parsedSentences_outputs rfl zero_le_one inactive

variable (cfg libc) in
/-- The data is framed into the lines that fit exactly when no such line is directly
preceded by an odd number of consecutive lines with 128 bytes before their newline. -/
theorem framed_iff_evenRuns (events : List HalEvent) (inactive : ThinningInactive events) :
    Framed cfg libc events ↔
      EvenRuns (LineBuffer.fills nmeaMaxSize) (LineBuffer.fits nmeaMaxSize)
        (lines newline (gpsStream events)) := by
  rw [← LineBuffer.taken_eq_fitting_iff, ← sentencesParsed_eq_taken cfg libc inactive]
  constructor
  · exact fun framed => framed.1
  · intro fitting
    refine ⟨fitting, ?_⟩
    intro other otherInactive sameData
    rw [sentencesParsed_eq_taken cfg libc otherInactive,
      sentencesParsed_eq_taken cfg libc inactive, sameData]

end Framing

/-- Two lines whose bytes arrive in two reads. -/
def splitLines : List HalEvent :=
  [.setPositionMode 500,
    .gps 0 [ascii ['$', 'G', 'P', 'G', 'S', 'A', ',', 'A', ',', '1', '\n', '$', 'G', 'P']],
    .gps 1 [ascii ['R', 'M', 'C', ',', ',', 'V', '\n']]]

theorem framed_iff_evenRuns_splitLines : Framed gnssConfig LibcTime.utc splitLines := by
  refine (framed_iff_evenRuns gnssConfig LibcTime.utc splitLines ?_).mpr ?_
  · intro minInterval isEvent
    simp only [splitLines, List.mem_cons, HalEvent.setPositionMode.injEq, reduceCtorEq,
      List.not_mem_nil, or_false] at isEvent
    omega
  · apply evenRuns_of_not_armed
    decide +kernel

/-- A line that fills the buffer, and a line after it. -/
def filledLine : List HalEvent :=
  [.gps 0 [List.replicate nmeaMaxSize 65 ++ [newline] ++
    ascii ['$', 'G', 'P', 'R', 'M', 'C', ',', ',', 'V', '\n']]]

/-- The line after one that fills the buffer is lost. -/
theorem filledLine_not_framed : ¬ Framed gnssConfig LibcTime.utc filledLine := by
  intro framed
  have lost : sentencesParsed gnssConfig LibcTime.utc filledLine ≠
      (lines newline (gpsStream filledLine)).filter (LineBuffer.fits nmeaMaxSize) := by
    decide +kernel
  exact lost framed.1

end X3Hal.Gps
