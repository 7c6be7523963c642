import X3Hal.Gps.FixTime
import X3Hal.Gps.ReportTimes
import X3Hal.Gps.UtcClock

/-!
# Monotone time

The reader joins the date of the last RMC sentence with the time of day of the sentence in
hand, so a GGA sentence just after midnight is stamped a day too early.
-/

namespace X3Hal.Gps

open X3Hal.Calendar X3Hal.Transition

/-! ## Sentences with a time -/

inductive TimeKind
  | gga
  | rmc
  deriving DecidableEq, Repr

/-- A GGA sentence, or an RMC sentence of a valid fix.  A GGA sentence does not show the date on
which it is sent. -/
structure TimeSentence where
  kind : TimeKind
  talker : List UInt8
  carried : SentenceDate
  time : SentenceTime
  position : List (List UInt8)
  others : List (List UInt8)
  ending : Ending
  talker_length : talker.length = 2
  position_length : position.length = 6
  plain : ∀ field ∈ talker :: (position ++ others), ∀ byte ∈ field, Plain byte

namespace TimeSentence

variable (sentence : TimeSentence)

def fields : List (List UInt8) :=
  match sentence.kind with
  | .gga =>
      (sentence.talker ++ ascii ['G', 'G', 'A']) :: sentence.time.text ::
        (sentence.position ++ sentence.others)
  | .rmc =>
      (sentence.talker ++ ascii ['R', 'M', 'C']) :: sentence.time.text :: ascii ['A'] ::
        (sentence.position ++ sentence.carried.text :: sentence.others)

/-- The bytes of a sentence, without its newline. -/
def line : List UInt8 :=
  sentenceLine sentence.fields sentence.ending

/-- The seconds of the instant that the sentence tells, in UTC. -/
def seconds : Int :=
  sentence.time.epochSeconds sentence.carried.date

/-- The instant that the sentence tells, in milliseconds. -/
def instant : Int :=
  sentence.time.epochMilliseconds sentence.carried.date

end TimeSentence

/-- The date that the reader joins with a time: its own, or today's if it has none. -/
def NmeaReader.dateAt (libc : LibcTime) (now : Int) (r : NmeaReader) : Int × Int × Int :=
  if r.utcYear < 0 then
    ((libc.gmtime now).year + 1900, (libc.gmtime now).mon + 1, (libc.gmtime now).mday)
  else (r.utcYear, r.utcMon, r.utcDay)

/-- The reader reads the instant as it is: it has the date of a GGA sentence, few digits stand
behind the point if the second is not 0, and the clocks of the zone show the UTC time. -/
structure TimeSentence.ReadRight (libc : LibcTime) (zone : Zone) (now : Int) (r : NmeaReader)
    (sentence : TimeSentence) : Prop where
  date : sentence.kind = .gga → r.dateAt libc now =
    (sentence.carried.date.year, (sentence.carried.date.month : Int),
      (sentence.carried.date.day : Int))
  second : sentence.time.secondText.length < 16 ∨ sentence.time.second = 0
  occurs : zone.Occurs sentence.seconds

/-! ## Fields -/

theorem plain_twoDigits (number : Nat) : ∀ byte ∈ twoDigits number, Plain byte :=
  fun byte member => plain_of_isDigit (isDigit_twoDigits number byte member)

theorem plain_timeText (time : SentenceTime) : ∀ byte ∈ time.text, Plain byte := by
  intro byte member
  rw [SentenceTime.text, SentenceTime.secondText, List.mem_append, List.mem_append,
    List.mem_append] at member
  rcases member with (inHour | inMinute) | inSecond | inFraction
  · exact plain_twoDigits _ byte inHour
  · exact plain_twoDigits _ byte inMinute
  · exact plain_twoDigits _ byte inSecond
  · cases fraction : time.fraction with
    | none => simp [fraction] at inFraction
    | some digits =>
        rw [fraction, Option.elim_some, List.mem_cons] at inFraction
        rcases inFraction with rfl | inDigits
        · decide
        · exact plain_of_isDigit (isDigit_map_digitByte digits byte inDigits)

theorem plain_dateText (carried : SentenceDate) : ∀ byte ∈ carried.text, Plain byte := by
  intro byte member
  rw [SentenceDate.text, List.mem_append, List.mem_append] at member
  rcases member with (inDay | inMonth) | inYear
  · exact plain_twoDigits _ byte inDay
  · exact plain_twoDigits _ byte inMonth
  · exact plain_twoDigits _ byte inYear

namespace TimeSentence

variable (sentence : TimeSentence)

theorem plain_fields : ∀ field ∈ sentence.fields, ∀ byte ∈ field, Plain byte := by
  have typed : ∀ word : List UInt8, (∀ byte ∈ word, Plain byte) →
      ∀ byte ∈ sentence.talker ++ word, Plain byte := by
    intro word plainWord byte member
    rcases List.mem_append.mp member with inTalker | inWord
    · exact sentence.plain _ List.mem_cons_self byte inTalker
    · exact plainWord byte inWord
  have others : ∀ field ∈ sentence.position ++ sentence.others, ∀ byte ∈ field, Plain byte :=
    fun field isField => sentence.plain field (List.mem_cons_of_mem _ isField)
  intro field isField
  cases kind : sentence.kind with
  | gga =>
      rw [fields, kind] at isField
      simp only [List.mem_cons] at isField
      rcases isField with rfl | rfl | isOther
      · exact typed _ (by decide +kernel)
      · exact plain_timeText sentence.time
      · exact others field isOther
  | rmc =>
      rw [fields, kind] at isField
      simp only [List.mem_cons, List.mem_append] at isField
      rcases isField with rfl | rfl | rfl | isPosition | rfl | isOther
      · exact typed _ (by decide +kernel)
      · exact plain_timeText sentence.time
      · decide +kernel
      · exact others field (List.mem_append_left _ isPosition)
      · exact plain_dateText sentence.carried
      · exact others field (List.mem_append_right _ isOther)

theorem newline_notMem_line : newline ∉ sentence.line :=
  newline_notMem_sentenceLine sentence.plain_fields sentence.ending

/-- The tokens of the sentence. -/
def tokenizer : NmeaTokenizer :=
  nmeaTokenizerInit (sentence.line ++ [newline])

theorem text_token {index : Nat} (within : index < maxNmeaTokens) :
    (nmeaTokenizerGet sentence.tokenizer index).text = sentence.fields.getD index [] :=
  Gps.text_token sentence.plain_fields sentence.ending within

theorem text_time : (nmeaTokenizerGet sentence.tokenizer 1).text = sentence.time.text := by
  rw [sentence.text_token (by decide), fields]
  cases sentence.kind <;> rfl

theorem sentenceKind_field (cfg : GpsConfig) :
    sentenceKind cfg (nmeaTokenizerGet sentence.tokenizer 0).text =
      match sentence.kind with
      | .gga => .gga
      | .rmc => .rmc := by
  rw [sentence.text_token (by decide), fields]
  match talker : sentence.talker, sentence.talker_length with
  | [first, second], _ =>
      cases sentence.kind with
      | gga => simp [sentenceKind, startsWith, ascii]
      | rmc => simp [sentenceKind, startsWith, ascii]

theorem text_status (isRmc : sentence.kind = .rmc) :
    (nmeaTokenizerGet sentence.tokenizer 2).first = 65 := by
  have text := sentence.text_token (by decide : 2 < maxNmeaTokens)
  rw [fields, isRmc] at text
  rw [Token.first, text]
  rfl

theorem text_date (isRmc : sentence.kind = .rmc) :
    (nmeaTokenizerGet sentence.tokenizer 9).text = sentence.carried.text := by
  rw [sentence.text_token (by decide), fields, isRmc]
  simp [sentence.position_length]

theorem long_line : 9 ≤ (sentence.line ++ [newline]).length := by
  have talker := sentence.talker_length
  have time : 6 ≤ sentence.time.text.length := six_le_length sentence.time
  unfold line fields
  cases sentence.kind with
  | gga =>
      simp only [sentenceLine, List.cons_append, List.length_cons, List.length_append,
        length_joinFields, List.map_cons, List.sum_cons]
      omega
  | rmc =>
      simp only [sentenceLine, List.cons_append, List.length_cons, List.length_append,
        length_joinFields, List.map_cons, List.sum_cons]
      omega

theorem wide_field : 5 ≤ (nmeaTokenizerGet sentence.tokenizer 0).text.length := by
  have length := sentence.talker_length
  rw [sentence.text_token (by decide), fields]
  cases sentence.kind with
  | gga => simp [length, ascii]
  | rmc => simp [length, ascii]

end TimeSentence

/-! ## The time stamp of a sentence -/

/-- A reader without a date takes today's. -/
theorem nmeaReaderUpdateTime_dateAt {libc : LibcTime} {now : Int} {r : NmeaReader} {date : Date}
    (is : r.dateAt libc now = (date.year, (date.month : Int), (date.day : Int)))
    (century : 0 ≤ date.year) {tok : Token} (long : 6 ≤ tok.text.length) :
    nmeaReaderUpdateTime libc now r tok =
      nmeaReaderUpdateTime libc now
        { r with utcYear := date.year, utcMon := date.month, utcDay := date.day } tok := by
  have known : ¬ date.year < 0 := not_lt.mpr century
  unfold NmeaReader.dateAt at is
  split at is
  case isTrue none =>
    simp only [Prod.mk.injEq] at is
    unfold nmeaReaderUpdateTime
    simp only [if_neg (not_lt.mpr long), if_pos none, if_neg known, is]
  case isFalse =>
    simp only [Prod.mk.injEq] at is
    rw [← is.1, ← is.2.1, ← is.2.2]

theorem dateAt_of_clock {r next : NmeaReader} (same : next.clock = r.clock) (libc : LibcTime)
    (now : Int) : next.dateAt libc now = r.dateAt libc now := by
  simp only [NmeaReader.clock, Prod.mk.injEq] at same
  rw [NmeaReader.dateAt, NmeaReader.dateAt, same.1, same.2.1, same.2.2.1]

theorem TimeSentence.stamped {libc : LibcTime} {zone : Zone} (conforms : libc.Conforms zone)
    {now : Int} {r : NmeaReader} {sentence : TimeSentence}
    (right : sentence.ReadRight libc zone now r) (cfg : GpsConfig) {next : NmeaReader}
    (same : next.clock = r.clock) :
    (parseSentence cfg libc now (nmeaTokenizerGet sentence.tokenizer 0).text sentence.tokenizer
      next).2 = [] ∧
      (parseSentence cfg libc now (nmeaTokenizerGet sentence.tokenizer 0).text sentence.tokenizer
        next).1.fix.timestamp = sentence.seconds * 1000 := by
  have century : 0 ≤ sentence.carried.date.year :=
    le_trans (by decide) sentence.carried.century.1
  have asRead : readSeconds sentence.carried.date sentence.time = sentence.seconds := by
    rw [readSeconds, (readSecond_eq_iff _).mpr right.second]
    rfl
  have stamp : ∀ (r : NmeaReader) (behind : UInt8), r.HasDate sentence.carried.date →
      (nmeaReaderUpdateTime libc now r ⟨sentence.time.text, behind⟩).2.fix.timestamp =
        sentence.seconds * 1000 := by
    intro r behind has
    rw [timestamp_of_occurs conforms now sentence.time behind has century
      (asRead.symm ▸ right.occurs), asRead]
  have token : nmeaTokenizerGet sentence.tokenizer 1 =
      ⟨sentence.time.text, (nmeaTokenizerGet sentence.tokenizer 1).next⟩ := by
    rw [← sentence.text_time]
  unfold parseSentence
  rw [sentence.sentenceKind_field]
  cases kind : sentence.kind with
  | gga =>
      refine ⟨rfl, ?_⟩
      have date := right.date kind
      rw [← dateAt_of_clock same] at date
      rw [timestamp_of_clock (clock_parseGga libc now sentence.tokenizer next), token,
        nmeaReaderUpdateTime_dateAt date century (six_le_length _)]
      exact stamp _ _ ⟨rfl, rfl, rfl⟩
  | rmc =>
      refine ⟨rfl, ?_⟩
      have clock := clock_parseRmc libc now sentence.tokenizer next
      have date : nmeaTokenizerGet sentence.tokenizer 9 =
          ⟨sentence.carried.text, (nmeaTokenizerGet sentence.tokenizer 9).next⟩ := by
        rw [← sentence.text_date kind]
      rw [if_pos (sentence.text_status kind), date, nmeaReaderUpdateDate_text, token] at clock
      rw [timestamp_of_clock clock]
      exact stamp _ _ ⟨rfl, rfl, rfl⟩

/-! ## Streams -/

/-- One sentence of a stream: one with a time, or any other line that fits the buffer. -/
inductive StreamSentence (cfg : GpsConfig)
  | timed (sentence : TimeSentence) (fits : sentence.line.length < nmeaMaxSize)
  | other (line : List UInt8) (inLine : newline ∉ line) (fits : line.length < nmeaMaxSize)
      (timeless : TimelessLine cfg line)

/-- A sentence with the time and the end tag when its newline is taken. -/
structure StreamEvent (cfg : GpsConfig) where
  sentence : StreamSentence cfg
  now : Int
  endTag : Bool

namespace StreamEvent

variable {cfg : GpsConfig} (event : StreamEvent cfg)

def line : List UInt8 :=
  match event.sentence with
  | .timed sentence _ => sentence.line
  | .other line _ _ _ => line

/-- The sentence, if it has a time. -/
def timed : Option TimeSentence :=
  match event.sentence with
  | .timed sentence _ => some sentence
  | .other _ _ _ _ => none

theorem newline_notMem_line : newline ∉ event.line := by
  unfold line
  cases event.sentence with
  | timed sentence fits => exact sentence.newline_notMem_line
  | other line inLine fits timeless => exact inLine

theorem line_fits : event.line.length < nmeaMaxSize := by
  unfold line
  cases event.sentence with
  | timed sentence fits => exact fits
  | other line inLine fits timeless => exact fits

end StreamEvent

/-- The reader takes the bytes of one sentence after the other. -/
def streamSystem (cfg : GpsConfig) (libc : LibcTime) :
    System NmeaReader (StreamEvent cfg) ReaderOutput where
  Init := fun r => r = nmeaReaderInit
  step := fun r event => some (readerRun cfg libc
    (event.line.map (ReaderEvent.addc event.now false) ++
      [.addc event.now event.endTag newline]) r)

/-- The instants never decrease. -/
def inOrder (cfg : GpsConfig) : System.Guard NmeaReader (StreamEvent cfg) ReaderOutput :=
  fun history _ event => ∀ sentence ∈ event.timed,
    ∀ earlier ∈ history.events.filterMap StreamEvent.timed, earlier.instant ≤ sentence.instant

/-- The instants never decrease, and each is read as it is. -/
def inOrderAndRight (cfg : GpsConfig) (libc : LibcTime) (zone : Zone) :
    System.Guard NmeaReader (StreamEvent cfg) ReaderOutput :=
  fun history r event => inOrder cfg history r event ∧
    ∀ sentence ∈ event.timed, sentence.ReadRight libc zone event.now r

/-- What the callbacks are passed never decreases. -/
def TimesMonotone {cfg : GpsConfig} (history : History (StreamEvent cfg) ReaderOutput) : Prop :=
  (timestamps history.outputs).Pairwise (· ≤ ·)

/-- What a run keeps: the time stamp is that of an earlier sentence, or still 0. -/
structure StreamInvariant {cfg : GpsConfig} (history : History (StreamEvent cfg) ReaderOutput)
    (r : NmeaReader) : Prop where
  clear : r.overflow = false
  empty : r.input = []
  monotone : TimesMonotone history
  bound : ∀ timestamp ∈ timestamps history.outputs, timestamp ≤ r.fix.timestamp
  past : r.fix.timestamp = 0 ∨ ∃ earlier ∈ history.events.filterMap StreamEvent.timed,
    r.fix.timestamp = earlier.seconds * 1000

/-! ## Steps -/

theorem epochSeconds_nonneg (carried : SentenceDate) (time : SentenceTime) :
    0 ≤ time.epochSeconds carried.date := by
  have year := yearStart_strictMono.monotone carried.century.1
  have first : yearStart 2000 = 730119 := by decide +kernel
  have later : unixDay.dayNumber ≤ carried.date.dayNumber := by
    rw [dayNumber_unixDay, Date.dayNumber]
    omega
  unfold SentenceTime.epochSeconds civilSeconds
  omega

/-- Instants in order are seconds in order. -/
theorem seconds_le {earlier sentence : TimeSentence}
    (inOrder : earlier.instant ≤ sentence.instant) :
    earlier.seconds ≤ sentence.seconds := by
  have small := millisecond_lt earlier.time
  have otherSmall := millisecond_lt sentence.time
  unfold TimeSentence.instant SentenceTime.epochMilliseconds at inOrder
  unfold TimeSentence.seconds
  omega

/-- Reports of one time that is not before the earlier ones. -/
theorem pairwise_append_of_const {times later : List Int} {before after : Int}
    (sorted : times.Pairwise (· ≤ ·)) (bound : ∀ time ∈ times, time ≤ before)
    (grows : before ≤ after) (same : ∀ time ∈ later, time = after) :
    (times ++ later).Pairwise (· ≤ ·) := by
  rw [List.pairwise_append]
  refine ⟨sorted, ?_, ?_⟩
  · apply List.pairwise_of_forall_mem_list
    intro first isFirst second isSecond
    rw [same first isFirst, same second isSecond]
  · intro early isEarly late isLate
    rw [same late isLate]
    exact (bound early isEarly).trans grows

/-- A step that ends with a time stamp not before the last one, and reports only this. -/
theorem StreamInvariant.snoc {cfg : GpsConfig} {history : History (StreamEvent cfg) ReaderOutput}
    {r after : NmeaReader} (invariant : StreamInvariant history r) (event : StreamEvent cfg)
    {out : List ReaderOutput} (ready : after.overflow = false ∧ after.input = [])
    (grows : r.fix.timestamp ≤ after.fix.timestamp)
    (reports : ∀ timestamp ∈ timestamps out, timestamp = after.fix.timestamp)
    (stamp : after.fix.timestamp = r.fix.timestamp ∨
      ∃ sentence ∈ event.timed, after.fix.timestamp = sentence.seconds * 1000) :
    StreamInvariant (history ++ [(event, out)]) after := by
  refine ⟨ready.1, ready.2, ?_, ?_, ?_⟩
  · rw [TimesMonotone, History.outputs_snoc, timestamps_append]
    exact pairwise_append_of_const invariant.monotone invariant.bound grows reports
  · intro timestamp reported
    rw [History.outputs_snoc, timestamps_append, List.mem_append] at reported
    rcases reported with early | late
    · exact (invariant.bound timestamp early).trans grows
    · exact (reports timestamp late).le
  · rw [History.events_snoc, List.filterMap_append]
    rcases stamp with kept | ⟨sentence, isTimed, is⟩
    · rw [kept]
      rcases invariant.past with start | ⟨earlier, isEarlier, is⟩
      · exact Or.inl start
      · exact Or.inr ⟨earlier, List.mem_append_left _ isEarlier, is⟩
    · refine Or.inr ⟨sentence, List.mem_append_right _ ?_, is⟩
      rw [List.mem_filterMap]
      exact ⟨event, List.mem_singleton_self event, isTimed⟩

section Run

variable {cfg : GpsConfig} {libc : LibcTime} {zone : Zone}

/-- The time stamp of an earlier sentence, or 0, is not after the next sentence. -/
theorem StreamInvariant.timestamp_le {history : History (StreamEvent cfg) ReaderOutput}
    {r : NmeaReader} (invariant : StreamInvariant history r) {sentence : TimeSentence}
    (ordered : ∀ earlier ∈ history.events.filterMap StreamEvent.timed,
      earlier.instant ≤ sentence.instant) : r.fix.timestamp ≤ sentence.seconds * 1000 := by
  rcases invariant.past with start | ⟨earlier, isEarlier, is⟩
  · have positive : 0 ≤ sentence.seconds := epochSeconds_nonneg sentence.carried sentence.time
    rw [start]
    exact Int.mul_nonneg positive (by decide)
  · rw [is]
    exact Int.mul_le_mul_of_nonneg_right (seconds_le (ordered earlier isEarlier)) (by decide)

theorem streamInvariant_step (conforms : libc.Conforms zone)
    {history : History (StreamEvent cfg) ReaderOutput} {r : NmeaReader}
    (invariant : StreamInvariant history r) {event : StreamEvent cfg}
    (guarded : inOrderAndRight cfg libc zone history r event) :
    StreamInvariant
      (history ++ [(event, (parseLine cfg libc event.now event.endTag event.line r).2)])
      (parseLine cfg libc event.now event.endTag event.line r).1 := by
  have ready := parseLine_clear cfg libc event.now event.endTag event.line invariant.clear
  rcases guarded with ⟨ordered, right⟩
  rcases event with ⟨sentence, now, endTag⟩
  cases sentence with
  | timed sentence fits =>
      have branch := @sentence.stamped _ _ conforms _ _ (right sentence rfl) cfg
        { r with input := sentence.line ++ [newline] } rfl
      have stamp := stamp_parseLine cfg libc now endTag sentence.long_line sentence.wide_field rfl
        branch.1 branch.2
      apply invariant.snoc _ ready
      · exact stamp.1 ▸ invariant.timestamp_le (ordered sentence rfl)
      · intro timestamp reported
        exact (stamp.2 timestamp reported).trans stamp.1.symm
      · exact Or.inr ⟨sentence, rfl, stamp.1⟩
  | other line inLine fits timeless =>
      have keeps := keepsClock_parseLine cfg libc now endTag timeless r
      have same := timestamp_of_clock keeps.clock
      apply invariant.snoc _ ready
      · exact same.ge
      · intro timestamp reported
        exact (keeps.reports timestamp reported).trans same.symm
      · exact Or.inl same

/-- While the instants are in order and read as they are, the times that the callbacks are passed
never decrease. -/
theorem times_monotone (conforms : libc.Conforms zone)
    {history : History (StreamEvent cfg) ReaderOutput} {r : NmeaReader}
    (run : (streamSystem cfg libc).Run (inOrderAndRight cfg libc zone) history r) :
    TimesMonotone history := by
  have invariant : StreamInvariant history r := by
    apply System.Run.invariant (fun history r => StreamInvariant history r) ?_ ?_ run
    · rintro _ rfl
      exact ⟨rfl, rfl, List.Pairwise.nil, by simp [timestamps], Or.inl rfl⟩
    · intro history r event after out invariant guarded stepped
      have result := Option.some.inj stepped
      rw [readerRun_wholeLine event.newline_notMem_line event.line_fits event.endTag
          invariant.clear
        invariant.empty] at result
      have next := streamInvariant_step conforms invariant guarded
      rw [result] at next
      exact next
  exact invariant.monotone

end Run

/-! ## Midnight -/

/-- 2021-03-27 23:59:59 in an RMC sentence. -/
def beforeMidnight : TimeSentence where
  kind := .rmc
  talker := ascii ['G', 'N']
  carried := ⟨.ofFields 2021 3 27 (by decide), by decide⟩
  time := ⟨23, 59, 59, none, by decide, by decide, by decide⟩
  position := List.replicate 6 []
  others := []
  ending := ⟨none, false⟩
  talker_length := rfl
  position_length := rfl
  plain := by decide +kernel

def midnight : SentenceTime :=
  { halfPastTwo with hour := 0, minute := 0, hour_lt := by decide, minute_lt := by decide }

/-- 2021-03-28 00:00:00 in a GGA sentence. -/
def atMidnight : TimeSentence where
  kind := .gga
  talker := ascii ['G', 'N']
  carried := springDate
  time := midnight
  position := List.replicate 6 []
  others := []
  ending := ⟨none, false⟩
  talker_length := rfl
  position_length := rfl
  plain := by decide +kernel

/-- The next second in an RMC sentence. -/
def afterMidnight : TimeSentence :=
  { atMidnight with kind := .rmc }

def timedEvent (sentence : TimeSentence) (fits : sentence.line.length < nmeaMaxSize) :
    StreamEvent gnssConfig where
  sentence := .timed sentence fits
  now := 0
  endTag := false

theorem inOrder_start (event : StreamEvent gnssConfig) :
    inOrder gnssConfig [] nmeaReaderInit event :=
  fun _ _ _ isEarlier => absurd isEarlier List.not_mem_nil

theorem inOrder_second {first second : StreamEvent gnssConfig} {out : List ReaderOutput}
    {r : NmeaReader} {earlier later : TimeSentence} (isFirst : first.timed = some earlier)
    (isSecond : second.timed = some later) (ordered : earlier.instant ≤ later.instant) :
    inOrder gnssConfig [(first, out)] r second := by
  intro sentence isTimed other isOther
  rw [isSecond, Option.mem_def, Option.some.injEq] at isTimed
  rw [History.events, List.map_singleton, List.filterMap_cons_some isFirst, List.filterMap_nil,
    List.mem_singleton] at isOther
  rw [← isTimed, isOther]
  exact ordered

/-- An RMC sentence without a fraction is read right where the clocks show UTC. -/
theorem readRight_rmc {sentence : TimeSentence} (isRmc : sentence.kind = .rmc)
    (short : sentence.time.secondText.length < 16) (now : Int) (r : NmeaReader) :
    sentence.ReadRight LibcTime.utc utcZone now r where
  date := fun isGga => by
    rw [isRmc] at isGga
    contradiction
  second := Or.inl short
  occurs := Zone.occurs_fixed 0 (by decide) sentence.seconds

theorem times_monotone_overMidnight :
    ∃ history r, (streamSystem gnssConfig LibcTime.utc).Run
        (inOrderAndRight gnssConfig LibcTime.utc utcZone) history r ∧ TimesMonotone history := by
  have first : (streamSystem gnssConfig LibcTime.utc).Run
      (inOrderAndRight gnssConfig LibcTime.utc utcZone)
      ([] ++ [(timedEvent beforeMidnight (by decide +kernel), _)]) _ :=
    .next (.start rfl) ⟨inOrder_start _, by
      rintro sentence ⟨⟩
      exact readRight_rmc rfl (by decide) _ _⟩ rfl
  have second : (streamSystem gnssConfig LibcTime.utc).Run
      (inOrderAndRight gnssConfig LibcTime.utc utcZone)
      (_ ++ [(timedEvent afterMidnight (by decide +kernel), _)]) _ :=
    first.next ⟨inOrder_second rfl rfl (by decide +kernel), by
      rintro sentence ⟨⟩
      exact readRight_rmc rfl (by decide) _ _⟩ rfl
  exact ⟨_, _, second, times_monotone conforms_utc second⟩

/-- A GGA sentence at midnight is stamped with the date of the RMC sentence before it. -/
theorem times_not_monotone : ¬ ∀ (cfg : GpsConfig) (libc : LibcTime) (zone : Zone),
    libc.Conforms zone → ∀ history r, (streamSystem cfg libc).Run (inOrder cfg) history r →
      TimesMonotone history := by
  intro monotone
  have first : (streamSystem gnssConfig LibcTime.utc).Run (inOrder gnssConfig)
      ([] ++ [(timedEvent beforeMidnight (by decide +kernel), _)]) _ :=
    .next (.start rfl) (inOrder_start _) rfl
  have second : (streamSystem gnssConfig LibcTime.utc).Run (inOrder gnssConfig)
      (_ ++ [(timedEvent atMidnight (by decide +kernel), _)]) _ :=
    first.next (inOrder_second rfl rfl (by decide +kernel)) rfl
  have sorted := monotone gnssConfig LibcTime.utc utcZone conforms_utc _ _ second
  revert sorted
  unfold TimesMonotone
  decide +kernel

end X3Hal.Gps
