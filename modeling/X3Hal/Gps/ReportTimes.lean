import X3Hal.Gps.Framing
import X3Hal.Gps.Sentences

/-!
# The times in the reports

Only GGA and RMC sentences set the date and the time stamp.  The reports of a sentence all
carry the time stamp that it leaves.
-/

namespace X3Hal.Gps

open X3Hal.Stream

/-- The date and the time stamp of a reader. -/
def NmeaReader.clock (r : NmeaReader) : Int × Int × Int × Int :=
  (r.utcYear, r.utcMon, r.utcDay, r.fix.timestamp)

/-- The time stamp that an output passes to `nmea_cb` or `location_cb`. -/
def ReaderOutput.timestamp? : ReaderOutput → Option Int
  | .locationCb fix => some fix.timestamp
  | .nmeaCb timestamp _ => some timestamp
  | _ => none

def timestamps (outputs : List ReaderOutput) : List Int :=
  outputs.filterMap ReaderOutput.timestamp?

theorem timestamps_append (outputs more : List ReaderOutput) :
    timestamps (outputs ++ more) = timestamps outputs ++ timestamps more :=
  List.filterMap_append

/-- A step keeps the clock and reports its time stamp only. -/
structure KeepsClock (r : NmeaReader) (parsed : Parsed) : Prop where
  clock : parsed.1.clock = r.clock
  reports : ∀ timestamp ∈ timestamps parsed.2, timestamp = r.fix.timestamp

theorem KeepsClock.silent {r next : NmeaReader} (same : next.clock = r.clock) :
    KeepsClock r (next, []) :=
  ⟨same, by simp [timestamps]⟩

theorem timestamp_of_clock {r next : NmeaReader} (same : next.clock = r.clock) :
    next.fix.timestamp = r.fix.timestamp := by
  simp only [NmeaReader.clock, Prod.mk.injEq] at same
  exact same.2.2.2

theorem KeepsClock.andThen {r : NmeaReader} {parsed : Parsed} (first : KeepsClock r parsed)
    {next : NmeaReader → Parsed} (second : KeepsClock parsed.1 (next parsed.1)) :
    KeepsClock r (parsed.andThen next) := by
  constructor
  · exact second.clock.trans first.clock
  · intro timestamp reported
    rw [Parsed.andThen, timestamps_append, List.mem_append] at reported
    rcases reported with early | late
    · exact first.reports timestamp early
    · rw [second.reports timestamp late]
      exact timestamp_of_clock first.clock

/-! ## Satellites -/

theorem KeepsClock.of_changesSvs {r : NmeaReader} {parsed : Parsed}
    (changes : ChangesSvs r parsed) :
    KeepsClock r parsed := by
  constructor
  · show parsed.1.apartFromSvs.clock = r.apartFromSvs.clock
    rw [changes.reader]
  · intro timestamp reported
    rcases List.mem_filterMap.mp reported with ⟨output, shown, is⟩
    have about := changes.outputs output shown
    cases output with
    | locationCb => exact about.elim
    | nmeaCb => exact about.elim
    | _ => cases is

theorem clock_parseGsaGnss (isBds : Bool) (tzer : NmeaTokenizer) (r : NmeaReader) :
    (parseGsaGnss isBds tzer r).clock = r.clock := by
  rw [parseGsaGnss_eq]
  rfl

/-! ## The fix -/

@[simp]
theorem clock_nmeaReaderUpdateLatlong (r : NmeaReader) (latitude longitude : Token)
    (latitudeHemi longitudeHemi : UInt8) :
    (nmeaReaderUpdateLatlong r latitude latitudeHemi longitude longitudeHemi).2.clock =
      r.clock := by
  unfold nmeaReaderUpdateLatlong
  split
  · rfl
  · split
    · rfl
    · rfl

theorem clock_updateFixField (r : NmeaReader) (tok : Token)
    {update : Real64 → GpsLocation → GpsLocation}
    (keeps : ∀ value fix, (update value fix).timestamp = fix.timestamp) :
    (updateFixField r tok update).2.clock = r.clock := by
  unfold updateFixField
  split
  · rfl
  · simp only [NmeaReader.clock, keeps]

@[simp]
theorem clock_nmeaReaderUpdateAltitude (r : NmeaReader) (altitude : Token) :
    (nmeaReaderUpdateAltitude r altitude).2.clock = r.clock :=
  clock_updateFixField r altitude fun _ _ => rfl

@[simp]
theorem clock_nmeaReaderUpdateBearing (r : NmeaReader) (bearing : Token) :
    (nmeaReaderUpdateBearing r bearing).2.clock = r.clock :=
  clock_updateFixField r bearing fun _ _ => rfl

@[simp]
theorem clock_nmeaReaderUpdateSpeed (r : NmeaReader) (speed : Token) :
    (nmeaReaderUpdateSpeed r speed).2.clock = r.clock :=
  clock_updateFixField r speed fun _ _ => rfl

theorem clock_parseAccuracy (tzer : NmeaTokenizer) (r : NmeaReader) :
    (parseAccuracy tzer r).clock = r.clock := by
  unfold parseAccuracy
  split
  · exact clock_updateFixField r _ fun _ _ => rfl
  · rfl

section Parse

variable (cfg : GpsConfig) (libc : LibcTime) (now : Int)

theorem clock_parseGga (tzer : NmeaTokenizer) (r : NmeaReader) :
    (parseGga libc now tzer r).clock =
      (nmeaReaderUpdateTime libc now r (nmeaTokenizerGet tzer 1)).2.clock := by
  simp [parseGga]

theorem clock_parseRmc (tzer : NmeaTokenizer) (r : NmeaReader) :
    (parseRmc libc now tzer r).clock =
      if (nmeaTokenizerGet tzer 2).first = 65 then
        (nmeaReaderUpdateDate libc now r (nmeaTokenizerGet tzer 9)
          (nmeaTokenizerGet tzer 1)).2.clock
      else r.clock := by
  unfold parseRmc
  split
  · simp
  · rfl

/-- The sentence has no time that the reader takes: it is neither a GGA sentence with one nor
an RMC sentence of a valid fix. -/
def Timeless (field : List UInt8) (tzer : NmeaTokenizer) : Prop :=
  (sentenceKind cfg field = .gga → (nmeaTokenizerGet tzer 1).text.length < 6) ∧
    (sentenceKind cfg field = .rmc → (nmeaTokenizerGet tzer 2).first ≠ 65)

theorem keepsClock_parseSentence {field : List UInt8} {tzer : NmeaTokenizer}
    (timeless : Timeless cfg field tzer) (r : NmeaReader) :
    KeepsClock r (parseSentence cfg libc now field tzer r) := by
  unfold parseSentence
  dsimp only
  cases kind : sentenceKind cfg field with
  | gga =>
      apply KeepsClock.silent
      rw [clock_parseGga, nmeaReaderUpdateTime, if_pos (timeless.1 kind)]
  | gsaGnss => exact .silent (clock_parseGsaGnss _ tzer r)
  | gsaGps => exact .silent rfl
  | rmc =>
      apply KeepsClock.silent
      rw [clock_parseRmc, if_neg (timeless.2 kind)]
  | gsvGnss => exact .of_changesSvs (changesSvs_parseGsvGnss cfg _ tzer r)
  | gsvGps => exact .of_changesSvs (changesSvs_parseGsvGps cfg _ tzer r)
  | accuracy => exact .silent (clock_parseAccuracy tzer r)
  | unknown => exact .silent rfl

/-! ## Reports -/

theorem keepsClock_reportFix (endTag : Bool) (r : NmeaReader) :
    KeepsClock r (reportFix endTag r) := by
  unfold reportFix
  split
  · exact ⟨rfl, by simp [timestamps, ReaderOutput.timestamp?]⟩
  · exact .silent rfl

theorem keepsClock_reportSvs (endTag : Bool) (r : NmeaReader) :
    KeepsClock r (reportSvs cfg endTag r) := by
  unfold reportSvs
  split
  · split
    · exact ⟨rfl, by simp [timestamps, ReaderOutput.timestamp?]⟩
    · exact .silent rfl
  · split
    · exact ⟨rfl, by simp [timestamps, ReaderOutput.timestamp?]⟩
    · exact .silent rfl

/-- The end of a sentence: its reports and `nmea_cb`. -/
def reportLine (endTag : Bool) (r : NmeaReader) : Parsed :=
  ((reportFix endTag r).andThen (reportSvs cfg endTag)).andThen fun r =>
    ({ r with input := [] }, [.nmeaCb r.fix.timestamp r.input])

theorem keepsClock_reportLine (endTag : Bool) (r : NmeaReader) :
    KeepsClock r (reportLine cfg endTag r) := by
  apply ((keepsClock_reportFix endTag r).andThen (keepsClock_reportSvs cfg endTag _)).andThen
  exact ⟨rfl, by simp [timestamps, ReaderOutput.timestamp?]⟩

theorem keepsClock_parse (line : List UInt8) (r : NmeaReader) :
    KeepsClock r ({ r with input := line }, [.parse line]) :=
  ⟨rfl, by simp [timestamps, ReaderOutput.timestamp?]⟩

/-- `nmea_reader_parse` and `nmea_cb` on a sentence that is long enough to have a kind. -/
theorem parseLine_eq (endTag : Bool) {line : List UInt8} (r : NmeaReader)
    (long : 9 ≤ (line ++ [newline]).length)
    (wide : 5 ≤ (nmeaTokenizerGet (nmeaTokenizerInit (line ++ [newline])) 0).text.length) :
    parseLine cfg libc now endTag line r =
      (Parsed.andThen ({ r with input := line ++ [newline] }, [.parse (line ++ [newline])])
        (parseSentence cfg libc now
          (nmeaTokenizerGet (nmeaTokenizerInit (line ++ [newline])) 0).text
          (nmeaTokenizerInit (line ++ [newline])))).andThen (reportLine cfg endTag) := by
  have parses := nmeaReaderParse_of_kind cfg libc now endTag
    (r := { r with input := line ++ [newline] }) long wide
  rw [parseLine, parses]
  unfold reportLine
  simp only [Parsed.andThen_assoc]

/-- The reports of a sentence carry the time stamp that its branch leaves. -/
theorem stamp_parseLine (endTag : Bool) {line : List UInt8} {r : NmeaReader} {stamp : Int}
    (long : 9 ≤ (line ++ [newline]).length)
    (wide : 5 ≤ (nmeaTokenizerGet (nmeaTokenizerInit (line ++ [newline])) 0).text.length)
    {parsed : Parsed} (parses : parseSentence cfg libc now
      (nmeaTokenizerGet (nmeaTokenizerInit (line ++ [newline])) 0).text
      (nmeaTokenizerInit (line ++ [newline])) { r with input := line ++ [newline] } = parsed)
    (silent : parsed.2 = []) (is : parsed.1.fix.timestamp = stamp) :
    (parseLine cfg libc now endTag line r).1.fix.timestamp = stamp ∧
      ∀ timestamp ∈ timestamps (parseLine cfg libc now endTag line r).2, timestamp = stamp := by
  have rest := keepsClock_reportLine cfg endTag parsed.1
  rw [parseLine_eq cfg libc now endTag r long wide, ← is]
  unfold Parsed.andThen
  dsimp only
  rw [parses, silent]
  constructor
  · exact timestamp_of_clock rest.clock
  · intro timestamp reported
    rw [timestamps_append] at reported
    exact rest.reports timestamp reported

/-- A line without a time. -/
def TimelessLine (line : List UInt8) : Prop :=
  Timeless cfg (nmeaTokenizerGet (nmeaTokenizerInit (line ++ [newline])) 0).text
    (nmeaTokenizerInit (line ++ [newline]))

theorem keepsClock_parseLine (endTag : Bool) {line : List UInt8}
    (timeless : TimelessLine cfg line) (r : NmeaReader) :
    KeepsClock r (parseLine cfg libc now endTag line r) := by
  by_cases long : 9 ≤ (line ++ [newline]).length ∧
      5 ≤ (nmeaTokenizerGet (nmeaTokenizerInit (line ++ [newline])) 0).text.length
  · rw [parseLine_eq cfg libc now endTag r long.1 long.2]
    apply KeepsClock.andThen
    · exact (keepsClock_parse _ r).andThen (keepsClock_parseSentence cfg libc now timeless _)
    · exact keepsClock_reportLine cfg endTag _
  · have unparsed := nmeaReaderParse_of_short cfg libc now endTag
      (r := { r with input := line ++ [newline] }) long
    rw [parseLine, unparsed]
    apply (keepsClock_parse _ r).andThen
    exact ⟨rfl, by simp [timestamps, ReaderOutput.timestamp?]⟩

end Parse

/-- A line leaves the buffer empty. -/
theorem parseLine_clear (cfg : GpsConfig) (libc : LibcTime) (now : Int) (endTag : Bool)
    (line : List UInt8) {r : NmeaReader} (clear : r.overflow = false) :
    (parseLine cfg libc now endTag line r).1.overflow = false ∧
      (parseLine cfg libc now endTag line r).1.input = [] := by
  rcases nmeaReaderParse_line cfg libc now endTag { r with input := line ++ [newline] } with
    ⟨kept, -⟩
  have overflow : (nmeaReaderParse cfg libc now endTag
      { r with input := line ++ [newline] }).1.overflow = r.overflow :=
    congrArg LineBuffer.overflow kept
  exact ⟨overflow.trans clear, rfl⟩

end X3Hal.Gps
