import Mathlib.Data.List.Induction
import X3Hal.Gps.HalThread
import X3Hal.Gps.ParseFrame

/-!
# The bound of the satellite table

A GSV sentence adds its satellites at `sv_count + num_svs`, checked against the size
of the table, and a sentence that closes its set adds `sv_count` to `num_svs`,
unchecked.  The sum stays within the table as long as a set is counted once; a second
closing sentence counts the same satellites again.
-/

namespace X3Hal.Gps

open X3Hal.Transition

/-- Whether the set in hand has been counted, after some outputs. -/
def setCounted (counted : Bool) (outputs : List ReaderOutput) : Bool :=
  outputs.foldl (fun counted output =>
    match output with
    | .countSet => true
    | .openSet => false
    | .dropSets => false
    | .gnssSvStatusCb _ _ => false
    | _ => counted) counted

@[simp]
theorem setCounted_nil (counted : Bool) : setCounted counted [] = counted :=
  rfl

@[simp]
theorem setCounted_append (counted : Bool) (outputs more : List ReaderOutput) :
    setCounted counted (outputs ++ more) = setCounted (setCounted counted outputs) more :=
  List.foldl_append

/-- An output writes and reports within the table. -/
def ReaderOutput.Within (cfg : GpsConfig) : ReaderOutput → Prop
  | .writeGnssSv index => 0 ≤ index ∧ index < cfg.gnssMaxSvs
  | .gnssSvStatusCb numSvs _ => numSvs ≤ cfg.gnssMaxSvs
  | _ => True

instance (cfg : GpsConfig) (output : ReaderOutput) : Decidable (output.Within cfg) := by
  cases output with
  | writeGnssSv index => exact inferInstanceAs (Decidable (0 ≤ index ∧ index < cfg.gnssMaxSvs))
  | gnssSvStatusCb numSvs entries => exact inferInstanceAs (Decidable (numSvs ≤ cfg.gnssMaxSvs))
  | _ => exact inferInstanceAs (Decidable True)

/-- The counts of a reader are within the table.  The set in hand has its room as long
as it is not counted. -/
structure SvBounded (cfg : GpsConfig) (counted : Bool) (r : NmeaReader) : Prop where
  count_nonneg : 0 ≤ r.svCount
  svs_nonneg : 0 ≤ r.svStatusGnss.numSvs
  svs_le : r.svStatusGnss.numSvs ≤ cfg.gnssMaxSvs
  room : counted = false → r.svCount + r.svStatusGnss.numSvs ≤ cfg.gnssMaxSvs

/-- A step ends within the table and shows nothing outside it. -/
structure StaysBounded (cfg : GpsConfig) (counted : Bool) (parsed : Parsed) : Prop where
  outputs : ∀ output ∈ parsed.2, output.Within cfg
  reader : SvBounded cfg (setCounted counted parsed.2) parsed.1

variable {cfg : GpsConfig} {counted : Bool}

theorem SvBounded.of_apartFromFix {r next : NmeaReader} (bounded : SvBounded cfg counted r)
    (same : next.apartFromFix = r.apartFromFix) : SvBounded cfg counted next := by
  have count : next.apartFromFix.svCount = r.apartFromFix.svCount := by rw [same]
  have gnss : next.apartFromFix.svStatusGnss = r.apartFromFix.svStatusGnss := by rw [same]
  change next.svCount = r.svCount at count
  change next.svStatusGnss = r.svStatusGnss at gnss
  constructor
  · rw [count]
    exact bounded.count_nonneg
  · rw [gnss]
    exact bounded.svs_nonneg
  · rw [gnss]
    exact bounded.svs_le
  · rw [count, gnss]
    exact bounded.room

theorem SvBounded.empty {r : NmeaReader} (size : 0 ≤ cfg.gnssMaxSvs) (count : r.svCount = 0)
    (svs : r.svStatusGnss.numSvs = 0) : SvBounded cfg counted r :=
  ⟨by rw [count], by rw [svs], by rw [svs]; exact size, fun _ => by rw [count, svs]; exact size⟩

theorem SvBounded.silent {r : NmeaReader} (bounded : SvBounded cfg counted r) :
    StaysBounded cfg counted (r, []) :=
  ⟨by simp, bounded⟩

theorem StaysBounded.andThen {parsed : Parsed} (first : StaysBounded cfg counted parsed)
    {next : NmeaReader → Parsed}
    (second : SvBounded cfg (setCounted counted parsed.2) parsed.1 →
      StaysBounded cfg (setCounted counted parsed.2) (next parsed.1)) :
    StaysBounded cfg counted (parsed.andThen next) := by
  have after := second first.reader
  constructor
  · intro output shown
    rw [Parsed.andThen, List.mem_append] at shown
    exact shown.elim (first.outputs output) (after.outputs output)
  · rw [Parsed.andThen, setCounted_append]
    exact after.reader

/-! ## Satellites of a sentence -/

/-- A step takes satellites into the set in hand. -/
structure TakesSatellites (r : NmeaReader) (parsed : Parsed) : Prop where
  sameSet : ∀ counted, setCounted counted parsed.2 = counted
  grows : r.svCount ≤ parsed.1.svCount

theorem takesSatellites_nmeaReaderUpdateSvStatusGnss (cfg : GpsConfig) (prn : Int)
    (elevation azimuth snr : Token) (r : NmeaReader) :
    TakesSatellites r (nmeaReaderUpdateSvStatusGnss cfg prn elevation azimuth snr r) := by
  unfold nmeaReaderUpdateSvStatusGnss
  split
  · exact ⟨fun _ => rfl, le_rfl⟩
  · dsimp only
    split
    · exact ⟨fun _ => rfl, le_rfl⟩
    · exact ⟨fun _ => rfl, Int.le_add_of_nonneg_right (by decide)⟩

theorem takesSatellites_gsvSatellites (cfg : GpsConfig) (isBds : Bool) (tzer : NmeaTokenizer)
    (count : Nat) (r : NmeaReader) :
    TakesSatellites r (gsvSatellites isBds tzer (nmeaReaderUpdateSvStatusGnss cfg) count r) := by
  unfold gsvSatellites
  generalize List.range count = indices
  induction indices using List.reverseRecOn with
  | nil => exact ⟨fun _ => rfl, le_rfl⟩
  | append_singleton indices idx ih =>
      rw [List.foldl_append]
      have taken := takesSatellites_nmeaReaderUpdateSvStatusGnss cfg
        (readerId isBds (str2int (nmeaTokenizerGet tzer (4 * (idx + 1))).text))
        (nmeaTokenizerGet tzer (4 * (idx + 1) + 1)) (nmeaTokenizerGet tzer (4 * (idx + 1) + 2))
        (nmeaTokenizerGet tzer (4 * (idx + 1) + 3))
      constructor
      · intro counted
        show setCounted counted (_ ++ _) = counted
        rw [setCounted_append, ih.sameSet]
        exact (taken _).sameSet counted
      · exact ih.grows.trans (taken _).grows

theorem staysBounded_nmeaReaderUpdateSvStatusGnss (prn : Int) (elevation azimuth snr : Token)
    {r : NmeaReader} (bounded : SvBounded cfg counted r) :
    StaysBounded cfg counted
      (nmeaReaderUpdateSvStatusGnss cfg prn elevation azimuth snr r) := by
  unfold nmeaReaderUpdateSvStatusGnss
  split
  · exact bounded.silent
  · dsimp only
    split
    · exact bounded.silent
    · have nonneg := bounded.count_nonneg
      have svsNonneg := bounded.svs_nonneg
      refine ⟨?_, ?_⟩
      · intro output shown
        rw [List.mem_singleton] at shown
        subst shown
        constructor
        · omega
        · omega
      · refine ⟨?_, svsNonneg, bounded.svs_le, fun _ => ?_⟩
        · show 0 ≤ r.svCount + 1
          omega
        · show r.svCount + 1 + r.svStatusGnss.numSvs ≤ cfg.gnssMaxSvs
          omega

theorem staysBounded_gsvSatellites (isBds : Bool) (tzer : NmeaTokenizer) (count : Nat)
    {r : NmeaReader} (bounded : SvBounded cfg counted r) :
    StaysBounded cfg counted
      (gsvSatellites isBds tzer (nmeaReaderUpdateSvStatusGnss cfg) count r) := by
  unfold gsvSatellites
  generalize List.range count = indices
  induction indices using List.reverseRecOn with
  | nil => exact bounded.silent
  | append_singleton indices idx ih =>
      rw [List.foldl_append]
      exact ih.andThen fun ready => staysBounded_nmeaReaderUpdateSvStatusGnss _ _ _ _ ready

/-! ## Sets -/

/-- A sentence closes a set that it did not open, and would count it. -/
def GsvHeader.ClosesEarlierSet (header : GsvHeader) (r : NmeaReader) : Prop :=
  header.seq = header.num ∧ header.seq ≠ 1 ∧ r.svCount ≤ header.cnt

instance (header : GsvHeader) (r : NmeaReader) : Decidable (header.ClosesEarlierSet r) :=
  inferInstanceAs (Decidable (_ ∧ _ ∧ _))

theorem staysBounded_gsvOpen (header : GsvHeader) {r : NmeaReader}
    (bounded : SvBounded cfg counted r) : StaysBounded cfg counted (gsvOpen header r) := by
  unfold gsvOpen
  split
  · refine ⟨by simp [ReaderOutput.Within], le_rfl, bounded.svs_nonneg, bounded.svs_le, fun _ => ?_⟩
    show 0 + r.svStatusGnss.numSvs ≤ cfg.gnssMaxSvs
    rw [zero_add]
    exact bounded.svs_le
  · exact bounded.silent

theorem staysBounded_gsvCloseGnss (header : GsvHeader) {r : NmeaReader}
    (bounded : SvBounded cfg counted r)
    (once : header.seq = header.num → r.svCount ≤ header.cnt → counted = false) :
    StaysBounded cfg counted (gsvCloseGnss header r) := by
  have nonneg := bounded.count_nonneg
  have svsNonneg := bounded.svs_nonneg
  unfold gsvCloseGnss
  split
  case isTrue closes =>
    split
    case isTrue complete =>
      have room := bounded.room (once closes complete)
      refine ⟨by simp [ReaderOutput.Within], nonneg, ?_, ?_, fun isFalse => ?_⟩
      · show 0 ≤ r.svStatusGnss.numSvs + r.svCount
        omega
      · show r.svStatusGnss.numSvs + r.svCount ≤ cfg.gnssMaxSvs
        omega
      · simp [setCounted] at isFalse
    case isFalse =>
      exact ⟨by simp [ReaderOutput.Within], .empty (svsNonneg.trans bounded.svs_le) rfl rfl⟩
  case isFalse => exact bounded.silent

theorem setCounted_gsvOpen (header : GsvHeader) (r : NmeaReader) :
    setCounted counted (gsvOpen header r).2 = if header.seq = 1 then false else counted := by
  unfold gsvOpen
  split
  · rfl
  · rfl

theorem svCount_gsvOpen {header : GsvHeader} (later : header.seq ≠ 1) (r : NmeaReader) :
    (gsvOpen header r).1.svCount = r.svCount := by
  simp [gsvOpen, later]

/-- The set that a GSV sentence closes is not counted if it is its own, or was not before. -/
theorem openSet_notCounted {isBds : Bool} {tzer : NmeaTokenizer} {r : NmeaReader}
    (once : (gsvHeader tzer).ClosesEarlierSet r → counted = false) :
    let satellites := (gsvOpen (gsvHeader tzer) r).andThen
      (gsvSatellites isBds tzer (nmeaReaderUpdateSvStatusGnss cfg) (gsvHeader tzer).svNum.toNat)
    (gsvHeader tzer).seq = (gsvHeader tzer).num → satellites.1.svCount ≤ (gsvHeader tzer).cnt →
      setCounted counted satellites.2 = false := by
  intro satellites closes complete
  have taken := takesSatellites_gsvSatellites cfg isBds tzer (gsvHeader tzer).svNum.toNat
    (gsvOpen (gsvHeader tzer) r).1
  show setCounted counted (_ ++ _) = false
  rw [setCounted_append, taken.sameSet, setCounted_gsvOpen]
  split
  case isTrue => rfl
  case isFalse later =>
    apply once
    refine ⟨closes, later, ?_⟩
    rw [← svCount_gsvOpen later r]
    exact taken.grows.trans complete

/-- A GSV sentence stays within the table when the set it closes was not counted. -/
theorem staysBounded_parseGsvGnss (isBds : Bool) (tzer : NmeaTokenizer) {r : NmeaReader}
    (bounded : SvBounded cfg counted r)
    (once : (gsvHeader tzer).ClosesEarlierSet r → counted = false) :
    StaysBounded cfg counted (parseGsvGnss cfg isBds tzer r) := by
  have opened := staysBounded_gsvOpen (gsvHeader tzer) bounded
  have satellites := opened.andThen fun ready =>
    staysBounded_gsvSatellites isBds tzer (gsvHeader tzer).svNum.toNat ready
  exact satellites.andThen fun ready => staysBounded_gsvCloseGnss _ ready (openSet_notCounted once)

/-! ## Sentences -/

/-- The header of a GSV sentence that is parsed in GNSS mode. -/
def parsedGsvHeader (cfg : GpsConfig) (sentence : List UInt8) : Option GsvHeader :=
  let tzer := nmeaTokenizerInit sentence
  let field := (nmeaTokenizerGet tzer 0).text
  if 9 ≤ sentence.length ∧ 5 ≤ field.length ∧ sentenceKind cfg field = .gsvGnss then
    some (gsvHeader tzer)
  else none

theorem staysBounded_parseSentence (libc : LibcTime) (now : Int) (gnss : cfg.gpsMode = 0)
    {field : List UInt8} {tzer : NmeaTokenizer} {r : NmeaReader}
    (bounded : SvBounded cfg counted r)
    (once : sentenceKind cfg field = .gsvGnss → (gsvHeader tzer).ClosesEarlierSet r →
      counted = false) :
    StaysBounded cfg counted (parseSentence cfg libc now field tzer r) := by
  unfold parseSentence
  dsimp only
  cases kind : sentenceKind cfg field with
  | gga => exact (bounded.of_apartFromFix (apartFromFix_parseGga libc now tzer r)).silent
  | gsaGnss =>
      rw [parseGsaGnss_eq]
      exact SvBounded.silent
        ⟨bounded.count_nonneg, bounded.svs_nonneg, bounded.svs_le, bounded.room⟩
  | gsaGps =>
      exact SvBounded.silent
        ⟨bounded.count_nonneg, bounded.svs_nonneg, bounded.svs_le, bounded.room⟩
  | rmc => exact (bounded.of_apartFromFix (apartFromFix_parseRmc libc now tzer r)).silent
  | gsvGnss => exact staysBounded_parseGsvGnss _ tzer bounded (once kind)
  | gsvGps => exact absurd kind (sentenceKind_ne_gsvGps gnss field)
  | accuracy => exact (bounded.of_apartFromFix (apartFromFix_parseAccuracy tzer r)).silent
  | unknown => exact bounded.silent

theorem staysBounded_reportFix (endTag : Bool) {r : NmeaReader}
    (bounded : SvBounded cfg counted r) : StaysBounded cfg counted (reportFix endTag r) := by
  unfold reportFix
  split
  · exact ⟨by simp [ReaderOutput.Within], bounded.count_nonneg, bounded.svs_nonneg, bounded.svs_le,
      bounded.room⟩
  · exact bounded.silent

theorem staysBounded_reportSvs (gnss : cfg.gpsMode = 0) (endTag : Bool) {r : NmeaReader}
    (bounded : SvBounded cfg counted r) : StaysBounded cfg counted (reportSvs cfg endTag r) := by
  have size : 0 ≤ cfg.gnssMaxSvs := bounded.svs_nonneg.trans bounded.svs_le
  unfold reportSvs
  rw [if_pos gnss]
  split
  · refine ⟨?_, .empty size rfl rfl⟩
    intro output shown
    rw [List.mem_singleton] at shown
    subst shown
    exact bounded.svs_le
  · exact bounded.silent

theorem staysBounded_nmeaReaderParse (libc : LibcTime) (now : Int) (gnss : cfg.gpsMode = 0)
    (endTag : Bool) {r : NmeaReader} (bounded : SvBounded cfg counted r)
    (once : ∀ header ∈ parsedGsvHeader cfg r.input, header.ClosesEarlierSet r →
      counted = false) :
    StaysBounded cfg counted (nmeaReaderParse cfg libc now endTag r) := by
  have entered : StaysBounded cfg counted (r, [.parse r.input]) :=
    ⟨by simp [ReaderOutput.Within], bounded⟩
  unfold nmeaReaderParse
  split
  case isTrue => exact entered
  case isFalse long =>
    dsimp only
    split
    case isTrue => exact entered
    case isFalse wide =>
      refine ((entered.andThen fun reader => ?_).andThen fun reader => ?_).andThen fun reader => ?_
      · refine staysBounded_parseSentence libc now gnss reader fun kind => once _ ?_
        rw [parsedGsvHeader, if_pos ⟨Nat.not_lt.mp long, Nat.not_lt.mp wide, kind⟩]
        rfl
      · exact staysBounded_reportFix endTag reader
      · exact staysBounded_reportSvs gnss endTag reader

/-! ## Bytes -/

/-- The sentence that a byte completes. -/
def NmeaReader.completes (r : NmeaReader) (c : UInt8) : Option (List UInt8) :=
  if r.overflow = false ∧ r.input.length < nmeaMaxSize ∧ c = newline then some (r.input ++ [c])
  else none

theorem staysBounded_nmeaReaderAddc (libc : LibcTime) (now : Int) (gnss : cfg.gpsMode = 0)
    (endTag : Bool) (c : UInt8) {r : NmeaReader} (bounded : SvBounded cfg counted r)
    (once : ∀ sentence ∈ r.completes c, ∀ header ∈ parsedGsvHeader cfg sentence,
      header.ClosesEarlierSet r → counted = false) :
    StaysBounded cfg counted (nmeaReaderAddc cfg libc now endTag c r) := by
  have same : ∀ input overflow,
      SvBounded cfg counted { r with input := input, overflow := overflow } := fun _ _ =>
    ⟨bounded.count_nonneg, bounded.svs_nonneg, bounded.svs_le, bounded.room⟩
  unfold nmeaReaderAddc
  split
  case isTrue => exact (same r.input _).silent
  case isFalse notOverflow =>
    split
    case isTrue => exact (same [] true).silent
    case isFalse notFull =>
      dsimp only
      split
      case isTrue ends =>
        have complete : r.completes c = some (r.input ++ [c]) :=
          if_pos ⟨Bool.eq_false_iff.mpr notOverflow, Nat.not_le.mp notFull, ends⟩
        refine (staysBounded_nmeaReaderParse libc now gnss endTag
          (same _ r.overflow) ?_).andThen ?_
        · exact once _ complete
        · intro reader
          exact ⟨by simp [ReaderOutput.Within], reader.count_nonneg, reader.svs_nonneg,
            reader.svs_le, reader.room⟩
      case isFalse => exact (same (r.input ++ [c]) r.overflow).silent

/-! ## Runs -/

/-- No byte completes a GSV sentence that counts a set for the second time. -/
def setsCountedOnce (cfg : GpsConfig) : System.Guard NmeaReader ReaderEvent ReaderOutput :=
  fun history r event =>
    match event with
    | .addc _ _ c => ∀ sentence ∈ r.completes c, ∀ header ∈ parsedGsvHeader cfg sentence,
        header.ClosesEarlierSet r → setCounted false history.outputs = false
    | _ => True

instance (history : History ReaderEvent ReaderOutput) (r : NmeaReader) (event : ReaderEvent) :
    Decidable (setsCountedOnce cfg history r event) := by
  unfold setsCountedOnce
  split
  · infer_instance
  · exact inferInstanceAs (Decidable True)

/-- The counts, the writes and the reports of a run are within the table. -/
def SvTableBounded (cfg : GpsConfig) (history : History ReaderEvent ReaderOutput)
    (r : NmeaReader) : Prop :=
  0 ≤ r.svStatusGnss.numSvs ∧ r.svStatusGnss.numSvs ≤ cfg.gnssMaxSvs ∧
    ∀ output ∈ history.outputs, output.Within cfg

/-- While every set is counted once, the reader stays within the satellite table. -/
theorem svTable_bounded (libc : LibcTime) (gnss : cfg.gpsMode = 0) (size : 0 ≤ cfg.gnssMaxSvs)
    {history : History ReaderEvent ReaderOutput} {r : NmeaReader}
    (run : (readerSystem cfg libc).Run (setsCountedOnce cfg) history r) :
    SvTableBounded cfg history r := by
  have all : StaysBounded cfg false (r, history.outputs) := by
    refine System.Run.invariant
      (fun history r => StaysBounded cfg false (r, history.outputs)) ?_ ?_ run
    · rintro _ rfl
      exact ⟨by simp [History.outputs], .empty size rfl rfl⟩
    · intro history r event after out bounded guarded stepped
      have result := Option.some.inj stepped
      rw [History.outputs_snoc]
      have step : StaysBounded cfg (setCounted false history.outputs)
          (readerStep cfg libc event r) := by
        have reader := bounded.reader
        cases event with
        | addc now endTag c =>
            exact staysBounded_nmeaReaderAddc libc now gnss endTag c reader guarded
        | setCallback =>
            exact ⟨by simp [readerStep, ReaderOutput.Within], .empty size rfl rfl⟩
        | clearFixMode =>
            exact SvBounded.silent
              ⟨reader.count_nonneg, reader.svs_nonneg, reader.svs_le, reader.room⟩
      have both : StaysBounded cfg false
          (Parsed.andThen (r, history.outputs) (readerStep cfg libc event)) :=
        bounded.andThen fun _ => step
      rw [Parsed.andThen, result] at both
      exact both
  exact ⟨all.reader.svs_nonneg, all.reader.svs_le, all.outputs⟩

/-- A GSV sentence with four satellites, the first of two. -/
def firstOfTwo : List UInt8 :=
  ascii ['$', 'G', 'P', 'G', 'S', 'V', ',', '2', ',', '1', ',', '0', '4', ',', '0', '1', ',', ',',
    ',', ',', '0', '2', ',', ',', ',', ',', '0', '3', ',', ',', ',', ',', '0', '4', '\n']

/-- The second of two GSV sentences, which closes the set. -/
def secondOfTwo : List UInt8 :=
  ascii ['$', 'G', 'P', 'G', 'S', 'V', ',', '2', ',', '2', ',', '0', '4', '\n']

theorem svTable_bounded_firstThenSecond :
    ∃ history r, (readerSystem gnssConfig LibcTime.utc).Run
      (setsCountedOnce gnssConfig) history r ∧
      SvTableBounded gnssConfig history r := by
  obtain ⟨history, run, -⟩ := exists_run_readerRun gnssConfig LibcTime.utc
    (setsCountedOnce gnssConfig) (readEvents 0 (firstOfTwo ++ secondOfTwo)) (by decide +kernel)
  exact ⟨history, _, run, svTable_bounded LibcTime.utc rfl (by decide) run⟩

/-- Seventeen closing sentences for one set of four satellites report 68 satellites. -/
theorem svTable_exceeded :
    ¬ ∀ history r, (readerSystem gnssConfig LibcTime.utc).Run System.free history r →
      SvTableBounded gnssConfig history r := by
  intro bounded
  let bytes := firstOfTwo ++ (List.replicate 17 secondOfTwo).flatten
  obtain ⟨history, run, outputs⟩ := exists_run_readerRun gnssConfig LibcTime.utc
    System.free (readEvents 0 bytes) (by decide +kernel)
  have within := (bounded history _ run).2.2
  rw [outputs] at within
  have outside : ¬ ∀ output ∈
      (readerRun gnssConfig LibcTime.utc (readEvents 0 bytes) nmeaReaderInit).2,
      output.Within gnssConfig := by
    decide +kernel
  exact outside within

end X3Hal.Gps
