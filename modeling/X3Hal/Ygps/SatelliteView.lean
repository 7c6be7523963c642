import X3Hal.Transition.Core
import X3Hal.Ygps.Sentences

/-!
# The view of the satellites

What a talker's sentences say about its satellites, and the list that the parser keeps for it.
The parser throws at a field of zeros and drops the rest of the sentence, and it takes the
fix type of a GSA sentence for the number of a satellite.
-/

namespace X3Hal.Ygps

open Gps (Real64)
open Memory (ascii)
open Transition (System History)

/-! ## What the sentences say -/

/-- A satellite as its GSV sentence gives it. -/
structure TrackedSatellite where
  number : Nat
  elevation : ℚ
  azimuth : ℚ
  snr : ℚ
  usedInFix : Bool
  deriving DecidableEq

def GsvSatellite.tracked (satellite : GsvSatellite) (listed : List Nat) : TrackedSatellite where
  number := satellite.number.value
  elevation := satellite.elevation.value
  azimuth := satellite.azimuth.value
  snr := satellite.snr.value
  usedInFix := satellite.number.value ∈ listed

/-- The numbers of the satellites of a fix. -/
def GsaSentence.listed (sentence : GsaSentence) : List Nat :=
  if sentence.fixType.value = 2 ∨ sentence.fixType.value = 3 then sentence.ids.map Digits.value
  else []

namespace Sentence

/-- A message number 1 begins a new list. -/
def begins : Sentence → Bool
  | .gsa _ => false
  | .gsv sentence => sentence.number.value = 1

def gsa? : Sentence → Option GsaSentence
  | .gsa sentence => some sentence
  | .gsv _ => none

def isGsv (sentence : Sentence) : Bool :=
  sentence.gsa?.isNone

/-- The satellites with a positive number in a GSV sentence. -/
def satellites : Sentence → List GsvSatellite
  | .gsa _ => []
  | .gsv sentence => sentence.satellites.filter fun satellite => 0 < satellite.number.value

end Sentence

/-- The sentences from the last one that begins a list. -/
def sinceBegin (sentences : List Sentence) : List Sentence :=
  (sentences.rdropWhile fun sentence => !sentence.begins).getLast?.toList ++
    sentences.rtakeWhile fun sentence => !sentence.begins

/-- The numbers that the latest GSA sentence lists. -/
def latestListed (sentences : List Sentence) : List Nat :=
  ((sentences.filterMap Sentence.gsa?).getLast?).elim [] GsaSentence.listed

/-- The list of one talker: its satellites since the last message number 1.  Those from before the
latest GSA sentence are not used in the fix. -/
def viewOf (sentences : List Sentence) : List TrackedSatellite :=
  (((sinceBegin sentences).rdropWhile Sentence.isGsv).flatMap Sentence.satellites).map
      (GsvSatellite.tracked · []) ++
    (((sinceBegin sentences).rtakeWhile Sentence.isGsv).flatMap Sentence.satellites).map
      (GsvSatellite.tracked · (latestListed sentences))

/-- The list of a talker after sentences of all talkers. -/
def satelliteView (talker : Talker) (sentences : List Sentence) : List TrackedSatellite :=
  viewOf (sentences.filter fun sentence => sentence.talker = talker)

/-- The satellite as the parser keeps it. -/
def TrackedSatellite.info (talker : Talker) (satellite : TrackedSatellite) : SatelliteInfo where
  mPrn := satellite.number
  mSnr := .finite satellite.snr
  mElevation := .finite satellite.elevation
  mAzimuth := .finite satellite.azimuth
  mUsedInFix := satellite.usedInFix
  mColor := checkTalkerColor (some talker)

/-! ## One more sentence -/

theorem sinceBegin_begins {sentence : Sentence} (begins : sentence.begins = true)
    (sentences : List Sentence) : sinceBegin (sentences ++ [sentence]) = [sentence] := by
  rw [sinceBegin, List.rdropWhile_concat_neg _ _ _ (by simp [begins]),
    List.rtakeWhile_concat_neg _ _ _ (by simp [begins])]
  simp

theorem sinceBegin_continues {sentence : Sentence} (continues : sentence.begins = false)
    (sentences : List Sentence) :
    sinceBegin (sentences ++ [sentence]) = sinceBegin sentences ++ [sentence] := by
  rw [sinceBegin, List.rdropWhile_concat_pos _ _ _ (by simp [continues]),
    List.rtakeWhile_concat_pos _ _ _ (by simp [continues]), ← List.append_assoc]
  rfl

theorem latestListed_gsv (sentence : GsvSentence) (sentences : List Sentence) :
    latestListed (sentences ++ [.gsv sentence]) = latestListed sentences := by
  simp [latestListed, Sentence.gsa?]

theorem latestListed_gsa (sentence : GsaSentence) (sentences : List Sentence) :
    latestListed (sentences ++ [.gsa sentence]) = sentence.listed := by
  simp [latestListed, Sentence.gsa?]

/-- A GSV sentence appends its satellites, or begins the list with them. -/
theorem viewOf_gsv (sentence : GsvSentence) (sentences : List Sentence) :
    viewOf (sentences ++ [.gsv sentence]) =
      (if sentence.number.value = 1 then [] else viewOf sentences) ++
        (Sentence.gsv sentence).satellites.map
          (GsvSatellite.tracked · (latestListed sentences)) := by
  have isGsv : (Sentence.gsv sentence).isGsv = true := rfl
  by_cases begins : sentence.number.value = 1
  · have isFirst : (Sentence.gsv sentence).begins = true := by simpa [Sentence.begins] using begins
    rw [viewOf, sinceBegin_begins isFirst, latestListed_gsv, if_pos begins,
      List.rdropWhile_singleton, if_pos isGsv, ← List.nil_append [Sentence.gsv sentence],
      List.rtakeWhile_concat_pos _ _ _ isGsv]
    simp
  · have isLater : (Sentence.gsv sentence).begins = false := by
      simpa [Sentence.begins] using begins
    rw [viewOf, sinceBegin_continues isLater, latestListed_gsv, if_neg begins,
      List.rdropWhile_concat_pos _ _ _ isGsv, List.rtakeWhile_concat_pos _ _ _ isGsv,
      List.flatMap_append, List.map_append, ← List.append_assoc, viewOf]
    simp

/-- A GSA sentence keeps the satellites and uses none of them. -/
theorem viewOf_gsa (sentence : GsaSentence) (sentences : List Sentence) :
    viewOf (sentences ++ [.gsa sentence]) =
      (viewOf sentences).map fun satellite => { satellite with usedInFix := false } := by
  have isGsa : ¬ (Sentence.gsa sentence).isGsv = true := Bool.false_ne_true
  have unused : ∀ listed : List Nat,
      (fun satellite : TrackedSatellite => { satellite with usedInFix := false }) ∘
        (GsvSatellite.tracked · listed) = (GsvSatellite.tracked · []) := by
    intro listed
    funext satellite
    simp [GsvSatellite.tracked]
  have whole : (sinceBegin sentences).rdropWhile Sentence.isGsv ++
      (sinceBegin sentences).rtakeWhile Sentence.isGsv = sinceBegin sentences :=
    List.rdropWhile_append_rtakeWhile
  have parts := congrArg (List.flatMap Sentence.satellites) whole
  rw [List.flatMap_append] at parts
  rw [viewOf, sinceBegin_continues rfl, List.rdropWhile_concat_neg _ _ _ isGsa,
    List.rtakeWhile_concat_neg _ _ _ isGsa, List.flatMap_append, ← parts, viewOf]
  simp only [List.map_append, List.map_map, unused]
  simp [Sentence.satellites]

/-! ## What a sentence changes -/

section Gsa

variable (sentence : GsaSentence)

theorem GsaSentence.inner_fields :
    ∀ field ∈ sentence.mode.elim [] GsaMode.text :: sentence.fixType.text ::
      (sentence.ids.map Digits.text ++
        [sentence.pdop.text, sentence.hdop.text, sentence.vdop.text]),
      ∀ byte ∈ field, Inner byte := by
  simp only [List.forall_mem_cons, List.forall_mem_append, List.forall_mem_map]
  refine ⟨?_, sentence.fixType.inner_text, fun id _ => id.inner_text, sentence.pdop.inner_text,
    sentence.hdop.inner_text, sentence.vdop.inner_text, ?_⟩
  · cases sentence.mode with
    | none => exact fun byte member => absurd member List.not_mem_nil
    | some mode =>
        cases mode with
        | manual => decide +kernel
        | automatic => decide +kernel
  · exact fun field member => absurd member List.not_mem_nil

/-- The checksum is behind a field that the loop does not read. -/
theorem GsaSentence.split_record :
    split sentence.record =
      addressText sentence.talker (ascii "GSA") :: sentence.mode.elim [] GsaMode.text ::
        sentence.fixType.text :: (sentence.ids.map Digits.text ++
          [sentence.pdop.text, sentence.hdop.text, sentence.vdop.text ++
            sentence.checksum.text]) := by
  have cut := split_recordText sentence.talker sentence.checksum (.inl rfl) sentence.inner_fields
  rw [← List.cons_append, ← List.cons_append, endWith_append (List.cons_ne_nil _ _)] at cut
  exact cut

/-- The numbers that `parseGSA` keeps as used in the fix. -/
def GsaSentence.idsUsed : List Int :=
  if sentence.fixType.text = ascii "1" then []
  else NmeaParser.idsRead (sentence.fixType.text :: sentence.ids.map Digits.text)

theorem parseGSA_record {parser : NmeaParser}
    (current : parser.mCurrentTalker = some sentence.talker) :
    (parser.parseGSA sentence.record).mSatelInfoList =
        Function.update parser.mSatelInfoList sentence.talker
          ((parser.mSatelInfoList sentence.talker).map fun satellite =>
            { satellite with mUsedInFix := false }) ∧
      (parser.parseGSA sentence.record).mUsedFixIdMapList =
        Function.update parser.mUsedFixIdMapList (some sentence.talker) sentence.idsUsed := by
  have long : 17 ≤ (split sentence.record).length := by
    rw [sentence.split_record]
    simp [sentence.twelve]
  have fixType : (split sentence.record).getD 2 [] = sentence.fixType.text := by
    rw [sentence.split_record]
    rfl
  have looped : ((split sentence.record).drop 2).take 13 =
      sentence.fixType.text :: sentence.ids.map Digits.text := by
    rw [sentence.split_record, List.drop_succ_cons, List.drop_succ_cons, List.drop_zero,
      List.take_succ_cons, List.take_left' (by rw [List.length_map, sentence.twelve])]
  have ids : NmeaParser.gsaIds (split sentence.record) = sentence.idsUsed := by
    rw [NmeaParser.gsaIds, GsaSentence.idsUsed, fixType, looped]
    by_cases noFix : sentence.fixType.text = ascii "1"
    · rw [if_pos noFix, if_neg fun both => both.2 noFix]
    · rw [if_neg noFix, if_pos ⟨long, noFix⟩]
  obtain ⟨satellites, used, -⟩ := NmeaParser.parseGSA_spec current sentence.record
  rw [ids] at used
  exact ⟨satellites, used⟩

theorem parse_gsa (parser : NmeaParser) :
    parser.parse sentence.record =
      ({ parser with mCurrentTalker := some sentence.talker }.parseGSA sentence.record, []) := by
  have talker : checkTalker sentence.record = some sentence.talker :=
    checkTalker_recordText sentence.talker sentence.checksum (.inl rfl) sentence.inner_fields
  have noRmc : contains sentence.record (ascii "RMC") = _ :=
    contains_kind sentence.talker sentence.checksum (.inl rfl) sentence.inner_fields (by decide)
  have gsa : contains sentence.record (ascii "GSA") = _ :=
    contains_kind sentence.talker sentence.checksum (.inl rfl) sentence.inner_fields (by decide)
  unfold NmeaParser.parse
  rw [talker, noRmc, gsa]
  rfl

end Gsa

section Gsv

variable (sentence : GsvSentence)

theorem GsvSentence.inner_fields :
    ∀ field ∈ sentence.total.text :: sentence.number.text :: sentence.inView.text ::
      sentence.satellites.flatMap GsvSatellite.fields, ∀ byte ∈ field, Inner byte := by
  simp only [List.forall_mem_cons, List.forall_mem_flatMap, GsvSatellite.fields]
  refine ⟨sentence.total.inner_text, sentence.number.inner_text, sentence.inView.inner_text, ?_⟩
  intro satellite _
  exact ⟨satellite.number.inner_text, satellite.elevation.inner_text, satellite.azimuth.inner_text,
    satellite.snr.inner_text, fun field member => absurd member List.not_mem_nil⟩

theorem GsvSentence.split_record :
    split sentence.record =
      addressText sentence.talker (ascii "GSV") :: sentence.total.text :: sentence.number.text ::
        endWith sentence.checksum.text
          (sentence.inView.text :: sentence.satellites.flatMap GsvSatellite.fields) :=
  split_recordText sentence.talker sentence.checksum (.inr rfl) sentence.inner_fields

/-- The checksum is behind the number in view if no satellite follows. -/
theorem drop_endWith (ending field : Text) (fields : List Text) :
    (endWith ending (field :: fields)).drop 1 = endWith ending fields := by
  cases fields with
  | nil => rfl
  | cons next fields => rfl

theorem parse_gsv (parser : NmeaParser) :
    parser.parse sentence.record =
      { parser with mCurrentTalker := some sentence.talker }.parseGSV sentence.record := by
  have talker : checkTalker sentence.record = some sentence.talker :=
    checkTalker_recordText sentence.talker sentence.checksum (.inr rfl) sentence.inner_fields
  have kind : ∀ sought ∈ [ascii "RMC", ascii "GSA", ascii "GGA", ascii "GSV"],
      contains sentence.record sought = decide (ascii "GSV" = sought) :=
    fun _ => contains_kind sentence.talker sentence.checksum (.inr rfl) sentence.inner_fields
  unfold NmeaParser.parse
  rw [talker, kind (ascii "RMC") (by decide), kind (ascii "GSA") (by decide),
    kind (ascii "GGA") (by decide), kind (ascii "GSV") (by decide)]
  rfl

end Gsv

/-- The parser reads every field of the sentence: none is a field of zeros, and the numbers are
those of an `int`. -/
structure GsvSentence.ReadInFull (sentence : GsvSentence) : Prop where
  total : ¬ Zeros sentence.total.text
  number : ¬ Zeros sentence.number.text
  begins : sentence.number.value = 1 → 0 < sentence.total.value ∧ sentence.total.value < 2 ^ 31
  fields : ∀ satellite ∈ sentence.satellites, ∀ field ∈ satellite.fields, ¬ Zeros field
  small : ∀ satellite ∈ sentence.satellites, satellite.number.value < 2 ^ 31

/-- The satellite as the parser adds it. -/
def GsvSatellite.info (parser : NmeaParser) (satellite : GsvSatellite) : SatelliteInfo where
  mPrn := satellite.number.value
  mSnr := .finite satellite.snr.value
  mElevation := .finite satellite.elevation.value
  mAzimuth := .finite satellite.azimuth.value
  mUsedInFix := parser.isUsedInFix satellite.number.value
  mColor := checkTalkerColor parser.mCurrentTalker

theorem readSatellite_fields {parser : NmeaParser} {satellite : GsvSatellite} {snr : Text}
    (fields : ∀ field ∈ satellite.fields, ¬ Zeros field)
    (small : satellite.number.value < 2 ^ 31)
    (isSnr : parseSnr snr = parseFloat satellite.snr.text) :
    parser.readSatellite satellite.number.text satellite.elevation.text satellite.azimuth.text
        snr =
      some (if 0 < satellite.number.value then [satellite.info parser] else []) := by
  simp only [GsvSatellite.fields, List.forall_mem_cons] at fields
  rcases fields with ⟨number, elevation, azimuth, ofSnr, -⟩
  rw [NmeaParser.readSatellite, Digits.parseInt_text number, Decimal.parseFloat_text elevation,
    Decimal.parseFloat_text azimuth, isSnr, Decimal.parseFloat_text ofSnr, if_pos small]
  simp [GsvSatellite.info]

/-- The last SNR has the checksum behind it. -/
theorem endWith_fields (satellite : GsvSatellite) (checksum : Checksum) (others : List Text) :
    ∃ snr, parseSnr snr = parseFloat satellite.snr.text ∧
      endWith checksum.text (satellite.fields ++ others) =
        satellite.number.text :: satellite.elevation.text :: satellite.azimuth.text :: snr ::
          endWith checksum.text others := by
  cases others with
  | nil => exact ⟨_, satellite.snr.parseSnr_text_checksum checksum, rfl⟩
  | cons field fields => exact ⟨_, satellite.snr.parseSnr_text, rfl⟩

theorem readSatellites_fields {parser : NmeaParser} {satellites : List GsvSatellite}
    (checksum : Checksum)
    (fields : ∀ satellite ∈ satellites, ∀ field ∈ satellite.fields, ¬ Zeros field)
    (small : ∀ satellite ∈ satellites, satellite.number.value < 2 ^ 31) :
    parser.readSatellites (endWith checksum.text (satellites.flatMap GsvSatellite.fields)) =
      ((satellites.filter fun satellite => 0 < satellite.number.value).map (·.info parser),
        true) := by
  induction satellites with
  | nil => rfl
  | cons satellite satellites ih =>
      rw [List.forall_mem_cons] at fields small
      rcases endWith_fields satellite checksum (satellites.flatMap GsvSatellite.fields) with
        ⟨snr, isSnr, shape⟩
      rw [List.flatMap_cons, shape, NmeaParser.readSatellites,
        readSatellite_fields fields.1 small.1 isSnr, ih fields.2 small.2]
      by_cases positive : 0 < satellite.number.value
      · simp [positive]
      · simp [positive]

theorem parseGSV_record {sentence : GsvSentence} (readInFull : sentence.ReadInFull)
    {parser : NmeaParser} (current : parser.mCurrentTalker = some sentence.talker) :
    (parser.parseGSV sentence.record).1 =
      parser.setSatellites sentence.talker
        ((if sentence.number.value = 1 then [] else parser.mSatelInfoList sentence.talker) ++
          (Sentence.gsv sentence).satellites.map (·.info parser)) := by
  have begins : (0 < (if sentence.total.value < 2 ^ 31 then (sentence.total.value : Int) else 0) ∧
      (if sentence.number.value < 2 ^ 31 then (sentence.number.value : Int) else 0) = 1) ↔
      sentence.number.value = 1 := by
    constructor
    · rintro ⟨-, isOne⟩
      split at isOne
      · exact_mod_cast isOne
      · exact absurd isOne (by decide)
    · intro isOne
      have total := readInFull.begins isOne
      rw [if_pos total.2, isOne]
      exact ⟨by exact_mod_cast total.1, rfl⟩
  have added := @readSatellites_fields parser _ sentence.checksum readInFull.fields
    readInFull.small
  unfold NmeaParser.parseGSV
  rw [sentence.split_record]
  simp only [List.getElem?_cons_succ, List.getElem?_cons_zero, Option.bind_some, current,
    Digits.parseInt_text readInFull.total, Digits.parseInt_text readInFull.number, begins,
    List.drop_succ_cons, drop_endWith, added]
  rfl

/-! ## The numbers used in the fix -/

/-- The parser keeps the listed numbers: the fix type, which it reads as one of them, is that of
no fix, or a number that is listed itself. -/
inductive GsaSentence.ReadRight (sentence : GsaSentence) : Prop
  | noFix (isOne : sentence.fixType.text = ascii "1")
  | zeros (fixType : Zeros sentence.fixType.text)
  | empty (fixType : sentence.fixType = []) (ids : ∀ id ∈ sentence.ids, id = [])
  | listed (fix : sentence.fixType.value = 2 ∨ sentence.fixType.value = 3)
      (isListed : sentence.fixType.value ∈ sentence.ids.map Digits.value)
      (ids : ∀ id ∈ sentence.ids, ¬ Zeros id.text ∧ id.value < 2 ^ 31)

theorem value_of_zeros {digits : Digits} (zeros : Zeros digits.text) : digits.value = 0 := by
  rw [Digits.value, ← digitsValue_dropZeros, List.dropWhile_eq_nil_iff.mpr]
  · rfl
  · simpa using zeros.2

theorem mem_idsRead {ids : List Digits}
    (readable : ∀ id ∈ ids, ¬ Zeros id.text ∧ id.value < 2 ^ 31) {number : Nat}
    (positive : 0 < number) :
    (number : Int) ∈ NmeaParser.idsRead (ids.map Digits.text) ↔ number ∈ ids.map Digits.value := by
  induction ids with
  | nil => simp [NmeaParser.idsRead]
  | cons id ids ih =>
      rw [List.forall_mem_cons] at readable
      have parsed := Digits.parseInt_text readable.1.1
      rw [if_pos readable.1.2] at parsed
      rw [List.map_cons, NmeaParser.idsRead_cons parsed, List.map_cons, List.mem_cons,
        ← ih readable.2]
      by_cases isPositive : 0 < (id.value : Int)
      · rw [if_pos isPositive, List.mem_cons, Nat.cast_inj]
      · have other : number ≠ id.value := by omega
        rw [if_neg isPositive]
        simp [other]

/-- A fix of two or three dimensions is taken to use the satellite with the number of its type. -/
theorem GsaSentence.idsUsed_of_fix {sentence : GsaSentence}
    (fix : sentence.fixType.value = 2 ∨ sentence.fixType.value = 3) :
    sentence.idsUsed =
      (sentence.fixType.value : Int) :: NmeaParser.idsRead (sentence.ids.map Digits.text) := by
  have notOne : sentence.fixType.text ≠ ascii "1" := by
    intro isOne
    rw [Digits.value, isOne] at fix
    exact absurd fix (by decide)
  have notZeros : ¬ Zeros sentence.fixType.text := by
    intro zeros
    rw [value_of_zeros zeros] at fix
    exact absurd fix (by decide)
  have parsed := Digits.parseInt_text notZeros
  rw [if_pos (by omega)] at parsed
  rw [idsUsed, if_neg notOne, NmeaParser.idsRead_cons parsed, if_pos (by omega)]

theorem GsaSentence.mem_idsUsed {sentence : GsaSentence} (right : sentence.ReadRight)
    {number : Nat} (positive : 0 < number) :
    (number : Int) ∈ sentence.idsUsed ↔ number ∈ sentence.listed := by
  cases right with
  | noFix isOne =>
      have value : sentence.fixType.value = 1 := by
        rw [Digits.value, isOne]
        decide
      simp [idsUsed, isOne, listed, value]
  | zeros fixType =>
      have notOne : sentence.fixType.text ≠ ascii "1" := by
        intro isOne
        exact absurd (fixType.2 49 (by rw [isOne]; decide)) (by decide)
      simp [idsUsed, notOne, listed, value_of_zeros fixType, NmeaParser.idsRead,
        Digits.parseInt_text_of_zeros fixType]
  | empty fixType ids =>
      have value : sentence.fixType.value = 0 := by
        rw [fixType]
        rfl
      have nothing : ∀ fields : List Digits, (∀ id ∈ fields, id = []) →
          NmeaParser.idsRead (fields.map Digits.text) = [] := by
        intro fields
        induction fields with
        | nil => exact fun _ => rfl
        | cons id fields ih =>
            intro empty
            rw [List.forall_mem_cons] at empty
            rw [empty.1]
            exact ih empty.2
      have read := nothing (sentence.fixType :: sentence.ids)
        (List.forall_mem_cons.mpr ⟨fixType, ids⟩)
      rw [List.map_cons] at read
      simp [idsUsed, read, listed, value]
  | listed fix isListed ids =>
      rw [idsUsed_of_fix fix, List.mem_cons, Nat.cast_inj, mem_idsRead ids positive,
        GsaSentence.listed, if_pos fix]
      constructor
      · rintro (rfl | inIds)
        · exact isListed
        · exact inIds
      · exact .inr

/-! ## Runs -/

/-- The parser with the sentences it is given. -/
def viewSystem : System NmeaParser Sentence ViewMessage where
  Init parser := parser = .new
  step parser sentence := some (parser.parse sentence.record)

theorem run_parse {guard : System.Guard NmeaParser Sentence ViewMessage}
    {history : History Sentence ViewMessage} {parser : NmeaParser}
    (run : viewSystem.Run guard history parser) (sentence : Sentence)
    (guarded : guard history parser sentence) :
    viewSystem.Run guard (history ++ [(sentence, (parser.parse sentence.record).2)])
      (parser.parse sentence.record).1 :=
  run.next guarded rfl

/-- The parser reads the sentence as it stands. -/
def Sentence.Readable : Sentence → Prop
  | .gsa sentence => sentence.ReadRight
  | .gsv sentence => sentence.ReadInFull

/-- The lists are the views, and the numbers kept are those that the latest GSA sentences list. -/
structure ShowsView (sentences : List Sentence) (parser : NmeaParser) : Prop where
  satellites : ∀ talker, parser.mSatelInfoList talker =
    (satelliteView talker sentences).map (·.info talker)
  used : ∀ talker (number : Nat), 0 < number →
    ((number : Int) ∈ parser.mUsedFixIdMapList (some talker) ↔
      number ∈ latestListed (sentences.filter fun sentence => sentence.talker = talker))

theorem filter_snoc_other {talker : Talker} {sentence : Sentence}
    (other : sentence.talker ≠ talker)
    (sentences : List Sentence) :
    (sentences ++ [sentence]).filter (fun sentence => sentence.talker = talker) =
      sentences.filter fun sentence => sentence.talker = talker := by
  simp [other]

theorem filter_snoc_same {talker : Talker} {sentence : Sentence} (same : sentence.talker = talker)
    (sentences : List Sentence) :
    (sentences ++ [sentence]).filter (fun sentence => sentence.talker = talker) =
      (sentences.filter fun sentence => sentence.talker = talker) ++ [sentence] := by
  simp [same]

section ShowsView

variable {sentences : List Sentence} {parser : NmeaParser} (shows : ShowsView sentences parser)

include shows

theorem ShowsView.parse_gsa {sentence : GsaSentence} (right : sentence.ReadRight) :
    ShowsView (sentences ++ [.gsa sentence]) (parser.parse sentence.record).1 := by
  have mine : (Sentence.gsa sentence).talker = sentence.talker := rfl
  rw [X3Hal.Ygps.parse_gsa]
  rcases @parseGSA_record sentence { parser with mCurrentTalker := some sentence.talker } rfl with
    ⟨satellites, used⟩
  constructor
  · intro talker
    rw [satellites, satelliteView]
    by_cases same : talker = sentence.talker
    · subst same
      rw [filter_snoc_same mine, viewOf_gsa, Function.update_self, shows.satellites,
        satelliteView, List.map_map, List.map_map]
      rfl
    · rw [filter_snoc_other (Ne.symm same), Function.update_of_ne same]
      exact shows.satellites talker
  · intro talker number positive
    rw [used]
    by_cases same : talker = sentence.talker
    · subst same
      rw [filter_snoc_same mine, latestListed_gsa, Function.update_self]
      exact GsaSentence.mem_idsUsed right positive
    · rw [filter_snoc_other (Ne.symm same),
        Function.update_of_ne fun equal => same (Option.some.inj equal)]
      exact shows.used talker number positive

theorem ShowsView.info_eq {sentence : GsvSentence} {satellite : GsvSatellite}
    (positive : 0 < satellite.number.value) :
    satellite.info { parser with mCurrentTalker := some sentence.talker } =
      (satellite.tracked (latestListed (sentences.filter fun other =>
        other.talker = sentence.talker))).info sentence.talker := by
  have used := shows.used sentence.talker satellite.number.value positive
  have sameUse : (parser.mUsedFixIdMapList (some sentence.talker)).contains
      (satellite.number.value : Int) = decide (satellite.number.value ∈ latestListed
        (sentences.filter fun other => other.talker = sentence.talker)) := by
    rw [List.contains_eq_mem, decide_eq_decide]
    exact used
  rw [GsvSatellite.info, TrackedSatellite.info, NmeaParser.isUsedInFix, NmeaParser.usedFixIds,
    sameUse]
  rfl

theorem ShowsView.parse_gsv {sentence : GsvSentence} (readInFull : sentence.ReadInFull) :
    ShowsView (sentences ++ [.gsv sentence]) (parser.parse sentence.record).1 := by
  have mine : (Sentence.gsv sentence).talker = sentence.talker := rfl
  rw [X3Hal.Ygps.parse_gsv, parseGSV_record readInFull rfl]
  constructor
  · intro talker
    rw [NmeaParser.setSatellites_satellites, satelliteView]
    by_cases same : talker = sentence.talker
    · subst same
      have added : (Sentence.gsv sentence).satellites.map
          (·.info { parser with mCurrentTalker := some sentence.talker }) =
          ((Sentence.gsv sentence).satellites.map (GsvSatellite.tracked ·
            (latestListed (sentences.filter fun other => other.talker = sentence.talker)))).map
              (·.info sentence.talker) := by
        rw [List.map_map]
        apply List.map_congr_left
        intro satellite member
        exact shows.info_eq (of_decide_eq_true (List.mem_filter.mp member).2)
      rw [filter_snoc_same mine, viewOf_gsv, Function.update_self, List.map_append, added]
      split
      case isTrue => rfl
      case isFalse => rw [shows.satellites, satelliteView]
    · rw [filter_snoc_other (Ne.symm same), Function.update_of_ne same]
      exact shows.satellites talker
  · intro talker number positive
    rw [NmeaParser.setSatellites_ids, shows.used talker number positive]
    by_cases same : talker = sentence.talker
    · subst same
      rw [filter_snoc_same mine, latestListed_gsv]
    · rw [filter_snoc_other (Ne.symm same)]

end ShowsView

/-- While the parser can read the sentences as they stand, the list that it keeps for a talker
is what the talker's sentences say. -/
theorem satellite_view {history : History Sentence ViewMessage} {parser : NmeaParser}
    (run : viewSystem.Run (fun _ _ sentence => sentence.Readable) history parser)
    (talker : Talker) :
    parser.mSatelInfoList talker = (satelliteView talker history.events).map (·.info talker) := by
  have shows : ShowsView history.events parser := by
    apply run.invariant fun history parser => ShowsView history.events parser
    · rintro parser rfl
      exact ⟨fun _ => rfl, fun _ _ _ => by simp [NmeaParser.new, latestListed]⟩
    · intro history parser sentence after out shows readable stepped
      have isAfter : (parser.parse sentence.record).1 = after :=
        congrArg Prod.fst (Option.some.inj stepped)
      rw [History.events_snoc, ← isAfter]
      cases sentence with
      | gsa sentence => exact shows.parse_gsa readable
      | gsv sentence => exact shows.parse_gsv readable
  exact shows.satellites talker

/-! ## Sentences of the documentation -/

/-- A whole number without sign. -/
def Decimal.ofDigits (digits : Digits) : Decimal :=
  ⟨false, digits, none, fun _ => ⟨rfl, rfl⟩⟩

/-- A decimal with one digit before the point and one behind it. -/
def Decimal.ofTenths (whole tenths : Fin 10) : Decimal :=
  ⟨false, [whole], some [tenths], fun empty => absurd empty (List.cons_ne_nil _ _)⟩

/-- `$GPGSA,A,3,,,,,,16,18,,22,24,,,3.6,2.1,2.2*3C` with satellite 3 in its first field -/
def listingGsa : GsaSentence where
  talker := .gp
  mode := some .automatic
  fixType := [3]
  ids := [[0, 3], [], [], [], [], [1, 6], [1, 8], [], [2, 2], [2, 4], [], []]
  twelve := rfl
  pdop := .ofTenths 3 6
  hdop := .ofTenths 2 1
  vdop := .ofTenths 2 2
  checksum := ⟨3, 12, false⟩

/-- `$GPGSV,1,1,13,02,02,213,,03,-3,000,,11,00,121,,14,13,172,05*67` -/
def documentedGsv : GsvSentence where
  talker := .gp
  total := [1]
  number := [1]
  inView := [1, 3]
  satellites :=
    [{ number := [0, 2], elevation := .ofDigits [0, 2], azimuth := .ofDigits [2, 1, 3],
       snr := .ofDigits [] },
     { number := [0, 3], azimuth := .ofDigits [0, 0, 0], snr := .ofDigits [],
       elevation := ⟨true, [3], none, fun empty => absurd empty (List.cons_ne_nil _ _)⟩ },
     { number := [1, 1], elevation := .ofDigits [0, 0], azimuth := .ofDigits [1, 2, 1],
       snr := .ofDigits [] },
     { number := [1, 4], elevation := .ofDigits [1, 3], azimuth := .ofDigits [1, 7, 2],
       snr := .ofDigits [0, 5] }]
  checksum := ⟨6, 7, false⟩

example : documentedGsv.record =
    ascii "$GPGSV,1,1,13,02,02,213,,03,-3,000,,11,00,121,,14,13,172,05*67" := by
  decide +kernel

/-- The documented sentence with the horizon and the north left out. -/
def readableGsv : GsvSentence :=
  { documentedGsv with
    satellites := documentedGsv.satellites.filter fun satellite =>
      satellite.fields.all fun field => ¬ Zeros field }

theorem satellite_view_listed :
    ∃ history parser, viewSystem.Run (fun _ _ sentence => sentence.Readable) history parser ∧
      parser.mSatelInfoList .gp = (satelliteView .gp history.events).map (·.info .gp) := by
  have start : viewSystem.Run (fun _ _ sentence => sentence.Readable) [] .new := .start rfl
  have listing : listingGsa.ReadRight :=
    .listed (by decide +kernel) (by decide +kernel) (by decide +kernel)
  have readable : readableGsv.ReadInFull :=
    ⟨by decide +kernel, by decide +kernel, by decide +kernel, by decide +kernel, by decide +kernel⟩
  have run := run_parse (run_parse start (.gsa listingGsa) listing) (.gsv readableGsv) readable
  exact ⟨_, _, run, satellite_view run .gp⟩

/-- The azimuth `000` of the documented sentence ends it after its first satellite. -/
theorem satellite_view_broken :
    ¬ ∀ history parser, viewSystem.Run System.free history parser →
      ∀ talker, parser.mSatelInfoList talker =
        (satelliteView talker history.events).map (·.info talker) := by
  intro view
  have start : viewSystem.Run System.free [] .new := .start rfl
  have run := run_parse start (.gsv documentedGsv) trivial
  have lengths := congrArg List.length (view _ _ run .gp)
  revert lengths
  decide +kernel

end X3Hal.Ygps
