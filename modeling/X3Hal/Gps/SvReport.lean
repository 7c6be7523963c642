import Mathlib
import X3Hal.Gps.ReportTimes
import X3Hal.Stream.Parts

/-!
# The satellite report

The reader puts the parts of a GSV group together in its table, behind the entries of
the groups it has counted: it is an assembly of numbered parts.  A batch in one read
ends in one report with the entries of the complete groups; an entry is flagged when
its id was listed by a GSA sentence before the GSV sentence that carries it.
-/

namespace X3Hal.Gps

open X3Hal.Stream

/-- The reports of satellites in GNSS mode. -/
def svReports (outputs : List ReaderOutput) : List (Int × List GnssSvInfo) :=
  outputs.filterMap fun
    | .gnssSvStatusCb numSvs entries => some (numSvs, entries)
    | _ => none

@[simp]
theorem svReports_append (outputs more : List ReaderOutput) :
    svReports (outputs ++ more) = svReports outputs ++ svReports more :=
  List.filterMap_append

/-! ## What sentences say -/

/-- The ids whose use in the fix is remembered. -/
def isTracked (id : Int) : Bool :=
  (1 ≤ id && id ≤ 32) || (65 ≤ id && id ≤ 96) || (201 ≤ id && id ≤ 232)

def isQzss (id : Int) : Bool :=
  193 ≤ id && id ≤ 197

/-- The ids that fields of a talker list: up to the first empty field, those before the
first unknown id. -/
def listedIds (talker : Talker) (ids : List NumberField) : List Int :=
  (((ids.takeWhile fun id => id.digits ≠ []).map fun id => talker.svid id.value).takeWhile
    fun id => isTracked id || isQzss id).filter isTracked

/-- The ids that a GSA sentence lists, with a fix and a talker that the reader takes. -/
def GsaSentence.listed (sentence : GsaSentence) : List Int :=
  if sentence.fix.value = 2 ∨ sentence.fix.value = 3 then
    sentence.talker.known?.elim [] fun talker => listedIds talker sentence.ids
  else []

/-- The entry of a satellite, when some ids have been listed. -/
def Satellite.entry {talker : Talker} (listed : List Int) (satellite : Satellite talker) :
    GnssSvInfo where
  svid := talker.svid satellite.id.value
  constellation := talker.constellation
  cN0Dbhz := .finite satellite.snr.value
  elevation := satellite.elevation.value
  azimuth := satellite.azimuth.value
  flags := if talker.svid satellite.id.value ∈ listed then svFlagUsedInFix else 0

def GsvSentence.entries (sentence : GsvSentence) (listed : List Int) : List GnssSvInfo :=
  sentence.satellites.map fun satellite => satellite.entry listed

/-- A GSV sentence as a part of its group. -/
def GsvSentence.part (sentence : GsvSentence) (listed : List Int) : Stream.Part GnssSvInfo where
  seq := sentence.seq.value
  num := sentence.num.value
  count := sentence.cnt.value
  items := sentence.entries listed

/-! ## The table -/

section Table

variable {Entry : Type} (list : Int → Entry)

theorem svEntries_take {count more : Nat} (le : count ≤ more) :
    (svEntries list more).take count = svEntries list count := by
  simp [svEntries, ← List.map_take, List.take_range, min_eq_left le]

theorem svEntries_update_succ (count : Nat) (entry : Entry) :
    svEntries (Function.update list count entry) (count + 1 : Nat) =
      svEntries list count ++ [entry] := by
  simp only [svEntries, Int.toNat_natCast, List.range_succ, List.map_append, List.map_singleton,
    Function.update_self]
  congr 1
  apply List.map_congr_left
  intro index member
  have below := List.mem_range.mp member
  exact Function.update_of_ne (by omega) _ _

end Table

theorem take_concat_of_lt {α : Type} {list : List α} {count : Nat} (room : list.length < count)
    (last : α) : (list ++ [last]).take count = list.take count ++ [last] := by
  rw [List.take_of_length_le (by simpa using Nat.succ_le_of_lt room),
    List.take_of_length_le room.le]

theorem take_concat_of_le {α : Type} {list : List α} {count : Nat} (full : count ≤ list.length)
    (last : α) : (list ++ [last]).take count = list.take count :=
  List.take_append_of_le_length full

/-- The table holds the entries counted and, as far as there is room, those in hand. -/
structure Holds (capacity : Nat) (done hand : List GnssSvInfo) (r : NmeaReader) : Prop where
  svs : r.svStatusGnss.numSvs = done.length
  next : r.svCount + r.svStatusGnss.numSvs = ((done ++ hand).take capacity).length
  table : svEntries r.svStatusGnss.gnssSvList ((done ++ hand).take capacity).length =
    (done ++ hand).take capacity

/-- The table of satellites in use agrees with the ids listed. -/
def UsedTable (listed : List Int) (used : Int → Int) : Prop :=
  ∀ id, isTracked id → (used id = 1 ↔ id ∈ listed)

/-- A step puts entries into the set in hand and shows no report. -/
structure TakesEntries (capacity : Nat) (done hand : List GnssSvInfo) (r : NmeaReader)
    (parsed : Parsed) : Prop where
  holds : Holds capacity done hand parsed.1
  used : parsed.1.svUsedInFix = r.svUsedInFix
  silent : svReports parsed.2 = []

section Take

variable {cfg : GpsConfig} {capacity : Nat} {done hand : List GnssSvInfo} {listed : List Int}

theorem constellationOf_svid {talker : Talker} {id : Nat} (valid : talker.ValidId id) :
    constellationOf (talker.svid id) = talker.constellation := by
  cases talker with
  | gps =>
      have small : (id : Int) < 33 := by have := valid.2; omega
      simp [constellationOf, Talker.svid, Talker.isBds, Talker.constellation, small]
  | glonass =>
      have large : ¬ (id : Int) < 33 := by have := valid.1; omega
      have small : ¬ 200 < (id : Int) := by have := valid.2; omega
      simp [constellationOf, Talker.svid, Talker.isBds, Talker.constellation, large, small]
  | beidou =>
      have large : ¬ (id : Int) + 200 < 33 := by omega
      have larger : 200 < (id : Int) + 200 := by have := valid.1; omega
      simp [constellationOf, Talker.svid, Talker.isBds, Talker.constellation, large, larger]

theorem isTracked_svid {talker : Talker} {id : Nat} (valid : talker.ValidId id) :
    isTracked (talker.svid id) = true := by
  cases talker with
  | gps =>
      obtain ⟨low, high⟩ : 1 ≤ id ∧ id ≤ 32 := valid
      simp [isTracked, Talker.svid, Talker.isBds]
      omega
  | glonass =>
      obtain ⟨low, high⟩ : 65 ≤ id ∧ id ≤ 96 := valid
      simp [isTracked, Talker.svid, Talker.isBds]
      omega
  | beidou =>
      obtain ⟨low, high⟩ : 1 ≤ id ∧ id ≤ 32 := valid
      simp [isTracked, Talker.svid, Talker.isBds]
      omega

/-- A valid id is turned away only when the table has no room. -/
theorem accepted_svid (gps : 32 ≤ cfg.gpsMaxSvs) {talker : Talker} {id : Nat}
    (valid : talker.ValidId id) :
    ¬ (talker.svid id ≤ 0 ∨ (talker.svid id < 65 ∧ cfg.gpsMaxSvs < talker.svid id) ∨
      (96 < talker.svid id ∧ talker.svid id < 200) ∨ 232 < talker.svid id) := by
  cases talker with
  | gps =>
      obtain ⟨low, high⟩ : 1 ≤ id ∧ id ≤ 32 := valid
      simp only [Talker.svid, Talker.isBds, decide_eq_true_eq, reduceCtorEq, if_false]
      omega
  | glonass =>
      obtain ⟨low, high⟩ : 65 ≤ id ∧ id ≤ 96 := valid
      simp only [Talker.svid, Talker.isBds, decide_eq_true_eq, reduceCtorEq, if_false]
      omega
  | beidou =>
      obtain ⟨low, high⟩ : 1 ≤ id ∧ id ≤ 32 := valid
      simp only [Talker.svid, Talker.isBds, decide_eq_true_eq, if_true]
      omega

theorem Holds.full (holds : Holds capacity done hand r)
    (full : (capacity : Int) ≤ r.svCount + r.svStatusGnss.numSvs) (entry : GnssSvInfo) :
    Holds capacity done (hand ++ [entry]) r := by
  rw [holds.next, Int.ofNat_le, List.length_take] at full
  have same : (done ++ (hand ++ [entry])).take capacity = (done ++ hand).take capacity := by
    rw [← List.append_assoc]
    exact take_concat_of_le (by omega) entry
  exact ⟨holds.svs, by rw [same]; exact holds.next, by rw [same]; exact holds.table⟩

/-- `nmea_reader_update_sv_status_gnss` on the fields of a satellite. -/
theorem takesEntries_satellite (size : cfg.gnssMaxSvs = capacity) (gps : 32 ≤ cfg.gpsMaxSvs)
    {talker : Talker} (satellite : Satellite talker) {elevation azimuth snr : Token}
    (isElevation : elevation.text = satellite.elevation.text)
    (isAzimuth : azimuth.text = satellite.azimuth.text) (isSnr : snr.text = satellite.snr.text)
    {r : NmeaReader} (used : UsedTable listed r.svUsedInFix) (holds : Holds capacity done hand r) :
    TakesEntries capacity done (hand ++ [satellite.entry listed]) r
      (nmeaReaderUpdateSvStatusGnss cfg (talker.svid satellite.id.value) elevation azimuth snr
        r) := by
  have accepted := accepted_svid gps satellite.valid
  have svsNonneg : 0 ≤ r.svStatusGnss.numSvs := by rw [holds.svs]; omega
  unfold nmeaReaderUpdateSvStatusGnss
  split
  case isTrue refused =>
    have full : (capacity : Int) ≤ r.svCount := by
      rw [← size]
      tauto
    exact ⟨holds.full (by omega) _, rfl, rfl⟩
  case isFalse =>
    dsimp only
    split
    case isTrue full =>
      rw [size] at full
      exact ⟨holds.full full _, rfl, rfl⟩
    case isFalse room =>
      rw [size, holds.next, Int.ofNat_le, List.length_take] at room
      have inside : (done ++ hand).length < capacity := by omega
      have grown : (done ++ (hand ++ [satellite.entry listed])).take capacity =
          (done ++ hand).take capacity ++ [satellite.entry listed] := by
        rw [← List.append_assoc]
        exact take_concat_of_lt inside _
      refine ⟨⟨holds.svs, ?_, ?_⟩, rfl, rfl⟩
      · rw [grown, List.length_append, List.length_singleton]
        show r.svCount + 1 + r.svStatusGnss.numSvs = _
        have next := holds.next
        omega
      · rw [grown, List.length_append, List.length_singleton]
        show svEntries (Function.update r.svStatusGnss.gnssSvList
          (r.svCount + r.svStatusGnss.numSvs) _) _ = _
        rw [holds.next, svEntries_update_succ, holds.table]
        congr 2
        simp only [Satellite.entry, isElevation, isAzimuth, isSnr, str2int_text, str2float_text,
          constellationOf_svid satellite.valid, used _ (isTracked_svid satellite.valid)]

end Take

/-! ## GSV sentences -/

/-- The fields of the `index`-th of some items with four fields each. -/
theorem getD_flatMap_four {α β : Type} (items : List α) {fields : α → List β}
    (four : ∀ item, (fields item).length = 4) {index : Nat} (within : index < items.length)
    {offset : Nat} (inside : offset < 4) (default : β) :
    (items.flatMap fields).getD (4 * index + offset) default =
      (fields items[index]).getD offset default := by
  induction items generalizing index with
  | nil => exact absurd within (Nat.not_lt_zero _)
  | cons item items ih =>
      cases index with
      | zero =>
          rw [List.flatMap_cons, List.getD_append _ _ _ _ (by rw [four]; omega)]
          simp
      | succ index =>
          rw [List.flatMap_cons, List.getD_append_right _ _ _ _ (by rw [four]; omega), four]
          have shifted : 4 * (index + 1) + offset - 4 = 4 * index + offset := by omega
          rw [shifted, ih (by simpa using within)]
          rfl

namespace GsvSentence

variable (sentence : GsvSentence)

/-- The tokens of the sentence. -/
def tokenizer : NmeaTokenizer :=
  nmeaTokenizerInit ((NmeaSentence.gsv sentence).line ++ [newline])

theorem text_token {index : Nat} (within : index < maxNmeaTokens) :
    (nmeaTokenizerGet sentence.tokenizer index).text = sentence.fields.getD index [] :=
  X3Hal.Gps.text_token sentence.plain sentence.ending within

theorem length_satellites_le : sentence.satellites.length ≤ 4 := by
  rw [sentence.announced]
  exact min_le_left _ _

theorem text_satellite {index : Nat} (within : index < sentence.satellites.length) {offset : Nat}
    (inside : offset < 4) :
    (nmeaTokenizerGet sentence.tokenizer (4 * (index + 1) + offset)).text =
      sentence.satellites[index].fields.getD offset [] := by
  have four := sentence.length_satellites_le
  have shifted : 4 * (index + 1) + offset = 4 * index + offset + 4 := by omega
  rw [sentence.text_token (by unfold maxNmeaTokens; omega), shifted, ← getD_flatMap_four
    sentence.satellites (fun _ => rfl) within inside]
  rfl

theorem gsvHeader_tokenizer :
    gsvHeader sentence.tokenizer =
      ⟨sentence.num.value, sentence.seq.value, sentence.cnt.value⟩ := by
  have one := sentence.text_token (by decide : 1 < maxNmeaTokens)
  have two := sentence.text_token (by decide : 2 < maxNmeaTokens)
  have three := sentence.text_token (by decide : 3 < maxNmeaTokens)
  rw [gsvHeader, one, two, three]
  simp [fields, str2int_text]

theorem svNum_tokenizer :
    (gsvHeader sentence.tokenizer).svNum.toNat = sentence.satellites.length := by
  have seq := sentence.seq.value_lt
  have cnt := sentence.cnt.value_lt
  have positive := sentence.positive
  rw [gsvHeader_tokenizer, sentence.announced, GsvHeader.svNum, nmeaMaxSvInfo]
  have base : wrap32 (((sentence.seq.value : Int) - 1) * (4 : Nat)) =
      4 * ((sentence.seq.value : Int) - 1) := by
    rw [wrap32_of_lt (by omega) (by omega)]
    omega
  have left : wrap32 ((sentence.cnt.value : Int) - 4 * ((sentence.seq.value : Int) - 1)) =
      sentence.cnt.value - 4 * ((sentence.seq.value : Int) - 1) := by
    unfold wrap32
    rw [Int.bmod_eq_of_le (by omega) (by omega)]
  rw [base, left]
  omega

theorem readerId_text {index : Nat} (within : index < sentence.satellites.length) :
    readerId sentence.talker.isBds
        (str2int (nmeaTokenizerGet sentence.tokenizer (4 * (index + 1))).text) =
      sentence.talker.svid sentence.satellites[index].id.value := by
  have id := sentence.text_satellite within (by decide : 0 < 4)
  have small := sentence.satellites[index].id.value_lt
  rw [Nat.add_zero] at id
  rw [id, Satellite.fields, List.getD_cons_zero, str2int_text, readerId, Talker.svid]
  split
  · rw [wrap32_of_lt (by omega) (by omega)]
  · rfl

variable {cfg : GpsConfig} {capacity : Nat} {done hand : List GnssSvInfo} {listed : List Int}

/-- The loop over the satellites of a sentence. -/
theorem takesEntries (size : cfg.gnssMaxSvs = capacity) (gps : 32 ≤ cfg.gpsMaxSvs)
    {r : NmeaReader} (used : UsedTable listed r.svUsedInFix) (holds : Holds capacity done hand r) :
    TakesEntries capacity done (hand ++ sentence.entries listed) r
      (gsvSatellites sentence.talker.isBds sentence.tokenizer (nmeaReaderUpdateSvStatusGnss cfg)
        sentence.satellites.length r) := by
  have upTo : ∀ count ≤ sentence.satellites.length,
      TakesEntries capacity done (hand ++ (sentence.entries listed).take count) r
        (gsvSatellites sentence.talker.isBds sentence.tokenizer (nmeaReaderUpdateSvStatusGnss cfg)
          count r) := by
    intro count within
    induction count with
    | zero =>
        rw [List.take_zero, List.append_nil]
        exact ⟨holds, rfl, rfl⟩
    | succ count ih =>
        have earlier := ih (Nat.le_of_succ_le within)
        have usedStill : UsedTable listed (gsvSatellites sentence.talker.isBds sentence.tokenizer
            (nmeaReaderUpdateSvStatusGnss cfg) count r).1.svUsedInFix := by
          rw [earlier.used]
          exact used
        have next := takesEntries_satellite size gps sentence.satellites[count]
          (sentence.text_satellite within (by decide : 1 < 4))
          (sentence.text_satellite within (by decide : 2 < 4))
          (sentence.text_satellite within (by decide : 3 < 4)) usedStill earlier.holds
        rw [← sentence.readerId_text within] at next
        have taken : (sentence.entries listed).take (count + 1) =
            (sentence.entries listed).take count ++ [sentence.satellites[count].entry listed] := by
          rw [List.take_succ_eq_append_getElem (by simpa [entries] using Nat.lt_of_succ_le within)]
          simp [entries]
        rw [taken, ← List.append_assoc]
        unfold gsvSatellites at earlier next ⊢
        rw [List.range_succ, List.foldl_append]
        refine ⟨next.holds, next.used.trans earlier.used, ?_⟩
        rw [List.foldl_cons, List.foldl_nil, Parsed.andThen, svReports_append, earlier.silent]
        exact next.silent
  have all := upTo sentence.satellites.length le_rfl
  rwa [List.take_of_length_le (by simp [entries])] at all

end GsvSentence

/-- The reader represents an assembly of parts, and the ids listed so far. -/
structure Represents (capacity : Nat) (assembly : Assembly GnssSvInfo) (listed : List Int)
    (r : NmeaReader) : Prop where
  fits : assembly.done.length ≤ capacity
  svs : r.svStatusGnss.numSvs = assembly.done.length
  table : svEntries r.svStatusGnss.gnssSvList assembly.done.length = assembly.done
  hand : ∀ hand ∈ assembly.hand, Holds capacity assembly.done hand r
  used : UsedTable listed r.svUsedInFix

section Represents

variable {cfg : GpsConfig} {capacity : Nat} {assembly : Assembly GnssSvInfo} {listed : List Int}
  {r : NmeaReader}

theorem Represents.congr (represents : Represents capacity assembly listed r) {next : NmeaReader}
    (svs : next.svStatusGnss = r.svStatusGnss) (count : next.svCount = r.svCount)
    (used : next.svUsedInFix = r.svUsedInFix) : Represents capacity assembly listed next := by
  refine ⟨represents.fits, ?_, ?_, ?_, ?_⟩
  · rw [svs]
    exact represents.svs
  · rw [svs]
    exact represents.table
  · intro hand inHand
    have holds := represents.hand hand inHand
    exact ⟨by rw [svs]; exact holds.svs, by rw [svs, count]; exact holds.next,
      by rw [svs]; exact holds.table⟩
  · rw [used]
    exact represents.used

/-- Opening a sentence leaves in hand what its satellites are put behind. -/
theorem takesEntries_gsvOpen (represents : Represents capacity assembly listed r)
    {header : GsvHeader} {part : Stream.Part GnssSvInfo} (seq : header.seq = part.seq)
    (inOrder : part.seq = 1 ∨ assembly.hand.isSome) :
    TakesEntries capacity assembly.done (if part.seq = 1 then [] else assembly.hand.getD []) r
      (gsvOpen header r) := by
  unfold gsvOpen
  by_cases first : part.seq = 1
  · rw [if_pos first, if_pos (by rw [seq, first]; rfl)]
    have counted : (assembly.done ++ []).take capacity = assembly.done := by
      rw [List.append_nil, List.take_of_length_le represents.fits]
    refine ⟨⟨represents.svs, ?_, ?_⟩, rfl, rfl⟩
    · rw [counted]
      show 0 + r.svStatusGnss.numSvs = _
      rw [zero_add]
      exact represents.svs
    · rw [counted]
      exact represents.table
  · rw [if_neg first, if_neg (by rw [seq]; omega)]
    obtain ⟨hand, inHand⟩ := Option.isSome_iff_exists.mp (inOrder.resolve_left first)
    rw [inHand]
    exact ⟨represents.hand hand inHand, rfl, rfl⟩

/-- Closing a sentence takes the part over. -/
theorem represents_gsvCloseGnss (represents : Represents capacity assembly listed r)
    {header : GsvHeader} {part : Stream.Part GnssSvInfo}
    (isHeader : header = ⟨part.num, part.seq, part.count⟩)
    (accepts : assembly.Accepts capacity part) {next : NmeaReader}
    (holds : Holds capacity assembly.done (assembly.handWith part) next)
    (used : next.svUsedInFix = r.svUsedInFix) :
    Represents capacity (assembly.add part) listed (gsvCloseGnss header next).1 ∧
      svReports (gsvCloseGnss header next).2 = [] := by
  have room := accepts.room
  rw [isHeader]
  unfold gsvCloseGnss
  split
  case isTrue last =>
    rw [Int.ofNat_inj] at last
    rw [Assembly.add_last assembly last] at room ⊢
    have whole : (assembly.done ++ assembly.handWith part).take capacity =
        assembly.done ++ assembly.handWith part :=
      List.take_of_length_le room
    have position := holds.next
    have table := holds.table
    rw [whole] at position table
    have svs := holds.svs
    rw [List.length_append] at position
    have complete : next.svCount ≤ (part.count : Int) := by
      have announced := accepts.announced last
      omega
    rw [if_pos complete]
    refine ⟨⟨room, ?_, table, by simp, ?_⟩, rfl⟩
    · show next.svStatusGnss.numSvs + next.svCount = _
      rw [List.length_append]
      omega
    · rw [show UsedTable listed _ = UsedTable listed r.svUsedInFix from congrArg _ used]
      exact represents.used
  case isFalse earlier =>
    rw [Int.ofNat_inj] at earlier
    rw [Assembly.add_earlier assembly earlier]
    refine ⟨⟨represents.fits, holds.svs, ?_, ?_, ?_⟩, rfl⟩
    · have table := holds.table
      have within : assembly.done.length ≤
          ((assembly.done ++ assembly.handWith part).take capacity).length := by
        rw [List.length_take, List.length_append]
        have fits := represents.fits
        omega
      rw [← svEntries_take _ within, table, List.take_take, min_eq_left represents.fits,
        List.take_left]
    · intro hand inHand
      obtain rfl := Option.some.inj inHand
      exact holds
    · rw [show UsedTable listed _ = UsedTable listed r.svUsedInFix from congrArg _ used]
      exact represents.used

/-- The branch for GSV sentences adds a part to the assembly. -/
theorem represents_parseGsvGnss (size : cfg.gnssMaxSvs = capacity) (gps : 32 ≤ cfg.gpsMaxSvs)
    (sentence : GsvSentence) (represents : Represents capacity assembly listed r)
    (accepts : assembly.Accepts capacity (sentence.part listed)) :
    Represents capacity (assembly.add (sentence.part listed)) listed
        (parseGsvGnss cfg sentence.talker.isBds sentence.tokenizer r).1 ∧
      svReports (parseGsvGnss cfg sentence.talker.isBds sentence.tokenizer r).2 = [] := by
  have header := sentence.gsvHeader_tokenizer
  have seq : (gsvHeader sentence.tokenizer).seq = (sentence.part listed).seq := by
    rw [header]
    rfl
  have opened := takesEntries_gsvOpen represents seq accepts.inOrder
  have usedOpened : UsedTable listed (gsvOpen (gsvHeader sentence.tokenizer) r).1.svUsedInFix := by
    rw [opened.used]
    exact represents.used
  have taken := sentence.takesEntries size gps usedOpened opened.holds
  have closed := represents_gsvCloseGnss represents header accepts taken.holds
    (taken.used.trans opened.used)
  simp only [parseGsvGnss, Parsed.andThen, sentence.svNum_tokenizer, svReports_append,
    opened.silent, taken.silent, List.nil_append]
  exact closed

end Represents

/-! ## GSA sentences -/

theorem gsaSatellitesGnss_cons {isBds : Bool} {tzer : NmeaTokenizer} {idx : Nat} {rest : List Nat}
    {id : Int} (written : (nmeaTokenizerGet tzer (idx + 3)).text ≠ [])
    (isId : readerId isBds (str2int (nmeaTokenizerGet tzer (idx + 3)).text) = id)
    (used : Int → Int) :
    gsaSatellitesGnss isBds tzer (idx :: rest) used =
      if isTracked id then gsaSatellitesGnss isBds tzer rest (Function.update used id 1)
      else if isQzss id then gsaSatellitesGnss isBds tzer rest (Function.update used id 0)
      else used := by
  rw [gsaSatellitesGnss]
  dsimp only
  rw [if_neg written, isId]
  simp only [isTracked, isQzss, Bool.or_eq_true, Bool.and_eq_true, decide_eq_true_eq]
  by_cases gps : 1 ≤ id ∧ id ≤ 32
  · rw [if_pos gps, if_pos (.inl (.inl gps))]
  · by_cases qzss : 193 ≤ id ∧ id ≤ 197
    · rw [if_neg gps, if_pos qzss, if_neg (by omega), if_pos qzss]
    · rw [if_neg gps, if_neg qzss, if_neg qzss]
      by_cases glonass : 65 ≤ id ∧ id ≤ 96
      · rw [if_pos glonass, if_pos (.inl (.inr glonass))]
      · rw [if_neg glonass]
        by_cases beidou : 201 ≤ id ∧ id ≤ 232
        · rw [if_pos beidou, if_pos (.inr beidou)]
        · rw [if_neg beidou, if_neg (by omega)]

theorem readerId_value (talker : Talker) (id : NumberField) :
    readerId talker.isBds (str2int id.text) = talker.svid id.value := by
  have small := id.value_lt
  rw [str2int_text, readerId, Talker.svid]
  split
  · rw [wrap32_of_lt (by omega) (by omega)]
  · rfl

/-- The loop over the ids of a GSA sentence marks the tracked ones that they list. -/
theorem gsaSatellitesGnss_ids (talker : Talker) {tzer : NmeaTokenizer} {ids : List NumberField}
    {empty : Nat} {indices : List Nat}
    (texts : (indices.map fun idx => (nmeaTokenizerGet tzer (idx + 3)).text) =
      ids.map NumberField.text ++ List.replicate empty [])
    (used : Int → Int) {svid : Int} (tracked : isTracked svid = true) :
    gsaSatellitesGnss talker.isBds tzer indices used svid = 1 ↔
      used svid = 1 ∨ svid ∈ listedIds talker ids := by
  induction ids generalizing indices used with
  | nil =>
      have unchanged : gsaSatellitesGnss talker.isBds tzer indices used = used := by
        cases indices with
        | nil => rfl
        | cons idx rest =>
            have noText : (nmeaTokenizerGet tzer (idx + 3)).text = [] := by
              have member : (nmeaTokenizerGet tzer (idx + 3)).text ∈ List.replicate empty [] := by
                rw [← List.nil_append (List.replicate empty []), ← List.map_nil, ← texts]
                exact List.mem_map_of_mem List.mem_cons_self
              exact List.eq_of_mem_replicate member
            rw [gsaSatellitesGnss]
            exact if_pos noText
      simp [unchanged, listedIds]
  | cons id ids ih =>
      cases indices with
      | nil => simp at texts
      | cons idx rest =>
          rw [List.map_cons, List.map_cons, List.cons_append] at texts
          obtain ⟨textIs, restTexts⟩ := List.cons.inj texts
          by_cases noDigits : id.digits = []
          · -- the list ends at an empty field, whatever comes behind it
            have noText : (nmeaTokenizerGet tzer (idx + 3)).text = [] := by
              rw [textIs, NumberField.text, noDigits, List.map_nil]
            rw [gsaSatellitesGnss]
            dsimp only
            rw [if_pos noText]
            simp [listedIds, noDigits]
          have hasText : (nmeaTokenizerGet tzer (idx + 3)).text ≠ [] := by
            rw [textIs]
            simpa [NumberField.text] using noDigits
          have later := fun used => ih restTexts used
          have isId : readerId talker.isBds (str2int (nmeaTokenizerGet tzer (idx + 3)).text) =
              talker.svid id.value := by
            rw [textIs]
            exact readerId_value talker id
          rw [listedIds] at later
          rw [gsaSatellitesGnss_cons hasText isId, listedIds,
            List.takeWhile_cons_of_pos (by simpa using noDigits), List.map_cons]
          cases isIn : isTracked (talker.svid id.value) with
          | true =>
              rw [if_pos rfl, later, List.takeWhile_cons_of_pos (by simp [isIn]),
                List.filter_cons_of_pos isIn, List.mem_cons, Function.update_apply]
              split
              · rename_i same
                simp [same]
              · rename_i other
                simp [other]
          | false =>
              have other : svid ≠ talker.svid id.value := by
                rintro rfl
                rw [isIn] at tracked
                contradiction
              rw [if_neg (by decide)]
              cases qzss : isQzss (talker.svid id.value) with
              | true =>
                  rw [if_pos rfl, later, List.takeWhile_cons_of_pos (by simp [qzss]),
                    List.filter_cons_of_neg (by simp [isIn]), Function.update_of_ne other]
              | false =>
                  rw [if_neg (by decide), List.takeWhile_cons_of_neg (by simp [isIn, qzss])]
                  simp

namespace GsaSentence

variable (sentence : GsaSentence)

/-- The tokens of the sentence. -/
def tokenizer : NmeaTokenizer :=
  nmeaTokenizerInit ((NmeaSentence.gsa sentence).line ++ [newline])

theorem text_token {index : Nat} (within : index < maxNmeaTokens) :
    (nmeaTokenizerGet sentence.tokenizer index).text = sentence.fields.getD index [] :=
  X3Hal.Gps.text_token sentence.plain sentence.ending within

theorem length_idFields : sentence.idFields.length = gsaMaxSatellites := by
  have atMost := sentence.atMost
  rw [idFields, List.length_append, List.length_map, List.length_replicate]
  omega

theorem texts_tokenizer :
    ((List.range gsaMaxSatellites).map fun idx =>
      (nmeaTokenizerGet sentence.tokenizer (idx + 3)).text) = sentence.idFields := by
  apply List.ext_getElem
  · rw [List.length_map, List.length_range, length_idFields]
  · intro idx left right
    rw [List.length_map, List.length_range] at left
    have within : idx + 3 < maxNmeaTokens := by
      unfold maxNmeaTokens
      unfold gsaMaxSatellites at left
      omega
    rw [List.getElem_map, List.getElem_range, sentence.text_token within, fields]
    simp only [List.getD_cons_succ]
    rw [List.getD_append _ _ _ _ right, List.getD_eq_getElem _ _ right]

theorem fix_tokenizer : str2int (nmeaTokenizerGet sentence.tokenizer 2).text =
    sentence.fix.value := by
  rw [sentence.text_token (by decide)]
  exact str2int_text sentence.fix

/-- The branch for GSA sentences adds the ids that the sentence lists. -/
theorem represents_parseGsaGnss {talker : Talker} (isTalker : sentence.talker.known? = some talker)
    {capacity : Nat} {assembly : Assembly GnssSvInfo} {listed : List Int} {r : NmeaReader}
    (represents : Represents capacity assembly listed r) :
    Represents capacity assembly (listed ++ sentence.listed)
      (parseGsaGnss talker.isBds sentence.tokenizer r) := by
  have marked : UsedTable (listed ++ sentence.listed)
      (parseGsaGnss talker.isBds sentence.tokenizer r).svUsedInFix := by
    intro svid tracked
    have before := represents.used svid tracked
    rw [List.mem_append, ← before]
    unfold parseGsaGnss
    rw [fix_tokenizer]
    by_cases fixed : sentence.fix.value = 2 ∨ sentence.fix.value = 3
    · have locFixed : NmeaReader.locFixed { r with fixMode := sentence.fix.value } = true := by
        simp only [NmeaReader.locFixed, Bool.or_eq_true, decide_eq_true_eq]
        omega
      rw [GsaSentence.listed, if_pos fixed, isTalker, Option.elim_some]
      dsimp only
      rw [if_pos locFixed]
      exact gsaSatellitesGnss_ids talker sentence.texts_tokenizer _ tracked
    · have notFixed : ¬NmeaReader.locFixed { r with fixMode := sentence.fix.value } = true := by
        simp only [NmeaReader.locFixed, Bool.or_eq_true, decide_eq_true_eq]
        omega
      rw [GsaSentence.listed, if_neg fixed]
      dsimp only
      rw [if_neg notFixed]
      simp
  refine ⟨represents.fits, ?_, ?_, ?_, marked⟩
  · rw [parseGsaGnss_eq]
    exact represents.svs
  · rw [parseGsaGnss_eq]
    exact represents.table
  · intro hand inHand
    rw [parseGsaGnss_eq]
    have holds := represents.hand hand inHand
    exact ⟨holds.svs, holds.next, holds.table⟩

end GsaSentence

/-! ## Lines -/

namespace NmeaSentence

/-- The parts that a sentence adds. -/
def parts (listed : List Int) : NmeaSentence → List (Stream.Part GnssSvInfo)
  | .gsv sentence => [sentence.part listed]
  | .gsa _ => []

/-- The ids listed after a sentence. -/
def listing (listed : List Int) : NmeaSentence → List Int
  | .gsv _ => listed
  | .gsa sentence => listed ++ sentence.listed

end NmeaSentence

section Line

variable {cfg : GpsConfig} {capacity : Nat} {assembly : Assembly GnssSvInfo} {listed : List Int}
  {r : NmeaReader}

theorem sentenceKind_gsv (gnss : cfg.gpsMode = 0) (talker : Talker) :
    sentenceKind cfg (talker.code ++ ascii ['G', 'S', 'V']) = .gsvGnss := by
  obtain ⟨gpsMaxSvs, gnssMaxSvs, gpsMode⟩ := cfg
  obtain rfl : gpsMode = 0 := gnss
  cases talker <;> rfl

theorem sentenceKind_gsa (gnss : cfg.gpsMode = 0) (talker : Talker) :
    sentenceKind cfg (talker.code ++ ascii ['G', 'S', 'A']) = .gsaGnss := by
  obtain ⟨gpsMaxSvs, gnssMaxSvs, gpsMode⟩ := cfg
  obtain rfl : gpsMode = 0 := gnss
  cases talker <;> rfl

/-- A sentence of another talker is none that the reader knows. -/
theorem sentenceKind_gsa_other (gnss : cfg.gpsMode = 0) {talker : GsaTalker}
    (other : talker.known? = none) :
    sentenceKind cfg (talker.code ++ ascii ['G', 'S', 'A']) = .unknown := by
  have apart : ∀ known : Talker, known.code ≠ talker.code := by
    intro known
    have none := List.find?_eq_none.mp other known (by cases known <;> decide)
    simpa using none
  have gps := apart .gps
  have glonass := apart .glonass
  have beidou := apart .beidou
  simp only [Talker.code, GsaTalker.code, ascii, List.map_cons, List.map_nil, ne_eq,
    List.cons.injEq, and_true] at gps glonass beidou
  simp [sentenceKind, startsWith, GsaTalker.code, ascii, gnss]
  grind

theorem code_of_known {talker : GsaTalker} {known : Talker}
    (isKnown : talker.known? = some known) :
    talker.code = known.code := by
  have same := List.find?_some isKnown
  exact (of_decide_eq_true same).symm

theorem startsWith_code (talker : Talker) (word : List UInt8) :
    startsWith (talker.code ++ word) ['B', 'D'] = talker.isBds := by
  cases talker <;> rfl

/-- Parsing a sentence adds its parts and its ids. -/
theorem represents_parseSentence (libc : LibcTime) (now : Int) (gnss : cfg.gpsMode = 0)
    (size : cfg.gnssMaxSvs = capacity) (gps : 32 ≤ cfg.gpsMaxSvs) (sentence : NmeaSentence)
    (represents : Represents capacity assembly listed r)
    (accepts : assembly.AcceptsAll capacity (sentence.parts listed)) :
    Represents capacity ((sentence.parts listed).foldl Assembly.add assembly)
        (sentence.listing listed)
        (parseSentence cfg libc now (sentence.fields.getD 0 [])
          (nmeaTokenizerInit (sentence.line ++ [newline])) r).1 ∧
      svReports (parseSentence cfg libc now (sentence.fields.getD 0 [])
          (nmeaTokenizerInit (sentence.line ++ [newline])) r).2 = [] := by
  cases sentence with
  | gsv sentence =>
      have parsed := represents_parseGsvGnss size gps sentence represents accepts.1
      have step : parseSentence cfg libc now (sentence.talker.code ++ ascii ['G', 'S', 'V'])
          sentence.tokenizer r = parseGsvGnss cfg sentence.talker.isBds sentence.tokenizer r := by
        unfold parseSentence
        dsimp only
        rw [sentenceKind_gsv gnss, startsWith_code]
      rw [← step] at parsed
      exact parsed
  | gsa sentence =>
      show Represents capacity assembly (listed ++ sentence.listed)
            (parseSentence cfg libc now (sentence.talker.code ++ ascii ['G', 'S', 'A'])
              sentence.tokenizer r).1 ∧
          svReports (parseSentence cfg libc now (sentence.talker.code ++ ascii ['G', 'S', 'A'])
              sentence.tokenizer r).2 = []
      unfold parseSentence
      dsimp only
      cases isTalker : sentence.talker.known? with
      | some talker =>
          rw [code_of_known isTalker, sentenceKind_gsa gnss, startsWith_code]
          exact ⟨sentence.represents_parseGsaGnss isTalker represents, rfl⟩
      | none =>
          have nothing : sentence.listed = [] := by
            rw [GsaSentence.listed, isTalker, Option.elim_none, ite_self]
          rw [sentenceKind_gsa_other gnss isTalker, nothing, List.append_nil]
          exact ⟨represents, rfl⟩

theorem reportFix_keeps (endTag : Bool) (r : NmeaReader) :
    (reportFix endTag r).1.svStatusGnss = r.svStatusGnss ∧
      (reportFix endTag r).1.svCount = r.svCount ∧
      (reportFix endTag r).1.svUsedInFix = r.svUsedInFix ∧
      svReports (reportFix endTag r).2 = [] := by
  unfold reportFix
  split
  · exact ⟨rfl, rfl, rfl, rfl⟩
  · exact ⟨rfl, rfl, rfl, rfl⟩

/-- `nmea_reader_parse` on a sentence, up to the report of the satellites. -/
theorem nmeaReaderParse_sentence (libc : LibcTime) (now : Int) (gnss : cfg.gpsMode = 0)
    (size : cfg.gnssMaxSvs = capacity) (gps : 32 ≤ cfg.gpsMaxSvs) (sentence : NmeaSentence)
    (represents : Represents capacity assembly listed r)
    (accepts : assembly.AcceptsAll capacity (sentence.parts listed)) (endTag : Bool) :
    ∃ parsed : Parsed,
      nmeaReaderParse cfg libc now endTag { r with input := sentence.line ++ [newline] } =
          parsed.andThen (reportSvs cfg endTag) ∧
        Represents capacity ((sentence.parts listed).foldl Assembly.add assembly)
          (sentence.listing listed) parsed.1 ∧
        svReports parsed.2 = [] := by
  have long : 9 ≤ (sentence.line ++ [newline]).length := by
    rw [List.length_append]
    exact Nat.succ_le_succ sentence.length_line.1
  have token : (nmeaTokenizerGet (nmeaTokenizerInit (sentence.line ++ [newline])) 0).text =
      sentence.fields.getD 0 [] :=
    text_token sentence.plain sentence.ending (by decide)
  have wide :
      5 ≤ (nmeaTokenizerGet (nmeaTokenizerInit (sentence.line ++ [newline])) 0).text.length := by
    have word : (sentence.fields.getD 0 []).length = 5 := by
      cases sentence with
      | gsv sentence =>
          show (sentence.talker.code ++ ascii ['G', 'S', 'V']).length = 5
          rw [List.length_append, length_code]
          rfl
      | gsa sentence =>
          rfl
    rw [token, word]
  have entered : Represents capacity assembly listed
      { r with input := sentence.line ++ [newline] } :=
    represents.congr rfl rfl rfl
  obtain ⟨parsed, silent⟩ :=
    represents_parseSentence libc now gnss size gps sentence entered accepts
  have parses := nmeaReaderParse_of_kind cfg libc now endTag
    (r := { r with input := sentence.line ++ [newline] }) long wide
  rw [parses]
  dsimp only
  rw [token]
  refine ⟨_, rfl, ?_, ?_⟩
  · obtain ⟨svs, count, used, -⟩ := reportFix_keeps endTag
      (parseSentence cfg libc now (sentence.fields.getD 0 [])
        (nmeaTokenizerInit (sentence.line ++ [newline]))
        { r with input := sentence.line ++ [newline] }).1
    exact parsed.congr svs count used
  · rw [Parsed.andThen, Parsed.andThen, svReports_append, svReports_append]
    dsimp only
    rw [silent, (reportFix_keeps endTag _).2.2.2]
    rfl

/-- A line inside a read adds its parts and its ids, and reports nothing. -/
theorem parseLine_inside (libc : LibcTime) (now : Int) (gnss : cfg.gpsMode = 0)
    (size : cfg.gnssMaxSvs = capacity) (gps : 32 ≤ cfg.gpsMaxSvs) (sentence : NmeaSentence)
    (represents : Represents capacity assembly listed r)
    (accepts : assembly.AcceptsAll capacity (sentence.parts listed)) :
    Represents capacity ((sentence.parts listed).foldl Assembly.add assembly)
        (sentence.listing listed) (parseLine cfg libc now false sentence.line r).1 ∧
      svReports (parseLine cfg libc now false sentence.line r).2 = [] := by
  obtain ⟨parsed, equal, after, silent⟩ :=
    nmeaReaderParse_sentence libc now gnss size gps sentence represents accepts false
  have quiet : reportSvs cfg false parsed.1 = (parsed.1, []) := by
    rw [reportSvs, if_pos gnss, if_neg (by simp)]
  unfold parseLine
  rw [equal, Parsed.andThen, Parsed.andThen, quiet]
  refine ⟨after.congr rfl rfl rfl, ?_⟩
  rw [svReports_append, svReports_append, silent]
  rfl

/-- The last line of a read reports the entries of the complete groups, if there are any. -/
theorem parseLine_last (libc : LibcTime) (now : Int) (gnss : cfg.gpsMode = 0)
    (size : cfg.gnssMaxSvs = capacity) (gps : 32 ≤ cfg.gpsMaxSvs) (sentence : NmeaSentence)
    (represents : Represents capacity assembly listed r)
    (accepts : assembly.AcceptsAll capacity (sentence.parts listed))
    {entries : List GnssSvInfo}
    (done : ((sentence.parts listed).foldl Assembly.add assembly).done = entries)
    (some : entries ≠ []) :
    Represents capacity ⟨[], none⟩ [] (parseLine cfg libc now true sentence.line r).1 ∧
      svReports (parseLine cfg libc now true sentence.line r).2 =
        [((entries.length : Int), entries)] := by
  obtain ⟨parsed, equal, after, silent⟩ :=
    nmeaReaderParse_sentence libc now gnss size gps sentence represents accepts true
  have svs := after.svs
  have table := after.table
  rw [done] at svs table
  have nonzero : parsed.1.svStatusGnss.numSvs ≠ 0 := by
    rw [svs]
    have positive := List.length_pos_iff.mpr some
    omega
  have reported : reportSvs cfg true parsed.1 =
      ({ parsed.1 with
          svCount := 0
          svStatusGnss := { parsed.1.svStatusGnss with numSvs := 0 }
          svUsedInFix := fun _ => 0 },
        [.gnssSvStatusCb entries.length entries]) := by
    rw [reportSvs, if_pos gnss, if_pos ⟨nonzero, rfl⟩, svs, table]
  unfold parseLine
  rw [equal, Parsed.andThen, Parsed.andThen, reported]
  refine ⟨⟨Nat.zero_le _, rfl, rfl, by simp, ?_⟩, ?_⟩
  · intro svid _
    simp
  · rw [svReports_append, svReports_append, silent]
    rfl

end Line

/-! ## Batches -/

/-- A GSV sentence with the ids listed before it. -/
abbrev HeardGsv := GsvSentence × List Int

/-- The GSV sentences of a batch, with the ids listed before each. -/
def heardGsv (listed : List Int) : List NmeaSentence → List HeardGsv
  | [] => []
  | .gsv sentence :: rest => (sentence, listed) :: heardGsv listed rest
  | .gsa sentence :: rest => heardGsv (listed ++ sentence.listed) rest

def HeardGsv.part (heard : HeardGsv) : Stream.Part GnssSvInfo :=
  heard.1.part heard.2

theorem heardGsv_cons (listed : List Int) (sentence : NmeaSentence) (rest : List NmeaSentence) :
    (heardGsv listed (sentence :: rest)).map HeardGsv.part =
      sentence.parts listed ++ (heardGsv (sentence.listing listed) rest).map HeardGsv.part := by
  cases sentence <;> rfl

/-- The reader has an empty buffer and no satellites, and remembers the ids listed since
its last report. -/
structure Ready (cfg : GpsConfig) (listed : List Int) (r : NmeaReader) : Prop where
  clear : r.overflow = false
  empty : r.input = []
  represents : Represents cfg.gnssMaxSvs.toNat ⟨[], none⟩ listed r

section Batch

variable {cfg : GpsConfig} {capacity : Nat}

/-- A batch ends in one report with what its parts come to. -/
theorem readerRun_batch (libc : LibcTime) (now : Int) (gnss : cfg.gpsMode = 0)
    (size : cfg.gnssMaxSvs = capacity) (gps : 32 ≤ cfg.gpsMaxSvs) {sentences : List NmeaSentence}
    (notEmpty : sentences ≠ []) {assembly : Assembly GnssSvInfo} {listed : List Int}
    {r : NmeaReader} (clear : r.overflow = false) (empty : r.input = [])
    (represents : Represents capacity assembly listed r)
    (accepts : assembly.AcceptsAll capacity ((heardGsv listed sentences).map HeardGsv.part))
    {entries : List GnssSvInfo}
    (done : (((heardGsv listed sentences).map HeardGsv.part).foldl Assembly.add assembly).done =
      entries)
    (some : entries ≠ []) :
    (readerRun cfg libc (readEvents now (batchBytes sentences)) r).1.overflow = false ∧
      (readerRun cfg libc (readEvents now (batchBytes sentences)) r).1.input = [] ∧
      Represents capacity ⟨[], none⟩ []
        (readerRun cfg libc (readEvents now (batchBytes sentences)) r).1 ∧
      svReports (readerRun cfg libc (readEvents now (batchBytes sentences)) r).2 =
        [((entries.length : Int), entries)] := by
  induction sentences generalizing assembly listed r with
  | nil => exact absurd rfl notEmpty
  | cons sentence rest ih =>
      rw [heardGsv_cons] at accepts done
      rw [Assembly.acceptsAll_append] at accepts
      rw [List.foldl_append] at done
      obtain ⟨acceptsHere, acceptsLater⟩ := accepts
      by_cases isLast : rest = []
      · subst isLast
        obtain ⟨after, reports⟩ := parseLine_last libc now gnss size gps sentence represents
          acceptsHere done some
        obtain ⟨stillClear, stillEmpty⟩ :=
          parseLine_clear cfg libc now true sentence.line clear
        rw [readerRun_last sentence clear empty]
        exact ⟨stillClear, stillEmpty, after, reports⟩
      · obtain ⟨after, silent⟩ := parseLine_inside libc now gnss size gps sentence represents
          acceptsHere
        obtain ⟨stillClear, stillEmpty⟩ :=
          parseLine_clear cfg libc now false sentence.line clear
        obtain ⟨endClear, endEmpty, endRepresents, reports⟩ :=
          ih isLast stillClear stillEmpty after acceptsLater done
        rw [readerRun_cons sentence isLast clear empty, Parsed.andThen]
        refine ⟨endClear, endEmpty, endRepresents, ?_⟩
        rw [svReports_append, silent]
        exact reports

/-- Consecutive GSV sentences of a talker, from the first of a group. -/
structure GsvGroup where
  talker : Talker
  num : Nat
  cnt : Nat
  sentences : List HeardGsv
  positive : 0 < num
  numbered : Numbered num 1 (sentences.map HeardGsv.part)
  same : ∀ heard ∈ sentences, heard.1.talker = talker ∧ heard.1.cnt.value = cnt
  atMost : sentences.length ≤ num

namespace GsvGroup

def parts (group : GsvGroup) : List (Stream.Part GnssSvInfo) :=
  group.sentences.map HeardGsv.part

/-- The entries of a complete group; a group whose last sentences are missing has none. -/
def entries (group : GsvGroup) : List GnssSvInfo :=
  if group.sentences.length = group.num then
    group.sentences.flatMap fun heard => heard.1.entries heard.2
  else []

theorem partItems_parts (group : GsvGroup) :
    partItems group.parts = group.sentences.flatMap fun heard => heard.1.entries heard.2 := by
  rw [partItems, parts, List.flatMap_map]
  rfl

/-- Sentences that share their count carry no more satellites than it announces. -/
theorem length_partItems_le {num cnt seq : Nat} {heards : List HeardGsv} (positive : 0 < seq)
    (numbered : Numbered num seq (heards.map HeardGsv.part))
    (same : ∀ heard ∈ heards, heard.1.cnt.value = cnt) :
    (partItems (heards.map HeardGsv.part)).length ≤ cnt - 4 * (seq - 1) := by
  induction heards generalizing seq with
  | nil => simp
  | cons heard heards ih =>
      obtain ⟨isSeq, -, numberedRest⟩ := numbered
      have rest := ih (Nat.succ_pos seq) numberedRest fun other member =>
        same other (List.mem_cons_of_mem heard member)
      have announced := heard.1.announced
      rw [same heard List.mem_cons_self, show heard.1.seq.value = seq from isSeq] at announced
      have own : heard.part.items.length = heard.1.satellites.length := by
        simp [HeardGsv.part, GsvSentence.part, GsvSentence.entries]
      rw [List.map_cons, partItems_cons, List.length_append, own, announced]
      omega

/-- A group is received whole or leaves nothing. -/
theorem received (group : GsvGroup) {assembly : Assembly GnssSvInfo}
    (fits : (assembly.done ++ group.entries).length ≤ capacity) :
    assembly.AcceptsAll capacity group.parts ∧
      (group.parts.foldl Assembly.add assembly).done = assembly.done ++ group.entries := by
  have bound := length_partItems_le Nat.one_pos group.numbered fun heard member =>
    (group.same heard member).2
  have length : group.parts.length = group.sentences.length := List.length_map _
  have announced : ∀ part ∈ group.parts, (partItems group.parts).length ≤ part.count := by
    intro part member
    obtain ⟨heard, isHeard, rfl⟩ := List.mem_map.mp member
    rw [show heard.part.count = group.cnt from (group.same heard isHeard).2]
    exact bound
  have doneFits : assembly.done.length ≤ capacity := by
    rw [List.length_append] at fits
    omega
  have result := Assembly.receive_group group.positive group.numbered
    (by rw [List.length_map]; exact group.atMost) announced doneFits
    (fun whole => by
      rw [List.length_map] at whole
      rwa [entries, if_pos whole, ← partItems_parts] at fits)
  refine ⟨result.1, result.2.trans ?_⟩
  rw [List.length_map, entries]
  split
  · rw [← partItems_parts]
    rfl
  · rw [List.append_nil]

end GsvGroup

theorem groups_received (groups : List GsvGroup) {assembly : Assembly GnssSvInfo}
    (fits : (assembly.done ++ groups.flatMap GsvGroup.entries).length ≤ capacity) :
    assembly.AcceptsAll capacity (groups.flatMap GsvGroup.parts) ∧
      ((groups.flatMap GsvGroup.parts).foldl Assembly.add assembly).done =
        assembly.done ++ groups.flatMap GsvGroup.entries := by
  induction groups generalizing assembly with
  | nil => exact ⟨trivial, by simp⟩
  | cons group groups ih =>
      rw [List.flatMap_cons, ← List.append_assoc] at fits
      have fitsHere : (assembly.done ++ group.entries).length ≤ capacity := by
        rw [List.length_append] at fits
        omega
      obtain ⟨acceptsHere, doneHere⟩ := group.received fitsHere
      rw [← doneHere] at fits
      obtain ⟨acceptsLater, doneLater⟩ := ih fits
      rw [List.flatMap_cons, Assembly.acceptsAll_append, List.foldl_append]
      refine ⟨⟨acceptsHere, acceptsLater⟩, ?_⟩
      rw [doneLater, doneHere, List.flatMap_cons, List.append_assoc]

/-- A batch of GSV groups, each complete or without its last sentences, and of GSA
sentences ends in one report: the entries of the complete groups in order, flagged when
their ids were listed before. -/
theorem svReport_of_batch (libc : LibcTime) (now : Int) (gnss : cfg.gpsMode = 0)
    (gps : 32 ≤ cfg.gpsMaxSvs) {listed : List Int} {r : NmeaReader} (ready : Ready cfg listed r)
    (sentences : List NmeaSentence) (groups : List GsvGroup)
    (grouped : heardGsv listed sentences = groups.flatMap GsvGroup.sentences)
    (fits : (groups.flatMap GsvGroup.entries).length ≤ cfg.gnssMaxSvs)
    (some : groups.flatMap GsvGroup.entries ≠ []) :
    svReports (readerRun cfg libc (readEvents now (batchBytes sentences)) r).2 =
        [(((groups.flatMap GsvGroup.entries).length : Int), groups.flatMap GsvGroup.entries)] ∧
      Ready cfg [] (readerRun cfg libc (readEvents now (batchBytes sentences)) r).1 := by
  have size : cfg.gnssMaxSvs = (cfg.gnssMaxSvs.toNat : Int) := by omega
  have parts : (heardGsv listed sentences).map HeardGsv.part =
      groups.flatMap GsvGroup.parts := by
    rw [grouped, List.map_flatMap]
    rfl
  have notEmpty : sentences ≠ [] := by
    rintro rfl
    have none : ∀ group ∈ groups, group.sentences = [] := by
      simpa [heardGsv] using grouped.symm
    apply some
    rw [List.flatMap_eq_nil_iff]
    intro group member
    simp [GsvGroup.entries, none group member]
  have room : ((⟨[], none⟩ : Assembly GnssSvInfo).done ++
      groups.flatMap GsvGroup.entries).length ≤ cfg.gnssMaxSvs.toNat := by
    rw [List.nil_append]
    omega
  obtain ⟨accepts, done⟩ := groups_received groups room
  rw [← parts] at accepts done
  obtain ⟨clear, empty, represents, reports⟩ := readerRun_batch libc now gnss size gps notEmpty
    ready.clear ready.empty ready.represents accepts done some
  exact ⟨reports, clear, empty, represents⟩

end Batch

theorem ready_nmeaReaderInit (cfg : GpsConfig) : Ready cfg [] nmeaReaderInit :=
  ⟨rfl, rfl, Nat.zero_le _, rfl, rfl, by simp, fun _ _ => by simp [nmeaReaderInit]⟩

section Examples

/-- A field without text. -/
def noText : TextField :=
  ⟨[], by simp, by simp⟩

/-- A satellite of which only the id is known. -/
def bareSatellite {talker : Talker} (id : NumberField) (valid : talker.ValidId id.value) :
    Satellite talker :=
  ⟨id, ⟨[], by decide⟩, ⟨[], by decide⟩, ⟨[], by decide⟩, valid⟩

/-- The letters of the GPS talker. -/
def gpsTalker : GsaTalker :=
  ⟨71, 80, by decide, by decide⟩

/-- A GSA sentence of a three-dimensional fix. -/
def fixGsa (talker : GsaTalker) (ids : List NumberField)
    (atMost : ids.length ≤ gsaMaxSatellites) : GsaSentence where
  talker := talker
  mode := noText
  fix := ⟨[3], by decide⟩
  ids := ids
  atMost := atMost
  pdop := noText
  hdop := noText
  vdop := noText
  ending := ⟨some (⟨1, by decide⟩, ⟨15, by decide⟩), true⟩

/-- The one GSV sentence of a group with the GPS satellite 7. -/
def gsvSeven : GsvSentence where
  talker := .gps
  num := ⟨[1], by decide⟩
  seq := ⟨[1], by decide⟩
  cnt := ⟨[0, 1], by decide⟩
  satellites := [⟨⟨[0, 7], by decide⟩, ⟨[4, 5], by decide⟩, ⟨[1, 2, 0], by decide⟩,
    ⟨[3, 8], by decide⟩, by decide⟩]
  positive := by decide
  announced := rfl
  ending := ⟨some (⟨4, by decide⟩, ⟨10, by decide⟩), true⟩

def gsaSeven : GsaSentence :=
  fixGsa gpsTalker [⟨[0, 7], by decide⟩] (by decide)

def groupSeven : GsvGroup :=
  ⟨.gps, 1, 1, [(gsvSeven, [7])], by decide, ⟨rfl, rfl, trivial⟩,
    fun heard member => by rw [List.mem_singleton.mp member]; exact ⟨rfl, rfl⟩, by decide⟩

theorem svReport_of_batch_seven :
    svReports (readerRun gnssConfig LibcTime.utc
        (readEvents 0 (batchBytes [.gsa gsaSeven, .gsv gsvSeven])) nmeaReaderInit).2 =
      [(1, [⟨7, .gps, .finite 38, 45, 120, svFlagUsedInFix⟩])] := by
  have grouped : heardGsv [] [.gsa gsaSeven, .gsv gsvSeven] =
      [groupSeven].flatMap GsvGroup.sentences := by
    have listed : gsaSeven.listed = [7] := by decide
    simp [heardGsv, listed, groupSeven]
  have report := (svReport_of_batch LibcTime.utc 0 rfl (by decide)
      (ready_nmeaReaderInit gnssConfig)
    [.gsa gsaSeven, .gsv gsvSeven] [groupSeven] grouped (by decide) (by decide)).1
  rw [report]
  decide +kernel

/-- The one GSV sentence of a group without satellites. -/
def gsvNone : GsvSentence :=
  ⟨.gps, ⟨[1], by decide⟩, ⟨[1], by decide⟩, ⟨[0, 0], by decide⟩, [], by decide, rfl,
    ⟨none, false⟩⟩

/-- The two GSV sentences of a group of five GPS satellites. -/
def gsvFourOfFive : GsvSentence where
  talker := .gps
  num := ⟨[2], by decide⟩
  seq := ⟨[1], by decide⟩
  cnt := ⟨[0, 5], by decide⟩
  satellites := [bareSatellite ⟨[0, 1], by decide⟩ (by decide),
    bareSatellite ⟨[0, 2], by decide⟩ (by decide), bareSatellite ⟨[0, 3], by decide⟩ (by decide),
    bareSatellite ⟨[0, 4], by decide⟩ (by decide)]
  positive := by decide
  announced := rfl
  ending := ⟨none, false⟩

def gsvLastOfFive : GsvSentence where
  talker := .gps
  num := ⟨[2], by decide⟩
  seq := ⟨[2], by decide⟩
  cnt := ⟨[0, 5], by decide⟩
  satellites := [bareSatellite ⟨[0, 5], by decide⟩ (by decide)]
  positive := by decide
  announced := rfl
  ending := ⟨none, false⟩

/-- The one GSV sentence of a group with a GLONASS satellite. -/
def gsvGlonass : GsvSentence where
  talker := .glonass
  num := ⟨[1], by decide⟩
  seq := ⟨[1], by decide⟩
  cnt := ⟨[0, 1], by decide⟩
  satellites := [bareSatellite ⟨[7, 0], by decide⟩ (by decide)]
  positive := by decide
  announced := rfl
  ending := ⟨none, false⟩

/-- The number of satellites and the flags in the reports of a batch. -/
def reportedFlags (sentences : List NmeaSentence) : List (Int × List Nat) :=
  (svReports (readerRun gnssConfig LibcTime.utc (readEvents 0 (batchBytes sentences))
    nmeaReaderInit).2).map fun report => (report.1, report.2.map GnssSvInfo.flags)

/-- No satellites, no report; a GSA sentence does not flag the groups before it, nor with its
ids behind an unknown one or an empty field, nor when it comes from another talker; and a group
inside a group loses satellites of it. -/
theorem svReport_differs :
    reportedFlags [.gsv gsvNone] = [] ∧
      reportedFlags [.gsv gsvSeven, .gsa gsaSeven] = [(1, [0])] ∧
      reportedFlags [.gsa (fixGsa gpsTalker [⟨[4, 0], by decide⟩, ⟨[0, 7], by decide⟩]
        (by decide)), .gsv gsvSeven] = [(1, [0])] ∧
      reportedFlags [.gsa (fixGsa gpsTalker [⟨[], by decide⟩, ⟨[0, 7], by decide⟩]
        (by decide)), .gsv gsvSeven] = [(1, [0])] ∧
      reportedFlags [.gsa (fixGsa ⟨71, 78, by decide, by decide⟩ [⟨[0, 7], by decide⟩]
        (by decide)), .gsv gsvSeven] = [(1, [0])] ∧
      (reportedFlags [.gsv gsvFourOfFive, .gsv gsvGlonass, .gsv gsvLastOfFive]).map Prod.fst =
        [3] := by
  decide +kernel

end Examples

end X3Hal.Gps
