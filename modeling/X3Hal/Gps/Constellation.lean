import X3Hal.Gps.Sentences
import X3Hal.Gps.SvBound
import X3Hal.Transition.Justified

/-!
# The constellation of a satellite

The constellation of an entry is read off its id alone.  It is that of the talker that sent
the entry as long as every id that is taken is in the range of its talker, and every set is
counted once: a set that is counted twice takes in entries that nobody wrote.
-/

namespace X3Hal.Gps

open X3Hal.Transition

/-! ## Who sent an entry -/

/-- The ids of a talker's satellites in the numbering of the reader. -/
def Talker.Owns : Talker → Int → Prop
  | .gps, id => 1 ≤ id ∧ id ≤ 32
  | .glonass, id => 65 ≤ id ∧ id ≤ 96
  | .beidou, id => 201 ≤ id ∧ id ≤ 232

instance (talker : Talker) (id : Int) : Decidable (talker.Owns id) := by
  cases talker <;> exact inferInstanceAs (Decidable (_ ∧ _))

/-- An entry with the constellation and an id of the talker. -/
def Talker.Reports (talker : Talker) (entry : GnssSvInfo) : Prop :=
  entry.constellation = talker.constellation ∧ talker.Owns entry.svid

instance (talker : Talker) (entry : GnssSvInfo) : Decidable (talker.Reports entry) :=
  inferInstanceAs (Decidable (_ ∧ _))

/-- The talker of a sentence, where it is one that sends satellites. -/
def talkerOf (sentence : List UInt8) : Option Talker :=
  [Talker.gps, .glonass, .beidou].find? fun talker =>
    talker.code.isPrefixOf (nmeaTokenizerGet (nmeaTokenizerInit sentence) 0).text

/-- The talker of the sentence in hand, and the talker whose sentence wrote each entry of the
table. -/
structure SenderLog where
  current : Option Talker
  sender : Int → Option Talker

def SenderLog.next (log : SenderLog) : ReaderOutput → SenderLog
  | .parse sentence => { log with current := talkerOf sentence }
  | .writeGnssSv index => { log with sender := Function.update log.sender index log.current }
  | _ => log

def senderLog (outputs : List ReaderOutput) : SenderLog :=
  outputs.foldl SenderLog.next ⟨none, fun _ => none⟩

theorem senderLog_snoc (outputs : List ReaderOutput) (output : ReaderOutput) :
    senderLog (outputs ++ [output]) = (senderLog outputs).next output :=
  List.foldl_append

/-- The entries of a report carry the constellations of the talkers that sent them. -/
def CarriesSender (before : List ReaderOutput) : ReaderOutput → Prop
  | .gnssSvStatusCb _ entries => ∀ (index : Nat) (entry : GnssSvInfo),
      entries[index]? = some entry →
        ∃ talker ∈ (senderLog before).sender index, talker.Reports entry
  | _ => True

def ConstellationLaw (outputs : List ReaderOutput) : Prop :=
  Justified CarriesSender outputs

/-! ## What a reader keeps -/

/-- The end of the entries that may still be reported: a set in hand counts until it is
counted. -/
def tableEnd (parsed : Parsed) : Int :=
  parsed.1.svStatusGnss.numSvs + if setCounted false parsed.2 then 0 else parsed.1.svCount

/-- A talker sent the entry at an index. -/
def Sent (parsed : Parsed) (index : Int) : Prop :=
  ∃ talker ∈ (senderLog parsed.2).sender index,
    talker.Reports (parsed.1.svStatusGnss.gnssSvList index)

structure Attributed (parsed : Parsed) : Prop where
  law : ConstellationLaw parsed.2
  count_nonneg : 0 ≤ parsed.1.svCount
  svs_nonneg : 0 ≤ parsed.1.svStatusGnss.numSvs
  sent : ∀ index, 0 ≤ index → index < tableEnd parsed → Sent parsed index

theorem Attributed.numSvs_le {parsed : Parsed} (attributed : Attributed parsed) :
    parsed.1.svStatusGnss.numSvs ≤ tableEnd parsed := by
  have nonneg := attributed.count_nonneg
  unfold tableEnd
  split
  · omega
  · omega

/-- The table is empty. -/
theorem Attributed.empty {parsed : Parsed} (law : ConstellationLaw parsed.2)
    (count : parsed.1.svCount = 0) (svs : parsed.1.svStatusGnss.numSvs = 0) :
    Attributed parsed := by
  refine ⟨law, count.ge, svs.ge, fun index nonneg within => ?_⟩
  rw [tableEnd, count, svs, ite_self] at within
  omega

/-- The output changes neither the table nor what is known of it. -/
def ReaderOutput.LeavesTable : ReaderOutput → Prop
  | .parse _ | .locationCb _ | .nmeaCb _ _ => True
  | _ => False

theorem Attributed.keep {parsed : Parsed} (attributed : Attributed parsed) {next : NmeaReader}
    (count : next.svCount = parsed.1.svCount)
    (svs : next.svStatusGnss = parsed.1.svStatusGnss) : Attributed (next, parsed.2) := by
  refine ⟨attributed.law, ?_, ?_, ?_⟩
  · rw [count]
    exact attributed.count_nonneg
  · rw [svs]
    exact attributed.svs_nonneg
  · intro index nonneg within
    rw [tableEnd, count, svs] at within
    rw [Sent, svs]
    exact attributed.sent index nonneg within

theorem Attributed.emit {r : NmeaReader} {outputs : List ReaderOutput}
    (attributed : Attributed (r, outputs)) {output : ReaderOutput} (leaves : output.LeavesTable) :
    Attributed (r, outputs ++ [output]) := by
  have sender : (senderLog (outputs ++ [output])).sender = (senderLog outputs).sender := by
    rw [senderLog_snoc]
    cases output with
    | parse | locationCb | nmeaCb => rfl
    | _ => exact leaves.elim
  have counted : setCounted false (outputs ++ [output]) = setCounted false outputs := by
    rw [setCounted_append]
    cases output with
    | parse | locationCb | nmeaCb => rfl
    | _ => exact leaves.elim
  refine ⟨?_, attributed.count_nonneg, attributed.svs_nonneg, ?_⟩
  · rw [ConstellationLaw, justified_snoc_iff]
    refine ⟨attributed.law, ?_⟩
    cases output with
    | gnssSvStatusCb => exact leaves.elim
    | _ => trivial
  · intro index nonneg within
    rw [tableEnd, counted] at within
    rw [Sent, sender]
    exact attributed.sent index nonneg within

/-! ## Satellites of a sentence -/

section Sentence

variable (cfg : GpsConfig)

/-- `nmea_reader_update_sv_status_gnss` does not take the id. -/
def RejectedId (id : Int) : Prop :=
  id ≤ 0 ∨ (id < 65 ∧ cfg.gpsMaxSvs < id) ∨ (96 < id ∧ id < 200) ∨ 232 < id

instance (id : Int) : Decidable (RejectedId cfg id) :=
  inferInstanceAs (Decidable (_ ∨ _ ∨ _ ∨ _))

theorem constellationOf_owned {talker : Talker} {id : Int} (owns : talker.Owns id) :
    constellationOf id = talker.constellation := by
  unfold constellationOf
  cases talker with
  | gps => exact if_pos (by exact Int.lt_of_le_sub_one owns.2)
  | glonass =>
      rw [if_neg (by exact not_lt.mpr ((by decide : (33 : Int) ≤ 65).trans owns.1)),
        if_neg (by exact not_lt.mpr (owns.2.trans (by decide)))]
      rfl
  | beidou =>
      rw [if_neg (by exact not_lt.mpr ((by decide : (33 : Int) ≤ 201).trans owns.1)),
        if_pos (by exact lt_of_lt_of_le (by decide) owns.1)]
      rfl

/-- The table is in order, and a sentence of the talker is in hand. -/
structure AttributedTo (talker : Option Talker) (parsed : Parsed) : Prop
    extends Attributed parsed where
  current : (senderLog parsed.2).current = talker

variable {cfg} {talker : Option Talker} {parsed : Parsed}

theorem attributedTo_update (attributed : AttributedTo talker parsed) {prn : Int}
    (owned : RejectedId cfg prn ∨ ∃ sender ∈ talker, sender.Owns prn)
    (elevation azimuth snr : Token) :
    AttributedTo talker
      (parsed.andThen (nmeaReaderUpdateSvStatusGnss cfg prn elevation azimuth snr)) := by
  rcases parsed with ⟨r, outputs⟩
  have nonneg := attributed.count_nonneg
  have svsNonneg := attributed.svs_nonneg
  unfold Parsed.andThen nmeaReaderUpdateSvStatusGnss
  dsimp only at nonneg svsNonneg ⊢
  split
  case isTrue =>
    rw [List.append_nil]
    exact attributed
  case isFalse taken =>
    split
    case isTrue =>
      rw [List.append_nil]
      exact attributed
    case isFalse =>
      have owner : ∃ sender ∈ talker, sender.Owns prn := by
        rcases owned with rejected | owner
        · exact absurd (by unfold RejectedId at rejected; tauto) taken
        · exact owner
      refine ⟨⟨?_, ?_, svsNonneg, ?_⟩, ?_⟩
      · rw [ConstellationLaw, justified_snoc_iff]
        exact ⟨attributed.law, trivial⟩
      · show 0 ≤ r.svCount + 1
        omega
      · intro index indexNonneg within
        unfold Sent
        rw [senderLog_snoc, SenderLog.next]
        dsimp only
        by_cases same : index = r.svCount + r.svStatusGnss.numSvs
        · rcases owner with ⟨sender, isTalker, owns⟩
          refine ⟨sender, ?_, ?_⟩
          · rw [same, Function.update_self, attributed.current]
            exact isTalker
          · rw [same, Function.update_self]
            exact ⟨constellationOf_owned owns, owns⟩
        · have before : index < tableEnd (r, outputs) := by
            unfold tableEnd at within ⊢
            rw [setCounted_append] at within
            change index < r.svStatusGnss.numSvs +
              (if setCounted false outputs then 0 else r.svCount + 1) at within
            split
            case isTrue counted =>
              rw [if_pos counted] at within
              exact within
            case isFalse notCounted =>
              rw [if_neg notCounted] at within
              dsimp only
              omega
          rw [Function.update_of_ne same, Function.update_of_ne same]
          exact attributed.sent index indexNonneg before
      · rw [senderLog_snoc]
        exact attributed.current

/-- A loop goes on from a reader with earlier output. -/
theorem andThen_foldl (parsed : Parsed) (indices : List Nat) (step : Nat → NmeaReader → Parsed) :
    (parsed.andThen fun r => indices.foldl (fun parsed idx => parsed.andThen (step idx)) (r, [])) =
      indices.foldl (fun parsed idx => parsed.andThen (step idx)) parsed := by
  induction indices using List.reverseRecOn with
  | nil => exact Parsed.andThen_silent parsed
  | append_singleton indices idx ih =>
      rw [List.foldl_append, ← ih]
      simp only [List.foldl_append, List.foldl_cons, List.foldl_nil]
      exact (Parsed.andThen_assoc _ _ _).symm

/-- The id of a satellite in a GSV sentence, in the reader's numbering. -/
def gsvId (isBds : Bool) (tzer : NmeaTokenizer) (idx : Nat) : Int :=
  readerId isBds (str2int (nmeaTokenizerGet tzer (4 * (idx + 1))).text)

theorem attributedTo_gsvSatellites (attributed : AttributedTo talker parsed) (isBds : Bool)
    (tzer : NmeaTokenizer) {count : Nat}
    (owned : ∀ idx < count, RejectedId cfg (gsvId isBds tzer idx) ∨
      ∃ sender ∈ talker, sender.Owns (gsvId isBds tzer idx)) :
    AttributedTo talker
      (parsed.andThen (gsvSatellites isBds tzer (nmeaReaderUpdateSvStatusGnss cfg) count)) := by
  unfold gsvSatellites
  rw [andThen_foldl]
  induction count with
  | zero => exact attributed
  | succ count ih =>
      rw [List.range_succ, List.foldl_append]
      exact attributedTo_update (ih fun idx less => owned idx (Nat.lt_succ_of_lt less))
        (owned count (Nat.lt_succ_self count)) _ _ _

/-! ## Sets -/

theorem attributedTo_gsvOpen (attributed : AttributedTo talker parsed) (header : GsvHeader) :
    AttributedTo talker (parsed.andThen (gsvOpen header)) := by
  rcases parsed with ⟨r, outputs⟩
  unfold Parsed.andThen gsvOpen
  dsimp only
  split
  case isTrue =>
    refine ⟨⟨?_, le_rfl, attributed.svs_nonneg, ?_⟩, ?_⟩
    · rw [ConstellationLaw, justified_snoc_iff]
      exact ⟨attributed.law, trivial⟩
    · intro index nonneg within
      have least := attributed.numSvs_le
      rw [tableEnd, ite_self, add_zero] at within
      unfold Sent
      rw [senderLog_snoc]
      exact attributed.sent index nonneg (within.trans_le least)
    · rw [senderLog_snoc]
      exact attributed.current
  case isFalse =>
    rw [List.append_nil]
    exact attributed

theorem attributed_gsvCloseGnss (attributed : Attributed parsed) (header : GsvHeader)
    (once : header.seq = header.num → parsed.1.svCount ≤ header.cnt →
      setCounted false parsed.2 = false) :
    Attributed (parsed.andThen (gsvCloseGnss header)) := by
  rcases parsed with ⟨r, outputs⟩
  have nonneg := attributed.count_nonneg
  have svsNonneg := attributed.svs_nonneg
  unfold Parsed.andThen gsvCloseGnss
  dsimp only at nonneg svsNonneg once ⊢
  split
  case isTrue closes =>
    split
    case isTrue complete =>
      refine ⟨?_, nonneg, ?_, ?_⟩
      · rw [ConstellationLaw, justified_snoc_iff]
        exact ⟨attributed.law, trivial⟩
      · show 0 ≤ r.svStatusGnss.numSvs + r.svCount
        omega
      · intro index indexNonneg within
        have same : tableEnd (r, outputs) = r.svStatusGnss.numSvs + r.svCount := by
          rw [tableEnd, once closes complete]
          rfl
        rw [tableEnd, setCounted_append] at within
        change index < r.svStatusGnss.numSvs + r.svCount + 0 at within
        rw [add_zero, ← same] at within
        unfold Sent
        rw [senderLog_snoc]
        exact attributed.sent index indexNonneg within
    case isFalse =>
      apply Attributed.empty
      · rw [ConstellationLaw, justified_snoc_iff]
        exact ⟨attributed.law, trivial⟩
      · rfl
      · rfl
  case isFalse =>
    rw [List.append_nil]
    exact attributed

end Sentence

/-! ## Sentences -/

/-- Every id of a GSV sentence that the reader takes is one of the talker. -/
def IdsOwned (cfg : GpsConfig) (sentence : List UInt8) : Prop :=
  ∀ header ∈ parsedGsvHeader cfg sentence, ∀ idx < header.svNum.toNat,
    let tzer := nmeaTokenizerInit sentence
    let id := gsvId (startsWith (nmeaTokenizerGet tzer 0).text ['B', 'D']) tzer idx
    RejectedId cfg id ∨ ∃ talker ∈ talkerOf sentence, talker.Owns id

section Parse

variable {cfg : GpsConfig} {parsed : Parsed}

theorem attributed_parseGsvGnss {talker : Option Talker} {isBds : Bool} {tzer : NmeaTokenizer}
    (attributed : AttributedTo talker parsed)
    (owned : ∀ idx < (gsvHeader tzer).svNum.toNat, RejectedId cfg (gsvId isBds tzer idx) ∨
      ∃ sender ∈ talker, sender.Owns (gsvId isBds tzer idx))
    (once : (gsvHeader tzer).ClosesEarlierSet parsed.1 → setCounted false parsed.2 = false) :
    Attributed (parsed.andThen (parseGsvGnss cfg isBds tzer)) := by
  have opened := attributedTo_gsvOpen attributed (gsvHeader tzer)
  have satellites := attributedTo_gsvSatellites opened isBds tzer owned
  rw [Parsed.andThen_assoc] at satellites
  have closed := attributed_gsvCloseGnss satellites.toAttributed (gsvHeader tzer) (by
    intro closes complete
    rw [Parsed.andThen, setCounted_append]
    exact openSet_notCounted once closes complete)
  rw [Parsed.andThen_assoc] at closed
  exact closed

theorem Attributed.of_apartFromFix {r next : NmeaReader} {outputs : List ReaderOutput}
    (attributed : Attributed (r, outputs)) (same : next.apartFromFix = r.apartFromFix) :
    Attributed (next, outputs) := by
  apply attributed.keep
  · show next.apartFromFix.svCount = r.apartFromFix.svCount
    rw [same]
  · show next.apartFromFix.svStatusGnss = r.apartFromFix.svStatusGnss
    rw [same]

theorem attributed_parseSentence (libc : LibcTime) (now : Int) (gnss : cfg.gpsMode = 0)
    {talker : Option Talker} {field : List UInt8} {tzer : NmeaTokenizer}
    (attributed : AttributedTo talker parsed)
    (owned : sentenceKind cfg field = .gsvGnss → ∀ idx < (gsvHeader tzer).svNum.toNat,
      RejectedId cfg (gsvId (startsWith field ['B', 'D']) tzer idx) ∨
        ∃ sender ∈ talker, sender.Owns (gsvId (startsWith field ['B', 'D']) tzer idx))
    (once : sentenceKind cfg field = .gsvGnss → (gsvHeader tzer).ClosesEarlierSet parsed.1 →
      setCounted false parsed.2 = false) :
    Attributed (parsed.andThen (parseSentence cfg libc now field tzer)) := by
  rcases parsed with ⟨r, outputs⟩
  have table := attributed.toAttributed
  unfold parseSentence
  cases kind : sentenceKind cfg field with
  | gsvGnss => exact attributed_parseGsvGnss attributed (owned kind) (once kind)
  | gsvGps => exact absurd kind (sentenceKind_ne_gsvGps gnss field)
  | gga =>
      simp only [Parsed.andThen, List.append_nil]
      exact table.of_apartFromFix (apartFromFix_parseGga libc now tzer r)
  | gsaGnss =>
      simp only [Parsed.andThen, List.append_nil]
      rw [parseGsaGnss_eq]
      exact table.keep rfl rfl
  | gsaGps =>
      simp only [Parsed.andThen, List.append_nil]
      exact table.keep rfl rfl
  | rmc =>
      simp only [Parsed.andThen, List.append_nil]
      exact table.of_apartFromFix (apartFromFix_parseRmc libc now tzer r)
  | accuracy =>
      simp only [Parsed.andThen, List.append_nil]
      exact table.of_apartFromFix (apartFromFix_parseAccuracy tzer r)
  | unknown =>
      simp only [Parsed.andThen, List.append_nil]
      exact table

theorem attributed_reportFix (attributed : Attributed parsed) (endTag : Bool) :
    Attributed (parsed.andThen (reportFix endTag)) := by
  rcases parsed with ⟨r, outputs⟩
  unfold Parsed.andThen reportFix
  dsimp only
  split
  · have reported : ReaderOutput.LeavesTable (.locationCb r.fix) := trivial
    exact (attributed.emit reported).keep rfl rfl
  · rw [List.append_nil]
    exact attributed

/-- The report shows the entries that were sent, and empties the table. -/
theorem attributed_reportSvs (attributed : Attributed parsed) (gnss : cfg.gpsMode = 0)
    (endTag : Bool) : Attributed (parsed.andThen (reportSvs cfg endTag)) := by
  rcases parsed with ⟨r, outputs⟩
  unfold Parsed.andThen reportSvs
  dsimp only
  rw [if_pos gnss]
  split
  case isTrue =>
    apply Attributed.empty
    · rw [ConstellationLaw, justified_snoc_iff]
      refine ⟨attributed.law, ?_⟩
      intro index entry isEntry
      rw [svEntries, List.getElem?_map] at isEntry
      rcases Option.map_eq_some_iff.mp isEntry with ⟨position, isPosition, rfl⟩
      rcases List.getElem?_eq_some_iff.mp isPosition with ⟨within, rfl⟩
      rw [List.length_range] at within
      rw [List.getElem_range]
      apply attributed.sent index (Int.natCast_nonneg index)
      have least := attributed.numSvs_le
      dsimp only at least
      omega
    · rfl
    · rfl
  case isFalse =>
    rw [List.append_nil]
    exact attributed

theorem attributed_nmeaReaderParse (libc : LibcTime) (now : Int) (gnss : cfg.gpsMode = 0)
    (endTag : Bool) (attributed : Attributed parsed) (owned : IdsOwned cfg parsed.1.input)
    (once : ∀ header ∈ parsedGsvHeader cfg parsed.1.input, header.ClosesEarlierSet parsed.1 →
      setCounted false parsed.2 = false) :
    Attributed (parsed.andThen (nmeaReaderParse cfg libc now endTag)) := by
  rcases parsed with ⟨r, outputs⟩
  have entered : AttributedTo (talkerOf r.input) (r, outputs ++ [.parse r.input]) := by
    have leaves : ReaderOutput.LeavesTable (.parse r.input) := trivial
    refine ⟨attributed.emit leaves, ?_⟩
    rw [senderLog_snoc]
    rfl
  have counted : setCounted false (outputs ++ [.parse r.input]) = setCounted false outputs := by
    rw [setCounted_append]
    rfl
  by_cases parsed : 9 ≤ r.input.length ∧
      5 ≤ (nmeaTokenizerGet (nmeaTokenizerInit r.input) 0).text.length
  · have header : ∀ kind : sentenceKind cfg (nmeaTokenizerGet (nmeaTokenizerInit r.input) 0).text =
        .gsvGnss, gsvHeader (nmeaTokenizerInit r.input) ∈ parsedGsvHeader cfg r.input := by
      intro kind
      rw [parsedGsvHeader, if_pos ⟨parsed.1, parsed.2, kind⟩]
      rfl
    have branch := attributed_parseSentence libc now gnss entered
      (fun kind => owned _ (header kind)) (fun kind closes => by
        rw [counted]
        exact once _ (header kind) closes)
    have reported := attributed_reportSvs (attributed_reportFix branch endTag) gnss endTag
    have parses : Parsed.andThen (r, outputs) (nmeaReaderParse cfg libc now endTag) =
        (Parsed.andThen (Parsed.andThen (Parsed.andThen (r, outputs ++ [.parse r.input])
          (parseSentence cfg libc now (nmeaTokenizerGet (nmeaTokenizerInit r.input) 0).text
            (nmeaTokenizerInit r.input))) (reportFix endTag)) (reportSvs cfg endTag)) := by
      rw [Parsed.andThen, nmeaReaderParse_of_kind cfg libc now endTag parsed.1 parsed.2]
      simp only [Parsed.andThen, List.append_assoc]
    rw [parses]
    exact reported
  · rw [Parsed.andThen, nmeaReaderParse_of_short cfg libc now endTag parsed]
    exact entered.toAttributed

/-! ## Runs -/

/-- Every id that is taken from a completed sentence is one of its talker. -/
def idsOwned (cfg : GpsConfig) : System.Guard NmeaReader ReaderEvent ReaderOutput :=
  fun _ r event =>
    match event with
    | .addc _ _ c => ∀ sentence ∈ r.completes c, IdsOwned cfg sentence
    | _ => True

instance (cfg : GpsConfig) (sentence : List UInt8) : Decidable (IdsOwned cfg sentence) := by
  unfold IdsOwned
  infer_instance

/-- The ids are owned, and sets are counted once. -/
def ownedAndCountedOnce (cfg : GpsConfig) : System.Guard NmeaReader ReaderEvent ReaderOutput :=
  fun history r event => idsOwned cfg history r event ∧ setsCountedOnce cfg history r event

instance (history : History ReaderEvent ReaderOutput) (r : NmeaReader) (event : ReaderEvent) :
    Decidable (idsOwned cfg history r event) :=
  match event with
  | .addc _ _ c => inferInstanceAs (Decidable (∀ sentence ∈ r.completes c, IdsOwned cfg sentence))
  | .setCallback | .clearFixMode => inferInstanceAs (Decidable True)

instance (history : History ReaderEvent ReaderOutput) (r : NmeaReader) (event : ReaderEvent) :
    Decidable (ownedAndCountedOnce cfg history r event) :=
  inferInstanceAs (Decidable (_ ∧ _))

theorem attributed_nmeaReaderAddc (libc : LibcTime) (now : Int) (gnss : cfg.gpsMode = 0)
    (endTag : Bool) (c : UInt8) (attributed : Attributed parsed)
    (owned : ∀ sentence ∈ parsed.1.completes c, IdsOwned cfg sentence)
    (once : ∀ sentence ∈ parsed.1.completes c, ∀ header ∈ parsedGsvHeader cfg sentence,
      header.ClosesEarlierSet parsed.1 → setCounted false parsed.2 = false) :
    Attributed (parsed.andThen (nmeaReaderAddc cfg libc now endTag c)) := by
  rcases parsed with ⟨r, outputs⟩
  unfold Parsed.andThen nmeaReaderAddc
  dsimp only
  split
  case isTrue =>
    rw [List.append_nil]
    exact attributed.keep rfl rfl
  case isFalse notOverflow =>
    split
    case isTrue =>
      rw [List.append_nil]
      exact attributed.keep rfl rfl
    case isFalse notFull =>
      split
      case isTrue ends =>
        have complete : r.completes c = some (r.input ++ [c]) :=
          if_pos ⟨Bool.eq_false_iff.mpr notOverflow, not_le.mp notFull, ends⟩
        have stored : Attributed ({ r with input := r.input ++ [c] }, outputs) :=
          attributed.keep rfl rfl
        have parses := attributed_nmeaReaderParse libc now gnss endTag stored
          (owned _ complete) (once _ complete)
        have leaves :
            ∀ timestamp sentence, ReaderOutput.LeavesTable (.nmeaCb timestamp sentence) :=
          fun _ _ => trivial
        simp only [Parsed.andThen, ← List.append_assoc]
        exact (parses.emit (leaves _ _)).keep rfl rfl
      case isFalse =>
        rw [List.append_nil]
        exact attributed.keep rfl rfl

/-- While the ids that are taken are those of their talkers and every set is counted once, every
reported entry carries the constellation of its talker and one of its ids. -/
theorem constellation_law (libc : LibcTime) (gnss : cfg.gpsMode = 0)
    {history : History ReaderEvent ReaderOutput} {r : NmeaReader}
    (run : (readerSystem cfg libc).Run (ownedAndCountedOnce cfg) history r) :
    ConstellationLaw history.outputs := by
  have all : Attributed (r, history.outputs) := by
    apply System.Run.invariant (fun history r => Attributed (r, history.outputs)) ?_ ?_ run
    · rintro _ rfl
      exact .empty justified_nil rfl rfl
    · intro history r event after out attributed guarded stepped
      have result := Option.some.inj stepped
      rw [History.outputs_snoc]
      have step :
          Attributed (Parsed.andThen (r, history.outputs) (readerStep cfg libc event)) := by
        cases event with
        | addc now endTag c =>
            exact attributed_nmeaReaderAddc libc now gnss endTag c attributed guarded.1 guarded.2
        | setCallback =>
            apply Attributed.empty
            · rw [ConstellationLaw, Parsed.andThen, readerStep, justified_snoc_iff]
              exact ⟨attributed.law, trivial⟩
            · rfl
            · rfl
        | clearFixMode =>
            simp only [Parsed.andThen, readerStep, List.append_nil]
            exact attributed.keep rfl rfl
      rw [Parsed.andThen, result] at step
      exact step
  exact all.law

end Parse

/-- A BeiDou sentence with an empty id -/
def emptyBeidouId : List UInt8 :=
  ascii ['$', 'B', 'D', 'G', 'S', 'V', ',', '1', ',', '1', ',', '0', '1', ',', ',', '4', '0', ',',
    '0', '8', '3', ',', '4', '6', '\n']

/-- A GPS sentence with one satellite -/
def oneGpsSatellite : List UInt8 :=
  ascii ['$', 'G', 'P', 'G', 'S', 'V', ',', '1', ',', '1', ',', '0', '1', ',', '0', '5', ',', '4',
    '0', ',', '0', '8', '3', ',', '4', '6', '\n']

theorem constellation_law_oneGpsSatellite :
    ∃ history r, (readerSystem gnssConfig LibcTime.utc).Run
      (ownedAndCountedOnce gnssConfig) history r ∧
      ConstellationLaw history.outputs := by
  rcases exists_run_readerRun gnssConfig LibcTime.utc (ownedAndCountedOnce gnssConfig)
    (readEvents 0 oneGpsSatellite) (by decide +kernel) with ⟨history, run, -⟩
  exact ⟨history, _, run, constellation_law LibcTime.utc rfl run⟩

/-- A BeiDou satellite without an id is reported as GLONASS 200. -/
theorem constellation_law_broken :
    ¬ ∀ (cfg : GpsConfig) (libc : LibcTime), cfg.gpsMode = 0 →
      ∀ history r, (readerSystem cfg libc).Run System.free history r →
        ConstellationLaw history.outputs := by
  intro law
  rcases exists_run_readerRun gnssConfig LibcTime.utc System.free (readEvents 0 emptyBeidouId)
    (by decide +kernel) with ⟨history, run, outputs⟩
  have holds := law gnssConfig LibcTime.utc rfl history _ run
  rw [outputs] at holds
  let entry : GnssSvInfo :=
    { svid := 200, constellation := .glonass, cN0Dbhz := .finite 46, elevation := 40,
      azimuth := 83 }
  have reported : (readerRun gnssConfig LibcTime.utc (readEvents 0 emptyBeidouId)
      nmeaReaderInit).2[4]? = some (.gnssSvStatusCb 1 [entry]) := by decide +kernel
  rcases List.getElem?_eq_some_iff.mp reported with ⟨within, is⟩
  have carries := holds.getElem 4 within
  rw [is] at carries
  rcases carries 0 entry rfl with ⟨talker, -, reports⟩
  revert reports
  cases talker <;> decide

end X3Hal.Gps
