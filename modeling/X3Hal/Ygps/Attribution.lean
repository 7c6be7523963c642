import X3Hal.Ygps.LocationRecords

/-!
# The talker and the type of a sentence

`parse` takes the first word of a talker and the first word of a type that it finds anywhere in the
record.  A sentence has both in its first field.
-/

namespace X3Hal.Ygps

open Gps (Real64 comma)
open Memory (ascii)

/-! ## Sentences -/

def isLetter (byte : UInt8) : Bool :=
  (65 ≤ byte && byte ≤ 90) || (97 ≤ byte && byte ≤ 122)

/-- A sentence of any talker and of any type. -/
structure AddressedSentence where
  talker : Text
  kind : Text
  body : List Text
  checksum : Text
  twoLetters : talker.length = 2 ∧ ∀ byte ∈ talker, isLetter byte = true
  fields : comma ∉ kind ∧ (∀ field ∈ body, comma ∉ field) ∧ comma ∉ checksum

namespace AddressedSentence

def record (sentence : AddressedSentence) : Text :=
  ascii "$" ++ sentence.talker ++ sentence.kind ++ sentence.body.flatMap (comma :: ·) ++
    star :: sentence.checksum

/-- The talker, if it is one of the four. -/
def talker? (sentence : AddressedSentence) : Option Talker :=
  mTalker.find? fun talker => talker.text = sentence.talker

/-- The type, if it is one of the four. -/
def kind? (sentence : AddressedSentence) : Option Kind :=
  kinds.find? fun kind => kind.text = sentence.kind

/-- What the function for the type of the sentence does with its talker. -/
def act (sentence : AddressedSentence) (parser : LocatingParser) :
    LocatingParser × List ViewMessage :=
  (parser.withTalker sentence.talker?).act sentence.record sentence.kind?

end AddressedSentence

/-! ## Attribution -/

/-- Two parsers have the same lists for a talker. -/
structure SameLists (talker : Talker) (parser other : NmeaParser) : Prop where
  satellites : parser.mSatelInfoList talker = other.mSatelInfoList talker
  usedFixIds : parser.mUsedFixIdMapList (some talker) = other.mUsedFixIdMapList (some talker)
  extra : parser.mExtraInfoList talker = other.mExtraInfoList talker

/-- Two parsers have the same of a talker. -/
structure SameRecord (talker : Talker) (parser other : LocatingParser) : Prop where
  lists : SameLists talker parser.toNmeaParser other.toNmeaParser
  location : parser.mLocRecord talker = other.mLocRecord talker

/-- A sentence acts as its type says, on its talker and on no other. -/
structure Attributes (sentence : AddressedSentence) (parser : LocatingParser) : Prop where
  acts : ∀ talker,
    SameRecord talker (parser.parse sentence.record).1 (sentence.act parser).1
  sends : (parser.parse sentence.record).2 = (sentence.act parser).2
  others : ∀ talker, sentence.talker? ≠ some talker →
    SameRecord talker (parser.parse sentence.record).1 parser

/-! ### When it holds -/

/-- The four fields of a satellite are read without an exception. -/
def ReadsSatellite (number elevation azimuth snr : Text) : Prop :=
  (parseInt number).isSome ∧ (parseFloat elevation).isSome ∧ (parseFloat azimuth).isSome ∧
    (parseSnr snr).isSome

/-- The fields have a satellite with a positive number before one at which there is an
exception. -/
def AddsSatellite : List Text → Prop
  | number :: elevation :: azimuth :: snr :: values =>
      ReadsSatellite number elevation azimuth snr ∧
        (0 < (parseInt number).getD 0 ∨ AddsSatellite values)
  | _ => False

/-- The fields of all satellites are read. -/
def ReadsSatellites : List Text → Prop
  | number :: elevation :: azimuth :: snr :: values =>
      ReadsSatellite number elevation azimuth snr ∧ ReadsSatellites values
  | _ => True

/-- There is a field, and it does not consist of zeros only. -/
def ReadsField (values : List Text) (index : Nat) : Prop :=
  ∃ field, values[index]? = some field ∧ ¬ Zeros field

/-- With these fields the function for a type sets something of its talker. -/
def Kind.Sets (values : List Text) : Kind → Prop
  | .rmc => values[2]? = some (ascii "A") ∧ 8 < values.length ∧ ReadsField values 7 ∧
      (values[3]? ≠ some [] → values[5]? ≠ some [] → ReadsField values 3 ∧ ReadsField values 5)
  | .gsa => True
  | .gga => ReadsField values 1 ∧ ReadsField values 2 ∧ ReadsField values 4 ∧ ReadsField values 9
  | .gsv => ∃ total number, values[1]?.bind parseInt = some total ∧
      values[2]?.bind parseInt = some number ∧
        (0 < total ∧ number = 1 ∨ AddsSatellite (values.drop 4))

/-- With these fields `parseGSV` sends a message. -/
def Sends (values : List Text) : Prop :=
  ReadsField values 1 ∧ ReadsField values 2 ∧ ReadsSatellites (values.drop 4) ∧
    values[1]? = values[2]?

namespace AddressedSentence

/-- No word that is sought before the talker or the type of the sentence is in its record. -/
structure WordsFirst (sentence : AddressedSentence) : Prop where
  talker : ∀ other ∈ mTalker.takeWhile (some · ≠ sentence.talker?),
    contains sentence.record other.text = false
  kind : ∀ other ∈ kinds.takeWhile (some · ≠ sentence.kind?),
    contains sentence.record other.text = false

/-- A type is the first one whose word is in the record. -/
def FirstKind (record : Text) (kind : Kind) : Prop :=
  contains record kind.text = true ∧
    ∀ other ∈ kinds.takeWhile (· ≠ kind), contains record other.text = false

/-- Neither the function for the type that is found nor that for the type of the sentence sets
anything, and both or none sends a message. -/
structure Harmless (sentence : AddressedSentence) : Prop where
  found : ∀ talker : Talker, contains sentence.record talker.text = true →
    ∀ kind, FirstKind sentence.record kind → ¬ kind.Sets (split sentence.record)
  meant : ∀ talker, sentence.talker? = some talker →
    ∀ kind, sentence.kind? = some kind → ¬ kind.Sets (split sentence.record)
  sends : Sends (split sentence.record) →
    ((∃ talker : Talker, contains sentence.record talker.text = true) ∧
        FirstKind sentence.record .gsv ↔
      (∃ talker, sentence.talker? = some talker) ∧ sentence.kind? = some .gsv)

end AddressedSentence

/-! ## Reading fields -/

theorem isSome_read {α : Type} (empty : α) (valueOf : Text → α) (text : Text) :
    (if text = [] then some empty else (removeFirstZero text).map valueOf).isSome = true ↔
      ¬ Zeros text := by
  by_cases isEmpty : text = []
  · simp [isEmpty, Zeros]
  · rw [if_neg isEmpty]
    by_cases zeros : Zeros text
    · simp [removeFirstZero_of_zeros zeros, zeros]
    · simp [removeFirstZero_of_not_zeros isEmpty zeros, zeros]

theorem isSome_parseInt (text : Text) : (parseInt text).isSome = true ↔ ¬ Zeros text :=
  isSome_read _ _ text

theorem isSome_parseDouble (text : Text) : (parseDouble text).isSome = true ↔ ¬ Zeros text :=
  isSome_read _ _ text

section Fields

variable {values : List Text}

/-- A function that reads a field reads it unless it consists of zeros. -/
theorem readsField_iff {α : Type} {parse : Text → Option α}
    (reads : ∀ text, (parse text).isSome = true ↔ ¬ Zeros text) (index : Nat) :
    ReadsField values index ↔ (values[index]?.bind parse).isSome = true := by
  rw [ReadsField]
  cases values[index]? with
  | none => simp
  | some field => simp [reads]

theorem length_of_readsField {index : Nat} (reads : ReadsField values index) :
    index < values.length := by
  obtain ⟨field, isField, -⟩ := reads
  exact (List.getElem?_eq_some_iff.mp isField).1

theorem isSome_rmcPosition (latitude latitudeDirection longitude longitudeDirection : Text) :
    (rmcPosition latitude latitudeDirection longitude longitudeDirection).isSome = true ↔
      (latitude ≠ [] → longitude ≠ [] → ¬ Zeros latitude ∧ ¬ Zeros longitude) := by
  rw [rmcPosition]
  simp only [List.length_pos_iff]
  split
  case isTrue both =>
    simp only [both.1, both.2, ne_eq, not_false_eq_true, true_implies, ← isSome_parseDouble]
    cases parseDouble longitude with
    | none => simp
    | some east =>
        cases parseDouble latitude with
        | none => simp
        | some north => simp
  case isFalse empty =>
    simp only [Option.isSome_some, true_iff]
    exact fun inLatitude inLongitude => absurd ⟨inLongitude, inLatitude⟩ empty

theorem isSome_readRMC : (readRMC values).isSome = true ↔ Kind.rmc.Sets values := by
  have position (latitude latitudeDirection longitude longitudeDirection : Text)
      (isLatitude : values[3]? = some latitude) (isLongitude : values[5]? = some longitude) :
      (rmcPosition latitude latitudeDirection longitude longitudeDirection).isSome = true ↔
        (values[3]? ≠ some [] → values[5]? ≠ some [] →
          ReadsField values 3 ∧ ReadsField values 5) := by
    simp [isSome_rmcPosition, ReadsField, isLatitude, isLongitude]
  rw [Kind.Sets, readsField_iff isSome_parseDouble]
  simp only [readRMC, Option.isSome_iff_exists, Option.bind_eq_bind, Option.bind_eq_some_iff]
  constructor
  · rintro ⟨update, warning, isWarning, latitude, isLatitude, latitudeDirection, -, longitude,
      isLongitude, longitudeDirection, -, groundSpeed, ⟨speedText, isSpeed, read⟩, courseString,
      isCourse, place, isPosition, valid⟩
    split at valid
    case isFalse => cases valid
    case isTrue isA =>
      refine ⟨isWarning.trans (congrArg some isA), (List.getElem?_eq_some_iff.mp isCourse).1,
        ⟨groundSpeed, speedText, isSpeed, read⟩, ?_⟩
      rw [← position latitude latitudeDirection longitude longitudeDirection isLatitude
          isLongitude,
        isPosition]
      rfl
  · rintro ⟨isWarning, long, ⟨groundSpeed, speed⟩, reads⟩
    have field {index : Nat} (within : index ≤ 8) :
        values[index]? = some (values.getD index []) := by
      rw [List.getD_eq_getElem?_getD,
        List.getElem?_eq_getElem (Nat.lt_of_le_of_lt within long)]
      rfl
    rw [← position _ (values.getD 4 []) _ (values.getD 6 []) (field (by decide))
      (field (by decide)), Option.isSome_iff_exists] at reads
    obtain ⟨place, isPosition⟩ := reads
    exact ⟨_, _, isWarning, _, field (by decide), _, field (by decide), _, field (by decide), _,
      field (by decide), groundSpeed, speed, _, field (by decide), place, isPosition, if_pos rfl⟩

theorem isSome_readGGA : (readGGA values).isSome = true ↔ Kind.gga.Sets values := by
  rw [Kind.Sets]
  constructor
  · intro reads
    simp only [readGGA, Option.isSome_iff_exists, Option.bind_eq_bind,
      Option.bind_eq_some_iff] at reads
    simp only [readsField_iff isSome_parseDouble, Option.isSome_iff_exists,
      Option.bind_eq_some_iff]
    obtain ⟨update, utcTime, isTime, lat, isLat, longt, isLongt, alti, isAlti, -⟩ := reads
    exact ⟨⟨utcTime, isTime⟩, ⟨lat, isLat⟩, ⟨longt, isLongt⟩, ⟨alti, isAlti⟩⟩
  · rintro ⟨utcTime, lat, longt, alti⟩
    have long := length_of_readsField alti
    rw [readsField_iff isSome_parseDouble, Option.isSome_iff_exists] at utcTime lat longt alti
    obtain ⟨utcTime, isTime⟩ := utcTime
    obtain ⟨lat, isLat⟩ := lat
    obtain ⟨longt, isLongt⟩ := longt
    obtain ⟨alti, isAlti⟩ := alti
    have latDirection := List.getElem?_eq_getElem (show 3 < values.length by omega)
    have longtDirection := List.getElem?_eq_getElem (show 5 < values.length by omega)
    simp only [readGGA, isTime, isLat, isLongt, isAlti, latDirection, longtDirection,
      Option.bind_eq_bind, Option.bind_some, Option.isSome_some]

end Fields

/-! ### Satellites -/

section Satellites

variable (parser : NmeaParser)

theorem isSome_readSatellite (number elevation azimuth snr : Text) :
    (parser.readSatellite number elevation azimuth snr).isSome = true ↔
      ReadsSatellite number elevation azimuth snr := by
  rw [NmeaParser.readSatellite, ReadsSatellite]
  cases parseInt number with
  | none => simp
  | some satelliteNumber =>
      cases parseFloat elevation with
      | none => simp
      | some mElevation =>
          cases parseFloat azimuth with
          | none => simp
          | some mAzimuth =>
              cases parseSnr snr with
              | none => simp
              | some mSnr => simp

theorem readSatellite_ne_nil_iff {number elevation azimuth snr : Text} {added : List SatelliteInfo}
    (read : parser.readSatellite number elevation azimuth snr = some added) :
    added ≠ [] ↔ 0 < (parseInt number).getD 0 := by
  simp only [NmeaParser.readSatellite, Option.bind_eq_bind, Option.bind_eq_some_iff,
    Option.some.injEq] at read
  obtain ⟨satelliteNumber, isNumber, _, -, _, -, _, -, rfl⟩ := read
  rw [isNumber, Option.getD_some]
  split
  case isTrue positive => simp [positive]
  case isFalse notPositive => simp [notPositive]

theorem readSatellites_ne_nil_iff (values : List Text) :
    (parser.readSatellites values).1 ≠ [] ↔ AddsSatellite values := by
  induction values using AddsSatellite.induct with
  | case1 number elevation azimuth snr values ih =>
      have reads := isSome_readSatellite parser number elevation azimuth snr
      rw [NmeaParser.readSatellites, AddsSatellite, ← reads, ← ih]
      cases read : parser.readSatellite number elevation azimuth snr with
      | none => simp
      | some added => simp [← readSatellite_ne_nil_iff parser read, or_iff_not_imp_left]
  | case2 values short => simp [NmeaParser.readSatellites, AddsSatellite]

theorem readSatellites_finished_iff (values : List Text) :
    (parser.readSatellites values).2 = true ↔ ReadsSatellites values := by
  induction values using AddsSatellite.induct with
  | case1 number elevation azimuth snr values ih =>
      have reads := isSome_readSatellite parser number elevation azimuth snr
      rw [NmeaParser.readSatellites, ReadsSatellites, ← reads, ← ih]
      cases parser.readSatellite number elevation azimuth snr with
      | none => simp
      | some added => simp
  | case2 values short => simp [NmeaParser.readSatellites, ReadsSatellites]

/-- The satellites that are listed do not matter for those that are read. -/
theorem readSatellites_setSatellites (talker : Talker) (satellites : List SatelliteInfo)
    (values : List Text) :
    (parser.setSatellites talker satellites).readSatellites values =
      parser.readSatellites values := by
  induction values using AddsSatellite.induct with
  | case1 number elevation azimuth snr values ih =>
      rw [NmeaParser.readSatellites, NmeaParser.readSatellites, ih]
      rfl
  | case2 values short => simp [NmeaParser.readSatellites]

end Satellites

/-! ## What the functions change -/

theorem SameRecord.refl (talker : Talker) (parser : LocatingParser) :
    SameRecord talker parser parser :=
  ⟨⟨rfl, rfl, rfl⟩, rfl⟩

theorem SameRecord.symm {talker : Talker} {parser other : LocatingParser}
    (same : SameRecord talker parser other) : SameRecord talker other parser :=
  ⟨⟨same.lists.satellites.symm, same.lists.usedFixIds.symm, same.lists.extra.symm⟩,
    same.location.symm⟩

theorem SameRecord.trans {talker : Talker} {parser middle other : LocatingParser}
    (first : SameRecord talker parser middle) (second : SameRecord talker middle other) :
    SameRecord talker parser other :=
  ⟨⟨first.lists.satellites.trans second.lists.satellites,
    first.lists.usedFixIds.trans second.lists.usedFixIds,
    first.lists.extra.trans second.lists.extra⟩, first.location.trans second.location⟩

section ParseGSV

variable {parser : NmeaParser} {record : Text}

/-- Without a talker, or when one of its numbers is not read, `parseGSV` does nothing. -/
theorem parseGSV_cases (parser : NmeaParser) (record : Text) :
    (parser.parseGSV record = (parser, []) ∧
      (parser.mCurrentTalker ≠ none →
        ¬ (ReadsField (split record) 1 ∧ ReadsField (split record) 2))) ∨
    ∃ talker total number, parser.mCurrentTalker = some talker ∧
      (split record)[1]?.bind parseInt = some total ∧
      (split record)[2]?.bind parseInt = some number ∧
      parser.parseGSV record =
        (parser.setSatellites talker
          ((if 0 < total ∧ number = 1 then [] else parser.mSatelInfoList talker) ++
            (parser.readSatellites ((split record).drop 4)).1),
          if (parser.readSatellites ((split record).drop 4)).2 = true ∧
            (split record)[1]? = (split record)[2]? then [.svUpdate] else []) := by
  rw [readsField_iff isSome_parseInt, readsField_iff isSome_parseInt]
  unfold NmeaParser.parseGSV
  cases current : parser.mCurrentTalker with
  | none => exact .inl ⟨rfl, fun known => absurd rfl known⟩
  | some talker =>
      cases isTotal : (split record)[1]?.bind parseInt with
      | none => exact .inl ⟨by simp only [isTotal], by simp⟩
      | some total =>
          cases isNumber : (split record)[2]?.bind parseInt with
          | none => exact .inl ⟨by simp only [isTotal, isNumber], by simp⟩
          | some number =>
              refine .inr ⟨talker, total, number, rfl, rfl, rfl, ?_⟩
              simp only [isTotal, isNumber]

end ParseGSV

namespace LocatingParser

variable {parser : LocatingParser} {record : Text} {talker : Talker}

theorem relocate_location_of_ne (update : Option (Location → Location))
    (apart : parser.mCurrentTalker ≠ some talker) :
    (parser.relocate update).mLocRecord talker = parser.mLocRecord talker := by
  unfold relocate
  split
  case h_1 found update current =>
    apply Function.update_of_ne
    rintro rfl
    exact apart current
  case h_2 => rfl

/-- A function changes nothing of another talker. -/
theorem act_others (apart : parser.mCurrentTalker ≠ some talker) (record : Text)
    (kind : Option Kind) : SameRecord talker (parser.act record kind).1 parser := by
  rcases kind with _ | _ | _ | _ | _
  · exact .refl talker parser
  · refine ⟨?_, relocate_location_of_ne _ apart⟩
    rw [act, parseRMC, relocate_lists]
    exact ⟨rfl, rfl, rfl⟩
  · refine ⟨?_, rfl⟩
    cases current : parser.mCurrentTalker with
    | none =>
        have cleared : parser.toNmeaParser.parseGSA record = parser.clearUsedFixList := by
          rw [NmeaParser.parseGSA, current]
        rw [act, parseGSA, cleared]
        exact ⟨rfl, by simp [NmeaParser.clearUsedFixList, current], rfl⟩
    | some other =>
        have different : talker ≠ other := by
          rintro rfl
          exact apart current
        obtain ⟨satellites, ids, extra, isExtra⟩ := NmeaParser.parseGSA_spec current record
        refine ⟨?_, ?_, ?_⟩
        · exact (congrFun satellites talker).trans (Function.update_of_ne different _ _)
        · exact (congrFun ids (some talker)).trans
            (Function.update_of_ne (fun same => different (Option.some.inj same)) _ _)
        · exact (congrFun isExtra talker).trans (Function.update_of_ne different _ _)
  · refine ⟨?_, relocate_location_of_ne _ apart⟩
    rw [act, parseGGA, relocate_lists]
    exact ⟨rfl, rfl, rfl⟩
  · refine ⟨?_, rfl⟩
    rw [act, parseGSV]
    rcases parseGSV_cases parser.toNmeaParser record with ⟨nothing, -⟩ |
      ⟨other, total, number, current, -, -, sets⟩
    · rw [nothing]
      exact ⟨rfl, rfl, rfl⟩
    · have different : talker ≠ other := by
        rintro rfl
        exact apart current
      rw [sets]
      exact ⟨Function.update_of_ne different _ _, rfl, rfl⟩

/-- Where it sets nothing of its talker, a function changes nothing. -/
theorem act_of_not_sets {kind : Kind} (sets : ¬ kind.Sets (split record)) (talker : Talker) :
    SameRecord talker (parser.act record (some kind)).1 parser := by
  have unset {update : Option (Location → Location)} (notSet : ¬ update.isSome = true) :
      parser.relocate update = parser := by
    rw [Bool.not_eq_true, Option.isSome_eq_false_iff, Option.isNone_iff_eq_none] at notSet
    rw [notSet]
    unfold relocate
    split
    case h_1 isSome => cases isSome
    case h_2 => rfl
  cases kind with
  | rmc =>
      rw [act, parseRMC, unset (isSome_readRMC.not.mpr sets)]
      exact .refl talker parser
  | gsa => exact absurd trivial sets
  | gga =>
      rw [act, parseGGA, unset (isSome_readGGA.not.mpr sets)]
      exact .refl talker parser
  | gsv =>
      rw [act, parseGSV]
      rcases parseGSV_cases parser.toNmeaParser record with ⟨nothing, -⟩ |
        ⟨other, total, number, -, isTotal, isNumber, result⟩
      · rw [nothing]
        exact .refl talker parser
      · have neither : ¬ (0 < total ∧ number = 1 ∨ AddsSatellite ((split record).drop 4)) :=
          fun either => sets ⟨total, number, isTotal, isNumber, either⟩
        rw [not_or, ← readSatellites_ne_nil_iff parser.toNmeaParser, not_not] at neither
        rw [result, if_neg neither.1, neither.2, List.append_nil, NmeaParser.setSatellites,
          Function.update_eq_self]
        exact .refl talker parser

/-- `parseGSV` sends a message when it has a talker and reads all its fields. -/
theorem act_messages (parser : LocatingParser) (record : Text) (kind : Option Kind) :
    (parser.act record kind).2 = [.svUpdate] ∧
        (parser.mCurrentTalker ≠ none ∧ kind = some .gsv ∧ Sends (split record)) ∨
      (parser.act record kind).2 = [] ∧
        ¬ (parser.mCurrentTalker ≠ none ∧ kind = some .gsv ∧ Sends (split record)) := by
  by_cases isGsv : kind = some .gsv
  · subst isGsv
    rw [act, parseGSV, Sends, ← readSatellites_finished_iff parser.toNmeaParser]
    rcases parseGSV_cases parser.toNmeaParser record with ⟨nothing, unread⟩ |
      ⟨talker, total, number, current, isTotal, isNumber, result⟩
    · rw [nothing]
      exact .inr ⟨rfl, fun ⟨known, _, first, second, _⟩ => unread known ⟨first, second⟩⟩
    · have first : ReadsField (split record) 1 := by
        rw [readsField_iff isSome_parseInt, isTotal]
        rfl
      have second : ReadsField (split record) 2 := by
        rw [readsField_iff isSome_parseInt, isNumber]
        rfl
      rw [result]
      simp only [current, first, second, true_and, ne_eq, reduceCtorEq, not_false_eq_true]
      split
      case isTrue all => exact .inl ⟨rfl, all⟩
      case isFalse notAll => exact .inr ⟨rfl, notAll⟩
  · refine .inr ⟨?_, fun both => isGsv both.2.1⟩
    rcases kind with _ | _ | _ | _ | _
    · rfl
    · rfl
    · rfl
    · rfl
    · exact absurd rfl isGsv

end LocatingParser

namespace LocatingParser

theorem withTalker_same (parser : LocatingParser) (found : Option Talker) (talker : Talker) :
    SameRecord talker (parser.withTalker found) parser :=
  ⟨⟨rfl, rfl, rfl⟩, rfl⟩

/-- Without a talker, and where it sets nothing, the function for a type changes nothing. -/
theorem act_idle {record : Text} {found : Option Talker} {acting : Option Kind}
    (idle : ∀ talker, found = some talker → ∀ kind, acting = some kind →
      ¬ kind.Sets (split record))
    (parser : LocatingParser) (talker : Talker) :
    SameRecord talker ((parser.withTalker found).act record acting).1 parser := by
  refine SameRecord.trans ?_ (parser.withTalker_same found talker)
  cases found with
  | none => exact act_others (Option.some_ne_none talker).symm record acting
  | some known =>
      cases acting with
      | none => exact .refl _ _
      | some kind => exact act_of_not_sets (idle known rfl kind rfl) talker

theorem act_messages_eq_iff (parser other : LocatingParser) (record : Text)
    (kind otherKind : Option Kind) :
    (parser.act record kind).2 = (other.act record otherKind).2 ↔
      (parser.mCurrentTalker ≠ none ∧ kind = some .gsv ∧ Sends (split record) ↔
        other.mCurrentTalker ≠ none ∧ otherKind = some .gsv ∧ Sends (split record)) := by
  rcases act_messages parser record kind with ⟨sent, does⟩ | ⟨sent, doesNot⟩
  · rcases act_messages other record otherKind with ⟨otherSent, otherDoes⟩ | ⟨otherSent, otherNot⟩
    · exact iff_of_true (sent.trans otherSent.symm) (iff_of_true does otherDoes)
    · rw [sent, otherSent]
      exact iff_of_false nofun fun both => otherNot (both.mp does)
  · rcases act_messages other record otherKind with ⟨otherSent, otherDoes⟩ | ⟨otherSent, otherNot⟩
    · rw [sent, otherSent]
      exact iff_of_false nofun fun both => doesNot (both.mpr otherDoes)
    · exact iff_of_true (sent.trans otherSent.symm) (iff_of_false doesNot otherNot)

end LocatingParser

/-! ### What only one function changes -/

/-- RMC sentences set bearings, GGA sentences times. -/
theorem readRMC_update {values : List Text} {update : Location → Location}
    (read : readRMC values = some update) :
    (∃ bearing, ∀ location, (update location).bearing = bearing) ∧
      ∀ location, (update location).time = location.time := by
  simp only [readRMC, Option.bind_eq_bind, Option.bind_eq_some_iff] at read
  obtain ⟨_, -, _, -, _, -, _, -, _, -, _, -, courseString, -, _, -, set⟩ := read
  split at set
  case isFalse => cases set
  case isTrue =>
    cases set
    exact ⟨⟨rmcCourse courseString, fun _ => rfl⟩, fun _ => rfl⟩

theorem readGGA_update {values : List Text} {update : Location → Location}
    (read : readGGA values = some update) :
    (∃ time, ∀ location, (update location).time = time) ∧
      ∀ location, (update location).bearing = location.bearing := by
  simp only [readGGA, Option.bind_eq_bind, Option.bind_eq_some_iff] at read
  obtain ⟨utcTime, -, _, -, _, -, _, -, _, -, _, -, set⟩ := read
  cases set
  exact ⟨⟨longValue utcTime, fun _ => rfl⟩, fun _ => rfl⟩

/-- Two parsers agree on what only the function for a type changes. -/
def SameMark (talker : Talker) (parser other : LocatingParser) : Kind → Prop
  | .rmc => (parser.mLocRecord talker).bearing = (other.mLocRecord talker).bearing
  | .gsa => parser.mUsedFixIdMapList (some talker) = other.mUsedFixIdMapList (some talker)
  | .gga => (parser.mLocRecord talker).time = (other.mLocRecord talker).time
  | .gsv => (parser.mSatelInfoList talker).length = (other.mSatelInfoList talker).length

theorem SameRecord.mark {talker : Talker} {parser other : LocatingParser}
    (same : SameRecord talker parser other) (kind : Kind) : SameMark talker parser other kind := by
  cases kind with
  | rmc => exact congrArg Location.bearing same.location
  | gsa => exact same.lists.usedFixIds
  | gga => exact congrArg Location.time same.location
  | gsv => exact congrArg List.length same.lists.satellites

theorem SameMark.trans {talker : Talker} {parser middle other : LocatingParser} {kind : Kind}
    (first : SameMark talker parser middle kind) (second : SameMark talker middle other kind) :
    SameMark talker parser other kind := by
  cases kind with
  | rmc => exact Eq.trans first second
  | gsa => exact Eq.trans first second
  | gga => exact Eq.trans first second
  | gsv => exact Eq.trans first second

namespace LocatingParser

variable {parser : LocatingParser} {record : Text} {talker : Talker}

theorem relocate_location (current : parser.mCurrentTalker = some talker)
    (set : Location → Location) :
    (parser.relocate (some set)).mLocRecord talker = set (parser.mLocRecord talker) := by
  simp only [relocate, current]
  exact Function.update_self _ _ _

/-- What an update keeps of every location is kept. -/
theorem relocate_keeps {α : Type} {field : Location → α} {update : Option (Location → Location)}
    (keeps : ∀ set, update = some set → ∀ location, field (set location) = field location) :
    field ((parser.relocate update).mLocRecord talker) = field (parser.mLocRecord talker) := by
  unfold relocate
  split
  case h_1 found set current =>
    by_cases same : talker = found
    · subst same
      exact (congrArg field (Function.update_self _ _ _)).trans (keeps set rfl _)
    · exact congrArg field (Function.update_of_ne same _ _)
  case h_2 => rfl

/-- The function for another type, or for another talker, does not change the mark of a type. -/
theorem act_mark {kind : Kind} {acting : Option Kind}
    (apart : ¬ (acting = some kind ∧ parser.mCurrentTalker = some talker)) (record : Text) :
    SameMark talker (parser.act record acting).1 parser kind := by
  by_cases current : parser.mCurrentTalker = some talker
  · have other : acting ≠ some kind := fun same => apart ⟨same, current⟩
    rcases acting with _ | _ | _ | _ | _
    · exact (SameRecord.refl talker parser).mark kind
    · cases kind with
      | rmc => exact absurd rfl other
      | gga => exact relocate_keeps fun set read => (readRMC_update read).2
      | gsa | gsv =>
          rw [act, parseRMC, SameMark, relocate_lists]
    · obtain ⟨satellites, -, -⟩ := NmeaParser.parseGSA_spec current record
      cases kind with
      | gsa => exact absurd rfl other
      | rmc | gga => rfl
      | gsv =>
          refine (congrArg List.length (congrFun satellites talker)).trans ?_
          rw [Function.update_self, List.length_map]
    · cases kind with
      | gga => exact absurd rfl other
      | rmc => exact relocate_keeps fun set read => (readGGA_update read).2
      | gsa | gsv =>
          rw [act, parseGGA, SameMark, relocate_lists]
    · cases kind with
      | gsv => exact absurd rfl other
      | rmc | gga => rfl
      | gsa =>
          rw [act, parseGSV, SameMark]
          rcases parseGSV_cases parser.toNmeaParser record with ⟨nothing, -⟩ |
            ⟨_, _, _, -, -, -, result⟩
          · rw [nothing]
          · rw [result]
            rfl
  · exact (act_others current record acting).mark kind

/-- A function that sets something of its talker changes its mark from some state. -/
theorem exists_mark_of_sets {kind : Kind} (sets : kind.Sets (split record)) (talker : Talker) :
    ∃ parser : LocatingParser, parser.mCurrentTalker = some talker ∧
      ¬ SameMark talker (parser.act record (some kind)).1 parser kind := by
  cases kind with
  | rmc =>
      obtain ⟨set, read⟩ := Option.isSome_iff_exists.mp (isSome_readRMC.mpr sets)
      obtain ⟨⟨bearing, isBearing⟩, -⟩ := readRMC_update read
      let before : LocatingParser := { new.withTalker (some talker) with
        mLocRecord := fun _ => ⟨0, .zero, .zero, .zero, bearing + 1, .zero⟩ }
      have current : before.mCurrentTalker = some talker := rfl
      refine ⟨before, current, ?_⟩
      rw [act, parseRMC, SameMark, read, relocate_location current, isBearing]
      exact fun same => absurd same (Int.ne_of_lt (Int.lt_succ bearing))
  | gsa =>
      let before : LocatingParser := { new.withTalker (some talker) with
        mUsedFixIdMapList := fun _ => 0 :: NmeaParser.gsaIds (split record) }
      have current : before.mCurrentTalker = some talker := rfl
      obtain ⟨-, ids, -⟩ := NmeaParser.parseGSA_spec current record
      refine ⟨before, current, fun same => ?_⟩
      have kept : NmeaParser.gsaIds (split record) = 0 :: NmeaParser.gsaIds (split record) :=
        ((congrFun ids (some talker)).trans (Function.update_self _ _ _)).symm.trans same
      exact absurd kept (List.ne_cons_self)
  | gga =>
      obtain ⟨set, read⟩ := Option.isSome_iff_exists.mp (isSome_readGGA.mpr sets)
      obtain ⟨⟨time, isTime⟩, -⟩ := readGGA_update read
      let before : LocatingParser := { new.withTalker (some talker) with
        mLocRecord := fun _ => ⟨time + 1, .zero, .zero, .zero, 0, .zero⟩ }
      have current : before.mCurrentTalker = some talker := rfl
      refine ⟨before, current, ?_⟩
      rw [act, parseGGA, SameMark, read, relocate_location current, isTime]
      exact fun same => absurd same (Int.ne_of_lt (Int.lt_succ time))
  | gsv =>
      let base := new.withTalker (some talker)
      let added := (base.readSatellites ((split record).drop 4)).1
      -- There is one satellite more than the sentence adds.
      let before : LocatingParser := { base with
        toNmeaParser := base.setSatellites talker
          (List.replicate (added.length + 1) ⟨0, .zero, .zero, .zero, false, 0⟩) }
      have listed : before.mSatelInfoList talker =
          List.replicate (added.length + 1) ⟨0, .zero, .zero, .zero, false, 0⟩ :=
        Function.update_self _ _ _
      have current : before.mCurrentTalker = some talker := rfl
      refine ⟨before, current, fun same => ?_⟩
      obtain ⟨total, number, isTotal, isNumber, either⟩ := sets
      rcases parseGSV_cases before.toNmeaParser record with ⟨-, unread⟩ |
        ⟨other, total', number', isOther, isTotal', isNumber', result⟩
      · refine unread (by rw [current]; exact nofun) ⟨?_, ?_⟩
        · rw [readsField_iff isSome_parseInt, isTotal]
          rfl
        · rw [readsField_iff isSome_parseInt, isNumber]
          rfl
      · cases isTotal.symm.trans isTotal'
        cases isNumber.symm.trans isNumber'
        cases current.symm.trans isOther
        have read : (before.readSatellites ((split record).drop 4)).1 = added :=
          congrArg Prod.fst (readSatellites_setSatellites base.toNmeaParser talker _ _)
        rw [act, parseGSV, SameMark, result, listed, List.length_replicate, read] at same
        replace same := (congrArg List.length (Function.update_self talker _ _)).symm.trans same
        rw [List.length_append] at same
        split at same
        case isTrue begins =>
          rw [List.length_nil] at same
          omega
        case isFalse continues =>
          have adds := (readSatellites_ne_nil_iff base.toNmeaParser _).mpr
            (either.resolve_left continues)
          have some_added : 0 < added.length := List.length_pos_of_ne_nil adds
          rw [List.length_replicate] at same
          omega

/-- A function that always has the result of another one, or of one for another talker, sets
nothing. -/
theorem not_sets_of_same {kind : Kind} {acting : Option Kind} {found : Option Talker}
    (apart : ¬ (acting = some kind ∧ found = some talker))
    (same : ∀ parser : LocatingParser,
      SameRecord talker ((parser.withTalker (some talker)).act record (some kind)).1
        ((parser.withTalker found).act record acting).1) :
    ¬ kind.Sets (split record) := by
  intro sets
  obtain ⟨parser, current, changed⟩ := exists_mark_of_sets sets talker
  apply changed
  have whole : parser.withTalker (some talker) = parser := by
    rw [withTalker, ← current]
  have result := (same parser).mark kind
  rw [whole] at result
  have kept := (act_mark apart record).trans ((parser.withTalker_same found talker).mark kind)
  exact result.trans kept

end LocatingParser

/-! ## The first words of a record -/

/-- What a search finds is the value sought, which is itself in the list, exactly when it finds
nothing in front of it. -/
theorem find?_eq_iff {α : Type} [DecidableEq α] {found : α → Bool} {items : List α}
    {sought : Option α}
    (isFound : ∀ item, sought = some item → item ∈ items ∧ found item = true) :
    items.find? found = sought ↔
      ∀ other ∈ items.takeWhile (some · ≠ sought), found other = false := by
  induction items with
  | nil =>
      cases sought with
      | none => simp
      | some item => exact absurd (isFound item rfl).1 List.not_mem_nil
  | cons first items ih =>
      by_cases here : found first = true
      · rw [List.find?_cons_of_pos here]
        by_cases same : some first = sought
        · simp [same]
        · simp [same, here]
      · have other : some first ≠ sought := by
          rintro rfl
          exact here (isFound first rfl).2
        have inRest (item : α) (isSought : sought = some item) :
            item ∈ items ∧ found item = true := by
          obtain ⟨member, holds⟩ := isFound item isSought
          refine ⟨(List.mem_cons.mp member).resolve_left ?_, holds⟩
          rintro rfl
          exact other isSought.symm
        rw [List.find?_cons_of_neg here, ih inRest]
        simp [other, here]

namespace AddressedSentence

variable (sentence : AddressedSentence)

theorem text_of_talker? {talker : Talker} (known : sentence.talker? = some talker) :
    talker ∈ mTalker ∧ contains sentence.record talker.text = true := by
  rw [talker?] at known
  have found := List.find?_some known
  have isText : talker.text = sentence.talker := of_decide_eq_true found
  refine ⟨List.mem_of_find?_eq_some known, ?_⟩
  rw [contains, decide_eq_true_iff, isText, record]
  exact ⟨ascii "$",
    sentence.kind ++ sentence.body.flatMap (comma :: ·) ++ star :: sentence.checksum, by simp⟩

theorem text_of_kind? {kind : Kind} (known : sentence.kind? = some kind) :
    kind ∈ kinds ∧ contains sentence.record kind.text = true := by
  rw [kind?] at known
  have found := List.find?_some known
  have isText : kind.text = sentence.kind := of_decide_eq_true found
  refine ⟨List.mem_of_find?_eq_some known, ?_⟩
  rw [contains, decide_eq_true_iff, isText, record]
  exact ⟨ascii "$" ++ sentence.talker,
    sentence.body.flatMap (comma :: ·) ++ star :: sentence.checksum, by simp⟩

theorem checkTalker_eq_iff : checkTalker sentence.record = sentence.talker? ↔
    ∀ other ∈ mTalker.takeWhile (some · ≠ sentence.talker?),
      contains sentence.record other.text = false :=
  find?_eq_iff fun _ known => sentence.text_of_talker? known

theorem find?_kinds_eq_iff :
    (kinds.find? fun kind => contains sentence.record kind.text) = sentence.kind? ↔
      ∀ other ∈ kinds.takeWhile (some · ≠ sentence.kind?),
        contains sentence.record other.text = false :=
  find?_eq_iff fun _ known => sentence.text_of_kind? known

end AddressedSentence

theorem mem_kinds (kind : Kind) : kind ∈ kinds := by
  cases kind with
  | rmc | gsa | gga | gsv => decide

theorem mem_mTalker (talker : Talker) : talker ∈ mTalker := by
  cases talker with
  | gp | gl | ga | bd => decide

theorem find?_kinds_eq_some_iff {record : Text} {kind : Kind} :
    (kinds.find? fun kind => contains record kind.text) = some kind ↔
      AddressedSentence.FirstKind record kind := by
  rw [AddressedSentence.FirstKind]
  by_cases inRecord : contains record kind.text = true
  · have isFound (item : Kind) (same : some kind = some item) :
        item ∈ kinds ∧ contains record item.text = true := by
      cases same
      exact ⟨mem_kinds kind, inRecord⟩
    rw [find?_eq_iff isFound]
    simp [inRecord]
  · refine iff_of_false (fun found => inRecord ?_) fun first => inRecord first.1
    have holds := List.find?_some found
    exact holds

theorem checkTalker_ne_none_iff {record : Text} :
    checkTalker record ≠ none ↔ ∃ talker : Talker, contains record talker.text = true := by
  rw [checkTalker, ne_eq, List.find?_eq_none]
  push Not
  exact exists_congr fun talker => and_iff_right (mem_mTalker talker)

/-! ## Attribution of every sentence -/

section Attribution

open AddressedSentence

variable {sentence : AddressedSentence}

theorem wordsFirst_iff (sentence : AddressedSentence) : sentence.WordsFirst ↔
    (kinds.find? fun kind => contains sentence.record kind.text) = sentence.kind? ∧
      checkTalker sentence.record = sentence.talker? := by
  rw [sentence.find?_kinds_eq_iff, sentence.checkTalker_eq_iff]
  exact ⟨fun words => ⟨words.kind, words.talker⟩, fun words => ⟨words.2, words.1⟩⟩

theorem attributes_of_wordsFirst (first : sentence.WordsFirst) (parser : LocatingParser) :
    Attributes sentence parser := by
  obtain ⟨kind, talker⟩ := (wordsFirst_iff sentence).mp first
  have same : parser.parse sentence.record = sentence.act parser := by
    rw [parser.parse_eq, kind, talker, AddressedSentence.act]
  refine ⟨fun talker => same ▸ .refl talker _, congrArg Prod.snd same, fun talker apart => ?_⟩
  rw [same]
  exact (LocatingParser.act_others apart _ _).trans (parser.withTalker_same _ talker)

/-- The function that is found sets nothing of its talker. -/
theorem idle_of_harmless (harmless : sentence.Harmless) (talker : Talker)
    (isFound : checkTalker sentence.record = some talker) (kind : Kind)
    (isActing : (kinds.find? fun kind => contains sentence.record kind.text) = some kind) :
    ¬ kind.Sets (split sentence.record) := by
  have found : checkTalker sentence.record ≠ none := by
    rw [isFound]
    exact Option.some_ne_none talker
  obtain ⟨word, inRecord⟩ := checkTalker_ne_none_iff.mp found
  exact harmless.found word inRecord kind (find?_kinds_eq_some_iff.mp isActing)

theorem attributes_of_harmless (harmless : sentence.Harmless) (parser : LocatingParser) :
    Attributes sentence parser := by
  have found (talker : Talker) :
      SameRecord talker (parser.parse sentence.record).1 parser := by
    rw [parser.parse_eq]
    exact LocatingParser.act_idle (idle_of_harmless harmless) parser talker
  refine ⟨fun talker => ?_, ?_, fun talker _ => found talker⟩
  · exact (found talker).trans (LocatingParser.act_idle harmless.meant parser talker).symm
  · rw [parser.parse_eq, AddressedSentence.act, LocatingParser.act_messages_eq_iff]
    by_cases sends : Sends (split sentence.record)
    · have both := harmless.sends sends
      rw [← checkTalker_ne_none_iff, ← find?_kinds_eq_some_iff, ← Option.ne_none_iff_exists']
        at both
      simp only [sends, and_true]
      exact both
    · simp [sends]

/-- If another function is found than that of the sentence, or another talker, neither sets
anything. -/
theorem harmless_of_attributes (attributes : ∀ parser, Attributes sentence parser)
    (other : ¬ sentence.WordsFirst) : sentence.Harmless := by
  have apart : ¬ ((kinds.find? fun kind => contains sentence.record kind.text) = sentence.kind? ∧
      checkTalker sentence.record = sentence.talker?) :=
    fun same => other ((wordsFirst_iff sentence).mpr same)
  have acts (parser : LocatingParser) (talker : Talker) := (attributes parser).acts talker
  simp only [LocatingParser.parse_eq, AddressedSentence.act] at acts
  constructor
  · intro talker inRecord kind isFirst
    obtain ⟨seen, isSeen⟩ :=
      Option.ne_none_iff_exists'.mp (checkTalker_ne_none_iff.mpr ⟨talker, inRecord⟩)
    rw [← find?_kinds_eq_some_iff] at isFirst
    simp only [isSeen, isFirst] at acts apart
    exact LocatingParser.not_sets_of_same (fun same => apart ⟨same.1.symm, same.2.symm⟩)
      fun parser => acts parser seen
  · intro talker isTalker kind isKind
    simp only [isTalker, isKind] at acts apart
    exact LocatingParser.not_sets_of_same apart fun parser => (acts parser talker).symm
  · intro sends
    have messages := (attributes .new).sends
    rw [LocatingParser.parse_eq, AddressedSentence.act, LocatingParser.act_messages_eq_iff]
      at messages
    simp only [sends, and_true] at messages
    rw [← checkTalker_ne_none_iff, ← find?_kinds_eq_some_iff, ← Option.ne_none_iff_exists']
    exact messages

end Attribution

/-- From every state a sentence acts as its type says, on its talker and on no other, exactly when
no word that is sought before its own is in its record, or when nothing is set either way. -/
theorem attributes_iff (sentence : AddressedSentence) :
    (∀ parser : LocatingParser, Attributes sentence parser) ↔
      sentence.WordsFirst ∨ sentence.Harmless := by
  constructor
  · intro attributes
    rw [or_iff_not_imp_left]
    exact harmless_of_attributes attributes
  · rintro (first | harmless) parser
    · exact attributes_of_wordsFirst first parser
    · exact attributes_of_harmless harmless parser

def beidouBody : List Text :=
  [ascii "100", ascii "20", ascii "N", ascii "30", ascii "E", ascii "1", ascii "8", ascii "1",
    ascii "50"]

theorem comma_notMem_beidouBody : ∀ field ∈ beidouBody, comma ∉ field := by
  decide

theorem isLetter_beidou : ∀ byte ∈ ascii "BD", isLetter byte = true := by
  decide +kernel

/-- `$BDGGA` has the word of another talker across its own and its type. -/
def beidouFix : AddressedSentence where
  talker := ascii "BD"
  kind := ascii "GGA"
  body := beidouBody
  checksum := ascii "47"
  twoLetters := ⟨rfl, isLetter_beidou⟩
  fields := ⟨by decide, comma_notMem_beidouBody, by decide⟩

/-- The fix of a sentence from `BD` is kept for `GA`. -/
theorem attributes_beidouFix :
    ¬ ∀ (sentence : AddressedSentence) (parser : LocatingParser), Attributes sentence parser := by
  intro attributes
  have location := ((attributes beidouFix .new).others .ga (by decide)).location
  revert location
  decide +kernel

end X3Hal.Ygps
