import Mathlib.Data.List.Induction
import X3Hal.Gps.Parse

/-!
# What parsing keeps

The sentences about the position change the date and the fix and nothing else, GSA
sentences the fix mode and the satellites in use, and GSV sentences the satellites in view.
-/

namespace X3Hal.Gps

/-- A reader with its date and its fix left out. -/
def NmeaReader.apartFromFix (r : NmeaReader) : NmeaReader :=
  { r with utcYear := 0, utcMon := 0, utcDay := 0, fix := {} }

section Fix

variable (libc : LibcTime) (now : Int)

@[simp]
theorem apartFromFix_nmeaReaderUpdateTime (r : NmeaReader) (tok : Token) :
    (nmeaReaderUpdateTime libc now r tok).2.apartFromFix = r.apartFromFix := by
  unfold nmeaReaderUpdateTime
  split
  · rfl
  · dsimp only
    split
    · rfl
    · rfl

@[simp]
theorem apartFromFix_nmeaReaderUpdateDate (r : NmeaReader) (date time : Token) :
    (nmeaReaderUpdateDate libc now r date time).2.apartFromFix = r.apartFromFix := by
  unfold nmeaReaderUpdateDate
  split
  · rfl
  · dsimp only
    split
    · rfl
    · rw [apartFromFix_nmeaReaderUpdateTime]
      rfl

@[simp]
theorem apartFromFix_nmeaReaderUpdateLatlong (r : NmeaReader) (latitude longitude : Token)
    (latitudeHemi longitudeHemi : UInt8) :
    (nmeaReaderUpdateLatlong r latitude latitudeHemi longitude longitudeHemi).2.apartFromFix =
      r.apartFromFix := by
  unfold nmeaReaderUpdateLatlong
  split
  · rfl
  · split
    · rfl
    · rfl

@[simp]
theorem apartFromFix_updateFixField (r : NmeaReader) (tok : Token)
    (update : Real64 → GpsLocation → GpsLocation) :
    (updateFixField r tok update).2.apartFromFix = r.apartFromFix := by
  unfold updateFixField
  split
  · rfl
  · rfl

theorem apartFromFix_parseGga (tzer : NmeaTokenizer) (r : NmeaReader) :
    (parseGga libc now tzer r).apartFromFix = r.apartFromFix := by
  simp [parseGga, nmeaReaderUpdateAltitude]

theorem apartFromFix_parseRmc (tzer : NmeaTokenizer) (r : NmeaReader) :
    (parseRmc libc now tzer r).apartFromFix = r.apartFromFix := by
  unfold parseRmc
  split
  · simp [nmeaReaderUpdateSpeed, nmeaReaderUpdateBearing]
  · rfl

theorem apartFromFix_parseAccuracy (tzer : NmeaTokenizer) (r : NmeaReader) :
    (parseAccuracy tzer r).apartFromFix = r.apartFromFix := by
  unfold parseAccuracy
  split
  · simp [nmeaReaderUpdateAccuracy]
  · rfl

end Fix

theorem parseGsaGnss_eq (isBds : Bool) (tzer : NmeaTokenizer) (r : NmeaReader) :
    parseGsaGnss isBds tzer r =
      { r with
        fixMode := (parseGsaGnss isBds tzer r).fixMode
        svUsedInFix := (parseGsaGnss isBds tzer r).svUsedInFix } := by
  unfold parseGsaGnss
  dsimp only
  split
  · rfl
  · rfl

/-! ## Satellites in view -/

/-- A reader with its satellites in view left out. -/
def NmeaReader.apartFromSvs (r : NmeaReader) : NmeaReader :=
  { r with
    svCount := 0
    svStatusGps := ⟨0, fun _ => {}, 0, 0, 0⟩
    svStatusGnss := ⟨0, fun _ => {}⟩ }

/-- The output is about the tables of the satellites in view. -/
def ReaderOutput.AboutTables : ReaderOutput → Prop
  | .writeGnssSv _ | .writeGpsSv _ | .openSet | .countSet | .dropSets => True
  | _ => False

/-- A step changes the satellites in view and nothing else. -/
structure ChangesSvs (r : NmeaReader) (parsed : Parsed) : Prop where
  reader : parsed.1.apartFromSvs = r.apartFromSvs
  outputs : ∀ output ∈ parsed.2, output.AboutTables

theorem ChangesSvs.refl (r : NmeaReader) : ChangesSvs r (r, []) :=
  ⟨rfl, by simp⟩

theorem ChangesSvs.andThen {r : NmeaReader} {parsed : Parsed} (first : ChangesSvs r parsed)
    {next : NmeaReader → Parsed} (second : ∀ r, ChangesSvs r (next r)) :
    ChangesSvs r (parsed.andThen next) := by
  constructor
  · exact (second parsed.1).reader.trans first.reader
  · intro output shown
    rw [Parsed.andThen, List.mem_append] at shown
    rcases shown with early | late
    · exact first.outputs output early
    · exact (second parsed.1).outputs output late

section Gsv

variable (cfg : GpsConfig)

theorem changesSvs_nmeaReaderUpdateSvStatusGnss (prn : Int) (elevation azimuth snr : Token)
    (r : NmeaReader) :
    ChangesSvs r (nmeaReaderUpdateSvStatusGnss cfg prn elevation azimuth snr r) := by
  unfold nmeaReaderUpdateSvStatusGnss
  split
  · exact .refl r
  · dsimp only
    split
    · exact .refl r
    · exact ⟨rfl, by simp [ReaderOutput.AboutTables]⟩

theorem changesSvs_nmeaReaderUpdateSvStatusGps (prn : Int) (elevation azimuth snr : Token)
    (r : NmeaReader) :
    ChangesSvs r (nmeaReaderUpdateSvStatusGps cfg prn elevation azimuth snr r) := by
  unfold nmeaReaderUpdateSvStatusGps
  split
  · exact .refl r
  · dsimp only
    split
    · exact .refl r
    · exact ⟨rfl, by simp [ReaderOutput.AboutTables]⟩

theorem changesSvs_gsvSatellites {update : Int → Token → Token → Token → NmeaReader → Parsed}
    (changes : ∀ prn elevation azimuth snr r, ChangesSvs r (update prn elevation azimuth snr r))
    (isBds : Bool) (tzer : NmeaTokenizer) (count : Nat) (r : NmeaReader) :
    ChangesSvs r (gsvSatellites isBds tzer update count r) := by
  unfold gsvSatellites
  generalize List.range count = indices
  induction indices using List.reverseRecOn with
  | nil => exact .refl r
  | append_singleton indices idx ih =>
      rw [List.foldl_append]
      exact ih.andThen fun next => changes _ _ _ _ next

theorem changesSvs_gsvOpen (header : GsvHeader) (r : NmeaReader) :
    ChangesSvs r (gsvOpen header r) := by
  unfold gsvOpen
  split
  · exact ⟨rfl, by simp [ReaderOutput.AboutTables]⟩
  · exact .refl r

theorem changesSvs_gsvCloseGnss (header : GsvHeader) (r : NmeaReader) :
    ChangesSvs r (gsvCloseGnss header r) := by
  unfold gsvCloseGnss
  split
  · split
    · exact ⟨rfl, by simp [ReaderOutput.AboutTables]⟩
    · exact ⟨rfl, by simp [ReaderOutput.AboutTables]⟩
  · exact .refl r

theorem changesSvs_gsvCloseGps (header : GsvHeader) (r : NmeaReader) :
    ChangesSvs r (gsvCloseGps header r) := by
  unfold gsvCloseGps
  split
  · split
    · exact ⟨rfl, by simp [ReaderOutput.AboutTables]⟩
    · exact ⟨rfl, by simp [ReaderOutput.AboutTables]⟩
  · exact .refl r

theorem changesSvs_parseGsvGnss (isBds : Bool) (tzer : NmeaTokenizer) (r : NmeaReader) :
    ChangesSvs r (parseGsvGnss cfg isBds tzer r) :=
  ((changesSvs_gsvOpen _ r).andThen
    (changesSvs_gsvSatellites (changesSvs_nmeaReaderUpdateSvStatusGnss cfg) _ _ _)).andThen
    (changesSvs_gsvCloseGnss _)

theorem changesSvs_parseGsvGps (isBds : Bool) (tzer : NmeaTokenizer) (r : NmeaReader) :
    ChangesSvs r (parseGsvGps cfg isBds tzer r) :=
  ((changesSvs_gsvOpen _ r).andThen
    (changesSvs_gsvSatellites (changesSvs_nmeaReaderUpdateSvStatusGps cfg) _ _ _)).andThen
    (changesSvs_gsvCloseGps _)

end Gsv

/-! ## Kinds of sentences in GNSS mode -/

theorem sentenceKind_ne_gsvGps {cfg : GpsConfig} (gnss : cfg.gpsMode = 0) (field : List UInt8) :
    sentenceKind cfg field ≠ .gsvGps := by
  simp only [sentenceKind, gnss]
  repeat' split
  all_goals simp_all

/-! ## Sentences that are parsed -/

section Parse

variable (cfg : GpsConfig) (libc : LibcTime) (now : Int) (endTag : Bool) {r : NmeaReader}

/-- A sentence that is long enough to have a kind. -/
theorem nmeaReaderParse_of_kind (long : 9 ≤ r.input.length)
    (wide : 5 ≤ (nmeaTokenizerGet (nmeaTokenizerInit r.input) 0).text.length) :
    nmeaReaderParse cfg libc now endTag r =
      (Parsed.andThen (Parsed.andThen (Parsed.andThen (r, [.parse r.input])
        (parseSentence cfg libc now (nmeaTokenizerGet (nmeaTokenizerInit r.input) 0).text
          (nmeaTokenizerInit r.input))) (reportFix endTag)) (reportSvs cfg endTag)) := by
  rw [nmeaReaderParse, if_neg (not_lt.mpr long)]
  exact if_neg (not_lt.mpr wide)

/-- A sentence that is too short is not looked at. -/
theorem nmeaReaderParse_of_short (short : ¬ (9 ≤ r.input.length ∧
      5 ≤ (nmeaTokenizerGet (nmeaTokenizerInit r.input) 0).text.length)) :
    nmeaReaderParse cfg libc now endTag r = (r, [.parse r.input]) := by
  rw [nmeaReaderParse]
  split
  case isTrue => rfl
  case isFalse notShort =>
    exact if_pos (not_le.mp fun wide => short ⟨not_lt.mp notShort, wide⟩)

end Parse

end X3Hal.Gps
