import Mathlib.Logic.Function.Basic
import X3Hal.Ygps.JavaText

/-!
# The parser of YGPS

`NmeaParser` keeps a list of satellites for each talker.  A sentence works on the record of its
talker; an exception ends it where it stands.  What only the records of locations hold is left out.
-/

namespace X3Hal.Ygps

open Gps (Real64 comma)
open Memory (ascii)

inductive Talker
  | gp
  | gl
  | ga
  | bd
  deriving DecidableEq, Repr

def Talker.text : Talker → Text
  | .gp => ascii "GP"
  | .gl => ascii "GL"
  | .ga => ascii "GA"
  | .bd => ascii "BD"

/-- `mTalker` -/
def mTalker : List Talker :=
  [.gp, .gl, .ga, .bd]

structure SatelliteInfo where
  mPrn : Int
  mSnr : Real64
  mElevation : Real64
  mAzimuth : Real64
  mUsedInFix : Bool
  mColor : Nat
  deriving DecidableEq, Repr

structure SVExtraInfro where
  mPdop : Text
  mHdop : Text
  mVdop : Text
  mfixtype : Text
  deriving DecidableEq, Repr

/-- The talker `none` is that of a sentence without a known one. -/
structure NmeaParser where
  mCurrentTalker : Option Talker
  mSatelInfoList : Talker → List SatelliteInfo
  mExtraInfoList : Talker → SVExtraInfro
  /-- A talker without a list has an empty one. -/
  mUsedFixIdMapList : Option Talker → List Int

/-- A message to the handler of the views. -/
inductive ViewMessage
  | svUpdate
  deriving DecidableEq, Repr

/-- `checkTalker` -/
def checkTalker (record : Text) : Option Talker :=
  mTalker.find? fun talker => contains record talker.text

/-- `checkTalkerColor`, where red is for no known talker -/
def checkTalkerColor : Option Talker → Nat
  | some .gp => 0xff00ffff
  | some .gl => 0xffffff00
  | some .ga => 0xffffffff
  | some .bd => 0xff0000ff
  | none => 0xffff0000

/-- `removeFirstZero`: behind the last character `charAt` throws. -/
def removeFirstZero : Text → Option Text
  | [] => none
  | byte :: rest => if byte = zero then removeFirstZero rest else some (byte :: rest)

/-- `parseInt` catches what `valueOf` throws, not what `removeFirstZero` throws. -/
def parseInt (text : Text) : Option Int :=
  if text = [] then some 0
  else (removeFirstZero text).map fun digits => (integerValueOf digits).getD 0

/-- `parseFloat` -/
def parseFloat (text : Text) : Option Real64 :=
  if text = [] then some .zero
  else (removeFirstZero text).map fun numeral => (floatParseFloat numeral).getD .zero

/-- The last field of a sentence has the checksum behind the number. -/
def parseSnr (text : Text) : Option Real64 :=
  if contains text [star] then (splitAt star text)[0]?.bind parseFloat else parseFloat text

/-- `split` -/
def split (record : Text) : List Text :=
  splitAt comma record

namespace NmeaParser

/-- The parser as it is constructed. -/
def new : NmeaParser where
  mCurrentTalker := none
  mSatelInfoList := fun _ => []
  mExtraInfoList := fun _ => ⟨[], [], [], []⟩
  mUsedFixIdMapList := fun _ => []

def setSatellites (parser : NmeaParser) (talker : Talker) (satellites : List SatelliteInfo) :
    NmeaParser :=
  { parser with mSatelInfoList := Function.update parser.mSatelInfoList talker satellites }

def setExtra (parser : NmeaParser) (talker : Talker) (extra : SVExtraInfro) : NmeaParser :=
  { parser with mExtraInfoList := Function.update parser.mExtraInfoList talker extra }

def setUsedFixIds (parser : NmeaParser) (ids : List Int) : NmeaParser :=
  { parser with
    mUsedFixIdMapList := Function.update parser.mUsedFixIdMapList parser.mCurrentTalker ids }

def usedFixIds (parser : NmeaParser) : List Int :=
  parser.mUsedFixIdMapList parser.mCurrentTalker

def isUsedInFix (parser : NmeaParser) (prn : Int) : Bool :=
  parser.usedFixIds.contains prn

def addUsedFixId (parser : NmeaParser) (prn : Int) : NmeaParser :=
  parser.setUsedFixIds (parser.usedFixIds ++ [prn])

def clearUsedFixList (parser : NmeaParser) : NmeaParser :=
  parser.setUsedFixIds []

/-- `clearSatelliteList` of a talker -/
def clearSatelliteList (parser : NmeaParser) (talker : Talker) : NmeaParser :=
  parser.setSatellites talker ((parser.mSatelInfoList talker).map fun satellite =>
    { satellite with mUsedInFix := false })

/-- The loop of `parseGSA` over its fields; `false` is an exception. -/
def addUsedFixIds : List Text → NmeaParser → NmeaParser × Bool
  | [], parser => (parser, true)
  | value :: values, parser =>
      match parseInt value with
      | none => (parser, false)
      | some prn =>
          addUsedFixIds values (if 0 < prn then parser.addUsedFixId prn else parser)

/-- `parseGSA` -/
def parseGSA (record : Text) (parser : NmeaParser) : NmeaParser :=
  let values := split record
  let cleared := parser.clearUsedFixList
  match parser.mCurrentTalker with
  | none => cleared
  | some talker =>
      if 17 ≤ values.length then
        if values.getD 2 [] = ascii "1" then cleared.clearSatelliteList talker
        else
          let extra := { cleared.mExtraInfoList talker with mfixtype := values.getD 2 [] }
          let (next, finished) := addUsedFixIds ((values.drop 2).take 13)
            ((cleared.setExtra talker extra).clearSatelliteList talker)
          if finished then
            -- with just seventeen fields the last assignment throws
            next.setExtra talker
              { extra with
                mPdop := values.getD 15 []
                mHdop := values.getD 16 []
                mVdop := values.getD 17 extra.mVdop }
          else next
      else cleared.clearSatelliteList talker

/-- One round of the loop of `parseGSV`: the satellite of four fields, if its number is
positive. -/
def readSatellite (parser : NmeaParser) (number elevation azimuth snr : Text) :
    Option (List SatelliteInfo) := do
  let satelliteNumber ← parseInt number
  let mElevation ← parseFloat elevation
  let mAzimuth ← parseFloat azimuth
  let mSnr ← parseSnr snr
  some (if 0 < satelliteNumber then
    [{  mPrn := satelliteNumber
        mSnr, mElevation, mAzimuth
        mUsedInFix := parser.isUsedInFix satelliteNumber
        mColor := checkTalkerColor parser.mCurrentTalker }]
  else [])

/-- The loop of `parseGSV`, with the satellites it adds; `false` is an exception. -/
def readSatellites (parser : NmeaParser) : List Text → List SatelliteInfo × Bool
  | number :: elevation :: azimuth :: snr :: values =>
      match parser.readSatellite number elevation azimuth snr with
      | none => ([], false)
      | some added =>
          let (others, finished) := parser.readSatellites values
          (added ++ others, finished)
  | _ => ([], true)

/-- `parseGSV` -/
def parseGSV (record : Text) (parser : NmeaParser) : NmeaParser × List ViewMessage :=
  let values := split record
  match parser.mCurrentTalker, values[1]?.bind parseInt, values[2]?.bind parseInt with
  | some talker, some mTotalNum, some mMsgInd =>
      let kept := if 0 < mTotalNum ∧ mMsgInd = 1 then [] else parser.mSatelInfoList talker
      let (added, finished) := parser.readSatellites (values.drop 4)
      (parser.setSatellites talker (kept ++ added),
        if finished ∧ values[1]? = values[2]? then [.svUpdate] else [])
  | _, _, _ => (parser, [])

/-- `parse`: `parseRMC` and `parseGGA` only change the record of the location. -/
def parse (record : Text) (parser : NmeaParser) : NmeaParser × List ViewMessage :=
  let current := { parser with mCurrentTalker := checkTalker record }
  if contains record (ascii "RMC") then (current, [])
  else if contains record (ascii "GSA") then (current.parseGSA record, [])
  else if contains record (ascii "GGA") then (current, [])
  else if contains record (ascii "GSV") then current.parseGSV record
  else (current, [])

/-! ## What the functions change -/

section Fields

variable (parser : NmeaParser) (talker : Talker) (satellites : List SatelliteInfo)
  (extra : SVExtraInfro) (ids : List Int)

@[simp]
theorem setSatellites_current :
    (parser.setSatellites talker satellites).mCurrentTalker = parser.mCurrentTalker :=
  rfl

@[simp]
theorem setSatellites_satellites :
    (parser.setSatellites talker satellites).mSatelInfoList =
      Function.update parser.mSatelInfoList talker satellites :=
  rfl

@[simp]
theorem setSatellites_ids :
    (parser.setSatellites talker satellites).mUsedFixIdMapList = parser.mUsedFixIdMapList :=
  rfl

@[simp]
theorem setExtra_current : (parser.setExtra talker extra).mCurrentTalker = parser.mCurrentTalker :=
  rfl

@[simp]
theorem setExtra_satellites :
    (parser.setExtra talker extra).mSatelInfoList = parser.mSatelInfoList :=
  rfl

@[simp]
theorem setExtra_ids :
    (parser.setExtra talker extra).mUsedFixIdMapList = parser.mUsedFixIdMapList :=
  rfl

@[simp]
theorem setExtra_extra :
    (parser.setExtra talker extra).mExtraInfoList =
      Function.update parser.mExtraInfoList talker extra :=
  rfl

@[simp]
theorem setUsedFixIds_current :
    (parser.setUsedFixIds ids).mCurrentTalker = parser.mCurrentTalker :=
  rfl

@[simp]
theorem setUsedFixIds_satellites :
    (parser.setUsedFixIds ids).mSatelInfoList = parser.mSatelInfoList :=
  rfl

@[simp]
theorem setUsedFixIds_ids :
    (parser.setUsedFixIds ids).mUsedFixIdMapList =
      Function.update parser.mUsedFixIdMapList parser.mCurrentTalker ids :=
  rfl

@[simp]
theorem setUsedFixIds_extra :
    (parser.setUsedFixIds ids).mExtraInfoList = parser.mExtraInfoList :=
  rfl

@[simp]
theorem clearSatelliteList_satellites :
    (parser.clearSatelliteList talker).mSatelInfoList =
      Function.update parser.mSatelInfoList talker
        ((parser.mSatelInfoList talker).map fun satellite =>
          { satellite with mUsedInFix := false }) :=
  rfl

@[simp]
theorem clearSatelliteList_ids :
    (parser.clearSatelliteList talker).mUsedFixIdMapList = parser.mUsedFixIdMapList :=
  rfl

@[simp]
theorem clearSatelliteList_extra :
    (parser.clearSatelliteList talker).mExtraInfoList = parser.mExtraInfoList :=
  rfl

@[simp]
theorem clearSatelliteList_current :
    (parser.clearSatelliteList talker).mCurrentTalker = parser.mCurrentTalker :=
  rfl

end Fields

/-- The numbers that the loop of `parseGSA` adds: the positive ones before the first field at
which it throws. -/
def idsRead : List Text → List Int
  | [] => []
  | value :: values =>
      match parseInt value with
      | none => []
      | some prn => if 0 < prn then prn :: idsRead values else idsRead values

theorem idsRead_cons {value : Text} {prn : Int} (parsed : parseInt value = some prn)
    (values : List Text) :
    idsRead (value :: values) = if 0 < prn then prn :: idsRead values else idsRead values := by
  rw [idsRead, parsed]

/-- What the numbers used in the fix do not matter for is kept. -/
theorem addUsedFixIds_keeps {α : Type} {field : NmeaParser → α}
    (keeps : ∀ parser ids, field (setUsedFixIds parser ids) = field parser) (values : List Text)
    (parser : NmeaParser) : field (addUsedFixIds values parser).1 = field parser := by
  induction values generalizing parser with
  | nil => rfl
  | cons value values ih =>
      rw [addUsedFixIds]
      cases parseInt value with
      | none => rfl
      | some prn =>
          refine (ih _).trans ?_
          split
          · exact keeps parser _
          · rfl

theorem addUsedFixIds_satellites (values : List Text) (parser : NmeaParser) :
    (addUsedFixIds values parser).1.mSatelInfoList = parser.mSatelInfoList :=
  addUsedFixIds_keeps (fun _ _ => rfl) values parser

theorem addUsedFixIds_extra (values : List Text) (parser : NmeaParser) :
    (addUsedFixIds values parser).1.mExtraInfoList = parser.mExtraInfoList :=
  addUsedFixIds_keeps (fun _ _ => rfl) values parser

theorem addUsedFixIds_ids (values : List Text) (parser : NmeaParser) :
    (addUsedFixIds values parser).1.mUsedFixIdMapList =
      Function.update parser.mUsedFixIdMapList parser.mCurrentTalker
        (parser.usedFixIds ++ idsRead values) := by
  induction values generalizing parser with
  | nil => rw [idsRead, List.append_nil, usedFixIds, Function.update_eq_self, addUsedFixIds]
  | cons value values ih =>
      rw [addUsedFixIds, idsRead]
      cases parseInt value with
      | none => exact (by rw [List.append_nil, usedFixIds, Function.update_eq_self])
      | some prn =>
          refine (ih _).trans ?_
          by_cases positive : 0 < prn
          · simp [positive, addUsedFixId, usedFixIds]
          · simp [positive]

/-- The numbers that `parseGSA` keeps as used in the fix. -/
def gsaIds (values : List Text) : List Int :=
  if 17 ≤ values.length ∧ values.getD 2 [] ≠ ascii "1" then idsRead ((values.drop 2).take 13)
  else []

/-- `parseGSA` works on what there is of its talker. -/
theorem parseGSA_spec {parser : NmeaParser} {talker : Talker}
    (current : parser.mCurrentTalker = some talker) (record : Text) :
    (parser.parseGSA record).mSatelInfoList =
        Function.update parser.mSatelInfoList talker
          ((parser.mSatelInfoList talker).map fun satellite =>
            { satellite with mUsedInFix := false }) ∧
      (parser.parseGSA record).mUsedFixIdMapList =
        Function.update parser.mUsedFixIdMapList (some talker) (gsaIds (split record)) ∧
      ∃ extra, (parser.parseGSA record).mExtraInfoList =
        Function.update parser.mExtraInfoList talker extra := by
  unfold parseGSA
  simp only [current]
  rw [gsaIds]
  split
  case isFalse short =>
    refine ⟨rfl, ?_, parser.mExtraInfoList talker, ?_⟩
    · simp [clearUsedFixList, current, short]
    · simp [clearUsedFixList]
  case isTrue long =>
    split
    case isTrue noFix =>
      have noIds : ¬ (17 ≤ (split record).length ∧ (split record).getD 2 [] ≠ ascii "1") :=
        fun both => both.2 noFix
      rw [if_neg noIds]
      refine ⟨rfl, ?_, parser.mExtraInfoList talker, ?_⟩
      · simp [clearUsedFixList, current]
      · simp [clearUsedFixList]
    case isFalse fix =>
      have both : 17 ≤ (split record).length ∧ (split record).getD 2 [] ≠ ascii "1" := ⟨long, fix⟩
      rw [if_pos both]
      split
      case isTrue finished =>
        refine ⟨?_, ?_, ?_⟩
        · rw [setExtra_satellites, addUsedFixIds_satellites]
          rfl
        · rw [setExtra_ids, addUsedFixIds_ids]
          simp [clearUsedFixList, usedFixIds, current]
        · rw [setExtra_extra, addUsedFixIds_extra, clearSatelliteList_extra, setExtra_extra,
            Function.update_idem]
          exact ⟨_, rfl⟩
      case isFalse =>
        refine ⟨?_, ?_, ?_⟩
        · rw [addUsedFixIds_satellites]
          rfl
        · rw [addUsedFixIds_ids]
          simp [clearUsedFixList, usedFixIds, current]
        · rw [addUsedFixIds_extra, clearSatelliteList_extra, setExtra_extra]
          exact ⟨_, rfl⟩

end NmeaParser

end X3Hal.Ygps
