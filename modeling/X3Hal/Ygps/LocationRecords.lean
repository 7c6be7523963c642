import X3Hal.Ygps.Sentences

/-!
# The locations of the talkers

`NmeaParser` also keeps a location for each talker, which RMC and GGA sentences set.  Numbers are
read and multiplied without rounding.
-/

namespace X3Hal.Ygps

open Gps (Real64)
open Memory (ascii)

/-- `parseDouble`: without rounding, what `parseFloat` reads. -/
def parseDouble : Text → Option Real64 :=
  parseFloat

/-- `Double.longValue` -/
def longValue : Real64 → Int
  | .finite value =>
      max (-2 ^ 63) (min (2 ^ 63 - 1) (if value < 0 then ⌈value⌉ else ⌊value⌋))
  | .infinite true => -2 ^ 63
  | .infinite false => 2 ^ 63 - 1
  | .nan => 0

def isPositive : Real64 → Bool
  | .finite value => 0 < value
  | .infinite negative => !negative
  | .nan => false

/-- A location with what its setters were called with last. -/
structure Location where
  time : Int
  latitude : Real64
  longitude : Real64
  altitude : Real64
  bearing : Int
  speed : Real64
  deriving DecidableEq, Repr

/-- A coordinate is negated unless its direction is the positive one. -/
def signedBy (positive direction : Text) (coordinate : Real64) : Real64 :=
  if direction = positive then coordinate else coordinate.neg

/-- The latitude and the longitude of `parseRMC`, zeros if one of them is empty. -/
def rmcPosition (latitude latitudeDirection longitude longitudeDirection : Text) :
    Option (Real64 × Real64) :=
  if 0 < longitude.length ∧ 0 < latitude.length then do
    let longitudeDouble ← parseDouble longitude
    let latitudeDouble ← parseDouble latitude
    some (signedBy (ascii "N") latitudeDirection latitudeDouble,
      signedBy (ascii "E") longitudeDirection longitudeDouble)
  else some (.zero, .zero)

/-- The course of `parseRMC`, which catches what `parseDouble` throws here. -/
def rmcCourse (courseString : Text) : Int :=
  if 0 < courseString.length then (parseDouble courseString).elim 180 Real64.toInt else 0

/-- The speed that `parseRMC` sets. -/
def rmcSpeed (groundSpeed : Real64) : Real64 :=
  let speed := if isPositive groundSpeed then groundSpeed.mapFinite (· * (1852 / 1000))
    else .finite (-2)
  let speed := if isPositive speed.neg then .zero else speed
  speed.mapFinite (· * 1000)

/-- What `parseRMC` does to the location of its talker; `none` when it throws, or when the
sentence has a warning. -/
def readRMC (values : List Text) : Option (Location → Location) := do
  let warning ← values[2]?
  let latitude ← values[3]?
  let latitudeDirection ← values[4]?
  let longitude ← values[5]?
  let longitudeDirection ← values[6]?
  let groundSpeed ← values[7]?.bind parseDouble
  let courseString ← values[8]?
  let position ← rmcPosition latitude latitudeDirection longitude longitudeDirection
  if warning = ascii "A" then
    some fun location => { location with
      latitude := position.1
      longitude := position.2
      bearing := rmcCourse courseString
      speed := rmcSpeed groundSpeed }
  else none

/-- What `parseGGA` does to the location of its talker; `none` when it throws. -/
def readGGA (values : List Text) : Option (Location → Location) := do
  let utcTime ← values[1]?.bind parseDouble
  let lat ← values[2]?.bind parseDouble
  let longt ← values[4]?.bind parseDouble
  let alti ← values[9]?.bind parseDouble
  let latDirection ← values[3]?
  let longtDirection ← values[5]?
  some fun location => { location with
    time := longValue utcTime
    latitude := signedBy (ascii "N") latDirection lat
    longitude := signedBy (ascii "E") longtDirection longt
    altitude := alti }

/-- The parser with its locations. -/
structure LocatingParser extends NmeaParser where
  mLocRecord : Talker → Location

/-- The sentence types that `parse` knows. -/
inductive Kind
  | rmc
  | gsa
  | gga
  | gsv
  deriving DecidableEq, Repr

def Kind.text : Kind → Text
  | .rmc => ascii "RMC"
  | .gsa => ascii "GSA"
  | .gga => ascii "GGA"
  | .gsv => ascii "GSV"

/-- The types in the order in which `parse` looks for them. -/
def kinds : List Kind :=
  [.rmc, .gsa, .gga, .gsv]

namespace LocatingParser

/-- The parser as it is constructed. -/
def new : LocatingParser where
  toNmeaParser := NmeaParser.new
  mLocRecord := fun _ => ⟨0, .zero, .zero, .zero, 0, .zero⟩

/-- Work on the location of the talker of the sentence. -/
def relocate (parser : LocatingParser) (update : Option (Location → Location)) : LocatingParser :=
  match parser.mCurrentTalker, update with
  | some talker, some update =>
      { parser with
        mLocRecord :=
          Function.update parser.mLocRecord talker (update (parser.mLocRecord talker)) }
  | _, _ => parser

/-- `parseRMC` -/
def parseRMC (record : Text) (parser : LocatingParser) : LocatingParser :=
  parser.relocate (readRMC (split record))

/-- `parseGSA` -/
def parseGSA (record : Text) (parser : LocatingParser) : LocatingParser :=
  { parser with toNmeaParser := parser.toNmeaParser.parseGSA record }

/-- `parseGGA` -/
def parseGGA (record : Text) (parser : LocatingParser) : LocatingParser :=
  parser.relocate (readGGA (split record))

/-- `parseGSV` -/
def parseGSV (record : Text) (parser : LocatingParser) : LocatingParser × List ViewMessage :=
  let (lists, messages) := parser.toNmeaParser.parseGSV record
  ({ parser with toNmeaParser := lists }, messages)

/-- The parser at work on a sentence of a talker. -/
def withTalker (parser : LocatingParser) (talker : Option Talker) : LocatingParser :=
  { parser with mCurrentTalker := talker }

/-- `parse` -/
def parse (record : Text) (parser : LocatingParser) : LocatingParser × List ViewMessage :=
  let current := parser.withTalker (checkTalker record)
  if contains record (ascii "RMC") then (current.parseRMC record, [])
  else if contains record (ascii "GSA") then (current.parseGSA record, [])
  else if contains record (ascii "GGA") then (current.parseGGA record, [])
  else if contains record (ascii "GSV") then current.parseGSV record
  else (current, [])

/-- The function for a sentence type. -/
def act (parser : LocatingParser) (record : Text) : Option Kind → LocatingParser × List ViewMessage
  | none => (parser, [])
  | some .rmc => (parser.parseRMC record, [])
  | some .gsa => (parser.parseGSA record, [])
  | some .gga => (parser.parseGGA record, [])
  | some .gsv => parser.parseGSV record

theorem relocate_lists (parser : LocatingParser) (update : Option (Location → Location)) :
    (parser.relocate update).toNmeaParser = parser.toNmeaParser := by
  unfold relocate
  split
  · rfl
  · rfl

/-- The locations apart, this is the parser of the lists. -/
theorem parse_lists (record : Text) (parser : LocatingParser) :
    ((parser.parse record).1.toNmeaParser, (parser.parse record).2) =
      parser.toNmeaParser.parse record := by
  unfold parse NmeaParser.parse parseRMC parseGGA
  simp only [apply_ite Prod.fst, apply_ite Prod.snd, apply_ite toNmeaParser, relocate_lists]
  split
  · rfl
  · split
    · rfl
    · split
      · rfl
      · split
        · rfl
        · rfl

/-- The first word of a type in the record decides, and the first word of a talker. -/
theorem parse_eq (record : Text) (parser : LocatingParser) :
    parser.parse record = (parser.withTalker (checkTalker record)).act record
      (kinds.find? fun kind => contains record kind.text) := by
  simp only [parse, kinds, List.find?, Kind.text]
  cases contains record (ascii "RMC") with
  | true => rfl
  | false =>
      cases contains record (ascii "GSA") with
      | true => rfl
      | false =>
          cases contains record (ascii "GGA") with
          | true => rfl
          | false =>
              cases contains record (ascii "GSV") with
              | true => rfl
              | false => rfl

end LocatingParser

end X3Hal.Ygps
