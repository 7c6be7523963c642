import X3Hal.Gps.Number
import X3Hal.Gps.Time
import X3Hal.Gps.Tokenizer

/-!
# The NMEA reader and the fix

`NmeaReader` collects the bytes of a sentence, the location fix and the satellites
seen.  The functions here put the fields of a sentence into the fix.
-/

namespace X3Hal.Gps

/-- The bytes of an ASCII text. -/
def ascii (chars : List Char) : List UInt8 :=
  chars.map fun char => UInt8.ofNat char.toNat

def hasLatLong : Nat := 0x1
def hasAltitude : Nat := 0x2
def hasSpeed : Nat := 0x4
def hasBearing : Nat := 0x8
def hasAccuracy : Nat := 0x10

structure GpsLocation where
  flags : Nat := 0
  latitude : Real64 := .zero
  longitude : Real64 := .zero
  altitude : Real64 := .zero
  speed : Real64 := .zero
  bearing : Real64 := .zero
  accuracy : Real64 := .zero
  timestamp : Int := 0
  deriving DecidableEq, Repr

inductive GnssConstellation
  | unknown
  | gps
  | glonass
  | beidou
  deriving DecidableEq, Repr

structure GnssSvInfo where
  svid : Int := 0
  constellation : GnssConstellation := .unknown
  cN0Dbhz : Real64 := .zero
  elevation : Int := 0
  azimuth : Int := 0
  flags : Nat := 0
  deriving DecidableEq, Repr

structure GpsSvInfo where
  prn : Int := 0
  snr : Real64 := .zero
  elevation : Int := 0
  azimuth : Int := 0
  deriving DecidableEq, Repr

structure GnssSvStatus where
  numSvs : Int
  gnssSvList : Int → GnssSvInfo

structure GpsSvStatus where
  numSvs : Int
  svList : Int → GpsSvInfo
  ephemerisMask : Nat
  almanacMask : Nat
  usedInFixMask : Nat

/-- What `gps.h` and the device's configuration fix. -/
structure GpsConfig where
  /-- `GPS_MAX_SVS` -/
  gpsMaxSvs : Int
  /-- `GNSS_MAX_SVS` -/
  gnssMaxSvs : Int
  /-- `gps_mode`: 0 for GNSS, 1 for GPS only -/
  gpsMode : Int

/-- The tables of Android's `gps.h`, in GNSS mode. -/
def gnssConfig : GpsConfig :=
  ⟨32, 64, 0⟩

/-- `NmeaReader` and the table `sv_used_in_fix`.  The position `pos` is the length of
the bytes collected in `input`. -/
structure NmeaReader where
  input : List UInt8
  overflow : Bool
  utcYear : Int
  utcMon : Int
  utcDay : Int
  fix : GpsLocation
  fixMode : Int
  svCount : Int
  svStatusGps : GpsSvStatus
  svStatusGnss : GnssSvStatus
  svUsedInFix : Int → Int

/-- `nmea_reader_init` -/
def nmeaReaderInit : NmeaReader where
  input := []
  overflow := false
  utcYear := -1
  utcMon := -1
  utcDay := -1
  fix := {}
  fixMode := 0
  svCount := 0
  svStatusGps := ⟨0, fun _ => {}, 0, 0, 0⟩
  svStatusGnss := ⟨0, fun _ => {}⟩
  svUsedInFix := fun _ => 0

/-- What parsing shows to the outside, and the table entries it writes. -/
inductive ReaderOutput
  /-- `nmea_reader_parse` is entered -/
  | parse (sentence : List UInt8)
  /-- `gnss_sv_list[index]` is written -/
  | writeGnssSv (index : Int)
  /-- `sv_list[index]` is written -/
  | writeGpsSv (index : Int)
  /-- a GSV sentence opens a new set -/
  | openSet
  /-- a GSV sentence closes its set, and the set is counted -/
  | countSet
  /-- the sets counted so far are dropped -/
  | dropSets
  | locationCb (fix : GpsLocation)
  | gnssSvStatusCb (numSvs : Int) (entries : List GnssSvInfo)
  | svStatusCb (numSvs : Int) (entries : List GpsSvInfo) (usedInFixMask : Nat)
  | nmeaCb (timestamp : Int) (sentence : List UInt8)
  deriving DecidableEq, Repr

/-- `LOC_FIXED` -/
def NmeaReader.locFixed (r : NmeaReader) : Bool :=
  r.fixMode = 2 || r.fixMode = 3

/-! ## The fix -/

section Fix

variable (libc : LibcTime) (now : Int)

/-- `nmea_reader_update_time` -/
def nmeaReaderUpdateTime (r : NmeaReader) (tok : Token) : Int × NmeaReader :=
  if tok.text.length < 6 then (-1, r)
  else
    let r :=
      if r.utcYear < 0 then
        let tm := libc.gmtime now
        { r with utcYear := tm.year + 1900, utcMon := tm.mon + 1, utcDay := tm.mday }
      else r
    let hour := str2int (tok.text.take 2)
    let minute := str2int ((tok.text.drop 2).take 2)
    let seconds := str2float (tok.text.drop 4)
    let tm : Tm :=
      { sec := seconds.toInt
        min := minute
        hour := hour
        mday := r.utcDay
        mon := r.utcMon - 1
        year := r.utcYear - 1900
        isdst := -1 }
    -- the first call only checks, and normalises `tm` for the second
    let fixTime := (libc.mktime (libc.mktime tm).2).1
    let fixTime := fixTime + (libc.localtime fixTime).gmtoff
    (0, { r with fix := { r.fix with timestamp := fixTime * 1000 } })

/-- `nmea_reader_update_date` -/
def nmeaReaderUpdateDate (r : NmeaReader) (date time : Token) : Int × NmeaReader :=
  if date.text.length ≠ 6 then (-1, r)
  else
    let day := str2int (date.text.take 2)
    let mon := str2int ((date.text.drop 2).take 2)
    let year := str2int (date.text.drop 4) + 2000
    -- the sign bit of `day|mon|year`
    if day < 0 ∨ mon < 0 ∨ year < 0 then (-1, r)
    else
      nmeaReaderUpdateTime libc now { r with utcYear := year, utcMon := mon, utcDay := day } time

end Fix

/-- `convert_from_hhmm` -/
def convertFromHhmm (tok : Token) : Real64 :=
  let val := str2float tok.text
  let degrees := (val.mapFinite fun value => ⌊value⌋ / 100).toInt
  val.mapFinite fun value => degrees + (value - degrees * 100) / 60

/-- A coordinate with the sign of its hemisphere. -/
def signedCoordinate (negative : Bool) (coordinate : Real64) : Real64 :=
  if negative then coordinate.neg else coordinate

/-- `nmea_reader_update_latlong` -/
def nmeaReaderUpdateLatlong (r : NmeaReader) (latitude : Token) (latitudeHemi : UInt8)
    (longitude : Token) (longitudeHemi : UInt8) : Int × NmeaReader :=
  if latitude.text.length < 6 then (-1, r)
  else if longitude.text.length < 6 then (-1, r)
  else
    (0, { r with fix := { r.fix with
      flags := r.fix.flags ||| hasLatLong
      latitude := signedCoordinate (latitudeHemi = 83) (convertFromHhmm latitude)
      longitude := signedCoordinate (longitudeHemi = 87) (convertFromHhmm longitude) } })

/-- What the functions for one field of the fix share: an empty field changes nothing. -/
def updateFixField (r : NmeaReader) (tok : Token) (update : Real64 → GpsLocation → GpsLocation) :
    Int × NmeaReader :=
  if tok.text = [] then (-1, r) else (0, { r with fix := update (str2float tok.text) r.fix })

/-- `nmea_reader_update_altitude` -/
def nmeaReaderUpdateAltitude (r : NmeaReader) (altitude : Token) : Int × NmeaReader :=
  updateFixField r altitude fun value fix =>
    { fix with flags := fix.flags ||| hasAltitude, altitude := value }

/-- `nmea_reader_update_bearing` -/
def nmeaReaderUpdateBearing (r : NmeaReader) (bearing : Token) : Int × NmeaReader :=
  updateFixField r bearing fun value fix =>
    { fix with flags := fix.flags ||| hasBearing, bearing := value }

/-- `nmea_reader_update_speed`, from knots to metres a second. -/
def nmeaReaderUpdateSpeed (r : NmeaReader) (speed : Token) : Int × NmeaReader :=
  updateFixField r speed fun value fix =>
    { fix with
      flags := fix.flags ||| hasSpeed
      speed := value.mapFinite (· / (1942795467 / 1000000000)) }

/-- `nmea_reader_update_accuracy` -/
def nmeaReaderUpdateAccuracy (r : NmeaReader) (accuracy : Token) : Int × NmeaReader :=
  updateFixField r accuracy fun value fix =>
    { fix with flags := fix.flags ||| hasAccuracy, accuracy := value }

end X3Hal.Gps
