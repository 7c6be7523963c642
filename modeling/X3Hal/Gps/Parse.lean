import X3Hal.Gps.Reader

/-!
# Parsing NMEA sentences

`nmea_reader_parse` acts on one sentence and reports the fix and the satellites at
the end of a read; `nmea_reader_addc` frames the sentences.  The branches for AT
commands and for debugging output are compiled out.
-/

namespace X3Hal.Gps

/-- `NMEA_MAX_SIZE` -/
def nmeaMaxSize : Nat := 128

/-- `NMEA_MAX_SV_INFO` -/
def nmeaMaxSvInfo : Nat := 4

/-- `GNSS_SV_FLAGS_USED_IN_FIX` -/
def svFlagUsedInFix : Nat := 4

/-- The satellites in a `GPGSA` sentence. -/
def gsaMaxSatellites : Nat := 12

def newline : UInt8 := 10

/-- A reader after a step, and what the step showed. -/
abbrev Parsed := NmeaReader × List ReaderOutput

/-- Go on from a reader with earlier output. -/
def Parsed.andThen (first : Parsed) (next : NmeaReader → Parsed) : Parsed :=
  ((next first.1).1, first.2 ++ (next first.1).2)

/-- `memcmp(text, word, n)` for the `n` bytes of the word. -/
def startsWith (text : List UInt8) (word : List Char) : Bool :=
  (ascii word).isPrefixOf text

section Parse

variable (cfg : GpsConfig)

/-! ## Satellites in view -/

/-- `nmea_reader_update_sv_status_gps` -/
def nmeaReaderUpdateSvStatusGps (prn : Int) (elevation azimuth snr : Token) (r : NmeaReader) :
    Parsed :=
  if prn ≤ 0 ∨ (prn < 65 ∧ cfg.gpsMaxSvs < prn) ∨ 96 < prn ∨ cfg.gpsMaxSvs ≤ r.svCount then (r, [])
  else
    let svIndex := r.svCount + r.svStatusGps.numSvs
    if cfg.gpsMaxSvs ≤ svIndex then (r, [])
    else
      let entry : GpsSvInfo :=
        { prn := prn
          snr := str2float snr.text
          elevation := str2int elevation.text
          azimuth := str2int azimuth.text }
      ({ r with
          svStatusGps := { r.svStatusGps with
            svList := Function.update r.svStatusGps.svList svIndex entry }
          svCount := r.svCount + 1 }, [.writeGpsSv svIndex])

/-- The constellation that `nmea_reader_update_sv_status_gnss` reads off an id. -/
def constellationOf (id : Int) : GnssConstellation :=
  if id < 33 then .gps else if 200 < id then .beidou else .glonass

/-- `nmea_reader_update_sv_status_gnss` -/
def nmeaReaderUpdateSvStatusGnss (prn : Int) (elevation azimuth snr : Token) (r : NmeaReader) :
    Parsed :=
  if prn ≤ 0 ∨ (prn < 65 ∧ cfg.gpsMaxSvs < prn) ∨ (96 < prn ∧ prn < 200) ∨ 232 < prn ∨
      cfg.gnssMaxSvs ≤ r.svCount then (r, [])
  else
    let svIndex := r.svCount + r.svStatusGnss.numSvs
    if cfg.gnssMaxSvs ≤ svIndex then (r, [])
    else
      let entry : GnssSvInfo :=
        { svid := prn
          cN0Dbhz := str2float snr.text
          constellation := constellationOf prn
          elevation := str2int elevation.text
          azimuth := str2int azimuth.text
          flags := if r.svUsedInFix prn = 1 then svFlagUsedInFix else 0 }
      ({ r with
          svStatusGnss := { r.svStatusGnss with
            gnssSvList := Function.update r.svStatusGnss.gnssSvList svIndex entry }
          svCount := r.svCount + 1 }, [.writeGnssSv svIndex])

/-- The numbers of a GSV sentence: messages, sequence number, satellites in view. -/
structure GsvHeader where
  num : Int
  seq : Int
  cnt : Int
  deriving DecidableEq, Repr

def gsvHeader (tzer : NmeaTokenizer) : GsvHeader where
  num := str2int (nmeaTokenizerGet tzer 1).text
  seq := str2int (nmeaTokenizerGet tzer 2).text
  cnt := str2int (nmeaTokenizerGet tzer 3).text

/-- `sv_num`: the satellites of one sentence, at most four. -/
def GsvHeader.svNum (header : GsvHeader) : Int :=
  min (wrap32 (header.cnt - wrap32 ((header.seq - 1) * nmeaMaxSvInfo))) nmeaMaxSvInfo

/-- An id in the reader's numbering. -/
def readerId (isBds : Bool) (id : Int) : Int :=
  if isBds then wrap32 (id + 200) else id

/-- The loop over the satellites of a GSV sentence, with the function that takes one. -/
def gsvSatellites (isBds : Bool) (tzer : NmeaTokenizer)
    (update : Int → Token → Token → Token → NmeaReader → Parsed) (count : Nat) (r : NmeaReader) :
    Parsed :=
  (List.range count).foldl (fun parsed idx =>
    parsed.andThen (update
      (readerId isBds (str2int (nmeaTokenizerGet tzer (4 * (idx + 1))).text))
      (nmeaTokenizerGet tzer (4 * (idx + 1) + 1)) (nmeaTokenizerGet tzer (4 * (idx + 1) + 2))
      (nmeaTokenizerGet tzer (4 * (idx + 1) + 3)))) (r, [])

/-- A GSV sentence with sequence number 1 starts a new set. -/
def gsvOpen (header : GsvHeader) (r : NmeaReader) : Parsed :=
  if header.seq = 1 then ({ r with svCount := 0 }, [.openSet]) else (r, [])

/-- The end of the branch for GSV sentences in GNSS mode. -/
def gsvCloseGnss (header : GsvHeader) (r : NmeaReader) : Parsed :=
  if header.seq = header.num then
    if r.svCount ≤ header.cnt then
      ({ r with svStatusGnss := { r.svStatusGnss with
        numSvs := r.svStatusGnss.numSvs + r.svCount } }, [.countSet])
    else
      ({ r with svCount := 0, svStatusGnss := { r.svStatusGnss with numSvs := 0 } }, [.dropSets])
  else (r, [])

/-- The end of the branch for GSV sentences in GPS mode. -/
def gsvCloseGps (header : GsvHeader) (r : NmeaReader) : Parsed :=
  if header.seq = header.num then
    if r.svCount ≤ header.cnt then
      ({ r with svStatusGps := { r.svStatusGps with
        numSvs := r.svStatusGps.numSvs + r.svCount, almanacMask := 0, ephemerisMask := 0 } },
        [.countSet])
    else
      ({ r with svCount := 0, svStatusGps := { r.svStatusGps with numSvs := 0 } }, [.dropSets])
  else (r, [])

/-- The branch for GSV sentences in GNSS mode. -/
def parseGsvGnss (isBds : Bool) (tzer : NmeaTokenizer) (r : NmeaReader) : Parsed :=
  let header := gsvHeader tzer
  ((gsvOpen header r).andThen
    (gsvSatellites isBds tzer (nmeaReaderUpdateSvStatusGnss cfg) header.svNum.toNat)).andThen
    (gsvCloseGnss header)

/-- The branch for GSV sentences in GPS mode. -/
def parseGsvGps (isBds : Bool) (tzer : NmeaTokenizer) (r : NmeaReader) : Parsed :=
  let header := gsvHeader tzer
  ((gsvOpen header r).andThen
    (gsvSatellites isBds tzer (nmeaReaderUpdateSvStatusGps cfg) header.svNum.toNat)).andThen
    (gsvCloseGps header)

/-! ## Satellites in use -/

/-- The loop over the satellites of a GSA sentence in GNSS mode. -/
def gsaSatellitesGnss (isBds : Bool) (tzer : NmeaTokenizer) :
    List Nat → (Int → Int) → (Int → Int)
  | [], used => used
  | idx :: rest, used =>
      let tok := nmeaTokenizerGet tzer (idx + 3)
      if tok.text = [] then used
      else
        let id := readerId isBds (str2int tok.text)
        if 1 ≤ id ∧ id ≤ 32 then gsaSatellitesGnss isBds tzer rest (Function.update used id 1)
        else if 193 ≤ id ∧ id ≤ 197 then
          gsaSatellitesGnss isBds tzer rest (Function.update used id 0)
        else if 65 ≤ id ∧ id ≤ 96 then
          gsaSatellitesGnss isBds tzer rest (Function.update used id 1)
        else if 201 ≤ id ∧ id ≤ 232 then
          gsaSatellitesGnss isBds tzer rest (Function.update used id 1)
        else used

/-- The branch for GSA sentences in GNSS mode. -/
def parseGsaGnss (isBds : Bool) (tzer : NmeaTokenizer) (r : NmeaReader) : NmeaReader :=
  let r := { r with fixMode := str2int (nmeaTokenizerGet tzer 2).text }
  if r.locFixed then
    { r with svUsedInFix :=
        gsaSatellitesGnss isBds tzer (List.range gsaMaxSatellites) r.svUsedInFix }
  else r

/-- The loop over the satellites of a GSA sentence in GPS mode, on the mask of ids. -/
def gsaSatellitesGps (tzer : NmeaTokenizer) : List Nat → Nat → Nat
  | [], mask => mask
  | idx :: rest, mask =>
      let tok := nmeaTokenizerGet tzer (idx + 3)
      if tok.text = [] then mask
      else
        let id := str2int tok.text
        if 1 ≤ id ∧ id ≤ 32 then gsaSatellitesGps tzer rest (mask ||| 1 <<< (id - 1).toNat)
        else if 193 ≤ id ∧ id ≤ 197 then gsaSatellitesGps tzer rest mask
        else 0

/-- The branch for GSA sentences in GPS mode. -/
def parseGsaGps (tzer : NmeaTokenizer) (r : NmeaReader) : NmeaReader :=
  let r := { r with fixMode := str2int (nmeaTokenizerGet tzer 2).text }
  { r with svStatusGps := { r.svStatusGps with
      usedInFixMask :=
        if r.locFixed then gsaSatellitesGps tzer (List.range gsaMaxSatellites) 0 else 0 } }

/-! ## Sentences -/

section Sentence

variable (libc : LibcTime) (now : Int)

/-- The branch for GGA sentences. -/
def parseGga (tzer : NmeaTokenizer) (r : NmeaReader) : NmeaReader :=
  let r := (nmeaReaderUpdateTime libc now r (nmeaTokenizerGet tzer 1)).2
  let r := (nmeaReaderUpdateLatlong r (nmeaTokenizerGet tzer 2) (nmeaTokenizerGet tzer 3).first
    (nmeaTokenizerGet tzer 4) (nmeaTokenizerGet tzer 5).first).2
  (nmeaReaderUpdateAltitude r (nmeaTokenizerGet tzer 9)).2

/-- The branch for RMC sentences; `'A'` is the status of a valid fix. -/
def parseRmc (tzer : NmeaTokenizer) (r : NmeaReader) : NmeaReader :=
  if (nmeaTokenizerGet tzer 2).first = 65 then
    let r := (nmeaReaderUpdateDate libc now r (nmeaTokenizerGet tzer 9)
      (nmeaTokenizerGet tzer 1)).2
    let r := (nmeaReaderUpdateLatlong r (nmeaTokenizerGet tzer 3) (nmeaTokenizerGet tzer 4).first
      (nmeaTokenizerGet tzer 5) (nmeaTokenizerGet tzer 6).first).2
    let r := (nmeaReaderUpdateBearing r (nmeaTokenizerGet tzer 8)).2
    (nmeaReaderUpdateSpeed r (nmeaTokenizerGet tzer 7)).2
  else r

/-- The branch for ACCURACY sentences. -/
def parseAccuracy (tzer : NmeaTokenizer) (r : NmeaReader) : NmeaReader :=
  if r.locFixed then (nmeaReaderUpdateAccuracy r (nmeaTokenizerGet tzer 1)).2 else r

/-- The sentences `nmea_reader_parse` tells apart. -/
inductive SentenceKind
  | gga
  | gsaGnss
  | gsaGps
  | rmc
  | gsvGnss
  | gsvGps
  | accuracy
  | unknown
  deriving DecidableEq, Repr

/-- The kind of a sentence, from its first field: talker and id. -/
def sentenceKind (field : List UInt8) : SentenceKind :=
  let id := field.drop 2
  if startsWith id ['G', 'G', 'A'] then .gga
  else if cfg.gpsMode = 0 ∧ (startsWith field ['G', 'P', 'G', 'S', 'A'] ∨
      startsWith field ['B', 'D', 'G', 'S', 'A'] ∨ startsWith field ['G', 'L', 'G', 'S', 'A']) then
    .gsaGnss
  else if cfg.gpsMode = 1 ∧ startsWith field ['G', 'P', 'G', 'S', 'A'] then .gsaGps
  else if startsWith id ['R', 'M', 'C'] then .rmc
  else if cfg.gpsMode = 0 ∧ startsWith id ['G', 'S', 'V'] then .gsvGnss
  else if cfg.gpsMode = 1 ∧ (startsWith field ['G', 'P', 'G', 'S', 'V'] ∨
      startsWith field ['G', 'L', 'G', 'S', 'V']) then .gsvGps
  else if startsWith id ['A', 'C', 'C', 'U', 'R', 'A', 'C', 'Y'] then .accuracy
  else .unknown

/-- What `nmea_reader_parse` does with the fields of a sentence. -/
def parseSentence (field : List UInt8) (tzer : NmeaTokenizer) (r : NmeaReader) : Parsed :=
  let isBds := startsWith field ['B', 'D']
  match sentenceKind cfg field with
  | .gga => (parseGga libc now tzer r, [])
  | .gsaGnss => (parseGsaGnss isBds tzer r, [])
  | .gsaGps => (parseGsaGps tzer r, [])
  | .rmc => (parseRmc libc now tzer r, [])
  | .gsvGnss => parseGsvGnss cfg isBds tzer r
  | .gsvGps => parseGsvGps cfg isBds tzer r
  | .accuracy => (parseAccuracy tzer r, [])
  | .unknown => (r, [])

/-! ## Reports -/

/-- The report of the fix, without the messages to the daemon. -/
def reportFix (endTag : Bool) (r : NmeaReader) : Parsed :=
  if r.locFixed ∧ r.fix.flags ≠ 0 ∧ endTag then
    ({ r with fix := { r.fix with flags := 0 } }, [.locationCb r.fix])
  else (r, [])

/-- The first entries of a satellite table. -/
def svEntries {Entry : Type} (list : Int → Entry) (numSvs : Int) : List Entry :=
  (List.range numSvs.toNat).map fun index : Nat => list index

/-- The report of the satellites.  In GPS mode the loop over the entries calls back
once, since the first turn clears the count. -/
def reportSvs (endTag : Bool) (r : NmeaReader) : Parsed :=
  if cfg.gpsMode = 0 then
    if r.svStatusGnss.numSvs ≠ 0 ∧ endTag then
      ({ r with
          svCount := 0
          svStatusGnss := { r.svStatusGnss with numSvs := 0 }
          svUsedInFix := fun _ => 0 },
        [.gnssSvStatusCb r.svStatusGnss.numSvs
          (svEntries r.svStatusGnss.gnssSvList r.svStatusGnss.numSvs)])
    else (r, [])
  else if 0 < r.svStatusGps.numSvs ∧ endTag then
    ({ r with
        svCount := 0
        svStatusGps := { r.svStatusGps with numSvs := 0, usedInFixMask := 0 } },
      [.svStatusCb r.svStatusGps.numSvs (svEntries r.svStatusGps.svList r.svStatusGps.numSvs)
        r.svStatusGps.usedInFixMask])
  else (r, [])

/-- `nmea_reader_parse`; `endTag` is `gps_nmea_end_tag`. -/
def nmeaReaderParse (endTag : Bool) (r : NmeaReader) : Parsed :=
  if r.input.length < 9 then (r, [.parse r.input])
  else
    let tzer := nmeaTokenizerInit r.input
    let field := (nmeaTokenizerGet tzer 0).text
    if field.length < 5 then (r, [.parse r.input])
    else
      (Parsed.andThen (Parsed.andThen (Parsed.andThen (r, [.parse r.input])
        (parseSentence cfg libc now field tzer)) (reportFix endTag)) (reportSvs cfg endTag))

/-- `nmea_reader_addc` -/
def nmeaReaderAddc (endTag : Bool) (c : UInt8) (r : NmeaReader) : Parsed :=
  if r.overflow then ({ r with overflow := c ≠ newline }, [])
  else if nmeaMaxSize ≤ r.input.length then ({ r with overflow := true, input := [] }, [])
  else
    let r := { r with input := r.input ++ [c] }
    if c = newline then
      (nmeaReaderParse cfg libc now endTag r).andThen fun r =>
        ({ r with input := [] }, [.nmeaCb r.fix.timestamp r.input])
    else (r, [])

end Sentence

end Parse

/-- `nmea_reader_set_callback` with callbacks, outside the test mode. -/
def nmeaReaderSetCallback (r : NmeaReader) : NmeaReader :=
  { r with
    fix := { r.fix with flags := 0 }
    svCount := 0
    svStatusGps := { r.svStatusGps with numSvs := 0 }
    svStatusGnss := { r.svStatusGnss with numSvs := 0 } }

end X3Hal.Gps
