import X3Hal.Gps.NmeaText

/-!
# GSV and GSA sentences

The sentences about satellites as data, the bytes they are sent as, and what a batch
of sentences in one read comes to: every sentence is parsed once, and the last one
with the end tag.
-/

namespace X3Hal.Gps

/-- The talkers that send satellites. -/
inductive Talker
  | gps
  | glonass
  | beidou
  deriving DecidableEq, Repr

namespace Talker

def code : Talker → List UInt8
  | .gps => ascii ['G', 'P']
  | .glonass => ascii ['G', 'L']
  | .beidou => ascii ['B', 'D']

def isBds (talker : Talker) : Bool :=
  talker = .beidou

/-- The ids of a talker's satellites. -/
def ValidId : Talker → Nat → Prop
  | .glonass, id => 65 ≤ id ∧ id ≤ 96
  | _, id => 1 ≤ id ∧ id ≤ 32

instance (talker : Talker) (id : Nat) : Decidable (talker.ValidId id) := by
  cases talker <;> exact inferInstanceAs (Decidable (_ ∧ _))

/-- A talker's id in the numbering of the reports. -/
def svid (talker : Talker) (id : Nat) : Int :=
  if talker.isBds then id + 200 else id

def constellation : Talker → GnssConstellation
  | .gps => .gps
  | .glonass => .glonass
  | .beidou => .beidou

end Talker

/-- The four fields of a satellite in a GSV sentence. -/
structure Satellite (talker : Talker) where
  id : NumberField
  elevation : NumberField
  azimuth : NumberField
  snr : NumberField
  valid : talker.ValidId id.value

def Satellite.fields {talker : Talker} (satellite : Satellite talker) : List (List UInt8) :=
  [satellite.id.text, satellite.elevation.text, satellite.azimuth.text, satellite.snr.text]

/-- A GSV sentence.  It carries the four satellites that belong to its number, or those
that are left. -/
structure GsvSentence where
  talker : Talker
  num : NumberField
  seq : NumberField
  cnt : NumberField
  satellites : List (Satellite talker)
  positive : 0 < seq.value
  announced : satellites.length = min 4 (cnt.value - 4 * (seq.value - 1))
  ending : Ending

def GsvSentence.fields (sentence : GsvSentence) : List (List UInt8) :=
  (sentence.talker.code ++ ascii ['G', 'S', 'V']) :: sentence.num.text :: sentence.seq.text ::
    sentence.cnt.text :: sentence.satellites.flatMap Satellite.fields

/-- The two letters in front of `GSA`, which are those of any talker. -/
structure GsaTalker where
  first : UInt8
  second : UInt8
  plain_first : Plain first
  plain_second : Plain second

namespace GsaTalker

def code (talker : GsaTalker) : List UInt8 :=
  [talker.first, talker.second]

/-- The talker, if it is one of those whose GSA sentences the reader takes. -/
def known? (talker : GsaTalker) : Option Talker :=
  [Talker.gps, .glonass, .beidou].find? fun known => known.code = talker.code

end GsaTalker

/-- A GSA sentence with the ids of the satellites in use, in the talker's numbering.  Any
of the fields for ids may be empty. -/
structure GsaSentence where
  talker : GsaTalker
  mode : TextField
  fix : NumberField
  ids : List NumberField
  atMost : ids.length ≤ gsaMaxSatellites
  pdop : TextField
  hdop : TextField
  vdop : TextField
  ending : Ending

/-- The fields for ids, the last ones empty. -/
def GsaSentence.idFields (sentence : GsaSentence) : List (List UInt8) :=
  sentence.ids.map NumberField.text ++ List.replicate (gsaMaxSatellites - sentence.ids.length) []

def GsaSentence.fields (sentence : GsaSentence) : List (List UInt8) :=
  (sentence.talker.code ++ ascii ['G', 'S', 'A']) :: sentence.mode.text :: sentence.fix.text ::
    (sentence.idFields ++ [sentence.pdop.text, sentence.hdop.text, sentence.vdop.text])

inductive NmeaSentence
  | gsv (sentence : GsvSentence)
  | gsa (sentence : GsaSentence)

namespace NmeaSentence

def fields : NmeaSentence → List (List UInt8)
  | .gsv sentence => sentence.fields
  | .gsa sentence => sentence.fields

def ending : NmeaSentence → Ending
  | .gsv sentence => sentence.ending
  | .gsa sentence => sentence.ending

/-- The bytes of a sentence, without its newline. -/
def line (sentence : NmeaSentence) : List UInt8 :=
  sentenceLine sentence.fields sentence.ending

end NmeaSentence

/-- The bytes of a batch of sentences. -/
def batchBytes (sentences : List NmeaSentence) : List UInt8 :=
  sentences.flatMap fun sentence => sentence.line ++ [newline]

/-! ## Sentences fit the buffer -/

theorem plain_code (talker : Talker) {byte : UInt8} (member : byte ∈ talker.code) :
    Plain byte := by
  revert byte
  cases talker <;> decide +kernel

theorem GsaTalker.plain_code (talker : GsaTalker) {byte : UInt8} (member : byte ∈ talker.code) :
    Plain byte := by
  rw [code, List.mem_pair] at member
  rcases member with rfl | rfl
  · exact talker.plain_first
  · exact talker.plain_second

theorem plain_text {field : NumberField} {byte : UInt8} (member : byte ∈ field.text) :
    Plain byte :=
  plain_of_isDigit (mem_text member)

theorem GsvSentence.plain (sentence : GsvSentence) :
    ∀ field ∈ sentence.fields, ∀ byte ∈ field, Plain byte := by
  intro field isField byte inField
  simp only [GsvSentence.fields, List.mem_cons, List.mem_flatMap] at isField
  rcases isField with rfl | rfl | rfl | rfl | ⟨satellite, -, isField⟩
  · have plainWord : ∀ byte ∈ ascii ['G', 'S', 'V'], Plain byte := by decide +kernel
    rcases List.mem_append.mp inField with inCode | inWord
    · exact plain_code _ inCode
    · exact plainWord byte inWord
  · exact plain_text inField
  · exact plain_text inField
  · exact plain_text inField
  · simp only [Satellite.fields, List.mem_cons, List.not_mem_nil, or_false] at isField
    rcases isField with rfl | rfl | rfl | rfl <;> exact plain_text inField

theorem GsaSentence.plain (sentence : GsaSentence) :
    ∀ field ∈ sentence.fields, ∀ byte ∈ field, Plain byte := by
  intro field isField byte inField
  simp only [GsaSentence.fields, GsaSentence.idFields, List.mem_cons, List.mem_append,
    List.mem_map, List.mem_replicate, List.not_mem_nil, or_false] at isField
  rcases isField with rfl | rfl | rfl | (⟨id, -, rfl⟩ | ⟨-, rfl⟩) | rfl | rfl | rfl
  · have plainWord : ∀ byte ∈ ascii ['G', 'S', 'A'], Plain byte := by decide +kernel
    rcases List.mem_append.mp inField with inCode | inWord
    · exact sentence.talker.plain_code inCode
    · exact plainWord byte inWord
  · exact sentence.mode.plain byte inField
  · exact plain_text inField
  · exact plain_text inField
  · exact absurd inField (List.not_mem_nil)
  · exact sentence.pdop.plain byte inField
  · exact sentence.hdop.plain byte inField
  · exact sentence.vdop.plain byte inField

theorem NmeaSentence.plain (sentence : NmeaSentence) :
    ∀ field ∈ sentence.fields, ∀ byte ∈ field, Plain byte := by
  cases sentence with
  | gsv sentence => exact sentence.plain
  | gsa sentence => exact sentence.plain

theorem NmeaSentence.newline_notMem_line (sentence : NmeaSentence) : newline ∉ sentence.line :=
  newline_notMem_sentenceLine sentence.plain sentence.ending

theorem length_beforeNewline_le (ending : Ending) : ending.beforeNewline.length ≤ 4 := by
  unfold Ending.beforeNewline Ending.checksumBytes
  cases ending.checksum <;> cases ending.carriageReturn <;> simp

theorem length_code (talker : Talker) : talker.code.length = 2 := by
  cases talker <;> rfl

/-- The number of bytes in fields, each with the comma before it. -/
def fieldBytes (fields : List (List UInt8)) : Nat :=
  (fields.map fun field => field.length + 1).sum

theorem fieldBytes_append (fields more : List (List UInt8)) :
    fieldBytes (fields ++ more) = fieldBytes fields + fieldBytes more := by
  simp [fieldBytes]

theorem fieldBytes_flatMap_satellites {talker : Talker} (satellites : List (Satellite talker)) :
    fieldBytes (satellites.flatMap Satellite.fields) ≤ 16 * satellites.length := by
  induction satellites with
  | nil => simp [fieldBytes]
  | cons satellite satellites ih =>
      have id := satellite.id.short
      have elevation := satellite.elevation.short
      have azimuth := satellite.azimuth.short
      have snr := satellite.snr.short
      rw [List.flatMap_cons, fieldBytes_append, List.length_cons]
      have own : fieldBytes satellite.fields ≤ 16 := by
        simp [fieldBytes, Satellite.fields]
        omega
      omega

theorem fieldBytes_ids (ids : List NumberField) :
    fieldBytes (ids.map NumberField.text) ≤ 4 * ids.length := by
  induction ids with
  | nil => simp [fieldBytes]
  | cons id ids ih =>
      have short := id.short
      simp only [fieldBytes, List.map_cons, List.sum_cons, List.length_cons,
        NumberField.length_text] at ih ⊢
      omega

theorem fieldBytes_replicate (count : Nat) : fieldBytes (List.replicate count []) = count := by
  simp [fieldBytes]

theorem GsvSentence.length_line (sentence : GsvSentence) :
    8 ≤ (NmeaSentence.gsv sentence).line.length ∧
      (NmeaSentence.gsv sentence).line.length < nmeaMaxSize := by
  have code := length_code sentence.talker
  have num := sentence.num.short
  have seq := sentence.seq.short
  have cnt := sentence.cnt.short
  have satellites := fieldBytes_flatMap_satellites sentence.satellites
  have four : sentence.satellites.length ≤ 4 := by
    rw [sentence.announced]
    exact min_le_left _ _
  have ending := length_beforeNewline_le sentence.ending
  simp only [NmeaSentence.line, NmeaSentence.fields, NmeaSentence.ending, GsvSentence.fields,
    sentenceLine, List.cons_append, List.length_cons, List.length_append, length_joinFields,
    List.map_cons, List.sum_cons, NumberField.length_text, ascii, List.length_map, List.length_nil,
    nmeaMaxSize]
  rw [← fieldBytes]
  omega

theorem GsaSentence.length_line (sentence : GsaSentence) :
    8 ≤ (NmeaSentence.gsa sentence).line.length ∧
      (NmeaSentence.gsa sentence).line.length < nmeaMaxSize := by
  have mode := sentence.mode.short
  have fix := sentence.fix.short
  have pdop := sentence.pdop.short
  have hdop := sentence.hdop.short
  have vdop := sentence.vdop.short
  have ids := fieldBytes_ids sentence.ids
  have atMost := sentence.atMost
  have ending := length_beforeNewline_le sentence.ending
  have idBytes : fieldBytes sentence.idFields ≤ 48 := by
    rw [GsaSentence.idFields, fieldBytes_append, fieldBytes_replicate]
    unfold gsaMaxSatellites at *
    omega
  have all := fieldBytes_append sentence.idFields
    [sentence.pdop.text, sentence.hdop.text, sentence.vdop.text]
  simp only [fieldBytes] at all idBytes
  simp only [NmeaSentence.line, NmeaSentence.fields, NmeaSentence.ending, GsaSentence.fields,
    GsaTalker.code, sentenceLine, List.cons_append, List.length_cons, List.length_append,
      length_joinFields,
    List.map_cons, List.sum_cons, NumberField.length_text, ascii, List.length_nil, nmeaMaxSize,
      all,
    List.map_nil, List.sum_nil]
  omega

theorem NmeaSentence.length_line (sentence : NmeaSentence) :
    8 ≤ sentence.line.length ∧ sentence.line.length < nmeaMaxSize := by
  cases sentence with
  | gsv sentence => exact sentence.length_line
  | gsa sentence => exact sentence.length_line

/-! ## A batch in one read -/

theorem readEvents_append (now : Int) (bytes : List UInt8) {rest : List UInt8} (more : rest ≠ []) :
    readEvents now (bytes ++ rest) =
      bytes.map (ReaderEvent.addc now false) ++ readEvents now rest := by
  induction bytes with
  | nil => rfl
  | cons byte bytes ih =>
      rw [List.cons_append, readEvents, ih, List.map_cons, List.cons_append]
      simp [more]

section Feed

variable {cfg : GpsConfig} {libc : LibcTime} {now : Int}

/-- A sentence is parsed when its newline arrives. -/
def parseLine (cfg : GpsConfig) (libc : LibcTime) (now : Int) (endTag : Bool) (line : List UInt8)
    (r : NmeaReader) : Parsed :=
  (nmeaReaderParse cfg libc now endTag { r with input := line ++ [newline] }).andThen fun r =>
    ({ r with input := [] }, [.nmeaCb r.fix.timestamp r.input])

theorem readerRun_body {body : List UInt8} (inLine : newline ∉ body) {r : NmeaReader}
    (clear : r.overflow = false) (room : r.input.length + body.length ≤ nmeaMaxSize) :
    readerRun cfg libc (body.map (ReaderEvent.addc now false)) r =
      ({ r with input := r.input ++ body }, []) := by
  induction body generalizing r with
  | nil => simp
  | cons byte body ih =>
      rw [List.mem_cons, not_or] at inLine
      rw [List.length_cons] at room
      have stored : nmeaReaderAddc cfg libc now false byte r =
          ({ r with input := r.input ++ [byte] }, []) := by
        rw [nmeaReaderAddc, if_neg (by rw [clear]; decide), if_neg (by omega)]
        exact if_neg (Ne.symm inLine.1)
      have rest := @ih inLine.2 { r with input := r.input ++ [byte] } clear (by
        simp only [List.length_append, List.length_singleton]
        omega)
      rw [List.map_cons, readerRun, readerStep, stored, Parsed.silent_andThen, rest]
      simp

/-- The bytes of a line that fits the buffer, from a reader with an empty one. -/
theorem readerRun_wholeLine {line : List UInt8} (inLine : newline ∉ line)
    (fits : line.length < nmeaMaxSize) (endTag : Bool) {r : NmeaReader}
    (clear : r.overflow = false)
    (empty : r.input = []) :
    readerRun cfg libc (line.map (ReaderEvent.addc now false) ++ [.addc now endTag newline]) r =
      parseLine cfg libc now endTag line r := by
  rw [readerRun_append, readerRun_body inLine clear (by rw [empty, List.length_nil]; omega)]
  have completed : nmeaReaderAddc cfg libc now endTag newline { r with input := r.input ++ line } =
      parseLine cfg libc now endTag line r := by
    rw [nmeaReaderAddc, if_neg (by rw [clear]; decide), if_neg (by rw [empty]; simpa using fits)]
    rw [empty]
    rfl
  rw [Parsed.silent_andThen, readerRun, readerStep, completed]
  exact Parsed.andThen_silent _

theorem readerRun_sentence (sentence : NmeaSentence) (endTag : Bool) {r : NmeaReader}
    (clear : r.overflow = false) (empty : r.input = []) :
    readerRun cfg libc
        (sentence.line.map (ReaderEvent.addc now false) ++ [.addc now endTag newline]) r =
      parseLine cfg libc now endTag sentence.line r :=
  readerRun_wholeLine sentence.newline_notMem_line sentence.length_line.2 endTag clear empty

theorem batchBytes_ne_nil {sentences : List NmeaSentence} (some : sentences ≠ []) :
    batchBytes sentences ≠ [] := by
  cases sentences with
  | nil => exact absurd rfl some
  | cons sentence sentences => simp [batchBytes]

/-- The last sentence of a read is parsed with the end tag. -/
theorem readerRun_last (sentence : NmeaSentence) {r : NmeaReader} (clear : r.overflow = false)
    (empty : r.input = []) :
    readerRun cfg libc (readEvents now (batchBytes [sentence])) r =
      parseLine cfg libc now true sentence.line r := by
  have bytes : batchBytes [sentence] = sentence.line ++ [newline] := by simp [batchBytes]
  rw [bytes, readEvents_append now _ (List.cons_ne_nil _ _)]
  exact readerRun_sentence sentence true clear empty

/-- The sentences before it are parsed without. -/
theorem readerRun_cons (sentence : NmeaSentence) {sentences : List NmeaSentence}
    (more : sentences ≠ []) {r : NmeaReader} (clear : r.overflow = false) (empty : r.input = []) :
    readerRun cfg libc (readEvents now (batchBytes (sentence :: sentences))) r =
      (parseLine cfg libc now false sentence.line r).andThen
        (readerRun cfg libc (readEvents now (batchBytes sentences))) := by
  have bytes : batchBytes (sentence :: sentences) =
      (sentence.line ++ [newline]) ++ batchBytes sentences := by
    simp [batchBytes]
  rw [bytes, readEvents_append now _ (batchBytes_ne_nil more), readerRun_append, List.map_append]
  exact congrArg (fun parsed => Parsed.andThen parsed _)
    (readerRun_sentence sentence false clear empty)

end Feed

end X3Hal.Gps
