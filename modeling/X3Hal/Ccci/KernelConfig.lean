import Mathlib.Data.List.TakeWhile
import X3Hal.Memory.Strings
import X3Hal.Transition.Loops

/-!
# The kernel's configuration of the modem

`parse_info` looks for a setting in lines of the form `[name]:value`.  It keeps a name and a value
in two arrays without a look at their sizes.  The records that it sees are those of a scanner that
has no arrays.
-/

namespace X3Hal.Ccci

open X3Hal.Memory
open X3Hal.Transition

/-! ## The state machine -/

def openBracket : UInt8 := 91

def closeBracket : UInt8 := 93

def colon : UInt8 := 58

def isLineEnd (byte : UInt8) : Bool :=
  byte = 13 ∨ byte = 10

/-- `state` -/
inductive ParseState
  | init
  | readName
  | getColon
  | readValue
  | checkName
  deriving DecidableEq

/-- The variables of `parse_info`. -/
structure Parser where
  state : ParseState
  j : Nat
  tmpName : List UInt8
  tmpVal : List UInt8
  deriving DecidableEq

/-- What a byte leads to: the next one, or the return with the value copied. -/
inductive Step
  | next (parser : Parser)
  | found (val : List UInt8)
  deriving DecidableEq

section Parse

variable (name : List UInt8) (size : Nat) (val : List UInt8)

/-- The last state: whether the name is the one that is asked for. -/
def checkName (parser : Parser) : Option Step := do
  let tmpName ← cString parser.tmpName 0
  if tmpName = name then
    let tmpVal ← cString parser.tmpVal 0
    let val ← snprintf val 0 size tmpVal
    some (.found val)
  else some (.next { parser with state := .init })

/-- One round of `parse_info`; without a result, an array is left. -/
def parseByte (parser : Parser) (byte : UInt8) : Option Step :=
  match parser.state with
  | .init =>
      if byte = openBracket then some (.next { parser with j := 0, state := .readName })
      else some (.next parser)
  | .readName =>
      if byte = closeBracket then do
        let tmpName ← store parser.tmpName parser.j [0]
        some (.next { parser with state := .getColon, tmpName := tmpName, j := 0 })
      else if isLineEnd byte then some (.next { parser with j := 0, state := .init })
      else do
        let tmpName ← store parser.tmpName parser.j [byte]
        some (.next { parser with tmpName := tmpName, j := parser.j + 1 })
  | .getColon =>
      if byte = colon then do
        let tmpVal ← store parser.tmpVal 0 [0]
        some (.next { parser with state := .readValue, tmpVal := tmpVal })
      else some (.next { parser with state := .init })
  | .readValue =>
      if isLineEnd byte then do
        let tmpVal ← store parser.tmpVal parser.j [0]
        -- There is no `break` here.
        checkName name size val { parser with state := .checkName, tmpVal := tmpVal, j := 0 }
      else do
        let tmpVal ← store parser.tmpVal parser.j [byte]
        some (.next { parser with tmpVal := tmpVal, j := parser.j + 1 })
  | .checkName => checkName name size val parser

/-- The loop of `parse_info`: what is returned, and `val`. -/
def parseLoop : Parser → List UInt8 → Option (Int × List UInt8)
  | _, [] => some (-1, val)
  | parser, byte :: rest =>
      match parseByte name size val parser byte with
      | none => none
      | some (.found val) => some (0, val)
      | some (.next parser) => parseLoop parser rest

end Parse

/-- `parse_info`, with anything in its arrays. -/
def parseInfo {size : Nat} (tmpName tmpVal : Vector UInt8 32) (raw name : List UInt8)
    (val : Vector UInt8 size) : Option (Int × List UInt8) :=
  parseLoop name size val.toList ⟨.init, 0, tmpName.toList, tmpVal.toList⟩ raw

/-- `query_kcfg_setting`, for what is in the buffer before, whether the file is opened and the
buffer is there, and what the file has. -/
def queryKcfgSetting {size : Nat} (tmpName tmpVal : Vector UInt8 32) (rawBuf : Vector UInt8 4096)
    (opened allocated : Bool) (file : Option (List UInt8)) (name : List UInt8)
    (val : Vector UInt8 size) : Option (Int × List UInt8) :=
  if opened = false then some (-1, val.toList)
  else if allocated = false then some (-2, val.toList)
  else
    match file.map (List.take 4096) with
    | none | some [] => some (-3, val.toList)
    | some (first :: rest) => do
        let read := first :: rest
        let rawBuf ← store rawBuf.toList 0 read
        let ret := if read.length = 4096 then read.length - 1 else read.length
        let rawBuf ← store rawBuf ret [0]
        parseInfo tmpName tmpVal (rawBuf.take ret) name val

/-! ## Records -/

/-- What the parser meets in a text. -/
inductive Item
  /-- a name that no bracket ends -/
  | cut (name : List UInt8)
  /-- a name without a colon behind its bracket -/
  | closed (name : List UInt8)
  | record (name value : List UInt8)
  /-- a record that no line end ends -/
  | unended (name value : List UInt8)
  deriving DecidableEq

/-- Where a scanner is, and what it has read there. -/
inductive Scan
  | outside
  | name (read : List UInt8)
  | closed (name : List UInt8)
  | value (name read : List UInt8)

/-- The items of a text. -/
def items : Scan → List UInt8 → List Item
  | .outside, [] => []
  | .outside, byte :: rest =>
      if byte = openBracket then items (.name []) rest else items .outside rest
  | .name read, [] => [.cut read]
  | .name read, byte :: rest =>
      if byte = closeBracket then items (.closed read) rest
      else if isLineEnd byte then .cut read :: items .outside rest
      else items (.name (read ++ [byte])) rest
  | .closed name, [] => [.closed name]
  | .closed name, byte :: rest =>
      if byte = colon then items (.value name []) rest
      else .closed name :: items .outside rest
  | .value name read, [] => [.unended name read]
  | .value name read, byte :: rest =>
      if isLineEnd byte then .record name read :: items .outside rest
      else items (.value name (read ++ [byte])) rest

/-- The bytes in front of a NUL. -/
def textOf (bytes : List UInt8) : List UInt8 :=
  bytes.takeWhile (· ≠ 0)

namespace Item

/-- The arrays have room for an item, with a NUL where the code puts one. -/
def Fits : Item → Prop
  | cut name => name.length ≤ 32
  | closed name => name.length < 32
  | record name value => name.length < 32 ∧ value.length < 32
  | unended name value => name.length < 32 ∧ value.length ≤ 32

instance (item : Item) : Decidable item.Fits :=
  match item with
  | cut _ => inferInstanceAs (Decidable (_ ≤ _))
  | closed _ => inferInstanceAs (Decidable (_ < _))
  | record _ _ => inferInstanceAs (Decidable (_ ∧ _))
  | unended _ _ => inferInstanceAs (Decidable (_ ∧ _))

/-- The value of a record of a name. -/
def value (query : List UInt8) : Item → Option (List UInt8)
  | record name value => if textOf name = query then some (textOf value) else none
  | cut _ | closed _ | unended _ _ => none

end Item

/-- Every item fits up to the first record of the name. -/
def ItemsFit (query : List UInt8) : List Item → Prop :=
  Justified fun earlier item => (∀ other ∈ earlier, other.value query = none) → item.Fits

/-! ## Lines -/

/-- A line of text, with its end. -/
structure Line where
  text : List UInt8
  crlf : Bool
  plain : ∀ byte ∈ text, byte ≠ 0 ∧ isLineEnd byte = false

namespace Line

def bytes (line : Line) : List UInt8 :=
  line.text ++ if line.crlf then [13, 10] else [10]

/-- The name and the value of a line `[name]:value`. -/
def setting (line : Line) : Option (List UInt8 × List UInt8) :=
  match line.text with
  | [] => none
  | first :: rest =>
      let name := rest.takeWhile (· ≠ closeBracket)
      let behind := rest.drop name.length
      if first = openBracket ∧ behind.take 2 = [closeBracket, colon] then
        some (name, behind.drop 2)
      else none

/-- The value of a line of a name. -/
def value (query : List UInt8) (line : Line) : Option (List UInt8) :=
  line.setting.bind fun setting => if setting.1 = query then some setting.2 else none

/-- The value of a record of a name that the parser meets in a line. -/
def met (query : List UInt8) (line : Line) : Option (List UInt8) :=
  (items .outside (line.text ++ [10])).findSome? (Item.value query)

end Line

def bytesOf (lines : List Line) : List UInt8 :=
  lines.flatMap Line.bytes

/-! ## What the parser is to return -/

section Config

variable {size : Nat}

/-- The value that is asked for is in `val`, cut to its size. -/
structure Returned (value : List UInt8) (ret : Int) (after : List UInt8) (size : Nat) : Prop where
  ret : ret = 0
  val : size ≠ 0 → cString after 0 = some (value.take (size - 1))

/-- No array is left, and of lines the value of the first that has the name is returned; without
one, `val` stays. -/
def ConfigExact (tmpName tmpVal : Vector UInt8 32) (raw name : List UInt8)
    (val : Vector UInt8 size) : Prop :=
  ∃ ret after, parseInfo tmpName tmpVal raw name val = some (ret, after) ∧
    ∀ lines, raw = bytesOf lines →
      match lines.findSome? (Line.value name) with
      | some value => Returned value ret after size
      | none => ret = -1 ∧ after = val.toList

/-- A line that is no setting and has a record of the name nevertheless, with no record of the name
before it, has the same value as the first setting after it. -/
def OthersFit (query : List UInt8) (size : Nat) (lines : List Line) : Prop :=
  ∀ earlier line later value, lines = earlier ++ line :: later →
    (∀ other ∈ earlier, other.met query = none) → line.setting = none →
    line.met query = some value →
    ∃ same, later.findSome? (Line.value query) = some same ∧
      (size ≠ 0 → value.take (size - 1) = same.take (size - 1))

/-- The items of the text fit, and its lines do. -/
structure ConfigFits (raw name : List UInt8) (size : Nat) : Prop where
  items : ItemsFit name (items .outside raw)
  others : ∀ lines, raw = bytesOf lines → OthersFit name size lines

end Config

/-! ## What the items give -/

section Outcome

variable (query : List UInt8) (size : Nat) (val : List UInt8)

/-- What is returned for items, unless one before does not fit. -/
def outcome : List Item → Option (Int × List UInt8)
  | [] => some (-1, val)
  | item :: rest =>
      if item.Fits then
        match item.value query with
        | some value => (snprintf val 0 size value).map fun val => (0, val)
        | none => outcome rest
      else none

variable {query size val}

theorem outcome_of_not_fits (item : Item) (large : ¬ item.Fits) (rest : List Item) :
    outcome query size val (item :: rest) = none :=
  if_neg large

/-- An item without a value of the name is passed by. -/
theorem outcome_pass (item : Item) (fits : item.Fits) (other : item.value query = none)
    (rest : List Item) : outcome query size val (item :: rest) = outcome query size val rest := by
  rw [outcome, if_pos fits, other]

theorem outcome_record {name value : List UInt8} (fits : name.length < 32 ∧ value.length < 32)
    (rest : List Item) :
    outcome query size val (.record name value :: rest) =
      if textOf name = query then (snprintf val 0 size (textOf value)).map fun val => (0, val)
      else outcome query size val rest := by
  rw [outcome, if_pos (show (Item.record name value).Fits from fits), Item.value]
  by_cases same : textOf name = query
  · rw [if_pos same, if_pos same]
  · rw [if_neg same, if_neg same]

/-! Whatever follows, a name or a value that is too long does not fit. -/

theorem outcome_value_long {name read : List UInt8}
    (long : ¬ (name.length < 32 ∧ read.length ≤ 32)) (raw : List UInt8) :
    outcome query size val (items (.value name read) raw) = none := by
  induction raw generalizing read with
  | nil => exact outcome_of_not_fits (.unended name read) long []
  | cons byte rest ih =>
      rw [items]
      split
      · have large : ¬ (Item.record name read).Fits :=
          fun fits => long ⟨fits.1, Nat.le_of_lt fits.2⟩
        exact outcome_of_not_fits _ large _
      · apply ih
        rw [List.length_append]
        exact fun fits => long ⟨fits.1, by omega⟩

theorem outcome_closed_long {name : List UInt8} (long : ¬ name.length < 32) (raw : List UInt8) :
    outcome query size val (items (.closed name) raw) = none := by
  cases raw with
  | nil => exact outcome_of_not_fits (.closed name) long []
  | cons byte rest =>
      rw [items]
      split
      · exact outcome_value_long (fun fits => long fits.1) rest
      · exact outcome_of_not_fits (.closed name) long _

theorem outcome_name_long {read : List UInt8} (long : ¬ read.length ≤ 32) (raw : List UInt8) :
    outcome query size val (items (.name read) raw) = none := by
  induction raw generalizing read with
  | nil => exact outcome_of_not_fits (.cut read) long []
  | cons byte rest ih =>
      rw [items]
      split
      · exact outcome_closed_long (by omega) rest
      · split
        · exact outcome_of_not_fits (.cut read) long _
        · apply ih
          rw [List.length_append]
          omega

end Outcome

/-! ## The parser and the scanner -/

/-- An array of 32 bytes begins with these. -/
def Begins (array read : List UInt8) : Prop :=
  array.length = 32 ∧ read <+: array

theorem Begins.length_le {array read : List UInt8} (begins : Begins array read) :
    read.length ≤ 32 :=
  begins.1 ▸ begins.2.length_le

/-- The next byte is stored behind them while there is room. -/
theorem Begins.store {array read : List UInt8} (begins : Begins array read) (byte : UInt8) :
    if read.length < 32 then
      ∃ after, store array read.length [byte] = some after ∧ Begins after (read ++ [byte])
    else store array read.length [byte] = none := by
  obtain ⟨length, more, rfl⟩ := begins
  cases more with
  | nil =>
      rw [List.append_nil] at length ⊢
      rw [if_neg (by omega)]
      exact store_eq_none (by simp)
  | cons old more =>
      have stored := @store_split _ [old] [byte] rfl read more
      rw [if_pos (by rw [List.length_append, List.length_cons] at length; omega)]
      refine ⟨_, stored, ?_, ?_⟩
      · rw [← length]
        simp
      · rw [← List.append_assoc]
        exact List.prefix_append _ _

/-- What is read of an array that has a NUL behind them. -/
theorem Begins.cString {array read : List UInt8} (begins : Begins array (read ++ [0])) :
    cString array 0 = some (textOf read) := by
  obtain ⟨-, more, rfl⟩ := begins
  rw [List.append_assoc, List.singleton_append]
  exact cString_cut [] read more

/-- The parser is where the scanner is, and its arrays have what the scanner has read. -/
def Agrees (parser : Parser) : Scan → Prop
  | .outside => parser.state = .init ∧ parser.tmpName.length = 32 ∧ parser.tmpVal.length = 32
  | .name read => parser.state = .readName ∧ parser.j = read.length ∧
      Begins parser.tmpName read ∧ parser.tmpVal.length = 32
  | .closed name => parser.state = .getColon ∧ parser.j = 0 ∧
      Begins parser.tmpName (name ++ [0]) ∧ parser.tmpVal.length = 32
  | .value name read => parser.state = .readValue ∧ parser.j = read.length ∧
      Begins parser.tmpName (name ++ [0]) ∧ Begins parser.tmpVal read

theorem Begins.length_lt {array read : List UInt8} {byte : UInt8}
    (begins : Begins array (read ++ [byte])) : read.length < 32 := by
  have within := begins.length_le
  rw [List.length_append, List.length_singleton] at within
  omega

section Loop

variable {name : List UInt8} {size : Nat} {val : List UInt8} {parser : Parser}

/-- What a byte does to the parser is what it does to the scanner. -/
inductive Follows (name : List UInt8) (size : Nat) (val : List UInt8) (result : Option Step)
    (given : List UInt8 → Option (Int × List UInt8)) : Prop
  | next (parser : Parser) (scan : Scan) (isNext : result = some (.next parser))
      (agrees : Agrees parser scan)
      (same : ∀ rest, given rest = outcome name size val (items scan rest))
  | found (value : List UInt8) (isFound : result = (snprintf val 0 size value).map .found)
      (same : ∀ rest, given rest = (snprintf val 0 size value).map fun val => (0, val))
  | fails (isNone : result = none) (same : ∀ rest, given rest = none)

/-- A byte that is stored, when there is room -/
theorem Begins.follows {array read : List UInt8} (begins : Begins array read) {byte : UInt8}
    {next : List UInt8 → Option Step} {given : List UInt8 → Option (Int × List UInt8)}
    (goesOn : ∀ after, Begins after (read ++ [byte]) → Follows name size val (next after) given)
    (stops : ¬ read.length < 32 → ∀ rest, given rest = none) :
    Follows name size val ((Memory.store array read.length [byte]).bind next) given := by
  have stores := begins.store byte
  by_cases room : read.length < 32
  · rw [if_pos room] at stores
    obtain ⟨after, stored, beginsAfter⟩ := stores
    rw [stored]
    exact goesOn after beginsAfter
  · rw [if_neg room] at stores
    rw [stores]
    exact .fails rfl (stops room)

theorem parseByte_outside (agrees : Agrees parser .outside) (byte : UInt8) :
    Follows name size val (parseByte name size val parser byte)
      fun rest => outcome name size val (items .outside (byte :: rest)) := by
  obtain ⟨state, lengthName, lengthVal⟩ := agrees
  simp only [parseByte, state, items]
  by_cases opens : byte = openBracket
  · simp only [if_pos opens]
    exact .next _ (.name []) rfl ⟨rfl, rfl, ⟨lengthName, List.nil_prefix⟩, lengthVal⟩
      fun _ => rfl
  · simp only [if_neg opens]
    exact .next _ .outside rfl ⟨state, lengthName, lengthVal⟩ fun _ => rfl

theorem parseByte_name {read : List UInt8} (agrees : Agrees parser (.name read)) (byte : UInt8) :
    Follows name size val (parseByte name size val parser byte)
      fun rest => outcome name size val (items (.name read) (byte :: rest)) := by
  obtain ⟨state, index, begins, lengthVal⟩ := agrees
  simp only [parseByte, state, index, items]
  by_cases closes : byte = closeBracket
  · simp only [if_pos closes]
    apply begins.follows
    · exact fun after beginsAfter =>
        .next _ (.closed read) rfl ⟨rfl, rfl, beginsAfter, lengthVal⟩ fun _ => rfl
    · exact fun full rest => outcome_closed_long full rest
  · simp only [if_neg closes]
    by_cases ends : isLineEnd byte = true
    · simp only [if_pos ends]
      exact .next _ .outside rfl ⟨rfl, begins.1, lengthVal⟩
        fun rest => outcome_pass (.cut read) begins.length_le rfl _
    · simp only [if_neg ends]
      apply begins.follows
      · exact fun after beginsAfter => .next _ (.name (read ++ [byte])) rfl
          ⟨rfl, by simp, beginsAfter, lengthVal⟩ fun _ => rfl
      · intro full rest
        apply outcome_name_long
        rw [List.length_append, List.length_singleton]
        omega

theorem parseByte_closed {closed : List UInt8} (agrees : Agrees parser (.closed closed))
    (byte : UInt8) :
    Follows name size val (parseByte name size val parser byte)
      fun rest => outcome name size val (items (.closed closed) (byte :: rest)) := by
  obtain ⟨state, index, begins, lengthVal⟩ := agrees
  simp only [parseByte, state, items]
  by_cases divides : byte = colon
  · simp only [if_pos divides]
    have empty : Begins parser.tmpVal [] := ⟨lengthVal, List.nil_prefix⟩
    apply empty.follows
    · intro after beginsAfter
      exact .next _ (.value closed []) rfl
        ⟨rfl, index, begins, beginsAfter.1, List.nil_prefix⟩ fun _ => rfl
    · exact fun full => absurd (Nat.succ_pos 31) full
  · simp only [if_neg divides]
    exact .next _ .outside rfl ⟨rfl, begins.1, lengthVal⟩
      fun rest => outcome_pass (.closed closed) begins.length_lt rfl _

theorem parseByte_value {stored read : List UInt8} (agrees : Agrees parser (.value stored read))
    (byte : UInt8) :
    Follows name size val (parseByte name size val parser byte)
      fun rest => outcome name size val (items (.value stored read) (byte :: rest)) := by
  obtain ⟨state, index, begins, beginsVal⟩ := agrees
  simp only [parseByte, state, index, items]
  by_cases ends : isLineEnd byte = true
  · simp only [if_pos ends]
    apply beginsVal.follows
    · intro after beginsAfter
      have fits := And.intro begins.length_lt beginsAfter.length_lt
      simp only [checkName, begins.cString, beginsAfter.cString, outcome_record fits,
        Option.bind_eq_bind, Option.bind_some]
      by_cases same : textOf stored = name
      · simp only [if_pos same]
        refine .found (textOf read) ?_ fun _ => rfl
        cases snprintf val 0 size (textOf read) with
        | none => rfl
        | some after => rfl
      · simp only [if_neg same]
        exact .next _ .outside rfl ⟨rfl, begins.1, beginsAfter.1⟩ fun _ => rfl
    · intro full rest
      exact outcome_of_not_fits (.record stored read) (fun fits => full fits.2) _
  · simp only [if_neg ends]
    apply beginsVal.follows
    · exact fun after beginsAfter => .next _ (.value stored (read ++ [byte])) rfl
        ⟨rfl, by simp, begins, beginsAfter⟩ fun _ => rfl
    · intro full rest
      apply outcome_value_long
      rw [List.length_append, List.length_singleton]
      omega

/-- The text is over. -/
theorem outcome_nil {scan : Scan} (agrees : Agrees parser scan) :
    outcome name size val (items scan []) = some (-1, val) := by
  cases scan with
  | outside => rfl
  | name read => exact outcome_pass (.cut read) agrees.2.2.1.length_le rfl []
  | closed closed => exact outcome_pass (.closed closed) agrees.2.2.1.length_lt rfl []
  | value stored read =>
      exact outcome_pass (.unended stored read)
        ⟨agrees.2.2.1.length_lt, agrees.2.2.2.length_le⟩ rfl []

theorem parseByte_follows {scan : Scan} (agrees : Agrees parser scan) (byte : UInt8) :
    Follows name size val (parseByte name size val parser byte)
      fun rest => outcome name size val (items scan (byte :: rest)) := by
  cases scan with
  | outside => exact parseByte_outside agrees byte
  | name read => exact parseByte_name agrees byte
  | closed closed => exact parseByte_closed agrees byte
  | value stored read => exact parseByte_value agrees byte

theorem parseLoop_eq {scan : Scan} (agrees : Agrees parser scan) (raw : List UInt8) :
    parseLoop name size val parser raw = outcome name size val (items scan raw) := by
  induction raw generalizing parser scan with
  | nil => exact (outcome_nil agrees).symm
  | cons byte rest ih =>
      rw [parseLoop]
      cases parseByte_follows agrees byte with
      | next after scanNext isNext agreesNext same =>
          rw [isNext, same]
          exact ih agreesNext
      | found value isFound same =>
          rw [isFound, same]
          cases snprintf val 0 size value with
          | none => rfl
          | some after => rfl
      | fails isNone same => rw [isNone, same]

end Loop

theorem parseInfo_eq {size : Nat} (tmpName tmpVal : Vector UInt8 32) (raw name : List UInt8)
    (val : Vector UInt8 size) :
    parseInfo tmpName tmpVal raw name val =
      outcome name size val.toList (items .outside raw) := by
  apply parseLoop_eq
  exact ⟨rfl, tmpName.length_toList, tmpVal.length_toList⟩

/-! ## Items that fit -/

section Items

variable {query : List UInt8} {size : Nat}

theorem itemsFit_cons_iff (item : Item) (rest : List Item) :
    ItemsFit query (item :: rest) ↔
      item.Fits ∧ (item.value query = none → ItemsFit query rest) := by
  rw [ItemsFit, justified_cons_iff]
  constructor
  · rintro ⟨here, later⟩
    refine ⟨here (List.forall_mem_nil _), ?_⟩
    intro other before next after split others
    exact later before next after split (List.forall_mem_cons.mpr ⟨other, others⟩)
  · rintro ⟨here, later⟩
    refine ⟨fun _ => here, ?_⟩
    intro before next after split others
    rw [List.forall_mem_cons] at others
    exact later others.1 before next after split others.2

theorem outcome_isSome_iff {val : List UInt8} (room : size ≤ val.length) (list : List Item) :
    (outcome query size val list).isSome ↔ ItemsFit query list := by
  induction list with
  | nil => exact iff_of_true rfl justified_nil
  | cons item rest ih =>
      rw [itemsFit_cons_iff, ← ih, outcome]
      by_cases fits : item.Fits
      · rw [if_pos fits]
        cases isValue : item.value query with
        | none => simp [fits]
        | some value =>
            have copied := @snprintf_isSome val 0 size value (by omega)
            simp [fits, copied]
      · simp [fits]

/-- What is returned for items that fit. -/
theorem outcome_eq {val : List UInt8} {list : List Item} (fits : ItemsFit query list) :
    outcome query size val list =
      match list.findSome? (Item.value query) with
      | some value => (snprintf val 0 size value).map fun val => (0, val)
      | none => some (-1, val) := by
  induction list with
  | nil => rfl
  | cons item rest ih =>
      obtain ⟨fitsHere, fitsLater⟩ := (itemsFit_cons_iff item rest).mp fits
      rw [outcome, if_pos fitsHere, List.findSome?_cons]
      cases isValue : item.value query with
      | none => exact ih (fitsLater isValue)
      | some value => rfl

end Items

/-! ## Items of lines -/

theorem not_special_of_isLineEnd {byte : UInt8} (ends : isLineEnd byte = true) :
    byte ≠ openBracket ∧ byte ≠ closeBracket ∧ byte ≠ colon := by
  rcases of_decide_eq_true ends with rfl | rfl
  · decide
  · decide

/-- A line end ends whatever the scanner has begun. -/
theorem items_lineEnd (scan : Scan) {last : UInt8} (ends : isLineEnd last = true)
    (rest : List UInt8) :
    items scan (last :: rest) = items scan [10] ++ items .outside rest := by
  obtain ⟨notOpen, notClose, notColon⟩ := not_special_of_isLineEnd ends
  cases scan with
  | outside =>
      rw [items, if_neg notOpen]
      rfl
  | name read =>
      rw [items, if_neg notClose, if_pos ends]
      rfl
  | closed name =>
      rw [items, if_neg notColon]
      rfl
  | value name read =>
      rw [items, if_pos ends]
      rfl

theorem items_line (scan : Scan) {text : List UInt8}
    (plain : ∀ byte ∈ text, isLineEnd byte = false) {last : UInt8} (ends : isLineEnd last = true)
    (rest : List UInt8) :
    items scan (text ++ last :: rest) = items scan (text ++ [10]) ++ items .outside rest := by
  induction text generalizing scan with
  | nil => exact items_lineEnd scan ends rest
  | cons byte text ih =>
      obtain ⟨inside, plainRest⟩ := List.forall_mem_cons.mp plain
      have next (scan : Scan) := ih scan plainRest
      cases scan with
      | outside =>
          simp only [List.cons_append, items]
          split
          · exact next _
          · exact next _
      | name read =>
          simp only [List.cons_append, items, inside, Bool.false_eq_true, if_false]
          split
          · exact next _
          · exact next _
      | closed name =>
          simp only [List.cons_append, items]
          split
          · exact next _
          · exact congrArg _ (next _)
      | value name read =>
          simp only [List.cons_append, items, inside, Bool.false_eq_true, if_false]
          exact next _

theorem items_bytes (line : Line) (rest : List UInt8) :
    items .outside (line.bytes ++ rest) =
      items .outside (line.text ++ [10]) ++ items .outside rest := by
  have plain (byte : UInt8) (among : byte ∈ line.text) := (line.plain byte among).2
  rw [Line.bytes, List.append_assoc]
  split
  · exact items_line .outside plain rfl (10 :: rest)
  · exact items_line .outside plain rfl rest

theorem items_bytesOf (lines : List Line) :
    items .outside (bytesOf lines) =
      lines.flatMap fun line => items .outside (line.text ++ [10]) := by
  induction lines with
  | nil => rfl
  | cons line lines ih =>
      rw [bytesOf, List.flatMap_cons, items_bytes, List.flatMap_cons, ← ih]
      rfl

/-- The first record of lines is that of the first line with one. -/
theorem findSome?_items_bytesOf (query : List UInt8) (lines : List Line) :
    (items .outside (bytesOf lines)).findSome? (Item.value query) =
      lines.findSome? (Line.met query) := by
  rw [items_bytesOf]
  induction lines with
  | nil => rfl
  | cons line lines ih =>
      rw [List.flatMap_cons, List.findSome?_append, ih, List.findSome?_cons, ← Line.met]
      cases line.met query with
      | none => rfl
      | some value => rfl

/-- A name is read up to its bracket. -/
theorem items_name (read : List UInt8) {name : List UInt8} (plain : ∀ byte ∈ name,
    byte ≠ closeBracket ∧ isLineEnd byte = false) (rest : List UInt8) :
    items (.name read) (name ++ closeBracket :: rest) = items (.closed (read ++ name)) rest := by
  induction name generalizing read with
  | nil =>
      rw [List.append_nil]
      exact if_pos rfl
  | cons byte name ih =>
      obtain ⟨⟨other, inside⟩, plainRest⟩ := List.forall_mem_cons.mp plain
      rw [List.cons_append, items, if_neg other, inside, if_neg Bool.false_ne_true, ih _ plainRest,
        List.append_assoc, List.singleton_append]

/-- A value is read up to the line end. -/
theorem items_value (name read : List UInt8) {value : List UInt8}
    (plain : ∀ byte ∈ value, isLineEnd byte = false) :
    items (.value name read) (value ++ [10]) = [.record name (read ++ value)] := by
  induction value generalizing read with
  | nil =>
      rw [List.append_nil]
      rfl
  | cons byte value ih =>
      obtain ⟨inside, plainRest⟩ := List.forall_mem_cons.mp plain
      rw [List.cons_append, items, inside, if_neg Bool.false_ne_true, ih _ plainRest,
        List.append_assoc, List.singleton_append]

/-- The line of a setting -/
theorem text_of_setting {line : Line} {name value : List UInt8}
    (isSetting : line.setting = some (name, value)) :
    line.text = openBracket :: (name ++ closeBracket :: colon :: value) ∧ closeBracket ∉ name := by
  unfold Line.setting at isSetting
  split at isSetting
  case h_1 => cases isSetting
  case h_2 first rest isText =>
    simp only at isSetting
    split at isSetting
    case isFalse => cases isSetting
    case isTrue shape =>
      simp only [Option.some.injEq, Prod.mk.injEq] at isSetting
      obtain ⟨isName, isValue⟩ := isSetting
      obtain ⟨behind, parts⟩ := List.takeWhile_prefix (l := rest) (· ≠ closeBracket)
      rw [isName] at shape isValue parts
      rw [← parts, List.drop_left] at shape isValue
      have split := List.take_append_drop 2 behind
      rw [shape.2, isValue] at split
      rw [isText, shape.1, ← parts, ← split]
      refine ⟨rfl, ?_⟩
      rw [← isName]
      intro among
      have differs := List.mem_takeWhile_imp among
      exact absurd rfl (of_decide_eq_true differs)

/-- A setting is met as it is. -/
theorem met_of_setting {line : Line} {query : List UInt8} (isSetting : line.setting ≠ none) :
    line.met query = line.value query := by
  obtain ⟨⟨name, value⟩, isSome⟩ := Option.ne_none_iff_exists'.mp isSetting
  obtain ⟨text, bracket⟩ := text_of_setting isSome
  have plain := line.plain
  rw [text] at plain
  have plainName (byte : UInt8) (among : byte ∈ name) := plain byte (by simp [among])
  have plainValue (byte : UInt8) (among : byte ∈ value) := plain byte (by simp [among])
  have readsName := @items_name [] name
    (fun byte among => ⟨fun same => bracket (same ▸ among), (plainName byte among).2⟩)
    (colon :: value ++ [10])
  have readsValue := @items_value name [] value fun byte among => (plainValue byte among).2
  have record : items .outside (line.text ++ [10]) = [.record name value] := by
    rw [text, List.cons_append, List.append_assoc]
    exact readsName.trans readsValue
  have isName : textOf name = name := by
    rw [textOf, List.takeWhile_eq_self_iff]
    exact fun byte among => decide_eq_true (plainName byte among).1
  have isValue : textOf value = value := by
    rw [textOf, List.takeWhile_eq_self_iff]
    exact fun byte among => decide_eq_true (plainValue byte among).1
  rw [Line.met, record, Line.value, isSome, List.findSome?_singleton, Item.value, isName, isValue]
  rfl

/-! ## The configuration -/

section Exact

variable {size : Nat} {query : List UInt8}

/-- The values of two lists of lines are the same for the caller. -/
def SameValue (size : Nat) : Option (List UInt8) → Option (List UInt8) → Prop
  | none, none => True
  | some value, some other => size ≠ 0 → value.take (size - 1) = other.take (size - 1)
  | none, some _ | some _, none => False

theorem value_of_met_none {line : Line} (unmet : line.met query = none) :
    line.value query = none := by
  by_cases isSetting : line.setting = none
  · rw [Line.value, isSetting]
    rfl
  · exact (met_of_setting isSetting).symm.trans unmet

theorem othersFit_cons_iff (line : Line) (lines : List Line) :
    OthersFit query size (line :: lines) ↔
      (line.setting = none → ∀ value, line.met query = some value →
        SameValue size (some value) (lines.findSome? (Line.value query))) ∧
      (line.met query = none → OthersFit query size lines) := by
  constructor
  · intro fits
    constructor
    · intro other value isMet
      obtain ⟨same, found, agrees⟩ :=
        fits [] line lines value rfl (List.forall_mem_nil _) other isMet
      rw [found]
      exact agrees
    · intro unmet earlier next later value split others
      exact fits (line :: earlier) next later value (congrArg (line :: ·) split)
        (List.forall_mem_cons.mpr ⟨unmet, others⟩)
  · rintro ⟨here, behind⟩ earlier next later value split others
    cases earlier with
    | nil =>
        obtain ⟨rfl, rfl⟩ := List.cons.inj split
        intro other isMet
        have agrees := here other value isMet
        cases found : lines.findSome? (Line.value query) with
        | none =>
            rw [found] at agrees
            exact agrees.elim
        | some same =>
            rw [found] at agrees
            exact ⟨same, rfl, agrees⟩
    | cons first earlier =>
        obtain ⟨rfl, rfl⟩ := List.cons.inj split
        rw [List.forall_mem_cons] at others
        exact behind others.1 earlier next later value rfl others.2

/-- What is met first has the value of the first setting exactly when the other lines fit. -/
theorem othersFit_iff (lines : List Line) :
    OthersFit query size lines ↔
      SameValue size (lines.findSome? (Line.met query)) (lines.findSome? (Line.value query)) := by
  induction lines with
  | nil =>
      refine iff_of_true ?_ trivial
      intro earlier line later value split
      simp at split
  | cons line lines ih =>
      rw [othersFit_cons_iff, List.findSome?_cons, List.findSome?_cons, ih]
      cases isMet : line.met query with
      | none => simp [value_of_met_none isMet]
      | some value =>
          by_cases other : line.setting = none
          · have without : line.value query = none := by
              rw [Line.value, other]
              rfl
            simp [other, without]
          · have same : line.value query = some value := (met_of_setting other).symm.trans isMet
            simp [other, same, SameValue]

/-- What is copied is cut to the size of `val`. -/
theorem cString_snprintf {val after value : List UInt8} (plain : 0 ∉ value) (someRoom : size ≠ 0)
    (copied : snprintf val 0 size value = some after) :
    cString after 0 = some (value.take (size - 1)) := by
  rw [snprintf, if_neg someRoom, store] at copied
  split at copied
  case isFalse => cases copied
  case isTrue =>
    cases copied
    have cut : 0 ∉ value.take (size - 1) := fun among => plain (List.mem_of_mem_take among)
    have read := cString_split cut [] (val.drop (value.take (size - 1) ++ [0]).length)
    simpa using read

theorem plain_textOf (bytes : List UInt8) : 0 ∉ textOf bytes := by
  intro among
  have differs := List.mem_takeWhile_imp among
  exact absurd rfl (of_decide_eq_true differs)

theorem plain_of_findSome? {list : List Item} {value : List UInt8}
    (found : list.findSome? (Item.value query) = some value) : 0 ∉ value := by
  obtain ⟨item, -, isValue⟩ := List.exists_of_findSome?_eq_some found
  cases item with
  | record name stored =>
      rw [Item.value] at isValue
      split at isValue
      · cases isValue
        exact plain_textOf stored
      · cases isValue
  | cut _ | closed _ | unended _ _ => cases isValue

/-- What is returned for lines whose items fit is what is to be returned when the values of the
lines are the same. -/
theorem returned_iff {val : List UInt8} {lines : List Line} {ret : Int} {after : List UInt8}
    (fits : ItemsFit query (items .outside (bytesOf lines)))
    (given : outcome query size val (items .outside (bytesOf lines)) = some (ret, after)) :
    (match lines.findSome? (Line.value query) with
      | some value => Returned value ret after size
      | none => ret = -1 ∧ after = val) ↔
      SameValue size (lines.findSome? (Line.met query)) (lines.findSome? (Line.value query)) := by
  have found := findSome?_items_bytesOf query lines
  rw [outcome_eq fits] at given
  cases isMet : lines.findSome? (Line.met query) with
  | none =>
      rw [found, isMet] at given
      obtain ⟨rfl, rfl⟩ := Prod.mk.inj (Option.some.inj given)
      cases lines.findSome? (Line.value query) with
      | none => exact iff_of_true ⟨rfl, rfl⟩ trivial
      | some value => exact iff_of_false (fun returned => absurd returned.ret (by decide)) id
  | some met =>
      have plain := plain_of_findSome? (found.trans isMet)
      rw [found, isMet] at given
      obtain ⟨copy, copied, same⟩ := Option.map_eq_some_iff.mp given
      obtain ⟨rfl, rfl⟩ := Prod.mk.inj same
      cases lines.findSome? (Line.value query) with
      | none => exact iff_of_false (fun returned => absurd returned.1 (by decide)) id
      | some value =>
          constructor
          · intro returned someRoom
            have read := returned.val someRoom
            rw [cString_snprintf plain someRoom copied] at read
            exact Option.some.inj read
          · intro agrees
            refine ⟨rfl, fun someRoom => ?_⟩
            rw [cString_snprintf plain someRoom copied, agrees someRoom]

/-- What is asked for is returned exactly when every item fits and the other lines do. -/
theorem configExact_iff (tmpName tmpVal : Vector UInt8 32) (raw name : List UInt8)
    (val : Vector UInt8 size) :
    ConfigExact tmpName tmpVal raw name val ↔ ConfigFits raw name size := by
  have room : size ≤ val.toList.length := val.length_toList.ge
  rw [ConfigExact, parseInfo_eq]
  constructor
  · rintro ⟨ret, after, given, law⟩
    have fits : ItemsFit name (items .outside raw) := by
      rw [← outcome_isSome_iff room, given]
      rfl
    refine ⟨fits, ?_⟩
    rintro lines rfl
    exact (othersFit_iff lines).mpr ((returned_iff fits given).mp (law lines rfl))
  · rintro ⟨fits, others⟩
    obtain ⟨⟨ret, after⟩, given⟩ :=
      Option.isSome_iff_exists.mp ((outcome_isSome_iff room _).mpr fits)
    refine ⟨ret, after, given, ?_⟩
    rintro lines rfl
    exact (returned_iff fits given).mpr ((othersFit_iff lines).mp (others lines rfl))

/-- A name of 32 bytes. -/
def longName : List UInt8 :=
  openBracket :: (List.replicate 32 97 ++ [closeBracket, colon, 49, 10])

/-- The NUL of the name is stored behind its array. -/
theorem config_longName :
    ¬ ConfigExact (Vector.replicate 32 0) (Vector.replicate 32 0) longName (ascii "a")
      (Vector.replicate 4 0) := by
  rintro ⟨ret, after, given, -⟩
  have fails : parseInfo (Vector.replicate 32 0) (Vector.replicate 32 0) longName (ascii "a")
      (Vector.replicate 4 0) = none := by
    decide +kernel
  rw [fails] at given
  cases given

end Exact

/-- The NUL that is stored behind a text does not change it. -/
theorem take_of_store_nul {block after : List UInt8} {place : Nat}
    (stored : store block place [0] = some after) : after.take place = block.take place := by
  have within := within_of_store stored
  rw [List.length_singleton] at within
  rw [store_nul_eq (by omega), Option.some.injEq] at stored
  rw [← stored, List.take_set_of_le (Nat.le_refl place)]

/-- A file that is read is parsed up to a byte less than the buffer has. -/
theorem queryKcfgSetting_eq {size : Nat} (tmpName tmpVal : Vector UInt8 32)
    (rawBuf : Vector UInt8 4096) {file : List UInt8} (some_byte : file ≠ []) (name : List UInt8)
    (val : Vector UInt8 size) :
    queryKcfgSetting tmpName tmpVal rawBuf true true (some file) name val =
      parseInfo tmpName tmpVal (file.take 4095) name val := by
  obtain ⟨first, rest, isRead⟩ : ∃ first rest, file.take 4096 = first :: rest := by
    cases file with
    | nil => exact absurd rfl some_byte
    | cons first rest => exact ⟨first, rest.take 4095, rfl⟩
  have length := congrArg List.length isRead
  have cut : file.take 4095 = (first :: rest).take 4095 := by
    rw [← isRead, List.take_take]
    rfl
  rw [List.length_take] at length
  have fits : 0 + (first :: rest).length ≤ rawBuf.toList.length := by
    rw [Vector.length_toList]
    omega
  obtain ⟨block, stored⟩ := exists_store fits
  have sized := length_of_store stored
  rw [Vector.length_toList] at sized
  have begins : block.take (first :: rest).length = first :: rest := by
    rw [store, if_pos fits] at stored
    cases stored
    exact List.take_left
  have prefixOf {count : Nat} (short : count ≤ (first :: rest).length) :
      block.take count = (first :: rest).take count := by
    rw [← begins, List.take_take, Nat.min_eq_left short]
  have stores {count : Nat} (inside : count < 4096) :
      ∃ after, store block count [0] = some after := by
    apply exists_store
    rw [List.length_singleton]
    omega
  simp only [queryKcfgSetting, Bool.true_eq_false, if_false, Option.map_some, isRead, stored,
    Option.bind_eq_bind, Option.bind_some]
  split
  case isTrue full =>
    obtain ⟨after, ended⟩ := stores (show (first :: rest).length - 1 < 4096 by omega)
    rw [ended, Option.bind_some, take_of_store_nul ended, prefixOf (Nat.sub_le _ 1), full, cut]
  case isFalse short =>
    obtain ⟨after, ended⟩ := stores (show (first :: rest).length < 4096 by omega)
    rw [ended, Option.bind_some, take_of_store_nul ended, begins, cut, List.take_of_length_le]
    omega

end X3Hal.Ccci
