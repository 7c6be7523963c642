import X3Hal.Gps.EpoExpiry
import X3Hal.Memory.Strings
import X3Hal.Stream.Pieces

/-!
# The configuration of EPO downloads

`gps_download_epo_enable` reads `/data/misc/gps.conf` in pieces of up to 99 bytes.  `get_val` cuts
a piece into a key and a value; at a piece that is neither a comment nor has a `=` the rest of the
file is left.  The numbers are read from the values without their last characters.
-/

namespace X3Hal.Gps

open X3Hal.Stream

/-! ## Settings -/

/-- The keys of the file, each of which is for one global variable -/
inductive EpoKey
  | epoEnable | dwDays | gpsEpoPeriod | wifiEpoPeriod | epoWifiTrigger
  deriving DecidableEq, Repr

namespace EpoKey

def name : EpoKey → List UInt8
  | epoEnable => Memory.ascii "EPO_ENABLE"
  | dwDays => Memory.ascii "DW_DAYS"
  | gpsEpoPeriod => Memory.ascii "GPS_EPO_PERIOD"
  | wifiEpoPeriod => Memory.ascii "WIFI_EPO_PERIOD"
  | epoWifiTrigger => Memory.ascii "EPO_WIFI_TRIGGER"

def inRange : EpoKey → Int → Bool
  | epoEnable, value => value = 1 || value = 0
  | dwDays, value => !(value > 30 || value < 0)
  | gpsEpoPeriod, value => value = 30 || value = 3 || value = 15
  | wifiEpoPeriod, value => value = 30 || value = 3 || value = 15
  | epoWifiTrigger, value => value = 1 || value = 0

/-- What a value out of range is replaced by -/
def fallback : EpoKey → Int
  | epoEnable => 1
  | dwDays => 30
  | gpsEpoPeriod => 3
  | wifiEpoPeriod => 1
  | epoWifiTrigger => 1

def clamp (key : EpoKey) (value : Int) : Int :=
  if key.inRange value then value else key.fallback

end EpoKey

/-- `gps_epo_enable`, `gps_epo_download_days`, `gps_epo_period`, `wifi_epo_period` and
`gps_epo_wifi_trigger` -/
abbrev EpoSettings := EpoKey → Int

/-- The initial values -/
def defaultEpoSettings : EpoSettings
  | .epoEnable => 1
  | .dwDays => 30
  | .gpsEpoPeriod => 3
  | .wifiEpoPeriod => 1
  | .epoWifiTrigger => 0

/-! ## Loading -/

/-- `IS_SPACE` -/
def isConfSpace (byte : UInt8) : Bool :=
  byte = 32 || byte = 9 || byte = 10

/-- The first word of a text -/
def word (text : List UInt8) : List UInt8 :=
  (text.dropWhile isConfSpace).takeWhile fun byte => !isConfSpace byte

/-- The results of `get_val`: −1, no key for a comment, or a key with its value -/
inductive ConfPiece
  | error
  | comment
  | pair (key val : List UInt8)
  deriving DecidableEq

def getVal (text : List UInt8) : ConfPiece :=
  if text = [] then .error
  else if text.head? = some 35 then .comment
  else if text.getLast? ≠ some 10 ∧ 99 ≤ text.length then .error
  else if 61 ∈ text then
    .pair (text.takeWhile (· ≠ 61)) (word (text.dropWhile (· ≠ 61)).tail)
  else .error

/-- The variable of a key gets the number in front of the value's last character. -/
def setEpoValue (settings : EpoSettings) (key val : List UInt8) : EpoSettings := fun epoKey =>
  if key = epoKey.name then epoKey.clamp (str2int val.dropLast) else settings epoKey

/-- The loop over the pieces that `fgets` gives -/
def loadEpoPieces : List (List UInt8) → EpoSettings → Int × EpoSettings
  | [], settings => (settings .epoEnable, settings)
  | result :: rest, settings =>
      match getVal (result.takeWhile (· ≠ 0)) with
      | .error => (1, settings)
      | .comment => loadEpoPieces rest settings
      | .pair key val => loadEpoPieces rest (setEpoValue settings key val)

/-- The result of `gps_download_epo_enable`, and the settings after it -/
def gpsDownloadEpoEnable (file : Option (List UInt8)) (settings : EpoSettings) :
    Int × EpoSettings :=
  match file with
  | none => (1, settings)
  | some text => loadEpoPieces (pieces 10 99 text) settings

/-! ## Files -/

/-- A line of a configuration file, without the newline -/
inductive ConfLine
  | comment (text : List UInt8) (plain : ∀ byte ∈ text, byte ≠ 10 ∧ byte ≠ 0)
  | blank (text : List UInt8) (blanks : ∀ byte ∈ text, byte = 32 ∨ byte = 9)
  | pair (key value : List UInt8) (plainKey : ∀ byte ∈ key, byte ≠ 10 ∧ byte ≠ 0 ∧ byte ≠ 61)
      (uncommented : key.head? ≠ some 35) (plainValue : ∀ byte ∈ value, byte ≠ 10 ∧ byte ≠ 0)

namespace ConfLine

def text : ConfLine → List UInt8
  | comment text _ => 35 :: text
  | blank text _ => text
  | pair key value _ _ _ => key ++ 61 :: value

/-- The key with the value's word -/
def pair? : ConfLine → Option (List UInt8 × List UInt8)
  | pair key value _ _ _ => some (key, word value)
  | _ => none

def isBlank : ConfLine → Bool
  | blank _ _ => true
  | _ => false

end ConfLine

/-- The text of a file, which may end without a newline -/
def confFile (lines : List ConfLine) (finalNewline : Bool) : List UInt8 :=
  let whole := lines.flatMap fun line => line.text ++ [10]
  if finalNewline then whole else whole.dropLast

/-- The value that a key has last -/
def lastValue (key : List UInt8) (pairs : List (List UInt8 × List UInt8)) :
    Option (List UInt8) :=
  pairs.reverse.lookup key

/-- What a key is set to by a value -/
def EpoKey.settingOf (key : EpoKey) (val : List UInt8) : Int :=
  (decimalOf val).elim key.fallback key.clamp

/-- Each key has its last value in the file, or else what it had before. -/
def expectedEpoSettings (lines : List ConfLine) (settings : EpoSettings) : EpoSettings :=
  fun key =>
  (lastValue key.name (lines.filterMap ConfLine.pair?)).elim (settings key) key.settingOf

def EpoConfLoaded (lines : List ConfLine) (finalNewline : Bool) (settings : EpoSettings) : Prop :=
  (gpsDownloadEpoEnable (some (confFile lines finalNewline)) settings).2 =
    expectedEpoSettings lines settings

/-! ## The pieces that are read -/

/-- The rest of the file is left at such a piece. -/
def Stops (piece : List UInt8) : Prop :=
  piece.head? ≠ some 35 ∧ (61 ∈ piece → piece.getLast? ≠ some 10 ∧ 99 ≤ piece.length)

instance : DecidablePred Stops := fun _ =>
  inferInstanceAs (Decidable (_ ∧ (_ → _)))

/-- The key and the word behind the first `=` of a piece that is no comment -/
def piecePair (piece : List UInt8) : Option (List UInt8 × List UInt8) :=
  if piece.head? = some 35 then none
  else some (piece.takeWhile (· ≠ 61), word (piece.dropWhile (· ≠ 61)).tail)

/-- The keys and values in front of the first piece that stops the load -/
def readPairs (file : List UInt8) : List (List UInt8 × List UInt8) :=
  ((pieces 10 99 file).takeWhile fun piece => ¬ Stops piece).filterMap piecePair

/-- The number that is read for a key, without the last character of its text -/
def numberRead (file : List UInt8) (key : EpoKey) : Option Int :=
  (lastValue key.name (readPairs file)).map fun val => str2int val.dropLast

/-- The numbers that a key's setting tells apart; all others come to the replacement. -/
def EpoKey.Tells : EpoKey → Int → Prop
  | epoEnable, number => number = 0
  | dwDays, number => 0 ≤ number ∧ number < 30
  | gpsEpoPeriod, number => number = 15 ∨ number = 30
  | wifiEpoPeriod, number => number = 3 ∨ number = 15 ∨ number = 30
  | epoWifiTrigger, number => number = 0

/-- The number that is left of a value without its last character; no digits are 0. -/
def cutNumber (val : List UInt8) : Option Int :=
  if val.dropLast = [] ∨ val.dropLast = [45] then some 0
  else (decimalOf val.dropLast).map wrap32

/-- A setting is a number that the key tells apart, or it is the replacement and the number, if
there is one, is none of those. -/
def EpoKey.Leaves (key : EpoKey) (number : Option Int) (setting : Int) : Prop :=
  key.Tells setting ∧ number = some setting ∨
    setting = key.fallback ∧ ∀ other, number = some other → ¬ key.Tells other

/-- The last value of a key survives: of the numbers that the key tells apart, the last value in
the pieces that are read denotes without its last character the one that the key's last value in
the file denotes, or none as that one does.  Where a key has a value in only one of them, the
setting before is what that value comes to. -/
def KeyRead (read all : List (List UInt8 × List UInt8)) (settings : EpoSettings) (key : EpoKey) :
    Prop :=
  match lastValue key.name read, lastValue key.name all with
  | none, none => True
  | some readVal, none => key.Leaves (cutNumber readVal) (settings key)
  | none, some val => key.Leaves (decimalOf val) (settings key)
  | some readVal, some val => ∀ number, key.Tells number →
      (cutNumber readVal = some number ↔ decimalOf val = some number)

section Numbers

variable {key : EpoKey}

theorem EpoKey.clamp_of_tells {number : Int} (tells : key.Tells number) :
    key.clamp number = number := by
  cases key <;> simp only [EpoKey.Tells] at tells <;>
    simp only [EpoKey.clamp, EpoKey.inRange, Bool.or_eq_true, decide_eq_true_eq,
      Bool.not_eq_true', Bool.or_eq_false_iff, decide_eq_false_iff_not, ite_eq_left_iff] <;>
    omega

theorem EpoKey.clamp_of_not_tells {number : Int} (other : ¬ key.Tells number) :
    key.clamp number = key.fallback := by
  cases key <;> simp only [EpoKey.Tells] at other <;>
    simp only [EpoKey.clamp, EpoKey.inRange, EpoKey.fallback, Bool.or_eq_true, decide_eq_true_eq,
      Bool.not_eq_true', Bool.or_eq_false_iff, decide_eq_false_iff_not, ite_eq_right_iff] <;>
    omega

theorem EpoKey.not_tells_fallback : ¬ key.Tells key.fallback := by
  cases key <;> simp [EpoKey.Tells, EpoKey.fallback]

/-- The setting of a text goes by the number that is told apart. -/
theorem EpoKey.elim_clamp (key : EpoKey) (number : Option Int) :
    (∃ setting, key.Tells setting ∧ number = some setting ∧
        number.elim key.fallback key.clamp = setting) ∨
      ((∀ other, number = some other → ¬ key.Tells other) ∧
        number.elim key.fallback key.clamp = key.fallback) := by
  cases number with
  | none => exact .inr ⟨nofun, rfl⟩
  | some number =>
      by_cases tells : key.Tells number
      · exact .inl ⟨number, tells, rfl, EpoKey.clamp_of_tells tells⟩
      · refine .inr ⟨?_, EpoKey.clamp_of_not_tells tells⟩
        rintro other given
        rw [← Option.some.inj given]
        exact tells

theorem EpoKey.elim_clamp_eq_iff (number : Option Int) (setting : Int) :
    number.elim key.fallback key.clamp = setting ↔ key.Leaves number setting := by
  rcases key.elim_clamp number with ⟨told, tells, rfl, clamped⟩ | ⟨none, replaced⟩
  · rw [clamped]
    constructor
    · rintro rfl
      exact .inl ⟨tells, rfl⟩
    · rintro (⟨_, same⟩ | ⟨_, others⟩)
      · exact Option.some.inj same
      · exact absurd tells (others told rfl)
  · rw [replaced]
    constructor
    · rintro rfl
      exact .inr ⟨rfl, none⟩
    · rintro (⟨tells, given⟩ | ⟨same, _⟩)
      · exact absurd tells (none setting given)
      · exact same.symm

theorem EpoKey.elim_clamp_congr (number other : Option Int) :
    number.elim key.fallback key.clamp = other.elim key.fallback key.clamp ↔
      ∀ told, key.Tells told → (number = some told ↔ other = some told) := by
  rcases key.elim_clamp number with ⟨told, tells, rfl, clamped⟩ | ⟨none, replaced⟩
  · rw [clamped, eq_comm, EpoKey.elim_clamp_eq_iff]
    constructor
    · rintro (⟨_, rfl⟩ | ⟨replacement, _⟩)
      · exact fun _ _ => Iff.rfl
      · exact absurd (replacement ▸ tells) EpoKey.not_tells_fallback
    · intro agree
      exact .inl ⟨tells, (agree told tells).mp rfl⟩
  · rw [replaced, eq_comm, EpoKey.elim_clamp_eq_iff]
    constructor
    · rintro (⟨tells, _⟩ | ⟨_, others⟩)
      · exact absurd tells EpoKey.not_tells_fallback
      · intro told tells
        exact ⟨fun given => absurd tells (none told given),
          fun given => absurd tells (others told given)⟩
    · intro agree
      refine .inr ⟨rfl, fun told given tells => ?_⟩
      exact none told ((agree told tells).mpr given) tells

/-- The number that the code reads, or −1, which no key takes. -/
theorem clamp_str2int_dropLast (val : List UInt8) :
    key.clamp (str2int val.dropLast) = (cutNumber val).elim key.fallback key.clamp := by
  have failed : key.clamp (-1) = key.fallback := by cases key <;> rfl
  rw [str2int_eq_decimalOf, cutNumber]
  split
  · rfl
  · cases decimalOf val.dropLast with
    | none => exact failed
    | some number => rfl

end Numbers

section Load

variable {piece key val : List UInt8} {rest : List (List UInt8)} {settings : EpoSettings}

theorem getVal_of_stops (stops : Stops piece) : getVal piece = .error := by
  unfold getVal
  by_cases empty : piece = []
  · exact if_pos empty
  rw [if_neg empty, if_neg stops.1]
  by_cases equals : 61 ∈ piece
  · exact if_pos (stops.2 equals)
  · rw [if_neg equals, ite_self]

theorem getVal_of_goesOn (goesOn : ¬ Stops piece) :
    getVal piece = (piecePair piece).elim .comment fun pair => .pair pair.1 pair.2 := by
  unfold getVal piecePair
  by_cases comment : piece.head? = some 35
  · have given : piece ≠ [] := by
      rintro rfl
      cases comment
    rw [if_neg given, if_pos comment, if_pos comment]
    rfl
  · have both : ¬ (61 ∈ piece → piece.getLast? ≠ some 10 ∧ 99 ≤ piece.length) := fun stops =>
      goesOn ⟨comment, stops⟩
    obtain ⟨equals, fits⟩ := Classical.not_imp.mp both
    rw [if_neg (List.ne_nil_of_mem equals), if_neg comment, if_neg comment, if_neg fits,
      if_pos equals]
    rfl

theorem lastValue_cons (pair : List UInt8 × List UInt8) (pairs : List (List UInt8 × List UInt8)) :
    lastValue key (pair :: pairs) =
      (lastValue key pairs).or (if key = pair.1 then some pair.2 else none) := by
  rw [lastValue, List.reverse_cons, List.lookup_append, lastValue]
  congr 1
  rw [List.lookup_cons]
  split
  case h_1 same => rw [if_pos (eq_of_beq same)]
  case h_2 differs => rw [if_neg (ne_of_beq_false differs), List.lookup_nil]

/-- A value is used when no later one is. -/
theorem elim_lastValue_cons (epoKey : EpoKey) (pairs : List (List UInt8 × List UInt8)) :
    (lastValue epoKey.name ((key, val) :: pairs)).elim (settings epoKey)
        (fun val => epoKey.clamp (str2int val.dropLast)) =
      (lastValue epoKey.name pairs).elim (setEpoValue settings key val epoKey)
        (fun val => epoKey.clamp (str2int val.dropLast)) := by
  rw [lastValue_cons, setEpoValue]
  cases lastValue epoKey.name pairs with
  | some later => rfl
  | none =>
      simp only [Option.none_or, eq_comm (a := key)]
      split <;> rfl

theorem clamp_gpsEpoPeriod (days : Int) :
    EpoKey.gpsEpoPeriod.clamp days = if days ≠ 30 ∧ days ≠ 3 ∧ days ≠ 15 then 3 else days := by
  simp only [EpoKey.clamp, EpoKey.inRange, EpoKey.fallback, Bool.or_eq_true, decide_eq_true_eq]
  split <;> split <;> omega

theorem clamp_wifiEpoPeriod (days : Int) :
    EpoKey.wifiEpoPeriod.clamp days = if days ≠ 30 ∧ days ≠ 3 ∧ days ≠ 15 then 1 else days := by
  simp only [EpoKey.clamp, EpoKey.inRange, EpoKey.fallback, Bool.or_eq_true, decide_eq_true_eq]
  split <;> split <;> omega

/-- The loop sets each key to what it reads last. -/
theorem loadEpoPieces_apply {items : List (List UInt8)} (plain : ∀ piece ∈ items, 0 ∉ piece)
    (settings : EpoSettings) (key : EpoKey) :
    (loadEpoPieces items settings).2 key =
      (lastValue key.name
        ((items.takeWhile fun piece => ¬ Stops piece).filterMap piecePair)).elim (settings key)
        fun val => key.clamp (str2int val.dropLast) := by
  induction items generalizing settings with
  | nil => rfl
  | cons piece rest ih =>
      rw [List.forall_mem_cons] at plain
      have whole : piece.takeWhile (· ≠ 0) = piece := by
        simpa using Memory.takeWhile_append_replicate plain.1 0
      rw [loadEpoPieces, whole]
      by_cases stops : Stops piece
      · rw [getVal_of_stops stops, List.takeWhile_cons_of_neg (by simpa using stops)]
        rfl
      · rw [getVal_of_goesOn stops, List.takeWhile_cons_of_pos (by simpa using stops),
          List.filterMap_cons]
        cases piecePair piece with
        | none => exact ih plain.2 settings
        | some pair =>
            rw [elim_lastValue_cons]
            exact ih plain.2 _

theorem gpsDownloadEpoEnable_apply {text : List UInt8} (plain : 0 ∉ text) (settings : EpoSettings)
    (key : EpoKey) :
    (gpsDownloadEpoEnable (some text) settings).2 key =
      (numberRead text key).elim (settings key) key.clamp := by
  rw [gpsDownloadEpoEnable, loadEpoPieces_apply
    (fun _ among occurs => plain (mem_of_mem_pieces among occurs)) settings key, numberRead,
    readPairs]
  cases lastValue key.name _ <;> rfl

/-- The periods that expiry goes by are those of the numbers that are read. -/
theorem gpsDownloadEpoEnable_periods {text : List UInt8} (plain : 0 ∉ text)
    {settings : EpoSettings} {periods : EpoPeriods} (gps : settings .gpsEpoPeriod = periods.gps)
    (wifi : settings .wifiEpoPeriod = periods.wifi) :
    let after := downloadEpoPeriods (numberRead text .gpsEpoPeriod)
      (numberRead text .wifiEpoPeriod) periods
    (gpsDownloadEpoEnable (some text) settings).2 .gpsEpoPeriod = after.gps ∧
      (gpsDownloadEpoEnable (some text) settings).2 .wifiEpoPeriod = after.wifi := by
  rw [gpsDownloadEpoEnable_apply plain, gpsDownloadEpoEnable_apply plain, gps, wifi,
    funext clamp_gpsEpoPeriod, funext clamp_wifiEpoPeriod]
  exact ⟨rfl, rfl⟩

end Load

/-! ## What is loaded -/

namespace ConfLine

theorem text_plain (line : ConfLine) : ∀ byte ∈ line.text, byte ≠ 10 ∧ byte ≠ 0 := by
  cases line with
  | comment text plain =>
      rw [ConfLine.text, List.forall_mem_cons]
      exact ⟨by decide, plain⟩
  | blank text blanks =>
      intro byte among
      rcases blanks byte among with rfl | rfl
      · decide
      · decide
  | pair key value plainKey uncommented plainValue =>
      rw [ConfLine.text, List.forall_mem_append, List.forall_mem_cons]
      exact ⟨fun byte among => ⟨(plainKey byte among).1, (plainKey byte among).2.1⟩, by decide,
        plainValue⟩

end ConfLine

theorem confFile_plain (lines : List ConfLine) (finalNewline : Bool) :
    0 ∉ confFile lines finalNewline := by
  have whole : 0 ∉ lines.flatMap fun line => line.text ++ [10] := by
    intro among
    obtain ⟨line, -, inLine⟩ := List.mem_flatMap.mp among
    rcases List.mem_append.mp inLine with inText | newline
    · exact (line.text_plain 0 inText).2 rfl
    · cases List.mem_singleton.mp newline
  cases finalNewline with
  | true => exact whole
  | false => exact fun among => whole (List.dropLast_subset _ among)

/-- A key has its last value in the file just if it is read. -/
theorem loaded_iff_keyRead (lines : List ConfLine) (finalNewline : Bool) (settings : EpoSettings)
    (key : EpoKey) :
    (gpsDownloadEpoEnable (some (confFile lines finalNewline)) settings).2 key =
        expectedEpoSettings lines settings key ↔
      KeyRead (readPairs (confFile lines finalNewline)) (lines.filterMap ConfLine.pair?) settings
        key := by
  rw [gpsDownloadEpoEnable_apply (confFile_plain lines finalNewline) settings key, numberRead,
    expectedEpoSettings, KeyRead]
  cases lastValue key.name (readPairs (confFile lines finalNewline)) with
  | none =>
      cases lastValue key.name (lines.filterMap ConfLine.pair?) with
      | none => exact iff_of_true rfl trivial
      | some val => exact eq_comm.trans (EpoKey.elim_clamp_eq_iff _ _)
  | some readVal =>
      rw [Option.map_some, Option.elim_some, clamp_str2int_dropLast]
      cases lastValue key.name (lines.filterMap ConfLine.pair?) with
      | none => exact EpoKey.elim_clamp_eq_iff _ _
      | some val => exact EpoKey.elim_clamp_congr _ _

/-- A file is loaded just if each key is read. -/
theorem epoConfLoaded_iff (lines : List ConfLine) (finalNewline : Bool) (settings : EpoSettings) :
    EpoConfLoaded lines finalNewline settings ↔
      ∀ key, KeyRead (readPairs (confFile lines finalNewline)) (lines.filterMap ConfLine.pair?)
        settings key :=
  funext_iff.trans (forall_congr' (loaded_iff_keyRead lines finalNewline settings))

/-- `EPO_ENABLE=1` -/
def enableLine : ConfLine :=
  .pair EpoKey.epoEnable.name [49] (by decide +kernel) (by decide +kernel) (by decide +kernel)

/-- The last digit is dropped, and an EPO download that is enabled is disabled. -/
theorem epoConf_lastDigit : ¬ EpoConfLoaded [enableLine] true defaultEpoSettings := by
  intro loaded
  have disabled := congrFun loaded .epoEnable
  exact absurd disabled (by decide +kernel)

/-! ## Short lines -/

section Short

variable {line : ConfLine} {tail : List UInt8}

theorem word_append_newline (text : List UInt8) : word (text ++ [10]) = word text := by
  rw [word, List.dropWhile_append]
  split
  case isTrue empty =>
    rw [List.isEmpty_iff] at empty
    rw [word, empty]
    rfl
  case isFalse =>
    rw [List.takeWhile_append]
    split
    case isTrue whole =>
      have same := List.takeWhile_prefix (fun byte => !isConfSpace byte) |>.eq_of_length whole
      rw [word, same]
      exact List.append_nil _
    case isFalse => rfl

theorem notMem_blank {text : List UInt8} {byte : UInt8}
    (blanks : ∀ byte ∈ text, byte = 32 ∨ byte = 9) (ends : tail = [] ∨ tail = [10])
    (other : byte ≠ 32 ∧ byte ≠ 9 ∧ byte ≠ 10) : byte ∉ text ++ tail := by
  intro among
  rcases List.mem_append.mp among with inText | inTail
  · rcases blanks byte inText with same | same
    · exact other.1 same
    · exact other.2.1 same
  · rcases ends with rfl | rfl
    · cases inTail
    · exact other.2.2 (List.mem_singleton.mp inTail)

/-- A line that fits the buffer stops the load just if it is blank. -/
theorem stops_iff_blank (short : line.text.length < 99) (ends : tail = [] ∨ tail = [10]) :
    Stops (line.text ++ tail) ↔ line.isBlank = true := by
  cases line with
  | comment text plain =>
      refine iff_of_false ?_ Bool.false_ne_true
      exact fun stops => stops.1 rfl
  | blank text blanks =>
      refine iff_of_true ⟨?_, fun equals => ?_⟩ rfl
      · intro comment
        have among : (35 : UInt8) ∈ text ++ tail := List.mem_of_mem_head? comment
        exact absurd among (notMem_blank blanks ends (by decide))
      · exact absurd equals (notMem_blank blanks ends (by decide))
  | pair key value plainKey uncommented plainValue =>
      refine iff_of_false ?_ Bool.false_ne_true
      rintro ⟨-, fills⟩
      obtain ⟨unfinished, long⟩ := fills (by simp [ConfLine.text])
      rcases ends with rfl | rfl
      · rw [List.append_nil] at long
        omega
      · exact unfinished List.getLast?_concat

theorem piecePair_text (filled : line.isBlank = false) (ends : tail = [] ∨ tail = [10]) :
    piecePair (line.text ++ tail) = line.pair? := by
  cases line with
  | comment text plain => exact if_pos rfl
  | blank text blanks => cases filled
  | pair key value plainKey uncommented plainValue =>
      have passed : ∀ byte ∈ key, decide (byte ≠ 61) = true := fun byte among =>
        decide_eq_true (plainKey byte among).2.2
      have text : (ConfLine.pair key value plainKey uncommented plainValue).text ++ tail =
          key ++ 61 :: (value ++ tail) := by
        simp [ConfLine.text]
      have noComment : (key ++ 61 :: (value ++ tail)).head? ≠ some 35 := by
        cases key with
        | nil => simp
        | cons byte key => exact uncommented
      have sameWord : word (value ++ tail) = word value := by
        rcases ends with rfl | rfl
        · rw [List.append_nil]
        · exact word_append_newline value
      rw [text, piecePair, if_neg noComment, List.takeWhile_append_of_pos passed,
        List.dropWhile_append_of_pos passed]
      simp [ConfLine.pair?, sameWord]

theorem readPairs_line (short : line.text.length < 99) (rest : List UInt8) :
    readPairs (line.text ++ 10 :: rest) =
      if line.isBlank then [] else line.pair?.toList ++ readPairs rest := by
  have inLine : 10 ∉ line.text := fun among => (line.text_plain 10 among).1 rfl
  have stops := stops_iff_blank short (.inr rfl)
  rw [readPairs, pieces_line inLine short, readPairs]
  cases filled : line.isBlank with
  | true =>
      rw [filled] at stops
      rw [List.takeWhile_cons_of_neg (by simpa using stops)]
      rfl
  | false =>
      rw [filled] at stops
      rw [List.takeWhile_cons_of_pos (by simpa using stops), List.filterMap_cons,
        piecePair_text filled (.inr rfl)]
      cases line.pair? <;> rfl

theorem readPairs_last (short : line.text.length < 99) :
    readPairs line.text = if line.isBlank then [] else line.pair?.toList := by
  have inLine : 10 ∉ line.text := fun among => (line.text_plain 10 among).1 rfl
  have stops : Stops line.text ↔ line.isBlank = true := by
    simpa using stops_iff_blank short (.inl rfl)
  rw [readPairs, pieces_last inLine short]
  cases filled : line.isBlank with
  | true =>
      rw [filled] at stops
      split
      case isTrue => rfl
      case isFalse =>
        rw [List.takeWhile_cons_of_neg (by simpa using stops)]
        rfl
  | false =>
      rw [filled] at stops
      have pairs : piecePair line.text = line.pair? := by
        simpa using piecePair_text filled (.inl rfl)
      rw [if_neg fun empty => by simp [empty, Stops] at stops,
        List.takeWhile_cons_of_pos (by simpa using stops), List.filterMap_cons, pairs]
      cases line.pair? <;> rfl

/-- Only the last line of a file is without its newline. -/
theorem confFile_cons (line : ConfLine) {rest : List ConfLine} (more : rest ≠ []) :
    confFile (line :: rest) false = line.text ++ 10 :: confFile rest false := by
  have given : (rest.flatMap fun line => line.text ++ [10]) ≠ [] := by
    intro empty
    rw [List.flatMap_eq_nil_iff] at empty
    obtain ⟨last, among⟩ := List.exists_mem_of_ne_nil rest more
    simpa using empty last among
  simp only [confFile, Bool.false_eq_true, if_false, List.flatMap_cons]
  rw [List.dropLast_append_of_ne_nil given]
  simp

/-- Of short lines, those in front of the first blank one are read. -/
theorem readPairs_of_short {lines : List ConfLine} (short : ∀ line ∈ lines, line.text.length < 99)
    (finalNewline : Bool) :
    readPairs (confFile lines finalNewline) =
      (lines.takeWhile fun line => !line.isBlank).filterMap ConfLine.pair? := by
  induction lines with
  | nil => cases finalNewline <;> rfl
  | cons line rest ih =>
      rw [List.forall_mem_cons] at short
      have step : (List.takeWhile (fun line => !line.isBlank) (line :: rest)).filterMap
          ConfLine.pair? = if line.isBlank then [] else line.pair?.toList ++
            (rest.takeWhile fun line => !line.isBlank).filterMap ConfLine.pair? := by
        cases filled : line.isBlank with
        | true => rw [List.takeWhile_cons_of_neg (by simp [filled])]; rfl
        | false =>
            rw [List.takeWhile_cons_of_pos (by simp [filled]), List.filterMap_cons]
            cases line.pair? <;> rfl
      rw [step, ← ih short.2]
      by_cases last : rest = [] ∧ finalNewline = false
      · obtain ⟨rfl, rfl⟩ := last
        have file : confFile [line] false = line.text := by simp [confFile]
        rw [file, readPairs_last short.1]
        cases line.isBlank <;> simp [confFile, readPairs, pieces, piecesFrom]
      · have file : confFile (line :: rest) finalNewline =
            line.text ++ 10 :: confFile rest finalNewline := by
          cases finalNewline with
          | true => simp [confFile]
          | false =>
              have more : rest ≠ [] := fun empty => last ⟨empty, rfl⟩
              exact confFile_cons line more
        rw [file, readPairs_line short.1]

/-- A file of short lines is loaded just if each key is read in front of the first blank line. -/
theorem epoConfLoaded_short {lines : List ConfLine} (short : ∀ line ∈ lines, line.text.length < 99)
    (finalNewline : Bool) (settings : EpoSettings) :
    EpoConfLoaded lines finalNewline settings ↔
      ∀ key, KeyRead ((lines.takeWhile fun line => !line.isBlank).filterMap ConfLine.pair?)
        (lines.filterMap ConfLine.pair?) settings key := by
  rw [← readPairs_of_short short finalNewline]
  exact funext_iff.trans (forall_congr' (loaded_iff_keyRead lines finalNewline settings))

end Short

/-! ## The numbers that survive -/

/-- The numbers that come to the same setting without their last digit -/
def EpoKey.Survives : EpoKey → Nat → Prop
  | epoEnable, number => number = 0 ∨ number / 10 % 2 ^ 32 ≠ 0
  | dwDays, number => number = 0 ∨ 30 ≤ number ∧ 30 ≤ number / 10 % 2 ^ 32
  | gpsEpoPeriod, number => number ≠ 15 ∧ number ≠ 30 ∧
      number / 10 % 2 ^ 32 ≠ 15 ∧ number / 10 % 2 ^ 32 ≠ 30
  | wifiEpoPeriod, number => number ≠ 3 ∧ number ≠ 15 ∧ number ≠ 30 ∧
      number / 10 % 2 ^ 32 ≠ 3 ∧ number / 10 % 2 ^ 32 ≠ 15 ∧ number / 10 % 2 ^ 32 ≠ 30
  | epoWifiTrigger, number => number = 0 ∨ number / 10 % 2 ^ 32 ≠ 0

section Survive

variable {val : List UInt8}

theorem digitsValue_dropLast (given : val ≠ []) (digits : val.all isDigit = true) :
    digitsValue 10 val.dropLast = digitsValue 10 val / 10 := by
  obtain ⟨front, last, rfl⟩ := List.eq_nil_or_concat' val |>.resolve_left given
  rw [List.all_append, Bool.and_eq_true] at digits
  have digit : isDigit last = true := by simpa using digits.2
  have small : digitValue last < 10 := by
    simp only [isDigit, Bool.and_eq_true, decide_eq_true_eq] at digit
    have greatest := digit.2
    rw [digitValue, if_pos (by simp [isDigit, digit])]
    have bound : last.toNat ≤ 57 := greatest
    omega
  rw [List.dropLast_concat, digitsValue, digitsValue, List.foldl_append, List.foldl_cons,
    List.foldl_nil]
  omega

theorem decimalOf_digits (given : val ≠ []) (digits : val.all isDigit = true) :
    decimalOf val = some (digitsValue 10 val : Int) := by
  fun_cases decimalOf val with
  | case1 rest both => simp [isDigit] at digits
  | case2 rest both => simp [isDigit] at digits
  | case3 text notMinus both => rfl
  | case4 text notMinus both => exact absurd ⟨given, digits⟩ both

theorem cutNumber_digits (given : val ≠ []) (digits : val.all isDigit = true) :
    cutNumber val = some (wrap32 (digitsValue 10 val / 10 : Nat)) := by
  have front : val.dropLast.all isDigit = true := by
    rw [List.all_eq_true] at digits ⊢
    exact fun byte among => digits byte (List.dropLast_subset val among)
  rw [← digitsValue_dropLast given digits, cutNumber]
  by_cases empty : val.dropLast = []
  · rw [if_pos (.inl empty), empty]
    rfl
  · have noSign : val.dropLast ≠ [45] := by
      intro sign
      rw [sign] at front
      simp [isDigit] at front
    rw [if_neg (by simp [empty, noSign]), decimalOf_digits empty front, Option.map_some]

theorem wrap32_eq_iff {number : Nat} {small : Int} (nonneg : 0 ≤ small) (bound : small < 2 ^ 31) :
    wrap32 number = small ↔ (number % 2 ^ 32 : Nat) = small := by
  unfold wrap32
  rw [Int.bmod_def]
  push_cast
  split <;> omega

/-- Digits survive the loss of the last one just if their number does. -/
theorem survives_iff (key : EpoKey) (given : val ≠ []) (digits : val.all isDigit = true) :
    (∀ number, key.Tells number →
        (cutNumber val = some number ↔ decimalOf val = some number)) ↔
      key.Survives (digitsValue 10 val) := by
  rw [cutNumber_digits given digits, decimalOf_digits given digits]
  generalize digitsValue 10 val = number
  have reads : (∀ told, key.Tells told →
        (some (wrap32 (number / 10 : Nat)) = some told ↔ some (number : Int) = some told)) ↔
      ∀ told, key.Tells told → (((number / 10 % 2 ^ 32 : Nat) : Int) = told ↔ number = told) := by
    refine forall₂_congr fun told tells => ?_
    have small : 0 ≤ told ∧ told < 2 ^ 31 := by
      cases key <;> simp only [EpoKey.Tells] at tells <;> omega
    rw [Option.some.injEq, Option.some.injEq, wrap32_eq_iff small.1 small.2]
  rw [reads]
  cases key with
  | epoEnable =>
      simp only [EpoKey.Tells, EpoKey.Survives, forall_eq]
      omega
  | dwDays =>
      constructor
      · intro agree
        by_cases few : number < 30
        · have same := (agree number ⟨by omega, by omega⟩).mpr rfl
          exact .inl (by omega)
        · refine .inr ⟨by omega, ?_⟩
          by_contra below
          have same := (agree (number / 10 % 2 ^ 32 : Nat) ⟨by omega, by omega⟩).mp rfl
          omega
      · rintro survives told tells
        simp only [EpoKey.Tells] at tells
        simp only [EpoKey.Survives] at survives
        omega
  | gpsEpoPeriod =>
      simp only [EpoKey.Tells, EpoKey.Survives, forall_eq_or_imp, forall_eq]
      omega
  | wifiEpoPeriod =>
      simp only [EpoKey.Tells, EpoKey.Survives, forall_eq_or_imp, forall_eq]
      omega
  | epoWifiTrigger =>
      simp only [EpoKey.Tells, EpoKey.Survives, forall_eq]
      omega

/-- A file of short lines without a blank one, whose values are digits, is loaded just if the last
number of every key survives. -/
theorem epoConfLoaded_numbers {lines : List ConfLine}
    (short : ∀ line ∈ lines, line.text.length < 99) (filled : ∀ line ∈ lines, line.isBlank = false)
    (numbers : ∀ key val, lastValue (EpoKey.name key) (lines.filterMap ConfLine.pair?) = some val →
      val ≠ [] ∧ val.all isDigit = true) (finalNewline : Bool) (settings : EpoSettings) :
    EpoConfLoaded lines finalNewline settings ↔
      ∀ key val, lastValue (EpoKey.name key) (lines.filterMap ConfLine.pair?) = some val →
        key.Survives (digitsValue 10 val) := by
  have whole : lines.takeWhile (fun line => !line.isBlank) = lines := by
    rw [List.takeWhile_eq_self_iff]
    intro line among
    rw [filled line among]
    rfl
  rw [epoConfLoaded_short short, whole]
  refine forall_congr' fun key => ?_
  rw [KeyRead]
  cases last : lastValue key.name (lines.filterMap ConfLine.pair?) with
  | none => simp
  | some val =>
      obtain ⟨given, digits⟩ := numbers key val last
      refine (survives_iff key given digits).trans ?_
      simp

end Survive

end X3Hal.Gps
