import X3Hal.Ril.ModemPayload

/-!
# Cell identities

The vendor library gives a cell as a technology and a union of structures of `int`s, which is
kept here as its words: which word is which field depends on the technology.  The framework
gets one vector for each technology.
-/

namespace X3Hal.Ril

open X3Hal.Memory
open X3Hal.Gps (wrap32)
open X3Hal.Wpa (atoi strtol)

inductive CellTechnology
  | gsm | cdma | lte | wcdma | tdscdma
  deriving DecidableEq, Repr

/-- `RIL_CELL_INFO_TYPE_GSM` to `RIL_CELL_INFO_TYPE_TD_SCDMA` -/
def cellTechnology (cellInfoType : Int) : Option CellTechnology :=
  if cellInfoType = 1 then some .gsm
  else if cellInfoType = 2 then some .cdma
  else if cellInfoType = 3 then some .lte
  else if cellInfoType = 4 then some .wcdma
  else if cellInfoType = 5 then some .tdscdma
  else none

def CellTechnology.cellInfoType : CellTechnology → Int
  | gsm => 1
  | cdma => 2
  | lte => 3
  | wcdma => 4
  | tdscdma => 5

@[simp]
theorem cellTechnology_cellInfoType (technology : CellTechnology) :
    cellTechnology technology.cellInfoType = some technology := by
  cases technology <;> rfl

/-! ## The framework's records -/

structure CellIdentityGsm where
  mcc : String
  mnc : String
  lac : Int
  cid : Int
  arfcn : Int
  bsic : Int
  deriving DecidableEq

structure CellIdentityWcdma where
  mcc : String
  mnc : String
  lac : Int
  cid : Int
  psc : Int
  uarfcn : Int
  deriving DecidableEq

structure CellIdentityCdma where
  networkId : Int
  systemId : Int
  baseStationId : Int
  longitude : Int
  latitude : Int
  deriving DecidableEq

structure CellIdentityLte where
  mcc : String
  mnc : String
  ci : Int
  pci : Int
  tac : Int
  earfcn : Int
  deriving DecidableEq

structure CellIdentityTdscdma where
  mcc : String
  mnc : String
  lac : Int
  cid : Int
  cpid : Int
  deriving DecidableEq

structure CellIdentity where
  cellInfoType : Int
  cellIdentityGsm : List CellIdentityGsm
  cellIdentityWcdma : List CellIdentityWcdma
  cellIdentityCdma : List CellIdentityCdma
  cellIdentityLte : List CellIdentityLte
  cellIdentityTdscdma : List CellIdentityTdscdma
  deriving DecidableEq

/-- A cell identity with nothing set -/
def CellIdentity.empty (cellInfoType : Int) : CellIdentity :=
  ⟨cellInfoType, [], [], [], [], []⟩

/-- `fillCellIdentityResponse`, on a `RIL_CellIdentity_v16` whose words are read where they are
used -/
def fillCellIdentityResponse (cellInfoType : Int) (word : Nat → Checked Int) :
    Checked CellIdentity :=
  let cellIdentity := CellIdentity.empty cellInfoType
  match cellTechnology cellInfoType with
  | some .gsm => do
      pure { cellIdentity with
        cellIdentityGsm := [⟨toString (← word 0), toString (← word 1), ← word 2, ← word 3,
          ← word 4, (← word 5) % 256⟩] }
  | some .wcdma => do
      pure { cellIdentity with
        cellIdentityWcdma := [⟨toString (← word 0), toString (← word 1), ← word 2, ← word 3,
          ← word 4, ← word 5⟩] }
  | some .cdma => do
      pure { cellIdentity with
        cellIdentityCdma := [⟨← word 0, ← word 1, ← word 2, ← word 3, ← word 4⟩] }
  | some .lte => do
      pure { cellIdentity with
        cellIdentityLte := [⟨toString (← word 0), toString (← word 1), ← word 2, ← word 3,
          ← word 4, ← word 5⟩] }
  | some .tdscdma => do
      pure { cellIdentity with
        cellIdentityTdscdma := [⟨toString (← word 0), toString (← word 1), ← word 2, ← word 3,
          ← word 4⟩] }
  | none => pure cellIdentity

/-! ## Identities from strings -/

def getCellInfoTypeRadioTechnology (rat : Option (List UInt8)) : Int :=
  match rat with
  | none => 0
  | some text =>
      let radioTech := atoi text
      if radioTech ∈ [1, 2, 16] then CellTechnology.gsm.cellInfoType
      else if radioTech ∈ [3, 9, 10, 11, 15] then CellTechnology.wcdma.cellInfoType
      else if radioTech ∈ [4, 5, 6, 7, 8, 12, 13] then CellTechnology.cdma.cellInfoType
      else if radioTech ∈ [14, 19] then CellTechnology.lte.cellInfoType
      else if radioTech = 17 then CellTechnology.tdscdma.cellInfoType
      else 0

/-- The string is hexadecimal. -/
def convertResponseStringEntryToInt (payload : ModemPayload) (index : Nat) : Checked Int :=
  if index < payload.numStrings then do
    match ← element payload.strings index with
    | some text => pure (wrap32 (strtol 16 text).1)
    | none => pure (-1)
  else pure (-1)

/-- Words of a union that is -1 throughout, set from entries of the payload -/
def fillWords (payload : ModemPayload) (entries : List (Nat × Nat)) : Checked (List Int) :=
  entries.foldlM (fun words (entry : Nat × Nat) => do
    pure (words.set entry.1 (← convertResponseStringEntryToInt payload entry.2)))
    (List.replicate 6 (-1))

/-- A cell identity whose words come from the entries that its technology has -/
def fillCellIdentityFrom (entries : CellTechnology → List (Nat × Nat)) (payload : ModemPayload) :
    Checked CellIdentity := do
  let cellInfoType := getCellInfoTypeRadioTechnology (← element payload.strings 3)
  let words ← fillWords payload ((cellTechnology cellInfoType).elim [] entries)
  fillCellIdentityResponse cellInfoType (element words)

/-- Each word with the place of its string -/
def voiceEntries : CellTechnology → List (Nat × Nat)
  | .gsm => [(2, 1), (3, 2)]
  | .wcdma => [(2, 1), (3, 2), (4, 14)]
  | .tdscdma => [(2, 1), (3, 2)]
  | .cdma => [(2, 4), (3, 5), (4, 6), (1, 8), (0, 9)]
  | .lte => [(4, 1), (2, 2)]

def dataEntries : CellTechnology → List (Nat × Nat)
  | .gsm => [(2, 1), (3, 2)]
  | .wcdma => [(2, 1), (3, 2)]
  | .tdscdma => [(2, 1), (3, 2)]
  | .lte => [(4, 6), (3, 7), (2, 8)]
  | .cdma => []

def fillCellIdentityFromVoiceRegStateResponseString (payload : ModemPayload) :
    Checked CellIdentity :=
  fillCellIdentityFrom voiceEntries payload

def fillCellIdentityFromDataRegStateResponseString (payload : ModemPayload) :
    Checked CellIdentity :=
  fillCellIdentityFrom dataEntries payload

/-! ## Accesses -/

/-- The words of an identity stay inside when there are six of them. -/
theorem stays_fillCellIdentityResponse (cellInfoType : Int) {word : Nat → Checked Int}
    (inside : ∀ i < 6, Stays (word i)) : Stays (fillCellIdentityResponse cellInfoType word) := by
  unfold fillCellIdentityResponse
  cases cellTechnology cellInfoType with
  | none => exact stays_ok _
  | some technology =>
      cases technology
      all_goals
        repeat
          apply stays_bind (inside _ (by decide))
          intro value read
        exact stays_ok _

/-- An entry of the payload is read only where there is one. -/
theorem stays_convertResponseStringEntryToInt (payload : ModemPayload) (index : Nat) :
    Stays (convertResponseStringEntryToInt payload index) := by
  unfold convertResponseStringEntryToInt
  split
  case isTrue given =>
    have within := payload.numStrings_le
    apply (stays_element_bind_iff (P := True) ?_).mpr ⟨by omega, trivial⟩
    rintro (_ | text) _
    · exact iff_of_true (stays_ok _) trivial
    · exact iff_of_true (stays_ok _) trivial
  case isFalse => exact stays_ok _

/-- All entries are read, and there are as many words as before. -/
theorem stays_fillWords (payload : ModemPayload) (entries : List (Nat × Nat)) (words : List Int) :
    Stays (entries.foldlM (fun words (entry : Nat × Nat) => do
        pure (words.set entry.1 (← convertResponseStringEntryToInt payload entry.2))) words) ∧
      ∀ filled, entries.foldlM (fun words (entry : Nat × Nat) => do
          pure (words.set entry.1 (← convertResponseStringEntryToInt payload entry.2))) words =
        .ok filled → filled.length = words.length := by
  induction entries generalizing words with
  | nil =>
      refine ⟨stays_ok _, ?_⟩
      intro filled same
      cases same
      rfl
  | cons entry entries ih =>
      have read := stays_convertResponseStringEntryToInt payload entry.2
      rw [List.foldlM_cons]
      cases given : convertResponseStringEntryToInt payload entry.2 with
      | error fault =>
          rw [given] at read
          exact ⟨⟨fun same => read.1 (congrArg _ (Except.error.inj same)),
            fun same => read.2 (congrArg _ (Except.error.inj same))⟩, nofun⟩
      | ok value =>
          have later := ih (words.set entry.1 value)
          rw [List.length_set] at later
          exact later

/-- The string of the technology is read without a check of its own. -/
theorem stays_fillCellIdentityFrom_iff (entries : CellTechnology → List (Nat × Nat))
    (payload : ModemPayload) :
    Stays (fillCellIdentityFrom entries payload) ↔ 3 < payload.strings.length := by
  unfold fillCellIdentityFrom
  refine (stays_element_bind_iff (P := True) ?_).trans (and_true _).to_iff
  intro rat _
  refine iff_of_true ?_ trivial
  have filled := stays_fillWords payload
    ((cellTechnology (getCellInfoTypeRadioTechnology rat)).elim [] entries) (List.replicate 6 (-1))
  apply stays_bind filled.1
  intro words isFilled
  have count := filled.2 words isFilled
  rw [List.length_replicate] at count
  apply stays_fillCellIdentityResponse
  intro i small
  exact stays_element (by omega)

end X3Hal.Ril
