import X3Hal.Ril.ModemPayload

/-!
# The names of the operator

`getOperatorResponse` passes the two names and the numeric code of the operator on.  Built for
the MTK modems it looks the long name up as if it were the numeric code, and three of its
assignments are comparisons, so that the numeric code is never passed on.
-/

namespace X3Hal.Ril

open X3Hal.Memory
open X3Hal.Gps (wrap32)
open X3Hal.Wpa (atoi)

/-- The table `spn`: operators with their names -/
abbrev SpnTable := List (Int × List UInt8)

def getname (spn : SpnTable) (plmn : Int) : Option (List UInt8) :=
  (spn.find? fun entry => entry.1 = plmn).map Prod.snd

/-- What the framework gets -/
structure OperatorResponse where
  info : RadioResponseInfo
  longName : List UInt8
  shortName : List UInt8
  numeric : List UInt8
  deriving DecidableEq

/-- `convertCharPtrToHidlString` -/
def convertCharPtrToHidlString (pointer : Option (List UInt8)) : List UInt8 :=
  pointer.getD []

/-- The branch of a payload that is there, under `MTK_HARDWARE` -/
def operatorNamesMtk (spn : SpnTable) (info : RadioResponseInfo) (payload : ModemPayload) :
    Checked OperatorResponse := do
  let text ← target (← element payload.strings 0)
  let numeric := []
  match getname spn (atoi text) with
  | none =>
      -- `longName == numeric` is a comparison
      pure ⟨info, [], numeric, numeric⟩
  | some p =>
      -- `shortName == numeric` and `shortName == longName` are comparisons
      pure ⟨info, p, [], numeric⟩

/-- A string of the payload, or what stands for it where the payload is too short -/
def stringOr (payload : ModemPayload) (i : Nat) (otherwise : List UInt8) : Checked (List UInt8) :=
  if i < payload.numStrings then convertCharPtrToHidlString <$> element payload.strings i
  else pure otherwise

/-- The same branch without `MTK_HARDWARE` -/
def operatorNames (info : RadioResponseInfo) (payload : ModemPayload) :
    Checked OperatorResponse := do
  let longName := convertCharPtrToHidlString (← element payload.strings 0)
  let shortName ← stringOr payload 1 longName
  let numeric ← stringOr payload 2 shortName
  pure ⟨info, longName, shortName, numeric⟩

def getOperatorResponse (mtkHardware : Bool) (spn : SpnTable) (responseType serial e : Int)
    (response : Option ModemPayload) : Checked OperatorResponse :=
  let info := populateResponseInfo responseType serial e
  match response with
  | none => pure ⟨info.invalidate, [], [], []⟩
  | some payload =>
      if payload.numStrings = 0 then pure ⟨info.invalidate, [], [], []⟩
      else if mtkHardware then operatorNamesMtk spn info payload
      else operatorNames info payload

/-! ## What the framework is to get -/

/-- The operator's names are among the modem's strings and the name of the numeric code in the
table. -/
structure NamesKept (spn : SpnTable) (longName shortName numeric : List UInt8)
    (delivered : OperatorResponse) : Prop where
  numeric_eq : delivered.numeric = numeric
  longName_from : delivered.longName ∈ [longName, shortName, numeric] ∨
    getname spn (atoi numeric) = some delivered.longName
  shortName_from : delivered.shortName ∈ [longName, shortName, numeric] ∨
    getname spn (atoi numeric) = some delivered.shortName

section Response

variable {spn : SpnTable} {responseType serial e : Int} {payload : ModemPayload}
  {longName shortName numeric : List UInt8}

/-- The number of strings as the code has it -/
theorem numStrings_of_three
    (three : payload.strings = [some longName, some shortName, some numeric]) :
    payload.numStrings = 3 := by
  have count := payload.strings_length
  rw [three] at count
  rw [ModemPayload.numStrings, ← count]
  have three : wrap32 3 = 3 := by decide
  exact three

/-- Without `MTK_HARDWARE` the three strings are passed on. -/
theorem getOperatorResponse_eq
    (three : payload.strings = [some longName, some shortName, some numeric]) :
    getOperatorResponse false spn responseType serial e (some payload) =
      .ok ⟨populateResponseInfo responseType serial e, longName, shortName, numeric⟩ := by
  have count := numStrings_of_three three
  have first : element payload.strings 0 = .ok (some longName) := element_eq (by rw [three]; rfl)
  have second : element payload.strings 1 = .ok (some shortName) := element_eq (by rw [three]; rfl)
  have third : element payload.strings 2 = .ok (some numeric) := element_eq (by rw [three]; rfl)
  simp only [getOperatorResponse, operatorNames, stringOr, count, first, second, third]
  rfl

/-- With it, the name that the table has for the long name is all that is passed on. -/
theorem getOperatorResponse_mtk_eq
    (three : payload.strings = [some longName, some shortName, some numeric]) :
    getOperatorResponse true spn responseType serial e (some payload) =
      .ok ⟨populateResponseInfo responseType serial e, (getname spn (atoi longName)).getD [], [],
        []⟩ := by
  have count := numStrings_of_three three
  have first : element payload.strings 0 = .ok (some longName) := element_eq (by rw [three]; rfl)
  rw [getOperatorResponse, count, if_neg (by decide), if_pos rfl, operatorNamesMtk, first, ok_bind,
    target_some, ok_bind]
  cases getname spn (atoi longName) with
  | none => rfl
  | some name => rfl

/-- When the names are kept: built for the MTK modems, only an empty numeric code is passed on, and
what the table has for the long name is to be one of the names. -/
def KeepsNames (mtkHardware : Bool) (spn : SpnTable) (longName shortName numeric : List UInt8) :
    Prop :=
  mtkHardware = true → numeric = [] ∧
    ∀ name ∈ getname spn (atoi longName),
      name ∈ [longName, shortName, []] ∨ getname spn 0 = some name

/-- The operator's names and numeric code are kept just in these cases. -/
theorem operatorNames_iff (mtkHardware : Bool)
    (three : payload.strings = [some longName, some shortName, some numeric]) :
    (∃ delivered, getOperatorResponse mtkHardware spn responseType serial e (some payload) =
        .ok delivered ∧ NamesKept spn longName shortName numeric delivered) ↔
      KeepsNames mtkHardware spn longName shortName numeric := by
  cases mtkHardware with
  | false =>
      rw [getOperatorResponse_eq three]
      exact iff_of_true ⟨_, rfl, rfl, Or.inl (by simp), Or.inl (by simp)⟩ nofun
  | true =>
      rw [getOperatorResponse_mtk_eq three]
      constructor
      · rintro ⟨delivered, same, kept⟩ -
        cases same
        have empty : [] = numeric := kept.numeric_eq
        subst empty
        refine ⟨rfl, ?_⟩
        intro name found
        have zero : atoi [] = 0 := by decide
        simpa [Option.mem_def.mp found, zero] using kept.longName_from
      · intro keeps
        obtain ⟨rfl, names⟩ := keeps rfl
        refine ⟨_, rfl, rfl, ?_, Or.inl (by simp)⟩
        cases found : getname spn (atoi longName) with
        | none => exact Or.inl (by simp)
        | some name => exact names name found

end Response

/-- A payload of three strings -/
def threeStrings (first second third : List UInt8) : ModemPayload :=
  ⟨24, [some first, some second, some third], List.replicate 6 0, rfl, rfl⟩

theorem operatorNames_iff_unicom :
    (∃ delivered, getOperatorResponse true [(46001, ascii "China Unicom")] 0 1 0
        (some (threeStrings (ascii "46001") [] (ascii "46001"))) = .ok delivered ∧
          NamesKept [(46001, ascii "China Unicom")] (ascii "46001") [] (ascii "46001") delivered) ↔
      KeepsNames true [(46001, ascii "China Unicom")] (ascii "46001") [] (ascii "46001") :=
  operatorNames_iff true rfl

/-- The framework gets the name of the operator, and an empty numeric code. -/
theorem operatorNames_lost :
    ¬ ∃ delivered, getOperatorResponse true [(46001, ascii "China Unicom")] 0 1 0
        (some (threeStrings (ascii "46001") [] (ascii "46001"))) = .ok delivered ∧
          NamesKept [(46001, ascii "China Unicom")] (ascii "46001") [] (ascii "46001")
            delivered := by
  rintro ⟨delivered, same, kept⟩
  rw [getOperatorResponse_mtk_eq rfl] at same
  cases same
  exact absurd kept.numeric_eq (by decide)

end X3Hal.Ril
