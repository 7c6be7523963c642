import X3Hal.Ril.ModemPayload

/-!
# CDMA messages

`constructCdmaSms` copies a message of the framework into the vendor library's structure, and
`cdmaNewSmsInd` converts such a structure back.  The structure has arrays of fixed sizes with
counts of their own; a count is the length of the vector as its field can hold it, and only the
copy is limited to the array.
-/

namespace X3Hal.Ril

open X3Hal.Memory
open X3Hal.Gps (wrap32 wrap32_natCast_le)

/-! ## Messages -/

structure CdmaSmsAddress where
  digitMode : Int
  numberMode : Int
  numberType : Int
  numberPlan : Int
  digits : List UInt8
  deriving DecidableEq

structure CdmaSmsSubaddress where
  subaddressType : Int
  odd : Bool
  digits : List UInt8
  deriving DecidableEq

/-- The framework's message -/
structure CdmaSmsMessage where
  teleserviceId : Int
  isServicePresent : Bool
  serviceCategory : Int
  address : CdmaSmsAddress
  subAddress : CdmaSmsSubaddress
  bearerData : List UInt8
  deriving DecidableEq

/-- The sizes of the vendor library's arrays.  The counts of digits are `unsigned char`s and that
of the bearer data is an `int`, so that they can say how much an array holds. -/
structure CdmaSmsSizes where
  addressMax : Nat
  subaddressMax : Nat
  bearerDataMax : Nat
  addressMax_lt : addressMax < 256
  subaddressMax_lt : subaddressMax < 256
  bearerDataMax_lt : bearerDataMax < 2 ^ 31

structure RilCdmaSmsAddress (size : Nat) where
  digitMode : Int
  numberMode : Int
  numberType : Int
  numberPlan : Int
  numberOfDigits : Nat
  digits : Vector UInt8 size
  deriving DecidableEq

structure RilCdmaSmsSubaddress (size : Nat) where
  subaddressType : Int
  odd : Nat
  numberOfDigits : Nat
  digits : Vector UInt8 size
  deriving DecidableEq

/-- `RIL_CDMA_SMS_Message` -/
structure RilCdmaSmsMessage (sizes : CdmaSmsSizes) where
  teleserviceId : Int
  isServicePresent : Nat
  servicecategory : Int
  address : RilCdmaSmsAddress sizes.addressMax
  subAddress : RilCdmaSmsSubaddress sizes.subaddressMax
  bearerDataLen : Int
  bearerData : Vector UInt8 sizes.bearerDataMax
  deriving DecidableEq

/-! ## To the vendor library -/

/-- A loop that copies so many elements to the front of an array -/
def copyDigits {size : Nat} (digitLimit : Nat) (digits : List UInt8) (array : Vector UInt8 size) :
    Checked (Vector UInt8 size) :=
  if inside : digitLimit ≤ digits.length ∧ digitLimit ≤ size then
    .ok ⟨(digits.take digitLimit ++ array.toList.drop digitLimit).toArray, by simp; omega⟩
  else .error .outside

/-- How many elements each of the loops copied -/
structure CopiedCounts where
  address : Nat
  subAddress : Nat
  bearerData : Nat
  deriving DecidableEq

/-- The structure around the digits and data that were copied -/
def storedMessage {sizes : CdmaSmsSizes} (sms : CdmaSmsMessage)
    (addressDigits : Vector UInt8 sizes.addressMax)
    (subAddressDigits : Vector UInt8 sizes.subaddressMax)
    (bearerData : Vector UInt8 sizes.bearerDataMax) : RilCdmaSmsMessage sizes where
  teleserviceId := sms.teleserviceId
  isServicePresent := sms.isServicePresent.toNat
  servicecategory := sms.serviceCategory
  address :=
    { digitMode := sms.address.digitMode
      numberMode := sms.address.numberMode
      numberType := sms.address.numberType
      numberPlan := sms.address.numberPlan
      numberOfDigits := sms.address.digits.length % 256
      digits := addressDigits }
  subAddress :=
    { subaddressType := sms.subAddress.subaddressType
      odd := sms.subAddress.odd.toNat
      numberOfDigits := sms.subAddress.digits.length % 256
      digits := subAddressDigits }
  bearerDataLen := wrap32 (sms.bearerData.length : Int)
  bearerData := bearerData

/-- The limits of the loops.  One that is negative copies nothing. -/
def copyLimits (sizes : CdmaSmsSizes) (sms : CdmaSmsMessage) : CopiedCounts where
  address := min (sms.address.digits.length % 256) sizes.addressMax
  subAddress := min (sms.subAddress.digits.length % 256) sizes.subaddressMax
  bearerData := (min (wrap32 (sms.bearerData.length : Int)) sizes.bearerDataMax).toNat

/-- `constructCdmaSms` on a structure that is there, and how much it copied -/
def constructCdmaSms {sizes : CdmaSmsSizes} (rcsm : RilCdmaSmsMessage sizes)
    (sms : CdmaSmsMessage) : Checked (RilCdmaSmsMessage sizes × CopiedCounts) := do
  let limits := copyLimits sizes sms
  let addressDigits ← copyDigits limits.address sms.address.digits rcsm.address.digits
  let subAddressDigits ←
    copyDigits limits.subAddress sms.subAddress.digits rcsm.subAddress.digits
  let bearerData ← copyDigits limits.bearerData sms.bearerData rcsm.bearerData
  pure (storedMessage sms addressDigits subAddressDigits bearerData, limits)

/-! ## To the framework -/

/-- `setToExternal` of the front of an array -/
def setToExternal {size : Nat} (array : Vector UInt8 size) (digitLimit : Int) :
    Checked (List UInt8) := do
  front array.toList (← vectorSize digitLimit)

/-- The conversion of `cdmaNewSmsInd` -/
def cdmaNewSmsInd {sizes : CdmaSmsSizes} (rilMsg : RilCdmaSmsMessage sizes) :
    Checked CdmaSmsMessage := do
  let addressDigits ← setToExternal rilMsg.address.digits
    (min (rilMsg.address.numberOfDigits : Int) sizes.addressMax)
  let subAddressDigits ← setToExternal rilMsg.subAddress.digits
    (min (rilMsg.subAddress.numberOfDigits : Int) sizes.subaddressMax)
  let bearerData ← setToExternal rilMsg.bearerData (min rilMsg.bearerDataLen sizes.bearerDataMax)
  pure
    { teleserviceId := rilMsg.teleserviceId
      isServicePresent := rilMsg.isServicePresent ≠ 0
      serviceCategory := rilMsg.servicecategory
      address :=
        { digitMode := rilMsg.address.digitMode
          numberMode := rilMsg.address.numberMode
          numberType := rilMsg.address.numberType
          numberPlan := rilMsg.address.numberPlan
          digits := addressDigits }
      subAddress :=
        { subaddressType := rilMsg.subAddress.subaddressType
          odd := rilMsg.subAddress.odd ≠ 0
          digits := subAddressDigits }
      bearerData := bearerData }

/-! ## Copies -/

section Copies

variable {size : Nat} {digitLimit : Nat} {digits : List UInt8} {array copied : Vector UInt8 size}

theorem exists_copyDigits (given : digitLimit ≤ digits.length) (fits : digitLimit ≤ size)
    (array : Vector UInt8 size) : ∃ copied, copyDigits digitLimit digits array = .ok copied :=
  ⟨_, dif_pos ⟨given, fits⟩⟩

/-- What was copied to the front is read from there. -/
theorem setToExternal_of_copyDigits (copies : copyDigits digitLimit digits array = .ok copied) :
    setToExternal copied digitLimit = .ok (digits.take digitLimit) := by
  unfold copyDigits at copies
  split at copies
  case isTrue inside =>
    obtain rfl := Except.ok.inj copies
    have nonneg : ¬ ((digitLimit : Int) < 0) := by omega
    have cells : (digits.take digitLimit).length = digitLimit := List.length_take_of_le inside.1
    rw [setToExternal, vectorSize, if_neg nonneg, ok_bind, Int.toNat_natCast, front, if_pos]
    · rw [Int.toNat_natCast]
      exact congrArg _ (List.take_left' cells)
    · rw [Vector.length_toList]
      omega
  case isFalse => cases copies

end Copies

/-! ## Counts -/

/-- A count is the number of copied elements, which the array holds. -/
structure CountsExact {sizes : CdmaSmsSizes} (stored : RilCdmaSmsMessage sizes)
    (copied : CopiedCounts) : Prop where
  address : stored.address.numberOfDigits = copied.address
  address_le : stored.address.numberOfDigits ≤ sizes.addressMax
  subAddress : stored.subAddress.numberOfDigits = copied.subAddress
  subAddress_le : stored.subAddress.numberOfDigits ≤ sizes.subaddressMax
  bearerData : stored.bearerDataLen = copied.bearerData
  bearerData_le : stored.bearerDataLen ≤ sizes.bearerDataMax

/-- The arrays hold all of the message. -/
structure WithinSizes (sizes : CdmaSmsSizes) (sms : CdmaSmsMessage) : Prop where
  address : sms.address.digits.length ≤ sizes.addressMax
  subAddress : sms.subAddress.digits.length ≤ sizes.subaddressMax
  bearerData : sms.bearerData.length ≤ sizes.bearerDataMax

/-- The conversion there and back keeps the message when the arrays hold it, and the counts are
exact. -/
def CdmaSmsKept {sizes : CdmaSmsSizes} (rcsm : RilCdmaSmsMessage sizes) (sms : CdmaSmsMessage) :
    Prop :=
  ∃ stored copied, constructCdmaSms rcsm sms = .ok (stored, copied) ∧
    (WithinSizes sizes sms → cdmaNewSmsInd stored = .ok sms) ∧ CountsExact stored copied

/-- The lengths, as the counts can hold them, are within the sizes. -/
structure CountsFit (sizes : CdmaSmsSizes) (sms : CdmaSmsMessage) : Prop where
  address : sms.address.digits.length % 256 ≤ sizes.addressMax
  subAddress : sms.subAddress.digits.length % 256 ≤ sizes.subaddressMax
  bearerData : sms.bearerData.length % 2 ^ 32 ≤ sizes.bearerDataMax

theorem wrap32_eq_min_iff (length : Nat) {limit : Nat} (small : limit < 2 ^ 31) :
    wrap32 (length : Int) = ((min (wrap32 (length : Int)) limit).toNat : Int) ↔
      length % 2 ^ 32 ≤ limit := by
  unfold wrap32 Int.bmod
  dsimp only
  split <;> omega

section Kept

variable {sizes : CdmaSmsSizes} (rcsm : RilCdmaSmsMessage sizes) (sms : CdmaSmsMessage)

theorem wrap32_length_of_le (sizes : CdmaSmsSizes) {length : Nat}
    (fits : length ≤ sizes.bearerDataMax) : wrap32 (length : Int) = length := by
  have below := fits.trans_lt sizes.bearerDataMax_lt
  exact Int.bmod_eq_of_le_mul_two (by omega) (by omega)

/-- What the arrays hold is copied whole. -/
theorem copyLimits_of_within (within : WithinSizes sizes sms) :
    copyLimits sizes sms =
      ⟨sms.address.digits.length, sms.subAddress.digits.length, sms.bearerData.length⟩ := by
  have address := Nat.mod_eq_of_lt (within.address.trans_lt sizes.addressMax_lt)
  have subAddress := Nat.mod_eq_of_lt (within.subAddress.trans_lt sizes.subaddressMax_lt)
  have fits := within.bearerData
  rw [copyLimits, address, subAddress, wrap32_length_of_le sizes within.bearerData,
    Nat.min_eq_left within.address, Nat.min_eq_left within.subAddress, min_eq_left (by omega),
    Int.toNat_natCast]

/-- A structure whose digits and data are the copies gives back the message that it holds. -/
theorem cdmaNewSmsInd_storedMessage {addressDigits : Vector UInt8 sizes.addressMax}
    {subAddressDigits : Vector UInt8 sizes.subaddressMax}
    {bearerData : Vector UInt8 sizes.bearerDataMax} (within : WithinSizes sizes sms)
    (address : setToExternal addressDigits (sms.address.digits.length : Int) =
      .ok sms.address.digits)
    (subAddress : setToExternal subAddressDigits (sms.subAddress.digits.length : Int) =
      .ok sms.subAddress.digits)
    (bearer : setToExternal bearerData (sms.bearerData.length : Int) = .ok sms.bearerData) :
    cdmaNewSmsInd (storedMessage sms addressDigits subAddressDigits bearerData) = .ok sms := by
  have addressCount := Nat.mod_eq_of_lt (within.address.trans_lt sizes.addressMax_lt)
  have subAddressCount := Nat.mod_eq_of_lt (within.subAddress.trans_lt sizes.subaddressMax_lt)
  have addressFits := within.address
  have subAddressFits := within.subAddress
  have bearerFits := within.bearerData
  have addressLimit : min ((sms.address.digits.length % 256 : Nat) : Int) sizes.addressMax =
      sms.address.digits.length := by omega
  have subAddressLimit : min ((sms.subAddress.digits.length % 256 : Nat) : Int)
      sizes.subaddressMax = sms.subAddress.digits.length := by omega
  have bearerLimit : min (wrap32 (sms.bearerData.length : Int)) sizes.bearerDataMax =
      sms.bearerData.length := by
    rw [wrap32_length_of_le sizes within.bearerData]
    omega
  unfold cdmaNewSmsInd
  simp only [storedMessage]
  rw [addressLimit, address, ok_bind, subAddressLimit, subAddress, ok_bind, bearerLimit, bearer,
    ok_bind]
  simp [pure, Except.pure]

/-- The structure is filled for messages of any lengths. -/
theorem exists_constructCdmaSms :
    ∃ stored, constructCdmaSms rcsm sms = .ok (stored, copyLimits sizes sms) ∧
      stored.address.numberOfDigits = sms.address.digits.length % 256 ∧
      stored.subAddress.numberOfDigits = sms.subAddress.digits.length % 256 ∧
      stored.bearerDataLen = wrap32 (sms.bearerData.length : Int) ∧
      (WithinSizes sizes sms → cdmaNewSmsInd stored = .ok sms) := by
  have bearerLength := wrap32_natCast_le sms.bearerData.length
  have addressCount := Nat.mod_le sms.address.digits.length 256
  have subAddressCount := Nat.mod_le sms.subAddress.digits.length 256
  obtain ⟨addressDigits, addressCopies⟩ : ∃ copied,
      copyDigits (copyLimits sizes sms).address sms.address.digits rcsm.address.digits =
        .ok copied :=
    exists_copyDigits (by simp only [copyLimits]; omega) (by simp only [copyLimits]; omega) _
  obtain ⟨subAddressDigits, subAddressCopies⟩ : ∃ copied,
      copyDigits (copyLimits sizes sms).subAddress sms.subAddress.digits
        rcsm.subAddress.digits = .ok copied :=
    exists_copyDigits (by simp only [copyLimits]; omega) (by simp only [copyLimits]; omega) _
  obtain ⟨bearerData, bearerCopies⟩ : ∃ copied,
      copyDigits (copyLimits sizes sms).bearerData sms.bearerData rcsm.bearerData = .ok copied :=
    exists_copyDigits (by simp only [copyLimits]; omega) (by simp only [copyLimits]; omega) _
  refine ⟨storedMessage sms addressDigits subAddressDigits bearerData, ?_, rfl, rfl, ?_, ?_⟩
  · rw [constructCdmaSms, addressCopies, ok_bind, subAddressCopies, ok_bind, bearerCopies, ok_bind]
    rfl
  · simp only [storedMessage]
  · intro within
    have address := setToExternal_of_copyDigits addressCopies
    have subAddress := setToExternal_of_copyDigits subAddressCopies
    have bearer := setToExternal_of_copyDigits bearerCopies
    rw [copyLimits_of_within sms within, List.take_length] at address subAddress bearer
    exact cdmaNewSmsInd_storedMessage sms within address subAddress bearer

/-- The message is kept and the counts are exact just if they fit the arrays. -/
theorem cdmaSmsKept_iff : CdmaSmsKept rcsm sms ↔ CountsFit sizes sms := by
  obtain ⟨stored, constructs, address, subAddress, bearer, roundTrip⟩ :=
    exists_constructCdmaSms rcsm sms
  have bearerIff := wrap32_eq_min_iff sms.bearerData.length sizes.bearerDataMax_lt
  constructor
  · rintro ⟨other, counts, same, -, exact⟩
    rw [constructs] at same
    cases same
    have first := exact.address_le
    have second := exact.subAddress_le
    have third := exact.bearerData
    rw [address] at first
    rw [subAddress] at second
    simp only [bearer, copyLimits] at third
    exact ⟨first, second, bearerIff.mp third⟩
  · intro fits
    have third := bearerIff.mpr fits.bearerData
    refine ⟨stored, _, constructs, roundTrip, ?_⟩
    constructor
    · rw [address, copyLimits, Nat.min_eq_left fits.address]
    · exact address ▸ fits.address
    · rw [subAddress, copyLimits, Nat.min_eq_left fits.subAddress]
    · exact subAddress ▸ fits.subAddress
    · simp only [bearer, copyLimits]
      exact third
    · rw [bearer]
      generalize wrap32 (sms.bearerData.length : Int) = length at third ⊢
      omega

end Kept

/-- `RIL_CDMA_SMS_ADDRESS_MAX`, `RIL_CDMA_SMS_SUBADDRESS_MAX` and `RIL_CDMA_SMS_BEARER_DATA_MAX` -/
def rilCdmaSmsSizes : CdmaSmsSizes :=
  ⟨36, 36, 255, by decide, by decide, by decide⟩

/-- The structure as `sendCdmaSms` has it before -/
def rilCdmaSmsEmpty : RilCdmaSmsMessage rilCdmaSmsSizes :=
  ⟨0, 0, 0, ⟨0, 0, 0, 0, 0, Vector.replicate _ 0⟩, ⟨0, 0, 0, Vector.replicate _ 0⟩, 0,
    Vector.replicate _ 0⟩

/-- A message to a number of so many digits -/
def digitsMessage (digits : Nat) : CdmaSmsMessage :=
  ⟨0, true, 0, ⟨0, 0, 0, 0, List.replicate digits 1⟩, ⟨0, false, []⟩, []⟩

/-- Thirty-seven digits are counted and thirty-six of them copied. -/
theorem cdmaSms_overcounted : ¬ CdmaSmsKept rilCdmaSmsEmpty (digitsMessage 37) := by
  rintro ⟨stored, copied, same, -, exact⟩
  obtain ⟨other, constructs, address, -⟩ :=
    exists_constructCdmaSms rilCdmaSmsEmpty (digitsMessage 37)
  rw [constructs] at same
  cases same
  have bound := exact.address_le
  rw [address] at bound
  exact absurd bound (by decide)

end X3Hal.Ril
