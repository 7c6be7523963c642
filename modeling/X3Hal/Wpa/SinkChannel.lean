import Mathlib.Data.Fin.Basic
import Mathlib.Data.UInt
import Mathlib.Logic.Function.Basic

/-!
# The channel of a WFD sink

`p2p_wfd_sink_config_scc` puts the frequency of the connected station into the state of the P2P
module, as an operating class and a channel.  It drops the result of the conversion, so that a
frequency which is none of a channel still changes the state.
-/

namespace X3Hal.Wpa

/-! ## The P2P module -/

/-- `struct p2p_reg_class`, with one channel and `spare` more in its array -/
structure P2pRegClass (spare : Nat) where
  regClass : UInt8
  channel : Fin (spare + 1) → UInt8
  channels : Nat

/-- `struct p2p_channels` -/
structure P2pChannels (spareClasses spare : Nat) where
  regClass : Fin (spareClasses + 1) → P2pRegClass spare
  regClasses : Nat

/-- What the functions touch of `struct p2p_data` and of its configuration. -/
structure P2pData (spareClasses spare : Nat) where
  opRegClass : UInt8
  opChannel : UInt8
  channels : P2pChannels spareClasses spare
  cfgOpChannel : UInt8
  cfgChannels : P2pChannels spareClasses spare

/-- The part of `struct wpa_supplicant`: the P2P module if there is one, and `p2p_oper_reg_class`
and `p2p_oper_channel` of the configuration. -/
structure SinkSupplicant (spareClasses spare : Nat) where
  p2p : Option (P2pData spareClasses spare)
  p2pOperRegClass : Int
  p2pOperChannel : Int

variable {spareClasses spare : Nat}

/-- `priv_p2p_freq_to_channel`: the class and the channel it writes if it returns 0 -/
def privP2pFreqToChannel (freq : Nat) : Option (UInt8 × UInt8) :=
  if 2412 ≤ freq ∧ freq ≤ 2472 then
    if (freq - 2407) % 5 ≠ 0 then none else some (81, .ofNat ((freq - 2407) / 5))
  else if freq = 2484 then some (82, 14)
  else if 5180 ≤ freq ∧ freq ≤ 5240 then
    if (freq - 5000) % 5 ≠ 0 then none else some (115, .ofNat ((freq - 5000) / 5))
  else if 5260 ≤ freq ∧ freq ≤ 5320 then some (118, .ofNat ((freq - 5000) / 5))
  else if 5500 ≤ freq ∧ freq ≤ 5700 then some (121, .ofNat ((freq - 5000) / 5))
  else if 5745 ≤ freq ∧ freq ≤ 5805 then
    if (freq - 5000) % 5 ≠ 0 then none else some (124, .ofNat ((freq - 5000) / 5))
  else if 5825 ≤ freq ∧ freq ≤ 5845 then some (125, .ofNat ((freq - 5000) / 5))
  else none

/-- The lists of channels cut down to one channel. -/
def P2pChannels.only (list : P2pChannels spareClasses spare) (regClass channel : UInt8) :
    P2pChannels spareClasses spare where
  regClasses := 1
  regClass := Function.update list.regClass 0
    { regClass := regClass
      channel := Function.update (list.regClass 0).channel 0 channel
      channels := 1 }

/-- Operation on one channel, that of the connected station. -/
def P2pData.singleChannel (p2p : P2pData spareClasses spare) (regClass channel : UInt8) :
    P2pData spareClasses spare :=
  { p2p with
    opChannel := channel
    opRegClass := regClass
    channels := p2p.channels.only regClass channel }

/-- `p2p_wfd_sink_config_scc`, with the number that `os_get_random` gives -/
def p2pWfdSinkConfigScc (wpaS : SinkSupplicant spareClasses spare) (scc : Int) (operFreq : Nat)
    (random : Nat) : SinkSupplicant spareClasses spare :=
  match wpaS.p2p with
  | none => wpaS
  | some p2p =>
      if scc ≠ 0 ∧ operFreq ≠ 0 then
        let (opRegClass, opChannel) := (privP2pFreqToChannel operFreq).getD (0, 0)
        { wpaS with p2p := some (p2p.singleChannel opRegClass opChannel) }
      else
        let chosen :=
          if wpaS.p2pOperRegClass ≠ 0 ∧ wpaS.p2pOperChannel ≠ 0 then
            { p2p with
              opRegClass := .ofInt wpaS.p2pOperRegClass
              opChannel := .ofInt wpaS.p2pOperChannel
              cfgOpChannel := 1 }
          else
            { p2p with
              opRegClass := 81
              opChannel := .ofNat (1 + random % 3 * 5)
              cfgOpChannel := 0 }
        { wpaS with p2p := some { chosen with channels := chosen.cfgChannels } }

/-! ## The channels there are -/

/-- An operating class: its channels, and the frequency from which they count in steps of 5 MHz. -/
structure OperatingClass where
  number : UInt8
  start : Nat
  channels : List UInt8
  deriving DecidableEq, Repr

/-- The channels of 20 MHz of the classes that the functions know. -/
def operatingClasses : List OperatingClass :=
  [ ⟨81, 2407, [1, 2, 3, 4, 5, 6, 7, 8, 9, 10, 11, 12, 13]⟩,
    ⟨82, 2414, [14]⟩,
    ⟨115, 5000, [36, 40, 44, 48]⟩,
    ⟨118, 5000, [52, 56, 60, 64]⟩,
    ⟨121, 5000, [100, 104, 108, 112, 116, 120, 124, 128, 132, 136, 140]⟩,
    ⟨124, 5000, [149, 153, 157, 161]⟩,
    ⟨125, 5000, [149, 153, 157, 161, 165, 169]⟩ ]

/-- A channel of a class has this centre frequency. -/
def HasCentre (regClass channel : UInt8) (freq : Nat) : Prop :=
  ∃ operatingClass ∈ operatingClasses, operatingClass.number = regClass ∧
    channel ∈ operatingClass.channels ∧ operatingClass.start + 5 * channel.toNat = freq

instance (regClass channel : UInt8) (freq : Nat) : Decidable (HasCentre regClass channel freq) :=
  inferInstanceAs (Decidable (∃ operatingClass ∈ operatingClasses, _))

/-- The frequency is the centre of a channel. -/
def IsCentre (freq : Nat) : Prop :=
  ∃ operatingClass ∈ operatingClasses, ∃ channel ∈ operatingClass.channels,
    operatingClass.start + 5 * channel.toNat = freq

instance (freq : Nat) : Decidable (IsCentre freq) :=
  inferInstanceAs (Decidable (∃ operatingClass ∈ operatingClasses, _))

theorem isCentre_iff (freq : Nat) :
    IsCentre freq ↔ ∃ regClass channel, HasCentre regClass channel freq := by
  constructor
  · rintro ⟨operatingClass, known, channel, listed, centre⟩
    exact ⟨_, channel, operatingClass, known, rfl, listed, centre⟩
  · rintro ⟨regClass, channel, operatingClass, known, -, listed, centre⟩
    exact ⟨operatingClass, known, channel, listed, centre⟩

/-- The centre of a channel is converted to a channel with this centre. -/
theorem privP2pFreqToChannel_of_isCentre {freq : Nat} (isCentre : IsCentre freq) :
    ∃ entry, privP2pFreqToChannel freq = some entry ∧ HasCentre entry.1 entry.2 freq := by
  have all : ∀ operatingClass ∈ operatingClasses, ∀ channel ∈ operatingClass.channels,
      (privP2pFreqToChannel (operatingClass.start + 5 * channel.toNat)).any fun entry =>
        HasCentre entry.1 entry.2 (operatingClass.start + 5 * channel.toNat) := by
    decide +kernel
  rcases isCentre with ⟨operatingClass, known, channel, listed, rfl⟩
  have found := all operatingClass known channel listed
  cases converted : privP2pFreqToChannel (operatingClass.start + 5 * channel.toNat) with
  | none =>
      rw [converted] at found
      exact absurd found Bool.false_ne_true
  | some entry =>
      rw [converted, Option.any_some] at found
      exact ⟨entry, rfl, of_decide_eq_true found⟩

/-! ## What the state holds -/

/-- The state names one channel throughout. -/
structure P2pData.Holds (p2p : P2pData spareClasses spare) (regClass channel : UInt8) : Prop where
  opRegClass : p2p.opRegClass = regClass
  opChannel : p2p.opChannel = channel
  regClasses : p2p.channels.regClasses = 1
  listClass : (p2p.channels.regClass 0).regClass = regClass
  listChannels : (p2p.channels.regClass 0).channels = 1
  listChannel : (p2p.channels.regClass 0).channel 0 = channel

/-- What `p2p_wfd_sink_config_scc` is to do with a frequency: store its channel, or leave the state
alone if there is none. -/
def SinkConfigured (freq : Nat) (before after : P2pData spareClasses spare) : Prop :=
  (∃ regClass channel, HasCentre regClass channel freq ∧ after.Holds regClass channel) ∨
    ¬ IsCentre freq ∧ after.opChannel = before.opChannel ∧ after.opRegClass = before.opRegClass ∧
      after.channels = before.channels

theorem holds_singleChannel (p2p : P2pData spareClasses spare) (regClass channel : UInt8) :
    (p2p.singleChannel regClass channel).Holds regClass channel where
  opRegClass := rfl
  opChannel := rfl
  regClasses := rfl
  listClass := by simp [P2pData.singleChannel, P2pChannels.only]
  listChannels := by simp [P2pData.singleChannel, P2pChannels.only]
  listChannel := by simp [P2pData.singleChannel, P2pChannels.only]

/-- Storing a channel changes nothing just if the state names it already. -/
theorem singleChannel_eq_iff (p2p : P2pData spareClasses spare) (regClass channel : UInt8) :
    (p2p.singleChannel regClass channel).opChannel = p2p.opChannel ∧
        (p2p.singleChannel regClass channel).opRegClass = p2p.opRegClass ∧
        (p2p.singleChannel regClass channel).channels = p2p.channels ↔
      p2p.Holds regClass channel := by
  constructor
  · rintro ⟨sameChannel, sameClass, sameList⟩
    have holds := holds_singleChannel p2p regClass channel
    constructor
    · rw [← sameClass, holds.opRegClass]
    · rw [← sameChannel, holds.opChannel]
    · rw [← sameList, holds.regClasses]
    · rw [← sameList, holds.listClass]
    · rw [← sameList, holds.listChannels]
    · rw [← sameList, holds.listChannel]
  · rintro ⟨opRegClass, opChannel, regClasses, listClass, listChannels, listChannel⟩
    have sameList : p2p.channels.only regClass channel = p2p.channels := by
      rcases p2p with ⟨_, _, ⟨list, count⟩, _, _⟩
      dsimp only at regClasses listClass listChannels listChannel ⊢
      subst regClasses
      have entry :
          (⟨regClass, Function.update (list 0).channel 0 channel, 1⟩ : P2pRegClass spare) =
          list 0 := by
        cases first : list 0 with
        | mk firstClass firstChannel firstChannels =>
            rw [first] at listClass listChannels listChannel
            dsimp only at listClass listChannels listChannel ⊢
            subst listClass listChannels listChannel
            rw [Function.update_eq_self]
      rw [P2pChannels.only, entry, Function.update_eq_self]
    exact ⟨opChannel.symm, opRegClass.symm, sameList⟩

/-! ## Frequencies of no channel -/

/-- The class and the channel stored for a frequency of no channel: those of the band at the
multiple of 5 MHz below it, where the band takes it, and 0 elsewhere. -/
def strayEntry (freq : Nat) : UInt8 × UInt8 :=
  if 5180 ≤ freq ∧ freq ≤ 5240 ∧ freq % 5 = 0 then (115, .ofNat (freq / 5 - 1000))
  else if 5260 ≤ freq ∧ freq ≤ 5320 then (118, .ofNat (freq / 5 - 1000))
  else if 5500 ≤ freq ∧ freq ≤ 5700 then (121, .ofNat (freq / 5 - 1000))
  else if 5745 ≤ freq ∧ freq ≤ 5805 ∧ freq % 5 = 0 then (124, .ofNat (freq / 5 - 1000))
  else if 5825 ≤ freq ∧ freq ≤ 5845 then (125, .ofNat (freq / 5 - 1000))
  else (0, 0)

/-- Multiples of 5 MHz from 2412 to 2472 are centres. -/
theorem isCentre_of_band81 {freq : Nat} (band : 2412 ≤ freq ∧ freq ≤ 2472)
    (onGrid : (freq - 2407) % 5 = 0) : IsCentre freq := by
  have all : ∀ index < 13, IsCentre (2412 + 5 * index) := by decide +kernel
  have isCentre := all ((freq - 2412) / 5) (by omega)
  rwa [show 2412 + 5 * ((freq - 2412) / 5) = freq by omega] at isCentre

theorem getD_privP2pFreqToChannel {freq : Nat} (stray : ¬ IsCentre freq) :
    (privP2pFreqToChannel freq).getD (0, 0) = strayEntry freq := by
  have offset : (freq - 5000) / 5 = freq / 5 - 1000 := by omega
  have grid : 5000 ≤ freq → (freq - 5000) % 5 = freq % 5 := by omega
  unfold privP2pFreqToChannel strayEntry
  rw [offset]
  split
  case isTrue band =>
    have offGrid : (freq - 2407) % 5 ≠ 0 := fun onGrid => stray (isCentre_of_band81 band onGrid)
    rw [if_pos offGrid, if_neg (by omega), if_neg (by omega), if_neg (by omega), if_neg (by omega),
      if_neg (by omega)]
    rfl
  case isFalse =>
    have notLast : freq ≠ 2484 := by
      rintro rfl
      exact stray (by decide +kernel)
    rw [if_neg notLast]
    split
    case isTrue band =>
      rw [grid (by omega)]
      by_cases onGrid : freq % 5 = 0
      · rw [if_neg (not_not.mpr onGrid), if_pos ⟨band.1, band.2, onGrid⟩]
        rfl
      · rw [if_pos onGrid, if_neg (by omega), if_neg (by omega), if_neg (by omega),
          if_neg (by omega), if_neg (by omega)]
        rfl
    case isFalse =>
      rw [if_neg (by omega : ¬ (5180 ≤ freq ∧ freq ≤ 5240 ∧ freq % 5 = 0))]
      split
      case isTrue => rfl
      case isFalse =>
        split
        case isTrue => rfl
        case isFalse =>
          split
          case isTrue band =>
            rw [grid (by omega)]
            by_cases onGrid : freq % 5 = 0
            · rw [if_neg (not_not.mpr onGrid), if_pos ⟨band.1, band.2, onGrid⟩]
              rfl
            · rw [if_pos onGrid, if_neg (by omega), if_neg (by omega)]
              rfl
          case isFalse =>
            rw [if_neg (by omega : ¬ (5745 ≤ freq ∧ freq ≤ 5805 ∧ freq % 5 = 0))]
            split
            case isTrue => rfl
            case isFalse => rfl

/-- The sink is configured as it should be just if the frequency is the centre of a channel, or the
state already names the stray channel. -/
theorem sinkConfigured_iff {wpaS : SinkSupplicant spareClasses spare}
    {before : P2pData spareClasses spare} (hasP2p : wpaS.p2p = some before) {scc : Int}
    (isSet : scc ≠ 0) {operFreq : Nat} (connected : operFreq ≠ 0) (random : Nat) :
    (∃ after, (p2pWfdSinkConfigScc wpaS scc operFreq random).p2p = some after ∧
        SinkConfigured operFreq before after) ↔
      IsCentre operFreq ∨ before.Holds (strayEntry operFreq).1 (strayEntry operFreq).2 := by
  have stored : (p2pWfdSinkConfigScc wpaS scc operFreq random).p2p =
      some (before.singleChannel ((privP2pFreqToChannel operFreq).getD (0, 0)).1
        ((privP2pFreqToChannel operFreq).getD (0, 0)).2) := by
    rw [p2pWfdSinkConfigScc, hasP2p]
    dsimp only
    rw [if_pos ⟨isSet, connected⟩]
  rw [stored]
  simp only [Option.some_inj, exists_eq_left']
  by_cases isCentre : IsCentre operFreq
  · rcases privP2pFreqToChannel_of_isCentre isCentre with ⟨entry, converted, centre⟩
    apply iff_of_true _ (Or.inl isCentre)
    rw [converted, Option.getD_some]
    exact Or.inl ⟨_, _, centre, holds_singleChannel before _ _⟩
  · rw [getD_privP2pFreqToChannel isCentre]
    constructor
    · rintro (⟨regClass, channel, centre, -⟩ | ⟨-, same⟩)
      · exact absurd ((isCentre_iff operFreq).mpr ⟨regClass, channel, centre⟩) isCentre
      · exact Or.inr ((singleChannel_eq_iff before _ _).mp same)
    · rintro (centre | holds)
      · exact absurd centre isCentre
      · exact Or.inr ⟨isCentre, (singleChannel_eq_iff before _ _).mpr holds⟩

/-- A P2P module on channel 11 of class 81, with that channel only. -/
def channelEleven : P2pData 9 19 where
  opRegClass := 81
  opChannel := 11
  channels := ⟨fun _ => ⟨81, fun _ => 11, 1⟩, 1⟩
  cfgOpChannel := 0
  cfgChannels := ⟨fun _ => ⟨81, fun _ => 11, 1⟩, 1⟩

/-- A station on channel 6 -/
theorem sinkConfigured_iff_channelSix :
    ∃ after, (p2pWfdSinkConfigScc ⟨some channelEleven, 0, 0⟩ 1 2437 0).p2p = some after ∧
      SinkConfigured 2437 channelEleven after := by
  apply (sinkConfigured_iff rfl Int.one_ne_zero (by decide) 0).mpr
  exact Or.inl (by decide +kernel)

/-- 2413 MHz is refused by the conversion, and channel 0 of class 0 is stored. -/
theorem sink_without_channel :
    ¬ ∃ after, (p2pWfdSinkConfigScc ⟨some channelEleven, 0, 0⟩ 1 2413 0).p2p = some after ∧
      SinkConfigured 2413 channelEleven after := by
  rintro ⟨after, stored, ⟨regClass, channel, centre⟩ | ⟨-, sameChannel, -⟩⟩
  · have stray : ¬ IsCentre 2413 := by decide +kernel
    exact stray ((isCentre_iff 2413).mpr ⟨regClass, channel, centre.1⟩)
  · obtain rfl := Option.some_inj.mp stored
    exact absurd sameChannel (by decide)

end X3Hal.Wpa
