import Mathlib.Logic.Function.Basic
import X3Hal.Transition.Justified

/-!
# The indicator LEDs

The battery and the notifications share three LEDs.  Each function that lights one keeps the status
it set last, and writes nothing when the status stays; a battery without colour is set first all
the same, so that the notification after it is always written.
-/

namespace X3Hal.Lights

open X3Hal.Transition

/-! ## States of lights -/

/-- `LIGHT_FLASH_TIMED` -/
def lightFlashTimed : Int := 1

/-- `struct light_state_t` -/
structure LightState where
  color : UInt32
  flashMode : Int
  flashOnMS : Int
  flashOffMS : Int
  deriving DecidableEq, Repr

namespace LightState

/-- A variable before its first value. -/
def zero : LightState :=
  ⟨0, 0, 0, 0⟩

def alpha (state : LightState) : UInt32 :=
  state.color >>> 24 &&& 0xff

def red (state : LightState) : UInt32 :=
  state.color >>> 16 &&& 0xff

def green (state : LightState) : UInt32 :=
  state.color >>> 8 &&& 0xff

def blue (state : LightState) : UInt32 :=
  state.color &&& 0xff

/-- `is_lit` -/
def isLit (state : LightState) : Bool :=
  state.color &&& 0x00ffffff ≠ 0

end LightState

inductive Led
  | red
  | green
  | blue
  deriving DecidableEq, Repr

theorem forall_led_iff {P : Led → Prop} : (∀ led, P led) ↔ P .red ∧ P .green ∧ P .blue := by
  constructor
  · exact fun all => ⟨all .red, all .green, all .blue⟩
  · rintro ⟨red, green, blue⟩ led
    cases led with
    | red => exact red
    | green => exact green
    | blue => exact blue

instance (P : Led → Prop) [DecidablePred P] : Decidable (∀ led, P led) :=
  decidable_of_iff _ forall_led_iff.symm

/-! ## Files -/

inductive Trigger
  | none
  | timer
  deriving DecidableEq, Repr

/-- The files of an LED. -/
structure LedFiles where
  trigger : Trigger
  brightness : Int
  delayOn : Int
  delayOff : Int
  deriving DecidableEq, Repr

/-- What an LED shows. -/
inductive Shown
  | off
  | steady
  | blinking (onMS offMS : Int)
  deriving DecidableEq, Repr

namespace LedFiles

def shown (files : LedFiles) : Shown :=
  match files.trigger with
  | .timer => .blinking files.delayOn files.delayOff
  | .none => if files.brightness = 0 then .off else .steady

/-- A brightness of 0 takes the trigger away. -/
def writeBrightness (value : Int) (files : LedFiles) : LedFiles :=
  if value = 0 then { files with trigger := .none, brightness := 0 }
  else { files with brightness := value }

def writeTrigger (trigger : Trigger) (files : LedFiles) : LedFiles :=
  { files with trigger := trigger }

def writeDelayOn (value : Int) (files : LedFiles) : LedFiles :=
  { files with delayOn := value }

def writeDelayOff (value : Int) (files : LedFiles) : LedFiles :=
  { files with delayOff := value }

end LedFiles

/-! ## The module -/

/-- `preStatus` -/
inductive Status
  | off
  | blink
  | noBlink
  deriving DecidableEq, Repr

/-- The variables of the module and the files of the device. -/
structure LightsModule where
  gNotification : LightState
  gBattery : LightState
  preStatus : Led → Status
  files : Led → LedFiles

def nowStatus (level : UInt32) (onMS offMS : Int) : Status :=
  if level = 0 then .off
  else if onMS ≠ 0 ∧ offMS ≠ 0 then .blink
  else .noBlink

/-- What is written for a status that is new. -/
def LedFiles.writeStatus (onMS offMS : Int) (files : LedFiles) : Status → LedFiles
  | .off => files.writeBrightness 0
  | .blink => ((files.writeTrigger .timer).writeDelayOff offMS).writeDelayOn onMS
  | .noBlink => (files.writeTrigger .none).writeBrightness 255

/-- The three functions that light an LED. -/
def blinkLed (led : Led) (level : UInt32) (onMS offMS : Int) (lights : LightsModule) :
    LightsModule :=
  let now := nowStatus level onMS offMS
  if lights.preStatus led = now then lights
  else
    { lights with
      preStatus := Function.update lights.preStatus led now
      files := Function.update lights.files led ((lights.files led).writeStatus onMS offMS now) }

/-- `blink_red` -/
def blinkRed : UInt32 → Int → Int → LightsModule → LightsModule :=
  blinkLed .red

/-- `blink_green` -/
def blinkGreen : UInt32 → Int → Int → LightsModule → LightsModule :=
  blinkLed .green

/-- `blink_blue` -/
def blinkBlue : UInt32 → Int → Int → LightsModule → LightsModule :=
  blinkLed .blue

/-- `set_speaker_light_locked` -/
def setSpeakerLightLocked (state : LightState) (lights : LightsModule) : LightsModule :=
  let onMS := if state.flashMode = lightFlashTimed then state.flashOnMS else 0
  let offMS := if state.flashMode = lightFlashTimed then state.flashOffMS else 0
  let red := if state.alpha ≠ 0 then state.red else 0
  let green := if state.alpha ≠ 0 then state.green else 0
  let blue := if state.alpha ≠ 0 then state.blue else 0
  if red ≠ 0 then blinkRed red onMS offMS (blinkBlue 0 0 0 (blinkGreen 0 0 0 lights))
  else if green ≠ 0 then blinkGreen green onMS offMS (blinkBlue 0 0 0 (blinkRed 0 0 0 lights))
  else if blue ≠ 0 then blinkBlue blue onMS offMS (blinkGreen 0 0 0 (blinkRed 0 0 0 lights))
  else blinkBlue 0 0 0 (blinkGreen 0 0 0 (blinkRed 0 0 0 lights))

/-- `handle_speaker_battery_locked` -/
def handleSpeakerBatteryLocked (lights : LightsModule) : LightsModule :=
  if lights.gBattery.isLit then setSpeakerLightLocked lights.gBattery lights
  else
    let dark := setSpeakerLightLocked lights.gBattery lights
    setSpeakerLightLocked dark.gNotification dark

/-- A call of the module; there is no trackball. -/
inductive LightCall
  /-- `set_light_battery` -/
  | battery (state : LightState)
  /-- `set_light_notifications` -/
  | notifications (state : LightState)
  deriving DecidableEq, Repr

def LightsModule.call (lights : LightsModule) : LightCall → LightsModule
  | .battery state => handleSpeakerBatteryLocked { lights with gBattery := state }
  | .notifications state => handleSpeakerBatteryLocked { lights with gNotification := state }

/-- What the LEDs show. -/
structure Display where
  red : Shown
  green : Shown
  blue : Shown
  deriving DecidableEq, Repr

def Display.led (display : Display) : Led → Shown
  | .red => display.red
  | .green => display.green
  | .blue => display.blue

def LightsModule.display (lights : LightsModule) : Display where
  red := (lights.files .red).shown
  green := (lights.files .green).shown
  blue := (lights.files .blue).shown

theorem LightsModule.display_led (lights : LightsModule) (led : Led) :
    lights.display.led led = (lights.files led).shown := by
  cases led with
  | red => rfl
  | green => rfl
  | blue => rfl

/-- The indicator, with what the LEDs show after each call; they are off at first. -/
def indicator : System LightsModule LightCall Display where
  Init lights := lights.gNotification = .zero ∧ lights.gBattery = .zero ∧
    (∀ led, lights.preStatus led = .off) ∧ ∀ led, (lights.files led).shown = .off
  step lights call := some (lights.call call, [(lights.call call).display])

/-! ## What is to be shown -/

namespace LightState

/-- Alpha and a colour. -/
def HasColour (state : LightState) : Prop :=
  state.alpha ≠ 0 ∧ state.isLit = true

instance (state : LightState) : Decidable state.HasColour :=
  inferInstanceAs (Decidable (_ ∧ _))

/-- The first of red, green and blue that is not 0. -/
def firstColour (state : LightState) : Led :=
  if state.red ≠ 0 then .red else if state.green ≠ 0 then .green else .blue

/-- Blinking with both times, and steady otherwise. -/
def mode (state : LightState) : Shown :=
  if state.flashMode = lightFlashTimed ∧ state.flashOnMS ≠ 0 ∧ state.flashOffMS ≠ 0 then
    .blinking state.flashOnMS state.flashOffMS
  else .steady

/-- The LED of the first colour, unless there is no alpha. -/
def target (state : LightState) (led : Led) : Shown :=
  if state.HasColour ∧ led = state.firstColour then state.mode else .off

end LightState

/-- The states that were set last. -/
structure Settings where
  battery : LightState
  notification : LightState

def Settings.call (settings : Settings) : LightCall → Settings
  | .battery state => { settings with battery := state }
  | .notifications state => { settings with notification := state }

/-- The settings after calls. -/
def settingsAfter (calls : List LightCall) : Settings :=
  calls.foldl Settings.call ⟨.zero, .zero⟩

/-- The battery has the LEDs when it is lit. -/
def Settings.target (settings : Settings) (led : Led) : Shown :=
  if settings.battery.HasColour then settings.battery.target led
  else settings.notification.target led

/-- At most one LED is lit. -/
theorem Settings.eq_of_target_ne_off (settings : Settings) {led other : Led}
    (lit : settings.target led ≠ .off) (alsoLit : settings.target other ≠ .off) : led = other := by
  have only (state : LightState) {led : Led} (lit : state.target led ≠ .off) :
      led = state.firstColour := by
    unfold LightState.target at lit
    split at lit
    case isTrue first => exact first.2
    case isFalse => exact absurd rfl lit
  unfold Settings.target at lit alsoLit
  split at lit
  case isTrue battery =>
    rw [if_pos battery] at alsoLit
    exact (only _ lit).trans (only _ alsoLit).symm
  case isFalse battery =>
    rw [if_neg battery] at alsoLit
    exact (only _ lit).trans (only _ alsoLit).symm

/-- After every call the LEDs show what the states that were set last ask for. -/
def IndicatorExact (history : History LightCall Display) : Prop :=
  Justified (fun earlier step => ∀ display ∈ step.2, ∀ led,
    display.led led = (settingsAfter (History.events earlier ++ [step.1])).target led) history

/-! ## What the calls leave -/

/-- The status that stands for what an LED shows. -/
def Shown.status : Shown → Status
  | .off => .off
  | .steady => .noBlink
  | .blinking _ _ => .blink

/-- What an LED shows after it is asked to: one that blinks keeps its times. -/
def Shown.next : Shown → Shown → Shown
  | .blinking onMS offMS, .blinking _ _ => .blinking onMS offMS
  | _, asked => asked

theorem Shown.next_of_status_eq {shown asked : Shown} (same : shown.status = asked.status) :
    shown.next asked = shown := by
  cases shown with
  | off =>
      cases asked with
      | off => rfl
      | steady | blinking _ _ => cases same
  | steady =>
      cases asked with
      | steady => rfl
      | off | blinking _ _ => cases same
  | blinking _ _ =>
      cases asked with
      | blinking _ _ => rfl
      | off | steady => cases same

theorem Shown.next_of_status_ne {shown asked : Shown} (other : shown.status ≠ asked.status) :
    shown.next asked = asked := by
  cases shown with
  | off | steady => rfl
  | blinking _ _ =>
      cases asked with
      | blinking _ _ => exact absurd rfl other
      | off | steady => rfl

@[simp]
theorem Shown.next_off (shown : Shown) : shown.next .off = .off := by
  cases shown with
  | off | steady | blinking _ _ => rfl

@[simp]
theorem Shown.off_next (asked : Shown) : Shown.off.next asked = asked :=
  rfl

/-- It shows what it is asked to unless it blinks and is to blink at other times. -/
theorem Shown.next_eq_iff (shown asked : Shown) :
    shown.next asked = asked ↔
      (shown.status = .blink → asked.status = .blink → shown = asked) := by
  by_cases same : shown.status = asked.status
  · rw [next_of_status_eq same]
    constructor
    · exact fun equal _ _ => equal
    · intro agree
      cases shown with
      | off | steady => cases asked <;> first | rfl | cases same
      | blinking _ _ => exact agree rfl same.symm
  · rw [next_of_status_ne same]
    exact iff_of_true rfl fun blinks alsoBlinks => absurd (blinks.trans alsoBlinks.symm) same

/-- What a level and times ask for. -/
def askedFor (level : UInt32) (onMS offMS : Int) : Shown :=
  if level = 0 then .off
  else if onMS ≠ 0 ∧ offMS ≠ 0 then .blinking onMS offMS
  else .steady

theorem status_askedFor (level : UInt32) (onMS offMS : Int) :
    (askedFor level onMS offMS).status = nowStatus level onMS offMS := by
  unfold askedFor nowStatus
  split
  · rfl
  · split
    · rfl
    · rfl

theorem shown_writeStatus (files : LedFiles) (level : UInt32) (onMS offMS : Int) :
    (files.writeStatus onMS offMS (nowStatus level onMS offMS)).shown =
      askedFor level onMS offMS := by
  unfold nowStatus askedFor
  split
  case isTrue => rfl
  case isFalse =>
    split
    case isTrue => rfl
    case isFalse => rfl

/-- The LEDs show a view, and the statuses are those of the view. -/
def Shows (lights : LightsModule) (view : Led → Shown) : Prop :=
  ∀ led, lights.preStatus led = (view led).status ∧ (lights.files led).shown = view led

section Calls

variable {lights : LightsModule} {view : Led → Shown} (shows : Shows lights view)
include shows

theorem Shows.blinkLed (led : Led) (level : UInt32) (onMS offMS : Int) :
    Shows (blinkLed led level onMS offMS lights)
      (Function.update view led ((view led).next (askedFor level onMS offMS))) := by
  have status := status_askedFor level onMS offMS
  unfold Lights.blinkLed
  dsimp only
  rw [(shows led).1]
  split
  case isTrue same =>
    rw [Shown.next_of_status_eq (same.trans status.symm), Function.update_eq_self]
    exact shows
  case isFalse other =>
    rw [Shown.next_of_status_ne (status.symm ▸ other)]
    intro each
    by_cases isLed : each = led
    · subst isLed
      simp only [Function.update_self]
      exact ⟨status.symm, shown_writeStatus _ level onMS offMS⟩
    · simp only [Function.update_of_ne isLed]
      exact shows each

end Calls

/-! ## Colours -/

theorem askedFor_zero (onMS offMS : Int) : askedFor 0 onMS offMS = .off :=
  rfl

/-- The colours are the bits of the test. -/
theorem isLit_iff (state : LightState) :
    state.isLit = true ↔ state.red ≠ 0 ∨ state.green ≠ 0 ∨ state.blue ≠ 0 := by
  have mask (value : Nat) : value &&& 0xff = value % 2 ^ 8 :=
    Nat.and_two_pow_sub_one_eq_mod value 8
  have wide : state.color.toNat &&& 0x00ffffff = state.color.toNat % 2 ^ 24 :=
    Nat.and_two_pow_sub_one_eq_mod _ 24
  simp only [LightState.isLit, LightState.red, LightState.green, LightState.blue,
    decide_eq_true_eq, ne_eq, ← UInt32.toNat_inj, UInt32.toNat_and, UInt32.toNat_shiftRight,
    UInt32.reduceToNat, Nat.shiftRight_eq_div_pow, mask, wide, Nat.reducePow, Nat.reduceMod]
  omega

/-! ## The functions -/

section Speaker

variable {lights : LightsModule} {view : Led → Shown} (shows : Shows lights view)
include shows

/-- Two LEDs are put out before the third is lit. -/
theorem Shows.only {first second third : Led}
    (apart : first ≠ second ∧ first ≠ third ∧ second ≠ third)
    (level : UInt32) (onMS offMS : Int) :
    Shows (Lights.blinkLed third level onMS offMS
        (Lights.blinkLed second 0 0 0 (Lights.blinkLed first 0 0 0 lights)))
      fun led => (view led).next (if led = third then askedFor level onMS offMS else .off) := by
  have all : ∀ led, led = first ∨ led = second ∨ led = third := by
    intro led
    revert apart
    cases first <;> cases second <;> cases third <;> cases led <;> decide
  have lit := ((shows.blinkLed first 0 0 0).blinkLed second 0 0 0).blinkLed third level onMS offMS
  convert lit using 1
  funext led
  rcases all led with rfl | rfl | rfl
  · rw [if_neg apart.2.1, Function.update_of_ne apart.2.1, Function.update_of_ne apart.1,
      Function.update_self, askedFor_zero]
  · rw [if_neg apart.2.2, Function.update_of_ne apart.2.2, Function.update_self,
      Function.update_of_ne apart.1.symm, askedFor_zero]
  · rw [if_pos rfl, Function.update_self, Function.update_of_ne apart.2.2.symm,
      Function.update_of_ne apart.2.1.symm]

end Speaker

theorem askedFor_mode {level : UInt32} (state : LightState) (someLevel : level ≠ 0) :
    askedFor level (if state.flashMode = lightFlashTimed then state.flashOnMS else 0)
        (if state.flashMode = lightFlashTimed then state.flashOffMS else 0) = state.mode := by
  rw [askedFor, if_neg someLevel, LightState.mode]
  by_cases timed : state.flashMode = lightFlashTimed
  · simp only [timed, true_and, if_true]
  · simp [timed]

theorem target_of_not_hasColour {state : LightState} (without : ¬ state.HasColour) (led : Led) :
    state.target led = .off :=
  if_neg fun lit => without lit.1

theorem target_of_hasColour {state : LightState} (lit : state.HasColour) (led : Led) :
    state.target led = if led = state.firstColour then state.mode else .off := by
  rw [LightState.target]
  simp only [lit, true_and]

theorem Shows.setSpeakerLightLocked {lights : LightsModule} {view : Led → Shown}
    (shows : Shows lights view) (state : LightState) :
    Shows (setSpeakerLightLocked state lights) fun led => (view led).next (state.target led) := by
  have dark (without : ¬ state.HasColour) :
      Shows (blinkBlue 0 0 0 (blinkGreen 0 0 0 (blinkRed 0 0 0 lights)))
        fun led => (view led).next (state.target led) := by
    have out := @Shows.only lights view shows .red .green .blue (by decide) 0 0 0
    simp only [askedFor_zero, ite_self] at out
    simp only [target_of_not_hasColour without]
    exact out
  unfold Lights.setSpeakerLightLocked
  by_cases alpha : state.alpha ≠ 0
  · simp only [if_pos alpha]
    by_cases red : state.red ≠ 0
    · have lit : state.HasColour := ⟨alpha, (isLit_iff state).mpr (.inl red)⟩
      have first : state.firstColour = .red := if_pos red
      have shown := @Shows.only lights view shows .green .blue .red (by decide) state.red
      rw [if_pos red]
      simp only [target_of_hasColour lit, first, ← askedFor_mode state red]
      exact shown _ _
    · rw [if_neg red]
      by_cases green : state.green ≠ 0
      · have lit : state.HasColour := ⟨alpha, (isLit_iff state).mpr (.inr (.inl green))⟩
        have first : state.firstColour = .green := (if_neg red).trans (if_pos green)
        have shown := @Shows.only lights view shows .red .blue .green (by decide) state.green
        rw [if_pos green]
        simp only [target_of_hasColour lit, first, ← askedFor_mode state green]
        exact shown _ _
      · rw [if_neg green]
        by_cases blue : state.blue ≠ 0
        · have lit : state.HasColour := ⟨alpha, (isLit_iff state).mpr (.inr (.inr blue))⟩
          have first : state.firstColour = .blue := (if_neg red).trans (if_neg green)
          have shown := @Shows.only lights view shows .red .green .blue (by decide) state.blue
          rw [if_pos blue]
          simp only [target_of_hasColour lit, first, ← askedFor_mode state blue]
          exact shown _ _
        · rw [if_neg blue]
          apply dark
          rintro ⟨-, isLit⟩
          rcases (isLit_iff state).mp isLit with isRed | isGreen | isBlue
          · exact red isRed
          · exact green isGreen
          · exact blue isBlue
  · simp only [if_neg alpha]
    exact dark fun lit => alpha lit.1

theorem settings_blinkLed (led : Led) (level : UInt32) (onMS offMS : Int) (lights : LightsModule) :
    (blinkLed led level onMS offMS lights).gBattery = lights.gBattery ∧
      (blinkLed led level onMS offMS lights).gNotification = lights.gNotification := by
  unfold blinkLed
  dsimp only
  split
  · exact ⟨rfl, rfl⟩
  · exact ⟨rfl, rfl⟩

theorem settings_setSpeakerLightLocked (state : LightState) (lights : LightsModule) :
    (setSpeakerLightLocked state lights).gBattery = lights.gBattery ∧
      (setSpeakerLightLocked state lights).gNotification = lights.gNotification := by
  unfold setSpeakerLightLocked
  simp only [blinkRed, blinkGreen, blinkBlue]
  repeat' split
  all_goals simp only [settings_blinkLed, and_self]

/-! ## Calls -/

/-- What the LEDs show after a call, from what they showed before it. -/
def Settings.shownNext (settings : Settings) (view : Led → Shown) (led : Led) : Shown :=
  if settings.battery.isLit then (view led).next (settings.battery.target led)
  else settings.notification.target led

/-- The module has these settings. -/
def LightsModule.Has (lights : LightsModule) (settings : Settings) : Prop :=
  lights.gBattery = settings.battery ∧ lights.gNotification = settings.notification

theorem LightsModule.Has.setSpeakerLightLocked {lights : LightsModule} {settings : Settings}
    (has : lights.Has settings) (state : LightState) :
    (Lights.setSpeakerLightLocked state lights).Has settings := by
  have kept := settings_setSpeakerLightLocked state lights
  exact ⟨kept.1.trans has.1, kept.2.trans has.2⟩

theorem LightsModule.Has.handleSpeakerBatteryLocked {lights : LightsModule} {settings : Settings}
    (has : lights.Has settings) : (Lights.handleSpeakerBatteryLocked lights).Has settings := by
  unfold Lights.handleSpeakerBatteryLocked
  split
  · exact has.setSpeakerLightLocked _
  · exact (has.setSpeakerLightLocked _).setSpeakerLightLocked _

/-- A call stores its state before it shows what there is. -/
theorem LightsModule.Has.stored {lights : LightsModule} {settings : Settings}
    (has : lights.Has settings) (call : LightCall) :
    ∃ stored : LightsModule, stored.Has (settings.call call) ∧
      lights.call call = Lights.handleSpeakerBatteryLocked stored ∧
      ∀ view, Shows lights view → Shows stored view := by
  cases call with
  | battery state =>
      exact ⟨{ lights with gBattery := state }, ⟨rfl, has.2⟩, rfl, fun _ shows => shows⟩
  | notifications state =>
      exact ⟨{ lights with gNotification := state }, ⟨has.1, rfl⟩, rfl, fun _ shows => shows⟩

theorem LightsModule.Has.call {lights : LightsModule} {settings : Settings}
    (has : lights.Has settings) (call : LightCall) :
    (lights.call call).Has (settings.call call) := by
  obtain ⟨stored, hasNow, isCall, -⟩ := has.stored call
  rw [isCall]
  exact hasNow.handleSpeakerBatteryLocked

theorem Shows.handleSpeakerBatteryLocked {lights : LightsModule} {view : Led → Shown}
    {settings : Settings} (shows : Shows lights view) (has : lights.Has settings) :
    Shows (handleSpeakerBatteryLocked lights) (settings.shownNext view) := by
  unfold Lights.handleSpeakerBatteryLocked Settings.shownNext
  rw [has.1]
  dsimp only
  split
  case isTrue lit => exact shows.setSpeakerLightLocked _
  case isFalse unlit =>
    have shown := (shows.setSpeakerLightLocked settings.battery).setSpeakerLightLocked
      (Lights.setSpeakerLightLocked settings.battery lights).gNotification
    have without : ¬ settings.battery.HasColour := fun lit => unlit lit.2
    rw [(has.setSpeakerLightLocked _).2] at shown ⊢
    simp only [target_of_not_hasColour without, Shown.next_off, Shown.off_next] at shown
    exact shown

theorem Shows.call {lights : LightsModule} {view : Led → Shown} {settings : Settings}
    (shows : Shows lights view) (has : lights.Has settings) (call : LightCall) :
    Shows (lights.call call) ((settings.call call).shownNext view) := by
  obtain ⟨stored, hasNow, isCall, showsNow⟩ := has.stored call
  rw [isCall]
  exact (showsNow view shows).handleSpeakerBatteryLocked hasNow

/-- When a call leaves the LEDs as they should be: a battery of colour without alpha finds no
notification to show, and no LED that blinks is to blink for the battery at other times. -/
structure CallFits (before after : Settings) : Prop where
  alpha : after.battery.isLit = true → after.battery.alpha = 0 → ¬ after.notification.HasColour
  times : after.battery.HasColour → ∀ led, (before.target led).status = .blink →
    (after.target led).status = .blink → before.target led = after.target led

theorem callFits_iff (before after : Settings) :
    CallFits before after ↔
      (after.battery.isLit = true → after.battery.alpha = 0 → ¬ after.notification.HasColour) ∧
        (after.battery.HasColour → ∀ led, (before.target led).status = .blink →
          (after.target led).status = .blink → before.target led = after.target led) :=
  ⟨fun fits => ⟨fits.alpha, fits.times⟩, fun fits => ⟨fits.1, fits.2⟩⟩

instance (before after : Settings) : Decidable (CallFits before after) :=
  decidable_of_iff _ (callFits_iff before after).symm

theorem target_firstColour_ne_off {state : LightState} (lit : state.HasColour) :
    state.target state.firstColour ≠ .off := by
  rw [target_of_hasColour lit, if_pos rfl, LightState.mode]
  split
  · exact Shown.noConfusion
  · exact Shown.noConfusion

theorem shownNext_iff (before after : Settings) :
    (∀ led, after.shownNext before.target led = after.target led) ↔ CallFits before after := by
  unfold Settings.shownNext
  by_cases isLit : after.battery.isLit = true
  · simp only [if_pos isLit]
    by_cases alpha : after.battery.alpha = 0
    · have without : ¬ after.battery.HasColour := fun lit => lit.1 alpha
      simp only [target_of_not_hasColour without, Shown.next_off, Settings.target, if_neg without]
      constructor
      · intro dark
        constructor
        · exact fun _ _ lit => target_firstColour_ne_off lit (dark _).symm
        · exact fun lit => absurd lit without
      · intro fits led
        exact (target_of_not_hasColour (fits.alpha isLit alpha) led).symm
    · have lit : after.battery.HasColour := ⟨alpha, isLit⟩
      have same (led : Led) : after.target led = after.battery.target led := if_pos lit
      simp only [← same, Shown.next_eq_iff]
      constructor
      · intro times
        exact ⟨fun _ none => absurd none alpha, fun _ => times⟩
      · exact fun fits => fits.times lit
  · have without : ¬ after.battery.HasColour := fun lit => isLit lit.2
    simp only [if_neg isLit, Settings.target, if_neg without, implies_true, true_iff]
    exact ⟨fun lit => absurd lit isLit, fun lit => absurd lit without⟩

/-! ## Runs -/

/-- Every call leaves the LEDs as they should be. -/
def IndicatorFits (history : History LightCall Display) : Prop :=
  Justified (fun earlier step => CallFits (settingsAfter (History.events earlier))
    (settingsAfter (History.events earlier ++ [step.1]))) history

theorem settingsAfter_snoc (calls : List LightCall) (call : LightCall) :
    settingsAfter (calls ++ [call]) = (settingsAfter calls).call call := by
  rw [settingsAfter, List.foldl_append]
  rfl

/-- What a run keeps: the settings, and the view as long as every call fits. -/
structure IndicatorSound (history : History LightCall Display) (lights : LightsModule) : Prop where
  has : lights.Has (settingsAfter history.events)
  shows : IndicatorFits history → Shows lights (settingsAfter history.events).target
  exactIff : IndicatorExact history ↔ IndicatorFits history

theorem indicatorSound {history : History LightCall Display} {lights : LightsModule}
    (run : indicator.Run System.free history lights) : IndicatorSound history lights := by
  apply run.invariant
  · rintro state ⟨notification, battery, statuses, dark⟩
    have zero (led : Led) : (settingsAfter []).target led = .off := by
      cases led <;> decide
    constructor
    · exact ⟨battery, notification⟩
    · intro _ led
      rw [History.events_nil, zero]
      exact ⟨statuses led, dark led⟩
    · exact iff_of_true justified_nil justified_nil
  · intro history state call after out sound _ stepped
    cases stepped
    have settings : settingsAfter (history.events ++ [call]) =
        (settingsAfter history.events).call call := settingsAfter_snoc _ _
    have exactStep (fits : IndicatorFits history) :
        (∀ led, ((state.call call).display).led led =
            (settingsAfter (history.events ++ [call])).target led) ↔
          CallFits (settingsAfter history.events) (settingsAfter (history.events ++ [call])) := by
      have shown := (sound.shows fits).call sound.has call
      rw [← shownNext_iff, settings]
      apply forall_congr'
      intro led
      rw [LightsModule.display_led, (shown led).2]
    constructor
    · rw [History.events_snoc, settings]
      exact sound.has.call call
    · intro fits
      rcases justified_snoc_iff.mp fits with ⟨earlier, last⟩
      have shown := (sound.shows earlier).call sound.has call
      rw [History.events_snoc, ← funext ((shownNext_iff _ _).mpr last), settings]
      exact shown
    · rw [IndicatorExact, IndicatorFits, justified_snoc_iff, justified_snoc_iff]
      constructor
      · rintro ⟨earlier, last⟩
        have fits := sound.exactIff.mp earlier
        exact ⟨fits, (exactStep fits).mp (last _ (List.mem_singleton_self _))⟩
      · rintro ⟨fits, last⟩
        refine ⟨sound.exactIff.mpr fits, ?_⟩
        intro display isDisplay
        rw [List.mem_singleton.mp isDisplay]
        exact (exactStep fits).mpr last

/-- The LEDs show what the states ask for exactly when every call fits. -/
theorem indicatorExact_iff {history : History LightCall Display} {lights : LightsModule}
    (run : indicator.Run System.free history lights) :
    IndicatorExact history ↔ IndicatorFits history :=
  (indicatorSound run).exactIff

/-- The device at first. -/
def darkLights : LightsModule :=
  ⟨.zero, .zero, fun _ => .off, fun _ => ⟨.none, 0, 0, 0⟩⟩

theorem init_darkLights : indicator.Init darkLights :=
  ⟨rfl, rfl, fun _ => rfl, fun _ => rfl⟩

/-- A notification that blinks red. -/
def notificationRed : LightState :=
  ⟨0xffff0000, 1, 500, 500⟩

/-- A battery that is green over it, and is dark again. -/
def chargedHistory : History LightCall Display :=
  [(.notifications notificationRed, [⟨.blinking 500 500, .off, .off⟩])] ++
    [(.battery ⟨0xff00ff00, 0, 0, 0⟩, [⟨.off, .steady, .off⟩])] ++
    [(.battery .zero, [⟨.blinking 500 500, .off, .off⟩])]

theorem indicatorExact_iff_charged :
    ∃ lights, indicator.Run System.free chargedHistory lights ∧ IndicatorExact chargedHistory := by
  have executed : (indicator.exec darkLights (History.events chargedHistory)).map Prod.fst =
      some chargedHistory := by
    decide +kernel
  obtain ⟨history, lights, run, rfl⟩ := System.exists_run_of_exec indicator System.free
    (History.events chargedHistory) Prod.fst init_darkLights (by decide +kernel) executed
  refine ⟨lights, run, (indicatorExact_iff run).mpr ?_⟩
  simp only [IndicatorFits, chargedHistory, justified_snoc_iff, justified_singleton]
  decide +kernel

/-- A battery that is to blink faster than the notification keeps the times of the notification. -/
def hurriedHistory : History LightCall Display :=
  [(.notifications notificationRed, [⟨.blinking 500 500, .off, .off⟩])] ++
    [(.battery ⟨0xffff0000, 1, 100, 100⟩, [⟨.blinking 500 500, .off, .off⟩])]

theorem indicator_stale_times :
    ∃ lights, indicator.Run System.free hurriedHistory lights ∧
      ¬ IndicatorExact hurriedHistory := by
  have executed : (indicator.exec darkLights (History.events hurriedHistory)).map Prod.fst =
      some hurriedHistory := by
    decide +kernel
  obtain ⟨history, lights, run, rfl⟩ := System.exists_run_of_exec indicator System.free
    (History.events hurriedHistory) Prod.fst init_darkLights (by decide +kernel) executed
  refine ⟨lights, run, ?_⟩
  intro exact
  have stale := (justified_snoc_iff.mp exact).2 _ (List.mem_singleton_self _) .red
  cases stale

end X3Hal.Lights
