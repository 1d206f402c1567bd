import Pdx215.Light.Sysfs

/-! The functions of lights.c. The lock is held from the first access to a variable or a file to the last, so that a
call is one step. -/
namespace Pdx215.Light

structure LightState where
  color : BitVec 32
  flashMode : Int
  flashOnMS : Int
  flashOffMS : Int
  brightnessMode : Int
  deriving DecidableEq, Repr

def lightFlashNone : Int := 0
def lightFlashTimed : Int := 1
def lightFlashHardware : Int := 2

def brightnessModeUser : Int := 0
def brightnessModeLowPersistence : Int := 2

def LightState.channel (state : LightState) : RgbLed → Nat
  | .red => ((state.color >>> 16) &&& 0xFF).toNat
  | .green => ((state.color >>> 8) &&& 0xFF).toNat
  | .blue => (state.color &&& 0xFF).toNat

def isLit (state : LightState) : Bool := decide (state.color &&& 0x00ffffff ≠ 0)

/-- `!!red`, `!!green` and `!!blue`. -/
def LightState.lit (state : LightState) (led : RgbLed) : Bool := decide (state.channel led ≠ 0)

def rgbToBrightness (state : LightState) : Int :=
  ((77 * state.channel .red + 150 * state.channel .green + 29 * state.channel .blue) / 256 : Nat)

/-! ### The three LEDs -/

def scaled (brightness : Nat) (maxBrightness : Int) : Int := (brightness * maxBrightness).tdiv 0xFF

def setRgbLedBrightness (led : RgbLed) (brightness : Nat) : Hal Rc := do
  let maxBrightness ← readInt (.led led .maxMixBrightness)
  let rc ← writeStr (.led led .trigger) "none"
  if rc.toInt < 0 then return rc
  else writeInt (.led led .brightness) (scaled brightness maxBrightness)

def setRgbLightSync (led : RgbLed) (blink : Bool) : Hal Rc := do
  -- the result is not looked at
  let _ ← setRgbLedBrightness led 0
  writeInt (.led led .syncBlink) blink.toInt

/-- The loop over the retries that are left; `rc` is what the last of the others had. -/
def setDelays (led : RgbLed) (onMS offMS : Int) : Nat → Rc → Hal Rc
  | 0, rc => return rc
  | retries + 1, _ => do
    let rc ← writeInt (.led led .delayOff) offMS
    if rc.toInt < 0 then setDelays led onMS offMS retries rc
    else do
      let rc ← writeInt (.led led .delayOn) onMS
      if rc = 0 then return rc else setDelays led onMS offMS retries rc

def timerRetries : Nat := 20

def setRgbLedTimerTrigger (led : RgbLed) (onMS offMS : Int) : Hal Rc := do
  let rc ← writeStr (.led led .trigger) "timer"
  if rc.toInt < 0 then return rc
  else do
    let rc ← setDelays led onMS offMS timerRetries rc
    if rc.toInt < 0 then return rc else return 0

def setRgbLedHwBlink (led : RgbLed) (blink : Bool) : Hal Rc := do
  let exists' ← fileExists (.led led .breath)
  if !exists' then return -1 else writeInt (.led led .breath) blink.toInt

/-! ### The flash modes -/

def each {α : Type} (set : RgbLed → Hal α) : Hal (RgbLed → α) := do
  let red ← set .red
  let green ← set .green
  let blue ← set .blue
  return fun
    | .red => red
    | .green => green
    | .blue => blue

def orEach (set : RgbLed → Hal Rc) : Hal Rc := do
  let rc ← each set
  return rc .red ||| rc .green ||| rc .blue

/-- `if (!!red) rc |= …` for the three channels. A channel that is not lit adds nothing to `rc`. -/
def orEachLit (state : LightState) (rc : Rc) (set : RgbLed → Hal Rc) : Hal Rc := do
  let result ← orEach fun led => if state.lit led then set led else return 0
  return rc ||| result

/-- `case LIGHT_FLASH_NONE` and `default`. -/
def flashNone (state : LightState) : Hal Rc := do
  let _ ← each fun led => setRgbLightSync led false
  orEach fun led => setRgbLedBrightness led (state.channel led)

/-- `case LIGHT_FLASH_TIMED`. -/
def flashTimed (state : LightState) (rc : Rc) : Hal Rc := do
  let _ ← each fun led => setRgbLightSync led (state.lit led)
  let rc ← orEachLit state rc fun led => setRgbLedTimerTrigger led state.flashOnMS state.flashOffMS
  -- no break unless it is 0
  if rc = 0 then return rc else flashNone state

def LightState.blink (state : LightState) : Bool := decide (state.flashOnMS ≠ 0 ∧ state.flashOffMS ≠ 0)

/-- `case LIGHT_FLASH_HARDWARE`, before which `rc` is 0. -/
def flashHardware (state : LightState) : Hal Rc := do
  let rc ← orEachLit state 0 fun led => setRgbLedHwBlink led state.blink
  if rc = 0 then return rc else flashTimed state rc

/-- `dev` tells whether the pointer is not null. -/
def setSpeakerLightLocked (dev : Bool) (state : LightState) : Hal Rc :=
  if !dev then return -1
  else if state.flashMode = lightFlashHardware then flashHardware state
  else if state.flashMode = lightFlashTimed then flashTimed state 0
  else flashNone state

/-! ### The lights -/

structure State where
  gNotification : LightState
  gBattery : LightState
  gLastBacklightMode : Int
  gAttention : Int
  gHasPersistenceNode : Bool
  sysfs : Sysfs

def State.start (sysfs : Sysfs) : State where
  gNotification := ⟨0, 0, 0, 0, 0⟩
  gBattery := ⟨0, 0, 0, 0, 0⟩
  gLastBacklightMode := brightnessModeUser
  gAttention := 0
  gHasPersistenceNode := false
  sysfs := sysfs

/-- What `open_lights` does to the variables for `LIGHT_ID_BACKLIGHT`. -/
def State.openBacklight (s : State) : State := { s with gHasPersistenceNode := s.sysfs.present .persistence }

def defaultLowPersistenceModeBrightness : Int := 0x80

def enosys : Rc := 38

def persistenceMode (gLastBacklightMode brightnessMode : Int) : Bool :=
  let lpEnabled := decide (brightnessMode = brightnessModeLowPersistence)
  decide (gLastBacklightMode ≠ brightnessMode) && lpEnabled ||
    !lpEnabled && decide (gLastBacklightMode = brightnessModeLowPersistence)

/-- The part under `if (g_has_persistence_node)`: `err`, the brightness and the state. -/
def updatePersistence (state : LightState) (brightness : Int) (s : State) : Rc × Int × State :=
  let lpEnabled := decide (state.brightnessMode = brightnessModeLowPersistence)
  if persistenceMode s.gLastBacklightMode state.brightnessMode then
    let written := s.sysfs.write .persistence (.number lpEnabled.toInt)
    (written.1, if lpEnabled then defaultLowPersistenceModeBrightness else brightness,
      { s with sysfs := written.2, gLastBacklightMode := state.brightnessMode })
  else (0, brightness, { s with gLastBacklightMode := state.brightnessMode })

def setLightBacklight (dev : Bool) (state : LightState) (s : State) : Rc × State :=
  let brightness := rgbToBrightness state
  if !dev then (-1, s)
  else
    let cannotHandlePersistence :=
      !s.gHasPersistenceNode && persistenceMode s.gLastBacklightMode state.brightnessMode
    let (err, brightness, s) := if s.gHasPersistenceNode then updatePersistence state brightness s else (0, brightness, s)
    let (err, s) :=
      if err = 0 then
        let written := s.sysfs.write (if s.sysfs.present .lcd then .lcd else .lcd2) (.number brightness)
        (written.1, { s with sysfs := written.2 })
      else (err, s)
    (if cannotHandlePersistence then -enosys else err, s)

def State.shown (s : State) : LightState := if isLit s.gBattery then s.gBattery else s.gNotification

def handleSpeakerBatteryLocked (dev : Bool) (s : State) : Option State :=
  (setSpeakerLightLocked dev s.shown s.sysfs).map fun (_, sysfs) => { s with sysfs := sysfs }

def setLightBattery (dev : Bool) (state : LightState) (s : State) : Option State :=
  handleSpeakerBatteryLocked dev { s with gBattery := state }

def setLightNotifications (dev : Bool) (state : LightState) (s : State) : Option State :=
  handleSpeakerBatteryLocked dev { s with gNotification := state }

def setLightAttention (dev : Bool) (state : LightState) (s : State) : Option State :=
  handleSpeakerBatteryLocked dev
    (if state.flashMode = lightFlashHardware then { s with gAttention := state.flashOnMS }
    else if state.flashMode = lightFlashNone then { s with gAttention := 0 }
    else s)

def setLightButtons (dev : Bool) (state : LightState) (s : State) : Rc × State :=
  if !dev then (-1, s)
  else
    let written := s.sysfs.write .button (.number (state.channel .blue))
    (written.1, { s with sysfs := written.2 })

end Pdx215.Light
