import Pdx215.Lib.History
import Pdx215.Light.Fallback

/-! What the LEDs show after a sequence of calls, where all their files are there and can be written. -/
namespace Pdx215.Light

open Total History

/-- The files of a LED that are rewritten by every flash mode but breathing. -/
structure Steady where
  trigger : Contents
  brightness : Contents
  syncBlink : Contents
  deriving DecidableEq, Repr

structure Look where
  steady : Steady
  breath : Contents
  deriving DecidableEq, Repr

def Led.look (l : Led) : Look := ⟨⟨l.files .trigger, l.files .brightness, l.files .syncBlink⟩, l.files .breath⟩

/-- How a channel shines in a mode other than breathing. -/
inductive Glow where
  | blinking
  | constant (level : Int)
  deriving DecidableEq, Repr

def Glow.files : Glow → Steady
  | .blinking => ⟨.word "timer", .number 0, .number 1⟩
  | .constant level => ⟨.word "none", .number level, .number 0⟩

theorem Glow.files_injective : Function.Injective Glow.files := by
  intro glow glow' same
  cases glow with
  | blinking =>
    cases glow' with
    | blinking => rfl
    | constant level' => exact absurd same (by simp [Glow.files])
  | constant level =>
    cases glow' with
    | blinking => exact absurd same (by simp [Glow.files])
    | constant level' => simpa [Glow.files] using same

/-- How a state lets a channel shine, unless it is a hardware flash. A timed flash turns the other channels off. -/
def LightState.glow (state : LightState) (led : RgbLed) (maxBrightness : Int) : Option Glow :=
  if state.flashMode = lightFlashHardware then none
  else if state.flashMode = lightFlashTimed then some (if state.lit led then .blinking else .constant 0)
  else some (.constant (scaled (state.channel led) maxBrightness))

/-- Whether the channel is to blink, if the state is a hardware flash that lights it. -/
def LightState.breathes (state : LightState) (led : RgbLed) : Option Bool :=
  if state.flashMode = lightFlashHardware ∧ state.lit led = true then some state.blink else none

def breathFile (blink : Bool) : Contents := .number blink.toInt

theorem breathFile_injective : Function.Injective breathFile := by
  intro blink blink' same
  cases blink <;> cases blink' <;> first | rfl | exact absurd same (by decide)

def LightState.steady (state : LightState) (led : RgbLed) (maxBrightness : Int) : Option Steady :=
  (state.glow led maxBrightness).map Glow.files

def LightState.breath (state : LightState) (led : RgbLed) : Option Contents := (state.breathes led).map breathFile

theorem LightState.glow_eq_none_iff {state : LightState} {led : RgbLed} {maxBrightness : Int} :
    state.glow led maxBrightness = none ↔ state.flashMode = lightFlashHardware := by
  rw [glow]
  split
  · rename_i hardware
    exact iff_of_true rfl hardware
  · rename_i other
    split <;> exact iff_of_false (by simp) other

theorem LightState.breathes_eq_none_iff {state : LightState} {led : RgbLed} :
    state.breathes led = none ↔ ¬ (state.flashMode = lightFlashHardware ∧ state.lit led = true) := by
  rw [breathes]
  split
  · rename_i lights
    exact iff_of_false (by simp) fun other => other lights
  · rename_i other
    exact iff_of_true rfl other

theorem LightState.breathes_of_ne {state : LightState} {led : RgbLed} (mode : state.flashMode ≠ lightFlashHardware) :
    state.breathes led = none :=
  breathes_eq_none_iff.mpr fun lights => mode lights.1

theorem LightState.breath_of_ne {state : LightState} {led : RgbLed} (mode : state.flashMode ≠ lightFlashHardware) :
    state.breath led = none := by
  rw [breath, breathes_of_ne mode, Option.map_none]

def Look.show (look : Look) (state : LightState) (led : RgbLed) (maxBrightness : Int) : Look where
  steady := (state.steady led maxBrightness).getD look.steady
  breath := (state.breath led).getD look.breath

/-! ### One state -/

structure Led.Writable (l : Led) : Prop where
  present : ∀ file, l.present file = true
  free : ∀ file value, l.Free file value

def Sysfs.Writable (s : Sysfs) : Prop := ∀ led, (s.led led).Writable

theorem Led.Within.writable {touched : LedFile → Contents → Prop} {l l' : Led} (within : l.Within touched l')
    (writable : l.Writable) : l'.Writable where
  present := fun file => by rw [within.present]; exact writable.present file
  free := fun file value => within.free file value (writable.free file value)

theorem Led.Writable.blinks {l : Led} (writable : l.Writable) (onMS offMS : Int) : l.Blinks onMS offMS := by
  refine ⟨writable.free _ _ 0, 0, ?_, writable.free _ _ 0⟩
  rw [List.countP_pos_iff]
  exact ⟨0, by decide, by rw [writable.free]; rfl⟩

theorem Synced.look {lit : Bool} {l l' : Led} (synced : Synced lit l l') (writable : l.Writable) :
    l'.look = ⟨⟨.word "none", .number 0, .number lit.toInt⟩, l.files .breath⟩ := by
  obtain ⟨trigger, brightness, syncBlink⟩ := synced.set (writable.free _ _) (writable.free _) (writable.free _)
  rw [Led.look, trigger, brightness, syncBlink, synced.within.files .breath (by rintro value ⟨⟨⟩⟩)]

theorem TimerShown.look {lit : Bool} {onMS offMS : Int} {l l' : Led} (shown : TimerShown lit onMS offMS l l')
    (writable : l.Writable) :
    l'.look = ⟨⟨.word (if lit then "timer" else "none"), .number 0, .number lit.toInt⟩, l.files .breath⟩ := by
  obtain ⟨l₁, synced, timed⟩ := shown
  have dark := synced.look writable
  cases lit with
  | false =>
    rw [if_neg Bool.false_ne_true] at timed
    rw [timed, dark]
    rfl
  | true =>
    rw [if_pos rfl] at timed
    simp only [Led.look, Look.mk.injEq, Steady.mk.injEq] at dark
    rw [Led.look, (timed.set rfl).1, timed.within.files .brightness (by rintro value ⟨⟩),
      timed.within.files .syncBlink (by rintro value ⟨⟩), timed.within.files .breath (by rintro value ⟨⟩),
      dark.1.2.1, dark.1.2.2, dark.2]
    rfl

theorem ConstantShown.look {brightness : Nat} {l l' : Led} {code : Rc} (shown : ConstantShown brightness l code l')
    (writable : l.Writable) :
    l'.look = ⟨⟨.word "none", .number (scaled brightness l.maxBrightness), .number 0⟩, l.files .breath⟩ := by
  obtain ⟨trigger, level⟩ := shown.set (writable.free _ _) (writable.free _)
  have sync := shown.sync (writable.free _ _) (writable.free _) (writable.free _)
  rw [Led.look, trigger, level, sync, shown.within.files .breath (by rintro value ⟨⟨⟩⟩)]

theorem ShowsBreath.look {state : LightState} {s s' : Sysfs} (shown : ShowsBreath state s s')
    (mode : state.flashMode = lightFlashHardware) (led : RgbLed) (maxBrightness : Int) :
    (s'.led led).look = (s.led led).look.show state led maxBrightness := by
  obtain ⟨breath, others⟩ := shown.files led
  simp only [Led.look, Look.show, LightState.steady, LightState.glow, LightState.breath, LightState.breathes, mode,
    if_true, true_and]
  rw [others .trigger fun _ => by decide, others .brightness fun _ => by decide, others .syncBlink fun _ => by decide]
  by_cases lit : state.lit led = true
  · rw [breath lit, if_pos lit]
    rfl
  · rw [others .breath fun lit' => absurd lit' lit, if_neg lit]
    rfl

def Shows (state : LightState) (l : Led) (led : RgbLed) (l' : Led) : Prop :=
  l.Within Flash l' ∧ l'.look = l.look.show state led l.maxBrightness

theorem ShowsBreath.within {state : LightState} {s s' : Sysfs} (shown : ShowsBreath state s s') (led : RgbLed) :
    (s.led led).Within Flash (s'.led led) := by
  have here := shown led
  by_cases lit : state.lit led = true
  · rw [if_pos lit] at here
    exact here.within.mono fun _ _ => .breath
  · rw [if_neg lit] at here
    rw [here]
    exact .refl _ _

theorem TimerShown.within {lit : Bool} {onMS offMS : Int} {l l' : Led} (shown : TimerShown lit onMS offMS l l') :
    l.Within Flash l' := by
  obtain ⟨l₁, synced, timed⟩ := shown
  have quiet : l.Within Flash l₁ := synced.within.mono fun _ _ => .quiet
  cases lit with
  | false =>
    rw [if_neg Bool.false_ne_true] at timed
    rwa [timed]
  | true =>
    rw [if_pos rfl] at timed
    exact quiet.trans (timed.within.mono fun _ _ => .timed)

theorem ends_setSpeakerLightLocked {s : Sysfs} (state : LightState) (writable : s.Writable) :
    Ends (setSpeakerLightLocked true state) s fun _ s' => ∀ led, Shows state (s.led led) led (s'.led led) := by
  have readable : s.Readable := fun led => (writable led).present _
  by_cases hardware : state.flashMode = lightFlashHardware
  · rw [setSpeakerLightLocked_hardware hardware]
    have breathes : AllBreathe state s := fun led _ => ⟨(writable led).present _, (writable led).free _ _ 0⟩
    refine (ends_flashHardware state fun _ => readable).mono ?_
    rintro rc s' (⟨-, -, shown⟩ | ⟨refused, -⟩)
    · exact fun led => ⟨shown.within led, shown.look hardware led _⟩
    · exact absurd breathes refused
  · by_cases timed : state.flashMode = lightFlashTimed
    · rw [setSpeakerLightLocked, if_neg (by decide), if_neg hardware, if_pos timed]
      have blinks : AllBlink state s := fun led _ => (writable led).blinks _ _
      refine (ends_flashTimed state 0 readable).mono ?_
      rintro rc s' (⟨-, -, shown⟩ | ⟨refused, -⟩)
      · intro led
        refine ⟨(shown led).within, ?_⟩
        rw [(shown led).look (writable led), Look.show, LightState.breath_of_ne hardware, LightState.steady,
          LightState.glow, if_neg hardware, if_pos timed]
        cases state.lit led with
        | false => rfl
        | true => rfl
      · exact absurd ⟨rfl, blinks⟩ refused
    · rw [setSpeakerLightLocked, if_neg (by decide), if_neg hardware, if_neg timed]
      refine (ends_flashNone state readable).mono ?_
      rintro rc s' ⟨codes, -, shown⟩ led
      refine ⟨(shown led).within.mono fun _ _ => .quiet, ?_⟩
      rw [(shown led).look (writable led), Look.show, LightState.breath_of_ne hardware, LightState.steady,
        LightState.glow, if_neg hardware, if_neg timed]
      rfl

/-! ### Sequences of calls -/

inductive Target where
  | battery
  | notifications
  | attention
  deriving DecidableEq, Repr

structure LedCall where
  dev : Bool
  target : Target
  state : LightState

def LedCall.run (call : LedCall) (s : State) : Option State :=
  match call.target with
  | .battery => setLightBattery call.dev call.state s
  | .notifications => setLightNotifications call.dev call.state s
  | .attention => setLightAttention call.dev call.state s

def runCalls (calls : List LedCall) (s : State) : Option State := calls.foldlM (fun s call => call.run s) s

structure Remembered where
  gBattery : LightState
  gNotification : LightState
  deriving DecidableEq, Repr

def State.remembered (s : State) : Remembered := ⟨s.gBattery, s.gNotification⟩

def Remembered.shown (r : Remembered) : LightState := if isLit r.gBattery then r.gBattery else r.gNotification

def LedCall.remember (call : LedCall) (r : Remembered) : Remembered :=
  match call.target with
  | .battery => { r with gBattery := call.state }
  | .notifications => { r with gNotification := call.state }
  | .attention => r

/-- The states that the LEDs are told to show, one after the other. -/
def shownBy : Remembered → List LedCall → List LightState
  | _, [] => []
  | r, call :: calls =>
    let rest := shownBy (call.remember r) calls
    if call.dev then (call.remember r).shown :: rest else rest

theorem LedCall.run_eq (call : LedCall) (s : State) : ∃ s₁ : State,
    call.run s = handleSpeakerBatteryLocked call.dev s₁ ∧ s₁.remembered = call.remember s.remembered ∧
      s₁.sysfs = s.sysfs := by
  obtain ⟨dev, target, state⟩ := call
  cases target with
  | battery => exact ⟨_, rfl, rfl, rfl⟩
  | notifications => exact ⟨_, rfl, rfl, rfl⟩
  | attention =>
    refine ⟨_, rfl, ?_, ?_⟩
    · split
      · rfl
      · split
        · rfl
        · rfl
    · split
      · rfl
      · split
        · rfl
        · rfl

theorem LedCall.run_shows (call : LedCall) {s : State} (writable : s.sysfs.Writable) : ∃ t : State,
    call.run s = some t ∧ t.remembered = call.remember s.remembered ∧
      ∀ led, if call.dev then Shows (call.remember s.remembered).shown (s.sysfs.led led) led (t.sysfs.led led)
        else t.sysfs.led led = s.sysfs.led led := by
  obtain ⟨s₁, run, remembered, sysfs⟩ := call.run_eq s
  rw [run, ← remembered, ← sysfs]
  cases dev : call.dev with
  | false => exact ⟨s₁, rfl, rfl, fun led => rfl⟩
  | true =>
    obtain ⟨rc, sysfs', run', shows⟩ := ends_setSpeakerLightLocked s₁.shown (sysfs ▸ writable)
    refine ⟨{ s₁ with sysfs := sysfs' }, ?_, rfl, shows⟩
    rw [handleSpeakerBatteryLocked, run']
    rfl

theorem runCalls_look (calls : List LedCall) {s : State} (writable : s.sysfs.Writable) : ∃ t : State,
    runCalls calls s = some t ∧ t.remembered = calls.foldl (fun r call => call.remember r) s.remembered ∧
      ∀ led, (t.sysfs.led led).look =
        (shownBy s.remembered calls).foldl (fun look state => look.show state led (s.sysfs.led led).maxBrightness)
          (s.sysfs.led led).look := by
  induction calls generalizing s with
  | nil => exact ⟨s, rfl, rfl, fun led => rfl⟩
  | cons call calls ih =>
    obtain ⟨s₁, run, remembered, shows⟩ := call.run_shows writable
    have step (led : RgbLed) : (s.sysfs.led led).Within Flash (s₁.sysfs.led led) ∧
        (s₁.sysfs.led led).look = if call.dev then (s.sysfs.led led).look.show (call.remember s.remembered).shown led
          (s.sysfs.led led).maxBrightness else (s.sysfs.led led).look := by
      have here := shows led
      by_cases dev : call.dev = true
      · rw [if_pos dev] at here ⊢
        exact here
      · rw [if_neg dev] at here ⊢
        rw [here]
        exact ⟨.refl _ _, rfl⟩
    obtain ⟨t, run', ends, looks⟩ := ih fun led => (step led).1.writable (writable led)
    refine ⟨t, ?_, ?_, ?_⟩
    · rw [runCalls, List.foldlM_cons, run]
      exact run'
    · rw [ends, remembered, List.foldl_cons]
    · intro led
      rw [looks led, remembered, (step led).1.maxBrightness not_flash_maxMixBrightness, (step led).2, shownBy]
      by_cases dev : call.dev = true
      · rw [if_pos dev, if_pos dev, List.foldl_cons]
      · rw [if_neg dev, if_neg dev]

/-- The breath is what the last hardware flash has made of it, the rest what the last other state has. -/
theorem foldl_show (states : List LightState) (led : RgbLed) (maxBrightness : Int) (look : Look) :
    states.foldl (fun look state => look.show state led maxBrightness) look =
      ⟨((last? (·.glow led maxBrightness) states).map Glow.files).getD look.steady,
        ((last? (·.breathes led) states).map breathFile).getD look.breath⟩ := by
  rw [← last?_map, ← last?_map, ← foldl_getD_eq, ← foldl_getD_eq]
  induction states generalizing look with
  | nil => rfl
  | cons state states ih => exact ih (look.show state led maxBrightness)

/-- Before `last` is shown, nothing has happened that it leaves and that tells the two histories apart. A hardware
flash leaves how the channel shines, and its breath if it does not light it; all other states leave the breath. -/
structure SameTraces (l : Led) (led : RgbLed) (last : LightState) (states states' : List LightState) : Prop where
  glow : last.flashMode = lightFlashHardware → Agree (fun glow => glow.files = l.look.steady)
    (last? (·.glow led l.maxBrightness) states) (last? (·.glow led l.maxBrightness) states')
  breath : ¬ (last.flashMode = lightFlashHardware ∧ last.lit led = true) →
    Agree (fun blink => breathFile blink = l.look.breath) (last? (·.breathes led) states) (last? (·.breathes led) states')

theorem sameTraces_of_calm {l : Led} {led : RgbLed} {states states' : List LightState} {last : LightState}
    (calm : ∀ state ∈ states ++ [last], state.flashMode ≠ lightFlashHardware)
    (calm' : ∀ state ∈ states', state.flashMode ≠ lightFlashHardware) : SameTraces l led last states states' := by
  refine ⟨fun hardware => absurd hardware (calm last (by simp)), fun _ => ?_⟩
  rw [last?_eq_none fun state here => LightState.breathes_of_ne (calm state (List.mem_append_left _ here)),
    last?_eq_none fun state here => LightState.breathes_of_ne (calm' state here)]
  trivial

/-- Two histories that end with the same state leave the same files exactly if they left the same traces before. -/
theorem foldl_show_last_iff (l : Led) (led : RgbLed) (last : LightState) (states states' : List LightState) :
    (states ++ [last]).foldl (fun look state => look.show state led l.maxBrightness) l.look =
      (states' ++ [last]).foldl (fun look state => look.show state led l.maxBrightness) l.look ↔
    SameTraces l led last states states' := by
  rw [foldl_show, foldl_show, Look.mk.injEq, ← agree_iff Glow.files_injective, ← agree_iff breathFile_injective,
    last?_append, last?_append, last?_append, last?_append]
  rw [agree_or_iff, agree_or_iff, LightState.glow_eq_none_iff, LightState.breathes_eq_none_iff]
  exact ⟨fun both => ⟨both.1, both.2⟩, fun same => ⟨same.glow, same.breath⟩⟩

theorem shownBy_append (r : Remembered) (calls : List LedCall) {call : LedCall} (dev : call.dev = true) :
    shownBy r (calls ++ [call]) =
      shownBy r calls ++ [((calls ++ [call]).foldl (fun r call => call.remember r) r).shown] := by
  induction calls generalizing r with
  | nil => simp [shownBy, dev]
  | cons first calls ih =>
    rw [List.cons_append, shownBy, shownBy, ih, List.foldl_cons]
    split
    · rfl
    · rfl

/-- After a sequence of calls the last of which is for a device, the LEDs are told to show `shown` last. -/
theorem runCalls_last {s : State} (writable : s.sysfs.Writable) (calls : List LedCall) {call : LedCall}
    (dev : call.dev = true) : ∃ t : State, runCalls (calls ++ [call]) s = some t ∧ ∀ led, (t.sysfs.led led).look =
      (shownBy s.remembered calls ++ [t.remembered.shown]).foldl
        (fun look state => look.show state led (s.sysfs.led led).maxBrightness) (s.sysfs.led led).look := by
  obtain ⟨t, run, ends, looks⟩ := runCalls_look (calls ++ [call]) writable
  rw [shownBy_append _ _ dev, ← ends] at looks
  exact ⟨t, run, looks⟩

/-- Two sequences of calls that end with the same battery and notification states, and with a call for a device,
leave the same trigger, brightness, `sync_blink` and breath on all channels exactly if the states shown before have
left the same traces. -/
theorem led_shows_last_state_iff (s : State) (writable : s.sysfs.Writable) (calls calls' : List LedCall)
    (call call' : LedCall) (dev : call.dev = true) (dev' : call'.dev = true) :
    ∃ t t' : State, runCalls (calls ++ [call]) s = some t ∧ runCalls (calls' ++ [call']) s = some t' ∧
      (t.gBattery = t'.gBattery → t.gNotification = t'.gNotification →
        ((∀ led, (t.sysfs.led led).look = (t'.sysfs.led led).look) ↔
          ∀ led, SameTraces (s.sysfs.led led) led t.remembered.shown (shownBy s.remembered calls)
            (shownBy s.remembered calls'))) := by
  obtain ⟨t, run, looks⟩ := runCalls_last writable calls dev
  obtain ⟨t', run', looks'⟩ := runCalls_last writable calls' dev'
  refine ⟨t, t', run, run', fun battery notification => forall_congr' fun led => ?_⟩
  have same : t'.remembered = t.remembered := Remembered.mk.injEq .. ▸ ⟨battery.symm, notification.symm⟩
  rw [looks led, looks' led, same, foldl_show_last_iff]

/-- What the LEDs show is the state they are told to show last, where no hardware flash is ever shown. -/
theorem led_shows_last_state_of_calm {s t t' : State} (writable : s.sysfs.Writable) {calls calls' : List LedCall}
    {call call' : LedCall} (dev : call.dev = true) (dev' : call'.dev = true)
    (run : runCalls (calls ++ [call]) s = some t) (run' : runCalls (calls' ++ [call']) s = some t')
    (same : t.remembered = t'.remembered)
    (calm : ∀ state ∈ shownBy s.remembered calls ++ [t.remembered.shown], state.flashMode ≠ lightFlashHardware)
    (calm' : ∀ state ∈ shownBy s.remembered calls', state.flashMode ≠ lightFlashHardware) (led : RgbLed) :
    (t.sysfs.led led).look = (t'.sysfs.led led).look := by
  obtain ⟨_, ran, looks⟩ := runCalls_last writable calls dev
  obtain ⟨_, ran', looks'⟩ := runCalls_last writable calls' dev'
  cases run.symm.trans ran
  cases run'.symm.trans ran'
  rw [looks led, looks' led, ← same, foldl_show_last_iff]
  exact sameTraces_of_calm calm calm'

namespace Sample

def start : State := .start withBreath

theorem start_writable : start.sysfs.Writable := fun _ => ⟨fun _ => rfl, fun _ _ _ => rfl⟩

def notify (color : BitVec 32) (flashMode : Int) : LedCall := ⟨true, .notifications, ⟨color, flashMode, 500, 500, 0⟩⟩

end Sample

/-- Behind a green hardware flash the last constant light stays on, and the timed flash before it is gone. -/
theorem led_shows_last_state_green : Sample.start.sysfs.Writable ∧
    ∃ t t' : State, runCalls ([Sample.notify 0xff lightFlashTimed, Sample.notify 0xff0000 lightFlashNone] ++
        [Sample.notify 0xff00 lightFlashHardware]) Sample.start = some t ∧
      runCalls ([Sample.notify 0xff0000 lightFlashNone] ++ [Sample.notify 0xff00 lightFlashHardware]) Sample.start =
        some t' ∧
      ∀ led, (t.sysfs.led led).look = (t'.sysfs.led led).look := by
  obtain ⟨t, t', run, run', same⟩ := led_shows_last_state_iff Sample.start Sample.start_writable
    [Sample.notify 0xff lightFlashTimed, Sample.notify 0xff0000 lightFlashNone]
    [Sample.notify 0xff0000 lightFlashNone] (Sample.notify 0xff00 lightFlashHardware)
    (Sample.notify 0xff00 lightFlashHardware) rfl rfl
  have ends : t.remembered = ⟨Sample.start.gBattery, (Sample.notify 0xff00 lightFlashHardware).state⟩ := by
    cases run
    rfl
  have ends' : t'.remembered = ⟨Sample.start.gBattery, (Sample.notify 0xff00 lightFlashHardware).state⟩ := by
    cases run'
    rfl
  obtain ⟨battery, notification⟩ := Remembered.mk.inj (ends.trans ends'.symm)
  refine ⟨Sample.start_writable, t, t', run, run', (same battery notification).mpr fun led => ?_⟩
  rw [ends]
  cases led with
  | red => exact ⟨fun _ => by decide, fun _ => by decide⟩
  | green => exact ⟨fun _ => by decide, fun _ => by decide⟩
  | blue => exact ⟨fun _ => by decide, fun _ => by decide⟩

/-- Red stays on behind a green hardware flash. -/
theorem constant_red_survives : Sample.start.sysfs.Writable ∧
    ∃ t t' : State, runCalls [Sample.notify 0xff0000 lightFlashNone, Sample.notify 0xff00 lightFlashHardware]
        Sample.start = some t ∧ runCalls [Sample.notify 0xff00 lightFlashHardware] Sample.start = some t' ∧
      t.gBattery = t'.gBattery ∧ t.gNotification = t'.gNotification ∧
      (t.sysfs.led .red).look = ⟨⟨.word "none", .number 255, .number 0⟩, .number 0⟩ ∧
      (t'.sysfs.led .red).look = ⟨⟨.word "none", .number 0, .number 0⟩, .number 0⟩ :=
  ⟨Sample.start_writable, _, _, rfl, rfl, by decide, by decide, by decide, by decide⟩

end Pdx215.Light
