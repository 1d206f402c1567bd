import Pdx215.Light.Service

/-! The display, the three LEDs and the buttons use different files and different variables. A run of the service is
therefore three runs that know nothing of each other, down to the answers of the calls and the failures of the writes. -/
namespace Pdx215.Light

open Local

inductive Group where
  | backlight
  | leds
  | buttons
  | nothing
  deriving DecidableEq, Repr

def File.group : File → Group
  | .led _ _ => .leds
  | .lcd | .lcd2 | .persistence => .backlight
  | .button => .buttons

/-! ### The files -/

structure Sysfs.Alike (g : Group) (s s' : Sysfs) : Prop where
  files : ∀ f : File, f.group = g → s.files f = s'.files f
  present : ∀ f : File, f.group = g → s.present f = s'.present f
  faults : ∀ f : File, f.group = g → s.faults f = s'.faults f

def sysfsParts : Parts Sysfs Group where
  alike := Sysfs.Alike
  refl _ _ := ⟨fun _ _ => rfl, fun _ _ => rfl, fun _ _ => rfl⟩
  symm alike := ⟨fun f h => (alike.files f h).symm, fun f h => (alike.present f h).symm, fun f h => (alike.faults f h).symm⟩
  trans first second := ⟨fun f h => (first.files f h).trans (second.files f h),
    fun f h => (first.present f h).trans (second.present f h), fun f h => (first.faults f h).trans (second.faults f h)⟩

section Files

variable {s s' : Sysfs} {file : File} {value : Contents}

theorem Sysfs.Alike.write (alike : s.Alike file.group s') :
    (s.write file value).1 = (s'.write file value).1 ∧
      (s.write file value).2.Alike file.group (s'.write file value).2 := by
  have fault : s.faults file value 0 = s'.faults file value 0 := by rw [alike.faults file rfl]
  refine ⟨?_, fun f h => ?_, fun f h => ?_, fun f h => ?_⟩
  · unfold Sysfs.write
    rw [fault]
    cases s'.faults file value 0 <;> rfl
  · rw [Sysfs.write_files, Sysfs.write_files, fault, alike.files f h]
  · rw [Sysfs.write_present, Sysfs.write_present, alike.present f h]
  · funext v k
    rw [Sysfs.write_faults, Sysfs.write_faults, alike.faults f h]

theorem Sysfs.write_apart {g : Group} (other : g ≠ file.group) : s.Alike g (s.write file value).2 := by
  have elsewhere (f : File) (h : f.group = g) : f ≠ file := fun same => other (by rw [← h, same])
  refine ⟨fun f h => ?_, fun f h => ?_, fun f h => ?_⟩
  · rw [Sysfs.write_files, if_neg fun both => elsewhere f h both.1]
  · rw [Sysfs.write_present]
  · funext v k
    rw [Sysfs.write_faults, if_neg fun both => elsewhere f h both.1]

end Files

/-! ### The LEDs -/

section Leds

variable {led : RgbLed} {file : LedFile}

theorem confined_write (value : Contents) :
    Confined sysfsParts .leds (fun s => some (s.write (.led led file) value) : Hal Rc) where
  same := by
    intro s s' rc t alike run
    obtain ⟨rc', after⟩ := @Sysfs.Alike.write s s' (.led led file) value alike
    rw [Option.some.inj run] at rc' after
    exact ⟨(s'.write (.led led file) value).2, congrArg some (Prod.ext rc'.symm rfl), after⟩
  apart := by
    intro s rc t h run other
    have after := @Sysfs.write_apart s (.led led file) value h other
    rwa [Option.some.inj run] at after

theorem confined_readInt : Confined sysfsParts .leds (readInt (.led led file)) where
  same := by
    intro s s' value t alike run
    unfold readInt at run ⊢
    rw [← alike.present _ rfl, ← alike.files _ rfl]
    split at run
    · cases run
      exact ⟨s', if_pos ‹_›, alike⟩
    · cases run
  apart := by
    intro s value t h run _
    unfold readInt at run
    split at run
    · cases run
      exact sysfsParts.refl h s
    · cases run

theorem confined_fileExists : Confined sysfsParts .leds (fileExists (.led led file)) where
  same := by
    intro s s' there t alike run
    cases run
    exact ⟨s', congrArg (fun b => some (b, s')) (alike.present _ rfl).symm, alike⟩
  apart := by
    intro s there t h run _
    cases run
    exact sysfsParts.refl h s

theorem confined_setRgbLedBrightness (brightness : Nat) :
    Confined sysfsParts .leds (setRgbLedBrightness led brightness) :=
  confined_readInt.bind fun _ => (confined_write _).bind fun _ => confined_ite (confined_pure _) (confined_write _)

theorem confined_setRgbLightSync (blink : Bool) : Confined sysfsParts .leds (setRgbLightSync led blink) :=
  (confined_setRgbLedBrightness 0).bind fun _ => confined_write _

theorem confined_setDelays (onMS offMS : Int) (retries : Nat) (rc : Rc) :
    Confined sysfsParts .leds (setDelays led onMS offMS retries rc) := by
  induction retries generalizing rc with
  | zero => exact confined_pure rc
  | succ retries ih =>
    refine (confined_write _).bind fun rc => confined_ite (ih rc) ?_
    exact (confined_write _).bind fun rc => confined_ite (confined_pure rc) (ih rc)

theorem confined_setRgbLedTimerTrigger (onMS offMS : Int) :
    Confined sysfsParts .leds (setRgbLedTimerTrigger led onMS offMS) := by
  refine (confined_write _).bind fun rc => confined_ite (confined_pure rc) ?_
  exact (confined_setDelays onMS offMS timerRetries rc).bind fun rc => confined_ite (confined_pure rc) (confined_pure 0)

theorem confined_setRgbLedHwBlink (blink : Bool) : Confined sysfsParts .leds (setRgbLedHwBlink led blink) :=
  confined_fileExists.bind fun _ => confined_ite (confined_pure _) (confined_write _)

theorem confined_each {α : Type} {set : RgbLed → Hal α} (confined : ∀ led, Confined sysfsParts .leds (set led)) :
    Confined sysfsParts .leds (each set) :=
  (confined .red).bind fun _ => (confined .green).bind fun _ => (confined .blue).bind fun _ => confined_pure _

theorem confined_orEach {set : RgbLed → Hal Rc} (confined : ∀ led, Confined sysfsParts .leds (set led)) :
    Confined sysfsParts .leds (orEach set) :=
  (confined_each confined).bind fun _ => confined_pure _

theorem confined_orEachLit {set : RgbLed → Hal Rc} (state : LightState) (rc : Rc)
    (confined : ∀ led, Confined sysfsParts .leds (set led)) : Confined sysfsParts .leds (orEachLit state rc set) :=
  (confined_orEach fun led => confined_ite (confined led) (confined_pure 0)).bind fun _ => confined_pure _

theorem confined_flashNone (state : LightState) : Confined sysfsParts .leds (flashNone state) :=
  (confined_each fun _ => confined_setRgbLightSync false).bind fun _ =>
    confined_orEach fun led => confined_setRgbLedBrightness (state.channel led)

theorem confined_flashTimed (state : LightState) (rc : Rc) : Confined sysfsParts .leds (flashTimed state rc) := by
  refine (confined_each fun led => confined_setRgbLightSync (state.lit led)).bind fun _ => ?_
  refine (confined_orEachLit state rc fun _ => confined_setRgbLedTimerTrigger _ _).bind fun rc => ?_
  exact confined_ite (confined_pure rc) (confined_flashNone state)

theorem confined_setSpeakerLightLocked (dev : Bool) (state : LightState) :
    Confined sysfsParts .leds (setSpeakerLightLocked dev state) := by
  refine confined_ite (confined_pure _) (confined_ite ?_ (confined_ite (confined_flashTimed state 0) (confined_flashNone state)))
  refine (confined_orEachLit state 0 fun _ => confined_setRgbLedHwBlink _).bind fun rc => ?_
  exact confined_ite (confined_pure rc) (confined_flashTimed state rc)

end Leds

/-! ### The whole state -/

structure State.Alike (g : Group) (s s' : State) : Prop where
  sysfs : s.sysfs.Alike g s'.sysfs
  leds : g = .leds → s.gNotification = s'.gNotification ∧ s.gBattery = s'.gBattery ∧ s.gAttention = s'.gAttention
  backlight : g = .backlight →
    s.gLastBacklightMode = s'.gLastBacklightMode ∧ s.gHasPersistenceNode = s'.gHasPersistenceNode

def parts : Parts State Group where
  alike := State.Alike
  refl g s := ⟨sysfsParts.refl g s.sysfs, fun _ => ⟨rfl, rfl, rfl⟩, fun _ => ⟨rfl, rfl⟩⟩
  symm alike := ⟨sysfsParts.symm alike.sysfs,
    fun h => ⟨(alike.leds h).1.symm, (alike.leds h).2.1.symm, (alike.leds h).2.2.symm⟩,
    fun h => ⟨(alike.backlight h).1.symm, (alike.backlight h).2.symm⟩⟩
  trans first second := ⟨sysfsParts.trans first.sysfs second.sysfs,
    fun h => ⟨(first.leds h).1.trans (second.leds h).1, (first.leds h).2.1.trans (second.leds h).2.1,
      (first.leds h).2.2.trans (second.leds h).2.2⟩,
    fun h => ⟨(first.backlight h).1.trans (second.backlight h).1, (first.backlight h).2.trans (second.backlight h).2⟩⟩

def SetLight.group : SetLight → Group
  | .backlight => .backlight
  | .battery | .notifications | .attention => .leds
  | .buttons => .buttons
  | .dummy => .nothing

section Calls

variable {s s' t : State}

theorem handleSpeakerBatteryLocked_same (alike : s.Alike .leds s') (run : handleSpeakerBatteryLocked true s = some t) :
    ∃ t', handleSpeakerBatteryLocked true s' = some t' ∧ t.Alike .leds t' := by
  obtain ⟨⟨rc, sysfs⟩, ran, rfl⟩ := Option.map_eq_some_iff.mp run
  have shown : s.shown = s'.shown := by
    unfold State.shown
    rw [(alike.leds rfl).1, (alike.leds rfl).2.1]
  obtain ⟨sysfs', ran', after⟩ := (confined_setSpeakerLightLocked true s.shown).same alike.sysfs ran
  rw [shown] at ran'
  exact ⟨{ s' with sysfs := sysfs' }, Option.map_eq_some_iff.mpr ⟨(rc, sysfs'), ran', rfl⟩,
    after, alike.leds, fun h => Group.noConfusion h⟩

theorem handleSpeakerBatteryLocked_apart (run : handleSpeakerBatteryLocked true s = some t) {h : Group}
    (other : h ≠ .leds) : s.Alike h t := by
  obtain ⟨⟨rc, sysfs⟩, ran, rfl⟩ := Option.map_eq_some_iff.mp run
  exact ⟨(confined_setSpeakerLightLocked true s.shown).apart ran other, fun same => absurd same other, fun _ => ⟨rfl, rfl⟩⟩

/-- A call that changes variables of the LEDs and then shows them. -/
theorem confined_ledCall {update : State → State}
    (same : ∀ s s' : State, s.Alike .leds s' → (update s).Alike .leds (update s'))
    (apart : ∀ (s : State) (h : Group), h ≠ .leds → s.Alike h (update s)) :
    Confined parts .leds
      (fun s => (handleSpeakerBatteryLocked true (update s)).map fun s => (0, s) : StateT State Option Rc) where
  same := by
    intro s s' rc t alike run
    obtain ⟨u, ran, done⟩ := Option.map_eq_some_iff.mp run
    cases done
    obtain ⟨t', ran', after⟩ := handleSpeakerBatteryLocked_same (same s s' alike) ran
    exact ⟨t', Option.map_eq_some_iff.mpr ⟨t', ran', rfl⟩, after⟩
  apart := by
    intro s rc t h run other
    obtain ⟨u, ran, done⟩ := Option.map_eq_some_iff.mp run
    cases done
    exact parts.trans (apart s h other) (handleSpeakerBatteryLocked_apart ran other)

/-- The first part of `set_light_backlight`, up to the write to the panel. -/
def persisted (state : LightState) (s : State) : Rc × Int × State :=
  if s.gHasPersistenceNode then updatePersistence state (rgbToBrightness state) s else (0, rgbToBrightness state, s)

def State.panel (s : State) : File := if s.sysfs.present .lcd then .lcd else .lcd2

def writePanel (u : Rc × Int × State) : Rc × State :=
  if u.1 = 0 then
    ((u.2.2.sysfs.write u.2.2.panel (.number u.2.1)).1,
      { u.2.2 with sysfs := (u.2.2.sysfs.write u.2.2.panel (.number u.2.1)).2 })
  else (u.1, u.2.2)

def cannotHandlePersistence (state : LightState) (s : State) : Bool :=
  !s.gHasPersistenceNode && persistenceMode s.gLastBacklightMode state.brightnessMode

theorem setLightBacklight_eq (state : LightState) (s : State) : setLightBacklight true state s =
    (if cannotHandlePersistence state s then -enosys else (writePanel (persisted state s)).1,
      (writePanel (persisted state s)).2) :=
  rfl

theorem State.panel_group (s : State) : s.panel.group = .backlight := by
  unfold State.panel
  split
  · rfl
  · rfl

theorem State.Alike.withSysfs {g : Group} {u u' : Sysfs} (alike : s.Alike g s') (after : u.Alike g u') :
    State.Alike g { s with sysfs := u } { s' with sysfs := u' } :=
  ⟨after, alike.leds, alike.backlight⟩

theorem persisted_same (state : LightState) (alike : s.Alike .backlight s') :
    (persisted state s).1 = (persisted state s').1 ∧ (persisted state s).2.1 = (persisted state s').2.1 ∧
      (persisted state s).2.2.Alike .backlight (persisted state s').2.2 := by
  obtain ⟨mode, node⟩ := alike.backlight rfl
  unfold persisted updatePersistence
  rw [← mode, ← node]
  cases has : s.gHasPersistenceNode with
  | false => exact ⟨rfl, rfl, alike⟩
  | true =>
    simp only [if_true]
    split
    · obtain ⟨rc, after⟩ := @Sysfs.Alike.write s.sysfs s'.sysfs .persistence
        (.number (decide (state.brightnessMode = brightnessModeLowPersistence)).toInt) alike.sysfs
      exact ⟨rc, rfl, after, fun h => Group.noConfusion h, fun _ => ⟨rfl, rfl⟩⟩
    · exact ⟨rfl, rfl, alike.sysfs, fun h => Group.noConfusion h, fun _ => ⟨rfl, rfl⟩⟩

theorem writePanel_same {u u' : Rc × Int × State} (rc : u.1 = u'.1) (brightness : u.2.1 = u'.2.1)
    (alike : u.2.2.Alike .backlight u'.2.2) :
    (writePanel u).1 = (writePanel u').1 ∧ (writePanel u).2.Alike .backlight (writePanel u').2 := by
  have panel : u.2.2.panel = u'.2.2.panel := by
    unfold State.panel
    rw [alike.sysfs.present .lcd rfl]
  unfold writePanel
  rw [← rc, ← brightness, ← panel]
  split
  · obtain ⟨same, after⟩ := @Sysfs.Alike.write u.2.2.sysfs u'.2.2.sysfs u.2.2.panel (.number u.2.1)
      (by rw [State.panel_group]; exact alike.sysfs)
    rw [State.panel_group] at after
    exact ⟨same, alike.withSysfs after⟩
  · exact ⟨rfl, alike⟩

theorem persisted_apart (state : LightState) {h : Group} (other : h ≠ .backlight) :
    s.Alike h (persisted state s).2.2 := by
  unfold persisted updatePersistence
  split
  · split
    · exact ⟨Sysfs.write_apart other, fun _ => ⟨rfl, rfl, rfl⟩, fun same => absurd same other⟩
    · exact ⟨sysfsParts.refl h _, fun _ => ⟨rfl, rfl, rfl⟩, fun same => absurd same other⟩
  · exact parts.refl h s

theorem writePanel_apart (u : Rc × Int × State) {h : Group} (other : h ≠ .backlight) :
    u.2.2.Alike h (writePanel u).2 := by
  unfold writePanel
  split
  · have elsewhere : h ≠ u.2.2.panel.group := by rwa [State.panel_group]
    exact ⟨Sysfs.write_apart elsewhere, fun _ => ⟨rfl, rfl, rfl⟩, fun _ => ⟨rfl, rfl⟩⟩
  · exact parts.refl h _

theorem confined_backlight (state : LightState) : Confined parts .backlight (SetLight.backlight.call state) where
  same := by
    intro s s' rc t alike run
    obtain ⟨first, brightness, before⟩ := persisted_same state alike
    obtain ⟨written, after⟩ := writePanel_same first brightness before
    have handles : cannotHandlePersistence state s = cannotHandlePersistence state s' := by
      unfold cannotHandlePersistence
      rw [(alike.backlight rfl).1, (alike.backlight rfl).2]
    have ran := Option.some.inj run
    rw [setLightBacklight_eq] at ran
    cases ran
    refine ⟨_, congrArg some ?_, after⟩
    rw [setLightBacklight_eq, handles, written]
  apart := by
    intro s rc t h run other
    have ran := Option.some.inj run
    rw [setLightBacklight_eq] at ran
    cases ran
    exact parts.trans (persisted_apart state other) (writePanel_apart _ other)

theorem confined_buttons (state : LightState) : Confined parts .buttons (SetLight.buttons.call state) where
  same := by
    intro s s' rc t alike run
    obtain ⟨written, after⟩ := @Sysfs.Alike.write s.sysfs s'.sysfs .button (.number (state.channel .blue)) alike.sysfs
    cases Option.some.inj run
    exact ⟨_, congrArg some (Prod.ext written.symm rfl), alike.withSysfs after⟩
  apart := by
    intro s rc t h run other
    cases Option.some.inj run
    exact ⟨Sysfs.write_apart other, fun _ => ⟨rfl, rfl, rfl⟩, fun _ => ⟨rfl, rfl⟩⟩

theorem confined_call (state : LightState) (setLight : SetLight) :
    Confined parts setLight.group (setLight.call state) := by
  cases setLight with
  | backlight => exact confined_backlight state
  | buttons => exact confined_buttons state
  | dummy => exact confined_pure 0
  | battery =>
    refine @confined_ledCall (fun s => { s with gBattery := state }) (fun s s' alike => ?_) fun s h other => ?_
    · exact ⟨alike.sysfs, fun h => ⟨(alike.leds h).1, rfl, (alike.leds h).2.2⟩, fun h => Group.noConfusion h⟩
    · exact ⟨sysfsParts.refl h _, fun same => absurd same other, fun _ => ⟨rfl, rfl⟩⟩
  | notifications =>
    refine @confined_ledCall (fun s => { s with gNotification := state }) (fun s s' alike => ?_) fun s h other => ?_
    · exact ⟨alike.sysfs, fun h => ⟨rfl, (alike.leds h).2⟩, fun h => Group.noConfusion h⟩
    · exact ⟨sysfsParts.refl h _, fun same => absurd same other, fun _ => ⟨rfl, rfl⟩⟩
  | attention =>
    refine @confined_ledCall (fun s =>
      if state.flashMode = lightFlashHardware then { s with gAttention := state.flashOnMS }
      else if state.flashMode = lightFlashNone then { s with gAttention := 0 }
      else s) (fun s s' alike => ?_) fun s h other => ?_
    · have set (n : Int) : State.Alike .leds { s with gAttention := n } { s' with gAttention := n } :=
        ⟨alike.sysfs, fun h => ⟨(alike.leds h).1, (alike.leds h).2.1, rfl⟩, fun h => Group.noConfusion h⟩
      split
      · exact set _
      · split
        · exact set 0
        · exact alike
    · have set (n : Int) : s.Alike h { s with gAttention := n } :=
        ⟨sysfsParts.refl h _, fun same => absurd same other, fun _ => ⟨rfl, rfl⟩⟩
      split
      · exact set _
      · split
        · exact set 0
        · exact parts.refl h s

end Calls

/-! ### Runs of the service -/

structure LightCall where
  id : Int
  state : HwLightState

def Lights.step (l : Lights) (call : LightCall) : StateT State Option AStatus := l.setLightState call.id call.state

def Lights.group (l : Lights) (call : LightCall) : Group := ((l.mLights call.id).map SetLight.group).getD .nothing

theorem Lights.confined_step (env : LightType → Loading) (start : State) (call : LightCall) :
    Confined parts ((Lights.construct env start).1.group call) ((Lights.construct env start).1.step call) := by
  unfold Lights.step Lights.group
  rw [Lights.setLightState_eq]
  cases (Lights.construct env start).1.mLights call.id with
  | none => exact confined_pure _
  | some setLight => exact (confined_call call.state.legacyState setLight).bind fun _ => confined_pure _

/-- The calls for one part of the device get the answers, and leave it in the state, that they would without the calls
for the other parts; and the service survives all the calls exactly if it survives those for each part. -/
theorem lights_independent (env : LightType → Loading) (start : State) (calls : List LightCall) :
    let l := (Lights.construct env start).1
    let s := (Lights.construct env start).2
    ((record l.step calls s).isSome ↔ ∀ g, (record l.step (calls.filter (l.group · = g)) s).isSome) ∧
      ∀ history t, record l.step calls s = some (history, t) → ∀ g, ∃ t',
        record l.step (calls.filter (l.group · = g)) s = some (history.filter (l.group ·.1 = g), t') ∧ t.Alike g t' := by
  intro l s
  have confined := Lights.confined_step env start
  refine ⟨record_isSome_iff confined calls s, fun history t run g => ?_⟩
  exact record_part confined run (parts.refl g s)

namespace Sample

def loading : LightType → Loading := fun _ => ⟨0, true⟩

def withoutNode : Sysfs := ⟨fun _ => .number 0, fun f => decide (f ≠ .persistence), fun _ _ _ => none⟩

def service : Lights × State := Lights.construct loading (.start withoutNode)

def persist : LightCall := ⟨0, ⟨0xffffff, lightFlashNone, 0, 0, brightnessModeLowPersistence⟩⟩

def red : LightCall := ⟨4, ⟨0xff0000, lightFlashNone, 0, 0, brightnessModeUser⟩⟩

theorem service_survives : (record service.1.step [persist, red] service.2).isSome = true := by
  decide

end Sample

/- A call for the display and one for the LEDs. -/
theorem lights_independent_pair :
    ∃ history t, record Sample.service.1.step [Sample.persist, Sample.red] Sample.service.2 = some (history, t) ∧
      ∃ t', record Sample.service.1.step [Sample.red] Sample.service.2 =
        some (history.filter (Sample.service.1.group ·.1 = .leds), t') ∧ t.Alike .leds t' := by
  obtain ⟨⟨history, t⟩, run⟩ := Option.isSome_iff_exists.mp Sample.service_survives
  exact ⟨history, t, run, (lights_independent Sample.loading (.start Sample.withoutNode) _).2 history t run .leds⟩

end Pdx215.Light
