import Pdx215.Light.Leds

/-! The flash modes of the LEDs, from breathing over the timer to constant brightness. -/
namespace Pdx215.Light

open Total

def Sysfs.Readable (s : Sysfs) : Prop := ∀ led, (s.led led).present .maxMixBrightness = true

theorem Sysfs.Readable.within {s s' : Sysfs} {touched : LedFile → Contents → Prop} (readable : s.Readable)
    (within : ∀ led, (s.led led).Within touched (s'.led led)) : s'.Readable := by
  intro led
  rw [(within led).present]
  exact readable led

section Channels

variable {set : RgbLed → Hal Rc} {s : Sysfs} {post : RgbLed → Rc → Led → Prop}

theorem ends_orEach (acts : ∀ led, Acts led (set led) (s.led led) (post led)) :
    Ends (orEach set) s fun rc s' => ∃ codes : RgbLed → Rc,
      (rc = 0 ↔ ∀ led, codes led = 0) ∧ ∀ led, post led (codes led) (s'.led led) := by
  refine (ends_each acts).bind ?_
  intro codes s' done
  refine ends_pure ⟨codes, ?_, done⟩
  rw [Rc.or_eq_zero_iff, Rc.or_eq_zero_iff]
  constructor
  · rintro ⟨⟨red, green⟩, blue⟩ led
    cases led with
    | red => exact red
    | green => exact green
    | blue => exact blue
  · exact fun all => ⟨⟨all .red, all .green⟩, all .blue⟩

theorem ends_orEachLit {state : LightState} {rc : Rc}
    (acts : ∀ led, Acts led (set led) (s.led led) (post led)) :
    Ends (orEachLit state rc set) s fun rc' s' => ∃ codes : RgbLed → Rc,
      (rc' = 0 ↔ rc = 0 ∧ ∀ led, state.lit led = true → codes led = 0) ∧
      (∀ led, state.lit led = true → post led (codes led) (s'.led led)) ∧
      ∀ led, ¬ state.lit led = true → s'.led led = s.led led := by
  have each (led : RgbLed) : Acts led (if state.lit led then set led else return 0) (s.led led) fun code l =>
      if state.lit led then post led code l else code = 0 ∧ l = s.led led := by
    refine acts_ite ?_ ?_
    · intro lit
      simp only [lit, if_true]
      exact acts led
    · intro dark
      simp only [dark, if_false]
      exact acts_pure ⟨rfl, rfl⟩
  refine (ends_orEach each).bind ?_
  rintro result s' ⟨codes, zero_iff, done⟩
  have bright (led : RgbLed) (lit : state.lit led = true) : post led (codes led) (s'.led led) := by
    have here := done led
    rwa [if_pos lit] at here
  have dark (led : RgbLed) (dark : ¬ state.lit led = true) : codes led = 0 ∧ s'.led led = s.led led := by
    have here := done led
    rwa [if_neg dark] at here
  refine ends_pure ⟨codes, ?_, bright, fun led unlit => (dark led unlit).2⟩
  rw [Rc.or_eq_zero_iff, zero_iff]
  refine and_congr_right fun _ => forall_congr' fun led => ?_
  by_cases lit : state.lit led = true
  · simp [lit]
  · simp [lit, (dark led lit).1]

end Channels

theorem Led.Within.maxBrightness {touched : LedFile → Contents → Prop} {l l' : Led} (within : l.Within touched l')
    (untouched : ∀ value, ¬ touched .maxMixBrightness value) : l'.maxBrightness = l.maxBrightness := by
  rw [Led.maxBrightness, within.files _ untouched, Led.maxBrightness]

/-! ### Constant brightness -/

/-- What is written for a LED that is to have constant brightness, as far as it can be written. -/
structure ConstantShown (brightness : Nat) (l : Led) (code : Rc) (l' : Led) : Prop where
  within : l.Within Quiet l'
  zero : code = 0 → l'.files .trigger = .word "none"
  set : l.Free .trigger (.word "none") → (∀ value, l.Free .brightness value) →
    l'.files .trigger = .word "none" ∧ l'.files .brightness = .number (scaled brightness l.maxBrightness)
  sync : l.Free .trigger (.word "none") → (∀ value, l.Free .brightness value) →
    (∀ value, l.Free .syncBlink value) → l'.files .syncBlink = .number 0

def ShowsConstant (state : LightState) (s : Sysfs) (rc : Rc) (s' : Sysfs) : Prop :=
  ∃ codes : RgbLed → Rc, (rc = 0 ↔ ∀ led, codes led = 0) ∧
    ∀ led, ConstantShown (state.channel led) (s.led led) (codes led) (s'.led led)

theorem ends_flashNone {s : Sysfs} (state : LightState) (readable : s.Readable) :
    Ends (flashNone state) s (ShowsConstant state s) := by
  refine (ends_each fun led => acts_setRgbLightSync false (readable led)).bind ?_
  intro _ s₁ synced
  have readable₁ : s₁.Readable := readable.within fun led => (synced led).within
  refine (ends_orEach fun led => acts_setRgbLedBrightness (state.channel led) (readable₁ led)).mono ?_
  rintro rc s₂ ⟨codes, zero_iff, set⟩
  refine ⟨codes, zero_iff, ?_⟩
  intro led
  have quiet := (synced led).within
  have same := quiet.maxBrightness (by rintro value ⟨⟨⟩⟩)
  refine ⟨quiet.trans ((set led).within.mono fun _ _ => .constant), fun zero => ((set led).set zero).1, ?_, ?_⟩
  · intro trigger brightness
    rw [← same]
    exact (set led).set ((set led).free (quiet.free _ _ trigger) fun value => quiet.free _ _ (brightness value))
  · intro trigger brightness syncBlink
    rw [(set led).within.files _ (by rintro value ⟨⟩)]
    exact ((synced led).set trigger brightness syncBlink).2.2

/-! ### Timer -/

/-- Everything that is written for the flash modes. -/
inductive Flash : LedFile → Contents → Prop
  | quiet {file : LedFile} {value : Contents} (quiet : Quiet file value) : Flash file value
  | timed {file : LedFile} {value : Contents} (timed : Timed file value) : Flash file value
  | breath {file : LedFile} {value : Contents} (breath : Breath file value) : Flash file value

theorem not_flash_maxMixBrightness (value : Contents) : ¬ Flash .maxMixBrightness value := by
  intro flash
  cases flash with
  | quiet quiet =>
    cases quiet with
    | constant constant => cases constant
  | timed timed => cases timed
  | breath breath => cases breath

theorem Quiet.trigger_eq {value : Contents} (quiet : Quiet .trigger value) : value = .word "none" := by
  cases quiet with
  | constant constant =>
    cases constant
    rfl

theorem Led.Within.blinks {l l' : Led} (quiet : l.Within Quiet l') (onMS offMS : Int) :
    l'.Blinks onMS offMS ↔ l.Blinks onMS offMS := by
  have trigger := quiet.faults .trigger (.word "timer") fun quiet => absurd quiet.trigger_eq (by decide)
  have off := quiet.faults .delayOff (.number offMS) (by rintro ⟨⟨⟩⟩)
  have on := quiet.faults .delayOn (.number onMS) (by rintro ⟨⟨⟩⟩)
  rw [Led.Blinks, Led.TakesDelays, trigger, off, on]
  rfl

/-- The LED is switched off, and if it is lit its timer is set. -/
def TimerShown (lit : Bool) (onMS offMS : Int) (l l' : Led) : Prop :=
  ∃ l₁, Synced lit l l₁ ∧ if lit then TimerSet onMS offMS l₁ 0 l' else l' = l₁

def AllBlink (state : LightState) (s : Sysfs) : Prop :=
  ∀ led, state.lit led = true → (s.led led).Blinks state.flashOnMS state.flashOffMS

/-- The timers are set if `rc` was 0 before and each lit channel takes its timer. Otherwise the brightness becomes
constant. -/
theorem ends_flashTimed {s : Sysfs} (state : LightState) (rc : Rc) (readable : s.Readable) :
    Ends (flashTimed state rc) s fun rc' s' =>
      ((rc = 0 ∧ AllBlink state s) ∧ rc' = 0 ∧
        ∀ led, TimerShown (state.lit led) state.flashOnMS state.flashOffMS (s.led led) (s'.led led)) ∨
      (¬ (rc = 0 ∧ AllBlink state s) ∧
        ∃ s₁ : Sysfs, (∀ led, (s.led led).Within Flash (s₁.led led)) ∧ ShowsConstant state s₁ rc' s') := by
  refine (ends_each fun led => acts_setRgbLightSync (state.lit led) (readable led)).bind ?_
  intro _ s₁ synced
  refine (ends_orEachLit fun led => acts_setRgbLedTimerTrigger state.flashOnMS state.flashOffMS).bind ?_
  rintro rc₁ s₂ ⟨codes, zero_iff, timer, dark⟩
  have all : rc₁ = 0 ↔ rc = 0 ∧ AllBlink state s := by
    rw [zero_iff]
    refine and_congr_right fun _ => forall_congr' fun led => forall_congr' fun lit => ?_
    rw [(timer led lit).zero_iff, (synced led).within.blinks]
  have within (led : RgbLed) : (s.led led).Within Flash (s₂.led led) := by
    have quiet : (s.led led).Within Flash (s₁.led led) := (synced led).within.mono fun _ _ => .quiet
    by_cases lit : state.lit led = true
    · exact quiet.trans ((timer led lit).within.mono fun _ _ => .timed)
    · rwa [dark led lit]
  refine ends_ite ?_ ?_
  · intro zero
    refine ends_pure (.inl ⟨all.mp zero, zero, ?_⟩)
    intro led
    refine ⟨s₁.led led, synced led, ?_⟩
    by_cases lit : state.lit led = true
    · have set := timer led lit
      rw [(zero_iff.mp zero).2 led lit] at set
      rwa [if_pos lit]
    · rw [if_neg lit]
      exact dark led lit
  · intro bad
    refine (ends_flashNone state (readable.within within)).mono ?_
    intro rc' s' constant
    exact .inr ⟨fun both => bad (all.mpr both), s₂, within, constant⟩

/-! ### Breath -/

def AllBreathe (state : LightState) (s : Sysfs) : Prop :=
  ∀ led, state.lit led = true → (s.led led).Breathes state.blink

def ShowsBreath (state : LightState) (s s' : Sysfs) : Prop :=
  ∀ led, if state.lit led then BreathSet state.blink (s.led led) 0 (s'.led led) else s'.led led = s.led led

theorem ends_breath (state : LightState) (s : Sysfs) :
    Ends (orEachLit state 0 fun led => setRgbLedHwBlink led state.blink) s fun rc s' =>
      (rc = 0 ↔ AllBreathe state s) ∧ (rc = 0 → ShowsBreath state s s') ∧
        ∀ led, (s.led led).Within Flash (s'.led led) := by
  refine (ends_orEachLit fun led => acts_setRgbLedHwBlink state.blink).mono ?_
  rintro rc s' ⟨codes, zero_iff, breath, dark⟩
  refine ⟨?_, ?_, ?_⟩
  · rw [zero_iff]
    refine (and_iff_right rfl).trans (forall_congr' fun led => forall_congr' fun lit => ?_)
    exact (breath led lit).zero_iff
  · intro zero led
    by_cases lit : state.lit led = true
    · have set := breath led lit
      rw [(zero_iff.mp zero).2 led lit] at set
      rwa [if_pos lit]
    · rw [if_neg lit]
      exact dark led lit
  · intro led
    by_cases lit : state.lit led = true
    · exact (breath led lit).within.mono fun _ _ => .breath
    · rw [dark led lit]
      exact .refl _ _

/-- Where a lit channel does not take its breath the code of the failure is still there when the timers are set, so
that the brightness becomes constant. -/
theorem ends_flashHardware {s : Sysfs} (state : LightState) (readable : ¬ AllBreathe state s → s.Readable) :
    Ends (flashHardware state) s fun rc s' =>
      (AllBreathe state s ∧ rc = 0 ∧ ShowsBreath state s s') ∨
      (¬ AllBreathe state s ∧
        ∃ s₁ : Sysfs, (∀ led, (s.led led).Within Flash (s₁.led led)) ∧ ShowsConstant state s₁ rc s') := by
  refine (ends_breath state s).bind ?_
  rintro rc s₁ ⟨zero_iff, breath, within⟩
  refine ends_ite ?_ ?_
  · intro zero
    exact ends_pure (.inl ⟨zero_iff.mp zero, zero, breath zero⟩)
  · intro bad
    have refused : ¬ AllBreathe state s := fun breathes => bad (zero_iff.mpr breathes)
    refine (ends_flashTimed state rc ((readable refused).within within)).mono ?_
    rintro rc' s' (⟨both, -⟩ | ⟨-, s₂, within₂, constant⟩)
    · exact absurd both.1 bad
    · exact .inr ⟨refused, s₂, fun led => (within led).trans (within₂ led), constant⟩

/-! ### The fallback -/

/-- The light falls back only as far as it has to. Where the brightness is to be constant it is set on each channel on
which the attempts to do so succeed. -/
structure FallsBack (state : LightState) (s : Sysfs) (rc : Rc) (s' : Sysfs) : Prop where
  hardware : AllBreathe state s → rc = 0 ∧ ∀ led,
    (state.lit led = true → (s'.led led).files .breath = .number 1) ∧
    ∀ file, (state.lit led = true → file ≠ .breath) → (s'.led led).files file = (s.led led).files file
  timer : ¬ AllBreathe state s → AllBlink state s → rc = 0 ∧ ∀ led, state.lit led = true →
    (s'.led led).files .trigger = .word "timer" ∧ (s'.led led).files .delayOff = .number state.flashOffMS ∧
      (s'.led led).files .delayOn = .number state.flashOnMS
  constant : ¬ AllBreathe state s → ¬ AllBlink state s → ∀ led,
    (s.led led).Free .trigger (.word "none") → (∀ value, (s.led led).Free .brightness value) →
      (s'.led led).files .trigger = .word "none" ∧
        (s'.led led).files .brightness = .number (scaled (state.channel led) (s.led led).maxBrightness)

theorem setSpeakerLightLocked_hardware {state : LightState} (mode : state.flashMode = lightFlashHardware) :
    setSpeakerLightLocked true state = flashHardware state := by
  simp only [setSpeakerLightLocked, Bool.not_true, Bool.false_eq_true, if_false, mode, if_true]

theorem ShowsBreath.files {state : LightState} {s s' : Sysfs} (breath : ShowsBreath state s s') (led : RgbLed) :
    (state.lit led = true → (s'.led led).files .breath = .number state.blink.toInt) ∧
      ∀ file, (state.lit led = true → file ≠ .breath) → (s'.led led).files file = (s.led led).files file := by
  have here := breath led
  by_cases lit : state.lit led = true
  · rw [if_pos lit] at here
    refine ⟨fun _ => here.set rfl, fun file other => here.within.files file ?_⟩
    rintro value ⟨⟩
    exact other lit rfl
  · rw [if_neg lit] at here
    exact ⟨fun lit' => absurd lit' lit, fun file _ => by rw [here]⟩

theorem ShowsConstant.trigger {state : LightState} {s s' : Sysfs} {rc : Rc} (constant : ShowsConstant state s rc s')
    (zero : rc = 0) (led : RgbLed) : (s'.led led).files .trigger = .word "none" := by
  obtain ⟨codes, zero_iff, shown⟩ := constant
  exact (shown led).zero (zero_iff.mp zero led)

theorem ShowsConstant.set {state : LightState} {s s₁ s' : Sysfs} {rc : Rc} (constant : ShowsConstant state s₁ rc s')
    {led : RgbLed} (within : (s.led led).Within Flash (s₁.led led)) (trigger : (s.led led).Free .trigger (.word "none"))
    (brightness : ∀ value, (s.led led).Free .brightness value) :
    (s'.led led).files .trigger = .word "none" ∧
      (s'.led led).files .brightness = .number (scaled (state.channel led) (s.led led).maxBrightness) := by
  obtain ⟨codes, -, shown⟩ := constant
  rw [← within.maxBrightness not_flash_maxMixBrightness]
  exact (shown led).set (within.free _ _ trigger) fun value => within.free _ _ (brightness value)

/-! ### The end of the process -/

theorem readable_of_sync {led : RgbLed} {blink : Bool} {s : Sysfs} {r : Rc × Sysfs}
    (run : setRgbLightSync led blink s = some r) : (s.led led).present .maxMixBrightness = true := by
  obtain ⟨_, _, brightness, -⟩ := bind_eq_some_iff.mp run
  obtain ⟨_, _, read, -⟩ := bind_eq_some_iff.mp brightness
  by_contra absent
  have closed : ¬ s.present (.led led .maxMixBrightness) = true := absent
  rw [readInt, if_neg closed] at read
  cases read

theorem sync_beside {led other : RgbLed} {blink : Bool} {s s' : Sysfs} {rc : Rc}
    (run : setRgbLightSync led blink s = some (rc, s')) (ne : other ≠ led) : s'.led other = s.led other := by
  obtain ⟨_, _, run', -, beside⟩ := acts_setRgbLightSync blink (readable_of_sync run) s rfl
  rw [run] at run'
  cases run'
  exact beside other ne

/-- `flash_timed` returns only if all three scales can be read: `read_int` closes what it could not open. -/
theorem readable_of_flashTimed {state : LightState} {rc : Rc} {s : Sysfs} {r : Rc × Sysfs}
    (run : flashTimed state rc s = some r) : s.Readable := by
  obtain ⟨_, _, synced, -⟩ := bind_eq_some_iff.mp run
  obtain ⟨_, _, red, synced⟩ := bind_eq_some_iff.mp synced
  obtain ⟨_, _, green, synced⟩ := bind_eq_some_iff.mp synced
  obtain ⟨_, _, blue, -⟩ := bind_eq_some_iff.mp synced
  intro led
  cases led with
  | red => exact readable_of_sync red
  | green =>
    rw [← sync_beside red (by decide)]
    exact readable_of_sync green
  | blue =>
    rw [← sync_beside red (by decide), ← sync_beside green (by decide)]
    exact readable_of_sync blue

theorem readable_of_flashHardware {state : LightState} {s : Sysfs} {r : Rc × Sysfs} (refused : ¬ AllBreathe state s)
    (run : flashHardware state s = some r) : s.Readable := by
  obtain ⟨rc, s₁, breath, rest⟩ := bind_eq_some_iff.mp run
  obtain ⟨_, _, breath', zero_iff, -, within⟩ := ends_breath state s
  rw [breath] at breath'
  cases breath'
  rw [if_neg fun zero => refused (zero_iff.mp zero)] at rest
  intro led
  rw [← (within led).present]
  exact readable_of_flashTimed rest led

/-- With `LIGHT_FLASH_HARDWARE` the light falls back only as far as needed exactly if all lit channels take their
breath, or one of them does not take its timer and the scales of the brightness can be read. -/
theorem falls_back_iff (state : LightState) (s : Sysfs) (mode : state.flashMode = lightFlashHardware)
    (lit : ∃ led, state.lit led = true) (on : state.flashOnMS ≠ 0) (off : state.flashOffMS ≠ 0) :
    Ends (setSpeakerLightLocked true state) s (FallsBack state s) ↔
      AllBreathe state s ∨ ¬ AllBlink state s ∧ s.Readable := by
  rw [setSpeakerLightLocked_hardware mode]
  constructor
  · intro falls
    by_cases breathes : AllBreathe state s
    · exact .inl breathes
    · have readable : s.Readable := by
        obtain ⟨_, _, run, -⟩ := falls
        exact readable_of_flashHardware breathes run
      refine .inr ⟨fun blinks => ?_, readable⟩
      obtain ⟨rc, s', -, fallsBack, shown⟩ := falls.and (ends_flashHardware state fun _ => readable)
      obtain ⟨zero, timers⟩ := fallsBack.timer breathes blinks
      obtain ⟨led, here⟩ := lit
      rcases shown with ⟨breathes', -⟩ | ⟨-, s₁, -, constant⟩
      · exact breathes breathes'
      · have none' := constant.trigger zero led
        rw [(timers led here).1] at none'
        exact absurd none' (by decide)
  · intro needed
    have readable (refused : ¬ AllBreathe state s) : s.Readable := (needed.resolve_left refused).2
    refine (ends_flashHardware state readable).mono ?_
    rintro rc s' (⟨breathes, zero, breath⟩ | ⟨refused, s₁, within, constant⟩)
    · refine ⟨fun _ => ⟨zero, fun led => ?_⟩, fun refused => absurd breathes refused, fun refused => absurd breathes refused⟩
      have blink : state.blink = true := decide_eq_true ⟨on, off⟩
      have files := breath.files led
      rwa [blink] at files
    · have notAll : ¬ AllBlink state s := (needed.resolve_left refused).1
      refine ⟨fun breathes => absurd breathes refused, fun _ blinks => absurd blinks notAll, fun _ _ led => ?_⟩
      exact constant.set (within led)

namespace Sample

def withoutBreath : Sysfs where
  files
    | .led _ .maxMixBrightness => .number 255
    | .led _ .trigger => .word "none"
    | _ => .number 0
  present
    | .led _ .breath => false
    | _ => true
  faults := fun _ _ _ => none

def withBreath : Sysfs := { withoutBreath with present := fun _ => true }

def redBlink : LightState := ⟨0xff0000, lightFlashHardware, 500, 500, brightnessModeUser⟩

end Sample

theorem falls_back_breathing :
    Sample.redBlink.flashMode = lightFlashHardware ∧ Sample.redBlink.lit .red = true ∧
      Sample.redBlink.flashOnMS ≠ 0 ∧ Sample.redBlink.flashOffMS ≠ 0 ∧
      Ends (setSpeakerLightLocked true Sample.redBlink) Sample.withBreath
        (FallsBack Sample.redBlink Sample.withBreath) :=
  ⟨rfl, rfl, by decide, by decide,
    (falls_back_iff _ _ rfl ⟨.red, rfl⟩ (by decide) (by decide)).mpr (.inl fun _ _ => ⟨rfl, rfl⟩)⟩

/-- Red takes its timer and is at constant brightness in the end. -/
theorem breath_failure_spoils_timer :
    Sample.redBlink.flashMode = lightFlashHardware ∧ Sample.redBlink.lit .red = true ∧
      Sample.redBlink.flashOnMS ≠ 0 ∧ Sample.redBlink.flashOffMS ≠ 0 ∧ Sample.withoutBreath.Readable ∧
      ¬ AllBreathe Sample.redBlink Sample.withoutBreath ∧ AllBlink Sample.redBlink Sample.withoutBreath ∧
      ¬ Ends (setSpeakerLightLocked true Sample.redBlink) Sample.withoutBreath
        (FallsBack Sample.redBlink Sample.withoutBreath) := by
  have refused : ¬ AllBreathe Sample.redBlink Sample.withoutBreath := fun breathes => by
    cases (breathes .red rfl).1
  have blinks : AllBlink Sample.redBlink Sample.withoutBreath := fun _ _ => ⟨rfl, 0, Nat.zero_lt_succ 19, rfl⟩
  have shown : (setSpeakerLightLocked true Sample.redBlink Sample.withoutBreath).map
      (fun r => (r.2.files (.led .red .trigger), r.2.files (.led .red .brightness))) =
        some (.word "none", .number 255) := by decide
  refine ⟨rfl, rfl, by decide, by decide, fun _ => rfl, refused, blinks, ?_⟩
  rintro ⟨rc, s', run, falls⟩
  have timer := ((falls.timer refused blinks).2 .red rfl).1
  rw [run] at shown
  have none' := congrArg Prod.fst (Option.some.inj shown)
  exact absurd (timer.symm.trans none') (by decide)

end Pdx215.Light
