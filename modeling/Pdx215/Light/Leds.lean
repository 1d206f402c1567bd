import Pdx215.Light.Calls

/-! The three LEDs are independent of each other: what a function does for one of them is said of its files alone. -/
namespace Pdx215.Light

open Total

structure Led where
  files : LedFile → Contents
  present : LedFile → Bool
  faults : LedFile → Contents → Nat → Option Errno

def Sysfs.led (s : Sysfs) (led : RgbLed) : Led where
  files := fun file => s.files (.led led file)
  present := fun file => s.present (.led led file)
  faults := fun file => s.faults (.led led file)

/-- The program works on this LED only, and ends there in the postcondition. -/
def Acts {α : Type} (led : RgbLed) (p : Hal α) (l : Led) (post : α → Led → Prop) : Prop :=
  ∀ s : Sysfs, s.led led = l →
    Ends p s fun a s' => post a (s'.led led) ∧ ∀ other, other ≠ led → s'.led other = s.led other

section Rules

variable {α β : Type} {led : RgbLed} {p : Hal α} {l : Led} {post : α → Led → Prop}

theorem acts_pure {a : α} (done : post a l) : Acts led (pure a) l post := by
  rintro s rfl
  exact ends_pure ⟨done, fun _ _ => rfl⟩

theorem Acts.bind {f : α → Hal β} {after : β → Led → Prop} (first : Acts led p l post)
    (second : ∀ a l', post a l' → Acts led (f a) l' after) : Acts led (p >>= f) l after := by
  intro s here
  refine (first s here).bind ?_
  rintro a s' ⟨done, beside⟩
  refine (second a (s'.led led) done s' rfl).mono ?_
  rintro b s'' ⟨done', beside'⟩
  exact ⟨done', fun other ne => (beside' other ne).trans (beside other ne)⟩

theorem Acts.mono {post' : α → Led → Prop} (acts : Acts led p l post) (weaken : ∀ a l', post a l' → post' a l') :
    Acts led p l post' := by
  intro s here
  refine (acts s here).mono ?_
  rintro a s' ⟨done, beside⟩
  exact ⟨weaken a _ done, beside⟩

theorem acts_ite {c : Prop} [Decidable c] {q : Hal α} (yes : c → Acts led p l post) (no : ¬ c → Acts led q l post) :
    Acts led (if c then p else q) l post :=
  fun s here => ends_ite (fun h => yes h s here) (fun h => no h s here)

/-- The three channels end where each of them ends by itself. -/
theorem ends_each {set : RgbLed → Hal α} {s : Sysfs} {post : RgbLed → α → Led → Prop}
    (acts : ∀ led, Acts led (set led) (s.led led) (post led)) :
    Ends (each set) s fun a s' => ∀ led, post led (a led) (s'.led led) := by
  refine (acts .red s rfl).bind ?_
  rintro red s₁ ⟨redDone, beside₁⟩
  refine (acts .green s₁ (beside₁ .green (by decide))).bind ?_
  rintro green s₂ ⟨greenDone, beside₂⟩
  have blueBefore : s₂.led .blue = s.led .blue := (beside₂ .blue (by decide)).trans (beside₁ .blue (by decide))
  refine (acts .blue s₂ blueBefore).bind ?_
  rintro blue s₃ ⟨blueDone, beside₃⟩
  refine ends_pure ?_
  intro led
  cases led with
  | red =>
    rw [beside₃ .red (by decide), beside₂ .red (by decide)]
    exact redDone
  | green =>
    rw [beside₃ .green (by decide)]
    exact greenDone
  | blue => exact blueDone

end Rules

/-! ### Writing -/

/-- What one attempt to write a file of the LED does. -/
structure Wrote (file : LedFile) (value : Contents) (l : Led) (rc : Rc) (l' : Led) : Prop where
  code : rc.Code
  zero_iff : rc = 0 ↔ l.faults file value 0 = none
  files : ∀ other, l'.files other = if other = file ∧ l.faults file value 0 = none then value else l.files other
  present : l'.present = l.present
  faults : ∀ other value' k, l'.faults other value' k =
    if other = file ∧ value' = value then l.faults other value' (k + 1) else l.faults other value' k

theorem Sysfs.write_led (s : Sysfs) (led : RgbLed) (file : LedFile) (value : Contents) :
    Wrote file value (s.led led) (s.write (.led led file) value).1 ((s.write (.led led file) value).2.led led) where
  code := s.write_code _ _
  zero_iff := s.write_rc_eq_zero_iff _ _
  files := fun other => by
    have written := s.write_files (.led led file) value (.led led other)
    simp only [File.led.injEq, true_and] at written
    exact written
  present := by simp only [Sysfs.led, write_present]
  faults := fun other value' k => by
    have written := s.write_faults (.led led file) value (.led led other) value' k
    simp only [File.led.injEq, true_and] at written
    exact written

theorem Sysfs.write_beside (s : Sysfs) {led other : RgbLed} (file : LedFile) (value : Contents) (ne : other ≠ led) :
    (s.write (.led led file) value).2.led other = s.led other := by
  simp only [Sysfs.led, write_present, Led.mk.injEq, true_and]
  constructor
  · funext f
    rw [write_files, if_neg fun both => ne (File.led.inj both.1).1]
  · funext f v k
    rw [write_faults, if_neg fun both => ne (File.led.inj both.1).1]

theorem acts_writeInt {led : RgbLed} {l : Led} (file : LedFile) (value : Int) :
    Acts led (writeInt (.led led file) value) l (Wrote file (.number value) l) := by
  rintro s rfl
  exact ⟨_, _, rfl, s.write_led led file _, fun _ ne => s.write_beside file _ ne⟩

theorem acts_writeStr {led : RgbLed} {l : Led} (file : LedFile) (str : String) :
    Acts led (writeStr (.led led file) str) l (Wrote file (.word str) l) := by
  rintro s rfl
  exact ⟨_, _, rfl, s.write_led led file _, fun _ ne => s.write_beside file _ ne⟩

theorem acts_readInt {led : RgbLed} {l : Led} {file : LedFile} (present : l.present file = true) :
    Acts led (readInt (.led led file)) l fun value l' => value = (l.files file).scan.getD 0xFF ∧ l = l' := by
  rintro s rfl
  exact ⟨_, s, if_pos present, ⟨rfl, rfl⟩, fun _ _ => rfl⟩

theorem acts_fileExists {led : RgbLed} {l : Led} {file : LedFile} :
    Acts led (fileExists (.led led file)) l fun there l' => there = l.present file ∧ l = l' := by
  rintro s rfl
  exact ⟨_, s, rfl, ⟨rfl, rfl⟩, fun _ _ => rfl⟩

namespace Led

def Free (l : Led) (file : LedFile) (value : Contents) : Prop := ∀ k, l.faults file value k = none

/-- Nothing has been tried but to write such values to such files. -/
structure Within (touched : LedFile → Contents → Prop) (l l' : Led) : Prop where
  files : ∀ file, (∀ value, ¬ touched file value) → l'.files file = l.files file
  faults : ∀ file value, ¬ touched file value → l'.faults file value = l.faults file value
  free : ∀ file value, l.Free file value → l'.Free file value
  present : l'.present = l.present

variable {touched touched' : LedFile → Contents → Prop} {l l' l'' : Led}

theorem Within.refl (touched : LedFile → Contents → Prop) (l : Led) : l.Within touched l :=
  ⟨fun _ _ => rfl, fun _ _ _ => rfl, fun _ _ free => free, rfl⟩

theorem Within.trans (first : l.Within touched l') (second : l'.Within touched l'') : l.Within touched l'' where
  files := fun file untouched => (second.files file untouched).trans (first.files file untouched)
  faults := fun file value untouched => (second.faults file value untouched).trans (first.faults file value untouched)
  free := fun file value free => second.free file value (first.free file value free)
  present := second.present.trans first.present

theorem Within.mono (within : l.Within touched l') (more : ∀ file value, touched file value → touched' file value) :
    l.Within touched' l' where
  files := fun file untouched => within.files file fun value here => untouched value (more file value here)
  faults := fun file value untouched => within.faults file value fun here => untouched (more file value here)
  free := within.free
  present := within.present

end Led

theorem Wrote.within {touched : LedFile → Contents → Prop} {file : LedFile} {value : Contents} {l l' : Led} {rc : Rc}
    (wrote : Wrote file value l rc l') (here : touched file value) : l.Within touched l' where
  files := fun other untouched => by
    rw [wrote.files, if_neg]
    rintro ⟨rfl, -⟩
    exact untouched value here
  faults := fun other value' untouched => by
    funext k
    rw [wrote.faults, if_neg]
    rintro ⟨rfl, rfl⟩
    exact untouched here
  free := fun other value' free k => by
    rw [wrote.faults]
    split
    · exact free (k + 1)
    · exact free k
  present := wrote.present

theorem Wrote.files_self {file : LedFile} {value : Contents} {l l' : Led} {rc : Rc} (wrote : Wrote file value l rc l')
    (zero : rc = 0) : l'.files file = value := by
  rw [wrote.files, if_pos ⟨rfl, wrote.zero_iff.mp zero⟩]

theorem Wrote.files_of_ne {file other : LedFile} {value : Contents} {l l' : Led} {rc : Rc}
    (wrote : Wrote file value l rc l') (ne : other ≠ file) : l'.files other = l.files other := by
  rw [wrote.files, if_neg fun both => ne both.1]

/-! ### Constant brightness -/

/-- What `set_rgb_led_brightness` writes. -/
inductive Constant : LedFile → Contents → Prop
  | trigger : Constant .trigger (.word "none")
  | brightness (value : Contents) : Constant .brightness value

def Led.maxBrightness (l : Led) : Int := (l.files .maxMixBrightness).scan.getD 0xFF

structure BrightnessSet (brightness : Nat) (l : Led) (rc : Rc) (l' : Led) : Prop where
  within : l.Within Constant l'
  set : rc = 0 → l'.files .trigger = .word "none" ∧
    l'.files .brightness = .number (scaled brightness l.maxBrightness)
  free : l.Free .trigger (.word "none") → (∀ value, l.Free .brightness value) → rc = 0

theorem acts_setRgbLedBrightness {led : RgbLed} {l : Led} (brightness : Nat)
    (readable : l.present .maxMixBrightness = true) :
    Acts led (setRgbLedBrightness led brightness) l (BrightnessSet brightness l) := by
  refine (acts_readInt readable).bind ?_
  rintro _ _ ⟨rfl, rfl⟩
  refine (acts_writeStr .trigger "none").bind ?_
  intro rc l₁ triggered
  refine acts_ite ?_ ?_
  · intro failed
    have bad := Rc.ne_zero_of_neg failed
    refine acts_pure ⟨triggered.within .trigger, fun zero => absurd zero bad, fun free _ => ?_⟩
    exact absurd (triggered.zero_iff.mpr (free 0)) bad
  · intro fine
    have zero : rc = 0 := by rwa [triggered.code.neg_iff, not_not] at fine
    refine (acts_writeInt .brightness _).mono ?_
    intro rc' l₂ written
    refine ⟨(triggered.within .trigger).trans (written.within (.brightness _)), ?_, ?_⟩
    · intro zero'
      rw [written.files_of_ne (by decide), triggered.files_self zero]
      exact ⟨rfl, written.files_self zero'⟩
    · intro _ free
      exact written.zero_iff.mpr ((triggered.within Constant.trigger).free _ _ (free _) 0)

/-- What `set_rgb_light_sync` writes. -/
inductive Quiet : LedFile → Contents → Prop
  | constant {file : LedFile} {value : Contents} (constant : Constant file value) : Quiet file value
  | syncBlink (value : Contents) : Quiet .syncBlink value

structure Synced (blink : Bool) (l l' : Led) : Prop where
  within : l.Within Quiet l'
  set : l.Free .trigger (.word "none") → (∀ value, l.Free .brightness value) → (∀ value, l.Free .syncBlink value) →
    l'.files .trigger = .word "none" ∧ l'.files .brightness = .number 0 ∧ l'.files .syncBlink = .number blink.toInt

theorem acts_setRgbLightSync {led : RgbLed} {l : Led} (blink : Bool) (readable : l.present .maxMixBrightness = true) :
    Acts led (setRgbLightSync led blink) l fun _ => Synced blink l := by
  refine (acts_setRgbLedBrightness 0 readable).bind ?_
  intro rc l₁ dark
  refine (acts_writeInt .syncBlink _).mono ?_
  intro rc' l₂ written
  have quiet : l.Within Quiet l₁ := dark.within.mono fun _ _ => .constant
  refine ⟨quiet.trans (written.within (.syncBlink _)), ?_⟩
  intro trigger brightness syncBlink
  obtain ⟨none', zero⟩ := dark.set (dark.free trigger brightness)
  rw [written.files_of_ne (by decide), written.files_of_ne (by decide), none', zero]
  exact ⟨rfl, by simp [scaled], written.files_self (written.zero_iff.mpr (quiet.free _ _ (syncBlink _) 0))⟩

/-! ### Timer and breath -/

/-- What `set_rgb_led_timer_trigger` writes. -/
inductive Timed : LedFile → Contents → Prop
  | trigger : Timed .trigger (.word "timer")
  | delayOff (value : Contents) : Timed .delayOff value
  | delayOn (value : Contents) : Timed .delayOn value

/-- Among so many attempts there is one in which two writes succeed, of which the second is tried only after the
first. -/
def BothSucceed (first second : Nat → Option Errno) (attempts : Nat) : Prop :=
  ∃ j, j < (List.range attempts).countP (fun k => (first k).isNone) ∧ second j = none

theorem bothSucceed_succ_of_failed {first second : Nat → Option Errno} {attempts : Nat} (failed : first 0 ≠ none) :
    BothSucceed first second (attempts + 1) ↔ BothSucceed (fun k => first (k + 1)) second attempts := by
  have head : (first 0).isNone = false := by
    rw [Bool.eq_false_iff]
    simpa using failed
  simp [BothSucceed, List.range_succ_eq_map, head, Function.comp_def]

theorem bothSucceed_succ_of_none {first second : Nat → Option Errno} {attempts : Nat} (done : first 0 = none) :
    BothSucceed first second (attempts + 1) ↔
      second 0 = none ∨ BothSucceed (fun k => first (k + 1)) (fun k => second (k + 1)) attempts := by
  have count : (List.range (attempts + 1)).countP (fun k => (first k).isNone) =
      (List.range attempts).countP (fun k => (first (k + 1)).isNone) + 1 := by
    simp [List.range_succ_eq_map, done, Function.comp_def]
  simp only [BothSucceed, count]
  constructor
  · rintro ⟨j, below, found⟩
    cases j with
    | zero => exact .inl found
    | succ j => exact .inr ⟨j, by omega, found⟩
  · rintro (found | ⟨j, below, found⟩)
    · exact ⟨0, by omega, found⟩
    · exact ⟨j + 1, by omega, found⟩

theorem Wrote.faults_self {file : LedFile} {value : Contents} {l l' : Led} {rc : Rc} (wrote : Wrote file value l rc l') :
    l'.faults file value = fun k => l.faults file value (k + 1) := by
  funext k
  rw [wrote.faults, if_pos ⟨rfl, rfl⟩]

theorem Wrote.faults_of_ne {file other : LedFile} {value value' : Contents} {l l' : Led} {rc : Rc}
    (wrote : Wrote file value l rc l') (ne : other ≠ file) : l'.faults other value' = l.faults other value' := by
  funext k
  rw [wrote.faults, if_neg fun both => ne both.1]

def Led.TakesDelays (l : Led) (onMS offMS : Int) (retries : Nat) : Prop :=
  BothSucceed (l.faults .delayOff (.number offMS)) (l.faults .delayOn (.number onMS)) retries

/-- `rc` is 0 at the end if both delays have been written, or if there is no retry and it was 0 before. -/
structure DelaysSet (onMS offMS : Int) (retries : Nat) (before : Rc) (l : Led) (rc : Rc) (l' : Led) : Prop where
  within : l.Within Timed l'
  kept : l'.files .trigger = l.files .trigger
  code : before.Code → rc.Code
  zero_iff : rc = 0 ↔ l.TakesDelays onMS offMS retries ∨ retries = 0 ∧ before = 0
  set : l.TakesDelays onMS offMS retries → l'.files .delayOff = .number offMS ∧ l'.files .delayOn = .number onMS

theorem acts_setDelays {led : RgbLed} {l : Led} (onMS offMS : Int) (retries : Nat) (before : Rc) :
    Acts led (setDelays led onMS offMS retries before) l (DelaysSet onMS offMS retries before l) := by
  -- each round uses up the first outcome of what it tries
  induction retries generalizing l before with
  | zero =>
    have never : ¬ l.TakesDelays onMS offMS 0 := by
      rintro ⟨j, below, -⟩
      simp at below
    refine acts_pure ⟨.refl _ _, rfl, id, ?_, fun taken => absurd taken never⟩
    simp [never]
  | succ retries ih =>
    refine (acts_writeInt .delayOff offMS).bind ?_
    intro rc l₁ off
    refine acts_ite ?_ ?_
    · intro negative
      have failed := Rc.ne_zero_of_neg negative
      have same : l.TakesDelays onMS offMS (retries + 1) ↔ l₁.TakesDelays onMS offMS retries := by
        rw [Led.TakesDelays, bothSucceed_succ_of_failed (fun none' => failed (off.zero_iff.mpr none')),
          Led.TakesDelays, off.faults_self, off.faults_of_ne (by decide)]
      refine (ih rc).mono ?_
      intro rc' l₂ later
      refine ⟨(off.within (.delayOff _)).trans later.within, ?_, fun _ => later.code off.code, ?_, ?_⟩
      · rw [later.kept, off.files_of_ne (by decide)]
      · rw [later.zero_iff, same]
        simp only [failed, Nat.succ_ne_zero, and_false, false_and]
      · rw [same]
        exact later.set
    · intro fine
      have done : rc = 0 := by rwa [off.code.neg_iff, not_not] at fine
      refine (acts_writeInt .delayOn onMS).bind ?_
      intro rc' l₂ on
      have split : l.TakesDelays onMS offMS (retries + 1) ↔ rc' = 0 ∨ l₂.TakesDelays onMS offMS retries := by
        rw [Led.TakesDelays, bothSucceed_succ_of_none (off.zero_iff.mp done), Led.TakesDelays, on.zero_iff,
          on.faults_self, on.faults_of_ne (by decide), off.faults_self, off.faults_of_ne (by decide)]
      have within : l.Within Timed l₂ := (off.within (.delayOff _)).trans (on.within (.delayOn _))
      refine acts_ite ?_ ?_
      · intro done'
        refine acts_pure ⟨within, ?_, fun _ => on.code, ?_, ?_⟩
        · rw [on.files_of_ne (by decide), off.files_of_ne (by decide)]
        · simp [split, done']
        · intro _
          rw [on.files_of_ne (by decide), off.files_self done, on.files_self done']
          exact ⟨rfl, rfl⟩
      · intro failed
        refine (ih rc').mono ?_
        intro rc'' l₃ later
        refine ⟨within.trans later.within, ?_, fun _ => later.code on.code, ?_, ?_⟩
        · rw [later.kept, on.files_of_ne (by decide), off.files_of_ne (by decide)]
        · rw [later.zero_iff, split]
          simp only [failed, Nat.succ_ne_zero, and_false, false_and, false_or]
        · rw [split]
          rintro (zero | taken)
          · exact absurd zero failed
          · exact later.set taken

def Led.Blinks (l : Led) (onMS offMS : Int) : Prop :=
  l.faults .trigger (.word "timer") 0 = none ∧ l.TakesDelays onMS offMS timerRetries

structure TimerSet (onMS offMS : Int) (l : Led) (rc : Rc) (l' : Led) : Prop where
  within : l.Within Timed l'
  zero_iff : rc = 0 ↔ l.Blinks onMS offMS
  set : rc = 0 → l'.files .trigger = .word "timer" ∧ l'.files .delayOff = .number offMS ∧
    l'.files .delayOn = .number onMS

theorem acts_setRgbLedTimerTrigger {led : RgbLed} {l : Led} (onMS offMS : Int) :
    Acts led (setRgbLedTimerTrigger led onMS offMS) l (TimerSet onMS offMS l) := by
  refine (acts_writeStr .trigger "timer").bind ?_
  intro rc l₁ triggered
  refine acts_ite ?_ ?_
  · intro negative
    have failed := Rc.ne_zero_of_neg negative
    have refused : ¬ l.Blinks onMS offMS := fun blinks => failed (triggered.zero_iff.mpr blinks.1)
    exact acts_pure ⟨triggered.within .trigger, iff_of_false failed refused, fun zero => absurd zero failed⟩
  · intro fine
    have done : rc = 0 := by rwa [triggered.code.neg_iff, not_not] at fine
    refine (acts_setDelays onMS offMS timerRetries rc).bind ?_
    intro rc' l₂ delays
    have within : l.Within Timed l₂ := (triggered.within .trigger).trans delays.within
    have taken : l₁.TakesDelays onMS offMS timerRetries ↔ l.Blinks onMS offMS := by
      rw [Led.TakesDelays, triggered.faults_of_ne (by decide), triggered.faults_of_ne (by decide)]
      exact (and_iff_right (triggered.zero_iff.mp done)).symm
    have zero_iff : rc' = 0 ↔ l.Blinks onMS offMS := by
      rw [delays.zero_iff, taken]
      exact or_iff_left fun none' => absurd none'.1 (by decide)
    refine acts_ite ?_ ?_
    · intro negative
      have failed := Rc.ne_zero_of_neg negative
      exact acts_pure ⟨within, zero_iff, fun zero => absurd zero failed⟩
    · intro fine'
      have done' : rc' = 0 := by rwa [(delays.code triggered.code).neg_iff, not_not] at fine'
      have blinks := zero_iff.mp done'
      refine acts_pure ⟨within, iff_of_true rfl blinks, fun _ => ?_⟩
      rw [delays.kept, triggered.files_self done]
      exact ⟨rfl, delays.set (taken.mpr blinks)⟩

/-- What `set_rgb_led_hw_blink` writes. -/
inductive Breath : LedFile → Contents → Prop
  | breath (value : Contents) : Breath .breath value

def Led.Breathes (l : Led) (blink : Bool) : Prop :=
  l.present .breath = true ∧ l.faults .breath (.number blink.toInt) 0 = none

structure BreathSet (blink : Bool) (l : Led) (rc : Rc) (l' : Led) : Prop where
  within : l.Within Breath l'
  zero_iff : rc = 0 ↔ l.Breathes blink
  set : rc = 0 → l'.files .breath = .number blink.toInt

theorem acts_setRgbLedHwBlink {led : RgbLed} {l : Led} (blink : Bool) :
    Acts led (setRgbLedHwBlink led blink) l (BreathSet blink l) := by
  refine acts_fileExists.bind ?_
  rintro _ _ ⟨rfl, rfl⟩
  refine acts_ite ?_ ?_
  · intro absent
    have refused : ¬ l.Breathes blink := by
      rintro ⟨there, -⟩
      simp [there] at absent
    have failed : (-1 : Rc) ≠ 0 := by decide
    exact acts_pure ⟨.refl _ _, iff_of_false failed refused, fun zero => absurd zero failed⟩
  · intro there
    refine (acts_writeInt .breath _).mono ?_
    intro rc l' written
    have present : l.present .breath = true := by simpa using there
    refine ⟨written.within (.breath _), ?_, written.files_self⟩
    rw [written.zero_iff]
    exact (and_iff_right present).symm

end Pdx215.Light
