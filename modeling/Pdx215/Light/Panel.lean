import Pdx215.Light.Independent

/-! What the panel shows after any calls on the service, where the files of the backlight can be written. -/
namespace Pdx215.Light

open Local

def Sysfs.BacklightFree (s : Sysfs) : Prop := ∀ f : File, f.group = .backlight → ∀ value k, s.faults f value k = none

theorem Sysfs.BacklightFree.write {s : Sysfs} (free : s.BacklightFree) (file : File) (value : Contents) :
    (s.write file value).2.BacklightFree := by
  intro f own v k
  rw [Sysfs.write_faults]
  split
  · exact free f own v (k + 1)
  · exact free f own v k

/-- The brightness of a call, after one with the given mode. Only the call that switches low persistence on gets the
fixed brightness; the next one in that mode is taken at its word. -/
def shownBrightness (node : Bool) (mode : Int) (state : LightState) : Int :=
  if node = true ∧ lowPersistence state.brightnessMode = true ∧ lowPersistence mode = false then
    defaultLowPersistenceModeBrightness
  else rgbToBrightness state

def backlightStatus (node : Bool) (state : LightState) : AStatus :=
  if node = false ∧ lowPersistence state.brightnessMode = true then .unsupportedOperation else .ok

/-- The state between calls, the last of which had the mode. Without the node no mode is remembered. -/
structure State.Lit (node : Bool) (mode : Int) (s : State) : Prop where
  has : s.gHasPersistenceNode = node
  last : s.gLastBacklightMode = if node then mode else brightnessModeUser
  free : s.sysfs.BacklightFree

section Step

variable {node : Bool} {mode : Int} {s : State}

theorem persisted_lit (lit : s.Lit node mode) (state : LightState) :
    (persisted state s).1 = 0 ∧ (persisted state s).2.1 = shownBrightness node mode state ∧
      (persisted state s).2.2.Lit node state.brightnessMode := by
  have low : decide (state.brightnessMode = brightnessModeLowPersistence) = lowPersistence state.brightnessMode := rfl
  unfold persisted updatePersistence shownBrightness
  rw [lit.has, lit.last, persistenceMode_eq, low]
  cases node with
  | false => exact ⟨rfl, rfl, lit.has, lit.last, lit.free⟩
  | true =>
    simp only [if_true]
    -- the node is written where the mode changes between low persistence and another one
    cases lowPersistence state.brightnessMode <;> cases lowPersistence mode
    case false.false | true.true => exact ⟨rfl, rfl, rfl, rfl, lit.free⟩
    case false.true | true.false =>
      exact ⟨(Sysfs.write_rc_eq_zero_iff ..).mpr (lit.free .persistence rfl _ 0), rfl, rfl, rfl, lit.free.write _ _⟩

theorem cannotHandlePersistence_lit (lit : s.Lit node mode) (state : LightState) :
    cannotHandlePersistence state s = (!node && lowPersistence state.brightnessMode) := by
  unfold cannotHandlePersistence
  rw [lit.has, lit.last, persistenceMode_eq]
  cases node with
  | false => cases lowPersistence state.brightnessMode <;> rfl
  | true => rfl

theorem setLightBacklight_lit (lit : s.Lit node mode) (state : LightState) :
    AStatus.of (setLightBacklight true state s).1 = backlightStatus node state ∧
      (setLightBacklight true state s).2.Lit node state.brightnessMode ∧
      (setLightBacklight true state s).2.sysfs.files (setLightBacklight true state s).2.panel =
        .number (shownBrightness node mode state) := by
  obtain ⟨fine, brightness, after⟩ := persisted_lit lit state
  rw [setLightBacklight_eq, cannotHandlePersistence_lit lit]
  unfold writePanel
  rw [if_pos fine, brightness]
  generalize (persisted state s).2.2 = u at after
  have written : (u.sysfs.write u.panel (.number (shownBrightness node mode state))).1 = 0 :=
    (Sysfs.write_rc_eq_zero_iff ..).mpr (after.free _ u.panel_group _ 0)
  refine ⟨?_, ⟨after.has, after.last, after.free.write _ _⟩, ?_⟩
  · simp only [written]
    unfold backlightStatus
    cases node <;> cases lowPersistence state.brightnessMode <;> rfl
  · have same : State.panel { u with sysfs := (u.sysfs.write u.panel (.number (shownBrightness node mode state))).2 } =
        u.panel := by
      simp only [State.panel, Sysfs.write_present]
    simp only [same]
    rw [Sysfs.write_files_self, if_pos (after.free _ u.panel_group _ 0)]

end Step

/-! ### Runs -/

section Runs

variable {l : Lights} {node : Bool}

def modeAfter (mode : Int) (states : List LightState) : Int := (states.getLast?.map LightState.brightnessMode).getD mode

theorem modeAfter_cons (mode : Int) (state : LightState) (states : List LightState) :
    modeAfter mode (state :: states) = modeAfter state.brightnessMode states := by
  unfold modeAfter
  cases states <;> rfl

theorem record_backlight {calls : List LightCall} {mode : Int} {s t : State} {history : List (LightCall × AStatus)}
    (own : ∀ call ∈ calls, l.step call = answer call.state (some .backlight)) (lit : s.Lit node mode)
    (run : record l.step calls s = some (history, t)) (before : List LightCall) (last : LightCall)
    (split : calls = before ++ [last]) :
    (history.getLast?.map Prod.snd = some (backlightStatus node last.state.legacyState)) ∧
      t.sysfs.files t.panel = .number
        (shownBrightness node (modeAfter mode (before.map fun call => call.state.legacyState)) last.state.legacyState) := by
  induction before generalizing calls mode s history with
  | nil =>
    subst split
    obtain ⟨status, s₁, rest, ran, later, rfl⟩ := record_cons_eq_some.mp run
    cases later
    rw [own last List.mem_cons_self] at ran
    obtain ⟨rc, s₂, called, done⟩ := Total.bind_eq_some_iff.mp ran
    cases done
    obtain ⟨answered, -, shown⟩ := setLightBacklight_lit lit last.state.legacyState
    rw [Option.some.inj called] at answered shown
    exact ⟨congrArg some answered, shown⟩
  | cons call before ih =>
    subst split
    obtain ⟨status, s₁, rest, ran, later, rfl⟩ := record_cons_eq_some.mp run
    rw [own call List.mem_cons_self] at ran
    obtain ⟨rc, s₂, called, done⟩ := Total.bind_eq_some_iff.mp ran
    cases done
    obtain ⟨-, after, -⟩ := setLightBacklight_lit lit call.state.legacyState
    rw [Option.some.inj called] at after
    obtain ⟨answered, shown⟩ := ih (fun c here => own c (List.mem_cons_of_mem call here)) after later rfl
    rw [List.map_cons, modeAfter_cons]
    refine ⟨?_, shown⟩
    cases rest with
    | nil => cases answered
    | cons first rest => exact answered

end Runs

theorem Lights.backlight_of_group {l : Lights} {call : LightCall} (own : l.group call = .backlight) :
    l.mLights call.id = some .backlight := by
  unfold Lights.group at own
  cases known : l.mLights call.id with
  | none =>
    rw [known] at own
    cases own
  | some setLight =>
    rw [known] at own
    cases setLight with
    | backlight => rfl
    | battery | notifications | attention | buttons | dummy => cases own

theorem loaded_of_backlight {env : LightType → Loading} {start : State} {id : Int}
    (known : (Lights.construct env start).1.mLights id = some .backlight) : (env .backlight).hwGetModule = 0 := by
  obtain ⟨t, -, opened⟩ := (Lights.construct_mLights env start id .backlight).mp known
  unfold device at opened
  split at opened
  · rename_i loaded
    cases t with
    | backlight => exact loaded.1
    | buttons =>
      simp only [LightType.name, setLightFor] at opened
      split at opened <;> cases opened
    | keyboard | battery | notifications | attention | bluetooth | wifi => cases opened
  · cases opened

theorem State.Alike.files_panel {s s' : State} (alike : s.Alike .backlight s') :
    s.sysfs.files s.panel = s'.sysfs.files s'.panel := by
  have same : s.panel = s'.panel := by
    unfold State.panel
    rw [alike.sysfs.present .lcd rfl]
  rw [← same, alike.sysfs.files _ s.panel_group]

theorem Lights.construct_lit (env : LightType → Loading) (sysfs : Sysfs) (free : sysfs.BacklightFree)
    (loaded : (env .backlight).hwGetModule = 0) :
    (Lights.construct env (.start sysfs)).2.Lit (sysfs.present .persistence) brightnessModeUser := by
  rw [(Lights.construct_found env (.start sysfs)).state, if_pos ⟨mem_kLogicalLights _, loaded⟩]
  exact ⟨rfl, (ite_self _).symm, free⟩

/-- The panel after any calls on the service: it has the brightness of the last call on the backlight, or the fixed one
if that call switched low persistence on. Where there is no node for low persistence such a call is reported as
unsupported although it sets the brightness. -/
theorem panel_shows_last (env : LightType → Loading) (sysfs : Sysfs) (free : sysfs.BacklightFree)
    (calls : List LightCall) (history : List (LightCall × AStatus)) (t : State)
    (run : record (Lights.construct env (.start sysfs)).1.step calls (Lights.construct env (.start sysfs)).2 =
      some (history, t)) (before : List LightCall) (last : LightCall)
    (own : calls.filter ((Lights.construct env (.start sysfs)).1.group · = .backlight) = before ++ [last]) :
    let node := sysfs.present .persistence
    let mode := modeAfter brightnessModeUser (before.map fun call => call.state.legacyState)
    t.sysfs.files t.panel = .number (shownBrightness node mode last.state.legacyState) ∧
      (history.filter ((Lights.construct env (.start sysfs)).1.group ·.1 = .backlight)).getLast?.map Prod.snd =
        some (backlightStatus node last.state.legacyState) := by
  intro node mode
  obtain ⟨t', run', alike⟩ := record_part (Lights.confined_step env (.start sysfs)) run (parts.refl .backlight _)
  have calls' : ∀ call ∈ before ++ [last], (Lights.construct env (.start sysfs)).1.mLights call.id = some .backlight := by
    intro call here
    rw [← own, List.mem_filter, decide_eq_true_eq] at here
    exact Lights.backlight_of_group here.2
  have loaded := loaded_of_backlight (calls' last (List.mem_append_right _ List.mem_cons_self))
  rw [own] at run'
  have steps : ∀ call ∈ before ++ [last],
      (Lights.construct env (.start sysfs)).1.step call = answer call.state (some .backlight) := by
    intro call here
    rw [Lights.step, Lights.setLightState_eq, calls' call here]
  obtain ⟨answered, shown⟩ := record_backlight steps (Lights.construct_lit env sysfs free loaded) run' before last rfl
  exact ⟨alike.files_panel.trans shown, answered⟩

/- Low persistence without the node, and then a notification. -/
theorem panel_shows_last_unsupported :
    ∃ history t, record Sample.service.1.step [Sample.persist, Sample.red] Sample.service.2 = some (history, t) ∧
      t.sysfs.files t.panel = .number 255 ∧
      (history.filter (Sample.service.1.group ·.1 = .backlight)).getLast?.map Prod.snd = some .unsupportedOperation := by
  obtain ⟨⟨history, t⟩, run⟩ := Option.isSome_iff_exists.mp Sample.service_survives
  exact ⟨history, t, run,
    panel_shows_last Sample.loading Sample.withoutNode (fun _ _ _ _ => rfl) _ history t run [] Sample.persist rfl⟩

end Pdx215.Light
