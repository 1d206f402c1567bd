import Pdx215.Lib.Runs
import Pdx215.Light.Calls

/-! The persistence node and the remembered mode of the backlight. -/
namespace Pdx215.Light

open Runs

structure BacklightCall where
  dev : Bool
  state : LightState

def BacklightCall.step (s : State) (call : BacklightCall) : State := (setLightBacklight call.dev call.state s).2

def lowPersistence (brightnessMode : Int) : Bool := decide (brightnessMode = brightnessModeLowPersistence)

/-- The node holds 1 exactly while low persistence is remembered. -/
def State.PersistenceFollows (s : State) : Prop :=
  s.sysfs.files .persistence = .number 1 ↔ s.gLastBacklightMode = brightnessModeLowPersistence

instance (s : State) : Decidable s.PersistenceFollows := inferInstanceAs (Decidable (_ ↔ _))

structure State.Persisted (s : State) : Prop where
  present : s.gHasPersistenceNode = true
  stored : s.sysfs.files .persistence = .number (lowPersistence s.gLastBacklightMode).toInt

/-- If the call switches low persistence on or off the attempt to write the node succeeds. -/
def BacklightCall.Switches (s : State) (call : BacklightCall) : Prop :=
  call.dev = true → lowPersistence call.state.brightnessMode ≠ lowPersistence s.gLastBacklightMode →
    s.sysfs.faults .persistence (.number (lowPersistence call.state.brightnessMode).toInt) 0 = none

instance (s : State) (call : BacklightCall) : Decidable (call.Switches s) :=
  inferInstanceAs (Decidable (_ → _ → _))

theorem persistenceMode_eq (last mode : Int) :
    persistenceMode last mode = (lowPersistence mode != lowPersistence last) := by
  by_cases now : mode = brightnessModeLowPersistence
  · by_cases before : last = brightnessModeLowPersistence
    · simp [persistenceMode, lowPersistence, now, before]
    · simp [persistenceMode, lowPersistence, now, before]
  · by_cases before : last = brightnessModeLowPersistence
    · simp [persistenceMode, lowPersistence, now, before]
    · simp [persistenceMode, lowPersistence, now, before]

theorem updatePersistence_persistence (state : LightState) (brightness : Int) (s : State) :
    (updatePersistence state brightness s).2.2.gHasPersistenceNode = s.gHasPersistenceNode ∧
      (updatePersistence state brightness s).2.2.gLastBacklightMode = state.brightnessMode ∧
      (updatePersistence state brightness s).2.2.sysfs.files .persistence =
        if lowPersistence state.brightnessMode ≠ lowPersistence s.gLastBacklightMode ∧
            s.sysfs.faults .persistence (.number (lowPersistence state.brightnessMode).toInt) 0 = none then
          .number (lowPersistence state.brightnessMode).toInt
        else s.sysfs.files .persistence := by
  unfold updatePersistence
  rw [persistenceMode_eq]
  by_cases switched : lowPersistence state.brightnessMode = lowPersistence s.gLastBacklightMode
  · simp [switched]
  · simp only [bne_iff_ne, ne_eq, switched, not_false_eq_true, if_true, true_and]
    exact Sysfs.write_files_self _ _ _

theorem BacklightCall.step_persistence {s : State} {call : BacklightCall} (present : s.gHasPersistenceNode = true)
    (dev : call.dev = true) :
    (call.step s).gHasPersistenceNode = true ∧ (call.step s).gLastBacklightMode = call.state.brightnessMode ∧
      (call.step s).sysfs.files .persistence =
        if lowPersistence call.state.brightnessMode ≠ lowPersistence s.gLastBacklightMode ∧
            s.sysfs.faults .persistence (.number (lowPersistence call.state.brightnessMode).toInt) 0 = none then
          .number (lowPersistence call.state.brightnessMode).toInt
        else s.sysfs.files .persistence := by
  obtain ⟨has, last, stored⟩ := updatePersistence_persistence call.state (rgbToBrightness call.state) s
  rw [present] at has
  rw [← stored, ← last, ← has]
  simp only [step, setLightBacklight, dev, present, Bool.not_true, Bool.false_eq_true, if_false, if_true]
  generalize updatePersistence call.state (rgbToBrightness call.state) s = updated
  by_cases fine : updated.1 = 0
  · rw [if_pos fine]
    refine ⟨rfl, rfl, ?_⟩
    have other : File.persistence ≠ if updated.2.2.sysfs.present .lcd then .lcd else .lcd2 := by
      split
      · simp
      · simp
    rw [Sysfs.write_files, if_neg fun both => other both.1]
  · rw [if_neg fine]
    exact ⟨rfl, rfl, rfl⟩

theorem BacklightCall.step_of_null {s : State} {call : BacklightCall} (null : call.dev ≠ true) : call.step s = s := by
  simp only [step, setLightBacklight, Bool.not_eq_true] at null ⊢
  rw [null]
  rfl

theorem State.Persisted.follows {s : State} (persisted : s.Persisted) : s.PersistenceFollows := by
  rw [PersistenceFollows, persisted.stored]
  by_cases low : s.gLastBacklightMode = brightnessModeLowPersistence
  · simp [lowPersistence, low]
  · simp [lowPersistence, low]

theorem BacklightCall.step_persisted {s : State} {call : BacklightCall} (persisted : s.Persisted)
    (switches : call.Switches s) : (call.step s).Persisted := by
  by_cases dev : call.dev = true
  · obtain ⟨has, last, stored⟩ := step_persistence persisted.present dev
    refine ⟨has, ?_⟩
    rw [stored, last]
    by_cases same : lowPersistence call.state.brightnessMode = lowPersistence s.gLastBacklightMode
    · rw [if_neg fun both => both.1 same, persisted.stored, same]
    · rw [if_pos ⟨same, switches dev same⟩]
  · rw [step_of_null dev]
    exact persisted

/-- After a switch whose write fails the mode is remembered and the node is as before. -/
theorem BacklightCall.step_not_follows {s : State} {call : BacklightCall} (persisted : s.Persisted)
    (fails : ¬ call.Switches s) : ¬ (call.step s).PersistenceFollows := by
  simp only [Switches, Classical.not_imp] at fails
  obtain ⟨dev, switched, fault⟩ := fails
  obtain ⟨-, last, stored⟩ := step_persistence persisted.present dev
  rw [State.PersistenceFollows, stored, last, if_neg fun both => fault both.2, persisted.stored]
  by_cases low : call.state.brightnessMode = brightnessModeLowPersistence
  · have before : lowPersistence s.gLastBacklightMode = false := by
      simpa [lowPersistence, low] using switched
    simp [before, low]
  · have before : lowPersistence s.gLastBacklightMode = true := by
      simpa [lowPersistence, low] using switched
    simp [before, low]

/-- After each of a sequence of calls the persistence node holds 1 if and only if low persistence is the remembered
mode: exactly if no attempt to write the node fails when low persistence is switched on or off. -/
theorem persistence_follows_iff (sysfs : Sysfs) (present : sysfs.present .persistence = true)
    (off : sysfs.files .persistence = .number 0) (calls : List BacklightCall) :
    (∀ k, ((calls.take k).foldl BacklightCall.step (State.start sysfs).openBacklight).PersistenceFollows) ↔
      Along BacklightCall.step (fun s call => call.Switches s) (State.start sysfs).openBacklight calls := by
  have keeps (s : State) (call : BacklightCall) (persisted : s.Persisted) (switches : call.Switches s) :
      (BacklightCall.step s call).Persisted := call.step_persisted persisted switches
  have shows (s : State) (call : BacklightCall) (persisted : s.Persisted) (fails : ¬ call.Switches s) :
      ¬ (BacklightCall.step s call).PersistenceFollows := call.step_not_follows persisted fails
  have now : (State.start sysfs).openBacklight.Persisted := ⟨present, off⟩
  exact (along_iff_forall_take (fun _ persisted => persisted.follows) keeps shows now calls).symm

namespace Sample

def eio : Errno := ⟨5, by decide⟩

/-- All files are there and hold 0. The first attempt to write each value to one of them fails. -/
def failing (file : File) : Sysfs where
  files := fun _ => .number 0
  present := fun _ => true
  faults := fun other _ k => if other = file ∧ k = 0 then some eio else none

def backlight (brightnessMode : Int) : BacklightCall := ⟨true, ⟨0xffffff, lightFlashNone, 0, 0, brightnessMode⟩⟩

end Sample

/-- Low persistence is switched on and off again; the first attempt to write the brightness fails. -/
theorem persistence_follows_on_off :
    (Sample.failing .lcd).present .persistence = true ∧ (Sample.failing .lcd).files .persistence = .number 0 ∧
      ∀ k, (([Sample.backlight brightnessModeLowPersistence, Sample.backlight brightnessModeUser].take k).foldl
        BacklightCall.step (State.start (Sample.failing .lcd)).openBacklight).PersistenceFollows :=
  ⟨rfl, rfl, (persistence_follows_iff _ rfl rfl _).mpr (by decide)⟩

theorem persistence_write_failed :
    (Sample.failing .persistence).present .persistence = true ∧
      (Sample.failing .persistence).files .persistence = .number 0 ∧
      ¬ ([Sample.backlight brightnessModeLowPersistence].foldl BacklightCall.step
        (State.start (Sample.failing .persistence)).openBacklight).PersistenceFollows :=
  ⟨rfl, rfl, by decide⟩

end Pdx215.Light
