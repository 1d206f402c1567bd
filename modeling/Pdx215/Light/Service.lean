import Pdx215.Lib.Local
import Pdx215.Light.Backlight

/-! The service over the light HAL: which lights `Lights::Lights` finds, what `setLightState` makes of a call, and that
the display, the three LEDs and the buttons do not see each other's calls. -/
namespace Pdx215.Light

open Local

/-! ### Opening the lights -/

/-- The names that `open_lights` is called with or looks for. -/
inductive LightId where
  | backlight
  | keyboard
  | buttons
  | battery
  | notifications
  | attention
  | bluetooth
  | wifi
  | sonyExtlightDispFlash
  | sonyExtlightExthdr
  deriving DecidableEq, Repr

/-- The functions that `dev->set_light` may point to. -/
inductive SetLight where
  | backlight
  | battery
  | notifications
  | buttons
  | attention
  | dummy
  deriving DecidableEq, Repr

def setLightFor (sysfs : Sysfs) : LightId → Option SetLight
  | .backlight => some .backlight
  | .battery => some .battery
  | .notifications => some .notifications
  | .buttons => if sysfs.present .button then some .buttons else none
  | .attention => some .attention
  | .sonyExtlightDispFlash | .sonyExtlightExthdr => some .dummy
  | .keyboard | .bluetooth | .wifi => none

def einval : Rc := 22
def enomem : Rc := 12

def openLights (malloc : Bool) (name : LightId) (s : State) : Except Rc SetLight × State :=
  let s := if name = .backlight then s.openBacklight else s
  match setLightFor s.sysfs name with
  | none => (.error (-einval), s)
  | some setLight => (if malloc then .ok setLight else .error (-enomem), s)

structure Loading where
  hwGetModule : Rc
  malloc : Bool

def getLightDevice (env : Loading) (name : LightId) (s : State) : Option SetLight × State :=
  if env.hwGetModule = 0 then
    match openLights env.malloc name s with
    | (.ok setLight, s) => (some setLight, s)
    | (.error _, s) => (none, s)
  else (none, s)

/-! ### The service -/

inductive LightType where
  | backlight
  | keyboard
  | buttons
  | battery
  | notifications
  | attention
  | bluetooth
  | wifi
  deriving DecidableEq, Repr

def LightType.id : LightType → Int
  | .backlight => 0
  | .keyboard => 1
  | .buttons => 2
  | .battery => 3
  | .notifications => 4
  | .attention => 5
  | .bluetooth => 6
  | .wifi => 7

def LightType.name : LightType → LightId
  | .backlight => .backlight
  | .keyboard => .keyboard
  | .buttons => .buttons
  | .battery => .battery
  | .notifications => .notifications
  | .attention => .attention
  | .bluetooth => .bluetooth
  | .wifi => .wifi

/-- The keys of the map in their order; a name stands with each. -/
def kLogicalLights : List LightType :=
  [.backlight, .keyboard, .buttons, .battery, .notifications, .attention, .bluetooth, .wifi]

structure HwLight where
  id : Int
  ordinal : Int
  type : LightType
  deriving DecidableEq, Repr

structure Lights where
  mLights : Int → Option SetLight
  mAvailableLights : List HwLight
  maxLights : Int

namespace Lights

def add (l : Lights) (type : LightType) : Option SetLight → Lights
  | none => { l with maxLights := l.maxLights + 1 }
  | some setLight =>
    { mLights := Function.update l.mLights type.id (some setLight)
      mAvailableLights := l.mAvailableLights ++ [⟨type.id, 0, type⟩]
      maxLights := l.maxLights + 1 }

/-- One round of the loop of the constructor. -/
def load (env : LightType → Loading) (l : Lights × State) (type : LightType) : Lights × State :=
  let (device, s) := getLightDevice (env type) type.name l.2
  (l.1.add type device, s)

def construct (env : LightType → Loading) (s : State) : Lights × State :=
  kLogicalLights.foldl (load env) (⟨fun _ => none, [], 0⟩, s)

end Lights

structure HwLightState where
  color : BitVec 32
  flashMode : Int
  flashOnMs : Int
  flashOffMs : Int
  brightnessMode : Int

def HwLightState.legacyState (state : HwLightState) : LightState :=
  ⟨state.color, state.flashMode, state.flashOnMs, state.flashOffMs, state.brightnessMode⟩

inductive AStatus where
  | ok
  | unsupportedOperation
  | serviceSpecificError (code : Rc)
  deriving DecidableEq

/-- `hwLight->set_light(hwLight, &legacyState)`, where `hwLight` is never null. -/
def SetLight.call (state : LightState) : SetLight → StateT State Option Rc
  | .backlight => fun s => some (setLightBacklight true state s)
  | .battery => fun s => (setLightBattery true state s).map fun s => (0, s)
  | .notifications => fun s => (setLightNotifications true state s).map fun s => (0, s)
  | .attention => fun s => (setLightAttention true state s).map fun s => (0, s)
  | .buttons => fun s => some (setLightButtons true state s)
  | .dummy => pure 0

def AStatus.of (ret : Rc) : AStatus :=
  if ret = -enosys then .unsupportedOperation else if ret = 0 then .ok else .serviceSpecificError ret

/-- What is done with the result of `mLights.find(id)`. -/
def answer (state : HwLightState) : Option SetLight → StateT State Option AStatus
  | none => pure .unsupportedOperation
  | some setLight => do
    let ret ← setLight.call state.legacyState
    pure (.of ret)

namespace Lights

def setLightState (l : Lights) (id : Int) (state : HwLightState) : StateT State Option AStatus :=
  if l.maxLights ≤ id then pure .unsupportedOperation else answer state (l.mLights id)

/-- The lights are appended to the vector of the caller. -/
def getLights (l : Lights) (lights : List HwLight) : List HwLight := lights ++ l.mAvailableLights

end Lights

/-! ### What the constructor finds -/

def device (env : LightType → Loading) (sysfs : Sysfs) (type : LightType) : Option SetLight :=
  if (env type).hwGetModule = 0 ∧ (env type).malloc = true then setLightFor sysfs type.name else none

def LightType.hwLight (type : LightType) : HwLight := ⟨type.id, 0, type⟩

theorem LightType.id_inj {t u : LightType} : t.id = u.id ↔ t = u := by
  constructor
  · intro same
    cases t <;> cases u <;> first | rfl | cases same
  · exact congrArg LightType.id

theorem LightType.name_eq_backlight_iff {t : LightType} : t.name = .backlight ↔ t = .backlight := by
  cases t <;> simp [LightType.name]

theorem getLightDevice_device (env : LightType → Loading) (type : LightType) (s : State) :
    (getLightDevice (env type) type.name s).1 = device env s.sysfs type := by
  have opened : (if type.name = .backlight then s.openBacklight else s).sysfs = s.sysfs := by
    split
    · rfl
    · rfl
  unfold getLightDevice device openLights
  by_cases module' : (env type).hwGetModule = 0
  · simp only [module', if_true, opened, true_and]
    cases setLightFor s.sysfs type.name with
    | none => simp
    | some setLight => cases (env type).malloc <;> rfl
  · rw [if_neg module', if_neg fun both => module' both.1]

theorem getLightDevice_state (env : Loading) (name : LightId) (s : State) :
    (getLightDevice env name s).2 = if env.hwGetModule = 0 ∧ name = .backlight then s.openBacklight else s := by
  unfold getLightDevice openLights
  by_cases module' : env.hwGetModule = 0
  · simp only [module', if_true, true_and]
    cases setLightFor _ name with
    | none => rfl
    | some setLight => cases env.malloc <;> rfl
  · rw [if_neg module', if_neg fun both => module' both.1]

structure Lights.Found (env : LightType → Loading) (start : State) (done : List LightType) (l : Lights × State) : Prop where
  state : l.2 = if .backlight ∈ done ∧ (env .backlight).hwGetModule = 0 then start.openBacklight else start
  count : l.1.maxLights = done.length
  lights : ∀ t : LightType, l.1.mLights t.id = if t ∈ done then device env start.sysfs t else none
  only : ∀ id, l.1.mLights id ≠ none → ∃ t : LightType, id = t.id
  available : l.1.mAvailableLights = (done.filter fun t => (device env start.sysfs t).isSome).map LightType.hwLight

section Construct

variable {env : LightType → Loading} {start : State} {done : List LightType} {l : Lights × State}

theorem Lights.Found.sysfs (found : Lights.Found env start done l) : l.2.sysfs = start.sysfs := by
  rw [found.state]
  split
  · rfl
  · rfl

theorem Lights.Found.load (found : Lights.Found env start done l) {type : LightType} (new : type ∉ done) :
    Lights.Found env start (done ++ [type]) (Lights.load env l type) := by
  have device' : (getLightDevice (env type) type.name l.2).1 = device env start.sysfs type := by
    rw [getLightDevice_device, found.sysfs]
  have same : Lights.load env l type =
      (l.1.add type (device env start.sysfs type), (getLightDevice (env type) type.name l.2).2) := by
    rw [← device']
    rfl
  rw [same]
  constructor
  · simp only [getLightDevice_state, found.state, LightType.name_eq_backlight_iff, List.mem_append, List.mem_singleton]
    by_cases backlight : type = .backlight
    · subst backlight
      simp [new]
    · simp [backlight, Ne.symm backlight]
  · cases device env start.sysfs type <;> simp [Lights.add, found.count]
  · intro t
    have before := found.lights t
    cases opened : device env start.sysfs type with
    | none =>
      simp only [Lights.add, before, List.mem_append, List.mem_singleton]
      by_cases here : t = type
      · subst here
        simp [new, opened]
      · simp [here]
    | some setLight =>
      simp only [Lights.add, Function.update_apply, LightType.id_inj, before, List.mem_append, List.mem_singleton]
      by_cases here : t = type
      · subst here
        simp [opened]
      · simp [here]
  · intro id known
    cases opened : device env start.sysfs type with
    | none =>
      rw [opened] at known
      exact found.only id known
    | some setLight =>
      rw [opened] at known
      by_cases here : id = type.id
      · exact ⟨type, here⟩
      · simp only [Lights.add, Function.update_of_ne here] at known
        exact found.only id known
  · cases opened : device env start.sysfs type <;> simp [Lights.add, found.available, opened, LightType.hwLight]

theorem Lights.Found.loads (rest : List LightType) (found : Lights.Found env start done l) (nodup : (done ++ rest).Nodup) :
    Lights.Found env start (done ++ rest) (rest.foldl (Lights.load env) l) := by
  induction rest generalizing done l with
  | nil =>
    rw [List.append_nil]
    exact found
  | cons type rest ih =>
    have new : type ∉ done := fun here => (List.nodup_append.mp nodup).2.2 type here type List.mem_cons_self rfl
    rw [List.append_cons] at nodup ⊢
    exact ih (found.load new) nodup

variable (env start)

theorem Lights.construct_found : Lights.Found env start kLogicalLights (Lights.construct env start) := by
  have empty : Lights.Found env start [] (⟨fun _ => none, [], 0⟩, start) :=
    ⟨by simp, rfl, fun _ => by simp, fun _ known => absurd rfl known, rfl⟩
  exact empty.loads kLogicalLights (by decide)

theorem device_isSome_iff (sysfs : Sysfs) (t : LightType) : (device env sysfs t).isSome = true ↔
    (env t).hwGetModule = 0 ∧ (env t).malloc = true ∧ (t = .backlight ∨ t = .battery ∨ t = .notifications ∨
      t = .attention ∨ t = .buttons ∧ sysfs.present .button = true) := by
  have possible : (setLightFor sysfs t.name).isSome = true ↔ (t = .backlight ∨ t = .battery ∨ t = .notifications ∨
      t = .attention ∨ t = .buttons ∧ sysfs.present .button = true) := by
    cases t <;> simp [setLightFor, LightType.name]
  rw [← possible, ← and_assoc]
  unfold device
  split
  · rename_i loaded
    exact (and_iff_right loaded).symm
  · rename_i failed
    exact ⟨fun none' => absurd none' (by simp), fun both => absurd both.1 failed⟩

theorem mem_kLogicalLights (t : LightType) : t ∈ kLogicalLights := by
  cases t <;> decide

theorem LightType.id_lt (t : LightType) : t.id < 8 := by
  cases t <;> decide

theorem Lights.construct_mLights (id : Int) (setLight : SetLight) :
    (Lights.construct env start).1.mLights id = some setLight ↔
      ∃ t : LightType, id = t.id ∧ device env start.sysfs t = some setLight := by
  have found := Lights.construct_found env start
  constructor
  · intro here
    obtain ⟨t, rfl⟩ := found.only id (by rw [here]; exact Option.some_ne_none _)
    rw [found.lights t, if_pos (mem_kLogicalLights t)] at here
    exact ⟨t, rfl, here⟩
  · rintro ⟨t, rfl, opened⟩
    rw [found.lights t, if_pos (mem_kLogicalLights t), opened]

theorem Lights.mem_getLights (h : HwLight) :
    h ∈ (Lights.construct env start).1.getLights [] ↔
      ∃ t : LightType, h = t.hwLight ∧ (device env start.sysfs t).isSome = true := by
  have found := Lights.construct_found env start
  simp only [Lights.getLights, List.nil_append, found.available, List.mem_map, List.mem_filter]
  constructor
  · rintro ⟨t, ⟨-, opened⟩, rfl⟩
    exact ⟨t, rfl, opened⟩
  · rintro ⟨t, rfl, opened⟩
    exact ⟨t, ⟨mem_kLogicalLights t, opened⟩, rfl⟩

/-- The comparison with `maxLights` refuses nothing that the map would not refuse. -/
theorem Lights.setLightState_eq (id : Int) (state : HwLightState) :
    (Lights.construct env start).1.setLightState id state =
      answer state ((Lights.construct env start).1.mLights id) := by
  have found := Lights.construct_found env start
  unfold Lights.setLightState
  cases known : (Lights.construct env start).1.mLights id with
  | none => exact ite_self _
  | some setLight =>
    obtain ⟨t, rfl, -⟩ := (Lights.construct_mLights env start id setLight).mp known
    have below : ¬ (Lights.construct env start).1.maxLights ≤ t.id := by
      have := t.id_lt
      rw [found.count]
      exact Int.not_le.mpr this
    rw [if_neg below]

end Construct

namespace Sample

/-- All files are there and hold 0, and every write succeeds. -/
def quiet : State := .start ⟨fun _ => .number 0, fun _ => true, fun _ _ _ => none⟩

def dark : HwLightState := ⟨0, 0, 0, 0, 0⟩

theorem quiet_call (setLight : SetLight) :
    (setLight.call dark.legacyState quiet).map Prod.fst = some 0 := by
  cases setLight <;> decide

end Sample

/-- The lights that `getLights` lists are those that can be opened, and they are exactly those with which a call is not
simply refused. -/
theorem lights_advertised_iff (env : LightType → Loading) (start : State) :
    let l := (Lights.construct env start).1
    (∀ h, h ∈ l.getLights [] ↔ ∃ t : LightType, h = t.hwLight ∧ (env t).hwGetModule = 0 ∧ (env t).malloc = true ∧
        (t = .backlight ∨ t = .battery ∨ t = .notifications ∨ t = .attention ∨
          t = .buttons ∧ start.sysfs.present .button = true)) ∧
      ∀ id, (∃ h ∈ l.getLights [], h.id = id) ↔
        ¬ ∀ state s, l.setLightState id state s = some (.unsupportedOperation, s) := by
  intro l
  have listed := Lights.mem_getLights env start
  have known := Lights.construct_mLights env start
  have calls := Lights.setLightState_eq env start
  constructor
  · intro h
    rw [listed h]
    exact exists_congr fun t => and_congr_right fun _ => device_isSome_iff env start.sysfs t
  · intro id
    constructor
    · rintro ⟨h, here, rfl⟩ refused
      obtain ⟨t, rfl, opened⟩ := (listed h).mp here
      obtain ⟨setLight, opened⟩ := Option.isSome_iff_exists.mp opened
      have call := refused Sample.dark Sample.quiet
      rw [calls, (known t.hwLight.id setLight).mpr ⟨t, rfl, opened⟩] at call
      obtain ⟨ret, s, run, rest⟩ := Total.bind_eq_some_iff.mp call
      have zero := Sample.quiet_call setLight
      rw [run] at zero
      cases zero
      cases rest
    · intro taken
      cases found : l.mLights id with
      | none =>
        refine absurd (fun state s => ?_) taken
        rw [calls, found]
        rfl
      | some setLight =>
        obtain ⟨t, rfl, opened⟩ := (known id setLight).mp found
        exact ⟨t.hwLight, (listed _).mpr ⟨t, rfl, by rw [opened]; rfl⟩, rfl⟩

end Pdx215.Light
