import Pdx215.Lib.Recorded
import Pdx215.Vibrator.Uninitialised

/-! Where the methods look up durations of effects. The vector has as many elements as the hardware reports
waveforms, and no method compares an index with its size. -/
namespace Pdx215.Vibrator

open Effect Recording

abbrev Reading (α : Type) : Type := Recorded Nat Status α

section Methods

variable (m : Members)

def Members.readDuration (effectIndex : BitVec 32) : Reading (BitVec 32) :=
  lookUp effectIndex.toNat (m.mEffectDurations effectIndex.toNat)

def Members.readSimpleDetails (effect : HapticEffect) (strength : EffectStrength) : Reading SimpleDetails :=
  -- the strength is looked at first
  match strength.intensity with
  | none => fail .unsupportedOperation
  | some intensity =>
    match effect.index with
    | none => fail .unsupportedOperation
    | some effectIndex => do
      let duration ← m.readDuration effectIndex
      return ⟨effectIndex, duration + maxColdStartLatencyMs, m.intensityToVolLevel intensity effectIndex⟩

def Members.readCompoundDetails (effect : HapticEffect) (strength : EffectStrength) : Reading (BitVec 32 × String) :=
  match effect with
  | .doubleClick => do
    let first ← m.readSimpleDetails .click strength
    let second ← m.readSimpleDetails .heavyClick strength
    return (first.timeMs + (waveformDoubleClickSilenceMs + maxPauseTimingErrorMs) + second.timeMs,
      first.print ++ "," ++ toString waveformDoubleClickSilenceMs.toNat ++ "," ++ second.print)
  | _ => fail .unsupportedOperation

/-- What `performEffect` passes on. A compound effect leaves the index and the level open. -/
structure EffectDetails where
  effectIndex : BitVec 32
  volLevel : BitVec 32
  timeMs : BitVec 32
  effectQueue : String

def Members.readEffectDetails (effect : HapticEffect) (strength : EffectStrength) : Reading EffectDetails :=
  match effect with
  | .textureTick | .tick | .click | .heavyClick | .thud | .pop => do
    let d ← m.readSimpleDetails effect strength
    return ⟨d.effectIndex, d.volLevel, d.timeMs, ""⟩
  | .doubleClick => do
    let d ← m.readCompoundDetails effect strength
    return ⟨0, 0, d.1, d.2⟩
  | .other _ => fail .unsupportedOperation

def Members.readPrimitiveDuration (primitive : CompositePrimitive) : Reading (BitVec 32) :=
  if primitive ≠ .noop then
    match getPrimitiveDetails primitive with
    | .error status => fail status
    | .ok effectIndex => m.readDuration effectIndex
  else return 0

end Methods

/-! ### What the methods do with it -/

section Results

def performDetails (num : Numbers) : Except Status EffectDetails → Call (Status × BitVec 32)
  | .error status => .ret (status, 0)
  | .ok d => do
    let status ← performEffectIndex num d.effectIndex d.volLevel d.effectQueue
    pure (status, d.timeMs)

def enableDetails (num : Numbers) (id : Int) : Except Status SimpleDetails → Answered
  | .error status => refuse status
  | .ok d =>
    let scale := (num.amplitudeToScale d.volLevel.toNat voltageScaleMax.toNat).setWidth 32
    if id = 0 then ⟨.ok, .nothing, [.setGpioRiseIndex d.effectIndex, .setGpioRiseScale scale]⟩
    else if id = 1 then ⟨.ok, .nothing, [.setGpioFallIndex d.effectIndex, .setGpioFallScale scale]⟩
    else refuse .unsupportedOperation

def answerDuration : Except Status (BitVec 32) → Answered
  | .error status => refuse status
  | .ok duration => ⟨.ok, .number duration.toNat, []⟩

variable (m : Members)

theorem readSimpleDetails_result (effect : HapticEffect) (strength : EffectStrength) :
    (m.readSimpleDetails effect strength).result = m.getSimpleDetails effect strength := by
  simp only [Members.readSimpleDetails, Members.getSimpleDetails]
  cases strength.intensity with
  | none => rfl
  | some intensity =>
    cases effect.index with
    | none => rfl
    | some effectIndex => rfl

theorem readCompoundDetails_result (effect : HapticEffect) (strength : EffectStrength) :
    (m.readCompoundDetails effect strength).result = m.getCompoundDetails effect strength := by
  cases effect
  case doubleClick =>
    simp only [Members.readCompoundDetails, Members.getCompoundDetails, result_bind, readSimpleDetails_result,
      result_pure]
  all_goals rfl

theorem performEffect_eq (num : Numbers) (effect : HapticEffect) (strength : EffectStrength) :
    performEffect num effect strength =
      load fun m => performDetails num (m.readEffectDetails effect strength).result := by
  apply congrArg load
  funext m
  cases effect
  case doubleClick =>
    simp only [Members.readEffectDetails, result_bind, readCompoundDetails_result]
    cases m.getCompoundDetails .doubleClick strength with
    | error status => rfl
    | ok d => rfl
  case other => rfl
  all_goals
    simp only [Members.readEffectDetails, result_bind, readSimpleDetails_result]
    cases m.getSimpleDetails _ strength with
    | error status => rfl
    | ok d => rfl

theorem alwaysOnEnable_eq (num : Numbers) (x : Object) (id : Int) (effect : HapticEffect) (strength : EffectStrength) :
    x.alwaysOnEnable num id effect strength =
      enableDetails num id (x.members.readSimpleDetails effect strength).result := by
  rw [readSimpleDetails_result, Object.alwaysOnEnable]
  cases x.members.getSimpleDetails effect strength with
  | error status => rfl
  | ok d => rfl

theorem getPrimitiveDuration_eq (x : Object) (primitive : CompositePrimitive) :
    x.getPrimitiveDuration primitive = answerDuration (x.members.readPrimitiveDuration primitive).result := by
  simp only [Object.getPrimitiveDuration, Members.readPrimitiveDuration]
  by_cases sounds : primitive ≠ .noop
  · rw [if_pos sounds, if_pos sounds]
    cases getPrimitiveDetails primitive with
    | error status => rfl
    | ok effectIndex => rfl
  · rw [if_neg sounds, if_neg sounds]
    rfl

end Results

/-! ### The vector -/

def Setup.effectDurations (hw : Setup) : List (BitVec 32) :=
  (List.range hw.effectCount).map fun i => durationMs (hw.effectDuration i)

theorem length_effectDurations (hw : Setup) : hw.effectDurations.length = hw.effectCount := by
  rw [Setup.effectDurations, List.length_map, List.length_range]

/-- An index behind the last element reads the memory there. -/
theorem construct_durations (response : Response) (actuator : Actuator) (hw : Setup) (memory : Object) (i : Nat) :
    (construct response actuator hw memory).members.mEffectDurations i =
      hw.effectDurations[i]?.getD (hw.behindDurations i) := by
  have kept : (construct response actuator hw memory).members.mEffectDurations =
      (memory.calibrated actuator hw).members.mEffectDurations := by
    rw [construct_eq, finish_members]
    simp only [Object.prepared, Object.withDevice]
    cases hw.found with
    | none => rfl
    | some device => rfl
  have read : (memory.calibrated actuator hw).members.mEffectDurations i =
      if i < hw.effectCount then durationMs (hw.effectDuration i) else hw.behindDurations i := by
    simp only [Object.calibrated, Object.readVolLevels]
    split
    · rfl
    · rfl
  rw [kept, read]
  by_cases inside : i < hw.effectCount
  · rw [if_pos inside, Setup.effectDurations, List.getElem?_map, List.getElem?_range inside, Option.map_some,
      Option.getD_some]
  · rw [if_neg inside, List.getElem?_eq_none (by rw [length_effectDurations]; omega), Option.getD_none]

/-! ### The indices -/

inductive DurationCall where
  | perform (effect : HapticEffect) (strength : EffectStrength)
  | alwaysOnEnable (id : Int) (effect : HapticEffect) (strength : EffectStrength)
  | getPrimitiveDuration (primitive : CompositePrimitive)

def DurationCall.reads (m : Members) : DurationCall → List Nat
  | .perform effect strength => (m.readEffectDetails effect strength).record
  | .alwaysOnEnable _ effect strength => (m.readSimpleDetails effect strength).record
  | .getPrimitiveDuration primitive => (m.readPrimitiveDuration primitive).record

/-- The number of waveforms up to that of the effect. -/
def HapticEffect.waveforms : HapticEffect → Nat
  | .click => 3
  | .textureTick | .tick => 11
  | .thud => 12
  | .pop => 13
  | .heavyClick | .doubleClick => 14
  | .other _ => 0

def CompositePrimitive.waveforms : CompositePrimitive → Nat
  | .click => 3
  | .thud => 5
  | .spin => 6
  | .quickRise => 7
  | .slowRise => 8
  | .quickFall => 9
  | .lightTick => 10
  | .lowTick => 11
  | .noop | .other _ => 0

/-- How many waveforms the hardware has to have for a call. An unknown strength is rejected before anything is looked
up, and so is a compound effect that is to be always on. -/
def DurationCall.waveforms : DurationCall → Nat
  | .perform _ (.other _) | .alwaysOnEnable _ _ (.other _) | .alwaysOnEnable _ .doubleClick _ => 0
  | .perform effect _ | .alwaysOnEnable _ effect _ => effect.waveforms
  | .getPrimitiveDuration primitive => primitive.waveforms

theorem HapticEffect.waveforms_le (effect : HapticEffect) : effect.waveforms ≤ 14 := by
  unfold HapticEffect.waveforms
  split <;> decide

theorem CompositePrimitive.waveforms_le (primitive : CompositePrimitive) : primitive.waveforms ≤ 14 := by
  unfold CompositePrimitive.waveforms
  split <;> decide

theorem DurationCall.waveforms_le (call : DurationCall) : call.waveforms ≤ 14 := by
  unfold DurationCall.waveforms
  split
  · exact Nat.zero_le 14
  · exact Nat.zero_le 14
  · exact Nat.zero_le 14
  · exact HapticEffect.waveforms_le _
  · exact HapticEffect.waveforms_le _
  · exact CompositePrimitive.waveforms_le _

theorem reads_lt_iff (m : Members) (call : DurationCall) (n : Nat) :
    (∀ i ∈ call.reads m, i < n) ↔ call.waveforms ≤ n := by
  have none' : (∀ i ∈ ([] : List Nat), i < n) ↔ 0 ≤ n := iff_of_true (List.forall_mem_nil _) (Nat.zero_le n)
  have one (i : Nat) : (∀ j ∈ [i], j < n) ↔ i + 1 ≤ n := List.forall_mem_singleton
  -- a double click is a click and a heavy click
  have two : (∀ j ∈ [2, 13], j < n) ↔ 14 ≤ n := by
    rw [List.forall_mem_cons, List.forall_mem_singleton]
    omega
  cases call with
  | perform effect strength =>
    cases strength
    case other => cases effect <;> exact none'
    all_goals
      cases effect
      case doubleClick => exact two
      case other => exact none'
      all_goals exact one _
  | alwaysOnEnable id effect strength =>
    cases strength
    case other => cases effect <;> exact none'
    all_goals
      cases effect
      case doubleClick => exact none'
      case other => exact none'
      all_goals exact one _
  | getPrimitiveDuration primitive =>
    cases primitive
    case noop => exact none'
    case other => exact none'
    all_goals exact one _

/-- Every lookup of a call is in range if the hardware has the waveforms that the call stands for. -/
theorem durations_in_range_iff (hw : Setup) (m : Members) (call : DurationCall) :
    (∀ i ∈ call.reads m, i < hw.effectDurations.length) ↔ call.waveforms ≤ hw.effectCount := by
  rw [length_effectDurations, reads_lt_iff]

/-- With 14 waveforms, and with no fewer, all calls are in range. -/
theorem all_durations_in_range_iff (hw : Setup) (m : Members) :
    (∀ (call : DurationCall), ∀ i ∈ call.reads m, i < hw.effectDurations.length) ↔ 14 ≤ hw.effectCount := by
  simp only [length_effectDurations, reads_lt_iff]
  constructor
  · intro all
    exact all (.perform .heavyClick .strong)
  · intro enough call
    exact call.waveforms_le.trans enough

theorem heavy_click_out_of_range :
    ¬ ∀ i ∈ (DurationCall.perform .heavyClick .strong).reads Sample.members,
      i < (Setup.effectDurations { Sample.setup with effectCount := 13 }).length := by
  rw [reads_lt_iff, length_effectDurations]
  decide

end Pdx215.Vibrator
