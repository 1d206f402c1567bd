import Pdx215.Vibrator.Device

/-! The methods of `Vibrator` that drive the hardware, each as the steps that it makes. Floating-point numbers
are exact. How a level is printed and how an amplitude is turned into steps of attenuation is left open; the
callback is left out, since a task runs it whether or not there is one. -/
namespace Pdx215.Vibrator

open Effect

abbrev Call := Prog Act Reply

def act (a : Act) : Call Unit := .call a fun _ => .ret ()

def load {α : Type} (k : Members → Call α) : Call α := .call .look fun (m : Members) => k m

/-- A write whose result is not looked at. -/
def put (op : HwWrite) : Call Unit := act (.write op)

/-- A write that the method fails with. -/
def tryPut (op : HwWrite) : Call Status :=
  .call (.write op) fun (ok : Bool) => .ret (if ok then .ok else .illegalState)

def orReturn (first : Call Status) (rest : Call Status) : Call Status :=
  first >>= fun status => if status = .ok then rest else .ret status

theorem orReturn_ok (rest : Call Status) : orReturn (.ret .ok) rest = rest := rfl

structure Numbers where
  amplitudeToScale : Rat → Rat → BitVec 8
  printLevel : Rat → String

def voltageScaleMax : BitVec 8 := 100

def maxColdStartLatencyMs : BitVec 32 := 6

def maxPauseTimingErrorMs : BitVec 32 := 1

def maxTimeMs : BitVec 32 := 0xffffffff

/-- Halves go away from zero. -/
def lround (q : Rat) : Int := if 0 ≤ q then ⌊q + 1 / 2⌋ else -⌊-q + 1 / 2⌋

section Methods

variable (num : Numbers)

def setEffectAmplitude (amplitude maximum : Rat) : Call Status :=
  tryPut (.setEffectScale ((num.amplitudeToScale amplitude maximum).setWidth 32))

def setGlobalAmplitude (set : Bool) : Call Status :=
  load fun m =>
    let amplitude : BitVec 8 := if set then m.mLongEffectVol.v1.setWidth 8 else voltageScaleMax
    tryPut (.setGlobalScale ((num.amplitudeToScale amplitude.toNat voltageScaleMax.toNat).setWidth 32))

def off : Call Status := do
  let _ ← setGlobalAmplitude num false
  put (.setF0Offset 0)
  orReturn (tryPut (.setActivate false)) do
    act (.setActiveId (-1))
    pure .ok

/-! ### External control -/

/-- The end of `enableHapticPcmAmp` that its failures lead to. -/
def pcmFail : Call Bool := do
  act .pcmClose
  pure false

def enableHapticPcmAmp (enable : Bool) : Call Bool :=
  if enable then
    .call .pcmOpen fun (ready : Bool) =>
      if !ready then pcmFail
      else .call .pcmPrepare fun (prepared : Bool) =>
        if !prepared then pcmFail
        else .call .pcmStart fun (started : Bool) => if !started then pcmFail else .ret true
  else load fun m => do
    if m.mHapticPcm.isSome then act .pcmClose else pure ()
    pure true

def switchPcm (enabled : Bool) : Call Status :=
  load fun m =>
    if m.mHasHapticAlsaDevice then do
      let switched ← enableHapticPcmAmp enabled
      pure (if switched then .ok else .illegalState)
    else pure .ok

def switchAsp (enabled : Bool) : Call Status :=
  .call .hasAspEnable fun (has : Bool) => if has then tryPut (.setAspEnable enabled) else .ret .ok

/-- The two parts of the device that external control is made of. -/
def switchControl (enabled : Bool) : Call Status := orReturn (switchPcm enabled) (switchAsp enabled)

def setExternalControl (enabled : Bool) : Call Status := do
  let _ ← setGlobalAmplitude num enabled
  load fun m =>
    if m.mIsUnderExternalControl = enabled ∧ ¬ enabled then .ret .ok
    else
      -- external control that is on is switched off first
      orReturn (if m.mIsUnderExternalControl = enabled then switchControl (!enabled) else .ret .ok) <|
      orReturn (switchControl enabled) do
        act (.setUnderExternalControl enabled)
        pure .ok

/-! ### Activation -/

/-- `std::async`, and the assignment of the new future. -/
def startTask : Call Status := do
  act .launch
  act .assign
  pure .ok

def activate (timeoutMs effectIndex : BitVec 32) : Call Status := do
  put (.setEffectIndex effectIndex)
  put (.setDuration timeoutMs)
  put (.setActivate true)
  act (.setActiveId (effectIndex.setWidth 8).toInt)
  startTask

/-- The first part of `on`, which does not look at the result either. -/
def forceDisable : Call Unit :=
  load fun m =>
    if m.mIsUnderExternalControl then do
      let _ ← setExternalControl num false
      pure ()
    else pure ()

/-- `on(uint32_t, uint32_t, callback)`. -/
def onIndex (timeoutMs effectIndex : BitVec 32) : Call Status := do
  forceDisable num
  .call .waitFor fun (ready : Bool) =>
    if !ready then .ret .illegalState else activate timeoutMs effectIndex

def waveformLongVibrationEffectIndex : BitVec 32 := 0

/-- `on(int32_t, callback)`. -/
def on (timeoutMs : BitVec 32) : Call Status := do
  let _ ← setGlobalAmplitude num true
  load fun m => do
    put (.setF0Offset m.mF0Offset)
    onIndex num (if maxColdStartLatencyMs ≤ maxTimeMs - timeoutMs then timeoutMs + maxColdStartLatencyMs
      else timeoutMs) waveformLongVibrationEffectIndex

def waveformTriggerQueueIndex : BitVec 32 := 65534

/-- `performEffect(uint32_t, uint32_t, const std::string *, callback)`. -/
def performEffectIndex (effectIndex volLevel : BitVec 32) (effectQueue : String) : Call Status :=
  if effectQueue ≠ "" then
    orReturn (tryPut (.setEffectQueue effectQueue)) do
      let _ ← setEffectAmplitude num voltageScaleMax.toNat voltageScaleMax.toNat
      onIndex num maxTimeMs waveformTriggerQueueIndex
  else do
    let _ ← setEffectAmplitude num volLevel.toNat voltageScaleMax.toNat
    onIndex num maxTimeMs effectIndex

end Methods

/-! ### Effects -/

def waveformClickIndex : BitVec 32 := 2
def waveformThudIndex : BitVec 32 := 4
def waveformSpinIndex : BitVec 32 := 5
def waveformQuickRiseIndex : BitVec 32 := 6
def waveformSlowRiseIndex : BitVec 32 := 7
def waveformQuickFallIndex : BitVec 32 := 8
def waveformLightTickIndex : BitVec 32 := 9
def waveformLowTickIndex : BitVec 32 := 10
def waveformCustomTickIndex1 : BitVec 32 := 11
def waveformCustomTickIndex2 : BitVec 32 := 12
def waveformCustomTickIndex3 : BitVec 32 := 13

def waveformDoubleClickSilenceMs : BitVec 32 := 100

def EffectStrength.intensity : EffectStrength → Option Rat
  | .light => some (1 / 2)
  | .medium => some (7 / 10)
  | .strong => some 1
  | .other _ => none

/-- The waveform of an effect that is precompiled in the controller. -/
def HapticEffect.index : HapticEffect → Option (BitVec 32)
  | .textureTick | .tick => some waveformLowTickIndex
  | .click => some waveformClickIndex
  | .thud => some waveformCustomTickIndex1
  | .pop => some waveformCustomTickIndex2
  | .heavyClick => some waveformCustomTickIndex3
  | .doubleClick | .other _ => none

/-- The difference is taken in 32 bits, the sum in a `long`. -/
def VolLevels.calc (v : VolLevels) (intensity : Rat) : BitVec 32 :=
  BitVec.ofInt 32 (lround (intensity * (v.v1 - v.v0).toNat) + v.v0.toNat)

def Members.intensityToVolLevel (m : Members) (intensity : Rat) (effectIndex : BitVec 32) : BitVec 32 :=
  if effectIndex = waveformLightTickIndex then m.mTickEffectVol.calc intensity
  else if effectIndex = waveformQuickRiseIndex ∨ effectIndex = waveformQuickFallIndex then
    m.mLongEffectVol.calc intensity
  else m.mClickEffectVol.calc intensity

structure SimpleDetails where
  effectIndex : BitVec 32
  timeMs : BitVec 32
  volLevel : BitVec 32

def Members.getSimpleDetails (m : Members) (effect : HapticEffect) (strength : EffectStrength) :
    Except Status SimpleDetails :=
  match strength.intensity, effect.index with
  | some intensity, some effectIndex => .ok
    { effectIndex := effectIndex
      timeMs := m.mEffectDurations effectIndex.toNat + maxColdStartLatencyMs
      volLevel := m.intensityToVolLevel intensity effectIndex }
  | _, _ => .error .unsupportedOperation

def SimpleDetails.print (d : SimpleDetails) : String :=
  toString d.effectIndex.toNat ++ "." ++ toString d.volLevel.toNat

def Members.getCompoundDetails (m : Members) (effect : HapticEffect) (strength : EffectStrength) :
    Except Status (BitVec 32 × String) :=
  match effect with
  | .doubleClick => do
    let first ← m.getSimpleDetails .click strength
    let second ← m.getSimpleDetails .heavyClick strength
    .ok (first.timeMs + (waveformDoubleClickSilenceMs + maxPauseTimingErrorMs) + second.timeMs,
      first.print ++ "," ++ toString waveformDoubleClickSilenceMs.toNat ++ "," ++ second.print)
  | _ => .error .unsupportedOperation

def performEffect (num : Numbers) (effect : HapticEffect) (strength : EffectStrength) : Call (Status × BitVec 32) :=
  load fun m =>
    match effect with
    | .textureTick | .tick | .click | .heavyClick | .thud | .pop =>
      match m.getSimpleDetails effect strength with
      | .error status => .ret (status, 0)
      | .ok d => do
        let status ← performEffectIndex num d.effectIndex d.volLevel ""
        pure (status, d.timeMs)
    | .doubleClick =>
      match m.getCompoundDetails effect strength with
      | .error status => .ret (status, 0)
      | .ok (timeMs, effectQueue) => do
        let status ← performEffectIndex num 0 0 effectQueue
        pure (status, timeMs)
    | .other _ => .ret (.unsupportedOperation, 0)

/-! ### Compositions -/

def composeDelayMaxMs : Int := 10000

def composeSizeMax : Nat := 127

def getPrimitiveDetails : CompositePrimitive → Except Status (BitVec 32)
  | .noop => .error .illegalArgument
  | .click => .ok waveformClickIndex
  | .thud => .ok waveformThudIndex
  | .spin => .ok waveformSpinIndex
  | .quickRise => .ok waveformQuickRiseIndex
  | .slowRise => .ok waveformSlowRiseIndex
  | .quickFall => .ok waveformQuickFallIndex
  | .lightTick => .ok waveformLightTickIndex
  | .lowTick => .ok waveformLowTickIndex
  | .other _ => .error .unsupportedOperation

def Members.composeEffect (m : Members) (e : CompositeEffect) : Except Status String := do
  if e.scale < 0 ∨ 1 < e.scale then .error .illegalArgument
  let delay ←
    if e.delayMs ≠ 0 then
      if composeDelayMaxMs < e.delayMs then .error .illegalArgument else .ok (toString e.delayMs ++ ",")
    else .ok ""
  if e.primitive ≠ .noop then
    let effectIndex ← getPrimitiveDetails e.primitive
    .ok (delay ++ toString effectIndex.toNat ++ "." ++
      toString (m.intensityToVolLevel e.scale effectIndex).toNat ++ ",")
  else .ok delay

def Members.composeEffects (m : Members) : List CompositeEffect → String → Except Status String
  | [], effectQueue => .ok effectQueue
  | e :: es, effectQueue => do
    let added ← m.composeEffect e
    m.composeEffects es (effectQueue ++ added)

def Members.composeQueue (m : Members) (composite : List CompositeEffect) : Except Status String :=
  if composeSizeMax < composite.length then .error .illegalArgument
  else do
    let effectQueue ← m.composeEffects composite ""
    if effectQueue = "" then .error .illegalArgument else .ok (effectQueue ++ "0")

def compose (num : Numbers) (composite : List CompositeEffect) : Call Status :=
  load fun m =>
    match m.composeQueue composite with
    | .error status => .ret status
    | .ok effectQueue => performEffectIndex num 0 0 effectQueue

/-! ### Piecewise-linear envelopes -/

def composePwlePrimitiveDurationMaxMs : Int := 999

def pwleLevelMin : Rat := 0

def pwleLevelMax : Rat := 1

def cs40l2xPwleLevelMax : Rat := 99 / 100

def pwleFrequencyResolutionHz : Rat := 1

def pwleFrequencyMinHz : Rat := 1

def pwleFrequencyMaxHz : Rat := 999

def cs40l2xPwleLengthMax : Nat := 4094

def waveformUnsavedTriggerQueueIndex : BitVec 32 := 65529

structure Pwle where
  pwleQueue : String
  segmentIdx : Nat
  prevEndAmplitude : Rat
  prevEndFrequency : Rat
  totalDuration : BitVec 32

def field (name : String) (segmentIdx : Nat) (value : String) : String :=
  "," ++ name ++ toString segmentIdx ++ ":" ++ value

def constructActiveDefaults (segmentIdx : Nat) : String :=
  field "C" segmentIdx "1" ++ field "B" segmentIdx "0" ++ field "AR" segmentIdx "0" ++ field "V" segmentIdx "0"

def constructActiveSegment (num : Numbers) (segmentIdx : Nat) (duration : Int) (amplitude frequency : Rat) : String :=
  field "T" segmentIdx (toString duration) ++ field "L" segmentIdx (num.printLevel amplitude) ++
    field "F" segmentIdx (toString (lround frequency)) ++ constructActiveDefaults segmentIdx

def constructBrakingSegment (segmentIdx : Nat) (duration braking : Int) (frequency : Rat) : String :=
  field "T" segmentIdx (toString duration) ++ field "L" segmentIdx "0" ++
    field "F" segmentIdx (toString (lround frequency)) ++ field "C" segmentIdx "0" ++
    field "B" segmentIdx (toString braking) ++ field "AR" segmentIdx "0" ++ field "V" segmentIdx "0"

def capTo (limit value : Rat) : Rat := if limit < value then limit else value

/-- The index is cut down to a whole number. -/
def Members.levelLimit (m : Members) (frequency : Rat) : Rat :=
  m.pwleMaxLevelLimitMap ⌊frequency / pwleFrequencyResolutionHz - 1⌋.toNat

/-- The primitive with its levels clipped, if it is valid. -/
def Members.checkActive (m : Members) (a : ActivePwle) : Except Status ActivePwle := do
  if a.duration < 0 ∨ composePwlePrimitiveDurationMaxMs < a.duration then .error .illegalArgument
  if a.startAmplitude < pwleLevelMin ∨ pwleLevelMax < a.startAmplitude ∨
      a.endAmplitude < pwleLevelMin ∨ pwleLevelMax < a.endAmplitude then .error .illegalArgument
  if a.startFrequency < pwleFrequencyMinHz ∨ pwleFrequencyMaxHz < a.startFrequency ∨
      a.endFrequency < pwleFrequencyMinHz ∨ pwleFrequencyMaxHz < a.endFrequency then .error .illegalArgument
  .ok { a with
    startAmplitude := capTo (m.levelLimit a.startFrequency) (capTo cs40l2xPwleLevelMax a.startAmplitude)
    endAmplitude := capTo (m.levelLimit a.endFrequency) (capTo cs40l2xPwleLevelMax a.endAmplitude) }

def Pwle.segment (s : Pwle) (text : Nat → String) : Pwle :=
  { s with pwleQueue := s.pwleQueue ++ text s.segmentIdx, segmentIdx := s.segmentIdx + 1 }

def Pwle.addActive (num : Numbers) (s : Pwle) (a : ActivePwle) : Pwle :=
  let s :=
    if ¬ (a.startAmplitude = s.prevEndAmplitude ∧ a.startFrequency = s.prevEndFrequency) then
      s.segment fun i => constructActiveSegment num i 0 a.startAmplitude a.startFrequency
    else s
  { s.segment fun i => constructActiveSegment num i a.duration a.endAmplitude a.endFrequency with
    prevEndAmplitude := a.endAmplitude
    prevEndFrequency := a.endFrequency
    totalDuration := s.totalDuration + BitVec.ofInt 32 a.duration }

/-- There is no check that the duration is not negative. -/
def checkBraking (b : BrakingPwle) : Except Status BrakingPwle := do
  if 1 < b.braking then .error .illegalArgument
  if composePwlePrimitiveDurationMaxMs < b.duration then .error .illegalArgument
  .ok b

def Pwle.addBraking (s : Pwle) (b : BrakingPwle) : Pwle :=
  { s.segment fun i => constructBrakingSegment i b.duration b.braking s.prevEndFrequency with
    prevEndAmplitude := 0
    totalDuration := s.totalDuration + BitVec.ofInt 32 b.duration }

def Members.pwleStep (num : Numbers) (m : Members) (s : Pwle) : PrimitivePwle → Except Status Pwle
  | .active p => do
    let a ← m.checkActive p
    .ok (s.addActive num a)
  | .braking p => do
    let b ← checkBraking p
    .ok (s.addBraking b)

def Members.pwleStart (m : Members) : Pwle where
  pwleQueue := "S:0,WF:4,RP:0,WT:0"
  segmentIdx := 0
  prevEndAmplitude := 0
  prevEndFrequency := m.mResonantFrequency
  totalDuration := 0

/-- The size is compared as a `size_t`. -/
def Members.pwleQueue (num : Numbers) (m : Members) (composite : List PrimitivePwle) : Except Status Pwle := do
  if !m.mIsChirpEnabled then .error .unsupportedOperation
  if composite.length ≤ 0 ∨ m.mCompositionSizeMax % 2 ^ 64 < composite.length then .error .illegalArgument
  let s ← composite.foldlM (m.pwleStep num) m.pwleStart
  if cs40l2xPwleLengthMax < s.pwleQueue.length then .error .illegalState
  .ok s

def activatePwle (num : Numbers) (totalDuration : BitVec 32) : Call Status := do
  let _ ← setEffectAmplitude num voltageScaleMax.toNat voltageScaleMax.toNat
  put (.setEffectIndex waveformUnsavedTriggerQueueIndex)
  put (.setDuration (totalDuration + maxColdStartLatencyMs))
  put (.setActivate true)
  startTask

def composePwle (num : Numbers) (composite : List PrimitivePwle) : Call Status :=
  load fun m =>
    match m.pwleQueue num composite with
    | .error status => .ret status
    | .ok s => orReturn (tryPut (.setPwle s.pwleQueue)) (activatePwle num s.totalDuration)

/-! ### Runs -/

def Request.program (num : Numbers) : Request → Call Status
  | .on timeoutMs => Vibrator.on num timeoutMs
  | .perform effect strength => do
    let result ← performEffect num effect strength
    pure result.1
  | .compose composite => Vibrator.compose num composite
  | .composePwle composite => Vibrator.composePwle num composite
  | .setExternalControl enabled => Vibrator.setExternalControl num enabled
  | .off => Vibrator.off num

inductive Event where
  | request (r : Request)
  | tasks (is : List Nat)

def eventStep (num : Numbers) (w : World) : Event × (Nat → Outcome) → World
  | (.request r, io) => (exec perform io (r.program num) 0 { w with request := r }).2
  | (.tasks is, _) => w.progress is

def run (num : Numbers) (w : World) (events : List (Event × (Nat → Outcome))) : World :=
  events.foldl (eventStep num) w

/-! ### A small device -/

namespace Sample

def numbers : Numbers where
  amplitudeToScale := fun _ _ => 0
  printLevel := fun _ => "0.5"

def members : Members where
  mF0Offset := 0
  mTickEffectVol := ⟨1, 100⟩
  mClickEffectVol := ⟨1, 100⟩
  mLongEffectVol := ⟨1, 100⟩
  mEffectDurations := fun _ => 10
  mCompositionSizeMax := 10
  mHapticPcm := none
  mHasHapticAlsaDevice := false
  mIsUnderExternalControl := false
  mResonantFrequency := 145
  mActiveId := -1
  mIsChirpEnabled := true
  pwleMaxLevelLimitMap := fun _ => 1

/-- No task makes a step in the meantime, and everything succeeds. -/
def smooth : Outcome where
  tasks := []
  write := fun _ => true
  hasAspEnable := true
  pcm := true

def ramp : List PrimitivePwle := [.active ⟨1 / 2, 100, 1 / 2, 100, 10⟩]

end Sample

end Pdx215.Vibrator
