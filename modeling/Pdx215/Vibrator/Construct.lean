import Mathlib.Data.List.Infix
import Pdx215.Lib.Fields
import Pdx215.Vibrator.Calls

/-! The construction of `Vibrator` and the methods that start no vibration. A member without an initialiser holds
whatever was in its memory until the constructor assigns it. -/
namespace Pdx215.Vibrator

open Effect Fields

/-! ### Actuators -/

inductive Actuator where
  | luxshareIct081545
  | luxshareIctLtXlra1906d
  | other
  deriving DecidableEq, Repr

def Actuator.discretePwleMaxLevels : Actuator → List (Rat × Rat)
  | .luxshareIct081545 => [(120, 2 / 5), (130, 31 / 100), (140, 7 / 50), (145, 9 / 100), (150, 3 / 20), (160, 7 / 20),
    (170, 2 / 5)]
  | .luxshareIctLtXlra1906d => [(145, 19 / 50), (150, 7 / 20), (160, 7 / 20), (170, 3 / 20), (180, 7 / 20),
    (190, 7 / 20), (200, 19 / 50)]
  | .other => []

/-- What all elements of `pwleMaxLevelLimitMap` are at first. -/
def Actuator.maxLevel : Actuator → Rat
  | .luxshareIct081545 => 2 / 5
  | .luxshareIctLtXlra1906d => 19 / 50
  | .other => 1

def pwleBwMapSize : Nat := 999

/-- The limits from one point to the next. Both ends are set. -/
def limitsBetween (limits : Nat → Rat) (p q : Rat × Rat) : Nat → Rat :=
  (List.range ⌈q.1 + pwleFrequencyResolutionHz - p.1⌉.toNat).foldl
    (fun limits k => Function.update limits
      (⌊(p.1 - pwleFrequencyMinHz) / pwleFrequencyResolutionHz⌋.toNat + k)
      (p.2 + (q.2 - p.2) / (q.1 - p.1) * (k * pwleFrequencyResolutionHz)))
    limits

def limitsAlong : (Nat → Rat) → List (Rat × Rat) → Nat → Rat
  | limits, p :: q :: points => limitsAlong (limitsBetween limits p q) (q :: points)
  | limits, _ => limits

def setLimits (limits : Nat → Rat) : List (Rat × Rat) → Nat → Rat
  | [] => limits
  | [p] => Function.update limits ⌊(p.1 - pwleFrequencyMinHz) / pwleFrequencyResolutionHz⌋.toNat p.2
  | points => limitsAlong limits points

/-! ### Objects -/

/-- The members that vibration requests do not use, and the static variable of `hasHapticAlsaDevice`. -/
structure Rest where
  mCard : Int
  mDevice : Int
  mRedc : BitVec 32
  mBandwidthAmplitudeMap : List Rat
  mGenerateBandwidthAmplitudeMapDone : Bool
  configHapticAlsaDeviceDone : Bool

/-- `pwleMaxLevelLimitMap`, which is global, stands among the members. -/
structure Object where
  members : Members
  rest : Rest

/-! ### The haptic PCM device -/

def scanDigits (text : List Char) : Option (Int × List Char) :=
  (readNat (text.takeWhile Char.isDigit)).map fun n => ((n : Int), text.dropWhile Char.isDigit)

/-- A number as `%d` reads it, with what is left. -/
def scanInt (text : List Char) : Option (Int × List Char) :=
  match text.dropWhile Char.isWhitespace with
  | '-' :: rest => (scanDigits rest).map fun read => (-read.1, read.2)
  | '+' :: rest => scanDigits rest
  | rest => scanDigits rest

/-- The numbers of card and device that `sscanf` assigns with `%d-%d`. -/
def scanNumbers (text : List Char) : Option Int × Option Int :=
  match scanInt text with
  | none => (none, none)
  | some (card, '-' :: rest) => (some card, (scanInt rest).map Prod.fst)
  | some (card, _) => (some card, none)

def hapticPcmDeviceSymbol : String := "haptic nohost playback"

/-- The lines are those of `/proc/asound/pcm`, none if it cannot be read. -/
def findHapticAlsaDevice (lines : List String) : Option (Option Int × Option Int) :=
  (lines.find? fun line => decide (hapticPcmDeviceSymbol.toList <:+: line.toList)).map fun line =>
    scanNumbers (line.toList.takeWhile (· ≠ ':'))

/-- The device is looked for until it is found. A number that is not in the line stays as it was. -/
def Object.hasHapticAlsaDevice (x : Object) (lines : List String) : Bool × Object :=
  if x.rest.configHapticAlsaDeviceDone then (x.members.mHasHapticAlsaDevice, x)
  else
    match findHapticAlsaDevice lines with
    | none => (x.members.mHasHapticAlsaDevice, x)
    | some (card, device) => (true,
      { x with
        members.mHasHapticAlsaDevice := true
        rest.mCard := card.getD x.rest.mCard
        rest.mDevice := device.getD x.rest.mDevice
        rest.configHapticAlsaDeviceDone := true })

/-! ### Capabilities -/

structure Probe where
  hasEffectScale : Bool
  hasAspEnable : Bool
  procSndPcm : List String
  hasPwle : Bool

/-- The capabilities that are not always there. -/
structure Capabilities where
  amplitudeControl : Bool
  externalControl : Bool
  frequencyControl : Bool
  composePwleEffects : Bool

/-- The PCM device is asked for only if there is no `asp_enable`. -/
def Object.hasExternalControl (x : Object) (probe : Probe) : Bool × Object :=
  if probe.hasAspEnable then (true, x) else x.hasHapticAlsaDevice probe.procSndPcm

def Object.getCapabilities (x : Object) (probe : Probe) : Capabilities × Object :=
  let external := x.hasExternalControl probe
  let chirp := probe.hasPwle && external.2.members.mIsChirpEnabled
  ({ amplitudeControl := probe.hasEffectScale
     externalControl := external.1
     frequencyControl := chirp
     composePwleEffects := chirp }, external.2)

def composePwleSizeLimit : BitVec 32 := 82

/-- The status, and the size if it is ok. -/
def Object.getPwleCompositionSizeMax (x : Object) (probe : Probe) (availablePwleSegments : Option (BitVec 32)) :
    Except Status (BitVec 32) × Object :=
  let capabilities := x.getCapabilities probe
  if capabilities.1.composePwleEffects then
    match availablePwleSegments with
    | none => (.error .illegalState, capabilities.2)
    | some segments =>
      let maxSize := if composePwleSizeLimit < segments then composePwleSizeLimit else segments
      (.ok maxSize, { capabilities.2 with members.mCompositionSizeMax := maxSize.toInt })
  else (.error .unsupportedOperation, capabilities.2)

def Object.createPwleMaxLevelLimitMap (x : Object) (actuator : Actuator) (probe : Probe) : Object :=
  let capabilities := x.getCapabilities probe
  if capabilities.1.frequencyControl then
    { capabilities.2 with
      members.pwleMaxLevelLimitMap :=
        setLimits capabilities.2.members.pwleMaxLevelLimitMap actuator.discretePwleMaxLevels }
  else capabilities.2

/-- The acceleration at a point of the map, which has powers of π and a root in its formula, is left open. -/
structure Response where
  amplitudeSys : (mRedc : BitVec 32) → (mResonantFrequency : Rat) → (mLongEffectVol1 : BitVec 32) →
    (deviceMass locCoeff vLevel : Rat) → (i : Nat) → Rat

/-- The map, scaled to at most 1, unless something is not known or there is no acceleration. -/
def Object.bandwidthAmplitudes (response : Response) (x : Object) (deviceMass locCoeff : Rat) : Option (List Rat) :=
  if deviceMass = 0 ∨ locCoeff = 0 then none
  else if x.rest.mRedc = 0 then none
  else
    let amplitudes := (List.range pwleBwMapSize).map fun i =>
      response.amplitudeSys x.rest.mRedc x.members.mResonantFrequency x.members.mLongEffectVol.v1 deviceMass locCoeff
        (x.members.pwleMaxLevelLimitMap i) i
    let maxAsys := amplitudes.foldl (fun top amplitude => if top < amplitude then amplitude else top) 0
    if 0 < maxAsys then some (amplitudes.map fun amplitude => ⌊amplitude / maxAsys * 100⌋ / 100) else none

def Object.generateBandwidthAmplitudeMap (response : Response) (x : Object) (deviceMass locCoeff : Rat) :
    List Rat × Object :=
  match x.bandwidthAmplitudes response deviceMass locCoeff with
  | none => ([], x)
  | some bandwidthAmplitudeMap => (bandwidthAmplitudeMap, { x with rest.mGenerateBandwidthAmplitudeMapDone := true })

/-! ### The constructor -/

/-- What `HwApi` and `HwCal` do during the construction. A value that is left in a local variable of the constructor
is given as it is found there, whether or not the call succeeds. The levels are read into members: a call that fails
leaves them as they were. -/
structure Setup where
  f0 : Option (BitVec 32)
  redc : Option (BitVec 32)
  longFrequencyShift : Int
  calVer : BitVec 32
  volLevels : Fin 6 → BitVec 32
  tickVolLevels : Option VolLevels
  clickVolLevels : Option VolLevels
  longVolLevels : Option VolLevels
  effectCount : Nat
  effectDuration : Nat → Option (BitVec 32)
  sizeProbe : Probe
  availablePwleSegments : Option (BitVec 32)
  limitProbe : Probe
  deviceMass : Rat
  locCoeff : Rat
  isChirpEnabled : Bool
  /-- What lies behind the two vectors. -/
  behindDurations : Nat → BitVec 32
  behindLimits : Nat → Rat

def resonantFrequencyDefault : Rat := 145

def waveformEffectLevelMinimum : Int := 4

/-- The members that have an initialiser or a constructor, and the variables that are set when the process starts. -/
def Object.allocated (actuator : Actuator) (hw : Setup) (memory : Object) : Object :=
  { memory with
    members.mEffectDurations := hw.behindDurations
    members.mActiveId := -1
    members.pwleMaxLevelLimitMap := fun i => if i < pwleBwMapSize then actuator.maxLevel else hw.behindLimits i
    rest.mRedc := 0
    rest.mBandwidthAmplitudeMap := []
    rest.configHapticAlsaDeviceDone := false }

def Setup.f0Offset (hw : Setup) : BitVec 32 :=
  if 0 < hw.longFrequencyShift then BitVec.ofInt 32 (hw.longFrequencyShift * 2 ^ 14)
  else if hw.longFrequencyShift < 0 then BitVec.ofInt 32 (2 ^ 24 - hw.longFrequencyShift.natAbs * 2 ^ 14)
  else 0

def Object.readCalibration (hw : Setup) (x : Object) : Object :=
  { x with
    members.mResonantFrequency := match hw.f0 with
      | some caldata => caldata.toNat / 2 ^ 14
      | none => resonantFrequencyDefault
    members.mF0Offset := hw.f0Offset
    rest.mRedc := hw.redc.getD x.rest.mRedc }

/-- The difference of the levels is taken in 32 bits. -/
def Setup.clickLevels (hw : Setup) : VolLevels where
  v0 := BitVec.ofInt 32 (max
    (lround ((hw.volLevels 0).toNat - (hw.volLevels 4 - hw.volLevels 0).toNat / 4)) waveformEffectLevelMinimum)
  v1 := hw.volLevels 4

def Object.readVolLevels (hw : Setup) (x : Object) : Object :=
  if hw.calVer = 1 then
    { x with
      members.mClickEffectVol := hw.clickLevels
      members.mTickEffectVol := hw.clickLevels
      members.mLongEffectVol := ⟨0, hw.volLevels 5⟩ }
  else
    { x with
      members.mTickEffectVol := hw.tickVolLevels.getD x.members.mTickEffectVol
      members.mClickEffectVol := hw.clickVolLevels.getD x.members.mClickEffectVol
      members.mLongEffectVol := hw.longVolLevels.getD x.members.mLongEffectVol }

/-- In samples of 48 kHz, rounded up to milliseconds; 0 if it is not known. -/
def durationMs : Option (BitVec 32) → BitVec 32
  | some effectDuration => BitVec.ofInt 32 ⌈(effectDuration.toNat / 48 : Rat)⌉
  | none => 0

def Object.readDurations (hw : Setup) (x : Object) : Object :=
  { x with
    members.mEffectDurations := fun i =>
      if i < hw.effectCount then durationMs (hw.effectDuration i) else x.members.mEffectDurations i }

def Object.initCompositionSizeMax (hw : Setup) (x : Object) : Object :=
  let result := x.getPwleCompositionSizeMax hw.sizeProbe hw.availablePwleSegments
  match result.1 with
  | .ok _ => result.2
  | .error _ => { result.2 with members.mCompositionSizeMax := composePwleSizeLimit.toInt }

/-- `memory` is what the members hold before. The writes to the driver depend on no member and are left out. -/
def construct (response : Response) (actuator : Actuator) (hw : Setup) (memory : Object) : Object :=
  let x := memory.allocated actuator hw
  let x := x.readCalibration hw
  let x := x.readVolLevels hw
  let x := x.readDurations hw
  let x := x.initCompositionSizeMax hw
  let x := x.createPwleMaxLevelLimitMap actuator hw.limitProbe
  let x := { x with rest.mGenerateBandwidthAmplitudeMapDone := false }
  let generated := x.generateBandwidthAmplitudeMap response hw.deviceMass hw.locCoeff
  { generated.2 with
    rest.mBandwidthAmplitudeMap := generated.1
    members.mIsUnderExternalControl := false
    members.mIsChirpEnabled := hw.isChirpEnabled }

/-! ### Methods that start no vibration -/

inductive QueryWrite where
  | setEffectScale (value : BitVec 32)
  | setGpioRiseIndex (value : BitVec 32)
  | setGpioRiseScale (value : BitVec 32)
  | setGpioFallIndex (value : BitVec 32)
  | setGpioFallScale (value : BitVec 32)
  deriving DecidableEq, Repr

inductive Answer where
  | nothing
  | capabilities (value : Capabilities)
  | number (value : Rat)
  | amplitudes (value : List Rat)
  | braking (value : List Int)

structure Answered where
  status : Status
  answer : Answer
  writes : List QueryWrite

def refuse (status : Status) : Answered := ⟨status, .nothing, []⟩

section Methods

variable (num : Numbers) (response : Response) (x : Object) (probe : Probe)

/-- The methods that return a constant where there is a capability. -/
def Object.whenCapable (has : Capabilities → Bool) (answer : Answer) : Answered × Object :=
  let capabilities := x.getCapabilities probe
  (if has capabilities.1 then ⟨.ok, answer, []⟩ else refuse .unsupportedOperation, capabilities.2)

def Object.getFrequencyResolution : Answered × Object :=
  x.whenCapable probe (·.frequencyControl) (.number pwleFrequencyResolutionHz)

def Object.getFrequencyMinimum : Answered × Object :=
  x.whenCapable probe (·.frequencyControl) (.number pwleFrequencyMinHz)

def Object.getPwlePrimitiveDurationMax : Answered × Object :=
  x.whenCapable probe (·.composePwleEffects) (.number composePwlePrimitiveDurationMaxMs)

def Object.getSupportedBraking : Answered × Object :=
  x.whenCapable probe (·.composePwleEffects) (.braking [0, 1])

def Object.getBandwidthAmplitudeMap (deviceMass locCoeff : Rat) : Answered × Object :=
  let capabilities := x.getCapabilities probe
  if capabilities.1.frequencyControl then
    let x := capabilities.2
    let generated :=
      if x.rest.mGenerateBandwidthAmplitudeMapDone then (x.rest.mBandwidthAmplitudeMap, x)
      else x.generateBandwidthAmplitudeMap response deviceMass locCoeff
    (⟨if generated.1 = [] then .illegalState else .ok, .amplitudes generated.1, []⟩,
      { generated.2 with rest.mBandwidthAmplitudeMap := generated.1 })
  else (refuse .unsupportedOperation, capabilities.2)

def Object.setAmplitude (amplitude : Rat) (written : Bool) : Answered :=
  if amplitude ≤ 0 ∨ 1 < amplitude then refuse .illegalArgument
  else if x.members.mIsUnderExternalControl then refuse .unsupportedOperation
  else ⟨if written then .ok else .illegalState, .nothing,
    [.setEffectScale ((num.amplitudeToScale amplitude 1).setWidth 32)]⟩

def Object.getPrimitiveDuration (primitive : CompositePrimitive) : Answered :=
  if primitive ≠ .noop then
    match getPrimitiveDetails primitive with
    | .error status => refuse status
    | .ok effectIndex => ⟨.ok, .number (x.members.mEffectDurations effectIndex.toNat).toNat, []⟩
  else ⟨.ok, .number 0, []⟩

/-- The id is that of the rising edge, 0, or of the falling edge, 1. -/
def Object.alwaysOnEnable (id : Int) (effect : HapticEffect) (strength : EffectStrength) : Answered :=
  match x.members.getSimpleDetails effect strength with
  | .error status => refuse status
  | .ok d =>
    let scale := (num.amplitudeToScale d.volLevel.toNat voltageScaleMax.toNat).setWidth 32
    if id = 0 then ⟨.ok, .nothing, [.setGpioRiseIndex d.effectIndex, .setGpioRiseScale scale]⟩
    else if id = 1 then ⟨.ok, .nothing, [.setGpioFallIndex d.effectIndex, .setGpioFallScale scale]⟩
    else refuse .unsupportedOperation

def alwaysOnDisable (id : Int) : Answered :=
  if id = 0 then ⟨.ok, .nothing, [.setGpioRiseIndex 0]⟩
  else if id = 1 then ⟨.ok, .nothing, [.setGpioFallIndex 0]⟩
  else refuse .unsupportedOperation

def getQFactor (q : Option (BitVec 32)) : Answered :=
  match q with
  | some caldata => ⟨.ok, .number (caldata.toNat / 2 ^ 16), []⟩
  | none => refuse .illegalState

end Methods

inductive Query where
  | getCapabilities
  | setAmplitude (amplitude : Rat)
  | getPrimitiveDuration (primitive : CompositePrimitive)
  | alwaysOnEnable (id : Int) (effect : HapticEffect) (strength : EffectStrength)
  | alwaysOnDisable (id : Int)
  | getResonantFrequency
  | getQFactor
  | getFrequencyResolution
  | getFrequencyMinimum
  | getBandwidthAmplitudeMap
  | getPwlePrimitiveDurationMax
  | getPwleCompositionSizeMax
  | getSupportedBraking
  /-- `getSupportedEffects` and the others that always return the same. -/
  | constant

structure CallEnv where
  /-- Tasks that make a step before it. -/
  before : List Nat
  outcomes : Nat → Outcome
  /-- Whether the PCM of a card and a device can be opened. -/
  opens : Int → Int → Bool
  probe : Probe
  availablePwleSegments : Option (BitVec 32)
  q : Option (BitVec 32)
  deviceMass : Rat
  locCoeff : Rat
  scaled : Bool

def Object.query (num : Numbers) (response : Response) (x : Object) (q : Query) (env : CallEnv) : Answered × Object :=
  match q with
  | .getCapabilities =>
    let capabilities := x.getCapabilities env.probe
    (⟨.ok, .capabilities capabilities.1, []⟩, capabilities.2)
  | .setAmplitude amplitude => (x.setAmplitude num amplitude env.scaled, x)
  | .getPrimitiveDuration primitive => (x.getPrimitiveDuration primitive, x)
  | .alwaysOnEnable id effect strength => (x.alwaysOnEnable num id effect strength, x)
  | .alwaysOnDisable id => (alwaysOnDisable id, x)
  | .getResonantFrequency => (⟨.ok, .number x.members.mResonantFrequency, []⟩, x)
  | .getQFactor => (getQFactor env.q, x)
  | .getFrequencyResolution => x.getFrequencyResolution env.probe
  | .getFrequencyMinimum => x.getFrequencyMinimum env.probe
  | .getBandwidthAmplitudeMap => x.getBandwidthAmplitudeMap response env.probe env.deviceMass env.locCoeff
  | .getPwlePrimitiveDurationMax => x.getPwlePrimitiveDurationMax env.probe
  | .getPwleCompositionSizeMax =>
    let result := x.getPwleCompositionSizeMax env.probe env.availablePwleSegments
    (match result.1 with
      | .ok maxSize => ⟨.ok, .number maxSize.toInt, []⟩
      | .error status => refuse status, result.2)
  | .getSupportedBraking => x.getSupportedBraking env.probe
  | .constant => (⟨.ok, .nothing, []⟩, x)

/-- The methods that call `getCapabilities`. -/
def Query.asksCapabilities : Query → Bool
  | .getCapabilities | .getFrequencyResolution | .getFrequencyMinimum | .getBandwidthAmplitudeMap
  | .getPwlePrimitiveDurationMax | .getPwleCompositionSizeMax | .getSupportedBraking => true
  | _ => false

def Object.asked (x : Object) (q : Query) (probe : Probe) : Object :=
  if q.asksCapabilities then (x.getCapabilities probe).2 else x

/-- Besides asking for the capabilities, a query changes the size of compositions and the map at most. -/
theorem Object.query_leaves (num : Numbers) (response : Response) (x : Object) (q : Query) (env : CallEnv) :
    ∃ mCompositionSizeMax mBandwidthAmplitudeMap mGenerateBandwidthAmplitudeMapDone,
      (x.query num response q env).2 =
        ⟨{ (x.asked q env.probe).members with mCompositionSizeMax },
          { (x.asked q env.probe).rest with mBandwidthAmplitudeMap, mGenerateBandwidthAmplitudeMapDone }⟩ := by
  cases q with
  | getBandwidthAmplitudeMap =>
    simp only [Object.query, Object.getBandwidthAmplitudeMap, Object.generateBandwidthAmplitudeMap]
    split
    · split
      · exact ⟨_, _, _, rfl⟩
      · split <;> exact ⟨_, _, _, rfl⟩
    · exact ⟨_, _, _, rfl⟩
  | getPwleCompositionSizeMax =>
    simp only [Object.query, Object.getPwleCompositionSizeMax]
    split
    · split <;> exact ⟨_, _, _, rfl⟩
    · exact ⟨_, _, _, rfl⟩
  | _ => exact ⟨_, _, _, rfl⟩

/-! ### The service -/

structure Service where
  world : World
  rest : Rest

def Object.serve (x : Object) : Service := ⟨World.start x.members, x.rest⟩

inductive ApiCall where
  | request (r : Request)
  | query (q : Query)

/-- What a caller and the driver see of a call. The log has all writes for requests up to then. -/
structure Seen where
  status : Status
  writes : List QueryWrite
  log : List Entry
  deriving DecidableEq, Repr

/-- The outcomes of a request that opens this PCM. -/
def CallEnv.outcome (env : CallEnv) (card device : Int) (n : Nat) : Outcome :=
  { env.outcomes n with pcm := env.opens card device && (env.outcomes n).pcm }

def Service.call (num : Numbers) (response : Response) (s : Service) : ApiCall × CallEnv → Seen × Service
  | (.request r, env) =>
    let result := exec perform (env.outcome s.rest.mCard s.rest.mDevice) (r.program num) 0
      { s.world.progress env.before with request := r }
    (⟨result.1, [], result.2.log⟩, ⟨result.2, s.rest⟩)
  | (.query q, env) =>
    let w := s.world.progress env.before
    let result := Object.query num response ⟨w.members, s.rest⟩ q env
    (⟨result.1.status, result.1.writes, w.log⟩, ⟨{ w with members := result.2.members }, result.2.rest⟩)

def Service.seen (num : Numbers) (response : Response) : Service → List (ApiCall × CallEnv) → List Seen
  | _, [] => []
  | s, call :: calls => (s.call num response call).1 :: Service.seen num response (s.call num response call).2 calls

/-! ### What calls return -/

/-- A request with all that it returns: `perform` has the time of the effect besides its status. -/
def Request.returns (num : Numbers) : Request → Call (Status × Answer)
  | .perform effect strength => do
    let result ← performEffect num effect strength
    pure (result.1, .number result.2.toInt)
  | r => do
    let status ← r.program num
    pure (status, .nothing)

/-- The answer to a call, if it is the next one. -/
def Service.answer (num : Numbers) (response : Response) (s : Service) : ApiCall × CallEnv → Answer
  | (.request r, env) =>
    (exec perform (env.outcome s.rest.mCard s.rest.mDevice) (r.returns num) 0
      { s.world.progress env.before with request := r }).1.2
  | (.query q, env) => (Object.query num response ⟨(s.world.progress env.before).members, s.rest⟩ q env).1.answer

def Service.answers (num : Numbers) (response : Response) : Service → List (ApiCall × CallEnv) → List Answer
  | _, [] => []
  | s, call :: calls =>
    s.answer num response call :: Service.answers num response (s.call num response call).2 calls

theorem Request.exec_returns {Out World : Type} {react : (a : Act) → Out → World → Reply a × World} {io : Nat → Out}
    (num : Numbers) (r : Request) (n : Nat) (w : World) :
    exec react io (r.program num) n w =
      ((exec react io (r.returns num) n w).1.1, (exec react io (r.returns num) n w).2) := by
  have plain (same : r.returns num = r.program num >>= fun status => .ret (status, .nothing)) :
      exec react io (r.program num) n w =
        ((exec react io (r.returns num) n w).1.1, (exec react io (r.returns num) n w).2) := by
    rw [same, exec_map]
  cases r with
  | perform effect strength =>
    have whole : exec react io (Request.returns num (.perform effect strength)) n w = _ :=
      exec_map (fun result => (result.1, Answer.number result.2.toInt)) (performEffect num effect strength) n w
    rw [whole]
    exact exec_map Prod.fst (performEffect num effect strength) n w
  | _ => exact plain rfl

end Pdx215.Vibrator
