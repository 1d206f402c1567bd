import Pdx215.Vibrator.Handles

/-! When the construction of `Vibrator` depends on what was in its memory. -/
namespace Pdx215.Vibrator

open Effect Fields

/-! ### The constructor -/

/-- The numbers in the line of the device, if this call of `getCapabilities` looks for it and finds it. -/
def Probe.found (probe : Probe) : Option (Option Int × Option Int) :=
  if probe.hasAspEnable then none else findHapticAlsaDevice probe.procSndPcm

def Setup.found (hw : Setup) : Option (Option Int × Option Int) := hw.sizeProbe.found.or hw.limitProbe.found

def Object.withDevice (x : Object) : Option (Option Int × Option Int) → Object
  | none => x
  | some (card, device) =>
    { x with
      members.mHasHapticAlsaDevice := true
      rest.mCard := card.getD x.rest.mCard
      rest.mDevice := device.getD x.rest.mDevice
      rest.configHapticAlsaDeviceDone := true }

def Setup.sizeMax (hw : Setup) (chirp : Bool) : Int :=
  if hw.sizeProbe.hasPwle && chirp then
    match hw.availablePwleSegments with
    | none => composePwleSizeLimit.toInt
    | some segments => (if composePwleSizeLimit < segments then composePwleSizeLimit else segments).toInt
  else composePwleSizeLimit.toInt

def Setup.limits (hw : Setup) (actuator : Actuator) (chirp : Bool) (limits : Nat → Rat) : Nat → Rat :=
  if hw.limitProbe.hasPwle && chirp then setLimits limits actuator.discretePwleMaxLevels else limits

section Construction

variable {response : Response} {actuator : Actuator} {hw : Setup} (x : Object)

theorem getCapabilities_searching {probe : Probe} (searching : x.rest.configHapticAlsaDeviceDone = false) :
    (x.getCapabilities probe).2 = x.withDevice probe.found := by
  cases asp : probe.hasAspEnable <;> cases found : findHapticAlsaDevice probe.procSndPcm <;>
    simp [Object.getCapabilities, Object.hasExternalControl, Object.hasHapticAlsaDevice, Probe.found,
      Object.withDevice,
      searching, asp, found]

theorem getCapabilities_done {probe : Probe} (done : x.rest.configHapticAlsaDeviceDone = true) :
    (x.getCapabilities probe).2 = x := by
  cases asp : probe.hasAspEnable <;>
    simp [Object.getCapabilities, Object.hasExternalControl, Object.hasHapticAlsaDevice, done, asp]

theorem withDevice_chirp (found : Option (Option Int × Option Int)) :
    (x.withDevice found).members.mIsChirpEnabled = x.members.mIsChirpEnabled := by
  cases found <;> rfl

theorem getCapabilities_chirp (probe : Probe) :
    (x.getCapabilities probe).1.composePwleEffects = (probe.hasPwle && x.members.mIsChirpEnabled) ∧
    (x.getCapabilities probe).1.frequencyControl = (probe.hasPwle && x.members.mIsChirpEnabled) := by
  have chirp : (x.getCapabilities probe).2.members.mIsChirpEnabled = x.members.mIsChirpEnabled := by
    cases done : x.rest.configHapticAlsaDeviceDone with
    | false => rw [getCapabilities_searching x done, withDevice_chirp]
    | true => rw [getCapabilities_done x done]
  exact ⟨congrArg (probe.hasPwle && ·) chirp, congrArg (probe.hasPwle && ·) chirp⟩

theorem initCompositionSizeMax_eq :
    x.initCompositionSizeMax hw =
      { (x.getCapabilities hw.sizeProbe).2 with
        members.mCompositionSizeMax := hw.sizeMax x.members.mIsChirpEnabled } := by
  simp only [Object.initCompositionSizeMax, Object.getPwleCompositionSizeMax, Setup.sizeMax,
    (getCapabilities_chirp x hw.sizeProbe).1]
  cases hw.sizeProbe.hasPwle && x.members.mIsChirpEnabled <;> cases hw.availablePwleSegments <;> rfl

theorem createPwleMaxLevelLimitMap_eq :
    x.createPwleMaxLevelLimitMap actuator hw.limitProbe =
      { (x.getCapabilities hw.limitProbe).2 with
        members.pwleMaxLevelLimitMap := hw.limits actuator x.members.mIsChirpEnabled
          (x.getCapabilities hw.limitProbe).2.members.pwleMaxLevelLimitMap } := by
  simp only [Object.createPwleMaxLevelLimitMap, Setup.limits, (getCapabilities_chirp x hw.limitProbe).2]
  cases hw.limitProbe.hasPwle && x.members.mIsChirpEnabled <;> rfl

theorem probes_eq (searching : x.rest.configHapticAlsaDeviceDone = false) :
    (x.initCompositionSizeMax hw).createPwleMaxLevelLimitMap actuator hw.limitProbe =
      { x.withDevice hw.found with
        members.mCompositionSizeMax := hw.sizeMax x.members.mIsChirpEnabled
        members.pwleMaxLevelLimitMap :=
          hw.limits actuator x.members.mIsChirpEnabled x.members.pwleMaxLevelLimitMap } := by
  rw [createPwleMaxLevelLimitMap_eq, initCompositionSizeMax_eq, getCapabilities_searching x searching]
  cases first : hw.sizeProbe.found with
  | none =>
    have second : hw.found = hw.limitProbe.found := by rw [Setup.found, first, Option.none_or]
    rw [getCapabilities_searching _ (by exact searching), second]
    cases hw.limitProbe.found <;> rfl
  | some line =>
    rw [getCapabilities_done _ rfl, Setup.found, first]
    rfl

/-- The members that are set before `getCapabilities` is called. -/
def Object.calibrated (actuator : Actuator) (hw : Setup) (memory : Object) : Object :=
  (((memory.allocated actuator hw).readCalibration hw).readVolLevels hw).readDurations hw

def Object.finish (response : Response) (hw : Setup) (x : Object) : Object :=
  let generated :=
    Object.generateBandwidthAmplitudeMap response { x with rest.mGenerateBandwidthAmplitudeMapDone := false }
      hw.deviceMass hw.locCoeff
  { generated.2 with
    rest.mBandwidthAmplitudeMap := generated.1
    members.mIsUnderExternalControl := false
    members.mIsChirpEnabled := hw.isChirpEnabled }

theorem calibrated_searching (memory : Object) :
    (memory.calibrated actuator hw).rest.configHapticAlsaDeviceDone = false := by
  simp only [Object.calibrated, Object.readVolLevels]
  split <;> rfl

theorem calibrated_chirp (memory : Object) :
    (memory.calibrated actuator hw).members.mIsChirpEnabled = memory.members.mIsChirpEnabled := by
  simp only [Object.calibrated, Object.readVolLevels]
  split <;> rfl

theorem calibrated_limits (memory : Object) :
    (memory.calibrated actuator hw).members.pwleMaxLevelLimitMap =
      fun i => if i < pwleBwMapSize then actuator.maxLevel else hw.behindLimits i := by
  simp only [Object.calibrated, Object.readVolLevels]
  split <;> rfl

def Object.prepared (actuator : Actuator) (hw : Setup) (memory : Object) : Object :=
  { (memory.calibrated actuator hw).withDevice hw.found with
    members.mCompositionSizeMax := hw.sizeMax memory.members.mIsChirpEnabled
    members.pwleMaxLevelLimitMap := hw.limits actuator memory.members.mIsChirpEnabled
      fun i => if i < pwleBwMapSize then actuator.maxLevel else hw.behindLimits i }

theorem construct_eq (memory : Object) :
    construct response actuator hw memory = (memory.prepared actuator hw).finish response hw := by
  have probes : ((memory.calibrated actuator hw).initCompositionSizeMax hw).createPwleMaxLevelLimitMap actuator
      hw.limitProbe = _ := probes_eq _ (calibrated_searching memory)
  rw [calibrated_chirp, calibrated_limits] at probes
  exact congrArg (Object.finish response hw) probes

theorem finish_members : (x.finish response hw).members =
    { x.members with mIsUnderExternalControl := false, mIsChirpEnabled := hw.isChirpEnabled } := by
  simp only [Object.finish, generateBandwidthAmplitudeMap_members]

theorem finish_assigns (h : Option Nat) (control chirp done : Bool) :
    Object.finish response hw
      { x with
        members.mHapticPcm := h
        members.mIsUnderExternalControl := control
        members.mIsChirpEnabled := chirp
        rest.mGenerateBandwidthAmplitudeMapDone := done } = (x.finish response hw).setPcm h := by
  have same : Object.bandwidthAmplitudes response
      { x with
        members.mHapticPcm := h
        members.mIsUnderExternalControl := control
        members.mIsChirpEnabled := chirp
        rest.mGenerateBandwidthAmplitudeMapDone := false } hw.deviceMass hw.locCoeff =
      Object.bandwidthAmplitudes response { x with rest.mGenerateBandwidthAmplitudeMapDone := false } hw.deviceMass
        hw.locCoeff := rfl
  simp only [Object.finish, Object.generateBandwidthAmplitudeMap, same]
  split <;> rfl

end Construction

/-! ### Where everything is assigned -/

/-- All levels are read, the number of segments does not lower the size, there is no table of limits, and the numbers
of the PCM device are found. The second and the third matter only where `pwle` is there. -/
structure Setup.Determined (hw : Setup) (actuator : Actuator) : Prop where
  levels : hw.calVer = 1 ∨ (∃ tick, hw.tickVolLevels = some tick) ∧ (∃ click, hw.clickVolLevels = some click) ∧
    ∃ long, hw.longVolLevels = some long
  size : hw.sizeProbe.hasPwle = true → ∀ segments, hw.availablePwleSegments = some segments →
    composePwleSizeLimit ≤ segments
  limits : hw.limitProbe.hasPwle = true → actuator = .other
  device : ∃ card device, hw.found = some (some card, some device)

section Determined

variable {num : Numbers} {response : Response} {actuator : Actuator} {hw : Setup}
  (determined : hw.Determined actuator)

include determined

theorem Setup.Determined.sizeMax_eq (chirp : Bool) : hw.sizeMax chirp = composePwleSizeLimit.toInt := by
  simp only [Setup.sizeMax]
  split
  · rename_i capable
    cases available : hw.availablePwleSegments with
    | none => rfl
    | some segments =>
      have enough := determined.size (Bool.and_eq_true_iff.mp capable).1 segments available
      simp only
      split
      · rfl
      · rename_i few
        rw [BitVec.le_antisymm (BitVec.not_lt.mp few) enough]
  · rfl

theorem Setup.Determined.limits_eq (chirp : Bool) (limits : Nat → Rat) :
    hw.limits actuator chirp limits = limits := by
  simp only [Setup.limits]
  split
  · rename_i capable
    rw [determined.limits (Bool.and_eq_true_iff.mp capable).1]
    rfl
  · rfl

/-- What is still open is assigned later in the constructor, except for the PCM handle. -/
theorem Setup.Determined.prepared (memory memory' : Object) :
    ∃ control chirp done, memory'.prepared actuator hw =
      { memory.prepared actuator hw with
        members.mHapticPcm := memory'.members.mHapticPcm
        members.mIsUnderExternalControl := control
        members.mIsChirpEnabled := chirp
        rest.mGenerateBandwidthAmplitudeMapDone := done } := by
  obtain ⟨card, device, found⟩ := determined.device
  refine ⟨memory'.members.mIsUnderExternalControl, memory'.members.mIsChirpEnabled,
    memory'.rest.mGenerateBandwidthAmplitudeMapDone, ?_⟩
  simp only [Object.prepared, determined.sizeMax_eq, determined.limits_eq, found, Object.calibrated,
    Object.readVolLevels]
  by_cases version : hw.calVer = 1
  · simp only [if_pos version]
    rfl
  · obtain ⟨⟨tick, hasTick⟩, ⟨click, hasClick⟩, long, hasLong⟩ := determined.levels.resolve_left version
    simp only [if_neg version, hasTick, hasClick, hasLong]
    rfl

theorem Setup.Determined.constructs (memory memory' : Object) :
    construct response actuator hw memory' =
      (construct response actuator hw memory).setPcm memory'.members.mHapticPcm := by
  obtain ⟨control, chirp, done, same⟩ := determined.prepared memory memory'
  rw [construct_eq, construct_eq, same, finish_assigns]

theorem Setup.Determined.ready (memory : Object) : (construct response actuator hw memory).members.Ready := by
  obtain ⟨card, device, found⟩ := determined.device
  rw [construct_eq, finish_members]
  refine ⟨rfl, ?_⟩
  simp only [Object.prepared, found]
  rfl

theorem Setup.Determined.alike (memory memory' : Object) :
    (construct response actuator hw memory).serve.Alike
      (construct response actuator hw memory').serve := by
  rw [determined.constructs memory memory']
  exact ⟨.inr ⟨⟨rfl, (determined.ready memory).2⟩, memory'.members.mHapticPcm, rfl⟩, rfl⟩

end Determined

/-- Whatever is in the memory, the maps and the size are the same, and so is all that is seen of later calls. -/
def Independent (num : Numbers) (response : Response) (actuator : Actuator) (hw : Setup) : Prop :=
  ∀ memory memory' : Object,
    (construct response actuator hw memory').members.pwleMaxLevelLimitMap =
      (construct response actuator hw memory).members.pwleMaxLevelLimitMap ∧
    (construct response actuator hw memory').members.mCompositionSizeMax =
      (construct response actuator hw memory).members.mCompositionSizeMax ∧
    (construct response actuator hw memory').rest.mBandwidthAmplitudeMap =
      (construct response actuator hw memory).rest.mBandwidthAmplitudeMap ∧
    ∀ calls, (construct response actuator hw memory').serve.seen num response calls =
      (construct response actuator hw memory).serve.seen num response calls

theorem Setup.Determined.independent {num : Numbers} {response : Response} {actuator : Actuator} {hw : Setup}
    (determined : hw.Determined actuator) : Independent num response actuator hw := by
  intro memory memory'
  refine ⟨?_, ?_, ?_, (determined.alike memory memory').seen⟩
  all_goals
    rw [determined.constructs memory memory']
    rfl

/-! ### Where something is not -/

section Open

variable {num : Numbers} {response : Response} {actuator : Actuator} {hw : Setup}

theorem construct_sizeMax (memory : Object) :
    (construct response actuator hw memory).members.mCompositionSizeMax =
      hw.sizeMax memory.members.mIsChirpEnabled := by
  rw [construct_eq, finish_members]
  rfl

theorem construct_limits (memory : Object) :
    (construct response actuator hw memory).members.pwleMaxLevelLimitMap =
      hw.limits actuator memory.members.mIsChirpEnabled
        fun i => if i < pwleBwMapSize then actuator.maxLevel else hw.behindLimits i := by
  rw [construct_eq, finish_members]
  rfl

/-- Memory in which the members that matter hold these values. -/
def Object.holding (chirp : Bool) (levels : VolLevels) (number : Int) : Object where
  members :=
    { mF0Offset := 0
      mTickEffectVol := levels
      mClickEffectVol := levels
      mLongEffectVol := levels
      mEffectDurations := fun _ => 0
      mCompositionSizeMax := 0
      mHapticPcm := none
      mHasHapticAlsaDevice := true
      mIsUnderExternalControl := false
      mResonantFrequency := 0
      mActiveId := 0
      mIsChirpEnabled := chirp
      pwleMaxLevelLimitMap := fun _ => 0 }
  rest := ⟨number, number, 0, [], false, false⟩

theorem Independent.size (independent : Independent num response actuator hw) (capable : hw.sizeProbe.hasPwle = true)
    {segments : BitVec 32} (available : hw.availablePwleSegments = some segments) :
    composePwleSizeLimit ≤ segments := by
  obtain ⟨-, size, -, -⟩ := independent (.holding true ⟨0, 0⟩ 0) (.holding false ⟨0, 0⟩ 0)
  rw [construct_sizeMax, construct_sizeMax] at size
  by_contra few
  have least : ¬ composePwleSizeLimit < segments := fun more => few (BitVec.le_of_lt more)
  have lowered : hw.sizeMax true = segments.toInt := by
    simp only [Setup.sizeMax, capable, available, Bool.and_self, if_true, if_neg least]
  have default : hw.sizeMax false = composePwleSizeLimit.toInt := by
    simp only [Setup.sizeMax, Bool.and_false, Bool.false_eq_true, if_false]
  have same : composePwleSizeLimit = segments := BitVec.toInt_inj.mp (default.symm.trans (size.trans lowered))
  exact few (BitVec.le_of_eq same)

theorem limitsBetween_congr {limits limits' : Nat → Rat} {i : Nat} (same : limits i = limits' i) (p q : Rat × Rat) :
    limitsBetween limits p q i = limitsBetween limits' p q i := by
  simp only [limitsBetween]
  generalize List.range _ = ks
  induction ks generalizing limits limits' with
  | nil => exact same
  | cons k ks ih =>
    apply ih
    simp only [Function.update_apply, same]

theorem limitsAlong_congr {limits limits' : Nat → Rat} {i : Nat} (same : limits i = limits' i)
    (points : List (Rat × Rat)) : limitsAlong limits points i = limitsAlong limits' points i := by
  induction points generalizing limits limits' with
  | nil => exact same
  | cons p points ih =>
    cases points with
    | nil => exact same
    | cons q points => exact ih (limitsBetween_congr same p q)

/-- A limit depends only on the one it replaces. -/
theorem setLimits_congr {limits limits' : Nat → Rat} {i : Nat} (same : limits i = limits' i)
    (points : List (Rat × Rat)) : setLimits limits points i = setLimits limits' points i := by
  match points with
  | [] => exact same
  | [p] => simp only [setLimits, Function.update_apply, same]
  | p :: q :: points => exact limitsAlong_congr same (p :: q :: points)

theorem setLimits_table (known : actuator ≠ .other) :
    ∃ i < pwleBwMapSize,
      setLimits (fun _ => actuator.maxLevel) actuator.discretePwleMaxLevels i ≠ actuator.maxLevel := by
  cases actuator with
  | luxshareIct081545 => exact ⟨144, by decide, by decide +kernel⟩
  | luxshareIctLtXlra1906d => exact ⟨169, by decide, by decide +kernel⟩
  | other => exact absurd rfl known

theorem Independent.limits (independent : Independent num response actuator hw)
    (capable : hw.limitProbe.hasPwle = true) : actuator = .other := by
  obtain ⟨limits, -⟩ := independent (.holding true ⟨0, 0⟩ 0) (.holding false ⟨0, 0⟩ 0)
  rw [construct_limits, construct_limits] at limits
  by_contra known
  obtain ⟨i, inside, differs⟩ := setLimits_table known
  have initial : (if i < pwleBwMapSize then actuator.maxLevel else hw.behindLimits i) = actuator.maxLevel :=
      if_pos inside
  have here := congrFun limits i
  simp only [Setup.limits, Object.holding, capable, Bool.and_true, Bool.and_false, Bool.false_eq_true, if_true,
    if_false, initial] at here
  exact differs (here.trans (setLimits_congr initial _)).symm

/-! A composition of one primitive at the lowest intensity shows the lower level of its kind of effect. -/

theorem lround_zero : lround 0 = 0 := by decide +kernel

theorem calc_zero (v : VolLevels) : v.calc 0 = v.v0 := by
  rw [VolLevels.calc, zero_mul, lround_zero, Int.zero_add]
  simp

theorem composeQueue_single (m : Members) {p : CompositePrimitive} {i : BitVec 32}
    (details : getPrimitiveDetails p = .ok i) :
    m.composeQueue [⟨0, p, 0⟩] =
      .ok ("" ++ ("" ++ toString i.toNat ++ "." ++ toString (m.intensityToVolLevel 0 i).toNat ++ ",") ++ "0") := by
  have sounds : p ≠ .noop := by
    rintro rfl
    cases details
  have scale : ¬ ((0 : Rat) < 0 ∨ (1 : Rat) < 0) := by decide
  have delay : ¬ (0 : Int) ≠ 0 := by decide
  have small (e : CompositeEffect) : ¬ composeSizeMax < [e].length := by
    change ¬ 127 < 1
    decide
  have effect : m.composeEffect ⟨0, p, 0⟩ =
      .ok ("" ++ toString i.toNat ++ "." ++ toString (m.intensityToVolLevel 0 i).toNat ++ ",") := by
    simp only [Members.composeEffect, if_neg scale, if_neg delay, if_pos sounds, details]
    rfl
  have heard : "" ++ ("" ++ toString i.toNat ++ "." ++ toString (m.intensityToVolLevel 0 i).toNat ++ ",") ≠ "" := by
    simp
  simp only [Members.composeQueue, Members.composeEffects, effect, if_neg (small _)]
  exact if_neg heard

def CallEnv.refusing : CallEnv where
  before := []
  outcomes := fun _ => ⟨[], fun _ => false, false, false⟩
  opens := fun _ _ => false
  probe := ⟨false, false, [], false⟩
  availablePwleSegments := none
  q := none
  deviceMass := 0
  locCoeff := 0
  scaled := false

theorem compose_refused {w : World} {composite : List CompositeEffect} {effectQueue : String}
    (queue : w.members.composeQueue composite = .ok effectQueue) (heard : effectQueue ≠ "") (card device : Int) :
    exec perform (CallEnv.refusing.outcome card device) (compose num composite) 0 w =
      (.illegalState, w.write (.setEffectQueue effectQueue) false) := by
  have looks : perform .look (CallEnv.refusing.outcome card device 0) w = (w.members, w) := rfl
  simp only [compose, load, exec, looks, queue, performEffectIndex, if_pos heard]
  rfl

theorem seen_compose {x : Object} {composite : List CompositeEffect} {effectQueue : String}
    (queue : (World.start x.members).members.composeQueue composite = .ok effectQueue) (heard : effectQueue ≠ "") :
    x.serve.seen num response [(.request (.compose composite), .refusing)] =
      [⟨.illegalState, [],
        [.service (.compose composite) (.setEffectQueue effectQueue) false false .deactivated 1]⟩] := by
  simp only [Service.seen, Service.call, Request.program]
  rw [compose_refused (by exact queue) heard]
  rfl

theorem toString_inj {a b : Nat} (same : toString a = toString b) : a = b := by
  have read := readNat_toString a
  rw [same, readNat_toString] at read
  exact (Option.some.inj read).symm

theorem Independent.level (independent : Independent num response actuator hw) {p : CompositePrimitive}
    {i : BitVec 32}
    (details : getPrimitiveDetails p = .ok i) (memory memory' : Object) :
    (construct response actuator hw memory').members.intensityToVolLevel 0 i =
      (construct response actuator hw memory).members.intensityToVolLevel 0 i := by
  obtain ⟨-, -, -, seen⟩ := independent memory memory'
  have same := seen [(.request (.compose [⟨0, p, 0⟩]), .refusing)]
  rw [seen_compose (composeQueue_single _ details) (by simp),
    seen_compose (composeQueue_single _ details) (by simp)] at same
  simp only [List.cons.injEq, Seen.mk.injEq, Entry.service.injEq, HwWrite.setEffectQueue.injEq, and_true,
    true_and] at same
  have level := toString_inj (by simpa using same)
  exact BitVec.eq_of_toNat_eq level

theorem construct_levels (response : Response) (actuator : Actuator) (version : hw.calVer ≠ 1) (memory : Object) :
    (construct response actuator hw memory).members.mTickEffectVol =
      hw.tickVolLevels.getD memory.members.mTickEffectVol ∧
    (construct response actuator hw memory).members.mClickEffectVol =
      hw.clickVolLevels.getD memory.members.mClickEffectVol ∧
    (construct response actuator hw memory).members.mLongEffectVol =
      hw.longVolLevels.getD memory.members.mLongEffectVol := by
  rw [construct_eq, finish_members]
  simp only [Object.prepared, Object.calibrated, Object.readVolLevels, if_neg version]
  cases hw.found <;> exact ⟨rfl, rfl, rfl⟩

theorem Independent.levels (independent : Independent num response actuator hw) :
    hw.calVer = 1 ∨ (∃ tick, hw.tickVolLevels = some tick) ∧ (∃ click, hw.clickVolLevels = some click) ∧
      ∃ long, hw.longVolLevels = some long := by
  by_cases version : hw.calVer = 1
  · exact .inl version
  obtain ⟨tick, click, long⟩ := construct_levels response actuator version (.holding false ⟨0, 0⟩ 0)
  obtain ⟨tick', click', long'⟩ := construct_levels response actuator version (.holding false ⟨1, 0⟩ 0)
  have known {levels : Option VolLevels} (same : (levels.getD ⟨1, 0⟩).calc 0 = (levels.getD ⟨0, 0⟩).calc 0) :
      ∃ level, levels = some level := by
    cases levels with
    | none => exact absurd ((calc_zero _).symm.trans (same.trans (calc_zero _))) (by decide)
    | some level => exact ⟨level, rfl⟩
  refine .inr ⟨known ?_, known ?_, known ?_⟩
  · have seen := independent.level (p := .lightTick) rfl (.holding false ⟨0, 0⟩ 0) (.holding false ⟨1, 0⟩ 0)
    change VolLevels.calc _ 0 = VolLevels.calc _ 0 at seen
    rwa [tick, tick'] at seen
  · have seen := independent.level (p := .click) rfl (.holding false ⟨0, 0⟩ 0) (.holding false ⟨1, 0⟩ 0)
    change VolLevels.calc _ 0 = VolLevels.calc _ 0 at seen
    rwa [click, click'] at seen
  · have seen := independent.level (p := .quickRise) rfl (.holding false ⟨0, 0⟩ 0) (.holding false ⟨1, 0⟩ 0)
    change VolLevels.calc _ 0 = VolLevels.calc _ 0 at seen
    rwa [long, long'] at seen

theorem setExternalControl_status (num : Numbers) {w : World} (ready : w.members.Ready) (opens : Bool) :
    (exec perform (fun _ => ⟨[], fun _ => true, false, opens⟩) (setExternalControl num true) 0 w).1 =
      if opens then .ok else .illegalState := by
  obtain ⟨⟨f0, tick, click, long, durations, size, pcm, has, flag, resonant, active, chirp, limits⟩, request, pcms,
    opened, tasks, launched, handle, log⟩ := w
  obtain ⟨control, device⟩ := ready
  cases control
  cases device
  cases opens <;> rfl

theorem finish_numbers (x : Object) :
    (x.finish response hw).rest.mCard = x.rest.mCard ∧ (x.finish response hw).rest.mDevice = x.rest.mDevice := by
  simp only [Object.finish, Object.generateBandwidthAmplitudeMap]
  split <;> exact ⟨rfl, rfl⟩

theorem calibrated_numbers (actuator : Actuator) (hw : Setup) (memory : Object) :
    (memory.calibrated actuator hw).rest.mCard = memory.rest.mCard ∧
      (memory.calibrated actuator hw).rest.mDevice = memory.rest.mDevice ∧
      (memory.calibrated actuator hw).members.mHasHapticAlsaDevice = memory.members.mHasHapticAlsaDevice := by
  simp only [Object.calibrated, Object.readVolLevels]
  split <;> exact ⟨rfl, rfl, rfl⟩

/-- Numbers that are not in the line stay as they were. -/
theorem construct_numbers (response : Response) (actuator : Actuator) (hw : Setup) (memory : Object) :
    (construct response actuator hw memory).rest.mCard = (hw.found.bind Prod.fst).getD memory.rest.mCard ∧
      (construct response actuator hw memory).rest.mDevice = (hw.found.bind Prod.snd).getD memory.rest.mDevice := by
  obtain ⟨card, device, -⟩ := calibrated_numbers actuator hw memory
  rw [construct_eq, (finish_numbers _).1, (finish_numbers _).2, ← card, ← device]
  simp only [Object.prepared]
  cases hw.found <;> exact ⟨rfl, rfl⟩

theorem construct_ready (response : Response) (actuator : Actuator) (hw : Setup) {memory : Object}
    (has : memory.members.mHasHapticAlsaDevice = true) : (construct response actuator hw memory).members.Ready := by
  obtain ⟨-, -, device⟩ := calibrated_numbers actuator hw memory
  rw [construct_eq, finish_members]
  refine ⟨rfl, ?_⟩
  simp only [Object.prepared]
  cases hw.found with
  | none => exact device.trans has
  | some line => rfl

def CallEnv.opening (card device : Int) : CallEnv :=
  { CallEnv.refusing with
    outcomes := fun _ => ⟨[], fun _ => true, false, true⟩
    opens := fun c d => decide (c = card ∧ d = device) }

theorem seen_setExternalControl {x : Object} (ready : x.members.Ready) (card device : Int) :
    (x.serve.seen num response [(.request (.setExternalControl true), .opening card device)]).map Seen.status =
      [if x.rest.mCard = card ∧ x.rest.mDevice = device then .ok else .illegalState] := by
  have outcome : (CallEnv.opening card device).outcome x.rest.mCard x.rest.mDevice =
      fun _ => ⟨[], fun _ => true, false, decide (x.rest.mCard = card ∧ x.rest.mDevice = device)⟩ := by
    funext n
    simp only [CallEnv.outcome, CallEnv.opening, Bool.and_true]
  have started : ({ World.start x.members with request := .setExternalControl true } : World).members.Ready :=
    ⟨rfl, ready.2⟩
  change [(exec perform ((CallEnv.opening card device).outcome x.rest.mCard x.rest.mDevice)
    (setExternalControl num true) 0 { World.start x.members with request := .setExternalControl true }).1] = _
  rw [outcome, setExternalControl_status num started]
  simp only [decide_eq_true_eq]

theorem Independent.numbers (independent : Independent num response actuator hw) {memory memory' : Object}
    (has : memory.members.mHasHapticAlsaDevice = true) (has' : memory'.members.mHasHapticAlsaDevice = true) :
    (construct response actuator hw memory').rest.mCard = (construct response actuator hw memory).rest.mCard ∧
      (construct response actuator hw memory').rest.mDevice = (construct response actuator hw memory).rest.mDevice := by
  obtain ⟨-, -, -, seen⟩ := independent memory memory'
  have statuses := congrArg (List.map Seen.status) (seen [(.request (.setExternalControl true),
    .opening (construct response actuator hw memory).rest.mCard
      (construct response actuator hw memory).rest.mDevice)])
  rw [seen_setExternalControl (construct_ready response actuator hw has'),
    seen_setExternalControl (construct_ready response actuator hw has)] at statuses
  simp only [and_self, if_true] at statuses
  by_contra differs
  rw [if_neg differs] at statuses
  cases statuses

theorem Independent.device (independent : Independent num response actuator hw) :
    ∃ card device, hw.found = some (some card, some device) := by
  obtain ⟨card, device⟩ := construct_numbers response actuator hw (.holding false ⟨0, 0⟩ 0)
  obtain ⟨card', device'⟩ := construct_numbers response actuator hw (.holding false ⟨0, 0⟩ 1)
  have same : _ ∧ _ := independent.numbers (rfl : (Object.holding false ⟨0, 0⟩ 0).members.mHasHapticAlsaDevice = true)
    (rfl : (Object.holding false ⟨0, 0⟩ 1).members.mHasHapticAlsaDevice = true)
  rw [card, device, card', device'] at same
  have known {number : Option Int} (same : number.getD 1 = number.getD 0) : ∃ n, number = some n := by
    cases number with
    | none => exact absurd same (by decide)
    | some n => exact ⟨n, rfl⟩
  obtain ⟨card, hasCard⟩ := known same.1
  obtain ⟨device, hasDevice⟩ := known same.2
  obtain ⟨line, found, first⟩ := Option.bind_eq_some_iff.mp hasCard
  rw [found] at hasDevice
  have second : line.2 = some device := hasDevice
  exact ⟨card, device, by rw [found, ← first, ← second]⟩

end Open

/-- The construction is independent of what was in the memory exactly if everything is determined. -/
theorem construction_independent_iff (num : Numbers) (response : Response) (actuator : Actuator) (hw : Setup) :
    Independent num response actuator hw ↔ hw.Determined actuator :=
  ⟨fun independent => ⟨independent.levels, fun capable _ => independent.size capable, independent.limits,
    independent.device⟩, fun determined => determined.independent⟩

namespace Sample

def response : Response := ⟨fun _ _ _ _ _ _ _ => 0⟩

def setup : Setup where
  f0 := none
  redc := none
  longFrequencyShift := 0
  calVer := 1
  volLevels := fun _ => 100
  tickVolLevels := none
  clickVolLevels := none
  longVolLevels := none
  effectCount := 0
  effectDuration := fun _ => none
  sizeProbe := ⟨true, true, [], true⟩
  availablePwleSegments := some 2
  limitProbe := ⟨true, true, [], true⟩
  deviceMass := 0
  locCoeff := 0
  isChirpEnabled := true
  behindDurations := fun _ => 0
  behindLimits := fun _ => 1

def memory (set : Bool) : Object :=
  { Object.holding set ⟨0, 0⟩ 0 with members.mHasHapticAlsaDevice := set }

def calls : List (ApiCall × CallEnv) :=
  [(.request (.composePwle (ramp ++ ramp ++ ramp)), .opening 1 1),
    (.request (.setExternalControl true), .opening 1 1)]

end Sample

/-- With flags that happen to be set, three segments are refused, and a PCM is opened that nobody has looked for. -/
theorem construction_reads_memory :
    (construct Sample.response .other Sample.setup (Sample.memory true)).members.mCompositionSizeMax = 2 ∧
    (construct Sample.response .other Sample.setup (Sample.memory false)).members.mCompositionSizeMax = 82 ∧
    ((construct Sample.response .other Sample.setup (Sample.memory true)).serve.seen Sample.numbers Sample.response
      Sample.calls).map Seen.status = [.illegalArgument, .illegalState] ∧
    ((construct Sample.response .other Sample.setup (Sample.memory false)).serve.seen Sample.numbers Sample.response
      Sample.calls).map Seen.status = [.ok, .ok] := by
  decide +kernel

end Pdx215.Vibrator
