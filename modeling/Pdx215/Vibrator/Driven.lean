import Pdx215.Lib.Refine
import Pdx215.Vibrator.Calibration
import Pdx215.Vibrator.HwApi

/-! The whole service: its construction and its calls on top of `HwApi` and `HwCal`. What the model of the methods
leaves to the environment, whether a write succeeds and what the driver has, is decided here by the streams. -/
namespace Pdx215.Vibrator

open Effect

def HwWrite.node : HwWrite → Node
  | .setGlobalScale _ => .digScale
  | .setF0Offset _ => .f0Offset
  | .setActivate _ => .activate
  | .setDuration _ => .duration
  | .setEffectIndex _ => .cpTriggerIndex
  | .setEffectQueue _ => .cpTriggerQueue
  | .setEffectScale _ => .cpDigScale
  | .setPwle _ => .pwle
  | .setAspEnable _ => .aspEnable

def HwWrite.text : HwWrite → String
  | .setGlobalScale value | .setF0Offset value | .setDuration value | .setEffectIndex value | .setEffectScale value =>
    toString value.toNat
  | .setEffectQueue value | .setPwle value => value
  | .setActivate value | .setAspEnable value => HwApi.boolText value

def QueryWrite.node : QueryWrite → Node
  | .setEffectScale _ => .cpDigScale
  | .setGpioRiseIndex _ => .gpio1RiseIndex
  | .setGpioRiseScale _ => .gpio1RiseDigScale
  | .setGpioFallIndex _ => .gpio1FallIndex
  | .setGpioFallScale _ => .gpio1FallDigScale

def QueryWrite.text : QueryWrite → String
  | .setEffectScale value | .setGpioRiseIndex value | .setGpioRiseScale value | .setGpioFallIndex value
  | .setGpioFallScale value => toString value.toNat

/-! ### Requests -/

/-- How a step of a task ends, if it is the end of the poll or the write. -/
structure TaskOutcome where
  poll : HwApi.Poll
  accepted : Bool

structure DriverOutcome where
  tasks : List (Nat × TaskOutcome)
  accepts : HwWrite → Bool
  pcm : Bool
  /-- For the task that an assignment waits for. -/
  waited : TaskOutcome

structure Driven where
  world : World
  api : HwApi

namespace Driven

/-- One step of `waitForComplete`. -/
def taskStep (s : Driven) (t : Nat × TaskOutcome) : Driven where
  world := s.world.taskStep t.1
  api := match s.world.tasks t.1 with
    | .polling => (s.api.poll .vibeState false t.2.poll).2
    | .polled => (s.api.set .activate (HwApi.boolText false) t.2.accepted).2
    | .deactivated | .done => s.api

def progress (s : Driven) (ts : List (Nat × TaskOutcome)) : Driven := ts.foldl taskStep s

def performNow (o : DriverOutcome) (s : Driven) : (a : Act) → Reply a × Driven
  | .write op =>
    let written := s.api.set op.node op.text (o.accepts op)
    (written.1, ⟨s.world.write op written.1, written.2⟩)
  | .hasAspEnable => (s.api.has .aspEnable, s)
  | .assign =>
    -- the old task polls and writes before it ends
    let ended := s.progress (List.replicate 3 (s.world.mAsyncHandle, o.waited))
    ((), ⟨s.world.assign, ended.api⟩)
  | .look => (s.world.members, s)
  | .pcmOpen => (o.pcm, { s with world := s.world.pcmOpen })
  | .pcmPrepare => (o.pcm, s)
  | .pcmStart => (o.pcm, s)
  | .pcmClose => ((), { s with world := s.world.pcmClose })
  | .setUnderExternalControl enabled =>
    ((), { s with world := s.world.modify fun m => { m with mIsUnderExternalControl := enabled } })
  | .setActiveId id => ((), { s with world := s.world.modify fun m => { m with mActiveId := id } })
  | .waitFor => (decide (s.world.tasks s.world.mAsyncHandle = .done), s)
  | .launch => ((), { s with world := s.world.launch })

def perform (a : Act) (o : DriverOutcome) (s : Driven) : Reply a × Driven := performNow o (s.progress o.tasks) a

end Driven

/-! ### Calls -/

def HwApi.probe (h : HwApi) (procSndPcm : List String) : Probe where
  hasEffectScale := h.has .cpDigScale
  hasAspEnable := h.has .aspEnable
  procSndPcm := procSndPcm
  hasPwle := h.has .pwle

def HwApi.getAvailablePwleSegments (h : HwApi) (content : String) : Option (BitVec 32) × HwApi :=
  let read := h.get .availablePwleSegments content 0
  (if read.1.1 then some read.1.2 else none, read.2)

structure DrivenEnv where
  before : List (Nat × TaskOutcome)
  outcomes : Nat → DriverOutcome
  opens : Int → Int → Bool
  procSndPcm : List String
  availablePwleSegments : String
  properties : Properties
  /-- For the writes of a query, by their position. -/
  accepts : Nat → Bool

def DrivenEnv.outcome (env : DrivenEnv) (card device : Int) (n : Nat) : DriverOutcome :=
  { env.outcomes n with pcm := env.opens card device && (env.outcomes n).pcm }

def DrivenEnv.answers (env : DrivenEnv) (mCalData : CalData) (h : HwApi) : CallEnv where
  before := env.before.map Prod.fst
  outcomes := fun _ => ⟨[], fun _ => false, false, false⟩
  opens := env.opens
  probe := h.probe env.procSndPcm
  availablePwleSegments := (h.getAvailablePwleSegments env.availablePwleSegments).1
  q := some (HwCal.mk mCalData env.properties).getQ
  deviceMass := (HwCal.mk mCalData env.properties).getDeviceMass
  locCoeff := (HwCal.mk mCalData env.properties).getLocCoeff
  scaled := h.writes .cpDigScale (env.accepts 0)

def HwApi.putAll (h : HwApi) (accepts : Nat → Bool) (ops : List QueryWrite) : HwApi :=
  ops.zipIdx.foldl (fun h op => (h.set op.1.node op.1.text (accepts op.2)).2) h

def HwApi.afterQuery (h : HwApi) (env : DrivenEnv) (x : Object) (q : Query) (ops : List QueryWrite) : HwApi :=
  let h' := h.putAll env.accepts ops
  match q with
  | .getPwleCompositionSizeMax =>
    if (x.getCapabilities (h.probe env.procSndPcm)).1.composePwleEffects then
      (h'.getAvailablePwleSegments env.availablePwleSegments).2
    else h'
  | _ => h'

structure Installed where
  world : World
  rest : Rest
  api : HwApi

def Installed.service (s : Installed) : Service := ⟨s.world, s.rest⟩

section Calls

variable (num : Numbers) (response : Response) (mCalData : CalData)

def Installed.call (s : Installed) : ApiCall × DrivenEnv → Seen × Installed
  | (.request r, env) =>
    let d := Driven.progress ⟨s.world, s.api⟩ env.before
    let result := exec Driven.perform (env.outcome s.rest.mCard s.rest.mDevice) (r.program num) 0
      { d with world := { d.world with request := r } }
    (⟨result.1, [], result.2.world.log⟩, ⟨result.2.world, s.rest, result.2.api⟩)
  | (.query q, env) =>
    let d := Driven.progress ⟨s.world, s.api⟩ env.before
    let result := Object.query num response ⟨d.world.members, s.rest⟩ q (env.answers mCalData d.api)
    (⟨result.1.status, result.1.writes, d.world.log⟩,
      ⟨{ d.world with members := result.2.members }, result.2.rest,
        d.api.afterQuery env ⟨d.world.members, s.rest⟩ q result.1.writes⟩)

def Installed.after (s : Installed) (calls : List (ApiCall × DrivenEnv)) : Installed :=
  calls.foldl (fun s call => (s.call num response mCalData call).2) s

def Installed.seen : Installed → List (ApiCall × DrivenEnv) → List Seen
  | _, [] => []
  | s, call :: calls =>
    (s.call num response mCalData call).1 :: Installed.seen (s.call num response mCalData call).2 calls

def Installed.answer (s : Installed) : ApiCall × DrivenEnv → Answer
  | (.request r, env) =>
    let d := Driven.progress ⟨s.world, s.api⟩ env.before
    (exec Driven.perform (env.outcome s.rest.mCard s.rest.mDevice) (r.returns num) 0
      { d with world := { d.world with request := r } }).1.2
  | (.query q, env) =>
    let d := Driven.progress ⟨s.world, s.api⟩ env.before
    (Object.query num response ⟨d.world.members, s.rest⟩ q (env.answers mCalData d.api)).1.answer

def Installed.answers : Installed → List (ApiCall × DrivenEnv) → List Answer
  | _, [] => []
  | s, call :: calls =>
    s.answer num response mCalData call :: Installed.answers (s.call num response mCalData call).2 calls

end Calls

/-! ### Construction -/

structure Boot where
  /-- By file, and by waveform for `cp_trigger_index`. -/
  accepts : Node → Nat → Bool
  numWaves : String
  cpTriggerDuration : Nat → String
  availablePwleSegments : String
  sizeProcSndPcm : List String
  limitProcSndPcm : List String
  /-- What is in the variable before it is read. -/
  effectCount : BitVec 32
  behindDurations : Nat → BitVec 32
  behindLimits : Nat → Rat

def HwApi.put (h : HwApi) (boot : Boot) (n : Node) (value : String) : HwApi := (h.set n value (boot.accepts n 0)).2

def HwApi.storeCalibration (h : HwApi) (boot : Boot) (cal : HwCal) : HwApi :=
  let h := h.put boot .state (HwApi.boolText true)
  let h := cal.getF0.elim h fun f0 => h.put boot .f0Stored (toString f0.toNat)
  let h := cal.getRedc.elim h fun redc => h.put boot .redcStored (toString redc.toNat)
  h.put boot .qStored (toString cal.getQ.toNat)

/-- One round of the loop over the waveforms. -/
def Boot.readDuration (boot : Boot) (s : (Nat → Option (BitVec 32)) × HwApi) (effectIndex : Nat) :
    (Nat → Option (BitVec 32)) × HwApi :=
  let h := (s.2.set .cpTriggerIndex (toString effectIndex) (boot.accepts .cpTriggerIndex effectIndex)).2
  let read := h.get .cpTriggerDuration (boot.cpTriggerDuration effectIndex) 0
  (Function.update s.1 effectIndex (if read.1.1 then some read.1.2 else none), read.2)

def Boot.readDurations (boot : Boot) (effectCount : Nat) (h : HwApi) : (Nat → Option (BitVec 32)) × HwApi :=
  (List.range effectCount).foldl boot.readDuration (fun _ => none, h)

section Construction

variable (boot : Boot) (present : Node → Bool) (cal : HwCal) (memory : Object)

def Boot.count : (Bool × BitVec 32) × HwApi :=
  ((HwApi.opened present).storeCalibration boot cal).get .numWaves boot.numWaves boot.effectCount

def Boot.durations : (Nat → Option (BitVec 32)) × HwApi :=
  boot.readDurations (boot.count present cal).1.2.toNat (boot.count present cal).2

/-- The driver when `getPwleCompositionSizeMax` is called. -/
def Boot.timed : HwApi := (boot.durations present cal).2.put boot .clabEnable (HwApi.boolText true)

/-- The driver after that. The member that decides has not been assigned yet. -/
def Boot.sized : HwApi :=
  if ((boot.timed present cal).probe boot.sizeProcSndPcm).hasPwle && memory.members.mIsChirpEnabled then
    ((boot.timed present cal).getAvailablePwleSegments boot.availablePwleSegments).2
  else boot.timed present cal

def Boot.setup : Setup :=
  cal.setup
    { f0 := none
      redc := none
      longFrequencyShift := 0
      calVer := 0
      volLevels := fun _ => 0
      tickVolLevels := none
      clickVolLevels := none
      longVolLevels := none
      effectCount := (boot.count present cal).1.2.toNat
      effectDuration := (boot.durations present cal).1
      sizeProbe := (boot.timed present cal).probe boot.sizeProcSndPcm
      availablePwleSegments := ((boot.timed present cal).getAvailablePwleSegments boot.availablePwleSegments).1
      limitProbe := (boot.sized present cal memory).probe boot.limitProcSndPcm
      deviceMass := 0
      locCoeff := 0
      isChirpEnabled := false
      behindDurations := boot.behindDurations
      behindLimits := boot.behindLimits }

/-- `Vibrator(std::make_unique<HwApi>(), std::make_unique<HwCal>())`. -/
def install (response : Response) (actuator : Actuator) (present : Node → Bool) (cal : HwCal) (boot : Boot)
    (memory : Object) : Installed :=
  let service := (construct response actuator (boot.setup present cal memory) memory).serve
  ⟨service.world, service.rest, (boot.sized present cal memory).put boot .pwleRampDown "0"⟩

end Construction

/-! ### The calls refine those of the service -/

/-- The files that a task touches. -/
def Node.ofTasks : Node → Bool
  | .vibeState | .activate => true
  | _ => false

theorem Driven.taskStep_inv {P : HwApi → Prop} (s : Driven)
    (touch : ∀ h a, Node.ofTasks a.node = true → P h → P (h.touch a)) (now : P s.api) (t : Nat × TaskOutcome) :
    P (s.taskStep t).api := by
  unfold Driven.taskStep
  cases s.world.tasks t.1 with
  | polling =>
    exact (s.api.touches_poll .vibeState false t.2.poll).inv (fun h a here => touch h a (here ▸ rfl)) now
  | polled =>
    simp only [HwApi.set_eq]
    exact touch s.api _ rfl now
  | deactivated => exact now
  | done => exact now

theorem Driven.progress_inv {P : HwApi → Prop} (s : Driven)
    (touch : ∀ h a, Node.ofTasks a.node = true → P h → P (h.touch a)) (now : P s.api)
    (ts : List (Nat × TaskOutcome)) : P (s.progress ts).api := by
  induction ts generalizing s with
  | nil => exact now
  | cons t ts ih => exact ih (s.taskStep t) (s.taskStep_inv touch now t)

theorem Driven.progress_world (s : Driven) (ts : List (Nat × TaskOutcome)) :
    (s.progress ts).world = s.world.progress (ts.map Prod.fst) := by
  induction ts generalizing s with
  | nil => rfl
  | cons t ts ih => exact ih (s.taskStep t)

def Driven.outcome (o : DriverOutcome) (s : Driven) : Outcome where
  tasks := o.tasks.map Prod.fst
  write := fun op => (s.progress o.tasks).api.writes op.node (o.accepts op)
  hasAspEnable := (s.progress o.tasks).api.has .aspEnable
  pcm := o.pcm

def Driven.refines : Refines Driven.perform Vibrator.perform Driven.world where
  outcome := fun _ o s => s.outcome o
  step := by
    intro a o s
    unfold Driven.perform Vibrator.perform
    rw [show (s.outcome o).tasks = o.tasks.map Prod.fst from rfl, ← Driven.progress_world]
    cases a <;> rfl

variable {num : Numbers} {response : Response} {mCalData : CalData}

theorem Installed.call_refines (s : Installed) (call : ApiCall) (env : DrivenEnv) :
    ∃ env', s.service.call num response (call, env') =
        ((s.call num response mCalData (call, env)).1, (s.call num response mCalData (call, env)).2.service) ∧
      s.service.answer num response (call, env') = s.answer num response mCalData (call, env) := by
  cases call with
  | request r =>
    have : Nonempty Outcome := ⟨⟨[], fun _ => false, false, false⟩⟩
    let d := Driven.progress ⟨s.world, s.api⟩ env.before
    obtain ⟨io, same⟩ := Driven.refines.exec (env.outcome s.rest.mCard s.rest.mDevice) (r.returns num) 0
      { d with world := { d.world with request := r } }
    have above : exec Vibrator.perform io (r.returns num) 0 { d.world with request := r } = _ := same
    have before : d.world = s.world.progress (env.before.map Prod.fst) := Driven.progress_world _ _
    let env' : CallEnv := { env.answers mCalData s.api with outcomes := io, opens := fun _ _ => true }
    have called : s.service.call num response (.request r, env') =
        (fun result : (Status × Answer) × World =>
          ((⟨result.1.1, [], result.2.log⟩ : Seen), (⟨result.2, s.rest⟩ : Service)))
          (exec Vibrator.perform io (r.returns num) 0 { d.world with request := r }) := by
      rw [before]
      simp only [Service.call, Request.exec_returns]
      rfl
    have answered : s.service.answer num response (.request r, env') =
        (exec Vibrator.perform io (r.returns num) 0 { d.world with request := r }).1.2 := by
      rw [before]
      rfl
    refine ⟨env', ?_, ?_⟩
    · rw [called, above]
      simp only [Installed.call, Request.exec_returns]
      rfl
    · rw [answered, above]
      rfl
  | query q =>
    refine ⟨env.answers mCalData (Driven.progress ⟨s.world, s.api⟩ env.before).api, ?_, ?_⟩
    · simp only [Installed.call, Service.call, Driven.progress_world]
      rfl
    · simp only [Installed.answer, Service.answer, Driven.progress_world]
      rfl

/-- For whatever the driver and the system do, there is an environment in which the model of the methods does the
same. -/
theorem installed_refines (s : Installed) (calls : List (ApiCall × DrivenEnv)) :
    ∃ calls', calls'.map Prod.fst = calls.map Prod.fst ∧
      s.service.seen num response calls' = s.seen num response mCalData calls ∧
      s.service.answers num response calls' = s.answers num response mCalData calls := by
  induction calls generalizing s with
  | nil => exact ⟨[], rfl, rfl, rfl⟩
  | cons call calls ih =>
    obtain ⟨env, here, answer⟩ := @Installed.call_refines num response mCalData s call.1 call.2
    obtain ⟨calls', same, later, answers⟩ := ih (s.call num response mCalData call).2
    refine ⟨(call.1, env) :: calls', ?_, ?_, ?_⟩
    · rw [List.map_cons, List.map_cons, same]
    · rw [Service.seen, here, later]
      rfl
    · rw [Service.answers, here, answer, answers]
      rfl

end Pdx215.Vibrator
