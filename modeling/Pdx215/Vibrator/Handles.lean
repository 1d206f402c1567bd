import Pdx215.Lib.Lockstep
import Pdx215.Vibrator.Construct
import Pdx215.Vibrator.Rules

/-! Services that differ only in the PCM handle, which is not assigned before external control is first switched on.
Nobody can tell them apart: the handle is not looked at until then, and the same afterwards. -/
namespace Pdx215.Vibrator

open Effect

/-! ### Services that differ in a PCM handle -/

def Members.setPcm (m : Members) (h : Option Nat) : Members := { m with mHapticPcm := h }

def World.setPcm (w : World) (h : Option Nat) : World := w.modify (·.setPcm h)

theorem World.taskStep_setPcm (w : World) (h : Option Nat) (i : Nat) :
    (w.setPcm h).taskStep i = (w.taskStep i).setPcm h := by
  have same : (w.setPcm h).tasks i = w.tasks i := rfl
  simp only [World.taskStep, same]
  split <;> rfl

theorem World.progress_setPcm (w : World) (h : Option Nat) (is : List Nat) :
    (w.setPcm h).progress is = (w.progress is).setPcm h := by
  induction is generalizing w with
  | nil => rfl
  | cons i is ih =>
    have step : (w.setPcm h).progress (i :: is) = ((w.setPcm h).taskStep i).progress is := rfl
    rw [step, World.taskStep_setPcm, ih]
    rfl

/-- The PCM device is known, and there is no external control yet. -/
def Members.Ready (m : Members) : Prop := m.mIsUnderExternalControl = false ∧ m.mHasHapticAlsaDevice = true

/-- Worlds that differ in a PCM handle that has not been assigned yet. -/
structure Fresh (w v : World) : Prop where
  ready : w.members.Ready
  handle : ∃ h, v = w.setPcm h

def Alike (w v : World) : Prop := v = w ∨ Fresh w v

/-- Steps that have nothing to do with the PCM or with external control, and that do not look at members. -/
def Act.Steady : Act → Prop
  | .write _ | .hasAspEnable | .setActiveId _ | .waitFor | .launch | .assign => True
  | _ => False

theorem Fresh.progress {w v : World} (fresh : Fresh w v) (is : List Nat) : Fresh (w.progress is) (v.progress is) := by
  obtain ⟨ready, h, rfl⟩ := fresh
  refine ⟨?_, h, World.progress_setPcm w h is⟩
  rw [World.progress_members]
  exact ready

theorem World.assign_setPcm (w : World) (h : Option Nat) : (w.setPcm h).assign = w.assign.setPcm h := by
  have handle : (w.setPcm h).mAsyncHandle = w.mAsyncHandle := rfl
  simp only [World.assign, handle, World.progress_setPcm]
  rfl

theorem Fresh.step (a : Act) (steady : a.Steady) (o : Outcome) (w v : World) (fresh : Fresh w v) :
    (perform a o w).1 = (perform a o v).1 ∧ Fresh (perform a o w).2 (perform a o v).2 := by
  obtain ⟨ready, h, same⟩ := fresh.progress o.tasks
  simp only [perform, same]
  cases a with
  | write op => exact ⟨rfl, ready, h, rfl⟩
  | hasAspEnable => exact ⟨rfl, ready, h, rfl⟩
  | setActiveId id => exact ⟨rfl, ready, h, rfl⟩
  | waitFor => exact ⟨rfl, ready, h, rfl⟩
  | launch => exact ⟨rfl, ready, h, rfl⟩
  | assign =>
    have members : (w.progress o.tasks).assign.members = (w.progress o.tasks).members := World.progress_members _ _
    exact ⟨rfl, members ▸ ready, h, World.assign_setPcm _ h⟩
  | _ => exact steady.elim

/-! ### Requests -/

section Requests

variable {num : Numbers} {w v : World}

theorem lockstep_steady {α : Type} {p : Call α} (all : p.All Act.Steady) (fresh : Fresh w v) :
    Lockstep perform Fresh p w v :=
  lockstep_all all Fresh.step fresh

/-- A handle that is not assigned is not looked at. -/
theorem lockstep_load {α : Type} {k : Members → Call α} {alike : World → World → Prop} (fresh : Fresh w v)
    (blind : ∀ m h, m.mIsUnderExternalControl = false → k (m.setPcm h) = k m)
    (rest : ∀ w v, Fresh w v → Lockstep perform alike (k w.members) w v) : Lockstep perform alike (load k) w v := by
  intro o
  have now := fresh.progress o.tasks
  refine ⟨?_, rest _ _ now⟩
  obtain ⟨ready, h, same⟩ := now
  change k (w.progress o.tasks).members = k (v.progress o.tasks).members
  rw [same]
  exact (blind _ h ready.1).symm

theorem lockstep_setGlobalAmplitude (set : Bool) (fresh : Fresh w v) :
    Lockstep perform Fresh (setGlobalAmplitude num set) w v :=
  lockstep_load fresh (fun _ _ _ => rfl) fun _ _ fresh => lockstep_steady (all_tryPut trivial) fresh

theorem lockstep_onIndex (timeoutMs effectIndex : BitVec 32) (fresh : Fresh w v) :
    Lockstep perform Fresh (onIndex num timeoutMs effectIndex) w v := by
  have disable : Lockstep perform Fresh (forceDisable num) w v := by
    refine lockstep_load fresh (fun _ _ _ => rfl) fun w v fresh => ?_
    rw [fresh.ready.1]
    exact fresh
  refine lockstep_bind disable fun _ w v fresh => lockstep_steady ⟨trivial, fun (ready : Bool) => ?_⟩ fresh
  exact Prog.all_ite trivial (all_activate (fun _ _ => trivial) (fun _ => trivial) trivial trivial _ _)

theorem lockstep_performEffectIndex (effectIndex volLevel : BitVec 32) (effectQueue : String) (fresh : Fresh w v) :
    Lockstep perform Fresh (performEffectIndex num effectIndex volLevel effectQueue) w v := by
  have scaled (amplitude maximum : Rat) (w v : World) (fresh : Fresh w v) :
      Lockstep perform Fresh (setEffectAmplitude num amplitude maximum) w v :=
    lockstep_steady (all_tryPut trivial) fresh
  simp only [performEffectIndex]
  split
  · refine lockstep_bind (lockstep_steady (all_tryPut trivial) fresh) fun status w v fresh => ?_
    split
    · exact lockstep_bind (scaled _ _ w v fresh) fun _ w v fresh => lockstep_onIndex _ _ fresh
    · exact fresh
  · exact lockstep_bind (scaled _ _ w v fresh) fun _ w v fresh => lockstep_onIndex _ _ fresh

theorem lockstep_performEffect (effect : HapticEffect) (strength : EffectStrength) (fresh : Fresh w v) :
    Lockstep perform Fresh (performEffect num effect strength) w v := by
  refine lockstep_load fresh (fun _ _ _ => rfl) fun w v fresh => ?_
  split
  all_goals try split
  all_goals first
    | exact fresh
    | exact lockstep_bind (lockstep_performEffectIndex _ _ _ fresh) fun _ _ _ fresh => fresh

theorem composeEffects_setPcm (m : Members) (h : Option Nat) (composite : List CompositeEffect)
    (effectQueue : String) :
    (m.setPcm h).composeEffects composite effectQueue = m.composeEffects composite effectQueue := by
  induction composite generalizing effectQueue with
  | nil => rfl
  | cons e composite ih => exact congrArg (m.composeEffect e >>= ·) (funext fun added => ih (effectQueue ++ added))

theorem lockstep_compose (composite : List CompositeEffect) (fresh : Fresh w v) :
    Lockstep perform Fresh (compose num composite) w v := by
  refine lockstep_load fresh (fun m h _ => ?_) fun w v fresh => ?_
  · simp only [Members.composeQueue, composeEffects_setPcm]
  · split
    · exact fresh
    · exact lockstep_performEffectIndex _ _ _ fresh

theorem lockstep_composePwle (composite : List PrimitivePwle) (fresh : Fresh w v) :
    Lockstep perform Fresh (composePwle num composite) w v := by
  refine lockstep_load fresh (fun _ _ _ => rfl) fun w v fresh => ?_
  split
  · exact fresh
  · refine lockstep_steady (all_orReturn (all_tryPut trivial) ?_) fresh
    exact all_activatePwle (fun _ _ => trivial) trivial trivial _

theorem lockstep_off (fresh : Fresh w v) : Lockstep perform Fresh (off num) w v := by
  refine lockstep_bind (lockstep_setGlobalAmplitude false fresh) fun _ w v fresh => lockstep_steady ?_ fresh
  refine Prog.All.bind (all_act trivial) fun _ => all_orReturn (all_tryPut trivial) ?_
  exact Prog.All.bind (all_act trivial) fun _ => trivial

/-- Opening the PCM assigns the handle. -/
theorem lockstep_enableHapticPcmAmp (fresh : Fresh w v) : Lockstep perform Eq (enableHapticPcmAmp true) w v := by
  change Lockstep perform Eq (.call .pcmOpen _) w v
  intro o
  obtain ⟨-, h, same⟩ := fresh.progress o.tasks
  have opened : perform .pcmOpen o v = perform .pcmOpen o w := by
    simp only [perform, same]
    rfl
  rw [opened]
  exact ⟨rfl, lockstep_refl (fun _ => rfl) _ _⟩

theorem lockstep_switchControl (fresh : Fresh w v) : Lockstep perform Eq (switchControl true) w v := by
  have pcm : Lockstep perform Eq (switchPcm true) w v := by
    refine lockstep_load fresh (fun _ _ _ => rfl) fun w v fresh => ?_
    rw [fresh.ready.2]
    exact lockstep_bind (lockstep_enableHapticPcmAmp fresh) fun _ w v same => same
  refine lockstep_bind pcm fun _ w v same => ?_
  subst same
  exact lockstep_refl (fun _ => rfl) _ _

theorem lockstep_setExternalControl (enabled : Bool) (fresh : Fresh w v) :
    Lockstep perform Alike (setExternalControl num enabled) w v := by
  refine lockstep_bind (lockstep_setGlobalAmplitude enabled fresh) fun _ w v fresh => ?_
  refine lockstep_load fresh (fun _ _ _ => rfl) fun w v fresh => ?_
  rw [fresh.ready.1]
  cases enabled with
  | false => exact .inr fresh
  | true =>
    change Lockstep perform Alike (orReturn (switchControl true) _) w v
    refine lockstep_bind (lockstep_switchControl fresh) fun _ w v same => ?_
    subst same
    exact lockstep_refl (fun _ => .inl rfl) _ _

theorem lockstep_on (timeoutMs : BitVec 32) (fresh : Fresh w v) : Lockstep perform Fresh (on num timeoutMs) w v := by
  refine lockstep_bind (lockstep_setGlobalAmplitude true fresh) fun _ w v fresh => ?_
  refine lockstep_load fresh (fun _ _ _ => rfl) fun w v fresh => ?_
  exact lockstep_bind (lockstep_steady (all_act trivial) fresh) fun _ w v fresh => lockstep_onIndex _ _ fresh

theorem lockstep_request (r : Request) (alike : Alike w v) : Lockstep perform Alike (r.program num) w v := by
  rcases alike with rfl | fresh
  · exact lockstep_refl (fun _ => .inl rfl) _ _
  have weaken (w v : World) : Fresh w v → Alike w v := .inr
  cases r with
  | on timeoutMs => exact lockstep_mono (lockstep_on timeoutMs fresh) weaken
  | perform effect strength =>
    exact lockstep_bind (lockstep_performEffect effect strength fresh) fun _ w v fresh => .inr fresh
  | compose composite => exact lockstep_mono (lockstep_compose composite fresh) weaken
  | composePwle composite => exact lockstep_mono (lockstep_composePwle composite fresh) weaken
  | setExternalControl enabled => exact lockstep_setExternalControl enabled fresh
  | off => exact lockstep_mono (lockstep_off fresh) weaken

end Requests

/-! ### Other calls -/

def Object.setPcm (x : Object) (h : Option Nat) : Object := { x with members := x.members.setPcm h }

section Queries

variable {num : Numbers} {response : Response} (x : Object) (h : Option Nat)

theorem hasExternalControl_setPcm (probe : Probe) :
    (x.setPcm h).hasExternalControl probe =
      ((x.hasExternalControl probe).1, (x.hasExternalControl probe).2.setPcm h) := by
  cases asp : probe.hasAspEnable <;> cases done : x.rest.configHapticAlsaDeviceDone <;>
    cases found : findHapticAlsaDevice probe.procSndPcm <;>
    simp [Object.hasExternalControl, Object.hasHapticAlsaDevice, Object.setPcm, Members.setPcm, asp, done, found]

theorem getCapabilities_setPcm (probe : Probe) :
    (x.setPcm h).getCapabilities probe = ((x.getCapabilities probe).1, (x.getCapabilities probe).2.setPcm h) := by
  simp only [Object.getCapabilities, hasExternalControl_setPcm]
  rfl

theorem whenCapable_setPcm (probe : Probe) (has : Capabilities → Bool) (answer : Answer) :
    (x.setPcm h).whenCapable probe has answer =
      ((x.whenCapable probe has answer).1, (x.whenCapable probe has answer).2.setPcm h) := by
  simp only [Object.whenCapable, getCapabilities_setPcm]

theorem getPwleCompositionSizeMax_setPcm (probe : Probe) (availablePwleSegments : Option (BitVec 32)) :
    (x.setPcm h).getPwleCompositionSizeMax probe availablePwleSegments =
      ((x.getPwleCompositionSizeMax probe availablePwleSegments).1,
        (x.getPwleCompositionSizeMax probe availablePwleSegments).2.setPcm h) := by
  simp only [Object.getPwleCompositionSizeMax, getCapabilities_setPcm]
  cases (x.getCapabilities probe).1.composePwleEffects <;> cases availablePwleSegments <;> rfl

theorem generateBandwidthAmplitudeMap_setPcm (deviceMass locCoeff : Rat) :
    (x.setPcm h).generateBandwidthAmplitudeMap response deviceMass locCoeff =
      ((x.generateBandwidthAmplitudeMap response deviceMass locCoeff).1,
        (x.generateBandwidthAmplitudeMap response deviceMass locCoeff).2.setPcm h) := by
  have same : (x.setPcm h).bandwidthAmplitudes response deviceMass locCoeff =
      x.bandwidthAmplitudes response deviceMass locCoeff := rfl
  simp only [Object.generateBandwidthAmplitudeMap, same]
  cases x.bandwidthAmplitudes response deviceMass locCoeff <;> rfl

theorem getBandwidthAmplitudeMap_setPcm (probe : Probe) (deviceMass locCoeff : Rat) :
    (x.setPcm h).getBandwidthAmplitudeMap response probe deviceMass locCoeff =
      ((x.getBandwidthAmplitudeMap response probe deviceMass locCoeff).1,
        (x.getBandwidthAmplitudeMap response probe deviceMass locCoeff).2.setPcm h) := by
  simp only [Object.getBandwidthAmplitudeMap, getCapabilities_setPcm, generateBandwidthAmplitudeMap_setPcm]
  generalize (x.getCapabilities probe).1.frequencyControl = capable
  generalize (x.getCapabilities probe).2 = y
  have rest : (y.setPcm h).rest = y.rest := rfl
  simp only [rest]
  cases capable <;> cases y.rest.mGenerateBandwidthAmplitudeMapDone <;> rfl

theorem query_setPcm (q : Query) (env : CallEnv) :
    (x.setPcm h).query num response q env =
      ((x.query num response q env).1, (x.query num response q env).2.setPcm h) := by
  cases q with
  | getCapabilities =>
    simp only [Object.query, getCapabilities_setPcm]
  | getFrequencyResolution => exact whenCapable_setPcm x h _ _ _
  | getFrequencyMinimum => exact whenCapable_setPcm x h _ _ _
  | getPwlePrimitiveDurationMax => exact whenCapable_setPcm x h _ _ _
  | getSupportedBraking => exact whenCapable_setPcm x h _ _ _
  | getBandwidthAmplitudeMap => exact getBandwidthAmplitudeMap_setPcm x h _ _ _
  | getPwleCompositionSizeMax => simp only [Object.query, getPwleCompositionSizeMax_setPcm]
  | _ => rfl

theorem getCapabilities_ready (ready : x.members.Ready) (probe : Probe) :
    (x.getCapabilities probe).2.members.Ready := by
  obtain ⟨control, device⟩ := ready
  cases asp : probe.hasAspEnable <;> cases done : x.rest.configHapticAlsaDeviceDone <;>
    cases found : findHapticAlsaDevice probe.procSndPcm <;>
    simp [Members.Ready, Object.getCapabilities, Object.hasExternalControl, Object.hasHapticAlsaDevice, asp, done,
      found, control, device]

theorem generateBandwidthAmplitudeMap_members (deviceMass locCoeff : Rat) :
    (x.generateBandwidthAmplitudeMap response deviceMass locCoeff).2.members = x.members := by
  simp only [Object.generateBandwidthAmplitudeMap]
  split <;> rfl

theorem query_ready (ready : x.members.Ready) (q : Query) (env : CallEnv) :
    (x.query num response q env).2.members.Ready := by
  have asked : (x.asked q env.probe).members.Ready := by
    unfold Object.asked
    split
    · exact getCapabilities_ready x ready env.probe
    · exact ready
  obtain ⟨_, _, _, leaves⟩ := x.query_leaves num response q env
  rw [leaves]
  exact asked

end Queries

/-! ### Services -/

section Services

variable {num : Numbers} {response : Response} {s t : Service}

/-- Services that give the same answers from now on. -/
structure Service.Alike (s t : Service) : Prop where
  world : Vibrator.Alike s.world t.world
  rest : t.rest = s.rest

theorem Alike.progress {w v : World} (alike : Alike w v) (is : List Nat) : Alike (w.progress is) (v.progress is) := by
  rcases alike with rfl | fresh
  · exact .inl rfl
  · exact .inr (fresh.progress is)

theorem Alike.log {w v : World} (alike : Alike w v) : v.log = w.log := by
  rcases alike with rfl | ⟨-, h, rfl⟩
  · rfl
  · rfl

theorem Service.Alike.call (alike : s.Alike t) (call : ApiCall × CallEnv) :
    (t.call num response call).1 = (s.call num response call).1 ∧
      (s.call num response call).2.Alike (t.call num response call).2 := by
  obtain ⟨world, rest⟩ := alike
  obtain ⟨c, env⟩ := call
  have now := world.progress env.before
  cases c with
  | request r =>
    have begun : Vibrator.Alike { s.world.progress env.before with request := r }
        { t.world.progress env.before with request := r } := by
      rcases now with same | ⟨ready, h, same⟩
      · exact .inl (by rw [same])
      · exact .inr ⟨ready, h, by rw [same]; rfl⟩
    obtain ⟨status, ended⟩ := exec_lockstep (lockstep_request r begun) (env.outcome s.rest.mCard s.rest.mDevice) 0
    simp only [Service.call, rest]
    rw [status, ended.log]
    exact ⟨rfl, ended, rfl⟩
  | query q =>
    simp only [Service.call, rest]
    rcases now with same | ⟨ready, h, same⟩
    · rw [same]
      exact ⟨rfl, .inl rfl, rfl⟩
    · have object : (⟨(t.world.progress env.before).members, s.rest⟩ : Object) =
          Object.setPcm ⟨(s.world.progress env.before).members, s.rest⟩ h := by
        rw [same]
        rfl
      rw [object, query_setPcm, same]
      exact ⟨rfl, .inr ⟨query_ready ⟨_, _⟩ ready q env, h, rfl⟩, rfl⟩

theorem Service.Alike.seen (alike : s.Alike t) (calls : List (ApiCall × CallEnv)) :
    t.seen num response calls = s.seen num response calls := by
  induction calls generalizing s t with
  | nil => rfl
  | cons call calls ih =>
    obtain ⟨same, alike⟩ := alike.call call
    simp only [Service.seen]
    rw [same, ih alike]

end Services

end Pdx215.Vibrator
