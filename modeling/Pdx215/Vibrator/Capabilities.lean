import Pdx215.Vibrator.Driven
import Pdx215.Vibrator.Rules

/-! What `getCapabilities` says about the files of the driver. A stream is good if its file is there, but also if it is
not and something has been tried with it: `cp_dig_scale` and `pwle` are written to without asking, `asp_enable` is not. -/
namespace Pdx215.Vibrator

open Effect

/-! ### Requests ask before they write to `asp_enable` -/

section Asking

def Act.Honest (present : Bool) : (a : Act) → Reply a → Prop
  | .hasAspEnable, (has : Bool) => has = true → present = true
  | _, _ => True

def Act.SparesAsp (a : Act) : Prop := ∀ value, a ≠ .write (.setAspEnable value)

def Act.Asks (present : Bool) (a : Act) : Prop := ∀ value, a = .write (.setAspEnable value) → present = true

/-- As long as the answers are right, the program writes to `asp_enable` only if it is there. -/
def Careful {α : Type} (present : Bool) (p : Call α) : Prop := p.Within (Act.Honest present) (Act.Asks present)

variable {present : Bool} {num : Numbers} {α β : Type}

theorem Careful.of_all {p : Call α} (all : p.All Act.SparesAsp) : Careful present p :=
  (all.mono fun _ spares value same => absurd same (spares value)).within _

theorem Careful.bind {p : Call α} {f : α → Call β} (first : Careful present p) (second : ∀ a, Careful present (f a)) :
    Careful present (p >>= f) :=
  Prog.Within.bind first second

theorem careful_ret (a : α) : Careful present (.ret a) := trivial

theorem careful_orReturn {first rest : Call Status} (before : Careful present first) (after : Careful present rest) :
    Careful present (orReturn first rest) :=
  before.bind fun _ => Prog.within_ite after (careful_ret _)

theorem careful_load {k : Members → Call α} (rest : ∀ m, Careful present (k m)) : Careful present (load k) :=
  ⟨fun _ => Act.noConfusion, fun m _ => rest m⟩

theorem careful_act {a : Act} (spares : a.SparesAsp) : Careful present (act a) := .of_all (all_act spares)

theorem careful_tryPut {op : HwWrite} (spares : (Act.write op).SparesAsp) : Careful present (tryPut op) :=
  .of_all (all_tryPut spares)

theorem spares_write {op : HwWrite} (other : ∀ value, op ≠ .setAspEnable value) : (Act.write op).SparesAsp :=
  fun value same => other value (Act.write.inj same)

theorem careful_setGlobalAmplitude (set : Bool) : Careful present (setGlobalAmplitude num set) :=
  careful_load fun _ => careful_tryPut (spares_write fun _ => HwWrite.noConfusion)

theorem careful_setEffectAmplitude (amplitude maximum : Rat) :
    Careful present (setEffectAmplitude num amplitude maximum) :=
  careful_tryPut (spares_write fun _ => HwWrite.noConfusion)

theorem careful_off : Careful present (off num) := by
  apply (careful_setGlobalAmplitude false).bind
  intro _
  apply (careful_act (spares_write fun _ => HwWrite.noConfusion)).bind
  intro _
  apply careful_orReturn (careful_tryPut (spares_write fun _ => HwWrite.noConfusion))
  exact (careful_act fun _ => Act.noConfusion).bind fun _ => careful_ret _

theorem careful_enableHapticPcmAmp (enable : Bool) : Careful present (enableHapticPcmAmp enable) := by
  have fail : pcmFail.All Act.SparesAsp := (all_act fun _ => Act.noConfusion).bind fun _ => trivial
  apply Careful.of_all
  apply Prog.all_ite
  · refine ⟨fun _ => Act.noConfusion, fun (ready : Bool) => Prog.all_ite fail ?_⟩
    refine ⟨fun _ => Act.noConfusion, fun (prepared : Bool) => Prog.all_ite fail ?_⟩
    exact ⟨fun _ => Act.noConfusion, fun (started : Bool) => Prog.all_ite fail Prog.all_ret⟩
  · apply all_load (fun _ => Act.noConfusion)
    intro m
    exact Prog.all_ite ((all_act fun _ => Act.noConfusion).bind fun _ => trivial) Prog.all_ret

/-- The only place where `asp_enable` is written. -/
theorem careful_switchAsp (enabled : Bool) : Careful present (switchAsp enabled) := by
  refine ⟨fun _ => Act.noConfusion, fun (has : Bool) honest => ?_⟩
  cases has with
  | false => exact careful_ret _
  | true => exact ⟨fun _ _ => honest rfl, fun _ _ => trivial⟩

theorem careful_switchControl (enabled : Bool) : Careful present (switchControl enabled) := by
  refine careful_orReturn (careful_load fun m => ?_) (careful_switchAsp enabled)
  exact Prog.within_ite ((careful_enableHapticPcmAmp enabled).bind fun _ => careful_ret _) (careful_ret _)

theorem careful_setExternalControl (enabled : Bool) : Careful present (setExternalControl num enabled) := by
  apply (careful_setGlobalAmplitude enabled).bind
  intro _
  apply careful_load
  intro m
  apply Prog.within_ite (careful_ret _)
  apply careful_orReturn (Prog.within_ite (careful_switchControl (!enabled)) (careful_ret _))
  apply careful_orReturn (careful_switchControl enabled)
  exact (careful_act fun _ => Act.noConfusion).bind fun _ => careful_ret _

theorem starts_spares {op : HwWrite} (starts : op.Starts) : (Act.write op).SparesAsp := by
  rintro value ⟨⟩
  exact starts

theorem careful_onIndex (timeoutMs effectIndex : BitVec 32) : Careful present (onIndex num timeoutMs effectIndex) := by
  have disable : Careful present (forceDisable num) := careful_load fun m =>
    Prog.within_ite ((careful_setExternalControl false).bind fun _ => careful_ret _) (careful_ret _)
  apply disable.bind
  intro _
  refine ⟨fun _ => Act.noConfusion, fun (ready : Bool) _ => Prog.within_ite (careful_ret _) (Careful.of_all ?_)⟩
  exact all_activate (fun _ => starts_spares) (fun _ _ => Act.noConfusion) (fun _ => Act.noConfusion)
    (fun _ => Act.noConfusion) timeoutMs effectIndex

theorem careful_performEffectIndex (effectIndex volLevel : BitVec 32) (effectQueue : String) :
    Careful present (performEffectIndex num effectIndex volLevel effectQueue) := by
  apply Prog.within_ite
  · apply careful_orReturn (careful_tryPut (spares_write fun _ => HwWrite.noConfusion))
    exact (careful_setEffectAmplitude _ _).bind fun _ => careful_onIndex _ _
  · exact (careful_setEffectAmplitude _ _).bind fun _ => careful_onIndex _ _

theorem careful_performEffect (effect : HapticEffect) (strength : EffectStrength) :
    Careful present (performEffect num effect strength) := by
  apply careful_load
  intro m
  split
  all_goals try split
  all_goals first
    | exact careful_ret _
    | exact (careful_performEffectIndex _ _ _).bind fun _ => careful_ret _

theorem careful_composePwle (composite : List PrimitivePwle) : Careful present (composePwle num composite) := by
  apply careful_load
  intro m
  split
  · exact careful_ret _
  · apply careful_orReturn (careful_tryPut (spares_write fun _ => HwWrite.noConfusion))
    exact .of_all (all_activatePwle (fun _ => starts_spares) (fun _ => Act.noConfusion) (fun _ => Act.noConfusion) _)

theorem careful_program (r : Request) : Careful present (r.program num) := by
  cases r with
  | on timeoutMs =>
    apply (careful_setGlobalAmplitude true).bind
    intro _
    apply careful_load
    intro m
    exact (careful_act (spares_write fun _ => HwWrite.noConfusion)).bind fun _ => careful_onIndex _ _
  | perform effect strength => exact (careful_performEffect effect strength).bind fun _ => careful_ret _
  | compose composite =>
    apply careful_load
    intro m
    split
    · exact careful_ret _
    · exact careful_performEffectIndex _ _ _
  | composePwle composite => exact careful_composePwle composite
  | setExternalControl enabled => exact careful_setExternalControl enabled
  | off => exact careful_off

end Asking

/-! ### What every call keeps -/

/-- The members that no request changes, with the others blanked out. -/
def Members.fixed (m : Members) : Members :=
  { m with
    mHapticPcm := none
    mIsUnderExternalControl := false
    mActiveId := 0 }

/-- Those that no query changes either. -/
def Members.settings (m : Members) : Members :=
  { m.fixed with
    mCompositionSizeMax := 0
    mHasHapticAlsaDevice := false }

section Keeping

variable {present : Node → Bool} {fixed settings : Members} {h : HwApi} {n : Node}

structure HwApi.Kept (present : Node → Bool) (h : HwApi) : Prop where
  sound : h.Sound present
  asp : ∀ a ∈ h.accesses, a.node = .aspEnable → present .aspEnable = true

theorem HwApi.kept_opened (present : Node → Bool) : (HwApi.opened present).Kept present :=
  ⟨HwApi.sound_opened present, fun _ none => absurd none List.not_mem_nil⟩

theorem HwApi.Kept.touch (kept : h.Kept present) {a : Access}
    (fine : a.node = .aspEnable → present .aspEnable = true) : (h.touch a).Kept present where
  sound := kept.sound.touch a
  asp := by
    intro a' here asp
    rcases List.mem_append.mp here with old | new
    · exact kept.asp a' old asp
    · cases List.mem_singleton.mp new
      exact fine asp

theorem HwApi.Kept.set (kept : h.Kept present) (fine : n = .aspEnable → present .aspEnable = true) (value : String)
    (accepted : Bool) : (h.set n value accepted).2.Kept present := by
  rw [HwApi.set_eq]
  exact kept.touch fine

theorem HwApi.Kept.get (kept : h.Kept present) (other : n ≠ .aspEnable) (content : String) (old : BitVec 32) :
    (h.get n content old).2.Kept present := by
  obtain ⟨a, rfl, read⟩ := h.get_touch n content old
  rw [read]
  exact kept.touch fun asp => absurd asp other

/-- No one has tried `asp_enable` if it is not there. -/
theorem HwApi.Kept.has_asp (kept : h.Kept present) : h.has .aspEnable = present .aspEnable := by
  rw [kept.sound.has]
  cases there : present .aspEnable with
  | true => rfl
  | false =>
    rw [Bool.false_or, HwApi.tried, List.any_eq_false]
    intro a here tried
    have := kept.asp a here (of_decide_eq_true tried)
    rw [there] at this
    cases this

theorem HwApi.Sound.not_writes (sound : h.Sound present) (absent : present n = false) (accepted : Bool) :
    h.writes n accepted = false := by
  simp [HwApi.writes, sound.isOpen, absent]

structure Driven.Kept (present : Node → Bool) (fixed : Members) (s : Driven) : Prop where
  api : s.api.Kept present
  fixed : s.world.members.fixed = fixed

theorem Driven.kept_progress {s : Driven} (kept : s.api.Kept present) (ts : List (Nat × TaskOutcome)) :
    (s.progress ts).api.Kept present := by
  refine s.progress_inv (fun _ a own now => ?_) kept ts
  refine HwApi.Kept.touch now fun asp => ?_
  rw [asp] at own
  cases own

theorem Driven.Kept.progress {s : Driven} (kept : s.Kept present fixed) (ts : List (Nat × TaskOutcome)) :
    (s.progress ts).Kept present fixed := by
  refine ⟨Driven.kept_progress kept.api ts, ?_⟩
  rw [Driven.progress_world, World.progress_members]
  exact kept.fixed

theorem Driven.Kept.perform {s : Driven} (kept : s.Kept present fixed) (a : Act)
    (asks : a.Asks (present .aspEnable)) (o : DriverOutcome) :
    a.Honest (present .aspEnable) (Driven.perform a o s).1 ∧ (Driven.perform a o s).2.Kept present fixed := by
  have now := kept.progress o.tasks
  unfold Driven.perform
  generalize s.progress o.tasks = s' at now
  cases a with
  | write op =>
    refine ⟨trivial, now.api.set (fun asp => ?_) _ _, now.fixed⟩
    cases op with
    | setAspEnable value => exact asks value rfl
    | _ => exact Node.noConfusion asp
  | hasAspEnable => exact ⟨fun has => now.api.has_asp.symm.trans has, now⟩
  | assign =>
    refine ⟨trivial, Driven.kept_progress now.api _, ?_⟩
    exact (congrArg Members.fixed (World.progress_members _ _)).trans now.fixed
  | look => exact ⟨trivial, now⟩
  | pcmOpen => exact ⟨trivial, now.api, now.fixed⟩
  | pcmPrepare => exact ⟨trivial, now⟩
  | pcmStart => exact ⟨trivial, now⟩
  | pcmClose => exact ⟨trivial, now.api, now.fixed⟩
  | setUnderExternalControl enabled => exact ⟨trivial, now.api, now.fixed⟩
  | setActiveId id => exact ⟨trivial, now.api, now.fixed⟩
  | waitFor => exact ⟨trivial, now⟩
  | launch => exact ⟨trivial, now.api, now.fixed⟩

theorem Driven.Kept.request {s : Driven} (kept : s.Kept present fixed) (num : Numbers) (r : Request)
    (io : Nat → DriverOutcome) : (exec Driven.perform io (r.program num) 0 s).2.Kept present fixed :=
  exec_within (careful_program r) (fun a asks o _ now => now.perform a asks o) kept

theorem QueryWrite.node_ne (op : QueryWrite) : op.node ≠ .aspEnable := by
  cases op <;> exact fun asp => Node.noConfusion asp

theorem HwApi.Kept.putAll (kept : h.Kept present) (accepts : Nat → Bool) (ops : List QueryWrite) :
    (h.putAll accepts ops).Kept present := by
  unfold HwApi.putAll
  generalize ops.zipIdx = ops
  induction ops generalizing h with
  | nil => exact kept
  | cons op ops ih =>
    exact ih (kept.set (fun asp => absurd asp op.1.node_ne) _ _)

theorem HwApi.Kept.afterQuery (kept : h.Kept present) (env : DrivenEnv) (x : Object) (q : Query)
    (ops : List QueryWrite) : (h.afterQuery env x q ops).Kept present := by
  have put := kept.putAll env.accepts ops
  unfold HwApi.afterQuery
  split
  · split
    · exact put.get Node.noConfusion _ _
    · exact put
  · exact put

theorem withDevice_settings (x : Object) (found : Option (Option Int × Option Int)) :
    (x.withDevice found).members.settings = x.members.settings := by
  cases found <;> rfl

theorem getCapabilities_settings (x : Object) (probe : Probe) :
    (x.getCapabilities probe).2.members.settings = x.members.settings := by
  cases done : x.rest.configHapticAlsaDeviceDone with
  | false => rw [getCapabilities_searching x done, withDevice_settings]
  | true => rw [getCapabilities_done x done]

theorem query_settings (num : Numbers) (response : Response) (x : Object) (q : Query) (env : CallEnv) :
    (x.query num response q env).2.members.settings = x.members.settings := by
  have asked : (x.asked q env.probe).members.settings = x.members.settings := by
    unfold Object.asked
    split
    · exact getCapabilities_settings x env.probe
    · rfl
  obtain ⟨_, _, _, leaves⟩ := x.query_leaves num response q env
  rw [leaves]
  exact asked

structure Installed.Kept (present : Node → Bool) (settings : Members) (s : Installed) : Prop where
  api : s.api.Kept present
  settings : s.world.members.settings = settings

variable {num : Numbers} {response : Response} {mCalData : CalData}

theorem Members.settings_of_fixed {m m' : Members} (same : m.fixed = m'.fixed) : m.settings = m'.settings := by
  rw [Members.settings, same, Members.settings]

theorem Installed.Kept.before {s : Installed} (kept : s.Kept present settings) (env : DrivenEnv) :
    (Driven.progress ⟨s.world, s.api⟩ env.before).Kept present s.world.members.fixed := by
  have now : Driven.Kept present s.world.members.fixed ⟨s.world, s.api⟩ := ⟨kept.api, rfl⟩
  exact now.progress env.before

theorem Installed.Kept.request {s : Installed} (kept : s.Kept present settings) (num : Numbers) (r : Request)
    (env : DrivenEnv) :
    let d := Driven.progress ⟨s.world, s.api⟩ env.before
    (exec Driven.perform (env.outcome s.rest.mCard s.rest.mDevice) (r.program num) 0
      { d with world := { d.world with request := r } }).2.Kept present s.world.members.fixed := by
  intro d
  have before := kept.before env
  have begun : Driven.Kept present s.world.members.fixed { d with world := { d.world with request := r } } :=
    ⟨before.api, before.fixed⟩
  exact begun.request num r _

theorem Installed.Kept.call {s : Installed} (kept : s.Kept present settings) (call : ApiCall × DrivenEnv) :
    (s.call num response mCalData call).2.Kept present settings := by
  obtain ⟨call, env⟩ := call
  cases call with
  | request r =>
    have after := kept.request num r env
    exact ⟨after.api, (Members.settings_of_fixed after.fixed).trans kept.settings⟩
  | query q =>
    have before := kept.before env
    refine ⟨before.api.afterQuery env _ q _, (query_settings num response _ q _).trans ?_⟩
    exact (Members.settings_of_fixed before.fixed).trans kept.settings

theorem Installed.Kept.after {s : Installed} (kept : s.Kept present settings) (calls : List (ApiCall × DrivenEnv)) :
    (s.after num response mCalData calls).Kept present settings := by
  induction calls generalizing s with
  | nil => exact kept
  | cons call calls ih => exact ih (kept.call call)

/-! ### The construction -/

theorem HwApi.Kept.put (kept : h.Kept present) (boot : Boot) (other : n ≠ .aspEnable) (value : String) :
    (h.put boot n value).Kept present :=
  kept.set (fun asp => absurd asp other) value _

theorem HwApi.Kept.putIf (kept : h.Kept present) (boot : Boot) (other : n ≠ .aspEnable) (value : Option (BitVec 32)) :
    (value.elim h fun value => h.put boot n (toString value.toNat)).Kept present := by
  cases value with
  | none => exact kept
  | some value => exact kept.put boot other _

theorem HwApi.Kept.storeCalibration (kept : h.Kept present) (boot : Boot) (cal : HwCal) :
    (h.storeCalibration boot cal).Kept present := by
  have state := kept.put boot (n := .state) Node.noConfusion (HwApi.boolText true)
  have f0 := state.putIf boot (n := .f0Stored) Node.noConfusion cal.getF0
  have redc := f0.putIf boot (n := .redcStored) Node.noConfusion cal.getRedc
  exact redc.put boot Node.noConfusion _

theorem Boot.readDurations_kept (boot : Boot) (kept : h.Kept present) (effectCount : Nat) :
    (boot.readDurations effectCount h).2.Kept present := by
  unfold Boot.readDurations
  generalize List.range effectCount = indices
  generalize (fun _ => none : Nat → Option (BitVec 32)) = durations
  induction indices generalizing durations h with
  | nil => exact kept
  | cons i indices ih =>
    refine ih ?_ _
    exact (kept.set (fun asp => Node.noConfusion asp) _ _).get Node.noConfusion _ _

theorem Boot.timed_kept (boot : Boot) (present : Node → Bool) (cal : HwCal) :
    (boot.timed present cal).Kept present := by
  have stored := (HwApi.kept_opened present).storeCalibration boot cal
  have counted := stored.get (n := .numWaves) Node.noConfusion boot.numWaves boot.effectCount
  exact (boot.readDurations_kept counted _).put boot Node.noConfusion _

theorem Boot.sized_kept (boot : Boot) (present : Node → Bool) (cal : HwCal) (memory : Object) :
    (boot.sized present cal memory).Kept present := by
  have timed := boot.timed_kept present cal
  simp only [Boot.sized]
  split
  · exact timed.get Node.noConfusion _ _
  · exact timed

theorem install_kept (response : Response) (actuator : Actuator) (present : Node → Bool) (cal : HwCal) (boot : Boot)
    (memory : Object) :
    (install response actuator present cal boot memory).Kept present
      (install response actuator present cal boot memory).world.members.settings :=
  ⟨(boot.sized_kept present cal memory).put boot Node.noConfusion _, rfl⟩

end Keeping

/-! ### The search for the PCM device -/

/-- Whether `/proc/asound/pcm` names a haptic device. -/
def listed (lines : List String) : Bool :=
  lines.any fun line => decide (hapticPcmDeviceSymbol.toList <:+: line.toList)

/-- What a call looks for the device in, if it still looks. -/
def searchedBy : ApiCall × DrivenEnv → List (List String)
  | (.query q, env) => if q.asksCapabilities then [env.procSndPcm] else []
  | (.request _, _) => []

/-- The device counts as found, and is not looked for any more only then. -/
structure Object.Found (found : Bool) (x : Object) : Prop where
  flag : x.members.mHasHapticAlsaDevice = found
  done : x.rest.configHapticAlsaDeviceDone = true → found = true

section Search

variable {found : Bool} {x : Object}

theorem findHapticAlsaDevice_isSome (lines : List String) : (findHapticAlsaDevice lines).isSome = listed lines := by
  rw [findHapticAlsaDevice, Option.isSome_map, List.isSome_find?, listed]

theorem Probe.found_isSome {probe : Probe} (absent : probe.hasAspEnable = false) :
    probe.found.isSome = listed probe.procSndPcm := by
  rw [Probe.found, absent, if_neg Bool.false_ne_true, findHapticAlsaDevice_isSome]

theorem Object.Found.withDevice (now : x.Found found) (device : Option (Option Int × Option Int)) :
    (x.withDevice device).Found (found || device.isSome) := by
  cases device with
  | none => exact (Bool.or_false found).symm ▸ now
  | some line => exact (Bool.or_true found).symm ▸ ⟨rfl, fun _ => rfl⟩

theorem Object.Found.getCapabilities (now : x.Found found) {probe : Probe} (absent : probe.hasAspEnable = false) :
    (x.getCapabilities probe).2.Found (found || listed probe.procSndPcm) := by
  cases done : x.rest.configHapticAlsaDeviceDone with
  | false =>
    rw [getCapabilities_searching x done, ← Probe.found_isSome absent]
    exact now.withDevice _
  | true =>
    rw [getCapabilities_done x done]
    cases now.done done
    exact now

/-- The answer is the flag that is left behind. -/
theorem getCapabilities_external (x : Object) {probe : Probe} (absent : probe.hasAspEnable = false) :
    (x.getCapabilities probe).1.externalControl = (x.getCapabilities probe).2.members.mHasHapticAlsaDevice := by
  cases done : x.rest.configHapticAlsaDeviceDone <;> cases found : findHapticAlsaDevice probe.procSndPcm <;>
    simp [Object.getCapabilities, Object.hasExternalControl, Object.hasHapticAlsaDevice, absent, done, found]

theorem Object.Found.query (now : x.Found found) (num : Numbers) (response : Response) (q : Query) {env : CallEnv}
    (absent : env.probe.hasAspEnable = false) :
    (x.query num response q env).2.Found (found || (q.asksCapabilities && listed env.probe.procSndPcm)) := by
  have asked : (x.asked q env.probe).Found (found || (q.asksCapabilities && listed env.probe.procSndPcm)) := by
    unfold Object.asked
    cases q.asksCapabilities with
    | true => exact now.getCapabilities absent
    | false => exact (Bool.or_false found).symm ▸ now
  obtain ⟨_, _, _, leaves⟩ := x.query_leaves num response q env
  rw [leaves]
  exact ⟨asked.flag, asked.done⟩

variable {present : Node → Bool} {settings : Members} {num : Numbers} {response : Response} {mCalData : CalData}

theorem Installed.Kept.call_found {s : Installed} (kept : s.Kept present settings) (absent : present .aspEnable = false)
    (now : Object.Found found ⟨s.world.members, s.rest⟩) (call : ApiCall × DrivenEnv) :
    let s' := (s.call num response mCalData call).2
    Object.Found (found || (searchedBy call).any listed) ⟨s'.world.members, s'.rest⟩ := by
  obtain ⟨call, env⟩ := call
  cases call with
  | request r =>
    have after := congrArg Members.mHasHapticAlsaDevice (kept.request num r env).fixed
    exact (Bool.or_false found).symm ▸ ⟨after.trans now.flag, now.done⟩
  | query q =>
    have before := kept.before env
    have flag := congrArg Members.mHasHapticAlsaDevice before.fixed
    have begun : Object.Found found ⟨(Driven.progress ⟨s.world, s.api⟩ env.before).world.members, s.rest⟩ :=
      ⟨flag.trans now.flag, now.done⟩
    have none : (env.answers mCalData (Driven.progress ⟨s.world, s.api⟩ env.before).api).probe.hasAspEnable = false :=
      before.api.has_asp.trans absent
    have text : (searchedBy (.query q, env)).any listed = (q.asksCapabilities && listed env.procSndPcm) := by
      cases asks : q.asksCapabilities <;> simp [searchedBy, asks]
    rw [text]
    exact begun.query num response q none

theorem Installed.Kept.after_found {s : Installed} (kept : s.Kept present settings)
    (absent : present .aspEnable = false) (now : Object.Found found ⟨s.world.members, s.rest⟩)
    (calls : List (ApiCall × DrivenEnv)) :
    let s' := s.after num response mCalData calls
    Object.Found (found || (calls.flatMap searchedBy).any listed) ⟨s'.world.members, s'.rest⟩ := by
  induction calls generalizing s found with
  | nil => exact (Bool.or_false found).symm ▸ now
  | cons call calls ih =>
    rw [List.flatMap_cons, List.any_append, ← Bool.or_assoc]
    exact ih (kept.call call) (kept.call_found absent now call)

/-- The constructor has asked twice. -/
theorem construct_found (response : Response) (actuator : Actuator) (hw : Setup) (memory : Object) :
    (construct response actuator hw memory).Found (memory.members.mHasHapticAlsaDevice || hw.found.isSome) := by
  obtain ⟨-, -, flag⟩ := calibrated_numbers actuator hw memory
  have begun : (memory.calibrated actuator hw).Found memory.members.mHasHapticAlsaDevice :=
    ⟨flag, fun done => absurd done (by rw [calibrated_searching]; exact Bool.false_ne_true)⟩
  have searched := begun.withDevice hw.found
  rw [construct_eq]
  simp only [Object.finish, Object.generateBandwidthAmplitudeMap]
  split <;> exact ⟨searched.flag, searched.done⟩

theorem install_found (response : Response) (actuator : Actuator) (cal : HwCal) (boot : Boot) (memory : Object)
    (absent : present .aspEnable = false) :
    let s := install response actuator present cal boot memory
    Object.Found
      (memory.members.mHasHapticAlsaDevice || (listed boot.sizeProcSndPcm || listed boot.limitProcSndPcm))
      ⟨s.world.members, s.rest⟩ := by
  have size : (((boot.timed present cal).probe boot.sizeProcSndPcm).found).isSome =
      listed boot.sizeProcSndPcm :=
    Probe.found_isSome ((boot.timed_kept present cal).has_asp.trans absent)
  have limit : (((boot.sized present cal memory).probe boot.limitProcSndPcm).found).isSome =
      listed boot.limitProcSndPcm :=
    Probe.found_isSome ((boot.sized_kept present cal memory).has_asp.trans absent)
  have found : (boot.setup present cal memory).found.isSome =
      (listed boot.sizeProcSndPcm || listed boot.limitProcSndPcm) := by
    rw [← size, ← limit, ← Option.isSome_or]
    rfl
  rw [← found]
  exact construct_found response actuator (boot.setup present cal memory) memory

end Search

/-! ### Capabilities and records -/

section Runs

variable (num : Numbers) (response : Response) (actuator : Actuator) (present : Node → Bool) (boot : Boot) (memory : Object)

/-- After any calls, amplitude control is announced if `cp_dig_scale` is there or something has been written to it in
vain, and the same goes for `pwle` if chirps are enabled. For `asp_enable` the answer is always right. Without it,
external control is announced once the PCM device has been found, but also if the member for that, which the
constructor does not set, happened to be true. No write to a file that is not there succeeds. -/
theorem capabilities_after_calls (cal : HwCal) (calls : List (ApiCall × DrivenEnv)) :
    let s := (install response actuator present cal boot memory).after num response cal.mCalData calls
    (∀ lines,
      let capabilities := (Object.getCapabilities ⟨s.world.members, s.rest⟩ (s.api.probe lines)).1
      let searched := [boot.sizeProcSndPcm, boot.limitProcSndPcm] ++ calls.flatMap searchedBy ++ [lines]
      capabilities.amplitudeControl = (present .cpDigScale || s.api.tried .cpDigScale) ∧
      capabilities.frequencyControl = ((present .pwle || s.api.tried .pwle) && cal.isChirpEnabled) ∧
      capabilities.composePwleEffects = ((present .pwle || s.api.tried .pwle) && cal.isChirpEnabled) ∧
      capabilities.externalControl =
        (present .aspEnable || memory.members.mHasHapticAlsaDevice || searched.any listed)) ∧
    (s.api.tried .aspEnable = true → present .aspEnable = true) ∧
    ∀ n accepted, present n = false → s.api.writes n accepted = false := by
  intro s
  have start := install_kept response actuator present cal boot memory
  have kept : s.Kept present _ := start.after calls
  have enabled : s.world.members.mIsChirpEnabled = cal.isChirpEnabled :=
    congrArg Members.mIsChirpEnabled kept.settings
  have sound := kept.api.sound
  refine ⟨fun lines => ⟨sound.has .cpDigScale, ?_, ?_, ?_⟩, ?_, ?_⟩
  · have chirp := (getCapabilities_chirp ⟨s.world.members, s.rest⟩ (s.api.probe lines)).2
    rw [chirp, ← enabled]
    exact congrArg (· && s.world.members.mIsChirpEnabled) (sound.has .pwle)
  · have chirp := (getCapabilities_chirp ⟨s.world.members, s.rest⟩ (s.api.probe lines)).1
    rw [chirp, ← enabled]
    exact congrArg (· && s.world.members.mIsChirpEnabled) (sound.has .pwle)
  · have has : (s.api.probe lines).hasAspEnable = present .aspEnable := kept.api.has_asp
    cases there : present .aspEnable with
    | true => simp [Object.getCapabilities, Object.hasExternalControl, has, there]
    | false =>
      have absent := has.trans there
      have built := install_found response actuator cal boot memory there
      have found : Object.Found _ ⟨s.world.members, s.rest⟩ := start.after_found there built calls
      rw [getCapabilities_external _ absent]
      refine (found.getCapabilities absent).flag.trans ?_
      simp [HwApi.probe, Bool.or_assoc]
  · intro touched
    obtain ⟨a, here, asp⟩ := List.any_eq_true.mp touched
    exact kept.api.asp a here (of_decide_eq_true asp)
  · exact fun n accepted absent => sound.not_writes absent accepted

/-- What `dump` shows of the accesses to the driver are the last ones, in their order. -/
theorem records_after_calls (cal : HwCal) (calls : List (ApiCall × DrivenEnv)) :
    let s := (install response actuator present cal boot memory).after num response cal.mCalData calls
    s.api.debugRecords = (s.api.accesses.drop (s.api.accesses.length - HwApi.recordsSize)).map Access.line :=
  ((install_kept response actuator present cal boot memory).after calls).api.sound.debugRecords

end Runs

end Pdx215.Vibrator
