import Pdx215.Vibrator.Calls

/-! Rules for the methods: each makes a number of minor steps, which lead to a refusal, to the shared end of
`on` or to that of `composePwle`. What the minor steps keep is all that has to be known about them. -/
namespace Pdx215.Vibrator

open Effect

/-- No state in the middle of a method matters by itself: what is written stays in the log. -/
def wpCall {α : Type} (allowed : Outcome → Prop) (p : Call α) (post : α → Nat → World → Prop) (n : Nat)
    (w : World) : Prop :=
  wp perform (fun _ => allowed) (fun _ => True) p post n w

theorem World.progress_inv {kept : World → Prop} (keeps : ∀ w i, kept w → kept (w.taskStep i)) {w : World}
    (now : kept w) (is : List Nat) : kept (w.progress is) :=
  is.foldlRecOn World.taskStep now fun w now i _ => keeps w i now

/-- The tasks change nothing that depends neither on their stages nor on the ends of vibrations. -/
theorem World.progress_same {β : Type} {f : World → β} (stage : ∀ v i s, f (v.setStage i s) = f v)
    (ends : ∀ v i, f { v with log := .deactivate i :: v.log } = f v) (w : World) (is : List Nat) :
    f (w.progress is) = f w := by
  have keeps (v : World) (i : Nat) (same : f v = f w) : f (v.taskStep i) = f w := by
    simp only [World.taskStep]
    split
    case h_1 => exact (stage v i _).trans same
    case h_2 => exact (ends (v.setStage i .deactivated) i).trans ((stage v i _).trans same)
    case h_3 => exact (stage v i _).trans same
    case h_4 => exact same
  exact World.progress_inv keeps rfl is

theorem World.progress_members (w : World) (is : List Nat) : (w.progress is).members = w.members :=
  World.progress_same (fun _ _ _ => rfl) (fun _ _ => rfl) w is

/-! ### Kinds of steps -/

/-- Steps that neither start a vibration nor concern tasks. -/
def Act.Idle : Act → Prop
  | .write op => op ≠ .setActivate true
  | .launch | .assign => False
  | _ => True

/-- Idle steps that do not concern external control either. -/
def Act.Minor : Act → Prop
  | .look | .hasAspEnable | .setActiveId _ | .waitFor => True
  | .write op => op ≠ .setActivate true
  | _ => False

def Act.Control : Act → Prop
  | .look | .hasAspEnable | .pcmOpen | .pcmPrepare | .pcmStart | .pcmClose | .setUnderExternalControl _ => True
  | .write (.setGlobalScale _) | .write (.setAspEnable _) => True
  | _ => False

def HwWrite.Starts : HwWrite → Prop
  | .setEffectScale _ | .setEffectIndex _ | .setDuration _ | .setActivate true => True
  | _ => False

theorem Act.Control.idle {a : Act} (control : a.Control) : a.Idle := by
  cases a with
  | write op =>
    cases op with
    | setActivate value => exact control.elim
    | _ => nofun
  | launch => exact control
  | assign => exact control
  | _ => trivial

theorem Act.Minor.idle {a : Act} (minor : a.Minor) : a.Idle := by
  cases a with
  | write op => exact minor
  | launch => exact minor
  | assign => exact minor
  | _ => trivial

theorem not_activated {op : HwWrite} (other : op ≠ .setActivate true) {r : Request} {ok control : Bool}
    {pending : Stage} {task : Nat} : (Entry.service r op ok control pending task).activated = none := by
  cases op with
  | setActivate value =>
    cases value with
    | false => rfl
    | true => exact absurd rfl other
  | _ => rfl

section Kinds

variable {num : Numbers} {kind : Act → Prop}

theorem all_load {α : Type} {k : Members → Call α} (look : kind .look) (rest : ∀ m, (k m).All kind) :
    (load k).All kind :=
  ⟨look, rest⟩

theorem all_act {a : Act} (one : kind a) : (act a).All kind := ⟨one, fun _ => trivial⟩

theorem all_tryPut {op : HwWrite} (one : kind (.write op)) : (tryPut op).All kind := ⟨one, fun _ => trivial⟩

theorem all_orReturn {first rest : Call Status} (before : first.All kind) (after : rest.All kind) :
    (orReturn first rest).All kind :=
  before.bind fun _ => Prog.all_ite after trivial

theorem all_put {α : Type} {op : HwWrite} {rest : Call α} (one : kind (.write op)) (after : rest.All kind) :
    (put op >>= fun _ => rest).All kind :=
  ⟨one, fun _ => after⟩

theorem all_startTask (launch : kind .launch) (assign : kind .assign) : startTask.All kind :=
  (all_act launch).bind fun _ => (all_act assign).bind fun _ => trivial

theorem all_activate (write : ∀ op : HwWrite, op.Starts → kind (.write op)) (setActiveId : ∀ id, kind (.setActiveId id))
    (launch : kind .launch) (assign : kind .assign) (timeoutMs effectIndex : BitVec 32) :
    (activate timeoutMs effectIndex).All kind := by
  apply all_put (write _ (by trivial))
  apply all_put (write _ (by trivial))
  apply all_put (write _ (by trivial))
  exact (all_act (setActiveId _)).bind fun _ => all_startTask launch assign

theorem all_activatePwle (write : ∀ op : HwWrite, op.Starts → kind (.write op)) (launch : kind .launch)
    (assign : kind .assign) (totalDuration : BitVec 32) : (activatePwle num totalDuration).All kind := by
  have scaled : (setEffectAmplitude num voltageScaleMax.toNat voltageScaleMax.toNat).All kind :=
    all_tryPut (write _ (by trivial))
  apply scaled.bind
  intro _
  apply all_put (write _ (by trivial))
  apply all_put (write _ (by trivial))
  apply all_put (write _ (by trivial))
  exact all_startTask launch assign

theorem minor_setGlobalAmplitude (set : Bool) : (setGlobalAmplitude num set).All Act.Minor :=
  all_load trivial fun _ => all_tryPut nofun

theorem minor_setEffectAmplitude (amplitude maximum : Rat) :
    (setEffectAmplitude num amplitude maximum).All Act.Minor :=
  all_tryPut nofun

theorem minor_off : (off num).All Act.Minor := by
  apply (minor_setGlobalAmplitude false).bind
  intro _
  have cleared : (put (.setF0Offset 0)).All Act.Minor := all_act nofun
  apply cleared.bind
  intro _
  apply all_orReturn (all_tryPut nofun)
  exact (all_act trivial).bind fun _ => trivial

theorem control_setGlobalAmplitude (set : Bool) : (setGlobalAmplitude num set).All Act.Control :=
  all_load trivial fun _ => all_tryPut trivial

theorem control_enableHapticPcmAmp (enable : Bool) : (enableHapticPcmAmp enable).All Act.Control := by
  have fail : pcmFail.All Act.Control := (all_act trivial).bind fun _ => trivial
  apply Prog.all_ite
  · refine ⟨trivial, fun (ready : Bool) => Prog.all_ite fail ⟨trivial, fun (prepared : Bool) => Prog.all_ite fail ?_⟩⟩
    exact ⟨trivial, fun (started : Bool) => Prog.all_ite fail trivial⟩
  · apply all_load trivial
    intro m
    exact Prog.all_ite ((all_act trivial).bind fun _ => trivial) Prog.all_ret

theorem control_switchControl (enabled : Bool) : (switchControl enabled).All Act.Control := by
  apply all_orReturn
  · apply all_load trivial
    intro m
    exact Prog.all_ite ((control_enableHapticPcmAmp enabled).bind fun _ => trivial) Prog.all_ret
  · exact ⟨trivial, fun (has : Bool) => Prog.all_ite (all_tryPut trivial) Prog.all_ret⟩

theorem control_setExternalControl (enabled : Bool) : (setExternalControl num enabled).All Act.Control := by
  apply (control_setGlobalAmplitude enabled).bind
  intro _
  apply all_load trivial
  intro m
  apply Prog.all_ite Prog.all_ret
  apply all_orReturn (Prog.all_ite (control_switchControl (!enabled)) Prog.all_ret)
  apply all_orReturn (control_switchControl enabled)
  exact (all_act trivial).bind fun _ => trivial

theorem control_forceDisable : (forceDisable num).All Act.Control := by
  apply all_load trivial
  intro m
  exact Prog.all_ite ((control_setExternalControl false).bind fun _ => trivial) Prog.all_ret

theorem idle_setExternalControl (enabled : Bool) : (setExternalControl num enabled).All Act.Idle :=
  (control_setExternalControl enabled).mono fun _ => Act.Control.idle

theorem idle_forceDisable : (forceDisable num).All Act.Idle := control_forceDisable.mono fun _ => Act.Control.idle

theorem all_onIndex (control : ∀ a : Act, a.Control → kind a) (write : ∀ op : HwWrite, op.Starts → kind (.write op))
    (waitFor : kind .waitFor) (setActiveId : ∀ id, kind (.setActiveId id)) (launch : kind .launch)
    (assign : kind .assign) (timeoutMs effectIndex : BitVec 32) : (onIndex num timeoutMs effectIndex).All kind := by
  apply (control_forceDisable.mono control).bind
  intro _
  refine ⟨waitFor, fun (ready : Bool) => Prog.all_ite Prog.all_ret ?_⟩
  exact all_activate write setActiveId launch assign timeoutMs effectIndex

end Kinds

/-! ### What is seen of the log -/

section Seen

variable {β : Type} {f : Entry → Option β}

/-- The steps that an observer of some writes does not see. -/
def Act.Unseen (f : Entry → Option β) : Act → Prop
  | .write op => ∀ r ok control pending task, f (.service r op ok control pending task) = none
  | _ => True

variable (ends : ∀ i, f (.deactivate i) = none)

include ends

theorem World.seen_progress (w : World) (is : List Nat) : (w.progress is).log.filterMap f = w.log.filterMap f :=
  World.progress_same (f := fun v => v.log.filterMap f) (fun _ _ _ => rfl)
    (fun _ i => List.filterMap_cons_none (ends i)) w is

theorem Act.Unseen.perform {a : Act} (unseen : a.Unseen f) (o : Outcome) (w : World) :
    (Vibrator.perform a o w).2.log.filterMap f = w.log.filterMap f := by
  have before := World.seen_progress ends w o.tasks
  cases a with
  | write op => exact (List.filterMap_cons_none (unseen _ _ _ _ _)).trans before
  | assign => exact (World.seen_progress ends _ _).trans before
  | _ => exact before

theorem perform_seen {op : HwWrite} {value : β}
    (seen : ∀ r ok control pending task, f (.service r op ok control pending task) = some value) (o : Outcome)
    (w : World) : (perform (.write op) o w).2.log.filterMap f = value :: w.log.filterMap f :=
  (List.filterMap_cons_some (seen _ _ _ _ _)).trans (congrArg (value :: ·) (World.seen_progress ends w o.tasks))

end Seen

/-! ### Rules -/

section Steps

variable {allowed : Outcome → Prop} {kept : World → Prop} {n : Nat} {w : World}

theorem wp_kept {α : Type} {kind : Act → Prop} {p : Call α} (all : p.All kind)
    (keeps : ∀ a, kind a → ∀ o w, kept w → kept (perform a o w).2) (now : kept w) :
    wpCall allowed p (fun _ _ v => kept v) n w :=
  wp_all all (fun _ _ => trivial) (fun a ofKind _ o w _ now => keeps a ofKind o w now) now

theorem wp_load {α : Type} {k : Members → Call α} {post : α → Nat → World → Prop}
    (rest : ∀ o, allowed o → wpCall allowed (k (w.progress o.tasks).members) post (n + 1) (w.progress o.tasks)) :
    wpCall allowed (load k) post n w :=
  ⟨trivial, rest⟩

theorem wp_hasAspEnable {α : Type} {k : Bool → Call α} {post : α → Nat → World → Prop}
    (rest : ∀ o, allowed o → wpCall allowed (k o.hasAspEnable) post (n + 1) (w.progress o.tasks)) :
    wpCall allowed (.call .hasAspEnable k) post n w :=
  ⟨trivial, rest⟩

theorem wp_waitFor {α : Type} {k : Bool → Call α} {post : α → Nat → World → Prop}
    (rest : ∀ v is, v = w.progress is →
      wpCall allowed (k (decide (v.tasks v.mAsyncHandle = .done))) post (n + 1) v) :
    wpCall allowed (.call .waitFor k) post n w :=
  ⟨trivial, fun o _ => rest _ o.tasks rfl⟩

theorem wp_act {α : Type} {a : Act} {f : Unit → Call α} {mid : World → Prop}
    {post : α → Nat → World → Prop} (one : ∀ o, mid (perform a o w).2)
    (rest : ∀ m v, mid v → wpCall allowed (f ()) post m v) : wpCall allowed (act a >>= f) post n w :=
  ⟨trivial, fun o _ => rest _ _ (one o)⟩

theorem wp_orReturn {first rest : Call Status} {mid : World → Prop} {post : Status → Nat → World → Prop}
    (before : wpCall allowed first (fun _ _ v => mid v) n w) (quits : ∀ status m v, mid v → post status m v)
    (after : ∀ m v, mid v → wpCall allowed rest post m v) : wpCall allowed (orReturn first rest) post n w := by
  apply wp_seq before
  intro status m v _ now
  apply wp_ite
  · exact fun _ => after m v now
  · exact fun _ => ⟨trivial, quits status m v now⟩

theorem wp_orReturn_ok {first rest : Call Status} {mid : World → Prop} {post : Status → Nat → World → Prop}
    (before : wpCall allowed first (fun status _ v => status = .ok ∧ mid v) n w)
    (after : ∀ m v, mid v → wpCall allowed rest post m v) : wpCall allowed (orReturn first rest) post n w := by
  apply wp_seq before
  rintro _ m v _ ⟨rfl, now⟩
  exact after m v now

section Seen

variable {α β : Type} {f : Entry → Option β} {before : List β} {op : HwWrite} {g : Unit → Call α}
  {post : α → Nat → World → Prop} (ends : ∀ i, f (.deactivate i) = none) (now : w.log.filterMap f = before)

include ends now

theorem wp_unseen {p : Call α} (unseen : p.All (Act.Unseen f)) :
    wpCall allowed p (fun _ _ v => v.log.filterMap f = before) n w :=
  wp_kept unseen (fun _ unseen o v same => (unseen.perform ends o v).trans same) now

theorem wp_put_unseen (unseen : (Act.write op).Unseen f)
    (rest : ∀ m v, v.log.filterMap f = before → wpCall allowed (g ()) post m v) :
    wpCall allowed (put op >>= g) post n w :=
  wp_act (fun o => (unseen.perform ends o w).trans now) rest

variable {value : β} (seen : ∀ r ok control pending task, f (.service r op ok control pending task) = some value)

include seen

theorem wp_put_seen (rest : ∀ m v, v.log.filterMap f = value :: before → wpCall allowed (g ()) post m v) :
    wpCall allowed (put op >>= g) post n w :=
  wp_act (fun o => (perform_seen ends seen o w).trans (congrArg (value :: ·) now)) rest

theorem wp_tryPut_seen : wpCall allowed (tryPut op) (fun _ _ v => v.log.filterMap f = value :: before) n w :=
  ⟨trivial, fun o _ => ⟨trivial, (perform_seen ends seen o w).trans (congrArg (value :: ·) now)⟩⟩

end Seen

end Steps

section Methods

variable {num : Numbers} {allowed : Outcome → Prop} {kept fired ended : World → Prop} {n : Nat} {w : World}
  (keeps : ∀ a : Act, a.Minor → ∀ o v, kept v → kept (perform a o v).2)

include keeps

theorem wp_put {α : Type} {op : HwWrite} {f : Unit → Call α} {post : α → Nat → World → Prop} (now : kept w)
    (minor : op ≠ .setActivate true) (rest : ∀ m v, kept v → wpCall allowed (f ()) post m v) :
    wpCall allowed (put op >>= f) post n w :=
  wp_act (fun o => keeps (.write op) minor o w now) rest

section Firing

variable (fires : ∀ o v, kept v → fired (perform (.write (.setActivate true)) o v).2)
  (starts : ∀ m v, fired v → wpCall allowed startTask (fun _ _ u => ended u) m v)

include fires starts

theorem wp_activate (later : ∀ a : Act, a.Minor → ∀ o v, fired v → fired (perform a o v).2)
    (timeoutMs effectIndex : BitVec 32) (now : kept w) :
    wpCall allowed (activate timeoutMs effectIndex) (fun _ _ v => ended v) n w := by
  apply wp_put keeps now (by nofun)
  intro m v now
  apply wp_put keeps now (by nofun)
  intro m v now
  apply wp_act fun o => fires o v now
  intro m v now
  exact wp_act (fun o => later (.setActiveId _) trivial o v now) starts

theorem wp_activatePwle (totalDuration : BitVec 32) (now : kept w) :
    wpCall allowed (activatePwle num totalDuration) (fun _ _ v => ended v) n w := by
  apply wp_seq (wp_kept (minor_setEffectAmplitude _ _) keeps now)
  intro _ m v _ now
  apply wp_put keeps now (by nofun)
  intro m v now
  apply wp_put keeps now (by nofun)
  intro m v now
  exact wp_act (fun o => fires o v now) starts

end Firing

theorem wp_composePwle (quits : ∀ v, kept v → ended v)
    (pwle : ∀ totalDuration m v, kept v →
      wpCall allowed (activatePwle num totalDuration) (fun _ _ u => ended u) m v)
    (composite : List PrimitivePwle) (now : kept w) :
    wpCall allowed (composePwle num composite) (fun _ _ v => ended v) n w := by
  apply wp_load
  intro o _
  have now := keeps .look trivial o w now
  split
  · exact ⟨trivial, quits _ now⟩
  · exact wp_orReturn (wp_kept (all_tryPut (by nofun)) keeps now) (fun _ _ v => quits v) (pwle _)

section ViaOn

variable (quits : ∀ v, kept v → ended v)
  (index : ∀ timeoutMs effectIndex m v, kept v →
    wpCall allowed (onIndex num timeoutMs effectIndex) (fun _ _ u => ended u) m v)

include index

theorem wp_on (timeoutMs : BitVec 32) (now : kept w) :
    wpCall allowed (on num timeoutMs) (fun _ _ v => ended v) n w := by
  apply wp_seq (wp_kept (minor_setGlobalAmplitude true) keeps now)
  intro _ m v _ now
  apply wp_load
  intro o _
  exact wp_put keeps (keeps .look trivial o v now) (by nofun) (index _ _)

include quits

theorem wp_performEffectIndex (effectIndex volLevel : BitVec 32) (effectQueue : String) (now : kept w) :
    wpCall allowed (performEffectIndex num effectIndex volLevel effectQueue) (fun _ _ v => ended v) n w := by
  apply wp_ite
  · intro _
    apply wp_orReturn (wp_kept (all_tryPut (by nofun)) keeps now) fun _ _ v => quits v
    intro m v now
    exact wp_seq (wp_kept (minor_setEffectAmplitude _ _) keeps now) fun _ m v _ => index _ _ m v
  · intro _
    exact wp_seq (wp_kept (minor_setEffectAmplitude _ _) keeps now) fun _ m v _ => index _ _ m v

theorem wp_performEffect (effect : HapticEffect) (strength : EffectStrength) (now : kept w) :
    wpCall allowed (performEffect num effect strength) (fun _ _ v => ended v) n w := by
  apply wp_load
  intro o _
  have now := keeps .look trivial o w now
  split
  all_goals try split
  all_goals first
    | exact ⟨trivial, quits _ now⟩
    | exact wp_seq (wp_performEffectIndex keeps quits index _ _ _ now) fun _ m v _ done => ⟨trivial, done⟩

theorem wp_compose (composite : List CompositeEffect) (now : kept w) :
    wpCall allowed (compose num composite) (fun _ _ v => ended v) n w := by
  apply wp_load
  intro o _
  have now := keeps .look trivial o w now
  split
  · exact ⟨trivial, quits _ now⟩
  · exact wp_performEffectIndex keeps quits index _ _ _ now

end ViaOn

end Methods

/-- The requests that end in the shared part of `on`. -/
def Request.ViaOn : Request → Prop
  | .on _ | .perform _ _ | .compose _ => True
  | _ => False

theorem wp_viaOn {num : Numbers} {allowed : Outcome → Prop} {kept ended : World → Prop} {n : Nat} {w : World}
    (keeps : ∀ a : Act, a.Minor → ∀ o v, kept v → kept (perform a o v).2) (quits : ∀ v, kept v → ended v)
    (index : ∀ timeoutMs effectIndex m v, kept v →
      wpCall allowed (onIndex num timeoutMs effectIndex) (fun _ _ u => ended u) m v)
    {r : Request} (via : r.ViaOn) (now : kept w) :
    wpCall allowed (r.program num) (fun _ _ v => ended v) n w := by
  cases r with
  | on timeoutMs => exact wp_on keeps index timeoutMs now
  | perform effect strength =>
    exact wp_seq (wp_performEffect keeps quits index effect strength now) fun _ _ _ _ done => ⟨trivial, done⟩
  | compose composite => exact wp_compose keeps quits index composite now
  | composePwle _ => exact via.elim
  | setExternalControl _ => exact via.elim
  | off => exact via.elim

end Pdx215.Vibrator
