import Pdx215.Vibrator.Rules

/-! Which vibration requests leave the hardware alone when they are rejected. Invalid arguments are found before
the first write. `on` finds out that the last vibration is still pending after the writes that prepare the next. -/
namespace Pdx215.Vibrator

open Effect

/-! ### Arguments -/

def CompositeEffect.Valid (e : CompositeEffect) : Prop :=
  0 ≤ e.scale ∧ e.scale ≤ 1 ∧ e.delayMs ≤ composeDelayMaxMs ∧ ∀ value, e.primitive ≠ .other value

/-- Neither a pause nor an effect. -/
def CompositeEffect.Empty (e : CompositeEffect) : Prop := e.delayMs = 0 ∧ e.primitive = .noop

/-- The arguments that `on`, `perform` and `compose` take. -/
def Request.Accepted : Request → Prop
  | .on _ => True
  | .perform effect strength => (∀ value, effect ≠ .other value) ∧ ∀ value, strength ≠ .other value
  | .compose composite =>
    composite.length ≤ composeSizeMax ∧ (∀ e ∈ composite, e.Valid) ∧ ∃ e ∈ composite, ¬ e.Empty
  | _ => False

theorem getPrimitiveDetails_ok {p : CompositePrimitive} (known : ∀ value, p ≠ .other value) (sounds : p ≠ .noop) :
    ∃ effectIndex, getPrimitiveDetails p = .ok effectIndex := by
  cases p with
  | noop => exact absurd rfl sounds
  | other value => exact absurd rfl (known value)
  | _ => exact ⟨_, rfl⟩

theorem append_comma_ne_empty (text : String) : text ++ "," ≠ "" :=
  fun empty => absurd (String.append_eq_empty_iff.mp empty).2 (by decide)

theorem composeEffect_ok (m : Members) {e : CompositeEffect} (valid : e.Valid) :
    ∃ added, m.composeEffect e = .ok added ∧ (added = "" ↔ e.Empty) := by
  obtain ⟨lower, upper, delay, known⟩ := valid
  have scale : ¬ (e.scale < 0 ∨ 1 < e.scale) := not_or.mpr ⟨not_lt.mpr lower, not_lt.mpr upper⟩
  simp only [Members.composeEffect, if_neg scale, if_neg (not_lt.mpr delay)]
  by_cases sounds : e.primitive ≠ .noop
  · obtain ⟨effectIndex, found⟩ := getPrimitiveDetails_ok known sounds
    have heard : ¬ e.Empty := fun empty => sounds empty.2
    simp only [if_pos sounds, found]
    split <;> exact ⟨_, rfl, iff_of_false (append_comma_ne_empty _) heard⟩
  · simp only [if_neg sounds]
    split
    · rename_i pause
      exact ⟨_, rfl, iff_of_false (append_comma_ne_empty _) fun empty => pause empty.1⟩
    · rename_i nothing
      exact ⟨_, rfl, iff_of_true rfl ⟨not_not.mp nothing, not_not.mp sounds⟩⟩

theorem composeEffect_error (m : Members) {e : CompositeEffect} (invalid : ¬ e.Valid) :
    ∃ status, m.composeEffect e = .error status := by
  simp only [Members.composeEffect]
  split
  · exact ⟨_, rfl⟩
  rename_i scale
  obtain ⟨lower, upper⟩ := not_or.mp scale
  by_cases long : composeDelayMaxMs < e.delayMs
  · have pause : e.delayMs ≠ 0 := by
      rw [composeDelayMaxMs] at long
      omega
    simp only [if_pos pause, if_pos long]
    exact ⟨_, rfl⟩
  · have unknown : ∃ value, e.primitive = .other value := by
      by_contra known
      exact invalid ⟨not_lt.mp lower, not_lt.mp upper, not_lt.mp long, fun value here => known ⟨value, here⟩⟩
    obtain ⟨value, primitive⟩ := unknown
    simp only [if_neg long, primitive, ne_eq, reduceCtorEq, not_false_eq_true, if_true, getPrimitiveDetails]
    split <;> exact ⟨_, rfl⟩

theorem composeEffects_ok (m : Members) {es : List CompositeEffect} (valid : ∀ e ∈ es, e.Valid)
    (effectQueue : String) :
    ∃ added, m.composeEffects es effectQueue = .ok added ∧
      (added = "" ↔ effectQueue = "" ∧ ∀ e ∈ es, e.Empty) := by
  induction es generalizing effectQueue with
  | nil => exact ⟨effectQueue, rfl, by simp⟩
  | cons e es ih =>
    obtain ⟨text, composed, empty⟩ := composeEffect_ok m (valid e List.mem_cons_self)
    obtain ⟨added, rest, all⟩ := ih (fun e later => valid e (List.mem_cons_of_mem _ later)) (effectQueue ++ text)
    refine ⟨added, ?_, ?_⟩
    · simp only [Members.composeEffects, composed]
      exact rest
    · rw [all, List.forall_mem_cons, ← empty, String.append_eq_empty_iff, and_assoc]

theorem composeEffects_error (m : Members) {es : List CompositeEffect} (invalid : ¬ ∀ e ∈ es, e.Valid)
    (effectQueue : String) : ∃ status, m.composeEffects es effectQueue = .error status := by
  induction es generalizing effectQueue with
  | nil => exact absurd (fun _ none => absurd none List.not_mem_nil) invalid
  | cons e es ih =>
    by_cases valid : e.Valid
    · obtain ⟨text, composed, _⟩ := composeEffect_ok m valid
      obtain ⟨status, rest⟩ := ih (fun all => invalid (List.forall_mem_cons.mpr ⟨valid, all⟩)) (effectQueue ++ text)
      refine ⟨status, ?_⟩
      simp only [Members.composeEffects, composed]
      exact rest
    · obtain ⟨status, failed⟩ := composeEffect_error m valid
      refine ⟨status, ?_⟩
      simp only [Members.composeEffects, failed]
      rfl

theorem composeQueue_ok (m : Members) {composite : List CompositeEffect}
    (accepted : (Request.compose composite).Accepted) :
    ∃ effectQueue, m.composeQueue composite = .ok effectQueue := by
  obtain ⟨small, valid, e, here, sounds⟩ := accepted
  obtain ⟨effectQueue, composed, empty⟩ := composeEffects_ok m valid ""
  have heard : effectQueue ≠ "" := fun nothing => sounds ((empty.mp nothing).2 e here)
  refine ⟨effectQueue ++ "0", ?_⟩
  simp only [Members.composeQueue, if_neg (not_lt.mpr small), composed]
  exact if_neg heard

theorem composeQueue_error (m : Members) {composite : List CompositeEffect}
    (refused : ¬ (Request.compose composite).Accepted) : ∃ status, m.composeQueue composite = .error status := by
  simp only [Members.composeQueue]
  split
  · exact ⟨_, rfl⟩
  rename_i small
  by_cases valid : ∀ e ∈ composite, e.Valid
  · obtain ⟨effectQueue, composed, empty⟩ := composeEffects_ok m valid ""
    have nothing : effectQueue = "" := by
      refine empty.mpr ⟨rfl, fun e here => ?_⟩
      by_contra sounds
      exact refused ⟨not_lt.mp small, valid, e, here, sounds⟩
    refine ⟨.illegalArgument, ?_⟩
    simp only [composed]
    exact if_pos nothing
  · obtain ⟨status, failed⟩ := composeEffects_error m valid ""
    refine ⟨status, ?_⟩
    simp only [failed]
    rfl

theorem getSimpleDetails_ok (m : Members) {effect : HapticEffect} {strength : EffectStrength}
    (indexed : effect.index ≠ none) (known : ∀ value, strength ≠ .other value) :
    ∃ d, m.getSimpleDetails effect strength = .ok d := by
  obtain ⟨effectIndex, found⟩ := Option.ne_none_iff_exists'.mp indexed
  simp only [Members.getSimpleDetails, found]
  cases strength with
  | other value => exact absurd rfl (known value)
  | _ => exact ⟨_, rfl⟩

theorem getCompoundDetails_ok (m : Members) {strength : EffectStrength} (known : ∀ value, strength ≠ .other value) :
    ∃ d, m.getCompoundDetails .doubleClick strength = .ok d := by
  obtain ⟨first, click⟩ := getSimpleDetails_ok m (show HapticEffect.click.index ≠ none by decide) known
  obtain ⟨second, heavyClick⟩ := getSimpleDetails_ok m (show HapticEffect.heavyClick.index ≠ none by decide) known
  simp only [Members.getCompoundDetails, click, heavyClick]
  exact ⟨_, rfl⟩

/-! ### Accepted requests -/

section Accepted

variable {num : Numbers} {allowed : Outcome → Prop} {kept : World → Prop} {post : Status → World → Prop} {n : Nat}
  {w : World} (looks : ∀ o, allowed o → ∀ v, kept v → kept (v.progress o.tasks))
  (plays : ∀ effectIndex volLevel effectQueue m v, kept v →
    wpCall allowed (performEffectIndex num effectIndex volLevel effectQueue) (fun status _ u => post status u) m v)

include looks plays

theorem wp_perform_accepted {effect : HapticEffect} {strength : EffectStrength}
    (accepted : (Request.perform effect strength).Accepted) (now : kept w) :
    wpCall allowed ((Request.perform effect strength).program num) (fun status _ u => post status u) n w := by
  refine wp_bind (wp_load fun o here => ?_)
  have now := looks o here w now
  have simple (indexed : effect.index ≠ none) := getSimpleDetails_ok (w.progress o.tasks).members indexed accepted.2
  cases effect with
  | other value => exact absurd rfl (accepted.1 value)
  | doubleClick =>
    obtain ⟨d, compound⟩ := getCompoundDetails_ok (w.progress o.tasks).members accepted.2
    simp only [compound]
    exact wp_seq (plays _ _ _ _ _ now) fun _ _ _ _ done => ⟨trivial, trivial, done⟩
  | _ =>
    obtain ⟨d, details⟩ := simple (by decide)
    simp only [details]
    exact wp_seq (plays _ _ _ _ _ now) fun _ _ _ _ done => ⟨trivial, trivial, done⟩

theorem wp_compose_accepted {composite : List CompositeEffect} (accepted : (Request.compose composite).Accepted)
    (now : kept w) :
    wpCall allowed ((Request.compose composite).program num) (fun status _ u => post status u) n w := by
  refine wp_load fun o here => ?_
  obtain ⟨effectQueue, composed⟩ := composeQueue_ok (w.progress o.tasks).members accepted
  rw [composed]
  exact plays _ _ _ _ _ (looks o here w now)

end Accepted

/-! ### Requests that get as far as `on` -/

def HwWrite.drives : HwWrite → Bool
  | .setAspEnable _ => false
  | _ => true

/-- The service writes to the driver, and not to its `asp_enable`. -/
def Entry.drives : Entry → Bool
  | .service _ op _ _ _ _ => op.drives
  | .deactivate _ => false

section ViaOn

variable {num : Numbers} {allowed : Outcome → Prop} {kept later : World → Prop} {post : Status → World → Prop}
  {n : Nat} {w : World} (fine : ∀ o, allowed o → ∀ op, o.write op = true)
  (drives : ∀ op : HwWrite, op.drives = true → ∀ o, allowed o → ∀ v, kept v → later (perform (.write op) o v).2)
  (keeps : ∀ a : Act, a.Idle → ∀ o, allowed o → ∀ v, later v → later (perform a o v).2)
  (index : ∀ timeoutMs effectIndex m v, later v →
    wpCall allowed (onIndex num timeoutMs effectIndex) (fun status _ u => post status u) m v)

theorem wp_idle {α : Type} {p : Call α} (all : p.All Act.Idle)
    (keeps : ∀ a : Act, a.Idle → ∀ o, allowed o → ∀ v, later v → later (perform a o v).2) (now : later w) :
    wpCall allowed p (fun _ _ v => later v) n w :=
  wp_all all (fun _ _ => trivial) (fun a idle _ o v here now => keeps a idle o here v now) now

include fine drives in
theorem wp_tryPut_drives {op : HwWrite} (driving : op.drives = true) (now : kept w) :
    wpCall allowed (tryPut op) (fun status _ v => status = .ok ∧ later v) n w :=
  ⟨trivial, fun o here => ⟨trivial, if_pos (fine o here op), drives op driving o here w now⟩⟩

include fine drives keeps index

theorem wp_performEffectIndex_drives (effectIndex volLevel : BitVec 32) (effectQueue : String) (now : kept w) :
    wpCall allowed (performEffectIndex num effectIndex volLevel effectQueue) (fun status _ u => post status u) n w := by
  refine wp_ite (fun _ => ?_) fun _ => ?_
  · refine wp_orReturn_ok (wp_tryPut_drives fine drives rfl now) fun m v now => ?_
    have scaled : (setEffectAmplitude num voltageScaleMax.toNat voltageScaleMax.toNat).All Act.Idle :=
      (minor_setEffectAmplitude _ _).mono fun _ => Act.Minor.idle
    exact wp_seq (wp_idle scaled keeps now) fun _ m v _ now => index _ _ m v now
  · exact wp_seq (wp_tryPut_drives fine drives rfl now) fun _ m v _ now => index _ _ m v now.2

theorem wp_viaOn_drives (looks : ∀ o, allowed o → ∀ v, kept v → kept (v.progress o.tasks)) {r : Request}
    (accepted : r.Accepted) (now : kept w) :
    wpCall allowed (r.program num) (fun status _ u => post status u) n w := by
  have plays := fun effectIndex volLevel effectQueue m v (now : kept v) =>
    wp_performEffectIndex_drives (n := m) fine drives keeps index effectIndex volLevel effectQueue now
  cases r with
  | on timeoutMs =>
    have scaled : wpCall allowed (setGlobalAmplitude num true) (fun status _ v => status = .ok ∧ later v) n w :=
      wp_load fun o here => wp_tryPut_drives fine drives rfl (looks o here w now)
    refine wp_seq scaled fun _ m v _ now => wp_load fun o here => ?_
    have now := keeps .look trivial o here v now.2
    exact ⟨trivial, fun o here => index _ _ _ _ (keeps (.write _) (by nofun) o here _ now)⟩
  | perform effect strength => exact wp_perform_accepted looks plays accepted now
  | compose composite => exact wp_compose_accepted looks plays accepted now
  | composePwle composite => exact accepted.elim
  | setExternalControl enabled => exact accepted.elim
  | off => exact accepted.elim

end ViaOn

/-! ### No vibration pending -/

def Ended (w : World) : Prop := w.tasks w.mAsyncHandle = .done

def WritesSucceed (o : Outcome) : Prop := ∀ op, o.write op = true

section Ended

variable {num : Numbers} {n : Nat} {w : World}

theorem Ended.setStage {i : Nat} {stage : Stage} (ended : Ended w) (running : w.tasks i ≠ .done) :
    Ended (w.setStage i stage) := by
  have other : w.mAsyncHandle ≠ i := by
    rintro rfl
    exact running ended
  exact (Function.update_of_ne other stage w.tasks).trans ended

theorem Ended.taskStep (i : Nat) (ended : Ended w) : Ended (w.taskStep i) := by
  simp only [World.taskStep]
  split
  case h_1 polling => exact ended.setStage (by rw [polling]; decide)
  case h_2 polled =>
    have now : Ended (w.setStage i .deactivated) := ended.setStage (by rw [polled]; decide)
    exact now
  case h_3 deactivated => exact ended.setStage (by rw [deactivated]; decide)
  case h_4 => exact ended

theorem Ended.progress (ended : Ended w) (is : List Nat) : Ended (w.progress is) :=
  World.progress_inv (fun _ i ended => ended.taskStep i) ended is

theorem Ended.idle (a : Act) (idle : a.Idle) (o : Outcome) (w : World) (ended : Ended w) :
    Ended (perform a o w).2 := by
  have now := ended.progress o.tasks
  cases a with
  | launch => exact idle.elim
  | assign => exact idle.elim
  | _ => exact now

theorem wp_anyAct {α : Type} {allowed : Outcome → Prop} {a : Act} {f : Unit → Call α} {post : α → Nat → World → Prop}
    (rest : ∀ m v, wpCall allowed (f ()) post m v) : wpCall allowed (act a >>= f) post n w :=
  ⟨trivial, fun _ _ => rest _ _⟩

theorem wp_startTask_ok {allowed : Outcome → Prop} :
    wpCall allowed startTask (fun status _ _ => status = .ok) n w :=
  wp_anyAct fun _ _ => wp_anyAct fun _ _ => ⟨trivial, rfl⟩

theorem wp_activate_ok {allowed : Outcome → Prop} (timeoutMs effectIndex : BitVec 32) :
    wpCall allowed (activate timeoutMs effectIndex) (fun status _ _ => status = .ok) n w :=
  wp_anyAct fun _ _ => wp_anyAct fun _ _ => wp_anyAct fun _ _ => wp_anyAct fun _ _ => wp_startTask_ok

theorem wp_activatePwle_ok {allowed : Outcome → Prop} (totalDuration : BitVec 32) :
    wpCall allowed (activatePwle num totalDuration) (fun status _ _ => status = .ok) n w := by
  have scaled : wpCall allowed (setEffectAmplitude num voltageScaleMax.toNat voltageScaleMax.toNat)
      (fun _ _ _ => True) n w := ⟨trivial, fun _ _ => ⟨trivial, trivial⟩⟩
  refine wp_seq scaled fun _ _ _ _ _ => ?_
  exact wp_anyAct fun _ _ => wp_anyAct fun _ _ => wp_anyAct fun _ _ => wp_startTask_ok

theorem wp_onIndex_ended {allowed : Outcome → Prop} (timeoutMs effectIndex : BitVec 32) (ended : Ended w) :
    wpCall allowed (onIndex num timeoutMs effectIndex) (fun status _ _ => status = .ok) n w := by
  refine wp_seq (wp_idle idle_forceDisable (fun a idle o _ => Ended.idle a idle o) ended) fun _ m v _ ended => ?_
  refine wp_waitFor fun v is same => ?_
  subst same
  have ready : decide ((World.progress v is).tasks (World.progress v is).mAsyncHandle = .done) = true :=
    decide_eq_true (ended.progress is)
  rw [ready]
  exact wp_activate_ok timeoutMs effectIndex

theorem wp_viaOn_ended {r : Request} (accepted : r.Accepted) (ended : Ended w) :
    wpCall WritesSucceed (r.program num) (fun status _ _ => status = .ok) n w :=
  wp_viaOn_drives (fun _ succeed => succeed) (fun _ _ o _ _ ended => ended.progress o.tasks)
    (fun a idle o _ => Ended.idle a idle o) (fun _ _ _ _ => wp_onIndex_ended _ _)
    (fun o _ _ ended => ended.progress o.tasks) accepted ended

end Ended

/-! ### A vibration pending -/

def still : Outcome := ⟨[], fun _ => true, false, true⟩

/-- The task of the last vibration has not ended, and there have been so many writes to the driver. -/
structure Pending (k : Nat) (w : World) : Prop where
  running : ¬ Ended w
  writes : k ≤ (w.log.filter Entry.drives).length

section Pending

variable {num : Numbers} {k n : Nat} {w : World}

theorem Pending.write (pending : Pending k w) (op : HwWrite) (ok : Bool) : Pending k (w.write op ok) := by
  refine ⟨pending.running, Nat.le_trans pending.writes ?_⟩
  exact ((List.sublist_cons_self _ _).filter Entry.drives).length_le

theorem Pending.drive (op : HwWrite) (driving : op.drives = true) (o : Outcome) (here : o = still) (w : World)
    (pending : Pending k w) : Pending (k + 1) (perform (.write op) o w).2 := by
  subst here
  refine ⟨pending.running, ?_⟩
  have entry : (perform (.write op) still w).2.log = .service w.request op true w.members.mIsUnderExternalControl
      (w.tasks w.mAsyncHandle) w.launched :: w.log := rfl
  simpa [entry, Entry.drives, driving] using pending.writes

theorem Pending.idle (a : Act) (idle : a.Idle) (o : Outcome) (here : o = still) (w : World) (pending : Pending k w) :
    Pending k (perform a o w).2 := by
  subst here
  cases a with
  | launch => exact idle.elim
  | assign => exact idle.elim
  | write op => exact pending.write op true
  | _ => exact ⟨pending.running, pending.writes⟩

theorem wp_onIndex_pending (timeoutMs effectIndex : BitVec 32) (pending : Pending k w) :
    wpCall (· = still) (onIndex num timeoutMs effectIndex) (fun status _ v => status ≠ .ok ∧ Pending k v) n w := by
  refine wp_seq (wp_idle idle_forceDisable Pending.idle pending) fun _ m v _ pending => ?_
  refine ⟨trivial, ?_⟩
  rintro o rfl
  change wpCall _ (if !(decide (v.tasks v.mAsyncHandle = .done)) then .ret Status.illegalState else _) _ _ v
  have running : ¬ v.tasks v.mAsyncHandle = .done := pending.running
  rw [decide_eq_false running]
  exact ⟨trivial, Status.noConfusion, pending⟩

/-- A request that is rejected because a vibration is pending has already written to the driver. -/
theorem wp_viaOn_pending {r : Request} (accepted : r.Accepted) (pending : Pending k w) :
    wpCall (· = still) (r.program num) (fun status _ v => status ≠ .ok ∧ Pending (k + 1) v) n w := by
  refine wp_viaOn_drives ?_ Pending.drive Pending.idle (fun _ _ _ _ => wp_onIndex_pending _ _) ?_ accepted pending
  · rintro o rfl op
    rfl
  · rintro o rfl v pending
    exact pending

end Pending

/-! ### Rejected requests -/

def Request.Vibration : Request → Prop
  | .on _ | .perform _ _ | .compose _ | .composePwle _ => True
  | .setExternalControl _ | .off => False

section Rejected

variable {num : Numbers} {n : Nat} {w : World}

theorem drives_progress (w : World) (is : List Nat) :
    (w.progress is).log.filter Entry.drives = w.log.filter Entry.drives :=
  World.progress_same (f := fun v => v.log.filter Entry.drives) (fun _ _ _ => rfl) (fun _ _ => rfl) w is

/-- Refused arguments lead to no write at all. -/
theorem wp_refused {allowed : Outcome → Prop} {r : Request} (vibration : r.Vibration)
    (other : ∀ composite, r ≠ .composePwle composite) (refused : ¬ r.Accepted) :
    wpCall allowed (r.program num) (fun _ _ v => v.log.filter Entry.drives = w.log.filter Entry.drives) n w := by
  cases r with
  | on timeoutMs => exact absurd trivial refused
  | perform effect strength =>
    refine wp_bind (wp_load fun o _ => ?_)
    have same := drives_progress w o.tasks
    have details (known : ∀ value, effect ≠ .other value) : ∃ value, strength = .other value := by
      by_contra unknown
      exact refused ⟨known, fun value here => unknown ⟨value, here⟩⟩
    cases effect with
    | other value => exact ⟨trivial, trivial, same⟩
    | _ =>
      obtain ⟨value, rfl⟩ := details fun _ => HapticEffect.noConfusion
      exact ⟨trivial, trivial, same⟩
  | compose composite =>
    refine wp_load fun o _ => ?_
    obtain ⟨status, failed⟩ := composeQueue_error (w.progress o.tasks).members refused
    rw [failed]
    exact ⟨trivial, drives_progress w o.tasks⟩
  | composePwle composite => exact absurd rfl (other composite)
  | setExternalControl enabled => exact vibration.elim
  | off => exact vibration.elim

/-- An envelope is refused before the first write, and after it nothing can fail but a write. -/
theorem wp_composePwle_rejected (composite : List PrimitivePwle) :
    wpCall WritesSucceed (composePwle num composite)
      (fun status _ v => status ≠ .ok → v.log.filter Entry.drives = w.log.filter Entry.drives) n w := by
  refine wp_load fun o _ => ?_
  split
  · exact ⟨trivial, fun _ => drives_progress w o.tasks⟩
  · have written (s : String) : wpCall WritesSucceed (tryPut (.setPwle s)) (fun status _ _ => status = .ok ∧ True)
        (n + 1) (w.progress o.tasks) := ⟨trivial, fun o succeed => ⟨trivial, if_pos (succeed _), trivial⟩⟩
    refine wp_orReturn_ok (written _) fun m v _ => ?_
    exact wp_mono (wp_activatePwle_ok _) fun _ _ _ _ ok bad => absurd ok bad

end Rejected

/-- A vibration request that is rejected leaves the hardware alone unless its arguments are valid and the last
vibration is pending; `composePwle` always does. -/
theorem rejected_leaves_hardware_iff (num : Numbers) (w : World) (r : Request) (vibration : r.Vibration) :
    (∀ io : Nat → Outcome, (∀ n op, (io n).write op = true) →
      (exec perform io (r.program num) 0 { w with request := r }).1 ≠ .ok →
      (exec perform io (r.program num) 0 { w with request := r }).2.log.filter Entry.drives =
        w.log.filter Entry.drives) ↔
      (∃ composite, r = .composePwle composite) ∨ ¬ r.Accepted ∨ w.tasks w.mAsyncHandle = .done := by
  constructor
  · intro alone
    by_contra bad
    obtain ⟨_, bad⟩ := not_or.mp bad
    obtain ⟨accepted, running⟩ := not_or.mp bad
    have pending : Pending (w.log.filter Entry.drives).length { w with request := r } := ⟨running, Nat.le_refl _⟩
    have served : wpCall (· = still) (r.program num)
        (fun status _ v => status ≠ .ok ∧ Pending ((w.log.filter Entry.drives).length + 1) v) 0
        { w with request := r } :=
      wp_viaOn_pending (not_not.mp accepted) pending
    obtain ⟨_, rejected, written⟩ := exec_post served fun _ => rfl
    have same := alone (fun _ => still) (fun _ _ => rfl) rejected
    have more := written.writes
    rw [same] at more
    exact absurd more (Nat.not_succ_le_self _)
  · intro reason io succeed rejected
    by_cases pwle : ∃ composite, r = .composePwle composite
    · obtain ⟨composite, rfl⟩ := pwle
      obtain ⟨_, alone⟩ := exec_post (wp_composePwle_rejected composite) succeed
      exact alone rejected
    by_cases accepted : r.Accepted
    · have ended : Ended { w with request := r } := (reason.resolve_left pwle).resolve_left (not_not.mpr accepted)
      obtain ⟨_, ok⟩ := exec_post (wp_viaOn_ended accepted ended) succeed
      exact absurd ok rejected
    · have other (composite : List PrimitivePwle) : r ≠ .composePwle composite := fun here => pwle ⟨composite, here⟩
      have refused : wpCall WritesSucceed (r.program num) _ 0 { w with request := r } :=
        wp_refused vibration other accepted
      obtain ⟨_, alone⟩ := exec_post refused succeed
      exact alone

namespace Sample

def busy : World :=
  run numbers (.start members) [(.tasks [0], fun _ => smooth), (.request (.on 100), fun _ => smooth)]

end Sample

/-- A composition of nothing is refused, and what plays goes on. -/
theorem rejected_leaves_hardware_nothing :
    (Request.compose []).Vibration ∧ Sample.busy.tasks Sample.busy.mAsyncHandle ≠ .done ∧
    Sample.busy.log.filter Entry.drives ≠ [] ∧
    (exec perform (fun _ => still) ((Request.compose []).program Sample.numbers) 0
      { Sample.busy with request := .compose [] }).1 = .illegalArgument ∧
    (exec perform (fun _ => still) ((Request.compose []).program Sample.numbers) 0
      { Sample.busy with request := .compose [] }).2.log.filter Entry.drives = Sample.busy.log.filter Entry.drives := by
  have refused : ¬ (Request.compose []).Accepted := fun accepted => by
    obtain ⟨_, none, _⟩ := accepted.2.2
    exact absurd none List.not_mem_nil
  have alone := (rejected_leaves_hardware_iff Sample.numbers Sample.busy (.compose []) trivial).mpr
    (.inr (.inl refused)) (fun _ => still) (fun _ _ => rfl)
  have status : (exec perform (fun _ => still) ((Request.compose []).program Sample.numbers) 0
      { Sample.busy with request := .compose [] }).1 = .illegalArgument := by decide +kernel
  refine ⟨trivial, by decide +kernel, by decide +kernel, status, alone ?_⟩
  rw [status]
  decide

/-- The vibration that is playing gets another scale and another frequency. -/
theorem rejected_changes_playing :
    (exec perform (fun _ => still) ((Request.on 50).program Sample.numbers) 0
      { Sample.busy with request := .on 50 }).1 = .illegalState ∧
    (exec perform (fun _ => still) ((Request.on 50).program Sample.numbers) 0
      { Sample.busy with request := .on 50 }).2.log =
      .service (.on 50) (.setF0Offset 0) true false .polling 2 ::
        .service (.on 50) (.setGlobalScale 0) true false .polling 2 :: Sample.busy.log := by
  decide +kernel

end Pdx215.Vibrator
