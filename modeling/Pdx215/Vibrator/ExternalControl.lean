import Pdx215.Lib.Runs
import Pdx215.Vibrator.Rules

/-! The chip hangs if a vibration is started under external control. `on` gives up external control first and
goes on even if that fails; `composePwle` does not look at it at all. -/
namespace Pdx215.Vibrator

open Effect Runs

/-- A vibration is started under external control. -/
def Entry.hangs : Entry → Bool
  | .service _ (.setActivate true) _ underExternalControl _ _ => underExternalControl
  | _ => false

/-- A vibration request cannot give external control up. -/
def Entry.stuck : Entry → Bool
  | .service (.setExternalControl _) _ _ _ _ _ => false
  | .service _ (.setAspEnable false) ok _ _ _ => !ok
  | _ => false

def Released (w : World) : Prop := ∀ e ∈ w.log, e.stuck = false

instance (w : World) : Decidable (Released w) := inferInstanceAs (Decidable (∀ e ∈ w.log, e.stuck = false))

def Safe (w : World) : Prop := Released w → ∀ e ∈ w.log, e.hangs = false

structure Serves (r : Request) (w : World) : Prop where
  safe : Safe w
  request : w.request = r

structure Held (r : Request) (control : Bool) (w : World) : Prop extends Serves r w where
  flag : Released w → w.members.mIsUnderExternalControl = control

theorem not_hangs {e : Entry} (none : e.activated = none) : e.hangs = false := by
  simp only [Entry.hangs]
  split
  · exact absurd none nofun
  · rfl

/-! ### Steps -/

section Steps

variable {r : Request} {control : Bool} {w : World}

theorem Safe.cons {w' : World} {e : Entry} (safe : Safe w) (more : w'.log = e :: w.log)
    (fine : Released w → e.hangs = false) : Safe w' := by
  intro released
  rw [Released, more] at released
  obtain ⟨_, before⟩ := List.forall_mem_cons.mp released
  rw [more]
  exact List.forall_mem_cons.mpr ⟨fine before, safe before⟩

theorem Held.cons {w' : World} {e : Entry} (held : Held r control w) (more : w'.log = e :: w.log)
    (same : w'.members = w.members) (request : w'.request = w.request) (fine : Released w → e.hangs = false) :
    Held r control w' where
  safe := held.safe.cons more fine
  request := request.trans held.request
  flag := by
    intro released
    rw [Released, more] at released
    rw [same]
    exact held.flag (List.forall_mem_cons.mp released).2

theorem Held.taskStep (i : Nat) (held : Held r control w) : Held r control (w.taskStep i) := by
  simp only [World.taskStep]
  split
  · exact ⟨⟨held.safe, held.request⟩, held.flag⟩
  · exact held.cons rfl rfl rfl fun _ => rfl
  · exact ⟨⟨held.safe, held.request⟩, held.flag⟩
  · exact held

theorem Held.progress (held : Held r control w) (is : List Nat) : Held r control (w.progress is) :=
  World.progress_inv (fun _ i held => held.taskStep i) held is

theorem Held.write {op : HwWrite} {ok : Bool} (held : Held r control w)
    (fine : op ≠ .setActivate true ∨ control = false) : Held r control (w.write op ok) := by
  refine held.cons rfl rfl rfl fun released => ?_
  rcases fine with other | free
  · exact not_hangs (not_activated other)
  · rw [held.flag released, free]
    cases op with
    | setActivate value => cases value <;> rfl
    | _ => rfl

theorem Serves.held (serves : Serves r w) : Held r w.members.mIsUnderExternalControl w := ⟨serves, fun _ => rfl⟩

theorem Held.minor (a : Act) (minor : a.Minor) (o : Outcome) (w : World) (held : Held r control w) :
    Held r control (perform a o w).2 := by
  have now := held.progress o.tasks
  cases a with
  | write op => exact now.write (.inl minor)
  | look => exact now
  | hasAspEnable => exact now
  | waitFor => exact now
  | setActiveId id => exact ⟨⟨now.safe, now.request⟩, now.flag⟩
  | _ => exact minor.elim

theorem Serves.idle (a : Act) (idle : a.Idle) (o : Outcome) (w : World) (serves : Serves r w) :
    Serves r (perform a o w).2 := by
  have now := serves.held.progress o.tasks
  cases a with
  | write op => exact (now.write (.inl idle)).toServes
  | launch => exact idle.elim
  | assign => exact idle.elim
  | _ => exact ⟨now.safe, now.request⟩

end Steps

/-! ### Giving up external control -/

section Methods

variable {num : Numbers} {allowed : Outcome → Prop} {r : Request} {n : Nat} {w : World}

theorem wp_closePcm (serves : Serves r w) :
    wpCall allowed (enableHapticPcmAmp false) (fun switched _ v => switched = true ∧ Serves r v) n w := by
  apply wp_load
  intro o _
  have serves := Serves.idle .look trivial o w serves
  apply wp_ite
  · intro _
    exact wp_act (fun o => Serves.idle .pcmClose trivial o _ serves) fun _ _ serves => ⟨trivial, rfl, serves⟩
  · exact fun _ => ⟨trivial, rfl, serves⟩

theorem wp_switchPcm (serves : Serves r w) :
    wpCall allowed (switchPcm false) (fun status _ v => status = .ok ∧ Serves r v) n w := by
  apply wp_load
  intro o _
  have serves := Serves.idle .look trivial o w serves
  apply wp_ite
  · intro _
    apply wp_seq (wp_closePcm serves)
    rintro _ m v _ ⟨rfl, serves⟩
    exact ⟨trivial, rfl, serves⟩
  · exact fun _ => ⟨trivial, rfl, serves⟩

theorem stuck_of_viaOn (via : r.ViaOn) (underExternalControl : Bool) (pending : Stage) (task : Nat) :
    (Entry.service r (.setAspEnable false) false underExternalControl pending task).stuck = true := by
  cases r with
  | setExternalControl _ => exact via.elim
  | _ => rfl

/-- If it fails, this is in the log. -/
theorem wp_switchAsp (via : r.ViaOn) (serves : Serves r w) :
    wpCall allowed (switchAsp false) (fun status _ v => (status = .ok ∨ ¬ Released v) ∧ Serves r v) n w := by
  apply wp_hasAspEnable
  intro o _
  have serves := Serves.idle .hasAspEnable trivial o w serves
  apply wp_ite
  · intro _
    refine ⟨trivial, fun o' _ => ⟨trivial, ?_, Serves.idle (.write _) (by nofun) o' _ serves⟩⟩
    have request : ((w.progress o.tasks).progress o'.tasks).request = r := (serves.held.progress o'.tasks).request
    cases ok : o'.write (.setAspEnable false) with
    | true => exact .inl (if_pos ok)
    | false =>
      right
      intro released
      have here := released _ List.mem_cons_self
      rw [request, ok, stuck_of_viaOn via] at here
      cases here
  · exact fun _ => ⟨trivial, .inl rfl, serves⟩

theorem Serves.held_of_not_released {control : Bool} (serves : Serves r w) (stuck : ¬ Released w) :
    Held r control w :=
  ⟨serves, fun released => absurd released stuck⟩

theorem wp_giveUp (via : r.ViaOn) (serves : Serves r w) :
    wpCall allowed (setExternalControl num false) (fun _ _ v => Held r false v) n w := by
  apply wp_seq (wp_kept (minor_setGlobalAmplitude false) (fun a minor => Serves.idle a minor.idle) serves)
  intro _ m v _ serves
  apply wp_load
  intro o _
  have serves := Serves.idle .look trivial o v serves
  apply wp_ite
  · exact fun already => ⟨trivial, serves, fun _ => already.1⟩
  · intro engaged
    -- only a second request to switch it on begins by switching it off
    rw [if_neg fun free => engaged ⟨free, nofun⟩, orReturn_ok]
    apply wp_seq (wp_orReturn_ok (wp_switchPcm serves) fun _ _ => wp_switchAsp via)
    rintro status m v _ ⟨switched, serves⟩
    apply wp_ite
    · intro _
      have freed (o : Outcome) : Held r false (perform (.setUnderExternalControl false) o v).2 := by
        have now := serves.held.progress o.tasks
        exact ⟨⟨now.safe, now.request⟩, fun _ => rfl⟩
      exact wp_act freed fun m v held => ⟨trivial, held⟩
    · exact fun failed => ⟨trivial, serves.held_of_not_released (switched.resolve_left failed)⟩

/-! ### Starting a vibration -/

theorem wp_startTask_held {control : Bool} (held : Held r control w) :
    wpCall allowed startTask (fun _ _ v => Held r control v) n w := by
  have launches (o : Outcome) : Held r control (perform .launch o w).2 :=
    have now := held.progress o.tasks
    ⟨⟨now.safe, now.request⟩, now.flag⟩
  apply wp_act launches
  intro m v held
  have assigns (o : Outcome) : Held r control (perform .assign o v).2 :=
    have now := (held.progress o.tasks).progress _
    ⟨⟨now.safe, now.request⟩, now.flag⟩
  exact wp_act assigns fun m v held => ⟨trivial, held⟩

theorem Held.fire (o : Outcome) (w : World) (held : Held r false w) :
    Held r false (perform (.write (.setActivate true)) o w).2 :=
  (held.progress o.tasks).write (.inr rfl)

theorem wp_forceDisable (via : r.ViaOn) (serves : Serves r w) :
    wpCall allowed (forceDisable num) (fun _ _ v => Held r false v) n w := by
  apply wp_load
  intro o _
  have serves := Serves.idle .look trivial o w serves
  apply wp_ite
  · exact fun _ => wp_seq (wp_giveUp via serves) fun _ _ _ _ held => ⟨trivial, held⟩
  · exact fun free => ⟨trivial, serves, fun _ => Bool.eq_false_of_not_eq_true free⟩

theorem wp_onIndex_held (via : r.ViaOn) (timeoutMs effectIndex : BitVec 32) (serves : Serves r w) :
    wpCall allowed (onIndex num timeoutMs effectIndex) (fun _ _ v => Safe v) n w := by
  apply wp_seq (wp_forceDisable via serves)
  intro _ m v _ held
  apply wp_waitFor
  rintro _ is rfl
  have held := held.progress is
  apply wp_ite
  · exact fun _ => ⟨trivial, held.safe⟩
  · intro _
    apply wp_mono (wp_activate Held.minor Held.fire (fun _ _ => wp_startTask_held) Held.minor _ _ held)
    exact fun _ _ _ _ held => held.safe

end Methods

/-! ### Runs -/

/-- `composePwle` is called only outside external control or where it is not supported. -/
def Members.Fits (m : Members) : Event → Prop
  | .request (.composePwle _) => m.mIsUnderExternalControl = false ∨ m.mIsChirpEnabled = false
  | _ => True

theorem pwleQueue_unsupported {num : Numbers} {m : Members} (unsupported : m.mIsChirpEnabled = false)
    (composite : List PrimitivePwle) : m.pwleQueue num composite = .error .unsupportedOperation := by
  simp only [Members.pwleQueue, unsupported]
  rfl

section Requests

variable {num : Numbers} {allowed : Outcome → Prop} {w : World} {r : Request}

theorem wp_viaOn_safe (via : r.ViaOn) (serves : Serves r w) :
    wpCall allowed (r.program num) (fun _ _ v => Safe v) 0 w :=
  wp_viaOn (fun a minor => Serves.idle a minor.idle) (fun _ serves => serves.safe)
    (fun _ _ _ _ => wp_onIndex_held via _ _) via serves

theorem wp_composePwle_safe
    (free : w.members.mIsUnderExternalControl = false ∨ w.members.mIsChirpEnabled = false)
    (composite : List PrimitivePwle) (serves : Serves r w) :
    wpCall allowed (composePwle num composite) (fun _ _ v => Safe v) 0 w := by
  rcases free with free | unsupported
  · have held : Held r false w := ⟨serves, fun _ => free⟩
    refine wp_composePwle Held.minor (fun _ held => held.safe) (fun total m v held => ?_) composite held
    apply wp_mono (wp_activatePwle Held.minor Held.fire (fun _ _ => wp_startTask_held) _ held)
    exact fun _ _ _ _ held => held.safe
  · apply wp_load
    intro o _
    rw [World.progress_members, pwleQueue_unsupported unsupported]
    exact ⟨trivial, (Serves.idle .look trivial o w serves).safe⟩

theorem wp_request_safe (num : Numbers) (fits : w.members.Fits (.request r)) (serves : Serves r w) :
    wpCall allowed (r.program num) (fun _ _ v => Safe v) 0 w := by
  cases r with
  | on timeoutMs => exact wp_viaOn_safe trivial serves
  | perform effect strength => exact wp_viaOn_safe trivial serves
  | compose composite => exact wp_viaOn_safe trivial serves
  | composePwle composite => exact wp_composePwle_safe fits composite serves
  | setExternalControl enabled =>
    exact wp_mono (wp_kept (idle_setExternalControl enabled) Serves.idle serves) fun _ _ _ _ serves => serves.safe
  | off =>
    exact wp_mono (wp_kept minor_off (fun a minor => Serves.idle a minor.idle) serves) fun _ _ _ _ serves => serves.safe

theorem Safe.eventStep (num : Numbers) (w : World) (e : Event × (Nat → Outcome)) (safe : Safe w)
    (fits : w.members.Fits e.1) : Safe (eventStep num w e) := by
  obtain ⟨event, io⟩ := e
  cases event with
  | request r =>
    have serves : Serves r { w with request := r } := ⟨safe, rfl⟩
    have served : wpCall (fun _ => True) (r.program num) (fun _ _ v => Safe v) 0 { w with request := r } :=
      wp_request_safe num fits serves
    obtain ⟨_, safe⟩ := exec_post served fun _ => trivial
    exact safe
  | tasks is =>
    have serves : Serves w.request w := ⟨safe, rfl⟩
    exact (serves.held.progress is).safe

end Requests

/-- As long as `asp_enable` can be written when a vibration request gives external control up, and `composePwle` is
not called under it, no vibration is started under it. -/
theorem never_triggered_under_external_control (num : Numbers) (members : Members)
    (events : List (Event × (Nat → Outcome)))
    (fits : Along (eventStep num) (fun w e => w.members.Fits e.1) (.start members) events)
    (released : Released (run num (.start members) events)) :
    ∀ e ∈ (run num (.start members) events).log, e.hangs = false := by
  have start : Safe (.start members) := fun _ _ nothing => absurd nothing List.not_mem_nil
  have safe : Safe (run num (.start members) events) := foldl_inv (Safe.eventStep num) start fits
  exact safe released

/-- A vibration that is requested under external control, its end, and an envelope after it. -/
def Sample.played : List (Event × (Nat → Outcome)) :=
  [(.request (.setExternalControl true), fun _ => Sample.smooth), (.tasks [0], fun _ => Sample.smooth),
    (.request (.on 100), fun _ => Sample.smooth), (.tasks [1, 1, 1], fun _ => Sample.smooth),
    (.request (.composePwle Sample.ramp), fun _ => Sample.smooth)]

theorem never_triggered_under_external_control_played :
    ((run Sample.numbers (.start Sample.members) Sample.played).log.filter fun e => e = .deactivate 1 ∨
      e = .service (.on 100) (.setActivate true) true false .done 1 ∨
      e = .service (.composePwle Sample.ramp) (.setActivate true) true false .done 2).length = 3 ∧
    ∀ e ∈ (run Sample.numbers (.start Sample.members) Sample.played).log, e.hangs = false := by
  refine ⟨by decide +kernel, never_triggered_under_external_control _ _ _ ?_ (by decide +kernel)⟩
  exact ⟨trivial, trivial, trivial, trivial, .inl (by decide +kernel), trivial⟩

/-- An envelope is played under external control; `asp_enable` cannot be written, and `on` goes on. -/
theorem triggered_under_external_control :
    (∃ e ∈ (run Sample.numbers (.start Sample.members)
      [(.request (.setExternalControl true), fun _ => Sample.smooth),
        (.request (.composePwle Sample.ramp), fun _ => Sample.smooth)]).log, e.hangs = true) ∧
    ∃ e ∈ (run Sample.numbers (.start Sample.members)
      [(.request (.setExternalControl true), fun _ => Sample.smooth), (.tasks [0], fun _ => Sample.smooth),
        (.request (.on 100), fun _ => { Sample.smooth with write := (· ≠ .setAspEnable false) })]).log,
      e.hangs = true := by
  decide +kernel

end Pdx215.Vibrator
