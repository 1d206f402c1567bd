import Pdx215.Vibrator.Rules

/-! The task of a vibration ends with `setActivate(false)`. `on` waits for the task of the vibration before it
starts the next; `composePwle` waits for it only when it gives up the old future, after `setActivate(1)`. -/
namespace Pdx215.Vibrator

open Effect

def Entry.deactivated : Entry → Option Nat
  | .deactivate task => some task
  | _ => none

/-- A task's `setActivate(false)` does not follow the `setActivate(1)` of a request after its own. -/
def Entry.Spares (later earlier : Entry) : Prop := ∀ i ∈ later.deactivated, ∀ j ∈ earlier.activated, j ≤ i

instance : DecidableRel Entry.Spares := fun later earlier =>
  inferInstanceAs (Decidable (∀ i ∈ later.deactivated, ∀ j ∈ earlier.activated, j ≤ i))

/-- `composePwle` starts a vibration before the task of the last one has made its `setActivate(false)`. -/
def Entry.hasty : Entry → Bool
  | .service (.composePwle _) (.setActivate true) _ _ pending _ => !pending.past
  | _ => false

section Logs

variable {e : Entry} {log : List Entry} {k : Nat}

def Spared (log : List Entry) : Prop := log.Pairwise Entry.Spares

def Calm (log : List Entry) : Prop := ∀ e ∈ log, e.hasty = false

def Upto (k : Nat) (log : List Entry) : Prop := ∀ e ∈ log, ∀ j ∈ e.activated, j ≤ k

theorem hasty_eq_false (none : e.activated = none) : e.hasty = false := by
  simp only [Entry.hasty]
  split
  · exact absurd none nofun
  · rfl

theorem not_hasty_of_past {pending : Stage} (past : pending.past = true) {r : Request} {ok control : Bool}
    {task : Nat} : (Entry.service r (.setActivate true) ok control pending task).hasty = false := by
  cases r with
  | composePwle composite => simp [Entry.hasty, past]
  | _ => rfl

theorem calm_cons (calm : e.hasty = false) : Calm (e :: log) ↔ Calm log := by
  simp [Calm, calm]

theorem upto_cons (none : e.activated = none) : Upto k (e :: log) ↔ Upto k log := by
  simp [Upto, none]

theorem spared_cons (none : e.deactivated = none) : Spared (e :: log) ↔ Spared log := by
  simp [Spared, Entry.Spares, none]

theorem spared_deactivate {i : Nat} : Spared (.deactivate i :: log) ↔ Upto i log ∧ Spared log := by
  simp [Spared, Entry.Spares, Entry.deactivated, Upto]

end Logs

/-! ### States -/

/-- Only the tasks that may still be running are before their `setActivate(false)`, and none of them is behind
a later vibration. -/
structure Settled (running : Nat → Prop) (w : World) : Prop where
  spared : Spared w.log
  behind : ∀ i, (w.tasks i).past = false → Upto i w.log
  numbered : Upto w.launched w.log
  others : ∀ i, ¬ running i → (w.tasks i).past = true

/-- The task of `mAsyncHandle` is behind a later vibration, or one already was. -/
def Doomed (w : World) : Prop :=
  ¬ Spared w.log ∨ (w.tasks w.mAsyncHandle).past = false ∧ ¬ Upto w.mAsyncHandle w.log

/-- What steps do that start no vibration, launch no task and leave `mAsyncHandle` as it is. -/
structure Quiet (w w' : World) : Prop where
  request : w'.request = w.request
  launched : w'.launched = w.launched
  handle : w'.mAsyncHandle = w.mAsyncHandle
  past : ∀ i, (w.tasks i).past = true → (w'.tasks i).past = true
  calm : Calm w'.log ↔ Calm w.log
  spared : Spared w'.log → Spared w.log
  settled : ∀ running, Settled running w → Settled running w'
  doomed : Doomed w → Doomed w'

namespace Quiet

variable {w w' w'' : World}

theorem refl (w : World) : Quiet w w := ⟨rfl, rfl, rfl, fun _ => id, .rfl, id, fun _ => id, id⟩

theorem trans (first : Quiet w w') (second : Quiet w' w'') : Quiet w w'' where
  request := second.request.trans first.request
  launched := second.launched.trans first.launched
  handle := second.handle.trans first.handle
  past i past := second.past i (first.past i past)
  calm := second.calm.trans first.calm
  spared spared := first.spared (second.spared spared)
  settled running settled := second.settled running (first.settled running settled)
  doomed doomed := second.doomed (first.doomed doomed)

theorem of_same (request : w'.request = w.request) (launched : w'.launched = w.launched)
    (handle : w'.mAsyncHandle = w.mAsyncHandle) (past : ∀ i, (w'.tasks i).past = (w.tasks i).past)
    (log : w'.log = w.log) : Quiet w w' where
  request := request
  launched := launched
  handle := handle
  past i done := (past i).trans done
  calm := by rw [log]
  spared := by rw [log]; exact id
  settled running settled := by
    refine ⟨?_, fun i running => ?_, ?_, fun i stopped => (past i).trans (settled.others i stopped)⟩
    · rw [log]
      exact settled.spared
    · rw [log]
      exact settled.behind i ((past i).symm.trans running)
    · rw [log, launched]
      exact settled.numbered
  doomed := by
    rw [Doomed, Doomed, log, handle, past]
    exact id

theorem record {e : Entry} (activated : e.activated = none) (deactivated : e.deactivated = none) :
    Quiet w { w with log := e :: w.log } where
  request := rfl
  launched := rfl
  handle := rfl
  past _ := id
  calm := calm_cons (hasty_eq_false activated)
  spared := (spared_cons deactivated).mp
  settled running settled :=
    { spared := (spared_cons deactivated).mpr settled.spared
      behind := fun i running => (upto_cons activated).mpr (settled.behind i running)
      numbered := (upto_cons activated).mpr settled.numbered
      others := settled.others }
  doomed := by
    rw [Doomed, Doomed, spared_cons deactivated, upto_cons activated]
    exact id

theorem deactivate {i : Nat} (polled : w.tasks i = .polled) :
    Quiet w { w.setStage i .deactivated with log := .deactivate i :: w.log } where
  request := rfl
  launched := rfl
  handle := rfl
  past k past := by
    by_cases here : k = i
    · simp [World.setStage, here, Stage.past]
    · simpa [World.setStage, here] using past
  calm := calm_cons rfl
  spared spared := (spared_deactivate.mp spared).2
  settled running settled := by
    have waiting : (w.tasks i).past = false := by rw [polled]; rfl
    refine ⟨spared_deactivate.mpr ⟨settled.behind i waiting, settled.spared⟩, fun k before => ?_,
      (upto_cons rfl).mpr settled.numbered, fun k stopped => ?_⟩
    · apply (upto_cons rfl).mpr
      by_cases here : k = i
      · simp [World.setStage, here, Stage.past] at before
      · exact settled.behind k (by simpa [World.setStage, here] using before)
    · by_cases here : k = i
      · simp [World.setStage, here, Stage.past]
      · simpa [World.setStage, here] using settled.others k stopped
  doomed doomed := by
    rcases doomed with spoiled | ⟨before, overtaken⟩
    · exact .inl fun spared => spoiled (spared_deactivate.mp spared).2
    · by_cases here : w.mAsyncHandle = i
      -- the overtaken task makes its write now
      · left
        intro spared
        exact overtaken (here ▸ (spared_deactivate.mp spared).1)
      · right
        refine ⟨?_, fun upto => overtaken ((upto_cons rfl).mp upto)⟩
        simpa [World.setStage, here] using before

theorem setStage {i : Nat} {stage : Stage} (same : stage.past = (w.tasks i).past) : Quiet w (w.setStage i stage) := by
  refine of_same rfl rfl rfl (fun k => ?_) rfl
  by_cases here : k = i
  · simp [World.setStage, here, same]
  · simp [World.setStage, here]

theorem taskStep (w : World) (i : Nat) : Quiet w (w.taskStep i) := by
  simp only [World.taskStep]
  split
  case h_1 polling => exact setStage (by rw [polling]; rfl)
  case h_2 polled => exact deactivate polled
  case h_3 deactivated => exact setStage (by rw [deactivated]; rfl)
  case h_4 => exact refl w

theorem progress (w : World) (is : List Nat) : Quiet w (w.progress is) :=
  World.progress_inv (fun v i quiet => quiet.trans (taskStep v i)) (refl w) is

theorem idle (a : Act) (idle : a.Idle) (o : Outcome) (w : World) : Quiet w (perform a o w).2 := by
  apply (progress w o.tasks).trans
  cases a with
  | write op => exact record (not_activated idle) rfl
  | launch => exact idle.elim
  | assign => exact idle.elim
  | look => exact refl _
  | hasAspEnable => exact refl _
  | pcmPrepare => exact refl _
  | pcmStart => exact refl _
  | waitFor => exact refl _
  | pcmOpen => exact of_same rfl rfl rfl (fun _ => rfl) rfl
  | pcmClose => exact of_same rfl rfl rfl (fun _ => rfl) rfl
  | setUnderExternalControl enabled => exact of_same rfl rfl rfl (fun _ => rfl) rfl
  | setActiveId id => exact of_same rfl rfl rfl (fun _ => rfl) rfl

end Quiet

/-! ### Before, while and after a vibration is started -/

/-- Between requests, and in a request that has not started a vibration. -/
structure Inv (w : World) : Prop where
  handle : w.mAsyncHandle < w.launched
  settled : Calm w.log → Settled (fun i => i = w.mAsyncHandle) w
  spoiled : ¬ Calm w.log → ¬ Spared w.log

/-- A vibration is about to be started, by `on` only if no task is left that could end it. -/
structure Ready (w : World) : Prop where
  inv : Inv w
  pwle : (w.tasks w.mAsyncHandle).past = false → ∃ composite, w.request = .composePwle composite

/-- A vibration has been started, and its task is not there yet. -/
structure Fired (w : World) : Prop where
  handle : w.mAsyncHandle < w.launched
  settled : Calm w.log → Settled (fun _ => False) w
  doomed : ¬ Calm w.log → Doomed w

/-- The task is there, and `mAsyncHandle` still stands for the one before. -/
structure Launched (w : World) : Prop where
  settled : Calm w.log → Settled (fun i => i = w.launched - 1) w
  doomed : ¬ Calm w.log → Doomed w
  positive : 0 < w.launched

section Phases

variable {w w' : World}

theorem Inv.quiet (inv : Inv w) (quiet : Quiet w w') : Inv w' where
  handle := by
    rw [quiet.handle, quiet.launched]
    exact inv.handle
  settled calm := by
    rw [quiet.handle]
    exact quiet.settled _ (inv.settled (quiet.calm.mp calm))
  spoiled hasty spared := inv.spoiled (fun calm => hasty (quiet.calm.mpr calm)) (quiet.spared spared)

theorem Ready.quiet (ready : Ready w) (quiet : Quiet w w') : Ready w' where
  inv := ready.inv.quiet quiet
  pwle before := by
    rw [quiet.request]
    apply ready.pwle
    rw [quiet.handle] at before
    exact Bool.eq_false_of_not_eq_true fun past => absurd (before.symm.trans (quiet.past _ past)) nofun

theorem Fired.quiet (fired : Fired w) (quiet : Quiet w w') : Fired w' where
  handle := by
    rw [quiet.handle, quiet.launched]
    exact fired.handle
  settled calm := quiet.settled _ (fired.settled (quiet.calm.mp calm))
  doomed hasty := quiet.doomed (fired.doomed fun calm => hasty (quiet.calm.mpr calm))

theorem Launched.quiet (launched : Launched w) (quiet : Quiet w w') : Launched w' where
  settled calm := by
    rw [quiet.launched]
    exact quiet.settled _ (launched.settled (quiet.calm.mp calm))
  doomed hasty := quiet.doomed (launched.doomed fun calm => hasty (quiet.calm.mpr calm))
  positive := by
    rw [quiet.launched]
    exact launched.positive

theorem Ready.write (ready : Ready w) (ok : Bool) : Fired (w.write (.setActivate true) ok) := by
  have keepsSpared : Spared (w.write (.setActivate true) ok).log ↔ Spared w.log := spared_cons rfl
  have handle := ready.inv.handle
  -- the task of the last vibration can no longer end this one, or `composePwle` has overtaken it
  cases pending : (w.tasks w.mAsyncHandle).past with
  | true =>
    have patient : Calm (w.write (.setActivate true) ok).log ↔ Calm w.log := calm_cons (not_hasty_of_past pending)
    refine ⟨handle, fun calm => ?_, fun hasty => .inl fun spared => ?_⟩
    · have settled := ready.inv.settled (patient.mp calm)
      have past (i : Nat) : (w.tasks i).past = true := by
        by_cases last : i = w.mAsyncHandle
        · rw [last, pending]
        · exact settled.others i last
      refine ⟨keepsSpared.mpr settled.spared, fun i before => ?_, ?_, fun i _ => past i⟩
      · exact absurd (before.symm.trans (past i)) nofun
      · intro e here j activated
        rcases List.mem_cons.mp here with rfl | here
        · exact (Option.some.inj activated).ge
        · exact settled.numbered e here j activated
    · exact ready.inv.spoiled (fun calm => hasty (patient.mpr calm)) (keepsSpared.mp spared)
  | false =>
    obtain ⟨composite, request⟩ := ready.pwle pending
    refine ⟨handle, fun calm => ?_, fun _ => .inr ⟨pending, fun upto => ?_⟩⟩
    · have patient := calm _ List.mem_cons_self
      simp [Entry.hasty, request, pending] at patient
    · have overtaken := upto _ List.mem_cons_self _ rfl
      exact absurd handle (Nat.not_lt.mpr overtaken)

theorem Fired.launch (fired : Fired w) : Launched w.launch := by
  have other (i : Nat) (old : i ≠ w.launched) : w.launch.tasks i = w.tasks i := by
    simp [World.launch, World.setStage, old]
  refine ⟨fun calm => ?_, fun hasty => ?_, Nat.succ_pos _⟩
  · have settled := fired.settled calm
    refine ⟨settled.spared, fun i before => ?_, ?_, fun i old => ?_⟩
    · by_cases new : i = w.launched
      · rw [new]
        exact settled.numbered
      · exact settled.behind i (by rwa [other i new] at before)
    · exact fun e here j activated => (settled.numbered e here j activated).trans (Nat.le_succ _)
    · rw [other i old]
      exact settled.others i id
  · exact (fired.doomed hasty).imp id fun ⟨before, overtaken⟩ =>
      ⟨by rwa [← other _ fired.handle.ne] at before, overtaken⟩

theorem World.progress_done (w : World) (i : Nat) : (w.progress [i, i, i]).tasks i = .done := by
  cases stage : w.tasks i <;> simp [World.progress, World.taskStep, World.setStage, stage]

theorem Launched.assign (launched : Launched w) : Inv w.assign := by
  have quiet := Quiet.progress w [w.mAsyncHandle, w.mAsyncHandle, w.mAsyncHandle]
  have waited := launched.quiet quiet
  refine ⟨?_, fun calm => ?_, fun hasty => ?_⟩
  · change w.launched - 1 < (w.progress _).launched
    rw [quiet.launched]
    exact Nat.sub_lt launched.positive Nat.one_pos
  · have settled := waited.settled calm
    rw [quiet.launched] at settled
    exact ⟨settled.spared, settled.behind, settled.numbered, settled.others⟩
  -- an overtaken task has ended by now, and with it the later vibration
  · rcases waited.doomed hasty with spoiled | ⟨before, _⟩
    · exact spoiled
    · rw [quiet.handle, World.progress_done] at before
      exact absurd before nofun

end Phases

/-! ### Requests and runs -/

section Methods

variable {num : Numbers} {allowed : Outcome → Prop} {n : Nat} {w : World}

theorem wp_startTask_fired (fired : Fired w) : wpCall allowed startTask (fun _ _ v => Inv v) n w := by
  apply wp_act fun o => (fired.quiet (Quiet.progress w o.tasks)).launch
  intro m v launched
  apply wp_act fun o => (launched.quiet (Quiet.progress v o.tasks)).assign
  exact fun m v inv => ⟨trivial, inv⟩

theorem Inv.idle (a : Act) (idle : a.Idle) (o : Outcome) (w : World) (inv : Inv w) : Inv (perform a o w).2 :=
  inv.quiet (Quiet.idle a idle o w)

theorem Ready.minor (a : Act) (minor : a.Minor) (o : Outcome) (w : World) (ready : Ready w) :
    Ready (perform a o w).2 :=
  ready.quiet (Quiet.idle a minor.idle o w)

theorem Fired.minor (a : Act) (minor : a.Minor) (o : Outcome) (w : World) (fired : Fired w) :
    Fired (perform a o w).2 :=
  fired.quiet (Quiet.idle a minor.idle o w)

theorem Ready.fire (o : Outcome) (w : World) (ready : Ready w) :
    Fired (perform (.write (.setActivate true)) o w).2 :=
  (ready.quiet (Quiet.progress w o.tasks)).write _

theorem wp_onIndex_inv (timeoutMs effectIndex : BitVec 32) (inv : Inv w) :
    wpCall allowed (onIndex num timeoutMs effectIndex) (fun _ _ v => Inv v) n w := by
  apply wp_seq (wp_kept idle_forceDisable Inv.idle inv)
  intro _ m v _ inv
  apply wp_waitFor
  rintro _ is rfl
  have inv := inv.quiet (Quiet.progress v is)
  apply wp_ite
  · exact fun _ => ⟨trivial, inv⟩
  · intro waited
    have done : (v.progress is).tasks (v.progress is).mAsyncHandle = .done := by simpa using waited
    have ready : Ready (v.progress is) := by
      refine ⟨inv, fun before => ?_⟩
      rw [done] at before
      exact absurd before nofun
    exact wp_activate Ready.minor Ready.fire (fun _ _ => wp_startTask_fired) Fired.minor timeoutMs effectIndex ready

theorem wp_request_inv (r : Request) (request : w.request = r) (inv : Inv w) :
    wpCall allowed (r.program num) (fun _ _ v => Inv v) n w := by
  have minor (a : Act) (minor : a.Minor) := Inv.idle a minor.idle
  have viaOn (via : r.ViaOn) : wpCall allowed (r.program num) (fun _ _ v => Inv v) n w :=
    wp_viaOn minor (fun _ => id) (fun _ _ _ _ => wp_onIndex_inv _ _) via inv
  cases r with
  | on timeoutMs => exact viaOn trivial
  | perform effect strength => exact viaOn trivial
  | compose composite => exact viaOn trivial
  | composePwle composite =>
    have ready : Ready w := ⟨inv, fun _ => ⟨composite, request⟩⟩
    refine wp_composePwle Ready.minor (fun _ ready => ready.inv) (fun totalDuration m v ready => ?_) composite ready
    exact wp_activatePwle Ready.minor Ready.fire (fun _ _ => wp_startTask_fired) totalDuration ready
  | setExternalControl enabled => exact wp_kept (idle_setExternalControl enabled) Inv.idle inv
  | off => exact wp_kept minor_off minor inv

end Methods

theorem inv_start (members : Members) : Inv (.start members) where
  handle := Nat.one_pos
  settled _ :=
    { spared := .nil
      behind := fun _ _ _ nothing => absurd nothing List.not_mem_nil
      numbered := fun _ nothing => absurd nothing List.not_mem_nil
      others := fun i _ => by
        simp only [World.start]
        split <;> rfl }
  spoiled hasty := absurd (fun _ nothing => absurd nothing List.not_mem_nil) hasty

theorem Inv.eventStep (num : Numbers) (w : World) (e : Event × (Nat → Outcome)) (inv : Inv w) :
    Inv (eventStep num w e) := by
  obtain ⟨event, io⟩ := e
  cases event with
  | request r =>
    have received : Inv { w with request := r } := by
      refine ⟨inv.handle, fun calm => ?_, inv.spoiled⟩
      have settled := inv.settled calm
      exact ⟨settled.spared, settled.behind, settled.numbered, settled.others⟩
    have served : wpCall (fun _ => True) (r.program num) (fun _ _ v => Inv v) 0 { w with request := r } :=
      wp_request_inv r rfl received
    obtain ⟨_, inv⟩ := exec_post served fun _ => trivial
    exact inv
  | tasks is => exact inv.quiet (Quiet.progress w is)

theorem later_spared_iff (num : Numbers) (members : Members) (events : List (Event × (Nat → Outcome))) :
    (run num (.start members) events).log.Pairwise Entry.Spares ↔
      ∀ e ∈ (run num (.start members) events).log, e.hasty = false := by
  have inv : Inv (run num (.start members) events) :=
    events.foldlRecOn (eventStep num) (inv_start members) fun w inv e _ => inv.eventStep num w e
  constructor
  · intro spared
    by_contra hasty
    exact inv.spoiled hasty spared
  · exact fun calm => (inv.settled calm).spared

/-- A vibration has come to its end when an envelope is requested: its task deactivates the envelope. -/
def Sample.overtaken : World :=
  run Sample.numbers (.start Sample.members)
    [(.tasks [0], fun _ => Sample.smooth), (.request (.on 100), fun _ => Sample.smooth),
      (.tasks [1], fun _ => Sample.smooth), (.request (.composePwle Sample.ramp), fun _ => Sample.smooth)]

theorem earlier_task_stops_later :
    ¬ Sample.overtaken.log.Pairwise Entry.Spares ∧
    Sample.overtaken.log.take 2 =
      [.deactivate 1, .service (.composePwle Sample.ramp) (.setActivate true) true false .polled 2] := by
  decide +kernel

end Pdx215.Vibrator
