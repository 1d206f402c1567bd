import Pdx215.Vibrator.ExternalControl

/-! External control is a flag, an open PCM and the driver's `asp_enable`. `setExternalControl` goes through
the parts one after the other and returns at the first failure: what has been done by then is not undone. -/
namespace Pdx215.Vibrator

open Effect Runs

/-- The PCM that `mHapticPcm` stands for is open exactly under external control, and no other one is. -/
structure Agrees (w : World) : Prop where
  open_iff : (∃ h ∈ w.pcms, w.members.mHapticPcm = some h) ↔ w.members.mIsUnderExternalControl = true
  single : w.pcms.length ≤ 1

instance (w : World) : Decidable (Agrees w) :=
  decidable_of_iff (((∃ h ∈ w.pcms, w.members.mHapticPcm = some h) ↔ w.members.mIsUnderExternalControl = true) ∧
    w.pcms.length ≤ 1) ⟨fun agrees => ⟨agrees.1, agrees.2⟩, fun agrees => ⟨agrees.open_iff, agrees.single⟩⟩

/-- What `setExternalControl` looks at. -/
structure Stands (control : Bool) (handle : Option Nat) (pcms : List Nat) (w : World) : Prop where
  alsa : w.members.mHasHapticAlsaDevice = true
  control : w.members.mIsUnderExternalControl = control
  handle : w.members.mHapticPcm = handle
  pcms : w.pcms = pcms

section Stands

variable {control : Bool} {handle : Option Nat} {pcms : List Nat} {w : World}

theorem Stands.taskStep (i : Nat) (stands : Stands control handle pcms w) :
    Stands control handle pcms (w.taskStep i) := by
  obtain ⟨alsa, flag, handle, pcms⟩ := stands
  simp only [World.taskStep]
  split <;> exact ⟨alsa, flag, handle, pcms⟩

theorem Stands.progress (stands : Stands control handle pcms w) (is : List Nat) :
    Stands control handle pcms (w.progress is) :=
  World.progress_inv (fun _ i stands => stands.taskStep i) stands is

theorem Stands.write (stands : Stands control handle pcms w) (op : HwWrite) (ok : Bool) :
    Stands control handle pcms (w.write op ok) :=
  ⟨stands.alsa, stands.control, stands.handle, stands.pcms⟩

theorem Stands.pcmOpen (stands : Stands control handle [] w) : Stands control (some w.opened) [w.opened] w.pcmOpen :=
  ⟨stands.alsa, stands.control, rfl, by rw [World.pcmOpen, stands.pcms]⟩

theorem Stands.pcmClose {h : Nat} (stands : Stands control (some h) [h] w) : Stands control none [] w.pcmClose := by
  refine ⟨stands.alsa, stands.control, rfl, ?_⟩
  simp [World.pcmClose, stands.pcms, stands.handle]

theorem Stands.agrees_closed (stands : Stands control handle [] w) : Agrees w ↔ control = false := by
  constructor
  · intro agrees
    rw [← stands.control]
    refine Bool.eq_false_of_not_eq_true fun on => ?_
    obtain ⟨h, here, _⟩ := agrees.open_iff.mpr on
    rw [stands.pcms] at here
    exact absurd here List.not_mem_nil
  · rintro rfl
    refine ⟨?_, by rw [stands.pcms]; exact Nat.zero_le 1⟩
    rw [stands.pcms, stands.control]
    simp

theorem Stands.agrees_open {h : Nat} (stands : Stands control (some h) [h] w) : Agrees w ↔ control = true := by
  have isOpen : ∃ h ∈ w.pcms, w.members.mHapticPcm = some h :=
    ⟨h, by rw [stands.pcms]; exact List.mem_singleton_self h, stands.handle⟩
  constructor
  · intro agrees
    rw [← stands.control]
    exact agrees.open_iff.mp isOpen
  · intro on
    refine ⟨iff_of_true isOpen (stands.control.trans on), ?_⟩
    rw [stands.pcms]
    exact Nat.le_refl 1

end Stands

/-! ### Methods against a given sequence of answers -/

def wpIo {α : Type} (io : Nat → Outcome) (p : Call α) (post : α → Nat → World → Prop) (n : Nat) (w : World) : Prop :=
  wp perform (fun n o => o = io n) (fun _ => True) p post n w

/-- The PCM is opened, prepared and started. -/
def Works (io : Nat → Outcome) (n : Nat) : Prop :=
  (io n).pcm = true ∧ (io (n + 1)).pcm = true ∧ (io (n + 2)).pcm = true

/-- The driver has an `asp_enable` and does not take the value. -/
def AspFails (io : Nat → Outcome) (n : Nat) (enabled : Bool) : Prop :=
  (io n).hasAspEnable = true ∧ (io (n + 1)).write (.setAspEnable enabled) = false

def aspCalls (io : Nat → Outcome) (n : Nat) : Nat := if (io n).hasAspEnable then 2 else 1

section Methods

variable {num : Numbers} {io : Nat → Outcome} {control : Bool} {handle : Option Nat} {pcms : List Nat} {n : Nat}
  {w : World}

theorem wpIo_load {α : Type} {k : Members → Call α} {post : α → Nat → World → Prop}
    (stands : Stands control handle pcms w)
    (rest : ∀ v, Stands control handle pcms v → wpIo io (k v.members) post (n + 1) v) :
    wpIo io (load k) post n w := by
  refine ⟨trivial, ?_⟩
  rintro o rfl
  exact rest _ (stands.progress _)

theorem wpIo_setGlobalAmplitude {set : Bool} {post : Status → Nat → World → Prop}
    (stands : Stands control handle pcms w)
    (rest : ∀ status v, Stands control handle pcms v → post status (n + 2) v) :
    wpIo io (setGlobalAmplitude num set) post n w := by
  refine wpIo_load stands fun v stands => ⟨trivial, ?_⟩
  rintro o rfl
  exact ⟨trivial, rest _ _ ((stands.progress _).write _ _)⟩

theorem wpIo_pcmFail {h : Nat} {post : Bool → Nat → World → Prop} (stands : Stands control (some h) [h] w)
    (fails : ∀ m v, Stands control none [] v → post false m v) : wpIo io pcmFail post n w := by
  refine ⟨trivial, ?_⟩
  rintro o rfl
  exact ⟨trivial, fails _ _ (stands.progress _).pcmClose⟩

theorem wpIo_orFail {h : Nat} {ready : Bool} {rest : Call Bool} {post : Bool → Nat → World → Prop}
    (stands : Stands control (some h) [h] w)
    (fails : ready = false → ∀ m v, Stands control none [] v → post false m v)
    (goes : ready = true → wpIo io rest post n w) : wpIo io (if !ready then pcmFail else rest) post n w := by
  cases ready with
  | false => exact wpIo_pcmFail stands (fails rfl)
  | true => exact goes rfl

theorem wpIo_enable {post : Bool → Nat → World → Prop} (stands : Stands control handle [] w)
    (works : Works io n → ∀ h v, Stands control (some h) [h] v → post true (n + 3) v)
    (fails : ¬ Works io n → ∀ m v, Stands control none [] v → post false m v) :
    wpIo io (enableHapticPcmAmp true) post n w := by
  refine ⟨trivial, ?_⟩
  rintro o rfl
  have stands := (stands.progress (io n).tasks).pcmOpen
  refine wpIo_orFail stands (fun bad => fails fun good => absurd (good.1.symm.trans bad) Bool.noConfusion)
    fun ready => ?_
  refine ⟨trivial, ?_⟩
  rintro o rfl
  have stands := stands.progress (io (n + 1)).tasks
  refine wpIo_orFail stands (fun bad => fails fun good => absurd (good.2.1.symm.trans bad) Bool.noConfusion)
    fun prepared => ?_
  refine ⟨trivial, ?_⟩
  rintro o rfl
  have stands := stands.progress (io (n + 2)).tasks
  refine wpIo_orFail stands (fun bad => fails fun good => absurd (good.2.2.symm.trans bad) Bool.noConfusion)
    fun started => ?_
  exact ⟨trivial, works ⟨ready, prepared, started⟩ _ _ stands⟩

theorem wpIo_disable {h : Nat} {post : Bool → Nat → World → Prop} (stands : Stands control (some h) [h] w)
    (goes : ∀ v, Stands control none [] v → post true (n + 2) v) :
    wpIo io (enableHapticPcmAmp false) post n w := by
  refine wpIo_load stands fun v stands => ?_
  rw [stands.handle]
  refine ⟨trivial, ?_⟩
  rintro o rfl
  exact ⟨trivial, goes _ (stands.progress _).pcmClose⟩

theorem wpIo_hasAspEnable {α : Type} {k : Bool → Call α} {post : α → Nat → World → Prop}
    (stands : Stands control handle pcms w)
    (rest : ∀ v, Stands control handle pcms v → wpIo io (k (io n).hasAspEnable) post (n + 1) v) :
    wpIo io (.call .hasAspEnable k) post n w := by
  refine ⟨trivial, ?_⟩
  rintro o rfl
  exact rest _ (stands.progress _)

theorem wpIo_tryPut {op : HwWrite} {post : Status → Nat → World → Prop} (stands : Stands control handle pcms w)
    (rest : ∀ v, Stands control handle pcms v → post (if (io n).write op then .ok else .illegalState) (n + 1) v) :
    wpIo io (tryPut op) post n w := by
  refine ⟨trivial, ?_⟩
  rintro o rfl
  exact ⟨trivial, rest _ ((stands.progress _).write _ _)⟩

theorem wpIo_switchAsp {enabled : Bool} {post : Status → Nat → World → Prop} (stands : Stands control handle pcms w)
    (goes : ¬ AspFails io n enabled → ∀ v, Stands control handle pcms v → post .ok (n + aspCalls io n) v)
    (fails : AspFails io n enabled → ∀ m v, Stands control handle pcms v → post .illegalState m v) :
    wpIo io (switchAsp enabled) post n w := by
  refine wpIo_hasAspEnable stands fun v stands => ?_
  rw [aspCalls] at goes
  cases has : (io n).hasAspEnable with
  | false =>
    rw [has] at goes
    exact ⟨trivial, goes (fun failed => absurd (has.symm.trans failed.1) Bool.noConfusion) v stands⟩
  | true =>
    rw [has] at goes
    refine wpIo_tryPut stands fun v stands => ?_
    cases taken : (io (n + 1)).write (.setAspEnable enabled) with
    | false => exact fails ⟨has, taken⟩ _ v stands
    | true => exact goes (fun failed => absurd (taken.symm.trans failed.2) Bool.noConfusion) v stands

/-! ### Both parts -/

theorem wpIo_orReturn {first rest : Call Status} {post : Status → Nat → World → Prop}
    (h : wpIo io first (fun status m v => (status = .ok → wpIo io rest post m v) ∧
      (status ≠ .ok → post status m v)) n w) :
    wpIo io (orReturn first rest) post n w :=
  wp_seq h fun _ _ _ _ now => wp_ite now.1 fun bad => ⟨trivial, now.2 bad⟩

theorem wpIo_switchPcm {enabled : Bool} {post : Status → Nat → World → Prop} (stands : Stands control handle pcms w)
    (h : ∀ v, Stands control handle pcms v → wpIo io (enableHapticPcmAmp enabled)
      (fun switched m v => post (if switched then .ok else .illegalState) m v) (n + 1) v) :
    wpIo io (switchPcm enabled) post n w := by
  refine wpIo_load stands fun v stands => ?_
  rw [stands.alsa]
  exact wp_seq (h v stands) fun _ _ _ _ now => ⟨trivial, now⟩

theorem wpIo_switchOn {post : Status → Nat → World → Prop} (stands : Stands control handle [] w)
    (shut : ¬ Works io (n + 1) → ∀ m v, Stands control none [] v → post .illegalState m v)
    (stuck : Works io (n + 1) → AspFails io (n + 4) true → ∀ m h v,
      Stands control (some h) [h] v → post .illegalState m v)
    (done : Works io (n + 1) → ¬ AspFails io (n + 4) true → ∀ m h v, Stands control (some h) [h] v → post .ok m v) :
    wpIo io (switchControl true) post n w := by
  refine wpIo_orReturn (wpIo_switchPcm stands fun v stands => wpIo_enable stands (fun works h v stands => ?_) ?_)
  · refine ⟨fun _ => wpIo_switchAsp stands (fun taken v => ?_) fun failed m v => ?_, fun bad => absurd rfl bad⟩
    · exact done works taken _ h v
    · exact stuck works failed m h v
  · exact fun failed m v stands => ⟨fun ok => absurd ok Status.noConfusion, fun _ => shut failed m v stands⟩

theorem wpIo_switchOff {h : Nat} {post : Status → Nat → World → Prop} (stands : Stands control (some h) [h] w)
    (stuck : AspFails io (n + 3) false → ∀ m v, Stands control none [] v → post .illegalState m v)
    (done : ¬ AspFails io (n + 3) false → ∀ v, Stands control none [] v → post .ok (n + 3 + aspCalls io (n + 3)) v) :
    wpIo io (switchControl false) post n w := by
  refine wpIo_orReturn (wpIo_switchPcm stands fun v stands => wpIo_disable stands fun v stands => ?_)
  exact ⟨fun _ => wpIo_switchAsp stands done stuck, fun bad => absurd rfl bad⟩

theorem wpIo_setFlag {enabled : Bool} {post : Status → Nat → World → Prop} (stands : Stands control handle pcms w)
    (rest : ∀ m v, Stands enabled handle pcms v → post .ok m v) :
    wpIo io (do
      act (.setUnderExternalControl enabled)
      pure .ok) post n w := by
  refine ⟨trivial, ?_⟩
  rintro o rfl
  have stands := stands.progress (io n).tasks
  exact ⟨trivial, rest _ _ ⟨stands.alsa, rfl, stands.handle, stands.pcms⟩⟩

end Methods

/-! ### Calls -/

/-- The answers to a call that leave flag and PCM in step: if the PCM works when control is switched on, `asp_enable`
is set after it; it is cleared when control is switched off; both are needed to start again. The PCM is opened in
step 4, or closed in step 5. -/
def Consistent (w : World) : Bool × (Nat → Outcome) → Prop
  | (enabled, io) =>
    match w.members.mIsUnderExternalControl, enabled with
    | false, false => True
    | false, true => Works io 4 → ¬ AspFails io 7 true
    | true, false => ¬ AspFails io 6 false
    | true, true => ¬ AspFails io 6 false ∧ Works io (6 + aspCalls io 6 + 1)

def controlStep (num : Numbers) (w : World) : Bool × (Nat → Outcome) → World
  | (enabled, io) => eventStep num w (.request (.setExternalControl enabled), io)

/-- Between calls that have left flag and PCM in step. -/
inductive InStep (w : World) : Prop
  | off (handle : Option Nat) (stands : Stands false handle [] w)
  | on (h : Nat) (stands : Stands true (some h) [h] w)

theorem InStep.agrees {w : World} (inStep : InStep w) : Agrees w := by
  cases inStep with
  | off handle stands => exact stands.agrees_closed.mpr rfl
  | on h stands => exact stands.agrees_open.mpr rfl

/-- A call ends in step if it should, and out of step otherwise. -/
structure Ends (consistent : Prop) (v : World) : Prop where
  inStep : consistent → InStep v
  shows : ¬ consistent → ¬ Agrees v

section Ends

variable {consistent : Prop} {v : World}

theorem Ends.good (inStep : InStep v) (fine : consistent) : Ends consistent v :=
  ⟨fun _ => inStep, fun bad => absurd fine bad⟩

theorem Ends.bad (differs : ¬ Agrees v) (failed : ¬ consistent) : Ends consistent v :=
  ⟨fun fine => absurd fine failed, fun _ => differs⟩

end Ends

section Calls

variable {num : Numbers} {io : Nat → Outcome} {w : World}

theorem wpIo_enableControl {handle : Option Nat} (stands : Stands false handle [] w) :
    wpIo io (setExternalControl num true) (fun _ _ v => Ends (Works io 4 → ¬ AspFails io 7 true) v) 0 w := by
  refine wp_bind (wpIo_setGlobalAmplitude stands fun _ v stands => wpIo_load stands fun v stands => ?_)
  rw [stands.control]
  change wpIo io (orReturn (switchControl true) _) _ _ v
  refine wpIo_orReturn (wpIo_switchOn stands (fun failed m v stands => ?_) (fun works failed m h v stands => ?_)
    fun works taken m h v stands => ?_)
  · have ends : Ends (Works io 4 → ¬ AspFails io 7 true) v := .good (.off _ stands) fun works => absurd works failed
    exact ⟨fun ok => absurd ok Status.noConfusion, fun _ => ends⟩
  · have ends : Ends (Works io 4 → ¬ AspFails io 7 true) v :=
      .bad (fun agrees => absurd (stands.agrees_open.mp agrees) Bool.noConfusion) fun fine => fine works failed
    exact ⟨fun ok => absurd ok Status.noConfusion, fun _ => ends⟩
  · exact ⟨fun _ => wpIo_setFlag stands fun m v stands => .good (.on h stands) fun _ => taken,
    fun bad => absurd rfl bad⟩

theorem wpIo_disableControl {h : Nat} (stands : Stands true (some h) [h] w) :
    wpIo io (setExternalControl num false) (fun _ _ v => Ends (¬ AspFails io 6 false) v) 0 w := by
  refine wp_bind (wpIo_setGlobalAmplitude stands fun _ v stands => wpIo_load stands fun v stands => ?_)
  rw [stands.control]
  change wpIo io (orReturn (switchControl false) _) _ _ v
  refine wpIo_orReturn (wpIo_switchOff stands (fun failed m v stands => ?_) fun taken v stands => ?_)
  · have ends : Ends (¬ AspFails io 6 false) v :=
      .bad (fun agrees => absurd (stands.agrees_closed.mp agrees) Bool.noConfusion) (not_not.mpr failed)
    exact ⟨fun ok => absurd ok Status.noConfusion, fun _ => ends⟩
  · exact ⟨fun _ => wpIo_setFlag stands fun m v stands => .good (.off none stands) taken, fun bad => absurd rfl bad⟩

theorem wpIo_restartControl {h : Nat} (stands : Stands true (some h) [h] w) :
    wpIo io (setExternalControl num true)
      (fun _ _ v => Ends (¬ AspFails io 6 false ∧ Works io (6 + aspCalls io 6 + 1)) v) 0 w := by
  refine wp_bind (wpIo_setGlobalAmplitude stands fun _ v stands => wpIo_load stands fun v stands => ?_)
  rw [stands.control]
  refine wpIo_orReturn (wpIo_switchOff stands (fun failed m v stands => ?_) fun taken v stands => ?_)
  · have ends : Ends (¬ AspFails io 6 false ∧ Works io (6 + aspCalls io 6 + 1)) v :=
      .bad (fun agrees => absurd (stands.agrees_closed.mp agrees) Bool.noConfusion) fun fine => fine.1 failed
    exact ⟨fun ok => absurd ok Status.noConfusion, fun _ => ends⟩
  refine ⟨fun _ => wpIo_orReturn (wpIo_switchOn stands (fun failed m v stands => ?_) (fun works _ m h v stands => ?_)
    fun works _ m h v stands => ?_), fun bad => absurd rfl bad⟩
  · have ends : Ends (¬ AspFails io 6 false ∧ Works io (6 + aspCalls io 6 + 1)) v :=
      .bad (fun agrees => absurd (stands.agrees_closed.mp agrees) Bool.noConfusion) fun fine => failed fine.2
    exact ⟨fun ok => absurd ok Status.noConfusion, fun _ => ends⟩
  -- the flag stays what it was
  · have ends : Ends (¬ AspFails io 6 false ∧ Works io (6 + aspCalls io 6 + 1)) v :=
      .good (.on h stands) ⟨taken, works⟩
    exact ⟨fun ok => absurd ok Status.noConfusion, fun _ => ends⟩
  · exact ⟨fun _ => wpIo_setFlag stands fun m v stands => .good (.on h stands) ⟨taken, works⟩,
    fun bad => absurd rfl bad⟩

theorem wpIo_setExternalControl {enabled : Bool} (inStep : InStep w) :
    wpIo io (setExternalControl num enabled) (fun _ _ v => Ends (Consistent w (enabled, io)) v) 0 w := by
  cases inStep with
  | off handle stands =>
    simp only [Consistent, stands.control]
    cases enabled with
    | false =>
      refine wp_bind (wpIo_setGlobalAmplitude stands fun _ v stands => wpIo_load stands fun v stands => ?_)
      rw [stands.control]
      exact ⟨trivial, .good (.off handle stands) trivial⟩
    | true => exact wpIo_enableControl stands
  | on h stands =>
    simp only [Consistent, stands.control]
    cases enabled with
    | false => exact wpIo_disableControl stands
    | true => exact wpIo_restartControl stands

end Calls

theorem controlStep_ends (num : Numbers) {w : World} (inStep : InStep w) (call : Bool × (Nat → Outcome)) :
    Ends (Consistent w call) (controlStep num w call) := by
  obtain ⟨enabled, io⟩ := call
  have received : InStep { w with request := .setExternalControl enabled } := by
    cases inStep with
    | off handle stands => exact .off handle ⟨stands.alsa, stands.control, stands.handle, stands.pcms⟩
    | on h stands => exact .on h ⟨stands.alsa, stands.control, stands.handle, stands.pcms⟩
  have served : wpIo io (setExternalControl num enabled) (fun _ _ v => Ends (Consistent w (enabled, io)) v) 0
      { w with request := .setExternalControl enabled } := wpIo_setExternalControl received
  obtain ⟨_, ends⟩ := exec_post served fun _ => rfl
  exact ends

/-- Flag and PCM agree between all calls exactly if no call meets a failure that sets them apart. -/
theorem pcm_agrees_with_flag_iff (num : Numbers) (members : Members) (alsa : members.mHasHapticAlsaDevice = true)
    (calls : List (Bool × (Nat → Outcome))) :
    (∀ k, Agrees ((calls.take k).foldl (controlStep num) (.start members))) ↔
      Along (controlStep num) Consistent (.start members) calls := by
  have start : InStep (.start members) := .off _ ⟨alsa, rfl, rfl, rfl⟩
  have fine (w : World) (inStep : InStep w) : Agrees w := inStep.agrees
  have keeps (w : World) (call : Bool × (Nat → Outcome)) (inStep : InStep w) :
      Consistent w call → InStep (controlStep num w call) := (controlStep_ends num inStep call).inStep
  have shows (w : World) (call : Bool × (Nat → Outcome)) (inStep : InStep w) :
      ¬ Consistent w call → ¬ Agrees (controlStep num w call) := (controlStep_ends num inStep call).shows
  exact (along_iff_forall_take fine keeps shows start calls).symm

namespace Sample

def alsa : Members := { members with mHasHapticAlsaDevice := true }

def plain (works : Bool) : Nat → Outcome := fun _ => { smooth with hasAspEnable := false, pcm := works }

end Sample

/-- External control is switched on, started again and switched off. -/
theorem pcm_agrees_with_flag_plain :
    Sample.alsa.mHasHapticAlsaDevice = true ∧
    ∀ k, Agrees (([(true, Sample.plain true), (true, Sample.plain true), (false, Sample.plain true)].take k).foldl
      (controlStep Sample.numbers) (.start Sample.alsa)) := by
  have calm (enabled : Bool) (n : Nat) : ¬ AspFails (Sample.plain true) n enabled :=
    fun failed => absurd failed.1 Bool.noConfusion
  have restarts (w : World) (on : w.members.mIsUnderExternalControl = true) :
      Consistent w (true, Sample.plain true) := by
    simp only [Consistent, on]
    exact ⟨calm false 6, rfl, rfl, rfl⟩
  have stops (w : World) (on : w.members.mIsUnderExternalControl = true) :
      Consistent w (false, Sample.plain true) := by
    simp only [Consistent, on]
    exact calm false 6
  refine ⟨rfl, (pcm_agrees_with_flag_iff Sample.numbers Sample.alsa rfl _).mpr ⟨fun _ => calm true 7, ?_, ?_, trivial⟩⟩
  · exact restarts _ (by decide +kernel)
  · exact stops _ (by decide +kernel)

/-- The PCM cannot be opened again, or `asp_enable` cannot be set after it has been opened. -/
theorem pcm_disagrees_with_flag :
    ¬ Agrees ([(true, Sample.plain true), (true, Sample.plain false)].foldl (controlStep Sample.numbers)
      (.start Sample.alsa)) ∧
    ¬ Agrees (controlStep Sample.numbers (.start Sample.alsa)
      (true, fun _ => { Sample.smooth with write := (· ≠ .setAspEnable true) })) := by
  decide +kernel

end Pdx215.Vibrator
