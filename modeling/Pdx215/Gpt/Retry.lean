import Pdx215.Gpt.Cycle

/-! Repeating a stage that was cut off. Most of the disks in between are recognised as the stage
begun or the stage done; two are not. -/
namespace Pdx215.Gpt
open Region Effect

def cutOff (env : Env) (path : Bytes) (stage : BootUpdateStage) (calls : Nat) (w : World) : World :=
  (run (react env) (preparePartitions env stage (some path)) w (List.replicate calls .ok)).2

def afterStages (env : Env) (path : Bytes) (w : World) (stages : List BootUpdateStage) : World :=
  stages.foldl (fun w stage => (uninterrupted env path stage w).2) w

theorem afterStages_nil (env : Env) (path : Bytes) (w : World) : afterStages env path w [] = w := rfl

theorem afterStages_cons (env : Env) (path : Bytes) (w : World) (stage : BootUpdateStage)
    (stages : List BootUpdateStage) : afterStages env path w (stage :: stages) =
      afterStages env path (uninterrupted env path stage w).2 stages := rfl

/-- `UPDATE_BACKUP` between its two writes, and `UPDATE_FINALIZE` after all three, leave two right
headers, which stand for the stage `UPDATE_MAIN`. -/
def Unrecognised (stage : BootUpdateStage) (written : Nat) : Prop :=
  stage = .updateBackup ∧ written = 1 ∨ stage = .updateFinalize ∧ written = 3

namespace Tables

variable {env : Env} {arr : Bytes} {t : Tables} {boot : BootChain}

theorem setChain_chainHeader (env : Env) (t : Tables) (boot : BootChain) :
    (t.chainHeader env boot).setChain env boot = t.setChain env boot := by
  have target : (t.chainHeader env boot).target env boot = t.target env boot := by
    rw [Tables.target, chainHeader_arr, chainHeader_primary, Tables.target]
  refine Tables.ext ?_ ?_ <;> intro gpt <;> cases gpt
  · rw [setChain_primary, chainHeader_primary, setChain_primary]
  · rw [setChain_secondary, target, chainHeader_secondary, withArray_withArray, setChain_secondary]
  · rw [setChain_arr_primary, chainHeader_arr, setChain_arr_primary]
  · rw [setChain_arr_secondary, target, setChain_arr_secondary]

theorem setChain_setChain (env : Env) (t : Tables) (boot : BootChain) :
    (t.setChain env boot).setChain env boot = t.setChain env boot := by
  have target : (t.setChain env boot).target env boot = t.target env boot := by
    rw [Tables.target, setChain_arr_primary, setChain_primary, Tables.target]
  refine Tables.ext ?_ ?_ <;> intro gpt <;> cases gpt
  · rw [setChain_primary]
  · rw [setChain_secondary, target, setChain_secondary, withArray_withArray]
  · rw [setChain_arr_primary]
  · rw [setChain_arr_secondary, target, setChain_arr_secondary]

/-- Neither write of `gpt2_set_boot_chain` changes what the next call sees of the headers. -/
theorem states_chain (large : 92 ≤ (t.hdr .secondary).length)
    (sealed : headerState env (t.hdr .secondary) ≠ .badCrc) (boot : BootChain) :
    headerState env ((t.chainHeader env boot).hdr .secondary) = headerState env (t.hdr .secondary) ∧
    headerState env ((t.setChain env boot).hdr .secondary) = headerState env (t.hdr .secondary) := by
  rw [chainHeader_secondary, setChain_secondary, headerState_withArray _ large sealed]
  exact ⟨rfl, rfl⟩

def states (env : Env) (t : Tables) : GptState × GptState :=
  (headerState env (t.hdr .primary), headerState env (t.hdr .secondary))

theorem states_restored (large : 92 ≤ (t.hdr .primary).length) (ok : headerState env (t.hdr .secondary) = .ok) :
    (t.setState env .primary .ok).states env = (.ok, .ok) := by
  rw [states, setState_same, setState_primary, headerState_withState_ok env large, ok]

end Tables

/-- What the next call makes of the tables after `i` writes of a stage. -/
inductive Recognised (env : Env) (stage : BootUpdateStage) (t : Tables) (i : Nat) (u : Tables) : Prop where
  | begun (fine : ¬ Unrecognised stage i) (ready : Ready env stage u) (same : u.after env stage = t.after env stage)
  | done (fine : ¬ Unrecognised stage i) (final : u = t.after env stage)
      (unexpected : ¬ Expected stage (u.states env).1 (u.states env).2)
      (zero : idleAnswer stage (u.states env).1 (u.states env).2 = 0)
  | foreign (lost : Unrecognised stage i) (unexpected : ¬ Expected stage (u.states env).1 (u.states env).2)
      (failure : idleAnswer stage (u.states env).1 (u.states env).2 ≠ 0)

section Classify

variable {env : Env} {t u : Tables} {i : Nat}

theorem recognised_main (large : ∀ gpt, 92 ≤ (t.hdr gpt).length) (ready : Ready env .updateMain t)
    (here : (stageTables env .updateMain t)[i]? = some u) : Recognised env .updateMain t i u := by
  obtain ⟨⟨ok, ok'⟩, lun, pair⟩ := ready
  obtain ⟨half, full⟩ := Tables.states_chain (large .secondary) (by rw [ok']; decide) .backupBoot
  have fine : ∀ i, ¬ Unrecognised .updateMain i := by
    rintro i (⟨stage, _⟩ | ⟨stage, _⟩) <;> cases stage
  match i, here with
  | 0, here =>
    cases here
    exact .begun (fine _) ⟨⟨ok, ok'⟩, lun, pair⟩ rfl
  | 1, here =>
    cases here
    refine .begun (fine _) ⟨⟨ok, half.trans ok'⟩, lun, pair⟩ ?_
    rw [Tables.after, Tables.afterMain, Tables.setChain_chainHeader, Tables.afterMain]
  | 2, here =>
    cases here
    refine .begun (fine _) ⟨⟨ok, full.trans ok'⟩, lun, pair⟩ ?_
    rw [Tables.after, Tables.afterMain, Tables.setChain_setChain, Tables.afterMain]
  | 3, here =>
    cases here
    have states : (t.afterMain env).states env = (.badSignature, .ok) := by
      rw [Tables.states, Tables.afterMain, Tables.setState_same, Tables.setChain_primary, Tables.setState_primary,
        headerState_withState_bad env (large .primary), full, ok']
    refine .done (fine _) rfl ?_ ?_
    · rw [states]
      exact fun expected => by cases expected.1
    · rw [states]
      decide

theorem recognised_backup (large : ∀ gpt, 92 ≤ (t.hdr gpt).length) (ready : Ready env .updateBackup t)
    (here : (stageTables env .updateBackup t)[i]? = some u) : Recognised env .updateBackup t i u := by
  obtain ⟨⟨bad, ok⟩, lun⟩ := ready
  have fixed := headerState_withState_ok env (large .primary)
  match i, here with
  | 0, here =>
    cases here
    exact .begun (by simp [Unrecognised]) ⟨⟨bad, ok⟩, lun⟩ rfl
  | 1, here =>
    cases here
    have states := Tables.states_restored (large .primary) ok
    refine .foreign (.inl ⟨rfl, rfl⟩) ?_ ?_
    · rw [states]
      exact fun expected => by cases expected.1
    · rw [states]
      decide
  | 2, here =>
    cases here
    have states : (t.afterBackup env).states env = (.ok, .badSignature) := by
      rw [Tables.states, Tables.afterBackup, Tables.setState_secondary, Tables.setState_same, Tables.setState_same,
        Tables.setState_primary, fixed, headerState_withState_bad env (large .secondary)]
    refine .done (by simp [Unrecognised]) rfl ?_ ?_
    · rw [states]
      exact fun expected => by cases expected.1
    · rw [states]
      decide

theorem recognised_finalize (large : ∀ gpt, 92 ≤ (t.hdr gpt).length) (ready : Ready env .updateFinalize t)
    (here : (stageTables env .updateFinalize t)[i]? = some u) : Recognised env .updateFinalize t i u := by
  obtain ⟨⟨ok, bad⟩, -⟩ := ready
  obtain ⟨half, full⟩ := Tables.states_chain (large .secondary) (by rw [bad]; decide) .normalBoot
  match i, here with
  | 0, here =>
    cases here
    exact .begun (by simp [Unrecognised]) ⟨⟨ok, bad⟩, trivial⟩ rfl
  | 1, here =>
    cases here
    refine .begun (by simp [Unrecognised]) ⟨⟨ok, half.trans bad⟩, trivial⟩ ?_
    rw [Tables.after, Tables.afterFinalize, Tables.setChain_chainHeader, Tables.afterFinalize]
  | 2, here =>
    cases here
    refine .begun (by simp [Unrecognised]) ⟨⟨ok, full.trans bad⟩, trivial⟩ ?_
    rw [Tables.after, Tables.afterFinalize, Tables.setChain_setChain, Tables.afterFinalize]
  | 3, here =>
    cases here
    have long : 92 ≤ ((t.setChain env .normalBoot).hdr .secondary).length := by
      rw [Tables.setChain_secondary, length_withArray]
      exact large .secondary
    have states : (t.afterFinalize env).states env = (.ok, .ok) := by
      rw [Tables.states, Tables.afterFinalize, Tables.setState_secondary, Tables.setState_same,
        Tables.setChain_primary, headerState_withState_ok env long, ok]
    refine .foreign (.inr ⟨rfl, rfl⟩) ?_ ?_
    · rw [states]
      exact fun expected => by cases expected.2
    · rw [states]
      decide

theorem recognised {stage : BootUpdateStage} (large : ∀ gpt, 92 ≤ (t.hdr gpt).length) (ready : Ready env stage t)
    (here : (stageTables env stage t)[i]? = some u) : Recognised env stage t i u := by
  cases stage with
  | updateMain => exact recognised_main large ready here
  | updateBackup => exact recognised_backup large ready here
  | updateFinalize => exact recognised_finalize large ready here

end Classify

section Retry

variable {env : Env} {p : Place} {d arr : Bytes} {t : Tables} {w : World}

theorem cutOff_progress (on : Mounted env p d t w) (safe : t.Safe env arr) (path : Bytes)
    (stage : BootUpdateStage) (calls : Nat) :
    ∃ i u, (stageTables env stage t)[i]? = some u ∧ (cutOff env path stage calls w).writes = w.writes + i ∧
      Mounted env p d u (cutOff env path stage calls w) ∧ u.Safe env arr := by
  have fit : ∀ i o, (List.replicate calls Outcome.ok)[i]? = some o → Fine (0 + i) o :=
    fun i o found => List.eq_of_mem_replicate (List.mem_of_getElem? found)
  obtain ⟨i, u, here, count, onU⟩ := run_inv (wp_preparePartitions_ideal on safe stage path) _ fit
  obtain ⟨u', onU', safeU⟩ := run_inv (wp_preparePartitions_safe fine_atomic stage (some path) ⟨t, on, safe⟩) _ fit
  cases onU.unique onU'
  exact ⟨i, u, here, count, onU, safeU⟩

/-- Where `UPDATE_BACKUP` switches the boot LUN, the 21st call is its first write. -/
theorem cutOff_backup (on : Mounted env p d t w) (ready : Ready env .updateBackup t) (uses : UsesXbl env)
    (path : Bytes) : (cutOff env path .updateBackup 21 w).writes = w.writes + 1 := by
  let io : Nat → Outcome := fun m => if m < 21 then .ok else .error none
  have goes : ∀ {m}, m < 21 → io m = .ok := fun early => if_pos early
  have atomic : AllAtomic (fun m o => o = io m) := by
    rintro m o rfl
    by_cases early : m < 21
    · rw [goes early]
      trivial
    · simp only [io, if_neg early]
      rfl
  have fails : ∀ {α : Type} {n calls : Nat} {post : α → Nat → World → Prop} {a : α} {v : World},
      n + calls ≤ 21 → FailsTo (fun m o => o = io m) n calls post a v := by
    intro α n calls post a v early m left lower upper failed
    rw [goes (by omega)] at failed
    cases failed
  have room := (on.setLun .normalBoot).room
  have fixed := (on.setLun .normalBoot).setState .primary .ok
  have spec : wp (react env) (fun m o => o = io m) (fun _ => True) (preparePartitions env .updateBackup (some path))
      (fun _ _ v => v.writes = w.writes + 1) 0 w := by
    refine wp_preparePartitions atomic.noShort trivial on.room (fails (by decide)) (fails (by decide)) (fun _ => ?_)
    rw [on.header, on.header]
    refine wp_dispatchStage trivial (fun unexpected => (unexpected ready.1).elim) (fun _ => ?_)
    refine wp_afterSwitch atomic.noShort trivial (fun other => (other uses).elim) (fun _ => fails (by decide))
      (fun _ lost => (lost (ready.2 uses)).elim) (fun _ _ _ => ?_)
    refine wp_bind (wp_gptSetState atomic (by decide) trivial room (fails (by decide)) trivial (fun _ => ?_))
    refine wp_ite (fun failed => (failed rfl).elim) (fun _ => ?_)
    refine wp_gptSetState atomic (by decide) trivial fixed.room (fun _ _ _ _ _ => rfl) trivial (fun ok => ?_)
    exact absurd (ok 21 (by decide) (by decide)) Outcome.noConfusion
  obtain ⟨_, ends⟩ := exec_post spec (fun _ => rfl)
  have still : ∀ op w, (react env op (.error none) w).2 = w := by
    intro op w
    cases op <;> rfl
  rw [cutOff, run_eq_exec still ?_ ?_ _ w]
  · exact ends
  · intro i o found
    have early := (List.getElem?_eq_some_iff.mp found).1
    rw [List.eq_of_mem_replicate (List.mem_of_getElem? found)]
    rw [List.length_replicate] at early
    exact goes (by omega)
  · intro m after
    rw [List.length_replicate] at after
    exact if_neg (by omega)

theorem uninterrupted_refused (on : Mounted env p d t w) (states : t.states env = (.ok, .ok)) (path : Bytes) :
    uninterrupted env path .updateBackup w = (-1, w) := by
  have first : headerState env (t.hdr .primary) = .ok := congrArg Prod.fst states
  have second : headerState env (t.hdr .secondary) = .ok := congrArg Prod.snd states
  have unexpected : ¬ Expected .updateBackup (t.states env).1 (t.states env).2 := by
    rw [states]
    exact fun expected => by cases expected.1
  rw [uninterrupted_unexpected on unexpected, first, second]
  rfl

/-- Repeating the stage from tables that are recognised, and from tables that are not. -/
theorem retry_of_recognised {stage : BootUpdateStage} {i : Nat} {u : Tables} (on : Mounted env p d u w)
    (safe : u.Safe env arr) (seen : Recognised env stage t i u) (path : Bytes) :
    ((uninterrupted env path stage w).1 = 0 ∧
      (uninterrupted env path stage w).2.disk = mount p d (t.after env stage)) ↔ ¬ Unrecognised stage i := by
  cases seen with
  | begun fine ready same =>
    obtain ⟨zero, -, final⟩ := uninterrupted_ready on safe ready path
    rw [same] at final
    exact ⟨fun _ => fine, fun _ => ⟨zero, final.disk⟩⟩
  | done fine final unexpected zero =>
    rw [uninterrupted_unexpected on unexpected path]
    exact ⟨fun _ => fine, fun _ => ⟨zero, by rw [on.disk, final]⟩⟩
  | foreign lost unexpected failure =>
    rw [uninterrupted_unexpected on unexpected path]
    exact ⟨fun completed => (failure completed.1).elim, fun fine => (fine lost).elim⟩

theorem afterStages_safe (now : SafeDisk env p d arr w) (path : Bytes) (stages : List BootUpdateStage) :
    SafeDisk env p d arr (afterStages env path w stages) := by
  induction stages generalizing w with
  | nil => exact now
  | cons stage stages ih => exact ih (uninterrupted_safe now path stage)

end Retry

/-- A stage that goes through from here is cut off and repeated: it then succeeds with the disk of
the uninterrupted run exactly if the cut was not at one of the two places that are not recognised. -/
theorem retry_completes_iff (env : Env) (path : Bytes) (start : World) (formed : WellFormed env start.disk)
    (earlier : List BootUpdateStage) (stage : BootUpdateStage) (calls : Nat) :
    let w := afterStages env path start earlier
    let whole := uninterrupted env path stage w
    let cut := cutOff env path stage calls w
    let retry := uninterrupted env path stage cut
    whole.1 = 0 → w.writes < whole.2.writes →
      ((retry.1 = 0 ∧ retry.2.disk = whole.2.disk) ↔
        ¬ (stage = .updateBackup ∧ cut.writes = w.writes + 1 ∨
          stage = .updateFinalize ∧ cut.writes = w.writes + 3)) := by
  intro w whole cut retry succeeds writes
  obtain ⟨t, on, safe⟩ := afterStages_safe formed.safe path earlier
  rcases uninterrupted_ending on safe stage path with ⟨ready, -, -, final⟩ | ⟨-, failed | idle⟩
  · obtain ⟨i, u, here, count, onU, safeU⟩ := cutOff_progress on safe path stage calls
    have result := retry_of_recognised onU safeU (recognised on.large ready here) path
    have disk : whole.2.disk = _ := final.disk
    have counted : cut.writes = w.writes + i := count
    rw [disk, counted]
    refine result.trans (not_congr ?_)
    rw [Unrecognised, Nat.add_left_cancel_iff, Nat.add_left_cancel_iff]
  · exact (failed succeeds).elim
  · exact absurd idle (Nat.ne_of_gt writes)

/-- `UPDATE_MAIN` loses power before its second write. -/
theorem retry_completes_sample :
    let whole := uninterrupted Sample.env (cstr "/dev/block/sda") .updateMain Sample.world
    let cut := cutOff Sample.env (cstr "/dev/block/sda") .updateMain 28 Sample.world
    let retry := uninterrupted Sample.env (cstr "/dev/block/sda") .updateMain cut
    (whole.1 = 0 ∧ Sample.world.writes < whole.2.writes) ∧ retry.1 = 0 ∧ retry.2.disk = whole.2.disk := by
  obtain ⟨zero, count, -⟩ := uninterrupted_ready Sample.world_mounted Sample.twins.safe Sample.ready
    (cstr "/dev/block/sda")
  have writes : Sample.world.writes <
      (uninterrupted Sample.env (cstr "/dev/block/sda") .updateMain Sample.world).2.writes := by
    rw [count]
    decide
  have completes := retry_completes_iff Sample.env (cstr "/dev/block/sda") Sample.world Sample.world_wellFormed []
    .updateMain 28
  simp only [afterStages_nil, zero, writes, reduceCtorEq, false_and, or_self, not_false_eq_true, iff_true,
    forall_const] at completes
  exact ⟨⟨zero, writes⟩, completes⟩

/-- `UPDATE_BACKUP` loses power between its two writes: the next attempt is refused. -/
theorem retry_backup_refused :
    let w := afterStages Sample.env (cstr "/dev/block/sda") Sample.world [.updateMain]
    let whole := uninterrupted Sample.env (cstr "/dev/block/sda") .updateBackup w
    let cut := cutOff Sample.env (cstr "/dev/block/sda") .updateBackup 21 w
    WellFormed Sample.env Sample.world.disk ∧ whole.1 = 0 ∧ w.writes < whole.2.writes ∧
      (uninterrupted Sample.env (cstr "/dev/block/sda") .updateBackup cut).1 = -1 := by
  obtain ⟨-, -, on⟩ := uninterrupted_ready Sample.world_mounted Sample.twins.safe Sample.ready (cstr "/dev/block/sda")
  obtain ⟨safe, bad, valid⟩ := Sample.twins.main
  have ready : Ready Sample.env .updateBackup _ := ⟨⟨bad, valid.state⟩, fun _ => Sample.lunResolves _⟩
  obtain ⟨zero, count, -⟩ := uninterrupted_ready on safe ready (cstr "/dev/block/sda")
  obtain ⟨i, u, here, written, onU, -⟩ := cutOff_progress on safe (cstr "/dev/block/sda") .updateBackup 21
  rw [cutOff_backup on ready Sample.usesXbl, Nat.add_left_cancel_iff] at written
  cases written
  cases here
  have states := Tables.states_restored (on.large .primary) valid.state
  dsimp only
  rw [afterStages_cons, afterStages_nil]
  refine ⟨Sample.world_wellFormed, zero, ?_, ?_⟩
  · rw [count]
    exact Nat.lt_add_of_pos_right (by decide)
  · rw [uninterrupted_refused onU states]

end Pdx215.Gpt
