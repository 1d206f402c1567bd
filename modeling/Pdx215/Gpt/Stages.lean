import Pdx215.Gpt.CrashSafety

/-! Stages without failures: the tables that a stage passes through, write by write, and when it
goes through with its writes at all. -/
namespace Pdx215.Gpt
open Region Effect

namespace Tables

def afterMain (env : Env) (t : Tables) : Tables :=
  (t.setChain env .backupBoot).setState env .primary .badSignature

def afterBackup (env : Env) (t : Tables) : Tables :=
  (t.setState env .primary .ok).setState env .secondary .badSignature

def afterFinalize (env : Env) (t : Tables) : Tables :=
  (t.setChain env .normalBoot).setState env .secondary .ok

def after (env : Env) : BootUpdateStage → Tables → Tables
  | .updateMain => afterMain env
  | .updateBackup => afterBackup env
  | .updateFinalize => afterFinalize env

end Tables

/-- The tables before each write of a stage, and after the last. -/
def stageTables (env : Env) : BootUpdateStage → Tables → List Tables
  | .updateMain, t =>
    [t, t.chainHeader env .backupBoot, t.setChain env .backupBoot, t.afterMain env]
  | .updateBackup, t => [t, t.setState env .primary .ok, t.afterBackup env]
  | .updateFinalize, t =>
    [t, t.chainHeader env .normalBoot, t.setChain env .normalBoot, t.afterFinalize env]

def stageWrites : BootUpdateStage → Nat
  | .updateMain => 3
  | .updateBackup => 2
  | .updateFinalize => 3

/-- Where the boot LUN has a part in the update, its nodes are found. -/
def LunOk (env : Env) (chain : BootChain) : Prop := UsesXbl env → LunResolves env chain

def Equipped (env : Env) : BootUpdateStage → Tables → Prop
  | .updateMain, t => LunOk env .backupBoot ∧ (t.target env .backupBoot).2 = 0
  | .updateBackup, _ => LunOk env .normalBoot
  | .updateFinalize, _ => True

def Ready (env : Env) (stage : BootUpdateStage) (t : Tables) : Prop :=
  Expected stage (headerState env (t.hdr .primary)) (headerState env (t.hdr .secondary)) ∧ Equipped env stage t

/-- After `i` of the writes the disk carries the tables number `i`. -/
def Progress (env : Env) (p : Place) (d : Bytes) (ts : List Tables) (before : Nat) (w : World) : Prop :=
  ∃ i t, ts[i]? = some t ∧ w.writes = before + i ∧ Mounted env p d t w

/-- How a stage ends: with all its writes, or without any or with an error. -/
def Ending (env : Env) (p : Place) (d : Bytes) (stage : BootUpdateStage) (t : Tables) (before : Nat)
    (r : Int) (w : World) : Prop :=
  (Ready env stage t ∧ r = 0 ∧ w.writes = before + stageWrites stage ∧
    Mounted env p d (t.after env stage) w) ∨
  (¬ Ready env stage t ∧ (r ≠ 0 ∨ w.writes = before))

section Ideal

variable {env : Env} {p : Place} {d : Bytes} {t : Tables} {w : World} {n before : Nat}

theorem wp_updateMain_ideal (on : Mounted env p d t w)
    (describes : partitionCrc (t.hdr .primary) = (env.crc32 (t.arr .primary)).toNat)
    (expected : Expected .updateMain (headerState env (t.hdr .primary)) (headerState env (t.hdr .secondary)))
    (count : w.writes = before) :
    wp (react env) Fine (Progress env p d (stageTables env .updateMain t) before) (updateMain env)
      (fun r _ v => Ending env p d .updateMain t before r v) n w := by
  have start : ∀ v, Mounted env p d t v → v.writes = before →
      Progress env p d (stageTables env .updateMain t) before v :=
    fun v on count => ⟨0, t, rfl, count, on⟩
  suffices rest : ∀ m v, Mounted env p d t v → v.writes = before → LunOk env .backupBoot →
      wp (react env) Fine (Progress env p d (stageTables env .updateMain t) before) (updateMainTables env)
        (fun r _ v => Ending env p d .updateMain t before r v) m v by
    refine wp_afterSwitch fine_atomic.noShort (start w on count) ?_ (fun _ => .fine) ?_ ?_
    · exact fun other => rest n w on count (fun uses => (other uses).elim)
    · exact fun uses lost m => .inr ⟨fun ready => lost (ready.2.1 uses), .inl (by decide)⟩
    · exact fun _ _ found => rest _ _ (on.setLun _) count (fun _ => found)
  intro m v on count lun
  have source := on.source describes
  have chained := on.setChain .backupBoot
  have half : Progress env p d (stageTables env .updateMain t) before (v.chainHeader env .backupBoot) :=
    ⟨1, _, rfl, congrArg (· + 1) count, on.chainHeader .backupBoot⟩
  have full : Progress env p d (stageTables env .updateMain t) before (v.setChain env .backupBoot) :=
    ⟨2, _, rfl, congrArg (· + 2) count, chained⟩
  have final := chained.setState .primary .badSignature
  refine wp_bind (wp_gpt2SetBootChain fine_atomic (start v on count) on.room .fine (fun none => (none source).elim)
    ?_ (fun _ => half) (fun _ => .fine) (fun _ full => (on.space _ full).elim) ?_)
  · intro _ alone k
    rw [on.chainResult] at alone ⊢
    rw [if_pos alone]
    exact wp_ret (start v on count) (.inr ⟨fun ready => alone ready.2.2, .inr count⟩)
  · intro _ _ pair _
    rw [on.chainResult] at pair
    refine ⟨full, wp_ite (fun failed => (failed rfl).elim) (fun _ => ?_)⟩
    refine wp_gptSetState fine_atomic (by decide) full chained.room .fine ?_ (fun _ => ?_)
    · exact ⟨3, _, rfl, congrArg (· + 3) count, final⟩
    · exact .inl ⟨⟨expected, lun, pair⟩, rfl, congrArg (· + 3) count, final⟩

theorem wp_updateBackup_ideal (on : Mounted env p d t w)
    (expected : Expected .updateBackup (headerState env (t.hdr .primary)) (headerState env (t.hdr .secondary)))
    (count : w.writes = before) :
    wp (react env) Fine (Progress env p d (stageTables env .updateBackup t) before) (updateBackup env)
      (fun r _ v => Ending env p d .updateBackup t before r v) n w := by
  have start : ∀ v, Mounted env p d t v → v.writes = before →
      Progress env p d (stageTables env .updateBackup t) before v :=
    fun v on count => ⟨0, t, rfl, count, on⟩
  suffices rest : ∀ m v, Mounted env p d t v → v.writes = before → LunOk env .normalBoot →
      wp (react env) Fine (Progress env p d (stageTables env .updateBackup t) before) (updateBackupTables env)
        (fun r _ v => Ending env p d .updateBackup t before r v) m v by
    refine wp_afterSwitch fine_atomic.noShort (start w on count) ?_ (fun _ => .fine) ?_ ?_
    · exact fun other => rest n w on count (fun uses => (other uses).elim)
    · exact fun uses lost m => .inr ⟨fun ready => lost (ready.2 uses), .inl (by decide)⟩
    · exact fun _ _ found => rest _ _ (on.setLun _) count (fun _ => found)
  intro m v on count lun
  have fixed := on.setState .primary .ok
  have half : Progress env p d (stageTables env .updateBackup t) before (v.setState env .primary .ok) :=
    ⟨1, _, rfl, congrArg (· + 1) count, fixed⟩
  have final := fixed.setState .secondary .badSignature
  refine wp_bind (wp_gptSetState fine_atomic (by decide) (start v on count) on.room .fine half (fun _ => ?_))
  refine wp_ite (fun failed => (failed rfl).elim) (fun _ => ?_)
  refine wp_gptSetState fine_atomic (by decide) half fixed.room .fine ?_ (fun _ => ?_)
  · exact ⟨2, _, rfl, congrArg (· + 2) count, final⟩
  · exact .inl ⟨⟨expected, lun⟩, rfl, congrArg (· + 2) count, final⟩

theorem wp_updateFinalize_ideal (on : Mounted env p d t w)
    (describes : partitionCrc (t.hdr .primary) = (env.crc32 (t.arr .primary)).toNat)
    (expected : Expected .updateFinalize (headerState env (t.hdr .primary)) (headerState env (t.hdr .secondary)))
    (count : w.writes = before) :
    wp (react env) Fine (Progress env p d (stageTables env .updateFinalize t) before) (updateFinalize env)
      (fun r _ v => Ending env p d .updateFinalize t before r v) n w := by
  have source := on.source describes
  have chained := on.setChain .normalBoot
  have start : Progress env p d (stageTables env .updateFinalize t) before w := ⟨0, t, rfl, count, on⟩
  have half : Progress env p d (stageTables env .updateFinalize t) before (w.chainHeader env .normalBoot) :=
    ⟨1, _, rfl, congrArg (· + 1) count, on.chainHeader .normalBoot⟩
  have full : Progress env p d (stageTables env .updateFinalize t) before (w.setChain env .normalBoot) :=
    ⟨2, _, rfl, congrArg (· + 2) count, chained⟩
  have final := chained.setState .secondary .ok
  refine wp_bind (wp_gpt2SetBootChain fine_atomic start on.room .fine (fun none => (none source).elim)
    (fun _ alone => (alone rfl).elim) (fun _ => half) (fun _ => .fine) (fun _ full => (on.space _ full).elim)
    (fun _ _ _ _ => ⟨full, ?_⟩))
  refine wp_ite (fun failed => absurd failed (by decide)) (fun _ => ?_)
  refine wp_gptSetState fine_atomic (by decide) full chained.room .fine ?_ (fun _ => ?_)
  · exact ⟨3, _, rfl, congrArg (· + 3) count, final⟩
  · exact .inl ⟨⟨expected, trivial⟩, rfl, congrArg (· + 3) count, final⟩

/-- The step lemma of a whole call, for tables that are safe. -/
theorem wp_preparePartitions_ideal {arr : Bytes} (on : Mounted env p d t w) (safe : t.Safe env arr)
    (stage : BootUpdateStage) (path : Bytes) :
    wp (react env) Fine (Progress env p d (stageTables env stage t) w.writes)
      (preparePartitions env stage (some path)) (fun r _ v => Ending env p d stage t w.writes r v) n w := by
  have start : Progress env p d (stageTables env stage t) w.writes w := by
    cases stage <;> exact ⟨0, t, rfl, rfl, on⟩
  refine wp_preparePartitions fine_atomic.noShort start on.room .fine .fine (fun _ => ?_)
  rw [on.header, on.header]
  refine wp_dispatchStage start ?_ (fun expected => ?_)
  · exact fun unexpected => .inr ⟨fun ready => unexpected ready.1, .inr rfl⟩
  · cases stage with
    | updateMain => exact wp_updateMain_ideal on safe.describes expected rfl
    | updateBackup => exact wp_updateBackup_ideal on expected rfl
    | updateFinalize => exact wp_updateFinalize_ideal on safe.describes expected rfl

def uninterrupted (env : Env) (path : Bytes) (stage : BootUpdateStage) (w : World) : Int × World :=
  exec (react env) (fun _ => .ok) (preparePartitions env stage (some path)) 0 w

theorem uninterrupted_ending {arr : Bytes} (on : Mounted env p d t w) (safe : t.Safe env arr)
    (stage : BootUpdateStage) (path : Bytes) : Ending env p d stage t w.writes
      (uninterrupted env path stage w).1 (uninterrupted env path stage w).2 := by
  obtain ⟨_, ending⟩ := exec_post (wp_preparePartitions_ideal on safe stage path) (fun _ => rfl)
  exact ending

theorem uninterrupted_ready {arr : Bytes} (on : Mounted env p d t w) (safe : t.Safe env arr)
    {stage : BootUpdateStage} (ready : Ready env stage t) (path : Bytes) :
    (uninterrupted env path stage w).1 = 0 ∧
    (uninterrupted env path stage w).2.writes = w.writes + stageWrites stage ∧
    Mounted env p d (t.after env stage) (uninterrupted env path stage w).2 := by
  rcases uninterrupted_ending on safe stage path with ⟨_, done⟩ | ⟨unready, _⟩
  · exact done
  · exact (unready ready).elim

theorem uninterrupted_unexpected (on : Mounted env p d t w) {stage : BootUpdateStage}
    (unexpected : ¬ Expected stage (headerState env (t.hdr .primary)) (headerState env (t.hdr .secondary)))
    (path : Bytes) : uninterrupted env path stage w =
      (idleAnswer stage (headerState env (t.hdr .primary)) (headerState env (t.hdr .secondary)), w) := by
  have spec : wp (react env) Fine (fun _ => True) (preparePartitions env stage (some path))
      (fun r _ v => (r, v) = (idleAnswer stage (headerState env (t.hdr .primary))
        (headerState env (t.hdr .secondary)), w)) 0 w := by
    refine wp_preparePartitions fine_atomic.noShort trivial on.room .fine .fine (fun _ => ?_)
    rw [on.header, on.header]
    exact wp_dispatchStage trivial (fun _ => rfl) (fun expected => (unexpected expected).elim)
  obtain ⟨_, result⟩ := exec_post spec (fun _ => rfl)
  exact result

theorem uninterrupted_safe {arr : Bytes} (now : SafeDisk env p d arr w) (path : Bytes) (stage : BootUpdateStage) :
    SafeDisk env p d arr (uninterrupted env path stage w).2 := by
  have step : wp (react env) Fine (SafeDisk env p d arr) (preparePartitions env stage (some path))
      (fun _ _ v => SafeDisk env p d arr v) 0 w :=
    wp_mono (wp_preparePartitions_safe fine_atomic stage (some path) now) (fun _ _ _ still _ => still)
  obtain ⟨_, safe⟩ := exec_post step (fun _ => rfl)
  exact safe

end Ideal

end Pdx215.Gpt
