import Pdx215.Gpt.BootUpdate
import Pdx215.Gpt.Cycle

/-! The three stages of `prepare_boot_update` one after the other, on all the LUNs of a device: when they
go through, what they leave on the disks, and which boot LUN is set in between. -/
namespace Pdx215.Gpt
open Region Effect

/-! ### One LUN through the three stages -/

def entryCount (env : Env) (d : Bytes) : Nat := (entries env d .primary).length / pentrySize (header env d .primary)

def Paired (env : Env) (d : Bytes) : Prop :=
  ∃ p i j, SwapPair env (entryCount env d) (pentrySize (header env d .primary)) (entries env d .primary) p i j

/-- Both tables of the disk are completely valid and have the same entries, all of them whole. -/
structure TwinTables (env : Env) (d : Bytes) : Prop where
  laid : LaidOut env d
  valid : ∀ gpt, CompletelyValid env d gpt
  same : entries env d .secondary = entries env d .primary
  large : ptnEntrySize ≤ pentrySize (header env d .primary)
  whole : pentrySize (header env d .primary) ∣ (entries env d .primary).length

section Tables

variable {env : Env} {t : Tables}

theorem Tables.Twins.ready_main_iff (twins : t.Twins env) :
    Ready env .updateMain t ↔ (t.target env .backupBoot).2 = 0 ∧ LunOk env .backupBoot := by
  have ok := fun gpt => (twins.valid gpt).state
  constructor
  · exact fun ready => ⟨ready.2.2, ready.2.1⟩
  · exact fun able => ⟨⟨ok _, ok _⟩, able.2, able.1⟩

theorem Tables.Twins.ready_backup_iff (twins : t.Twins env) :
    Ready env .updateBackup (t.afterMain env) ↔ LunOk env .normalBoot := by
  obtain ⟨-, bad, valid⟩ := twins.main
  exact ⟨fun ready => ready.2, fun able => ⟨⟨bad, valid.state⟩, able⟩⟩

theorem Tables.Twins.ready_finalize (twins : t.Twins env) :
    Ready env .updateFinalize ((t.afterMain env).afterBackup env) := by
  obtain ⟨hdr, -, bad⟩ := twins.backup
  refine ⟨⟨?_, bad⟩, trivial⟩
  rw [hdr]
  exact (twins.valid .primary).state

end Tables

section Lun

variable {env : Env} {p : Place} {d arr : Bytes} {t : Tables} {w : World}

theorem Mounted.of_disk {v : World} (on : Mounted env p d t w) (same : v.disk = w.disk) : Mounted env p d t v :=
  ⟨on.sound, on.blk, on.size, on.fits, same.trans on.disk⟩

/-- A call that is not ready but answers 0 has left the tables as they are. -/
theorem uninterrupted_idle (on : Mounted env p d t w) (safe : t.Safe env arr) {stage : BootUpdateStage}
    (unready : ¬ Ready env stage t) (path : Bytes) (zero : (uninterrupted env path stage w).1 = 0) :
    Mounted env p d t (uninterrupted env path stage w).2 := by
  have spec : wp (react env) Fine (Progress env p d (stageTables env stage t) w.writes)
      (preparePartitions env stage (some path)) (fun r _ v => Ending env p d stage t w.writes r v ∧
        Progress env p d (stageTables env stage t) w.writes v) 0 w :=
    wp_mono (wp_preparePartitions_ideal on safe stage path) fun _ _ _ reached ending => ⟨ending, reached⟩
  obtain ⟨_, ending, i, u, listed, writes, mounted⟩ := exec_post spec (fun _ => rfl)
  rcases ending with ⟨ready, -⟩ | ⟨-, failed | none⟩
  · exact (unready ready).elim
  · exact (failed zero).elim
  · obtain rfl : i = 0 := by omega
    have first : (stageTables env stage t)[0]? = some t := by cases stage <;> rfl
    rw [first] at listed
    cases listed
    exact mounted

/-- What an uninterrupted call makes of the tables, for each of its three endings. -/
structure Stepped (env : Env) (p : Place) (d : Bytes) (stage : BootUpdateStage) (t : Tables) (r : Int) (w : World) :
    Prop where
  goes : Ready env stage t → r = 0 ∧ Mounted env p d (t.after env stage) w
  stays : ¬ Ready env stage t → r = 0 → Mounted env p d t w
  refuses : ∀ prim second, headerState env (t.hdr .primary) = prim → headerState env (t.hdr .secondary) = second →
    ¬ Expected stage prim second → r = idleAnswer stage prim second

theorem Prepared.stepped {P : Platform} {stage : BootUpdateStage} {path disk disk' : Bytes} {r : Int}
    (prepared : Prepared P stage (fun _ => .ok) path disk r disk')
    (on : Mounted (P.at path) p d t ⟨disk, 0, 0⟩) (safe : t.Safe (P.at path) arr) :
    Stepped (P.at path) p d stage t r ⟨disk', 0, 0⟩ := by
  obtain ⟨n, bootLun, writes, answer, left⟩ := prepared
  rw [exec_const _ _ n 0] at answer left
  have on' : Mounted (P.at path) p d t ⟨disk, bootLun, writes⟩ := on.of_disk rfl
  subst answer left
  refine ⟨fun ready => ?_, fun unready zero => ?_, ?_⟩
  · obtain ⟨zero, -, after⟩ := uninterrupted_ready on' safe ready path
    exact ⟨zero, after.of_disk rfl⟩
  · exact (uninterrupted_idle on' safe unready path zero).of_disk rfl
  · rintro _ _ rfl rfl unexpected
    exact congrArg Prod.fst (uninterrupted_unexpected on' unexpected path)

section Cycle

variable {P : Platform} {path disk disk₁ disk₂ disk₃ : Bytes} {r₁ r₂ r₃ : Int}

/-- The disk after each of the three stages of a cycle that goes through. -/
structure Cycled (env : Env) (p : Place) (d : Bytes) (t : Tables) (disk disk₁ disk₂ disk₃ : Bytes) : Prop where
  main : Mounted env p d (t.afterMain env) ⟨disk₁, 0, 0⟩
  backup : Mounted env p d ((t.afterMain env).afterBackup env) ⟨disk₂, 0, 0⟩
  finalize : disk₃ = disk

/-- A stage that has not gone through makes the next one answer -1. -/
theorem Tables.Twins.cycled (two : t.Twins (P.at path)) (on : Mounted (P.at path) p d t ⟨disk, 0, 0⟩)
    (main : Prepared P .updateMain (fun _ => .ok) path disk r₁ disk₁)
    (backup : Prepared P .updateBackup (fun _ => .ok) path disk₁ r₂ disk₂)
    (finalize : Prepared P .updateFinalize (fun _ => .ok) path disk₂ r₃ disk₃) :
    ((r₁ = 0 ∧ r₂ = 0 ∧ r₃ = 0) ↔
      Ready (P.at path) .updateMain t ∧ Ready (P.at path) .updateBackup (t.afterMain (P.at path))) ∧
    (r₁ = 0 ∧ r₂ = 0 ∧ r₃ = 0 → Cycled (P.at path) p d t disk disk₁ disk₂ disk₃) := by
  have ok := fun gpt => (two.valid gpt).state
  obtain ⟨safe₁, bad₁, valid₁⟩ := two.main
  have first := main.stepped on two.safe
  have second (ready : Ready (P.at path) .updateMain t) := backup.stepped (first.goes ready).2 safe₁
  have third (ready : Ready (P.at path) .updateMain t)
      (ready' : Ready (P.at path) .updateBackup (t.afterMain (P.at path))) :=
    (finalize.stepped ((second ready).goes ready').2 two.backup.2.1).goes two.ready_finalize
  have needed : r₁ = 0 ∧ r₂ = 0 ∧ r₃ = 0 →
      Ready (P.at path) .updateMain t ∧ Ready (P.at path) .updateBackup (t.afterMain (P.at path)) := by
    rintro ⟨zero₁, zero₂, zero₃⟩
    have ready : Ready (P.at path) .updateMain t := by
      by_contra unready
      have refused := (backup.stepped (first.stays unready zero₁) two.safe).refuses _ _ (ok _) (ok _)
        fun expected => by cases expected.1
      exact absurd (zero₂.symm.trans refused) (by decide)
    refine ⟨ready, ?_⟩
    by_contra unready
    have refused := (finalize.stepped ((second ready).stays unready zero₂) safe₁).refuses _ _ bad₁ valid₁.state
      fun expected => by cases expected.1
    exact absurd (zero₃.symm.trans refused) (by decide)
  refine ⟨⟨needed, ?_⟩, ?_⟩
  · rintro ⟨ready, ready'⟩
    exact ⟨(first.goes ready).1, ((second ready).goes ready').1, (third ready ready').1⟩
  · intro zero
    obtain ⟨ready, ready'⟩ := needed zero
    have last : disk₃ = mount p d (((t.afterMain (P.at path)).afterBackup (P.at path)).afterFinalize (P.at path)) :=
      (third ready ready').2.disk
    rw [two.finalize] at last
    exact ⟨(first.goes ready).2, ((second ready).goes ready').2, last.trans on.disk.symm⟩

theorem Tables.Twins.one_valid (two : t.Twins (P.at path)) (cycled : Cycled (P.at path) p d t disk disk₁ disk₂ disk₃) :
    (¬ CompletelyValid (P.at path) disk₁ .primary ∧ CompletelyValid (P.at path) disk₁ .secondary) ∧
    CompletelyValid (P.at path) disk₂ .primary ∧ ¬ CompletelyValid (P.at path) disk₂ .secondary := by
  obtain ⟨-, bad₁, valid₁⟩ := two.main
  obtain ⟨hdr₂, safe₂, bad₂⟩ := two.backup
  refine ⟨⟨fun valid => ?_, (cycled.main.valid .secondary).mpr valid₁⟩,
    (cycled.backup.valid .primary).mpr (safe₂.valid ?_), fun valid => ?_⟩
  · exact absurd (bad₁.symm.trans ((cycled.main.valid .primary).mp valid).state) (by decide)
  · rw [hdr₂]
    exact (two.valid .primary).state
  · exact absurd (bad₂.symm.trans ((cycled.backup.valid .secondary).mp valid).state) (by decide)

theorem TwinTables.mounted {env : Env} (both : TwinTables env disk) :
    Mounted env (placeOf env disk) disk (tablesOf env disk) ⟨disk, 0, 0⟩ :=
  ⟨both.laid.sound, rfl, rfl, both.laid.fits, (mount_tablesOf env disk).symm⟩

theorem TwinTables.twins {env : Env} (both : TwinTables env disk) : (tablesOf env disk).Twins env :=
  ⟨fun gpt => (both.mounted.valid gpt).mp (both.valid gpt), both.mounted.large, both.same⟩

theorem TwinTables.length {env : Env} (both : TwinTables env disk) :
    (entries env disk .primary).length = entryCount env disk * pentrySize (header env disk .primary) :=
  (Nat.div_mul_cancel both.whole).symm

theorem TwinTables.paired_iff {env : Env} (both : TwinTables env disk) :
    Paired env disk ↔ ((tablesOf env disk).target env .backupBoot).2 = 0 :=
  (gptBootChainSwap_zero_iff both.large both.length).symm

theorem TwinTables.exchanged {env : Env} (both : TwinTables env disk)
    (cycled : Cycled env (placeOf env disk) disk (tablesOf env disk) disk disk₁ disk₂ disk₃) :
    Exchanged env (entryCount env disk) (pentrySize (header env disk .primary)) (entries env disk .primary)
      (entries env disk₁ .secondary) := by
  have swapped : entries env disk₁ .secondary =
      (gptBootChainSwap env (entries env disk .primary) (pentrySize (header env disk .primary))).1 :=
    cycled.main.entries .secondary
  rw [swapped]
  exact gptBootChainSwap_exchanged both.large both.length

end Cycle

end Lun

/-! ### The boot LUN -/

def BootUpdateStage.chain : BootUpdateStage → Option BootChain
  | .updateMain => some .backupBoot
  | .updateBackup => some .normalBoot
  | .updateFinalize => none

def BootUpdateStage.lun (stage : BootUpdateStage) (before : Nat) : Nat := (stage.chain.map bootLunId).getD before

def Op.Plain : Op → Prop
  | .queryAttr _ => False
  | _ => True

section Plain

variable (env : Env)

theorem react_bootLun {env : Env} {op : Op} (plain : op.Plain) (o : Outcome) (w : World) :
    (react env op o w).2.bootLun = w.bootLun := by
  cases op with
  | queryAttr id => exact plain.elim
  | write off buf =>
    rcases o with _ | count | _ | left
    · simp only [react]
      split <;> rfl
    · simp only [react]
      split <;> rfl
    · rfl
    · rfl
  | read off len => cases o <;> rfl
  | openDev path | blkSszGet | malloc | seekEnd | seekSet off | fsync | readlink path | opendir path => rfl

theorem all_request {α : Type} {op : Op} {rest : Rep op → Io α} (plain : op.Plain)
    (after : ∀ reply, (rest reply).All Op.Plain) : (Prog.request op >>= rest).All Op.Plain :=
  ⟨plain, after⟩

theorem all_blkRead (off : Nat) (buf : Bytes) : (blkRead off buf).All Op.Plain := by
  refine all_request trivial fun sought => Prog.all_ite trivial ?_
  refine all_request trivial fun got => ?_
  cases got <;> trivial

theorem all_blkWrite (off : Nat) (buf : Bytes) : (blkWrite off buf).All Op.Plain := by
  refine all_request trivial fun sought => Prog.all_ite trivial ?_
  exact all_request trivial fun written => Prog.all_ite trivial trivial

theorem all_malloc (size : Nat) : (malloc env size).All Op.Plain :=
  all_request trivial fun _ => Prog.all_ite trivial trivial

theorem all_calloc (size : Nat) : (calloc size).All Op.Plain :=
  all_request trivial fun _ => Prog.all_ite trivial trivial

theorem all_headerOffset (gpt : GptInstance) (blkSize : Nat) : (headerOffset gpt blkSize).All Op.Plain := by
  cases gpt with
  | primary => trivial
  | secondary =>
    refine all_request trivial fun last => ?_
    cases last with
    | none => trivial
    | some last => exact Prog.all_ite trivial trivial

theorem all_readHeader (gpt : GptInstance) : (readHeader env gpt).All Op.Plain := by
  refine all_request trivial fun blkSize => ?_
  cases blkSize with
  | none => trivial
  | some blkSize =>
    refine (all_malloc env _).bind fun buf => ?_
    cases buf with
    | none => trivial
    | some buf =>
      refine (all_headerOffset gpt _).bind fun off => ?_
      cases off with
      | none => trivial
      | some off =>
        refine (all_blkRead _ _).bind fun h => ?_
        cases h <;> trivial

theorem all_gptSetState (gpt : GptInstance) (state : GptState) : (gptSetState env gpt state).All Op.Plain := by
  refine (all_readHeader env gpt).bind fun found => ?_
  cases found with
  | none => trivial
  | some found => cases state <;> first | exact all_blkWrite _ _ | trivial

theorem all_gpt2SetBootChain (boot : BootChain) : (gpt2SetBootChain env boot).All Op.Plain := by
  refine all_request trivial fun blkSize => ?_
  cases blkSize with
  | none => trivial
  | some blkSize =>
  refine (all_malloc env _).bind fun buf => ?_
  cases buf with
  | none => trivial
  | some buf =>
  refine (all_headerOffset _ _).bind fun off => ?_
  cases off with
  | none => trivial
  | some off =>
  refine (all_blkRead _ _).bind fun h1 => ?_
  cases h1 with
  | none => trivial
  | some h1 =>
  refine (all_calloc _).bind fun zeros => ?_
  cases zeros with
  | none => trivial
  | some zeros =>
  refine (all_blkRead _ _).bind fun pentries => ?_
  cases pentries with
  | none => trivial
  | some pentries =>
  refine Prog.all_ite trivial ((all_blkRead _ _).bind fun h2 => ?_)
  cases h2 with
  | none => trivial
  | some h2 =>
    refine Prog.all_ite trivial ((all_blkWrite _ _).bind fun r => ?_)
    exact Prog.all_ite trivial (all_blkWrite _ _)

theorem all_updateMainTables : (updateMainTables env).All Op.Plain :=
  (all_gpt2SetBootChain env _).bind fun _ => Prog.all_ite trivial (all_gptSetState env _ _)

theorem all_updateBackupTables : (updateBackupTables env).All Op.Plain :=
  (all_gptSetState env _ _).bind fun _ => Prog.all_ite trivial (all_gptSetState env _ _)

theorem all_updateFinalize : (updateFinalize env).All Op.Plain :=
  (all_gpt2SetBootChain env _).bind fun _ => Prog.all_ite trivial (all_gptSetState env _ _)

theorem wp_plain {env : Env} {allowed : Nat → Outcome → Prop} {n : Nat} {w : World} {lun : Nat} {p : Io Int}
    (all : p.All Op.Plain) (now : w.bootLun = lun) :
    wp (react env) allowed (fun _ => True) p (fun _ _ v => v.bootLun = lun) n w :=
  wp_all all (fun _ _ => trivial) (fun _ plain _ o v _ kept => (react_bootLun plain o v).trans kept) now

end Plain

/-- Where the xbl partitions are in use, the stages set the boot LUN to B, then to A, and leave it there. -/
theorem uninterrupted_lun {env : Env} {p : Place} {d disk : Bytes} {t : Tables} (on : Mounted env p d t ⟨disk, 0, 0⟩)
    {stage : BootUpdateStage} (uses : UsesXbl env) (found : ∀ chain, stage.chain = some chain → LunResolves env chain)
    (expected : Expected stage (headerState env (t.hdr .primary)) (headerState env (t.hdr .secondary))) (path : Bytes)
    (bootLun writes : Nat) : (uninterrupted env path stage ⟨disk, bootLun, writes⟩).2.bootLun = stage.lun bootLun := by
  replace on : Mounted env p d t ⟨disk, bootLun, writes⟩ := on.of_disk rfl
  have spec : wp (react env) Fine (fun _ => True) (preparePartitions env stage (some path))
      (fun _ _ v => v.bootLun = stage.lun bootLun) 0 ⟨disk, bootLun, writes⟩ := by
    refine wp_preparePartitions fine_atomic.noShort trivial on.room .fine .fine (fun _ => ?_)
    rw [on.header, on.header]
    refine wp_dispatchStage trivial (fun unexpected => (unexpected expected).elim) (fun _ => ?_)
    cases stage with
    | updateMain =>
      exact wp_afterSwitch fine_atomic.noShort trivial (fun other => (other uses).elim) (fun _ => .fine)
        (fun _ lost => (lost (found _ rfl)).elim) fun _ _ _ => wp_plain (all_updateMainTables env) rfl
    | updateBackup =>
      exact wp_afterSwitch fine_atomic.noShort trivial (fun other => (other uses).elim) (fun _ => .fine)
        (fun _ lost => (lost (found _ rfl)).elim) fun _ _ _ => wp_plain (all_updateBackupTables env) rfl
    | updateFinalize => exact wp_plain (all_updateFinalize env) rfl
  obtain ⟨_, lun⟩ := exec_post spec (fun _ => rfl)
  exact lun

theorem exec_prepareEach_lun {P : Platform} {stage : BootUpdateStage} {paths : List Bytes} (nodup : paths.Nodup)
    (isError : Int) (n : Nat) (w : Luns) (each : ∀ path ∈ paths, ∀ bootLun writes,
      (uninterrupted (P.at path) path stage ⟨w.disk path, bootLun, writes⟩).2.bootLun = stage.lun bootLun) :
    (exec P.react (fun _ => .ok) (prepareEach P stage paths isError) n w).2.bootLun =
      paths.foldl (fun bootLun _ => stage.lun bootLun) w.bootLun := by
  induction paths generalizing isError n w with
  | nil => rfl
  | cons first paths ih =>
    obtain ⟨new, nodup⟩ := List.nodup_cons.mp nodup
    obtain ⟨here, later⟩ := List.forall_mem_cons.mp each
    obtain ⟨m, split⟩ := @exec_prepareEach_cons P stage (fun _ => .ok) first paths isError 0 w
    rw [exec_prepareLun] at split
    rw [exec_const _ _ n 0, split, ih nodup, focus_put_bootLun, List.foldl_cons]
    · exact congrArg (paths.foldl _) (here w.bootLun w.writes)
    · intro path member bootLun writes
      have ne : path ≠ first := fun same => new (same ▸ member)
      rw [focus_put_other _ _ ne]
      exact later path member bootLun writes

theorem foldl_lun (stage : BootUpdateStage) {paths : List Bytes} (some : paths ≠ []) (before : Nat) :
    paths.foldl (fun bootLun _ => stage.lun bootLun) before = stage.lun before := by
  have again (bootLun : Nat) : stage.lun (stage.lun bootLun) = stage.lun bootLun := by cases stage <;> rfl
  induction paths generalizing before with
  | nil => exact (some rfl).elim
  | cons path paths ih =>
    rw [List.foldl_cons]
    by_cases last : paths = []
    · rw [last, List.foldl_nil]
    · rw [ih last, again]

theorem exec_prepareLuns_lun {P : Platform} {stage : BootUpdateStage} {paths : List Bytes} (nodup : paths.Nodup)
    (some : paths ≠ []) (w : Luns) (each : ∀ path ∈ paths, ∀ bootLun writes,
      (uninterrupted (P.at path) path stage ⟨w.disk path, bootLun, writes⟩).2.bootLun = stage.lun bootLun) :
    (exec P.react (fun _ => .ok) (prepareLuns P stage paths) 0 w).2.bootLun = stage.lun w.bootLun := by
  rw [exec_prepareLuns]
  exact (exec_prepareEach_lun nodup 0 0 w each).trans (foldl_lun stage some w.bootLun)

/-! ### The whole device -/

theorem flag_eq_zero {c : Prop} [Decidable c] {r : Int} (result : r = if c then 0 else -1) : r = 0 ↔ c := by
  subst result
  by_cases h : c <;> simp [h]

/-- On a UFS device with fewer than 25 LUNs in the update, all of which carry two valid tables with the same whole
entries, with no system call failing: the calls for the three stages all answer 0 exactly if every LUN has a pair of
its own to swap and the boot LUN can be switched where it is in use. Then every disk is in the end what it was; as long
as the boot LUN is B, only the secondary tables are in force, with their pairs exchanged, and afterwards only the
primary ones until the last call. -/
theorem bootUpdate_cycle_iff (P : Platform) (ufs : gptUtilsIsUfsDevice P.env = true) (few : P.Few) (w : Luns)
    (twins : ∀ path ∈ reachedLuns P.env (fun _ => .ok), TwinTables (P.at path) (w.disk path)) :
    ∃ update : BootUpdateStage → LunIo Int,
      (∀ stage, prepareBootUpdate P (fun _ => .ok) stage = some (update stage)) ∧
      let call stage := exec P.react (fun _ => .ok) (update stage) 0
      let main := call .updateMain w
      let backup := call .updateBackup main.2
      let finalize := call .updateFinalize backup.2
      ((main.1 = 0 ∧ backup.1 = 0 ∧ finalize.1 = 0) ↔ ∀ path ∈ reachedLuns P.env (fun _ => .ok),
        Paired (P.at path) (w.disk path) ∧ LunOk P.env .backupBoot ∧ LunOk P.env .normalBoot) ∧
      (main.1 = 0 ∧ backup.1 = 0 ∧ finalize.1 = 0 →
        finalize.2.disk = w.disk ∧
        (∀ path ∈ reachedLuns P.env (fun _ => .ok),
          (¬ CompletelyValid (P.at path) (main.2.disk path) .primary ∧
            CompletelyValid (P.at path) (main.2.disk path) .secondary) ∧
          Exchanged (P.at path) (entryCount (P.at path) (w.disk path))
            (pentrySize (header (P.at path) (w.disk path) .primary)) (entries (P.at path) (w.disk path) .primary)
            (entries (P.at path) (main.2.disk path) .secondary) ∧
          CompletelyValid (P.at path) (backup.2.disk path) .primary ∧
          ¬ CompletelyValid (P.at path) (backup.2.disk path) .secondary) ∧
        (UsesXbl P.env → reachedLuns P.env (fun _ => .ok) ≠ [] →
          main.2.bootLun = bootLunBId ∧ backup.2.bootLun = bootLunAId ∧ finalize.2.bootLun = bootLunAId)) := by
  obtain ⟨data, collects, eq⟩ := prepareBootUpdate_eq ufs few fun _ => .ok
  refine ⟨fun stage => prepareLuns P stage data.luns, eq, ?_⟩
  intro call main backup finalize
  obtain ⟨answer₁, first, others₁, result₁⟩ := @exec_prepareLuns_each P .updateMain (fun _ => .ok) data.luns collects.nodup 0 w
  obtain ⟨answer₂, second, others₂, result₂⟩ :=
    @exec_prepareLuns_each P .updateBackup (fun _ => .ok) data.luns collects.nodup 0 main.2
  obtain ⟨answer₃, third, others₃, result₃⟩ :=
    @exec_prepareLuns_each P .updateFinalize (fun _ => .ok) data.luns collects.nodup 0 backup.2
  have zero_iff : (main.1 = 0 ∧ backup.1 = 0 ∧ finalize.1 = 0) ↔
      ∀ path ∈ data.luns, answer₁ path = 0 ∧ answer₂ path = 0 ∧ answer₃ path = 0 := by
    rw [flag_eq_zero result₁, flag_eq_zero result₂, flag_eq_zero result₃]
    simp only [forall_and]
  simp only [← collects.members] at twins ⊢
  have on (path : Bytes) (member : path ∈ data.luns) := (twins path member).mounted
  have two (path : Bytes) (member : path ∈ data.luns) := (twins path member).twins
  have cycle (path : Bytes) (member : path ∈ data.luns) :=
    (two path member).cycled (on path member) (first path member) (second path member) (third path member)
  refine ⟨?_, fun zero => ?_⟩
  · rw [zero_iff]
    refine forall₂_congr fun path member => ?_
    rw [(cycle path member).1, (two path member).ready_main_iff, (two path member).ready_backup_iff,
      (twins path member).paired_iff]
    exact and_assoc
  have through (path : Bytes) (member : path ∈ data.luns) := (cycle path member).2 (zero_iff.mp zero path member)
  refine ⟨?_, fun path member => ?_, fun uses some => ?_⟩
  · funext path
    by_cases member : path ∈ data.luns
    · exact (through path member).finalize
    · exact (others₃ path member).trans ((others₂ path member).trans (others₁ path member))
  · obtain ⟨early, late⟩ := (two path member).one_valid (through path member)
    exact ⟨early, (twins path member).exchanged (through path member), late⟩
  have able (path : Bytes) (member : path ∈ data.luns) :=
    (cycle path member).1.mp (zero_iff.mp zero path member)
  have some' : data.luns ≠ [] := by
    intro none
    refine some (List.eq_nil_iff_forall_not_mem.mpr fun path member => ?_)
    rw [← collects.members, none] at member
    exact List.not_mem_nil member
  -- the disks on which a stage finds the tables it expects are those that the stages before it have left
  have lun₁ : main.2.bootLun = bootLunBId := by
    refine exec_prepareLuns_lun collects.nodup some' w fun path member => ?_
    refine uninterrupted_lun (on path member) uses ?_ (able path member).1.1 path
    rintro _ ⟨⟩
    exact (able path member).1.2.1 uses
  have lun₂ : backup.2.bootLun = bootLunAId := by
    refine exec_prepareLuns_lun collects.nodup some' main.2 fun path member => ?_
    refine uninterrupted_lun (through path member).main uses ?_ (able path member).2.1 path
    rintro _ ⟨⟩
    exact (able path member).2.2 uses
  refine ⟨lun₁, lun₂, Eq.trans (exec_prepareLuns_lun collects.nodup some' backup.2 ?_) lun₂⟩
  intro path member
  refine uninterrupted_lun (through path member).backup uses ?_ (two path member).ready_finalize.1 path
  rintro _ ⟨⟩

namespace Sample

theorem platform_array (path : Bytes) :
    entries (platform.at path) (luns.disk path) .primary = entry 1 "abl" ++ entry 2 "ablbak" :=
  world_mounted.entries .primary

theorem platform_size (path : Bytes) : pentrySize (header (platform.at path) (luns.disk path) .primary) = 128 := by
  have hdr : header (platform.at path) (luns.disk path) .primary = _ := world_mounted.header .primary
  rw [hdr, (sameLayout _ _ _).entry, (bare_fields _).2.2.2]

theorem platform_twins (path : Bytes) : TwinTables (platform.at path) (luns.disk path) := by
  have formed := platform_wellFormed path
  refine ⟨formed.laid, formed.valid, ?_, ?_, ?_⟩
  · have second : entries (platform.at path) (luns.disk path) .secondary = _ := world_mounted.entries .secondary
    rw [platform_array, second]
    rfl
  · rw [platform_size]
    decide
  · rw [platform_size, platform_array, List.length_append, length_entry, length_entry]
    decide

theorem platform_paired (path : Bytes) : Paired (platform.at path) (luns.disk path) := by
  have two : entryCount (platform.at path) (luns.disk path) = 2 := by
    rw [entryCount, platform_array, platform_size, List.length_append, length_entry, length_entry]
  refine ⟨cstr "abl", 0, 1, ?_⟩
  rw [two]
  have pair := world_swapPair
  exact ⟨pair.listed, pair.kept, pair.lt, pair.below, pair.first, pair.second, pair.least⟩

theorem platform_lunResolves (chain : BootChain) : LunResolves platform.env chain := by
  cases chain <;> exact ⟨rfl, rfl⟩

end Sample

theorem bootUpdate_cycle_two :
    reachedLuns Sample.platform.env (fun _ => .ok) = [cstr "/dev/block/sdd", cstr "/dev/block/sda"] ∧
    ∃ update : BootUpdateStage → LunIo Int,
      (∀ stage, prepareBootUpdate Sample.platform (fun _ => .ok) stage = some (update stage)) ∧
      let call stage := exec Sample.platform.react (fun _ => .ok) (update stage) 0
      let main := call .updateMain Sample.luns
      let backup := call .updateBackup main.2
      let finalize := call .updateFinalize backup.2
      (main.1 = 0 ∧ backup.1 = 0 ∧ finalize.1 = 0) ∧ finalize.2.disk = Sample.luns.disk := by
  refine ⟨by decide +kernel, ?_⟩
  obtain ⟨update, defined, zero_iff, through⟩ := bootUpdate_cycle_iff Sample.platform rfl Sample.platform_few
    Sample.luns fun path _ => Sample.platform_twins path
  have zero := zero_iff.mpr fun path _ => ⟨Sample.platform_paired path, fun _ => Sample.platform_lunResolves _,
    fun _ => Sample.platform_lunResolves _⟩
  exact ⟨update, defined, zero, (through zero).1⟩

end Pdx215.Gpt
