import Pdx215.Lib.Focus
import Pdx215.Gpt.LunList
import Pdx215.Gpt.PartitionMap
import Pdx215.Gpt.Stages

/-! `prepare_boot_update` on all the LUNs of a device. Each LUN is a disk of its own, with its own
block size; the boot LUN attribute is shared. -/
namespace Pdx215.Gpt
open Region Effect

/-- What the code reads of the device and never changes, with the block size of each disk. -/
structure Platform where
  env : Env
  blkSize : Bytes → Nat
  blk_large : ∀ path, 512 ≤ blkSize path

def Platform.at (P : Platform) (path : Bytes) : Env :=
  { P.env with blkSize := P.blkSize path, blk_large := P.blk_large path }

structure Luns where
  disk : Bytes → Bytes
  bootLun : Nat
  writes : Nat

def Luns.focus (path : Bytes) : Focus Luns World where
  get w := ⟨w.disk path, w.bootLun, w.writes⟩
  put w one := ⟨Function.update w.disk path one.disk, one.bootLun, one.writes⟩
  get_put w one := by simp
  put_get w := by simp
  put_put w one other := by simp

abbrev LunIo := Prog (Bytes × Op) (fun request => Rep request.2)

def Platform.react (P : Platform) : (request : Bytes × Op) → Outcome → Luns → Rep request.2 × Luns :=
  reactAt Luns.focus fun path => Gpt.react (P.at path)

def prepareLun (P : Platform) (stage : BootUpdateStage) (path : Bytes) : LunIo Int :=
  (preparePartitions (P.at path) stage (some path)).at path

/-- The second loop of `prepare_boot_update`; a failure is noted and the loop goes on. -/
def prepareEach (P : Platform) (stage : BootUpdateStage) : List Bytes → Int → LunIo Int
  | [], isError => return isError
  | path :: paths, isError => do
    let rcode ← prepareLun P stage path
    prepareEach P stage paths (if rcode ≠ 0 then 1 else isError)

def prepareLuns (P : Platform) (stage : BootUpdateStage) (paths : List Bytes) : LunIo Int := do
  let isError ← prepareEach P stage paths 0
  return (if isError ≠ 0 then -1 else 0)

/-- There is no result where the list of LUNs overflows. -/
def prepareBootUpdate (P : Platform) (lookup : Bytes → Lookup) (stage : BootUpdateStage) : Option (LunIo Int) :=
  if !gptUtilsIsUfsDevice P.env then some (prepareLun P stage blkDevFile)
  else (collectLuns P.env lookup).map fun data => prepareLuns P stage data.luns

section Focus

variable {path other : Bytes} (w : Luns) (one : World)

@[simp] theorem focus_put_bootLun : ((Luns.focus path).put w one).bootLun = one.bootLun := rfl
@[simp] theorem focus_put_disk : ((Luns.focus path).put w one).disk path = one.disk := Function.update_self ..

theorem focus_put_other (ne : other ≠ path) : ((Luns.focus path).put w one).disk other = w.disk other :=
  Function.update_of_ne ne ..

end Focus

/-! ### Every LUN on its own -/

/-- A call of `prepare_partitions` with these outcomes, from one of them on, takes the disk of the path to
`d'` and returns `r`, whatever the boot LUN is by then. -/
def Prepared (P : Platform) (stage : BootUpdateStage) (io : Nat → Outcome) (path d : Bytes) (r : Int)
    (d' : Bytes) : Prop :=
  ∃ n bootLun writes,
    let one := exec (Gpt.react (P.at path)) io (preparePartitions (P.at path) stage (some path)) n ⟨d, bootLun, writes⟩
    one.1 = r ∧ one.2.disk = d'

section Each

variable {P : Platform} {stage : BootUpdateStage} {io : Nat → Outcome}

theorem exec_prepareLun (path : Bytes) (n : Nat) (w : Luns) :
    exec P.react io (prepareLun P stage path) n w =
      let one := exec (Gpt.react (P.at path)) io (preparePartitions (P.at path) stage (some path)) n
        ((Luns.focus path).get w)
      (one.1, (Luns.focus path).put w one.2) :=
  exec_at ..

theorem exec_prepareEach_cons (path : Bytes) (paths : List Bytes) (isError : Int) (n : Nat) (w : Luns) :
    let first := exec P.react io (prepareLun P stage path) n w
    ∃ m, exec P.react io (prepareEach P stage (path :: paths) isError) n w =
      exec P.react io (prepareEach P stage paths (if first.1 ≠ 0 then 1 else isError)) m first.2 :=
  exec_bind ..

/-- What happens to one LUN does not depend on the others, and a failure does not keep the rest from their turn. -/
theorem exec_prepareEach {paths : List Bytes} (nodup : paths.Nodup) (isError : Int) (n : Nat) (w : Luns) :
    let after := exec P.react io (prepareEach P stage paths isError) n w
    ∃ answer : Bytes → Int,
      (∀ path ∈ paths, Prepared P stage io path (w.disk path) (answer path) (after.2.disk path)) ∧
      (∀ path, path ∉ paths → after.2.disk path = w.disk path) ∧
      (after.1 = 0 ↔ isError = 0 ∧ ∀ path ∈ paths, answer path = 0) := by
  induction paths generalizing isError n w with
  | nil =>
    refine ⟨fun _ => 0, by simp, fun _ _ => rfl, ?_⟩
    simp [prepareEach, exec, pure]
  | cons first paths ih =>
    obtain ⟨new, nodup⟩ := List.nodup_cons.mp nodup
    obtain ⟨m, split⟩ := @exec_prepareEach_cons P stage io first paths isError n w
    rw [exec_prepareLun] at split
    generalize eq : exec (Gpt.react (P.at first)) io (preparePartitions (P.at first) stage (some first)) n
      ((Luns.focus first).get w) = one at split
    obtain ⟨answer, prepared, others, zero_iff⟩ := ih nodup (if one.1 ≠ 0 then 1 else isError) m ((Luns.focus first).put w one.2)
    rw [split]
    have away (path : Bytes) (member : path ∈ paths) : path ≠ first := fun same => new (same ▸ member)
    refine ⟨Function.update answer first one.1, ?_, ?_, ?_⟩
    · intro path member
      rcases List.mem_cons.mp member with rfl | member
      · refine ⟨n, w.bootLun, w.writes, ?_⟩
        simp only [Function.update_self, others path new, focus_put_disk]
        exact ⟨congrArg Prod.fst eq, congrArg (·.2.disk) eq⟩
      · rw [Function.update_of_ne (away path member), ← focus_put_other w one.2 (away path member)]
        exact prepared path member
    · intro path absent
      obtain ⟨ne, absent⟩ := not_or.mp (mt List.mem_cons.mpr absent)
      rw [others path absent, focus_put_other w one.2 ne]
    · have rest : (∀ path ∈ paths, Function.update answer first one.1 path = 0) ↔ ∀ path ∈ paths, answer path = 0 := by
        refine forall₂_congr fun path member => ?_
        rw [Function.update_of_ne (away path member)]
      rw [zero_iff, List.forall_mem_cons, Function.update_self, rest]
      by_cases failed : one.1 = 0
      · simp [failed]
      · simp [failed]

theorem exec_prepareLuns (paths : List Bytes) (n : Nat) (w : Luns) :
    exec P.react io (prepareLuns P stage paths) n w =
      let each := exec P.react io (prepareEach P stage paths 0) n w
      (if each.1 ≠ 0 then -1 else 0, each.2) := by
  obtain ⟨_, split⟩ : ∃ m, exec P.react io (prepareLuns P stage paths) n w = exec P.react io
      (.ret (if (exec P.react io (prepareEach P stage paths 0) n w).1 ≠ 0 then -1 else 0)) m
      (exec P.react io (prepareEach P stage paths 0) n w).2 := exec_bind ..
  exact split

theorem exec_prepareLuns_each {paths : List Bytes} (nodup : paths.Nodup) (n : Nat) (w : Luns) :
    let after := exec P.react io (prepareLuns P stage paths) n w
    ∃ answer : Bytes → Int,
      (∀ path ∈ paths, Prepared P stage io path (w.disk path) (answer path) (after.2.disk path)) ∧
      (∀ path, path ∉ paths → after.2.disk path = w.disk path) ∧
      after.1 = if ∀ path ∈ paths, answer path = 0 then 0 else -1 := by
  obtain ⟨answer, prepared, others, zero_iff⟩ := @exec_prepareEach P stage io paths nodup 0 n w
  rw [exec_prepareLuns]
  refine ⟨answer, prepared, others, ?_⟩
  simp only [true_and] at zero_iff
  simp only [← zero_iff, ne_eq, ite_not]

end Each

/-- A UFS device on which fewer than 25 LUNs hold backups, so that their list does not overflow. -/
def Platform.Few (P : Platform) : Prop :=
  gptUtilsIsUfsDevice P.env = true → (bootUpdateLuns P.env).dedup.length < maxLuns - 1

section Defined

variable {P : Platform}

theorem prepareBootUpdate_eq (ufs : gptUtilsIsUfsDevice P.env = true) (few : P.Few) (lookup : Bytes → Lookup) :
    ∃ data : UpdateData, data.Collects (reachedLuns P.env lookup) ∧
      ∀ stage, prepareBootUpdate P lookup stage = some (prepareLuns P stage data.luns) := by
  obtain ⟨data, collected, collects⟩ := collectLuns_collects (few ufs) lookup
  refine ⟨data, collects, fun stage => ?_⟩
  rw [prepareBootUpdate, ufs, collected]
  rfl

theorem prepareBootUpdate_defined (few : P.Few) (lookup : Bytes → Lookup) (stage : BootUpdateStage) :
    (prepareBootUpdate P lookup stage).isSome = true := by
  by_cases ufs : gptUtilsIsUfsDevice P.env = true
  · obtain ⟨data, -, eq⟩ := prepareBootUpdate_eq ufs few lookup
    rw [eq]
    rfl
  · rw [prepareBootUpdate, Bool.eq_false_of_not_eq_true ufs]
    rfl

end Defined

/-- On a UFS device with fewer than 25 LUNs in the update, whichever of the calls that look for the LUNs and of the
calls for the disks fail: every LUN that is found is prepared once, as if alone, no other disk changes, and the
answer is 0 exactly if all of those that are found answered 0. -/
theorem prepareBootUpdate_each_lun (P : Platform) (ufs : gptUtilsIsUfsDevice P.env = true) (few : P.Few)
    (lookup : Bytes → Lookup) (stage : BootUpdateStage) (io : Nat → Outcome) (w : Luns) :
    ∃ (update : LunIo Int) (answer : Bytes → Int), prepareBootUpdate P lookup stage = some update ∧
      let after := exec P.react io update 0 w
      (∀ path ∈ reachedLuns P.env lookup, Prepared P stage io path (w.disk path) (answer path) (after.2.disk path)) ∧
      (∀ path, path ∉ reachedLuns P.env lookup → after.2.disk path = w.disk path) ∧
      after.1 = if ∀ path ∈ reachedLuns P.env lookup, answer path = 0 then 0 else -1 := by
  obtain ⟨data, collects, eq⟩ := prepareBootUpdate_eq ufs few lookup
  obtain ⟨answer, each⟩ := @exec_prepareLuns_each P stage io data.luns collects.nodup 0 w
  simp only [collects.members] at each
  exact ⟨_, answer, eq stage, each⟩

/-! ### Crash safety of the whole device -/

/-- A disk from which the update can go on: one of its tables is completely valid, the primary entries are
`arr`, and `prepare_partitions` does not abort on its headers. -/
structure Recoverable (env : Env) (arr d : Bytes) : Prop where
  valid : ∃ gpt, CompletelyValid env d gpt
  array : entries env d .primary = arr
  crc : abortsOnCrc (headerState env (header env d .primary)) (headerState env (header env d .secondary)) = false
  signatures :
    abortsOnSignatures (headerState env (header env d .primary)) (headerState env (header env d .secondary)) = false

theorem SafeDisk.recoverable {env : Env} {p : Place} {d arr : Bytes} {w : World} (safe : SafeDisk env p d arr w) :
    Recoverable env arr w.disk := by
  obtain ⟨t, on, safe⟩ := safe
  obtain ⟨gpt, valid⟩ := safe.some_valid
  obtain ⟨crc, signatures⟩ := safe.no_abort
  refine ⟨⟨gpt, (on.valid gpt).mpr valid⟩, ?_, ?_, ?_⟩
  · rw [on.entries, safe.array]
  · rwa [on.header, on.header]
  · rwa [on.header, on.header]

theorem SafeDisk.of_disk {env : Env} {p : Place} {d arr : Bytes} {w v : World} (safe : SafeDisk env p d arr w)
    (same : v.disk = w.disk) : SafeDisk env p d arr v := by
  obtain ⟨t, on, safe⟩ := safe
  exact ⟨t, ⟨on.sound, on.blk, on.size, on.fits, same.trans on.disk⟩, safe⟩

def SafeLuns (P : Platform) (start w : Luns) : Prop :=
  ∀ path, WellFormed (P.at path) (start.disk path) →
    SafeDisk (P.at path) (placeOf (P.at path) (start.disk path)) (start.disk path)
      (entries (P.at path) (start.disk path) .primary) ((Luns.focus path).get w)

section Safety

variable {P : Platform} {start w : Luns} {allowed : Nat → Outcome → Prop} {n : Nat}

theorem SafeLuns.put (now : SafeLuns P start w) {path : Bytes} {one : World}
    (safe : WellFormed (P.at path) (start.disk path) →
      SafeDisk (P.at path) (placeOf (P.at path) (start.disk path)) (start.disk path)
        (entries (P.at path) (start.disk path) .primary) one) :
    SafeLuns P start ((Luns.focus path).put w one) := by
  intro other formed
  by_cases same : other = path
  · subst same
    rw [Focus.get_put]
    exact safe formed
  · exact (now other formed).of_disk (focus_put_other w one same)

/-- The step lemma: `prepare_partitions` keeps its own disk safe and has no access to the others. -/
theorem wp_prepareLun_safe (atomic : AllAtomic allowed) (stage : BootUpdateStage) (path : Bytes)
    (now : SafeLuns P start w) :
    wp P.react allowed (SafeLuns P start) (prepareLun P stage path) (fun _ _ v => SafeLuns P start v) n w := by
  refine wp_at ?_
  by_cases formed : WellFormed (P.at path) (start.disk path)
  · exact wp_mono (wp_weaken (wp_preparePartitions_safe atomic stage (some path) (now path formed))
      fun one safe => now.put fun _ => safe) fun _ _ _ safe _ => safe
  · have any (one : World) : SafeLuns P start ((Luns.focus path).put w one) :=
      now.put fun formed' => (formed formed').elim
    exact wp_all (Prog.all_true _) (fun _ safe => safe) (fun _ _ _ _ _ _ _ => any _) (any _)

theorem wp_prepareEach_safe (atomic : AllAtomic allowed) (stage : BootUpdateStage) (paths : List Bytes)
    (isError : Int) (now : SafeLuns P start w) :
    wp P.react allowed (SafeLuns P start) (prepareEach P stage paths isError) (fun _ _ v => SafeLuns P start v) n w := by
  induction paths generalizing isError n w with
  | nil => exact wp_ret now now
  | cons path paths ih => exact wp_seq (wp_prepareLun_safe atomic stage path now) fun _ _ _ _ safe => ih _ safe

theorem wp_prepareBootUpdate_safe (atomic : AllAtomic allowed) {lookup : Bytes → Lookup} {stage : BootUpdateStage}
    {update : LunIo Int} (defined : prepareBootUpdate P lookup stage = some update) (now : SafeLuns P start w) :
    wp P.react allowed (SafeLuns P start) update (fun _ _ _ => True) n w := by
  unfold prepareBootUpdate at defined
  split at defined
  · cases defined
    exact wp_mono (wp_prepareLun_safe atomic stage blkDevFile now) fun _ _ _ _ _ => trivial
  · obtain ⟨data, -, rfl⟩ := Option.map_eq_some_iff.mp defined
    exact wp_seq (wp_prepareEach_safe atomic stage data.luns 0 now) fun _ _ _ safe _ => wp_ret safe trivial

end Safety

structure BootCall extends Call where
  lookup : Bytes → Lookup

/-- Every state of the device during a sequence of calls of `prepare_boot_update`, each of which is cut off
where its outcomes end. -/
def bootHistory (P : Platform) (update : (Bytes → Lookup) → BootUpdateStage → LunIo Int) :
    Luns → List BootCall → List Luns
  | w, [] => [w]
  | w, call :: calls =>
    states P.react (update call.lookup call.stage) w call.outcomes ++
      bootHistory P update (run P.react (update call.lookup call.stage) w call.outcomes).2 calls

theorem bootHistory_safe {P : Platform} {update : (Bytes → Lookup) → BootUpdateStage → LunIo Int}
    (defined : ∀ lookup stage, prepareBootUpdate P lookup stage = some (update lookup stage)) (calls : List BootCall)
    (atomic : ∀ call ∈ calls, ∀ o ∈ call.outcomes, Outcome.Atomic o) {start w : Luns} (now : SafeLuns P start w) :
    ∀ v ∈ bootHistory P update w calls, SafeLuns P start v := by
  induction calls generalizing w with
  | nil =>
    intro v here
    cases List.mem_singleton.mp here
    exact now
  | cons call calls ih =>
    obtain ⟨here, later⟩ := List.forall_mem_cons.mp atomic
    have fit : ∀ i o, call.outcomes[i]? = some o → Outcome.Atomic o :=
      fun i o found => here o (List.mem_of_getElem? found)
    have step : wp P.react (fun _ => Outcome.Atomic) (SafeLuns P start) (update call.lookup call.stage)
        (fun _ _ _ => True) 0 w :=
      wp_prepareBootUpdate_safe (fun _ _ h => h) (defined call.lookup call.stage) now
    intro v reached
    rcases List.mem_append.mp reached with during | after
    · exact states_inv step call.outcomes fit v during
    · exact ih later (run_inv step call.outcomes fit) v after

/-- On eMMC, and on UFS with fewer than 25 LUNs in the update, where a transfer that fails leaves the disk alone:
whatever stages are asked for, whichever LUNs are found and wherever each call of `prepare_boot_update` fails or is
cut off, in every state on the way every disk that was well formed is recoverable, with the primary entries it had. -/
theorem bootUpdate_crash_safe (P : Platform) (few : P.Few) :
    ∃ update : (Bytes → Lookup) → BootUpdateStage → LunIo Int,
      (∀ lookup stage, prepareBootUpdate P lookup stage = some (update lookup stage)) ∧
      ∀ (w : Luns) (calls : List BootCall), (∀ call ∈ calls, ∀ o ∈ call.outcomes, Outcome.Atomic o) →
        ∀ v ∈ bootHistory P update w calls, ∀ path, WellFormed (P.at path) (w.disk path) →
          Recoverable (P.at path) (entries (P.at path) (w.disk path) .primary) (v.disk path) := by
  have defined (lookup : Bytes → Lookup) (stage : BootUpdateStage) :=
    (Option.some_get (prepareBootUpdate_defined few lookup stage)).symm
  refine ⟨_, defined, ?_⟩
  intro w calls atomic v reached path formed
  have start : SafeLuns P w w := fun path formed => @WellFormed.safe (P.at path) ((Luns.focus path).get w) formed
  exact (bootHistory_safe defined calls atomic start v reached path formed).recoverable

theorem WellFormed.of_same {env env' : Env} {d : Bytes} (formed : WellFormed env d) (crc : env.crc32 = env'.crc32)
    (heap : env.heap = env'.heap) (blk : env.blkSize = env'.blkSize) : WellFormed env' d := by
  cases env
  cases env'
  cases crc
  cases heap
  cases blk
  exact ⟨⟨formed.laid.count, formed.laid.entry, formed.laid.headers_on_disk, formed.laid.arrays_on_disk,
    formed.laid.headers_apart, formed.laid.header_array_apart, formed.laid.arrays_apart⟩,
    fun gpt => ⟨(formed.valid gpt).state, (formed.valid gpt).array⟩, formed.header_size⟩

namespace Sample

/-- The device of the sample with the backups of two partitions on the LUNs `sda` and `sdd`. -/
def platform : Platform where
  env := { env with
    stat := fun _ => true
    readlink := fun path =>
      if path = bootDevDir ++ cstr "/ablbak" then some (cstr "/dev/block/sda7")
      else if path = bootDevDir ++ cstr "/tzbak" then some (cstr "/dev/block/sdd3")
      else env.readlink path }
  blkSize _ := 512
  blk_large _ := env.blk_large

def luns : Luns := ⟨fun _ => world.disk, bootLunAId, 0⟩

theorem platform_luns : bootUpdateLuns platform.env = [cstr "/dev/block/sdd", cstr "/dev/block/sda"] := by
  decide +kernel

theorem platform_few : platform.Few := by
  intro _
  rw [platform_luns]
  decide

def lost (name : Bytes) : Lookup := if name = cstr "tz" then { Lookup.ok with readlink := false } else .ok

theorem platform_lost : reachedLuns platform.env lost = [cstr "/dev/block/sda"] := by
  decide +kernel

theorem platform_wellFormed (path : Bytes) : WellFormed (platform.at path) (luns.disk path) :=
  world_wellFormed.of_same rfl rfl rfl

end Sample

/-- The LUN that is not found is left out, and the answer does not show it. -/
theorem prepareBootUpdate_each_lun_lost :
    gptUtilsIsUfsDevice Sample.platform.env = true ∧ Sample.platform.Few ∧
    ∃ (update : LunIo Int) (answer : Int), prepareBootUpdate Sample.platform Sample.lost .updateMain = some update ∧
      let after := exec Sample.platform.react (fun _ => .ok) update 0 Sample.luns
      after.2.disk (cstr "/dev/block/sdd") = Sample.luns.disk (cstr "/dev/block/sdd") ∧
      after.1 = if answer = 0 then 0 else -1 := by
  refine ⟨rfl, Sample.platform_few, ?_⟩
  obtain ⟨update, answer, defined, -, others, result⟩ := prepareBootUpdate_each_lun Sample.platform rfl
    Sample.platform_few Sample.lost .updateMain (fun _ => .ok) Sample.luns
  rw [Sample.platform_lost] at others result
  refine ⟨update, answer (cstr "/dev/block/sda"), defined, others _ (by decide), ?_⟩
  simpa only [List.forall_mem_singleton] using result

/-- A call for the first stage that loses power on its first LUN, and another that goes on. -/
theorem bootUpdate_crash_safe_two : Sample.platform.Few ∧
    ∃ update : (Bytes → Lookup) → BootUpdateStage → LunIo Int,
      (∀ lookup stage, prepareBootUpdate Sample.platform lookup stage = some (update lookup stage)) ∧
      ∀ v ∈ bootHistory Sample.platform update Sample.luns [⟨⟨.updateMain, List.replicate 28 .ok⟩, fun _ => .ok⟩,
          ⟨⟨.updateMain, List.replicate 80 .ok⟩, Sample.lost⟩],
        ∀ path, Recoverable (Sample.platform.at path)
          (entries (Sample.platform.at path) (Sample.luns.disk path) .primary) (v.disk path) := by
  obtain ⟨update, defined, safe⟩ := bootUpdate_crash_safe Sample.platform Sample.platform_few
  refine ⟨Sample.platform_few, update, defined, fun v reached path => ?_⟩
  refine safe Sample.luns _ ?_ v reached path (Sample.platform_wellFormed path)
  intro call listed o happened
  simp only [List.mem_cons, List.not_mem_nil, or_false] at listed
  rcases listed with rfl | rfl
  · rw [List.eq_of_mem_replicate happened]
    trivial
  · rw [List.eq_of_mem_replicate happened]
    trivial

end Pdx215.Gpt
