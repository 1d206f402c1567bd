import Mathlib.Data.List.Dedup
import Mathlib.Data.List.Induction
import Mathlib.Data.List.Perm.Subperm
import Pdx215.Gpt.Mounted
import Pdx215.Gpt.Names

/-! The list of LUNs that `prepare_boot_update` collects on a UFS device. Once a slot behind the last
one of `lun_list` has been written nothing is known about the program, so such a call has no result. -/
namespace Pdx215.Gpt

def maxLuns : Nat := 26

structure UpdateData where
  lunList : Vector Bytes maxLuns
  numValidEntries : Nat

namespace UpdateData

def zeroed : UpdateData := ⟨Vector.replicate maxLuns [], 0⟩

/-- The valid entries, which `prepare_boot_update` hands to `prepare_partitions` one by one. -/
def luns (dat : UpdateData) : List Bytes := dat.lunList.toList.take dat.numValidEntries

/-- `strlcpy` into the slot behind the valid entries. -/
def append (dat : UpdateData) (lunPath : Bytes) : Option UpdateData :=
  if room : dat.numValidEntries < maxLuns then
    some ⟨dat.lunList.set dat.numValidEntries (lunPath.take (pathMax - 1)), dat.numValidEntries + 1⟩
  else none

/-- The search for the path. The loop condition has the capacity in it. -/
def listed (dat : UpdateData) (lunPath : Bytes) : Bool :=
  decide (dat.numValidEntries < maxLuns - 1) &&
    dat.luns.any fun lun => strncmpEq (cstring lun).length lunPath lun

end UpdateData

def addLunToUpdateList (accessible : Bool) (lunPath : Bytes) (dat : UpdateData) : Option (Int × UpdateData) :=
  if !accessible then some (-1, dat)
  else if dat.numValidEntries = 0 then (dat.append lunPath).map fun dat => (0, dat)
  else if dat.listed lunPath then some (0, dat)
  else (dat.append lunPath).map fun dat => (0, dat)

/-- Which of the system calls for a name go through: `stat` and `readlink` of its path in the first loop of
`prepare_boot_update`, and `stat` of the LUN in `add_lun_to_update_list`. -/
structure Lookup where
  stat : Bool
  readlink : Bool
  statLun : Bool

def Lookup.ok : Lookup := ⟨true, true, true⟩

def backupLun (env : Env) (goes : Lookup) (name : Bytes) : Option Bytes :=
  let buf := bootDevDir ++ cstr "/" ++ name ++ bakPtnNameExt
  if !(goes.stat && env.stat buf) then none
  else (if goes.readlink then env.readlink buf else none).bind fun link =>
    let realPath := cstring (link.take (pathMax - 1))
    if realPath.length < pathTruncateLoc + 1 then none else some (realPath.take pathTruncateLoc)

/-- The result of `add_lun_to_update_list` is not looked at. -/
def addLuns (env : Env) (paths : List Bytes) (dat : UpdateData) : Option UpdateData :=
  paths.foldlM (fun dat path => (addLunToUpdateList (env.stat path) path dat).map Prod.snd) dat

/-- The names that the first loop of `prepare_boot_update` does not skip. -/
def bootUpdateNames (env : Env) : List Bytes := ptnSwapList.filter fun name => !swapSkipped env name

/-- The paths that this loop passes when no call fails. -/
def bootUpdateLuns (env : Env) : List Bytes := (bootUpdateNames env).filterMap (backupLun env .ok)

def collectName (env : Env) (goes : Lookup) (dat : UpdateData) (name : Bytes) : Option UpdateData :=
  match backupLun env goes name with
  | none => some dat
  | some path => (addLunToUpdateList (goes.statLun && env.stat path) path dat).map Prod.snd

def collectLuns (env : Env) (lookup : Bytes → Lookup) : Option UpdateData :=
  (bootUpdateNames env).foldlM (fun dat name => collectName env (lookup name) dat name) .zeroed

/-! ### One call -/

/-- What stands for the root of a LUN: a path of a fixed length. -/
structure LunRoot (path : Bytes) : Prop where
  length : path.length = pathTruncateLoc
  nonzero : 0 ∉ path

structure LunPath (env : Env) (path : Bytes) : Prop extends LunRoot path where
  accessible : env.stat path = true

theorem LunRoot.same {path other : Bytes} (lun : LunRoot path) (other' : LunRoot other) :
    strncmpEq (cstring other).length path other = true ↔ path = other := by
  rw [cstring_eq_self other'.nonzero, strncmpEq_comm, strncmpEq_length_iff other'.nonzero]
  constructor
  · intro begins
    exact (begins.eq_of_length (other'.length.trans lun.length.symm)).symm
  · rintro rfl
    exact List.prefix_rfl

namespace UpdateData

theorem append_luns {dat : UpdateData} {path : Bytes} (room : dat.numValidEntries < maxLuns)
    (short : path.length < pathMax) :
    ∃ next, dat.append path = some next ∧ next.numValidEntries = dat.numValidEntries + 1 ∧
      next.luns = dat.luns ++ [path] := by
  refine ⟨_, dif_pos room, rfl, ?_⟩
  have slots : dat.lunList.toList.length = maxLuns := dat.lunList.length_toList
  have whole : path.take (pathMax - 1) = path := List.take_of_length_le (by omega)
  simp only [luns, Vector.toList_set, whole]
  rw [List.take_add_one, List.take_set_of_le (Nat.le_refl _), List.getElem?_set_self (by omega)]
  rfl

theorem length_luns {dat : UpdateData} (bounded : dat.numValidEntries ≤ maxLuns) :
    dat.luns.length = dat.numValidEntries := by
  have slots : dat.lunList.toList.length = maxLuns := dat.lunList.length_toList
  rw [luns, List.length_take, slots, Nat.min_eq_left bounded]

end UpdateData

/-- The list is a set: it has room for its entries, and holds each path passed exactly once. -/
structure UpdateData.Collects (dat : UpdateData) (paths : List Bytes) : Prop where
  bounded : dat.numValidEntries ≤ maxLuns
  nodup : dat.luns.Nodup
  members : ∀ path, path ∈ dat.luns ↔ path ∈ paths

section Call

variable {dat : UpdateData} {paths : List Bytes} {path : Bytes}

theorem UpdateData.Collects.count (collects : dat.Collects paths) : dat.numValidEntries = paths.dedup.length := by
  rw [← UpdateData.length_luns collects.bounded]
  apply List.Perm.length_eq
  rw [List.perm_ext_iff_of_nodup collects.nodup (List.nodup_dedup paths)]
  intro path
  rw [collects.members, List.mem_dedup]

/-- Only a list that is not nearly full is searched. -/
theorem addLunToUpdateList_eq (collects : dat.Collects paths) (luns : ∀ p ∈ paths, LunRoot p) (lun : LunRoot path) :
    addLunToUpdateList true path dat = if dat.numValidEntries < maxLuns - 1 ∧ path ∈ paths then some (0, dat)
      else (dat.append path).map fun dat => (0, dat) := by
  have search : dat.luns.any (fun lun => strncmpEq (cstring lun).length path lun) = true ↔ path ∈ paths := by
    rw [List.any_eq_true, ← collects.members]
    constructor
    · rintro ⟨other, member, same⟩
      rw [lun.same (luns other ((collects.members other).mp member))] at same
      exact same ▸ member
    · intro member
      exact ⟨path, member, (lun.same lun).mpr rfl⟩
  have listed : dat.listed path = true ↔ dat.numValidEntries < maxLuns - 1 ∧ path ∈ paths := by
    rw [UpdateData.listed, Bool.and_eq_true, decide_eq_true_eq, search]
  by_cases none : dat.numValidEntries = 0
  · have new : path ∉ paths := by
      rw [← collects.members, UpdateData.luns, none]
      exact List.not_mem_nil
    simp [addLunToUpdateList, none, new]
  · simp [addLunToUpdateList, none, listed]

theorem UpdateData.Collects.append_iff (collects : dat.Collects paths) (lun : LunRoot path) :
    (∃ next, dat.append path = some next ∧ next.Collects (paths ++ [path])) ↔
      dat.numValidEntries < maxLuns ∧ path ∉ paths := by
  have short : path.length < pathMax := by
    rw [lun.length]
    decide
  constructor
  · rintro ⟨next, appended, collects'⟩
    have room : dat.numValidEntries < maxLuns := by
      by_contra full
      rw [UpdateData.append, dif_neg full] at appended
      cases appended
    obtain ⟨next', appended', -, luns⟩ := append_luns room short
    obtain rfl : next = next' := Option.some.inj (appended.symm.trans appended')
    have nodup := collects'.nodup
    rw [luns, List.nodup_append] at nodup
    exact ⟨room, fun member => nodup.2.2 path ((collects.members path).mpr member) path (by simp) rfl⟩
  · rintro ⟨room, new⟩
    obtain ⟨next, appended, count, luns⟩ := append_luns room short
    refine ⟨next, appended, by omega, ?_, ?_⟩
    · rw [luns, List.nodup_append]
      refine ⟨collects.nodup, List.nodup_singleton path, ?_⟩
      rintro p member q here rfl
      rw [List.mem_singleton.mp here, collects.members] at member
      exact new member
    · intro p
      rw [luns, List.mem_append, List.mem_append, collects.members]

/-- A call keeps the list a set when the search takes place, or when the last slot is free for a new path. -/
theorem addLun_collects_iff (collects : dat.Collects paths) (luns : ∀ p ∈ paths, LunRoot p) (lun : LunRoot path) :
    (∃ next, (addLunToUpdateList true path dat).map Prod.snd = some next ∧ next.Collects (paths ++ [path])) ↔
      dat.numValidEntries < maxLuns - 1 ∨ (dat.numValidEntries = maxLuns - 1 ∧ path ∉ paths) := by
  rw [addLunToUpdateList_eq collects luns lun]
  by_cases found : dat.numValidEntries < maxLuns - 1 ∧ path ∈ paths
  · rw [if_pos found]
    refine iff_of_true ⟨dat, rfl, collects.bounded, collects.nodup, ?_⟩ (.inl found.1)
    intro p
    rw [collects.members, List.mem_append, List.mem_singleton]
    constructor
    · exact .inl
    · rintro (member | rfl)
      · exact member
      · exact found.2
  · rw [if_neg found, Option.map_map]
    change (∃ next, (dat.append path).map id = some next ∧ _) ↔ _
    rw [Option.map_id, id, collects.append_iff lun]
    have last : maxLuns = 26 := rfl
    constructor
    · rintro ⟨room, new⟩
      by_cases early : dat.numValidEntries < maxLuns - 1
      · exact .inl early
      · exact .inr ⟨by omega, new⟩
    · rintro (early | ⟨late, new⟩)
      · exact ⟨by omega, fun member => found ⟨early, member⟩⟩
      · exact ⟨by omega, new⟩

end Call

/-! ### All the calls -/

section Calls

variable {env : Env} {paths : List Bytes}

def addRoots (paths : List Bytes) (dat : UpdateData) : Option UpdateData :=
  paths.foldlM (fun dat path => (addLunToUpdateList true path dat).map Prod.snd) dat

theorem addLuns_eq (accessible : ∀ p ∈ paths, env.stat p = true) (dat : UpdateData) :
    addLuns env paths dat = addRoots paths dat := by
  induction paths generalizing dat with
  | nil => rfl
  | cons path paths ih =>
    obtain ⟨here, later⟩ := List.forall_mem_cons.mp accessible
    rw [addLuns, addRoots, List.foldlM_cons, List.foldlM_cons, here]
    exact bind_congr fun dat => ih later dat

theorem addRoots_concat (dat : UpdateData) (path : Bytes) :
    addRoots (paths ++ [path]) dat =
      (addRoots paths dat).bind fun dat => (addLunToUpdateList true path dat).map Prod.snd := by
  rw [addRoots, List.foldlM_append]
  exact bind_congr fun dat => bind_pure _

/-- A call finds fewer than 25 different paths, or 25 and brings another one. -/
def InTime (paths : List Bytes) : Prop :=
  ∀ before path, before ++ [path] <+: paths →
    before.dedup.length < maxLuns - 1 ∨ (before.dedup.length = maxLuns - 1 ∧ path ∉ before)

theorem addRoots_collects (luns : ∀ p ∈ paths, LunRoot p) (inTime : InTime paths) :
    ∃ dat, addRoots paths .zeroed = some dat ∧ dat.Collects paths := by
  induction paths using List.reverseRecOn with
  | nil => exact ⟨.zeroed, rfl, Nat.zero_le _, List.nodup_nil, fun _ => Iff.rfl⟩
  | append_singleton paths path ih =>
    have luns' : ∀ p ∈ paths, LunRoot p := fun p member => luns p (List.mem_append_left _ member)
    obtain ⟨dat, added, collects⟩ :=
      ih luns' fun before p begins => inTime before p (begins.trans (List.prefix_append _ _))
    have now := inTime paths path List.prefix_rfl
    rw [← collects.count] at now
    rw [addRoots_concat, added]
    exact (addLun_collects_iff collects luns' (luns path (by simp))).mpr now

/-- While the calls are made the list stays a set exactly if they are in time. -/
theorem lun_list_bounded_set_iff (luns : ∀ p ∈ paths, LunPath env p) :
    (∀ before, before <+: paths → ∃ dat, addLuns env before .zeroed = some dat ∧ dat.Collects before) ↔
      ∀ before path, before ++ [path] <+: paths →
        before.dedup.length < maxLuns - 1 ∨ (before.dedup.length = maxLuns - 1 ∧ path ∉ before) := by
  have eq {before : List Bytes} (begins : before <+: paths) : addLuns env before .zeroed = addRoots before .zeroed :=
    addLuns_eq (fun p member => (luns p (begins.subset member)).accessible) .zeroed
  constructor
  · intro sets before path begins
    have part : before <+: paths := (List.prefix_append before [path]).trans begins
    obtain ⟨dat, added, collects⟩ := sets before part
    have next := sets (before ++ [path]) begins
    rw [eq part] at added
    rw [eq begins, addRoots_concat, added] at next
    rw [← collects.count]
    exact (addLun_collects_iff collects (fun p member => (luns p (part.subset member)).toLunRoot)
      (luns path (begins.subset (by simp))).toLunRoot).mp next
  · intro inTime before begins
    rw [eq begins]
    exact addRoots_collects (fun p member => (luns p (begins.subset member)).toLunRoot)
      fun before' path begins' => inTime before' path (begins'.trans begins)

theorem dedup_length_le {fewer : List Bytes} (part : fewer ⊆ paths) : fewer.dedup.length ≤ paths.dedup.length := by
  have part' : fewer.dedup ⊆ paths.dedup := by
    intro p member
    rw [List.mem_dedup] at member ⊢
    exact part member
  exact (List.subperm_of_subset (List.nodup_dedup fewer) part').length_le

theorem inTime_of_few (few : paths.dedup.length < maxLuns - 1) : InTime paths := by
  intro before path begins
  have part := dedup_length_le ((List.prefix_append before [path]).trans begins).subset
  exact .inl (by omega)

end Calls

/-! ### The loop over the names -/

def reachedLun (env : Env) (goes : Lookup) (name : Bytes) : Option Bytes :=
  (backupLun env goes name).filter fun path => goes.statLun && env.stat path

def reachedLuns (env : Env) (lookup : Bytes → Lookup) : List Bytes :=
  (bootUpdateNames env).filterMap fun name => reachedLun env (lookup name) name

section Names

variable {env : Env} {lookup : Bytes → Lookup}

theorem collectName_eq (goes : Lookup) (dat : UpdateData) (name : Bytes) :
    collectName env goes dat name = (reachedLun env goes name).elim (some dat) fun path =>
      (addLunToUpdateList true path dat).map Prod.snd := by
  rw [collectName, reachedLun]
  cases backupLun env goes name with
  | none => rfl
  | some path =>
    cases accessible : goes.statLun && env.stat path with
    | false => simp [Option.filter, accessible, addLunToUpdateList]
    | true => simp [Option.filter, accessible]

theorem foldlM_collectName (names : List Bytes) (dat : UpdateData) :
    names.foldlM (fun dat name => collectName env (lookup name) dat name) dat =
      addRoots (names.filterMap fun name => reachedLun env (lookup name) name) dat := by
  induction names generalizing dat with
  | nil => rfl
  | cons name names ih =>
    rw [List.foldlM_cons, collectName_eq, List.filterMap_cons]
    cases reachedLun env (lookup name) name with
    | none => exact ih dat
    | some path =>
      rw [addRoots, List.foldlM_cons]
      exact bind_congr ih

theorem collectLuns_eq : collectLuns env lookup = addRoots (reachedLuns env lookup) .zeroed :=
  foldlM_collectName _ _

theorem lunRoot_backupLun {goes : Lookup} {name path : Bytes} (found : backupLun env goes name = some path) :
    LunRoot path := by
  simp only [backupLun] at found
  split at found
  · cases found
  · obtain ⟨link, -, found⟩ := Option.bind_eq_some_iff.mp found
    split at found
    · cases found
    · rename_i long
      obtain rfl := Option.some.inj found
      refine ⟨List.length_take_of_le (by omega), fun zero => ?_⟩
      exact zero_not_mem_cstring _ (List.mem_of_mem_take zero)

theorem backupLun_ok {goes : Lookup} {name path : Bytes} (found : backupLun env goes name = some path) :
    backupLun env .ok name = some path := by
  obtain ⟨stat, readlink, statLun⟩ := goes
  cases stat with
  | false => cases found
  | true =>
    cases readlink with
    | false => simp [backupLun] at found
    | true => exact found

theorem reachedLuns_subset : reachedLuns env lookup ⊆ bootUpdateLuns env := by
  intro path reached
  obtain ⟨name, listed, reached⟩ := List.mem_filterMap.mp reached
  exact List.mem_filterMap.mpr ⟨name, listed, backupLun_ok (Option.filter_eq_some_iff.mp reached).1⟩

theorem lunRoot_of_reached {path : Bytes} (reached : path ∈ reachedLuns env lookup) : LunRoot path := by
  obtain ⟨name, -, found⟩ := List.mem_filterMap.mp (reachedLuns_subset reached)
  exact lunRoot_backupLun found

/-- With fewer than 25 LUNs, whichever of the calls fail, the list is the set of the LUNs that are reached. -/
theorem collectLuns_collects (few : (bootUpdateLuns env).dedup.length < maxLuns - 1) (lookup : Bytes → Lookup) :
    ∃ dat, collectLuns env lookup = some dat ∧ dat.Collects (reachedLuns env lookup) := by
  rw [collectLuns_eq]
  refine addRoots_collects (fun p => lunRoot_of_reached) (inTime_of_few ?_)
  exact Nat.lt_of_le_of_lt (dedup_length_le reachedLuns_subset) few

end Names

namespace Sample

/-- A UFS device whose partitions are spread over the LUNs `sda`, `sdb` and so on, as many as there are. -/
def scattered (count : Nat) : Env where
  crc32 := zlibCrc32
  heap _ := 0
  blkSize := 512
  blk_large := env.blk_large
  bootdevice := cstr "soc/1d84000.ufshc"
  stat _ := true
  readlink path :=
    (ptnSwapList.findIdx? fun name => name ++ bakPtnNameExt == path.drop (bootDevDir.length + 1)).map fun i =>
      cstr "/dev/block/sd" ++ [97 + UInt8.ofNat (i % count), 49]
  readdir _ := none

theorem backupLun_scattered (count : Nat) (name : Bytes) :
    backupLun (scattered count) .ok name = (ptnSwapList.findIdx? fun other => other == name).bind fun i =>
      let realPath := cstring (cstr "/dev/block/sd" ++ [97 + UInt8.ofNat (i % count), 49])
      if realPath.length < pathTruncateLoc + 1 then none else some (realPath.take pathTruncateLoc) := by
  have rest : (bootDevDir ++ cstr "/" ++ name ++ bakPtnNameExt).drop (bootDevDir.length + 1) =
      name ++ bakPtnNameExt := by
    rw [List.append_assoc _ name, List.drop_left' (by rw [List.length_append]; rfl)]
  have equal : (fun other => other ++ bakPtnNameExt == name ++ bakPtnNameExt) = fun other => other == name := by
    funext other
    rw [Bool.eq_iff_iff, beq_iff_eq, beq_iff_eq, List.append_left_inj]
  simp only [backupLun, scattered, Lookup.ok, Bool.and_self, Bool.not_true, Bool.false_eq_true, if_false, if_true, rest,
    equal, Option.bind_map]
  rfl

/-- The first four names are skipped. -/
theorem luns_scattered (count : Nat) :
    bootUpdateLuns (scattered count) = (List.range' 4 29).filterMap fun i =>
      let realPath := cstring (cstr "/dev/block/sd" ++ [97 + UInt8.ofNat (i % count), 49])
      if realPath.length < pathTruncateLoc + 1 then none else some (realPath.take pathTruncateLoc) := by
  have found : ((ptnSwapList.filter fun name => !swapSkipped (scattered 0) name).filterMap fun name =>
      ptnSwapList.findIdx? fun other => other == name) = List.range' 4 29 := by decide +kernel
  have ufs : ∀ n, gptUtilsIsUfsDevice (scattered n) = true := fun n => rfl
  have skipped : swapSkipped (scattered count) = swapSkipped (scattered 0) := by
    funext name
    rw [swapSkipped, swapSkipped, ufs, ufs]
  rw [← found, List.filterMap_filterMap, bootUpdateLuns, bootUpdateNames, skipped]
  exact congrArg (List.filterMap · _) (funext (backupLun_scattered count))

theorem reached_scattered (count : Nat) :
    reachedLuns (scattered count) (fun _ => .ok) = bootUpdateLuns (scattered count) := by
  have reached (name : Bytes) : reachedLun (scattered count) .ok name = backupLun (scattered count) .ok name := by
    rw [reachedLun]
    cases backupLun (scattered count) .ok name with
    | none => rfl
    | some path => rfl
  exact congrArg (List.filterMap · _) (funext reached)

theorem scattered_lun_paths : ∀ p ∈ bootUpdateLuns (scattered 6), LunPath (scattered 6) p := by
  have checked : ∀ p ∈ bootUpdateLuns (scattered 6), p.length = pathTruncateLoc ∧ 0 ∉ p := by
    rw [luns_scattered]
    decide +kernel
  intro p member
  exact ⟨⟨(checked p member).1, (checked p member).2⟩, rfl⟩

end Sample

theorem lun_list_bounded_set_six :
    (∀ p ∈ bootUpdateLuns (Sample.scattered 6), LunPath (Sample.scattered 6) p) ∧
      ∀ before, before <+: bootUpdateLuns (Sample.scattered 6) →
        ∃ dat, addLuns (Sample.scattered 6) before .zeroed = some dat ∧ dat.Collects before := by
  refine ⟨Sample.scattered_lun_paths,
    (lun_list_bounded_set_iff Sample.scattered_lun_paths).mpr (inTime_of_few ?_)⟩
  rw [Sample.luns_scattered]
  decide +kernel

/-- With 25 LUNs the list is not searched any more when the second path on the first one comes: that
LUN is stored twice, and the call after that writes behind the end of the list. -/
theorem lun_list_overflows :
    let luns := bootUpdateLuns (Sample.scattered 25)
    (luns.length = 29 ∧ luns.dedup.length = 25 ∧ ∀ p ∈ luns, p.length = pathTruncateLoc) ∧
      (addLuns (Sample.scattered 25) (luns.take 26) .zeroed).map
        (fun dat => (dat.numValidEntries, dat.luns.count (cstr "/dev/block/sde"))) = some (26, 2) ∧
      (addLuns (Sample.scattered 25) (luns.take 27) .zeroed).isNone ∧
      (collectLuns (Sample.scattered 25) fun _ => .ok).isNone := by
  rw [collectLuns_eq, Sample.reached_scattered, Sample.luns_scattered]
  decide +kernel

end Pdx215.Gpt
