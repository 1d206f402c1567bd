import Pdx215.Gpt.Commit
import Pdx215.Lib.Grouping

/-! The map from the device nodes to the partitions that lie on them. One path buffer serves for all names, the
link is read into it without a terminator, and the loop counts in 32 bits. -/
namespace Pdx215.Gpt
open Region Grouping

def blkDevFile : Bytes := cstr "/dev/block/mmcblk0"

/-- `get_dev_path_from_partition_name`: the result code and the buffer. -/
def getDevPathInto (env : Env) (partname buf : Bytes) : Int × Bytes :=
  if buf.length < pathTruncateLoc + 1 then (-1, buf)
  else if gptUtilsIsUfsDevice env then
    let path := byNamePath partname
    if !env.stat path then (-1, buf)
    else match env.readlink path with
      | none => (-1, buf)
      -- `readlink` writes no terminator
      | some link => (0, splice (splice buf 0 link) pathTruncateLoc [0])
  else (0, splice buf 0 (blkDevFile.take (buf.length - 1) ++ [0]))

abbrev PartitionMap : Type := Bytes → Option (List Bytes)

def PartitionMap.add (map : PartitionMap) (path name : Bytes) : PartitionMap :=
  match map path with
  | some names => Function.update map path (some (names ++ [name]))
  | none => Function.update map path (some [name])

structure MapState where
  devpath : Bytes
  map : PartitionMap

def mapStep (env : Env) (st : MapState) (name : Bytes) : MapState :=
  let result := getDevPathInto env name st.devpath
  -- the buffer is cleared only behind a name that was found
  if result.1 ≠ 0 then { st with devpath := result.2 }
  else ⟨List.replicate st.devpath.length 0, st.map.add (cstring result.2) name⟩

/-- There is no result while the loop would still run. -/
def mapLoop (env : Env) (ptnList : List Bytes) : Nat → Nat → MapState → Option PartitionMap
  | 0, _, _ => none
  | fuel + 1, i, st =>
    match ptnList[i]? with
    | none => some st.map
    | some name => mapLoop env ptnList fuel ((i + 1) % 2 ^ 32) (mapStep env st name)

def gptUtilsGetPartitionMap (env : Env) (fuel : Nat) (ptnList : List Bytes) (map : PartitionMap) :
    Option (Int × PartitionMap) :=
  if ptnList.length < 1 then some (-1, map)
  else (mapLoop env ptnList fuel 0 ⟨List.replicate pathMax 0, map⟩).map fun map => (0, map)

/-! ### The links -/

def partitionPath (name : Bytes) : Bytes := bootDevDir ++ cstr "/" ++ name

def Reachable (name : Bytes) : Prop := 0 ∉ name ∧ (partitionPath name).length < pathMax

instance (name : Bytes) : Decidable (Reachable name) := inferInstanceAs (Decidable (_ ∧ _))

def deviceOf (env : Env) (name : Bytes) : Option Bytes :=
  if Reachable name ∧ env.stat (partitionPath name) = true then
    (env.readlink (partitionPath name)).map (·.take pathTruncateLoc)
  else none

/-- On a UFS device every link is long enough for the truncation. -/
structure ByNameLinks (env : Env) : Prop where
  ufs : gptUtilsIsUfsDevice env = true
  long : ∀ name link, env.readlink (partitionPath name) = some link → pathTruncateLoc ≤ link.length
  nonzero : ∀ name link, env.readlink (partitionPath name) = some link → 0 ∉ link

/-- The final map holds the initial names and, behind them, the listed ones of each device. -/
def Grouped (env : Env) (names : List Bytes) (before after : PartitionMap) : Prop :=
  ∀ d, after d = extended (before d) (members (deviceOf env) d names)

/-- The name that the code asks for: the part that a C string keeps of it and that fits into the path. -/
def cutName (name : Bytes) : Bytes := (cstring name).take (pathMax - 1 - (bootDevDir.length + 1))

theorem byNamePath_eq (name : Bytes) : byNamePath name = partitionPath (cutName name) := by
  have lead : (bootDevDir ++ cstr "/").length = bootDevDir.length + 1 := rfl
  have fits : (bootDevDir ++ cstr "/").length ≤ pathMax - 1 := by decide
  rw [byNamePath, partitionPath, cutName, List.take_append, List.take_of_length_le fits, lead]

theorem cutName_reachable (name : Bytes) : Reachable (cutName name) := by
  constructor
  · exact fun zero => zero_not_mem_cstring name (List.mem_of_mem_take zero)
  · rw [← byNamePath_eq, byNamePath, List.length_take]
    have : pathMax = 4096 := rfl
    omega

theorem cutName_eq_self {name : Bytes} (reachable : Reachable name) : cutName name = name := by
  have length : (partitionPath name).length = bootDevDir.length + 1 + name.length := List.length_append
  have short := reachable.2
  rw [cutName, cstring_eq_self reachable.1, List.take_of_length_le (by omega)]

theorem deviceOf_unreachable (env : Env) {name : Bytes} (unreachable : ¬ Reachable name) : deviceOf env name = none :=
  if_neg fun both => unreachable both.1

theorem diskPath_eq_deviceOf {env : Env} (links : ByNameLinks env) (name : Bytes) :
    diskPath env name = deviceOf env (cutName name) := by
  simp only [deviceOf, diskPath, cutName_reachable, true_and, links.ufs, if_true, byNamePath_eq]

/-! ### One name -/

section Links

variable {env : Env} (links : ByNameLinks env)
include links

/-- What the buffer held before does not show in the result. -/
theorem getDevPathInto_spec (name : Bytes) {buf : Bytes} (room : pathTruncateLoc < buf.length) :
    (diskPath env name = none ∧ getDevPathInto env name buf = (-1, buf)) ∨
    ∃ d buf', diskPath env name = some d ∧ getDevPathInto env name buf = (0, buf') ∧ cstring buf' = d := by
  simp only [getDevPathInto, diskPath, byNamePath_eq, links.ufs, if_true, if_neg (Nat.not_lt.mpr room)]
  by_cases present : env.stat (partitionPath (cutName name)) = true
  · simp only [present, if_true, Bool.not_true, Bool.false_eq_true, if_false]
    cases found : env.readlink (partitionPath (cutName name)) with
    | none => exact .inl ⟨rfl, rfl⟩
    | some link =>
      have long := links.long _ _ found
      have nonzero : 0 ∉ link.take pathTruncateLoc :=
        fun zero => links.nonzero _ _ found (List.mem_of_mem_take zero)
      have lead : (splice buf 0 link).take pathTruncateLoc = link.take pathTruncateLoc := by
        rw [splice, List.take_zero, List.nil_append, List.take_append_of_le_length, List.take_take,
          Nat.min_eq_left (by omega)]
        rw [List.length_take]
        omega
      have stop : [(0 : UInt8)].take (buf.length - pathTruncateLoc) = [0] :=
        List.take_of_length_le (Nat.sub_pos_of_lt room)
      refine .inr ⟨_, _, rfl, rfl, ?_⟩
      rw [splice, lead, length_splice, stop, List.append_assoc, cstring_append nonzero, List.singleton_append,
        cstring_cons, if_pos rfl, List.append_nil]
  · simp [present]

theorem mapStep_spec (name : Bytes) {st : MapState} (sized : st.devpath.length = pathMax) :
    (mapStep env st name).devpath.length = pathMax ∧
      (mapStep env st name).map = file (diskPath env) st.map name := by
  have room : pathTruncateLoc < st.devpath.length := by
    rw [sized]
    decide
  rcases getDevPathInto_spec links name room with ⟨absent, failed⟩ | ⟨d, buf, found, read, text⟩
  · simp [mapStep, failed, sized, file, absent]
  · simp only [mapStep, read, ne_eq, not_true_eq_false, if_false, List.length_replicate, sized, true_and, file, found,
      text, PartitionMap.add]
    cases st.map d with
    | none => rfl
    | some names => rfl

theorem foldl_mapStep (names : List Bytes) {st : MapState} (sized : st.devpath.length = pathMax) :
    (names.foldl (mapStep env) st).map = names.foldl (file (diskPath env)) st.map := by
  induction names generalizing st with
  | nil => rfl
  | cons name names ih =>
    obtain ⟨sized', map⟩ := mapStep_spec links name sized
    rw [List.foldl_cons, List.foldl_cons, ih sized', map]

end Links

/-! ### The loop -/

section Loop

variable {env : Env} {names : List Bytes}

theorem mapLoop_eq (short : names.length < 2 ^ 32) (fuel : Nat) {i : Nat} (within : i ≤ names.length) (st : MapState) :
    mapLoop env names fuel i st =
      if names.length - i < fuel then some ((names.drop i).foldl (mapStep env) st).map else none := by
  induction fuel generalizing i st with
  | zero => rw [if_neg (Nat.not_lt_zero _), mapLoop]
  | succ fuel ih =>
    rw [mapLoop]
    rcases Nat.lt_or_eq_of_le within with inside | atEnd
    · have next : (i + 1) % 2 ^ 32 = i + 1 := Nat.mod_eq_of_lt (by omega)
      have left : names.length - (i + 1) < fuel ↔ names.length - i < fuel + 1 := by omega
      rw [List.getElem?_eq_getElem inside, List.drop_eq_getElem_cons inside, List.foldl_cons, next]
      simp only [ih inside, left]
    · rw [List.getElem?_eq_none (by omega), List.drop_eq_nil_of_le (by omega), List.foldl_nil, if_pos (by omega)]

theorem mapLoop_endless (long : 2 ^ 32 ≤ names.length) (fuel : Nat) {i : Nat} (below : i < 2 ^ 32) (st : MapState) :
    mapLoop env names fuel i st = none := by
  induction fuel generalizing i st with
  | zero => rfl
  | succ fuel ih =>
    rw [mapLoop, List.getElem?_eq_getElem (by omega)]
    -- the counter starts over before it reaches the end
    exact ih (Nat.mod_lt _ (by decide)) _

theorem gptUtilsGetPartitionMap_endless (long : 2 ^ 32 ≤ names.length) (fuel : Nat) (map : PartitionMap) :
    gptUtilsGetPartitionMap env fuel names map = none := by
  rw [gptUtilsGetPartitionMap, if_neg (by omega), mapLoop_endless long fuel (by decide), Option.map_none]

theorem gptUtilsGetPartitionMap_eq (links : ByNameLinks env) (listed : names ≠ []) (short : names.length < 2 ^ 32)
    (fuel : Nat) (map : PartitionMap) :
    gptUtilsGetPartitionMap env fuel names map =
      if names.length < fuel then some (0, names.foldl (file (diskPath env)) map) else none := by
  have positive := List.length_pos_iff.mpr listed
  rw [gptUtilsGetPartitionMap, if_neg (by omega), mapLoop_eq short fuel (Nat.zero_le _), List.drop_zero,
    foldl_mapStep links names List.length_replicate, Nat.sub_zero]
  split
  · rfl
  · rfl

end Loop

/-- The map groups the listed names by their devices exactly for lists of less than 2 ^ 32 names in which no name
that has a zero, or is too long for a path, resolves when it is cut. -/
theorem partitionMap_groups_iff {env : Env} (links : ByNameLinks env) {names : List Bytes} (listed : names ≠ [])
    (map : PartitionMap) :
    (∃ fuel after, gptUtilsGetPartitionMap env fuel names map = some (0, after) ∧ Grouped env names map after) ↔
      names.length < 2 ^ 32 ∧ ∀ name ∈ names, ¬ Reachable name → deviceOf env (cutName name) = none := by
  by_cases short : names.length < 2 ^ 32
  · rw [and_iff_right short]
    simp only [gptUtilsGetPartitionMap_eq links listed short]
    constructor
    · rintro ⟨fuel, after, ends, grouped⟩ name member unreachable
      rw [Option.ite_none_right_eq_some] at ends
      obtain ⟨-, ends⟩ := ends
      cases ends
      rw [← diskPath_eq_deviceOf links]
      by_contra resolves
      obtain ⟨d, found⟩ := Option.ne_none_iff_exists'.mp resolves
      have same := grouped d
      rw [foldl_file] at same
      -- the name is filed under the device of its cut form, where it does not belong
      have filed : name ∈ members (diskPath env) d names := mem_members.mpr ⟨member, found⟩
      rw [extended_inj same, mem_members, deviceOf_unreachable env unreachable] at filed
      cases filed.2
    · intro resolve
      refine ⟨_, _, if_pos (Nat.lt_succ_self _), fun d => ?_⟩
      rw [foldl_file, members_congr]
      intro name member
      rw [diskPath_eq_deviceOf links]
      by_cases reachable : Reachable name
      · rw [cutName_eq_self reachable]
      · rw [deviceOf_unreachable env reachable]
        exact resolve name member reachable
  · constructor
    · rintro ⟨fuel, after, ends, -⟩
      rw [gptUtilsGetPartitionMap_endless (Nat.le_of_not_lt short)] at ends
      cases ends
    · rintro ⟨short', -⟩
      exact absurd short' short

theorem Sample.byNameLinks : ByNameLinks Sample.env := by
  have targets : ∀ path link, Sample.env.readlink path = some link →
      link = cstr "/dev/block/sdb1" ∨ link = cstr "/dev/block/sdc1" := by
    intro path link found
    simp only [Sample.env] at found
    grind
  refine ⟨by decide, fun name link found => ?_, fun name link found => ?_⟩
  · rcases targets _ _ found with rfl | rfl
    · decide
    · decide
  · rcases targets _ _ found with rfl | rfl
    · decide
    · decide

theorem partitionMap_groups_xbl :
    let names := [cstr "xbl", cstr "boot", cstr "xblbak", cstr "xbl"]
    ByNameLinks Sample.env ∧ ∃ fuel after,
      gptUtilsGetPartitionMap Sample.env fuel names (fun _ => none) = some (0, after) ∧
        Grouped Sample.env names (fun _ => none) after := by
  have links : ByNameLinks Sample.env := Sample.byNameLinks
  exact ⟨links, (partitionMap_groups_iff links (by decide) _).mpr ⟨by decide, by decide⟩⟩

/-- A name with a zero in it is filed under the device of what stands before the zero, and with 2 ^ 32 names the
function does not return. -/
theorem partitionMap_not_grouped :
    let cut := cstr "xbl" ++ 0 :: cstr "old"
    deviceOf Sample.env cut = none ∧
    (∃ after, gptUtilsGetPartitionMap Sample.env 2 [cut] (fun _ => none) = some (0, after) ∧
      after (cstr "/dev/block/sdb") = some [cut] ∧ ¬ Grouped Sample.env [cut] (fun _ => none) after) ∧
    ¬ ∃ fuel after, gptUtilsGetPartitionMap Sample.env fuel (List.replicate (2 ^ 32) (cstr "xbl")) (fun _ => none) =
        some (0, after) ∧ Grouped Sample.env (List.replicate (2 ^ 32) (cstr "xbl")) (fun _ => none) after := by
  refine ⟨by decide, ⟨_, gptUtilsGetPartitionMap_eq Sample.byNameLinks (by decide) (by decide) 2 _, by decide, ?_⟩, ?_⟩
  · intro grouped
    have here := grouped (cstr "/dev/block/sdb")
    revert here
    decide
  · rintro ⟨fuel, after, ends, -⟩
    have length : (List.replicate (2 ^ 32) (cstr "xbl")).length = 2 ^ 32 := List.length_replicate
    rw [gptUtilsGetPartitionMap_endless length.ge] at ends
    cases ends

end Pdx215.Gpt
