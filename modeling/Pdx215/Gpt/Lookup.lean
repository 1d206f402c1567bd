import Pdx215.Gpt.Disk
import Pdx215.Gpt.Exchange

/-! Looking up a partition by its name. The length of the name is kept in 32 bits, so that of a name of 2 ^ 32
characters or more only the first `length % 2 ^ 32` are compared. -/
namespace Pdx215.Gpt
open Region

/-- What a `const char *` can point to. -/
structure PartitionName where
  chars : Bytes
  nonzero : 0 ∉ chars

structure EntryArray where
  bytes : Bytes
  size : Nat
  count : Nat
  large : ptnEntrySize ≤ size
  whole : bytes.length = count * size

namespace EntryArray

/-- The low bytes of the 36 UTF-16 units of an entry's name, up to the first zero. -/
def name (array : EntryArray) (k : Nat) : Bytes :=
  cstring ((List.range 36).map fun i => array.bytes[k * array.size + partitionNameOffset + i * 2]?.getD 0)

def IsNamed (array : EntryArray) (name : Bytes) (k : Nat) : Prop :=
  array.name k = name ∨ array.name k = name ++ bakPtnNameExt

instance (array : EntryArray) (name : Bytes) (k : Nat) : Decidable (array.IsNamed name k) :=
  inferInstanceAs (Decidable (_ ∨ _))

def find (array : EntryArray) (name : Bytes) : Option Nat :=
  (List.range array.count).find? fun k => array.IsNamed name k

variable {array : EntryArray} {name : Bytes} {k : Nat}

theorem find_eq_none_iff : array.find name = none ↔ ∀ k, k < array.count → ¬ array.IsNamed name k := by
  simp [find]

theorem find_eq_some (below : k < array.count) (named : array.IsNamed name k)
    (first : ∀ l, l < k → ¬ array.IsNamed name l) : array.find name = some k := by
  rw [find, List.find?_range_eq_some]
  simpa [below, named] using first

theorem name_length_le : (array.name k).length ≤ 36 := by
  have short := cstring_length_le
    ((List.range 36).map fun i => array.bytes[k * array.size + partitionNameOffset + i * 2]?.getD 0)
  simpa [EntryArray.name] using short

theorem find_of_long (long : 36 < name.length) : array.find name = none := by
  rw [find_eq_none_iff]
  intro k _ named
  have short := @name_length_le array k
  rcases named with same | same
  · rw [same] at short
    omega
  · rw [same, List.length_append] at short
    omega

/-- The names lie inside the entries, so that the code reads the name that is stored. -/
theorem entryName_eq (env : Env) (below : k < array.count) :
    entryName env array.bytes (k * array.size) = array.name k := by
  have stored : (List.range 36).map (fun i => array.bytes[k * array.size + partitionNameOffset + i * 2]?.getD
      (env.heap (k * array.size + partitionNameOffset + i * 2))) =
      (List.range 36).map fun i => array.bytes[k * array.size + partitionNameOffset + i * 2]?.getD 0 := by
    apply List.map_congr_left
    intro i member
    have lt : i < 36 := List.mem_range.mp member
    have short : partitionNameOffset + i * 2 < ptnEntrySize := by
      change 56 + i * 2 < 128
      omega
    have inside := entry_lt below (Nat.lt_of_lt_of_le short array.large)
    rw [← array.whole, ← Nat.add_assoc] at inside
    rw [List.getElem?_eq_getElem inside, Option.getD_some, Option.getD_some]
  rw [entryName, name8, EntryArray.name, ← stored]
  exact cstring_append_zeros _ 36

end EntryArray

theorem gptPentrySeek_eq_find (env : Env) (name : PartitionName) (array : EntryArray) :
    gptPentrySeek env name.chars array.bytes 0 array.size =
      (array.find (name.chars.take (nameLen name.chars))).map (· * array.size) := by
  have matches_iff {k : Nat} (below : k < array.count) :
      pentryMatches env name.chars array.bytes (k * array.size) = true ↔
        array.IsNamed (name.chars.take (nameLen name.chars)) k := by
    rw [pentryMatches_iff_take env name.nonzero, array.entryName_eq env below]
    rfl
  have search := @gptPentrySeek_cases env _ _ _ array.large array.whole name.chars 0
  rw [Nat.zero_mul] at search
  rcases search with ⟨k, found, -, below, hit, first⟩ | ⟨missed, none'⟩
  · have first' : ∀ l, l < k → ¬ array.IsNamed (name.chars.take (nameLen name.chars)) l := by
      intro l before named
      exact first l (Nat.zero_le l) before ((matches_iff (before.trans below)).mpr named)
    rw [found, array.find_eq_some below ((matches_iff below).mp hit) first', Option.map_some]
  · have absent : array.find (name.chars.take (nameLen name.chars)) = none := by
      rw [array.find_eq_none_iff]
      intro k below named
      exact none' k (Nat.zero_le k) below ((matches_iff below).mpr named)
    rw [missed, absent, Option.map_none]

/-! ### The index behind the compared characters -/

/-- The indices at which a search reads `name8[len]`. There is no result while its loop would still run. -/
def indexReads (env : Env) (ptnName pentries : Bytes) (size : Nat) : Nat → Nat → Option (List Nat)
  | 0, _ => none
  | fuel + 1, entry =>
    if entry + partitionNameOffset < pentries.length then
      let len := nameLen ptnName
      let here := if strncmpEq len ptnName (name8 env pentries entry) then [len] else []
      if pentryMatches env ptnName pentries entry then some here
      else (indexReads env ptnName pentries size fuel (entry + size)).map (here ++ ·)
    else some []

theorem nameLen_le_of_strncmpEq {env : Env} {ptnName pentries : Bytes} {entry : Nat} (nonzero : 0 ∉ ptnName)
    (begins : strncmpEq (nameLen ptnName) ptnName (name8 env pentries entry) = true) : nameLen ptnName ≤ 36 := by
  rw [strncmpEq_iff, cstring_eq_self nonzero] at begins
  -- a character behind the 36 of the buffer would equal its terminator
  have stops : (cstring (name8 env pentries entry)).length ≤ 36 := by
    rw [name8, cstring_append_zeros]
    apply (cstring_length_le _).trans
    rw [List.length_map, List.length_range]
    exact Nat.le_refl 36
  have within : nameLen ptnName ≤ ptnName.length := Nat.mod_le _ _
  have same := congrArg List.length begins
  rw [List.length_take, List.length_take, Nat.min_eq_left within] at same
  omega

theorem indexReads_le {env : Env} {ptnName pentries : Bytes} {size : Nat} (nonzero : 0 ∉ ptnName) (moves : 0 < size)
    {fuel start : Nat} (goes : 0 < fuel) (enough : pentries.length ≤ start + fuel) :
    ∃ reads, indexReads env ptnName pentries size fuel start = some reads ∧ ∀ i ∈ reads, i ≤ 36 := by
  induction fuel generalizing start with
  | zero => exact absurd goes (Nat.lt_irrefl 0)
  | succ fuel ih =>
    rw [indexReads]
    by_cases inside : start + partitionNameOffset < pentries.length
    · have here : ∀ i ∈ (if strncmpEq (nameLen ptnName) ptnName (name8 env pentries start) then [nameLen ptnName]
          else []), i ≤ 36 := by
        intro i read
        split at read
        · next begins =>
          rw [List.mem_singleton.mp read]
          exact nameLen_le_of_strncmpEq nonzero begins
        · cases read
      rw [if_pos inside]
      by_cases hit : pentryMatches env ptnName pentries start = true
      · exact ⟨_, if_pos hit, here⟩
      · have offset : partitionNameOffset = 56 := rfl
        obtain ⟨reads, read, all⟩ := @ih (start + size) (by omega) (by omega)
        refine ⟨_, (if_neg hit).trans (by rw [read, Option.map_some]), fun i member => ?_⟩
        rcases List.mem_append.mp member with first | later
        · exact here i first
        · exact all i later
    · rw [if_neg inside]
      exact ⟨[], rfl, List.forall_mem_nil _⟩

/-! ### Exact lookup -/

structure GptDisk.Holds (disk : GptDisk) (gpt : GptInstance) (array : EntryArray) : Prop where
  initialized : disk.isInitialized = gptDiskInitMagic
  size : disk.pentrySize = array.size
  length : disk.pentryArrSize = array.bytes.length
  bytes : array.bytes <+: disk.entryArray gpt

theorem gptDiskGetPentry_eq_seek {env : Env} {disk : GptDisk} {gpt : GptInstance} {array : EntryArray}
    (holds : disk.Holds gpt array) (partname : Bytes) :
    gptDiskGetPentry env (some disk) (some partname) gpt =
      (gptPentrySeek env partname array.bytes 0 array.size).map (EntryPtr.mk gpt) := by
  have read : peek env (disk.entryArray gpt) 0 disk.pentryArrSize = array.bytes := by
    rw [peek_of_le (by rw [Nat.zero_add, holds.length]; exact holds.bytes.length_le), slice, List.drop_zero,
      holds.length]
    exact (List.prefix_iff_eq_take.mp holds.bytes).symm
  simp only [gptDiskGetPentry, holds.initialized, ne_eq, not_true_eq_false, if_false, read, holds.size]

/-- The lookups of a name find the first entry that has it and no other, and stay inside the name buffer. -/
structure ExactLookup (env : Env) (name : PartitionName) (array : EntryArray) : Prop where
  seek : gptPentrySeek env name.chars array.bytes 0 array.size = (array.find name.chars).map (· * array.size)
  long : 36 < name.chars.length → gptPentrySeek env name.chars array.bytes 0 array.size = none
  index : ∃ reads, indexReads env name.chars array.bytes array.size (array.bytes.length + 1) 0 = some reads ∧
    ∀ i ∈ reads, i ≤ 36
  disk : ∀ (disk : GptDisk) (gpt : GptInstance), disk.Holds gpt array →
    gptDiskGetPentry env (some disk) (some name.chars) gpt =
      (array.find name.chars).map fun k => ⟨gpt, k * array.size⟩

theorem exactLookup_of_find_eq {env : Env} {name : PartitionName} {array : EntryArray}
    (same : array.find (name.chars.take (nameLen name.chars)) = array.find name.chars) :
    ExactLookup env name array := by
  have seek := gptPentrySeek_eq_find env name array
  rw [same] at seek
  refine ⟨seek, ?_, ?_, ?_⟩
  · intro long
    rw [seek, array.find_of_long long, Option.map_none]
  · have moves : 0 < array.size := Nat.lt_of_lt_of_le (by decide) array.large
    exact indexReads_le name.nonzero moves (Nat.succ_pos _) (by omega)
  · intro disk gpt holds
    rw [gptDiskGetPentry_eq_seek holds, seek, Option.map_map]
    rfl

/-- The lookup is exact for every name of less than 2 ^ 32 characters. A longer one must not find an entry with
the characters that are compared. -/
theorem exactLookup_iff (env : Env) (name : PartitionName) (array : EntryArray) :
    ExactLookup env name array ↔ name.chars.length < 2 ^ 32 ∨
      ∀ k, k < array.count → ¬ array.IsNamed (name.chars.take (name.chars.length % 2 ^ 32)) k := by
  by_cases short : name.chars.length < 2 ^ 32
  · have same : array.find (name.chars.take (nameLen name.chars)) = array.find name.chars := by
      rw [take_nameLen short]
    exact iff_of_true (exactLookup_of_find_eq same) (.inl short)
  · have long : 36 < name.chars.length := by omega
    rw [or_iff_right short]
    change _ ↔ ∀ k, k < array.count → ¬ array.IsNamed (name.chars.take (nameLen name.chars)) k
    rw [← array.find_eq_none_iff]
    constructor
    · intro lookup
      have found := gptPentrySeek_eq_find env name array
      rw [lookup.long long] at found
      exact Option.map_eq_none_iff.mp found.symm
    · intro missed
      exact exactLookup_of_find_eq (missed.trans (array.find_of_long long).symm)

def Sample.unnamed : EntryArray where
  bytes := List.replicate 128 0
  size := 128
  count := 1
  large := Nat.le_refl 128
  whole := List.length_replicate

def Sample.endless : PartitionName where
  chars := List.replicate (2 ^ 32) 97
  nonzero := by
    intro zero
    exact absurd (List.eq_of_mem_replicate zero) (by decide)

/-- Of that name no character is compared, so that it finds the entry without a name. -/
theorem endless_finds_unnamed : ¬ ExactLookup Sample.env Sample.endless Sample.unnamed := by
  intro lookup
  have length : Sample.endless.chars.length = 2 ^ 32 := List.length_replicate
  have none' := lookup.long (by rw [length]; decide)
  have seen : Sample.endless.chars.take (nameLen Sample.endless.chars) = [] := by
    rw [nameLen, length, Nat.mod_self, List.take_zero]
  have found : Sample.unnamed.find [] = some 0 := by decide
  rw [gptPentrySeek_eq_find, seen, found] at none'
  cases none'

end Pdx215.Gpt
