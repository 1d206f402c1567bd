import Pdx215.Gpt.Mounted
import Pdx215.Gpt.Names

/-! The offsets in the entry array that `gpt_pentry_seek` and `gpt_boot_chain_swap` read and write. The
count and the size of the entries come from the header and are not checked against the offsets of the
name or the 128 bytes that are exchanged. -/
namespace Pdx215.Gpt
open Region

def nameReads (entry : Nat) : List Nat :=
  (List.range (maxGptNameSize / 2)).map fun i => entry + partitionNameOffset + i * 2

/-- What a search reads. There is no result while its loop would still run. -/
def seekReads (env : Env) (ptnName pentries : Bytes) (size : Nat) : Nat → Nat → Option (List Nat)
  | 0, _ => none
  | fuel + 1, entry =>
    if entry + partitionNameOffset < pentries.length then
      if pentryMatches env ptnName pentries entry then some (nameReads entry)
      else (seekReads env ptnName pentries size fuel (entry + size)).map (nameReads entry ++ ·)
    else some []

/-- The bytes of an entry that the three calls of `memcpy` read and write. -/
def entryBytes (entry : Nat) : List Nat := (List.range ptnEntrySize).map (entry + ·)

def nameAccesses (env : Env) (size : Nat) (pentries name : Bytes) : Option (List Nat) :=
  if swapSkipped env name then some []
  else (seekReads env name pentries size (pentries.length + 1) 0).bind fun first =>
    match gptPentrySeek env name pentries 0 size with
    | none => some first
    | some entry =>
      (seekReads env name pentries size (pentries.length + 1) (entry + size)).bind fun second =>
        match gptPentrySeek env name pentries (entry + size) size with
        | none => some (first ++ second)
        | some bakEntry => some (first ++ second ++ entryBytes entry ++ entryBytes bakEntry)

def namesAccesses (env : Env) (size : Nat) : List Bytes → Bytes × Int → Option (List Nat)
  | [], _ => some []
  | name :: names, st => (nameAccesses env size st.1 name).bind fun now =>
      (namesAccesses env size names (swapName env size st name)).map (now ++ ·)

def swapAccesses (env : Env) (pentries : Bytes) (size : Nat) : Option (List Nat) :=
  namesAccesses env size ptnSwapList (pentries, 1)

def Below (bound : Nat) (accesses : Option (List Nat)) : Prop :=
  ∃ offsets, accesses = some offsets ∧ ∀ x ∈ offsets, x < bound

/-! ### The last entry -/

/-- The last multiple of the entry size at which a name would begin inside the array. -/
def lastEntry (size length : Nat) : Nat := (length - (partitionNameOffset + 1)) / size * size

/-- That entry lies inside the array with its 128 bytes. If it is the only one it is never exchanged, and
only its name has to. -/
def LastEntryFits (size length : Nat) : Prop :=
  length ≤ partitionNameOffset ∨ lastEntry size length + ptnEntrySize ≤ length ∨
    (lastEntry size length = 0 ∧ length + 1 = ptnEntrySize)

section LastEntry

variable {size length : Nat}

theorem le_lastEntry (moves : 0 < size) {m : Nat} (inside : m * size + partitionNameOffset < length) :
    m * size ≤ lastEntry size length := by
  apply Nat.mul_le_mul_right
  rw [Nat.le_div_iff_mul_le moves]
  omega

theorem lastEntry_inside (long : partitionNameOffset < length) :
    lastEntry size length + partitionNameOffset < length := by
  have := Nat.div_mul_le_self (length - (partitionNameOffset + 1)) size
  rw [lastEntry]
  omega

theorem lt_lastEntry_add (moves : 0 < size) (long : partitionNameOffset < length) :
    length ≤ lastEntry size length + size + partitionNameOffset := by
  have := Nat.lt_div_mul_add (a := length - (partitionNameOffset + 1)) moves
  rw [lastEntry]
  omega

end LastEntry

theorem mem_nameReads {entry x : Nat} (read : x ∈ nameReads entry) : x < entry + 127 := by
  obtain ⟨i, member, rfl⟩ := List.mem_map.mp read
  have : i < 36 := List.mem_range.mp member
  simp only [partitionNameOffset]
  omega

theorem mem_entryBytes {entry x : Nat} (used : x ∈ entryBytes entry) : x < entry + ptnEntrySize := by
  obtain ⟨i, member, rfl⟩ := List.mem_map.mp used
  have := List.mem_range.mp member
  omega

/-! ### Where the last entry fits -/

section Fits

variable {env : Env} {size : Nat} {pentries name : Bytes}

theorem seekReads_spec {fuel start : Nat} (moves : 0 < size) (goes : 0 < fuel)
    (enough : pentries.length ≤ start + fuel) :
    ∃ reads, seekReads env name pentries size fuel start = some reads ∧ ∀ x ∈ reads,
      ∃ m, start + m * size + partitionNameOffset < pentries.length ∧ x ∈ nameReads (start + m * size) := by
  induction fuel generalizing start with
  | zero => exact absurd goes (Nat.lt_irrefl 0)
  | succ fuel ih =>
    rw [seekReads]
    by_cases inside : start + partitionNameOffset < pentries.length
    · have here : ∀ x ∈ nameReads start, ∃ m, start + m * size + partitionNameOffset < pentries.length ∧
          x ∈ nameReads (start + m * size) := by
        intro x read
        refine ⟨0, ?_⟩
        rw [Nat.zero_mul, Nat.add_zero]
        exact ⟨inside, read⟩
      rw [if_pos inside]
      by_cases hit : pentryMatches env name pentries start = true
      · rw [if_pos hit]
        exact ⟨_, rfl, here⟩
      · have offset : partitionNameOffset = 56 := rfl
        have rest := @ih (start + size) (by omega) (by omega)
        obtain ⟨reads, read, all⟩ := rest
        rw [if_neg hit, read]
        refine ⟨_, rfl, fun x member => ?_⟩
        rcases List.mem_append.mp member with first | later
        · exact here x first
        · obtain ⟨m, within, reads⟩ := all x later
          have shift : start + (m + 1) * size = start + size + m * size := by
            rw [Nat.succ_mul]
            omega
          exact ⟨m + 1, by rw [shift]; exact within, by rw [shift]; exact reads⟩
    · rw [if_neg inside]
      exact ⟨[], rfl, fun x member => absurd member List.not_mem_nil⟩

theorem LastEntryFits.name_below {length m x : Nat} (fits : LastEntryFits size length) (moves : 0 < size)
    (inside : m * size + partitionNameOffset < length) (read : x ∈ nameReads (m * size)) : x < length := by
  have last := le_lastEntry moves inside
  have bound := mem_nameReads read
  have entry : ptnEntrySize = 128 := rfl
  rcases fits with short | room | ⟨only, nearly⟩ <;> omega

theorem LastEntryFits.entry_below {length m x : Nat} (fits : LastEntryFits size length) (moves : 0 < size)
    (inside : m * size + partitionNameOffset < length) (other : 0 < m) (used : x < m * size + ptnEntrySize) :
    x < length := by
  have last := le_lastEntry moves inside
  have positive : 0 < m * size := Nat.mul_pos other moves
  rcases fits with short | room | ⟨only, nearly⟩ <;> omega

theorem seekReads_below (moves : 0 < size) (fits : LastEntryFits size pentries.length) (k : Nat) :
    Below pentries.length (seekReads env name pentries size (pentries.length + 1) (k * size)) := by
  have read := @seekReads_spec env size pentries name (pentries.length + 1) (k * size) moves (Nat.succ_pos _)
    (by omega)
  simp only [← Nat.add_mul] at read
  obtain ⟨reads, read, all⟩ := read
  refine ⟨reads, read, fun x member => ?_⟩
  obtain ⟨m, inside, here⟩ := all x member
  exact fits.name_below moves inside here

theorem nameAccesses_below (moves : partitionNameOffset < pentries.length → 0 < size)
    (fits : LastEntryFits size pentries.length) : Below pentries.length (nameAccesses env size pentries name) := by
  rw [nameAccesses]
  split
  · exact ⟨[], rfl, fun x member => absurd member List.not_mem_nil⟩
  · by_cases long : partitionNameOffset < pentries.length
    · have moves := moves long
      have first := @seekReads_below env size pentries name moves fits 0
      have search := @pentrySeekLoop_spec env name pentries size (pentries.length + 1) 0 moves (by omega)
      simp only [Nat.zero_add] at search
      rw [Nat.zero_mul] at first
      obtain ⟨reads, read, below⟩ := first
      rw [read, Option.bind_some, gptPentrySeek]
      rcases search with ⟨i, found, -⟩ | ⟨missed, -⟩
      · have next (l : Nat) : i * size + size + l * size = (i + 1 + l) * size := by
          rw [Nat.add_mul, Nat.succ_mul]
        have second := @seekReads_below env size pentries name moves fits (i + 1)
        have search := @pentrySeekLoop_spec env name pentries size (pentries.length + 1) (i * size + size) moves
          (by omega)
        simp only [next] at search
        rw [Nat.succ_mul] at second
        obtain ⟨reads', read', below'⟩ := second
        simp only [found, read', Option.bind_some, gptPentrySeek]
        rcases search with ⟨m, found', inside, -⟩ | ⟨missed, -⟩
        · rw [found']
          refine ⟨_, rfl, fun x member => ?_⟩
          have before : i * size ≤ (i + 1 + m) * size := Nat.mul_le_mul_right size (by omega)
          simp only [List.mem_append] at member
          rcases member with ((one | two) | own) | bak
          · exact below x one
          · exact below' x two
          · exact fits.entry_below moves inside (by omega) (Nat.lt_of_lt_of_le (mem_entryBytes own) (by omega))
          · exact fits.entry_below moves inside (by omega) (mem_entryBytes bak)
        · rw [missed]
          refine ⟨_, rfl, fun x member => ?_⟩
          rcases List.mem_append.mp member with one | two
          · exact below x one
          · exact below' x two
      · rw [missed]
        exact ⟨_, rfl, below⟩
    · have outside : ¬ 0 + partitionNameOffset < pentries.length := by omega
      simp only [seekReads, if_neg outside, gptPentrySeek, pentrySeekLoop, Option.bind_some]
      exact ⟨[], rfl, fun x member => absurd member List.not_mem_nil⟩

theorem namesAccesses_below {length : Nat} (moves : partitionNameOffset < length → 0 < size)
    (fits : LastEntryFits size length) (names : List Bytes) (st : Bytes × Int) (same : st.1.length = length) :
    Below length (namesAccesses env size names st) := by
  induction names generalizing st with
  | nil => exact ⟨[], rfl, fun x member => absurd member List.not_mem_nil⟩
  | cons name names ih =>
    subst same
    obtain ⟨now, accessed, below⟩ := @nameAccesses_below env size st.1 name moves fits
    obtain ⟨later, accessed', below'⟩ := ih (swapName env size st name) (swapName_length env size st name)
    rw [namesAccesses, accessed, Option.bind_some, accessed']
    refine ⟨now ++ later, rfl, fun x member => ?_⟩
    rcases List.mem_append.mp member with here | there
    · exact below x here
    · exact below' x there

end Fits

/-! ### Where it does not fit -/

def ptnTz : Bytes := cstr "tz"

section Overflow

variable {env : Env} {size : Nat} {pentries name : Bytes}

/-- The accesses for a name that are made when the names before it have changed nothing. -/
theorem nameAccesses_of_namesAccesses {bound : Nat} {before after : List Bytes} {r : Int}
    (unchanged : ∀ p ∈ before, swapName env size (pentries, r) p = (pentries, r))
    (below : Below bound (namesAccesses env size (before ++ name :: after) (pentries, r))) :
    Below bound (nameAccesses env size pentries name) := by
  induction before with
  | nil =>
    obtain ⟨offsets, accessed, all⟩ := below
    obtain ⟨now, here, rest⟩ := Option.bind_eq_some_iff.mp accessed
    obtain ⟨later, -, rfl⟩ := Option.map_eq_some_iff.mp rest
    exact ⟨now, here, fun x member => all x (List.mem_append_left _ member)⟩
  | cons p before ih =>
    apply ih fun q member => unchanged q (List.mem_cons_of_mem p member)
    obtain ⟨offsets, accessed, all⟩ := below
    obtain ⟨now, here, rest⟩ := Option.bind_eq_some_iff.mp accessed
    obtain ⟨later, there, rfl⟩ := Option.map_eq_some_iff.mp rest
    rw [unchanged p List.mem_cons_self] at there
    exact ⟨later, there, fun x member => all x (List.mem_append_right _ member)⟩

def AtMostTz (env : Env) (size : Nat) (pentries : Bytes) : Prop :=
  ∀ m, m * size + partitionNameOffset < pentries.length →
    entryName env pentries (m * size) = [] ∨ entryName env pentries (m * size) = ptnTz

theorem swapName_of_atMostTz (moves : 0 < size) (plain : AtMostTz env size pentries) (r : Int) :
    ∀ p ∈ ptnSwapList.take 6, swapName env size (pentries, r) p = (pentries, r) := by
  have other : ∀ p ∈ ptnSwapList.take 6, 0 ∉ p ∧ p.length < 2 ^ 32 ∧ p ≠ [] ∧ p ≠ ptnTz ∧ p ++ bakPtnNameExt ≠ [] ∧
      p ++ bakPtnNameExt ≠ ptnTz := by decide +kernel
  intro p member
  obtain ⟨nonzero, short, empty, tz, empty', tz'⟩ := other p member
  have search := @pentrySeekLoop_spec env p pentries size (pentries.length + 1) 0 moves (by omega)
  simp only [Nat.zero_add] at search
  rcases search with ⟨m, -, inside, hit, -⟩ | ⟨missed, -⟩
  · rw [pentryMatches_iff env nonzero short] at hit
    rcases plain m inside with same | same <;> rw [same] at hit <;>
      rcases hit with hit | hit <;> simp_all
  · simp [swapName, gptPentrySeek, missed]

theorem swapSkipped_tz (env : Env) : swapSkipped env ptnTz = false := by
  have kept : (strncmpEq ptnXbl.length ptnTz ptnXbl || strncmpEq ptnMultiimgoem.length ptnTz ptnMultiimgoem ||
    strncmpEq ptnMultiimgqti.length ptnTz ptnMultiimgqti) = false := rfl
  rw [swapSkipped, kept, Bool.and_false]

theorem nameAccesses_tz_below {bound : Nat} (moves : 0 < size) (plain : AtMostTz env size pentries)
    (below : Below bound (swapAccesses env pentries size)) : Below bound (nameAccesses env size pentries ptnTz) := by
  have split : ptnSwapList = ptnSwapList.take 6 ++ ptnTz :: ptnSwapList.drop 7 := rfl
  rw [swapAccesses, split] at below
  exact nameAccesses_of_namesAccesses (swapName_of_atMostTz moves plain 1) below

theorem nameReads_subset {fuel start : Nat} {reads : List Nat}
    (missed : ∀ m, start + m * size + partitionNameOffset < pentries.length →
      pentryMatches env name pentries (start + m * size) ≠ true)
    (read : seekReads env name pentries size fuel start = some reads) {m : Nat}
    (inside : start + m * size + partitionNameOffset < pentries.length) : nameReads (start + m * size) ⊆ reads := by
  induction m generalizing fuel start reads with
  | zero =>
    have first := missed 0
    rw [Nat.zero_mul, Nat.add_zero] at first inside ⊢
    cases fuel with
    | zero => cases read
    | succ fuel =>
      rw [seekReads, if_pos inside, if_neg (first inside)] at read
      obtain ⟨later, -, rfl⟩ := Option.map_eq_some_iff.mp read
      exact List.subset_append_left _ _
  | succ m ih =>
    have shift (l : Nat) : start + (l + 1) * size = start + size + l * size := by
      rw [Nat.succ_mul]
      omega
    have first := missed 0
    rw [Nat.zero_mul, Nat.add_zero] at first
    have here : start + partitionNameOffset < pentries.length := by omega
    rw [shift] at inside ⊢
    cases fuel with
    | zero => cases read
    | succ fuel =>
      rw [seekReads, if_pos here, if_neg (first here)] at read
      obtain ⟨later, rest, rfl⟩ := Option.map_eq_some_iff.mp read
      have missed' : ∀ l, start + size + l * size + partitionNameOffset < pentries.length →
          pentryMatches env name pentries (start + size + l * size) ≠ true := by
        intro l
        rw [← shift]
        exact missed (l + 1)
      exact List.Subset.trans (ih missed' rest inside) (List.subset_append_right _ _)

theorem entryName_unnamed {entry : Nat} (zero : pentries[entry + partitionNameOffset]? = some 0) :
    entryName env pentries entry = [] := by
  have lead : (name8 env pentries entry)[0]? = some 0 := by
    simp [name8, zero, maxGptNameSize]
  rw [entryName, cstring_eq_nil_iff, lead, Option.getD_some]

theorem entryName_tz {entry : Nat} (t : pentries[entry + partitionNameOffset]? = some 116)
    (z : pentries[entry + partitionNameOffset + 2]? = some 122)
    (zero : pentries[entry + partitionNameOffset + 4]? = some 0) : entryName env pentries entry = ptnTz := by
  have lead : (name8 env pentries entry).take 3 = [116, 122, 0] := by
    rw [name8, List.take_append_of_le_length (by simp [maxGptNameSize]), ← List.map_take]
    change [0, 1, 2].map _ = _
    simp [t, z, zero]
  rw [entryName, ← List.take_append_drop 3 (name8 env pentries entry), lead]
  change cstring (116 :: 122 :: 0 :: _) = _
  rw [cstring_cons, cstring_cons, cstring_cons]
  rfl

theorem lastEntry_read (moves : 0 < size) (unnamed : ∀ x, x < pentries.length → pentries[x]? = some 0)
    (long : partitionNameOffset < pentries.length) (below : Below pentries.length (swapAccesses env pentries size)) :
    lastEntry size pentries.length + 126 < pentries.length := by
  have nameless {m : Nat} (inside : m * size + partitionNameOffset < pentries.length) :
      entryName env pentries (m * size) = [] := entryName_unnamed (unnamed _ inside)
  have missed : ∀ m, m * size + partitionNameOffset < pentries.length →
      pentryMatches env ptnTz pentries (m * size) ≠ true := by
    intro m inside hit
    rw [pentryMatches_iff env (by decide) (by decide), nameless inside] at hit
    exact absurd hit (by decide)
  have tz := nameAccesses_tz_below moves (fun m inside => .inl (nameless inside)) below
  have search := @pentrySeekLoop_spec env ptnTz pentries size (pentries.length + 1) 0 moves (by omega)
  simp only [Nat.zero_add] at search
  rcases search with ⟨m, -, inside, hit, -⟩ | ⟨none', -⟩
  · exact absurd hit (missed m inside)
  · obtain ⟨reads, accessed, all⟩ := tz
    simp only [nameAccesses, swapSkipped_tz, gptPentrySeek, none', Bool.false_eq_true, if_false] at accessed
    obtain ⟨first, read, same⟩ := Option.bind_eq_some_iff.mp accessed
    obtain rfl : first = reads := Option.some.inj same
    have inside : 0 + (pentries.length - (partitionNameOffset + 1)) / size * size + partitionNameOffset <
        pentries.length := by
      rw [Nat.zero_add]
      exact lastEntry_inside long
    have last : lastEntry size pentries.length + 126 ∈ nameReads (lastEntry size pentries.length) :=
      List.mem_map.mpr ⟨35, by decide, by simp only [partitionNameOffset]⟩
    have subset := nameReads_subset (by simpa only [Nat.zero_add] using missed) read inside
    rw [Nat.zero_add] at subset
    exact all _ (subset last)

theorem lastEntry_exchanged (moves : 0 < size) {q : Nat}
    (last : (q + 1) * size + partitionNameOffset < pentries.length)
    (unnamed : ∀ m, m * size + partitionNameOffset < pentries.length → m ≠ q → m ≠ q + 1 →
      entryName env pentries (m * size) = [])
    (first : entryName env pentries (q * size) = ptnTz) (second : entryName env pentries ((q + 1) * size) = ptnTz)
    (below : Below pentries.length (swapAccesses env pentries size)) :
    (q + 1) * size + ptnEntrySize ≤ pentries.length := by
  have hits {m : Nat} (inside : m * size + partitionNameOffset < pentries.length) :
      pentryMatches env ptnTz pentries (m * size) = true ↔ m = q ∨ m = q + 1 := by
    rw [pentryMatches_iff env (by decide) (by decide)]
    constructor
    · intro named
      by_contra other
      rw [not_or] at other
      rw [unnamed m inside other.1 other.2] at named
      exact absurd named (by decide)
    · rintro (rfl | rfl)
      · exact .inl first
      · exact .inl second
  have before : q * size + size = (q + 1) * size := (Nat.succ_mul q size).symm
  have plain : AtMostTz env size pentries := by
    intro m inside
    by_cases here : m = q ∨ m = q + 1
    · rcases here with rfl | rfl
      · exact .inr first
      · exact .inr second
    · rw [not_or] at here
      exact .inl (unnamed m inside here.1 here.2)
  have seekFirst : gptPentrySeek env ptnTz pentries 0 size = some (q * size) := by
    have search := @pentrySeekLoop_spec env ptnTz pentries size (pentries.length + 1) 0 moves (by omega)
    simp only [Nat.zero_add] at search
    rcases search with ⟨m, found, inside, hit, least⟩ | ⟨-, none'⟩
    · rcases (hits inside).mp hit with rfl | rfl
      · exact found
      · exact absurd ((hits (by omega)).mpr (.inl rfl)) (least q (Nat.lt_succ_self q))
    · exact absurd ((hits (by omega)).mpr (.inl rfl)) (none' q (by omega))
  have seekSecond : gptPentrySeek env ptnTz pentries (q * size + size) size = some ((q + 1) * size) := by
    have search := @pentrySeekLoop_spec env ptnTz pentries size (pentries.length + 1) ((q + 1) * size) moves
        (by omega)
    rw [before]
    have hit := (hits last).mpr (.inr rfl)
    rcases search with ⟨m, found, -, -, least⟩ | ⟨-, none'⟩
    · cases m with
      | zero => simpa [gptPentrySeek] using found
      | succ m => exact absurd (by simpa using hit) (least 0 (Nat.succ_pos m))
    · exact absurd (by simpa using hit) (none' 0 (by simpa using last))
  obtain ⟨offsets, accessed, all⟩ := nameAccesses_tz_below moves plain below
  simp only [nameAccesses, swapSkipped_tz, seekFirst, seekSecond, Bool.false_eq_true, if_false] at accessed
  obtain ⟨reads, -, rest⟩ := Option.bind_eq_some_iff.mp accessed
  obtain ⟨reads', -, same⟩ := Option.bind_eq_some_iff.mp rest
  obtain rfl := Option.some.inj same
  have used : (q + 1) * size + 127 ∈ entryBytes ((q + 1) * size) := List.mem_map.mpr ⟨127, by decide, rfl⟩
  exact all _ (List.mem_append_right _ used)

end Overflow

def tzArray (length first second : Nat) : Bytes :=
  (List.range length).map fun x =>
    if x = first + partitionNameOffset ∨ x = second + partitionNameOffset then 116
    else if x = first + partitionNameOffset + 2 ∨ x = second + partitionNameOffset + 2 then 122 else 0

theorem length_tzArray (length first second : Nat) : (tzArray length first second).length = length := by
  rw [tzArray, List.length_map, List.length_range]

theorem getElem?_tzArray {length first second x : Nat} (inside : x < length) :
    (tzArray length first second)[x]? = some
      (if x = first + partitionNameOffset ∨ x = second + partitionNameOffset then 116
        else if x = first + partitionNameOffset + 2 ∨ x = second + partitionNameOffset + 2 then 122 else 0) := by
  rw [tzArray, List.getElem?_map, List.getElem?_range inside, Option.map_some]

theorem multiples_apart {m q : Nat} (size : Nat) (other : m ≠ q) :
    m * size + size ≤ q * size ∨ q * size + size ≤ m * size := by
  rw [← Nat.succ_mul, ← Nat.succ_mul]
  rcases Nat.lt_or_gt_of_ne other with before | after
  · exact .inl (Nat.mul_le_mul_right size before)
  · exact .inr (Nat.mul_le_mul_right size after)

/-- If no contents of the array lead an access out of it, its last entry fits. -/
theorem lastEntryFits_of_below {env : Env} {size length : Nat} (moves : partitionNameOffset < length → 0 < size)
    (inside : ∀ pentries : Bytes, pentries.length = length → Below length (swapAccesses env pentries size)) :
    LastEntryFits size length := by
  have offset : partitionNameOffset = 56 := rfl
  have entry : ptnEntrySize = 128 := rfl
  by_cases long : partitionNameOffset < length
  · have moves := moves long
    have zeros : (List.replicate length (0 : UInt8)).length = length := List.length_replicate
    have read : lastEntry size length + 126 < length := by
      have below := inside (List.replicate length 0) zeros
      have unnamed : ∀ x, x < (List.replicate length (0 : UInt8)).length →
          (List.replicate length (0 : UInt8))[x]? = some 0 := by
        intro x within
        rw [List.getElem?_replicate, if_pos (by omega)]
      have read := @lastEntry_read env size (List.replicate length 0) moves unnamed
      rw [zeros] at read
      exact read long below
    have next := lt_lastEntry_add moves long
    by_contra short
    simp only [LastEntryFits, not_or, not_and] at short
    obtain ⟨-, cut, several⟩ := short
    -- the name of the last entry ends with the array, and there is an entry before it
    have exactly : length = lastEntry size length + 127 := by omega
    obtain ⟨q, last⟩ : ∃ q, lastEntry size length = (q + 1) * size := by
      cases quotient : (length - (partitionNameOffset + 1)) / size with
      | zero =>
        have only : lastEntry size length = 0 := by rw [lastEntry, quotient, Nat.zero_mul]
        have nearly : length + 1 = ptnEntrySize := by omega
        exact absurd nearly (several only)
      | succ q => exact ⟨q, by rw [lastEntry, quotient]⟩
    have step : (q + 1) * size = q * size + size := Nat.succ_mul q size
    have size' := length_tzArray length (q * size) ((q + 1) * size)
    have exchanged := @lastEntry_exchanged env size (tzArray length (q * size) ((q + 1) * size)) moves q
    rw [size'] at exchanged
    have past := exchanged (by omega) ?_ ?_ ?_ (inside _ size')
    · omega
    · intro m within notFirst notSecond
      have apartFirst := multiples_apart size notFirst
      have apartSecond := multiples_apart size notSecond
      apply entryName_unnamed
      rw [getElem?_tzArray within, if_neg (by omega), if_neg (by omega)]
    · apply entryName_tz
      · rw [getElem?_tzArray (by omega), if_pos (by omega)]
      · rw [getElem?_tzArray (by omega), if_neg (by omega), if_pos (by omega)]
      · rw [getElem?_tzArray (by omega), if_neg (by omega), if_neg (by omega)]
    · apply entryName_tz
      · rw [getElem?_tzArray (by omega), if_pos (by omega)]
      · rw [getElem?_tzArray (by omega), if_neg (by omega), if_pos (by omega)]
      · rw [getElem?_tzArray (by omega), if_neg (by omega), if_neg (by omega)]
  · exact .inl (Nat.le_of_not_lt long)

/-- A header with the given fields that is accepted for the array. -/
theorem exists_header (env : Env) (count size : UInt32) (pentries : Bytes) :
    ∃ h : Bytes, h.length = env.blkSize ∧ headerState env h = .ok ∧ partitionCount h = count.toNat ∧
      pentrySize h = size.toNat ∧ partitionCrc h = (env.crc32 pentries).toNat := by
  have block := env.blk_large
  have zeros : (List.replicate env.blkSize (0 : UInt8)).length = env.blkSize := List.length_replicate
  let bare := put4Bytes (put4Bytes (List.replicate env.blkSize 0) partitionCountOffset count.toNat) pentrySizeOffset
    size.toNat
  have length : bare.length = env.blkSize := by rw [length_put4Bytes, length_put4Bytes, zeros]
  have same : SameLayout (withState env .ok (withArray env pentries bare)) bare :=
    (sameLayout_withState env .ok _).trans (sameLayout_withArray env pentries bare)
  refine ⟨withState env .ok (withArray env pentries bare), ?_, ?_, ?_, ?_, ?_⟩
  · rw [length_withState, length_withArray, length]
  · exact headerState_withState_ok env (by rw [length_withArray, length]; omega)
  · rw [same.count, partitionCount, get4Bytes_put4Bytes_apart (by decide)]
    exact get4Bytes_put4Bytes (by rw [zeros, partitionCountOffset]; omega) count.toNat_lt
  · rw [same.entry, pentrySize]
    exact get4Bytes_put4Bytes (by rw [length_put4Bytes, zeros, pentrySizeOffset]; omega) size.toNat_lt
  · rw [partitionCrc_withState, partitionCrc_withArray env pentries (by rw [length]; omega)]

/-- For the count and the size of a header, every access to every array that it accepts is inside the
array, and every search ends, exactly if the last entry fits. -/
theorem entry_accesses_inside_iff (env : Env) (count size : UInt32) :
    (∀ h pentries : Bytes, h.length = env.blkSize → headerState env h = .ok → partitionCount h = count.toNat →
      pentrySize h = size.toNat → pentries.length = pentriesArraySize h →
      partitionCrc h = (env.crc32 pentries).toNat →
      ∃ offsets, swapAccesses env pentries (pentrySize h) = some offsets ∧ ∀ x ∈ offsets, x < pentriesArraySize h) ↔
    LastEntryFits size.toNat (count.toNat * size.toNat % 2 ^ 32) := by
  have moves : partitionNameOffset < count.toNat * size.toNat % 2 ^ 32 → 0 < size.toNat := by
    intro long
    apply Nat.pos_of_ne_zero
    intro zero
    rw [zero, Nat.mul_zero] at long
    exact absurd long (by decide)
  constructor
  · intro inside
    apply lastEntryFits_of_below moves
    intro pentries length
    obtain ⟨h, block, ok, counts, sizes, crc⟩ := exists_header env count size pentries
    have array : pentriesArraySize h = count.toNat * size.toNat % 2 ^ 32 := by
      rw [pentriesArraySize, counts, sizes]
    have below := inside h pentries block ok counts sizes (length.trans array.symm) crc
    rwa [array, sizes] at below
  · intro fits h pentries _ _ counts sizes length _
    have array : pentriesArraySize h = count.toNat * size.toNat % 2 ^ 32 := by
      rw [pentriesArraySize, counts, sizes]
    rw [array, sizes]
    exact namesAccesses_below moves fits ptnSwapList (pentries, 1) (length.trans array)

def Sample.small : Bytes :=
  withState env .ok (withArray env (List.replicate 128 0)
    (put4Bytes (put4Bytes (put4Bytes (List.replicate 512 0) headerSizeOffset 92) partitionCountOffset 2)
      pentrySizeOffset 64))

/-- The name of the second entry begins eight bytes before the end of the array. -/
theorem entry_accesses_leave_array :
    headerState Sample.env Sample.small = .ok ∧ pentriesArraySize Sample.small = 128 ∧
      partitionCrc Sample.small = (Sample.env.crc32 (List.replicate 128 0)).toNat ∧
      (swapAccesses Sample.env (List.replicate 128 0) (pentrySize Sample.small)).any
        (fun offsets => 190 ∈ offsets) := by
  decide +kernel

end Pdx215.Gpt
