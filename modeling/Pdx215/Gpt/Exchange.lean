import Pdx215.Gpt.Mounted
import Pdx215.Gpt.Names
import Pdx215.Lib.Exchange

/-! `gpt_boot_chain_swap` on an array of whole entries. The names move with the bytes that are
exchanged, and an entry matches at most one name of the list; so the turns of its loop are the
exchanges of the first two positions of each label. -/
namespace Pdx215.Gpt
open Region Exchange

/-! ### Entries -/

section Entries

variable {count size : Nat} {a : Bytes}

theorem entry_lt {k o : Nat} (below : k < count) (within : o < size) : k * size + o < count * size := by
  have := Nat.mul_le_mul_right size (Nat.succ_le_of_lt below)
  rw [Nat.succ_mul] at this
  omega

/-- No byte of an entry lies among the first bytes of another one. -/
theorem entry_apart {i k o : Nat} (large : ptnEntrySize ≤ size) (other : k ≠ i) (within : o < size) :
    ¬ (i * size ≤ k * size + o ∧ k * size + o < i * size + ptnEntrySize) := by
  rcases Nat.lt_or_gt_of_ne other with before | after
  · have := entry_lt before within
    omega
  · have := Nat.mul_le_mul_right size (Nat.succ_le_of_lt after)
    rw [Nat.succ_mul] at this
    omega

theorem entries_ext {b : Bytes} (positive : 0 < size) (whole : a.length = count * size)
    (whole' : b.length = count * size)
    (same : ∀ k o, k < count → o < size → a[k * size + o]? = b[k * size + o]?) : a = b := by
  apply List.ext_getElem?
  intro x
  by_cases inside : x < count * size
  · have position := Nat.div_add_mod' x size
    rw [← position]
    exact same _ _ (Nat.div_lt_of_lt_mul (by rwa [Nat.mul_comm])) (Nat.mod_lt x positive)
  · rw [List.getElem?_eq_none (by omega), List.getElem?_eq_none (by omega)]

/-- The array whose entries have the first 128 bytes of the entries that `π` names. -/
def rearrange (size : Nat) (a : Bytes) (π : Nat → Nat) : Bytes :=
  (List.range a.length).map fun x =>
    if x % size < ptnEntrySize then a[π (x / size) * size + x % size]?.getD 0 else a[x]?.getD 0

theorem length_rearrange (π : Nat → Nat) : (rearrange size a π).length = a.length := by
  rw [rearrange, List.length_map, List.length_range]

variable {π σ : Nat → Nat}

theorem getElem?_rearrange (whole : a.length = count * size) (stays : ∀ k, k < count → π k < count) {k o : Nat}
    (below : k < count) (within : o < size) :
    (rearrange size a π)[k * size + o]? =
      if o < ptnEntrySize then a[π k * size + o]? else a[k * size + o]? := by
  have inside : k * size + o < a.length := whole ▸ entry_lt below within
  have target : π k * size + o < a.length := whole ▸ entry_lt (stays k below) within
  have quotient : (k * size + o) / size = k := by
    rw [Nat.mul_comm, Nat.mul_add_div (by omega), Nat.div_eq_of_lt within, Nat.add_zero]
  have remainder : (k * size + o) % size = o := by
    rw [Nat.mul_comm, Nat.mul_add_mod, Nat.mod_eq_of_lt within]
  rw [rearrange, List.getElem?_map, List.getElem?_range inside, Option.map_some, quotient, remainder]
  split
  · rw [List.getElem?_eq_getElem target, Option.getD_some]
  · rw [List.getElem?_eq_getElem inside, Option.getD_some]

theorem rearrange_rearrange (positive : 0 < size) (whole : a.length = count * size)
    (stays : ∀ k, k < count → π k < count) (stays' : ∀ k, k < count → σ k < count) :
    rearrange size (rearrange size a π) σ = rearrange size a (π ∘ σ) := by
  have whole' : (rearrange size a π).length = count * size := (length_rearrange π).trans whole
  have both : ∀ k, k < count → (π ∘ σ) k < count := fun k below => stays _ (stays' k below)
  apply entries_ext positive ((length_rearrange σ).trans whole') ((length_rearrange _).trans whole)
  intro k o below within
  rw [getElem?_rearrange whole' stays' below within,
    getElem?_rearrange whole both below within, getElem?_rearrange whole stays (stays' k below) within,
    getElem?_rearrange whole stays below within]
  split
  · rfl
  · rfl

theorem rearrange_id (positive : 0 < size) (whole : a.length = count * size) : rearrange size a id = a := by
  apply entries_ext positive ((length_rearrange _).trans whole) whole
  intro k o below within
  have stays : ∀ k, k < count → id k < count := fun k below => below
  rw [getElem?_rearrange whole stays below within, id, ite_self]

theorem swapEntries_eq (env : Env) (large : ptnEntrySize ≤ size) (whole : a.length = count * size) {i j : Nat}
    (lt : i < j) (below : j < count) :
    swapEntries env a (i * size) (j * size) = rearrange size a (Equiv.swap i j) := by
  have positive : 0 < size := Nat.lt_of_lt_of_le (by decide) large
  have fits {k : Nat} (below : k < count) : k * size + ptnEntrySize ≤ a.length := by
    have := entry_lt below (Nat.sub_one_lt_of_le positive (Nat.le_refl size))
    omega
  have stays : ∀ k, k < count → Equiv.swap i j k < count := by
    intro k here
    rw [Equiv.swap_apply_def]
    split_ifs <;> omega
  have lengthI := length_slice (fits (lt.trans below))
  have lengthJ := length_slice (fits below)
  simp only [swapEntries, peek_of_le (fits (lt.trans below)), peek_of_le (fits below)]
  apply entries_ext positive (by rw [length_splice, length_splice, whole]) ((length_rearrange _).trans whole)
  intro k o here within
  rw [getElem?_rearrange whole stays here within, getElem?_splice, getElem?_splice, length_splice, lengthI, lengthJ,
    getElem?_slice, getElem?_slice]
  have inside := entry_lt here within
  by_cases atJ : k = j
  · subst atJ
    have apart := entry_apart large lt.ne' within
    rw [Equiv.swap_apply_right]
    by_cases lead : o < ptnEntrySize
    · rw [if_pos (by omega), if_pos (by omega), if_pos lead]
      congr 1
      omega
    · rw [if_neg (by omega), if_neg (by omega), if_neg lead]
  · have apartJ := entry_apart large atJ within
    rw [if_neg (by omega)]
    by_cases atI : k = i
    · subst atI
      rw [Equiv.swap_apply_left]
      by_cases lead : o < ptnEntrySize
      · rw [if_pos (by omega), if_pos (by omega), if_pos lead]
        congr 1
        omega
      · rw [if_neg (by omega), if_neg lead]
    · have apartI := entry_apart large atI within
      rw [if_neg (by omega), Equiv.swap_apply_of_ne_of_ne atI atJ, ite_self]

/-- The name lies in the bytes that are moved. -/
theorem name8_rearrange (env : Env) (large : ptnEntrySize ≤ size) (whole : a.length = count * size)
    (stays : ∀ k, k < count → π k < count) {k : Nat} (below : k < count) :
    name8 env (rearrange size a π) (k * size) = name8 env a (π k * size) := by
  simp only [name8]
  congr 1
  apply List.map_congr_left
  intro i member
  have short : partitionNameOffset + i * 2 < ptnEntrySize := by
    have : i < 36 := List.mem_range.mp member
    change 56 + i * 2 < 128
    omega
  have target := entry_lt (stays k below) (Nat.lt_of_lt_of_le short large)
  rw [Nat.add_assoc, Nat.add_assoc, getElem?_rearrange whole stays below (by omega), if_pos short,
    List.getElem?_eq_getElem (by omega)]
  rfl

end Entries

/-! ### Labels -/

theorem ptnSwapList_nodup : ptnSwapList.Nodup := by decide +kernel

theorem ptnSwapList_nonzero : ∀ p ∈ ptnSwapList, 0 ∉ p := by decide +kernel

theorem ptnSwapList_short : ∀ p ∈ ptnSwapList, p.length < 2 ^ 32 := by decide +kernel

theorem ptnSwapList_no_backup : ∀ p ∈ ptnSwapList, ¬ bakPtnNameExt <:+ p := by decide +kernel

def Named (env : Env) (a : Bytes) (size : Nat) (p : Bytes) (k : Nat) : Prop :=
  entryName env a (k * size) = p ∨ entryName env a (k * size) = p ++ bakPtnNameExt

theorem named_unique {env : Env} {a : Bytes} {size k : Nat} {p q : Bytes} (listed : p ∈ ptnSwapList)
    (listed' : q ∈ ptnSwapList) (named : Named env a size p k) (named' : Named env a size q k) : p = q := by
  have backup : ∀ {p q : Bytes}, q ∈ ptnSwapList → q ≠ p ++ bakPtnNameExt := by
    rintro p q listed rfl
    exact ptnSwapList_no_backup _ listed (List.suffix_append _ _)
  rcases named with same | same <;> rcases named' with same' | same' <;> rw [same] at same'
  · exact same'
  · exact absurd same' (backup listed)
  · exact absurd same'.symm (backup listed')
  · exact List.append_cancel_right same'

def label (env : Env) (count size : Nat) (a : Bytes) (k : Nat) : Option Bytes :=
  if k < count then ptnSwapList.find? fun p => pentryMatches env p a (k * size) else none

section Label

variable {env : Env} {count size : Nat} {a : Bytes}

theorem label_eq_some_iff {k : Nat} {p : Bytes} (below : k < count) :
    label env count size a k = some p ↔ p ∈ ptnSwapList ∧ Named env a size p k := by
  have matches_iff : ∀ q ∈ ptnSwapList, (pentryMatches env q a (k * size) = true ↔ Named env a size q k) :=
    fun q listed =>
      pentryMatches_iff env (ptnSwapList_nonzero q listed) (ptnSwapList_short q listed) a (k * size)
  rw [label, if_pos below]
  constructor
  · intro found
    have listed := List.mem_of_find?_eq_some found
    have here := List.find?_some found
    exact ⟨listed, (matches_iff p listed).mp here⟩
  · rintro ⟨listed, named⟩
    cases found : ptnSwapList.find? fun p => pentryMatches env p a (k * size) with
    | none => exact absurd ((matches_iff p listed).mpr named) (List.find?_eq_none.mp found p listed)
    | some q =>
      have listed' := List.mem_of_find?_eq_some found
      have here := List.find?_some found
      rw [named_unique listed' listed ((matches_iff q listed').mp here) named]

theorem label_rearrange (large : ptnEntrySize ≤ size) (whole : a.length = count * size) {π : Nat → Nat}
    (stays : ∀ k, k < count → π k < count) (same : ∀ k, label env count size a (π k) = label env count size a k) :
    label env count size (rearrange size a π) = label env count size a := by
  funext k
  by_cases below : k < count
  · rw [← same k, label, label, if_pos below, if_pos (stays k below)]
    simp only [pentryMatches, name8_rearrange env large whole stays below]
  · rw [label, label, if_neg below, if_neg below]

end Label

/-! ### The loops -/

section Loops

variable {env : Env} {count size : Nat} {a : Bytes} {p : Bytes}

/-- From an entry on, the search ends at the first match or behind the last entry. -/
theorem gptPentrySeek_cases (large : ptnEntrySize ≤ size) (whole : a.length = count * size) (p : Bytes) (s : Nat) :
    (∃ k, gptPentrySeek env p a (s * size) size = some (k * size) ∧ s ≤ k ∧ k < count ∧
      pentryMatches env p a (k * size) = true ∧
      ∀ l, s ≤ l → l < k → pentryMatches env p a (l * size) ≠ true) ∨
    (gptPentrySeek env p a (s * size) size = none ∧
      ∀ l, s ≤ l → l < count → pentryMatches env p a (l * size) ≠ true) := by
  have name : partitionNameOffset < ptnEntrySize := by decide
  have inside_iff {l : Nat} : l * size + partitionNameOffset < a.length ↔ l < count := by
    rw [whole]
    constructor
    · intro inside
      by_contra outside
      have := Nat.mul_le_mul_right size (Nat.le_of_not_lt outside)
      omega
    · intro below
      exact entry_lt below (Nat.lt_of_lt_of_le name large)
  have search := @pentrySeekLoop_spec env p a size (a.length + 1) (s * size)
    (Nat.lt_of_lt_of_le (by decide) large) (by omega)
  simp only [← Nat.add_mul, inside_iff] at search
  rcases search with ⟨m, found, below, hits, first⟩ | ⟨missed, none'⟩
  · refine .inl ⟨s + m, found, Nat.le_add_right s m, below, hits, fun l from' before => ?_⟩
    have earlier := first (l - s) (by omega)
    rwa [Nat.add_sub_cancel' from'] at earlier
  · refine .inr ⟨missed, fun l from' below => ?_⟩
    have later := none' (l - s)
    rw [Nat.add_sub_cancel' from'] at later
    exact later below

variable (large : ptnEntrySize ≤ size) (whole : a.length = count * size)
include large whole

/-- A turn of the loop over the names finds the first two entries with the name. -/
theorem swapName_cases (listed : p ∈ ptnSwapList) (kept : swapSkipped env p = false) (r : Int) :
    (∃ i j, FirstTwo count (label env count size a) p i j ∧
      swapName env size (a, r) p = (swapEntries env a (i * size) (j * size), 0)) ∨
    ((¬ ∃ i j, FirstTwo count (label env count size a) p i j) ∧ swapName env size (a, r) p = (a, r)) := by
  have hits {k : Nat} (below : k < count) :
      label env count size a k = some p ↔ pentryMatches env p a (k * size) = true := by
    rw [label_eq_some_iff below, pentryMatches_iff env (ptnSwapList_nonzero p listed) (ptnSwapList_short p listed)]
    exact and_iff_right listed
  simp only [swapName, kept]
  have search := @gptPentrySeek_cases env _ _ _ large whole p 0
  rw [Nat.zero_mul] at search
  rcases search with ⟨i, found, -, belowI, hitI, firstI⟩ | ⟨missed, noneI⟩
  · have search := @gptPentrySeek_cases env _ _ _ large whole p (i + 1)
    rw [Nat.succ_mul] at search
    rcases search with ⟨j, foundJ, after, belowJ, hitJ, firstJ⟩ | ⟨missedJ, noneJ⟩
    · refine .inl ⟨i, j, ⟨after, belowJ, (hits belowI).mpr hitI, (hits belowJ).mpr hitJ, ?_⟩, ?_⟩
      · intro k below here
        rw [hits below] at here
        have := firstI k (Nat.zero_le k)
        have := firstJ k
        by_contra other
        grind
      · simp [found, foundJ]
    · refine .inr ⟨?_, by simp [found, missedJ]⟩
      rintro ⟨i', j', pair⟩
      have := firstI i' (Nat.zero_le i')
      have := noneJ j'
      have := (hits (pair.lt.trans pair.below)).mp pair.first
      have := (hits pair.below).mp pair.second
      have := pair.lt
      have := pair.below
      grind
  · refine .inr ⟨?_, by simp [missed]⟩
    rintro ⟨i, j, pair⟩
    exact noneI j (Nat.zero_le j) pair.below ((hits pair.below).mp pair.second)

open Classical in
theorem swapName_eq (listed : p ∈ ptnSwapList) (kept : swapSkipped env p = false) (r : Int) :
    swapName env size (a, r) p = (rearrange size a (turn count (label env count size a) p),
      if ∃ i j, FirstTwo count (label env count size a) p i j then 0 else r) := by
  rcases swapName_cases large whole listed kept r with ⟨i, j, pair, swapped⟩ | ⟨alone, same⟩
  · rw [swapped, swapEntries_eq env large whole pair.lt pair.below, turn_eq_swap pair, if_pos ⟨i, j, pair⟩]
  · have positive : 0 < size := Nat.lt_of_lt_of_le (by decide) large
    rw [same, turn_eq_one alone, if_neg alone]
    exact congrArg (·, r) (rearrange_id positive whole).symm

omit large whole in
def keptNames (env : Env) (names : List Bytes) : List Bytes := names.filter fun name => !swapSkipped env name

open Classical in
/-- The whole loop is one rearrangement: the labels stay what they are while it runs. -/
theorem swapName_fold {names : List Bytes} (listed : ∀ p ∈ names, p ∈ ptnSwapList) (r : Int) :
    names.foldl (swapName env size) (a, r) =
      (rearrange size a (turns count (label env count size a) (keptNames env names)),
        if ∃ p ∈ keptNames env names, ∃ i j, FirstTwo count (label env count size a) p i j then 0 else r) := by
  have positive : 0 < size := Nat.lt_of_lt_of_le (by decide) large
  induction names generalizing a r with
  | nil =>
    have none' : ¬ ∃ p ∈ keptNames env [], ∃ i j, FirstTwo count (label env count size a) p i j := by
      rintro ⟨p, member, -⟩
      cases member
    rw [if_neg none']
    exact congrArg (·, r) (rearrange_id positive whole).symm
  | cons p names ih =>
    have listed' : ∀ q ∈ names, q ∈ ptnSwapList := fun q member => listed q (List.mem_cons_of_mem p member)
    by_cases kept : swapSkipped env p = false
    · have stays : ∀ k, k < count → turn count (label env count size a) p k < count := fun k => turn_lt
      have same := label_rearrange large whole stays fun k => label_turn
      have keptCons : keptNames env (p :: names) = p :: keptNames env names := by simp [keptNames, kept]
      rw [List.foldl_cons, swapName_eq large whole (listed p List.mem_cons_self) kept,
        ih ((length_rearrange _).trans whole) listed', same, rearrange_rearrange positive whole stays fun k => turns_lt,
        keptCons, turns_cons]
      refine Prod.ext rfl ?_
      simp only [List.exists_mem_cons_iff]
      by_cases head : ∃ i j, FirstTwo count (label env count size a) p i j
      · rw [if_pos head, ite_self, if_pos (.inl head)]
      · rw [if_neg head]
        simp only [head, false_or]
    · have skips : swapName env size (a, r) p = (a, r) := by simp [swapName, kept]
      have keptCons : keptNames env (p :: names) = keptNames env names := by simp [keptNames, kept]
      rw [List.foldl_cons, skips, ih whole listed', keptCons]

end Loops

/-- The first two of the entries named `p` or as its backup, for a name that is not skipped. -/
structure SwapPair (env : Env) (count size : Nat) (a p : Bytes) (i j : Nat) : Prop where
  listed : p ∈ ptnSwapList
  kept : swapSkipped env p = false
  lt : i < j
  below : j < count
  first : Named env a size p i
  second : Named env a size p j
  least : ∀ k, k < count → Named env a size p k → k = i ∨ j ≤ k

/-- In `b` the leading bytes of each pair of `a` have changed places, and nothing else has. -/
structure Exchanged (env : Env) (count size : Nat) (a b : Bytes) : Prop where
  length : b.length = a.length
  pairs : ∀ p i j, SwapPair env count size a p i j → ∀ o, o < ptnEntrySize →
    b[i * size + o]? = a[j * size + o]? ∧ b[j * size + o]? = a[i * size + o]?
  elsewhere : ∀ x, (∀ p i j, SwapPair env count size a p i j →
    ¬ Inside x (i * size) ptnEntrySize ∧ ¬ Inside x (j * size) ptnEntrySize) → b[x]? = a[x]?

section Swap

variable {env : Env} {count size : Nat} {a p : Bytes} {i j : Nat}

theorem swapPair_iff : SwapPair env count size a p i j ↔
    p ∈ keptNames env ptnSwapList ∧ FirstTwo count (label env count size a) p i j := by
  have hits {k : Nat} (below : k < count) (listed : p ∈ ptnSwapList) :
      label env count size a k = some p ↔ Named env a size p k := by
    rw [label_eq_some_iff below]
    exact and_iff_right listed
  simp only [keptNames, List.mem_filter, Bool.not_eq_true']
  constructor
  · rintro ⟨listed, kept, lt, below, first, second, least⟩
    refine ⟨⟨listed, kept⟩, lt, below, (hits (lt.trans below) listed).mpr first, (hits below listed).mpr second, ?_⟩
    intro k here labelled
    exact least k here ((hits here listed).mp labelled)
  · rintro ⟨⟨listed, kept⟩, lt, below, first, second, least⟩
    refine ⟨listed, kept, lt, below, (hits (lt.trans below) listed).mp first, (hits below listed).mp second, ?_⟩
    intro k here named
    exact least k here ((hits here listed).mpr named)

theorem keptNames_nodup {names : List Bytes} (nodup : names.Nodup) : (keptNames env names).Nodup := nodup.filter _

variable (large : ptnEntrySize ≤ size) (whole : a.length = count * size)
include large whole

open Classical in
theorem gptBootChainSwap_eq : gptBootChainSwap env a size =
    (rearrange size a (turns count (label env count size a) (keptNames env ptnSwapList)),
      if ∃ p ∈ keptNames env ptnSwapList, ∃ i j, FirstTwo count (label env count size a) p i j then 0 else 1) := by
  rw [gptBootChainSwap]
  exact swapName_fold large whole (fun _ listed => listed) 1

open Classical in
theorem swapName_fold_perm {names : List Bytes} (perm : names.Perm ptnSwapList) :
    names.foldl (swapName env size) (a, 1) = gptBootChainSwap env a size := by
  have kept : (keptNames env names).Perm (keptNames env ptnSwapList) := perm.filter _
  have nodup : (keptNames env names).Nodup := keptNames_nodup (perm.nodup_iff.mpr ptnSwapList_nodup)
  rw [gptBootChainSwap_eq large whole, swapName_fold large whole fun p member => perm.mem_iff.mp member,
    turns_perm nodup kept]
  exact Prod.ext rfl (if_congr (exists_congr fun p => and_congr_left' kept.mem_iff) rfl rfl)

theorem gptBootChainSwap_of_pair (pair : SwapPair env count size a p i j) {o : Nat} (lead : o < ptnEntrySize) :
    (gptBootChainSwap env a size).1[i * size + o]? = a[j * size + o]? ∧
      (gptBootChainSwap env a size).1[j * size + o]? = a[i * size + o]? := by
  obtain ⟨kept, two⟩ := swapPair_iff.mp pair
  have moved := turns_of_pair (keptNames_nodup ptnSwapList_nodup) kept two
  have within : o < size := Nat.lt_of_lt_of_le lead large
  rw [gptBootChainSwap_eq large whole, getElem?_rearrange whole (fun k => turns_lt) (two.lt.trans two.below) within,
    getElem?_rearrange whole (fun k => turns_lt) two.below within, if_pos lead, if_pos lead, moved.1, moved.2]
  exact ⟨rfl, rfl⟩

theorem gptBootChainSwap_elsewhere {x : Nat} (outside : ∀ p i j, SwapPair env count size a p i j →
      ¬ Inside x (i * size) ptnEntrySize ∧ ¬ Inside x (j * size) ptnEntrySize) :
    (gptBootChainSwap env a size).1[x]? = a[x]? := by
  have positive : 0 < size := Nat.lt_of_lt_of_le (by decide) large
  by_cases inside : x < count * size
  · have position := Nat.div_add_mod' x size
    have within := Nat.mod_lt x positive
    rw [gptBootChainSwap_eq large whole, ← position,
      getElem?_rearrange whole (fun k => turns_lt) (Nat.div_lt_of_lt_mul (by rwa [Nat.mul_comm])) within]
    split
    · rename_i lead
      rw [turns_of_not_pair]
      intro p kept i j two
      have apart := outside p i j (swapPair_iff.mpr ⟨kept, two⟩)
      simp only [Inside] at apart
      constructor
      · rintro rfl
        omega
      · rintro rfl
        omega
    · rfl
  · rw [List.getElem?_eq_none (by rw [gptBootChainSwap_length]; omega), List.getElem?_eq_none (by omega)]

theorem gptBootChainSwap_twice : (gptBootChainSwap env (gptBootChainSwap env a size).1 size).1 = a := by
  have positive : 0 < size := Nat.lt_of_lt_of_le (by decide) large
  have stays : ∀ k, k < count → turns count (label env count size a) (keptNames env ptnSwapList) k < count :=
    fun k => turns_lt
  have nodup : (keptNames env ptnSwapList).Nodup := keptNames_nodup ptnSwapList_nodup
  have whole' : (gptBootChainSwap env a size).1.length = count * size := (gptBootChainSwap_length ..).trans whole
  rw [gptBootChainSwap_eq large whole', gptBootChainSwap_eq large whole]
  change rearrange size (rearrange size a _) _ = a
  rw [label_rearrange large whole stays fun k => label_turns, rearrange_rearrange positive whole stays stays,
    ← Equiv.Perm.coe_mul, turns_mul_self nodup]
  exact rearrange_id positive whole

theorem gptBootChainSwap_zero_iff :
    (gptBootChainSwap env a size).2 = 0 ↔ ∃ p i j, SwapPair env count size a p i j := by
  have swapped : (∃ p i j, SwapPair env count size a p i j) ↔
      ∃ p ∈ keptNames env ptnSwapList, ∃ i j, FirstTwo count (label env count size a) p i j := by
    simp only [swapPair_iff, exists_and_left]
  rw [gptBootChainSwap_eq large whole, swapped]
  dsimp only
  split
  · rename_i some
    exact iff_of_true rfl some
  · rename_i none'
    exact iff_of_false (by decide) none'

theorem gptBootChainSwap_exchanged : Exchanged env count size a (gptBootChainSwap env a size).1 where
  length := gptBootChainSwap_length env a size
  pairs _ _ _ pair _ lead := gptBootChainSwap_of_pair large whole pair lead
  elsewhere _ outside := gptBootChainSwap_elsewhere large whole outside

omit large whole in
/-- The loop over the names is a parallel exchange: for every name that is kept and stands at two
entries at least, the first 128 bytes of the first two are exchanged, and nothing else changes. -/
theorem gptBootChainSwap_parallel (env : Env) (count size : Nat) (a : Bytes) (large : ptnEntrySize ≤ size)
    (whole : a.length = count * size) :
    (gptBootChainSwap env a size).1.length = a.length ∧
    (∀ p i j, SwapPair env count size a p i j → ∀ o, o < ptnEntrySize →
      (gptBootChainSwap env a size).1[i * size + o]? = a[j * size + o]? ∧
      (gptBootChainSwap env a size).1[j * size + o]? = a[i * size + o]?) ∧
    (∀ x, (∀ p i j, SwapPair env count size a p i j →
        ¬ Inside x (i * size) ptnEntrySize ∧ ¬ Inside x (j * size) ptnEntrySize) →
      (gptBootChainSwap env a size).1[x]? = a[x]?) ∧
    (∀ names : List Bytes, names.Perm ptnSwapList →
      names.foldl (swapName env size) (a, 1) = gptBootChainSwap env a size) ∧
    (gptBootChainSwap env (gptBootChainSwap env a size).1 size).1 = a ∧
    ((gptBootChainSwap env a size).2 = 0 ↔ ∃ p i j, SwapPair env count size a p i j) := by
  refine ⟨gptBootChainSwap_length env a size, fun p i j pair o lead => gptBootChainSwap_of_pair large whole pair lead,
    fun x outside => gptBootChainSwap_elsewhere large whole outside,
    fun names perm => swapName_fold_perm large whole perm, gptBootChainSwap_twice large whole,
    gptBootChainSwap_zero_iff large whole⟩

end Swap

def Sample.three : Bytes := entry 1 "abl" ++ entry 3 "tz" ++ entry 2 "ablbak"

theorem gptBootChainSwap_parallel_abl :
    Sample.three.length = 3 * 128 ∧ (gptBootChainSwap Sample.env Sample.three 128).2 = 0 := by
  have whole : Sample.three.length = 3 * 128 := by decide +kernel
  have pair : SwapPair Sample.env 3 128 Sample.three (cstr "abl") 0 2 := by
    refine ⟨by decide +kernel, by decide +kernel, by decide, by decide, .inl (by decide +kernel),
      .inr (by decide +kernel), ?_⟩
    have tz : entryName Sample.env Sample.three (1 * 128) = cstr "tz" := by decide +kernel
    intro k below named
    obtain rfl | rfl | rfl : k = 0 ∨ k = 1 ∨ k = 2 := by omega
    · exact .inl rfl
    · rw [Named, tz] at named
      exact absurd named (by decide +kernel)
    · exact .inr (Nat.le_refl 2)
  obtain ⟨-, -, -, -, -, returns⟩ := gptBootChainSwap_parallel Sample.env 3 128 Sample.three (by decide) whole
  exact ⟨whole, returns.mpr ⟨cstr "abl", 0, 2, pair⟩⟩

end Pdx215.Gpt
