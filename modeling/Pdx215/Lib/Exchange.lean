import Mathlib.GroupTheory.Perm.Support

/-! Positions that carry labels, and the exchange of the first two positions of each label. An exchange
does not change which label stands at a position, so the exchanges for different labels move different
positions and can be made in any order. -/
namespace Exchange

open Equiv

/-- The first two positions below `n` that carry the label. -/
structure FirstTwo {κ : Type} (n : Nat) (label : Nat → Option κ) (l : κ) (i j : Nat) : Prop where
  lt : i < j
  below : j < n
  first : label i = some l
  second : label j = some l
  least : ∀ k, k < n → label k = some l → k = i ∨ j ≤ k

variable {κ : Type} {n : Nat} {label : Nat → Option κ} {l l' : κ} {ls ls' : List κ} {i j i' j' k : Nat}

theorem FirstTwo.unique (pair : FirstTwo n label l i j) (pair' : FirstTwo n label l i' j') : i = i' ∧ j = j' := by
  have := pair.lt
  have := pair.below
  have := pair'.lt
  have := pair'.below
  have := pair.least i' (by omega) pair'.first
  have := pair.least j' (by omega) pair'.second
  have := pair'.least i (by omega) pair.first
  have := pair'.least j (by omega) pair.second
  omega

open Classical in
/-- The exchange for one label; it moves nothing when fewer than two positions carry it. -/
noncomputable def turn (n : Nat) (label : Nat → Option κ) (l : κ) : Perm Nat :=
  if h : ∃ i j, FirstTwo n label l i j then swap h.choose h.choose_spec.choose else 1

theorem turn_eq_swap (pair : FirstTwo n label l i j) : turn n label l = swap i j := by
  have h : ∃ i j, FirstTwo n label l i j := ⟨i, j, pair⟩
  rw [turn, dif_pos h]
  obtain ⟨rfl, rfl⟩ := pair.unique h.choose_spec.choose_spec
  rfl

theorem turn_eq_one (none : ¬ ∃ i j, FirstTwo n label l i j) : turn n label l = 1 := dif_neg none

theorem turn_apply_ne (moved : turn n label l k ≠ k) :
    ∃ i j, FirstTwo n label l i j ∧ (k = i ∨ k = j) := by
  by_cases h : ∃ i j, FirstTwo n label l i j
  · obtain ⟨i, j, pair⟩ := h
    rw [turn_eq_swap pair] at moved
    refine ⟨i, j, pair, ?_⟩
    by_contra apart
    rw [not_or] at apart
    exact moved (swap_apply_of_ne_of_ne apart.1 apart.2)
  · rw [turn_eq_one h] at moved
    exact absurd rfl moved

theorem label_of_turn_ne (moved : turn n label l k ≠ k) : label k = some l := by
  obtain ⟨i, j, pair, rfl | rfl⟩ := turn_apply_ne moved
  · exact pair.first
  · exact pair.second

theorem turn_lt (below : k < n) : turn n label l k < n := by
  by_cases moved : turn n label l k = k
  · rwa [moved]
  · obtain ⟨i, j, pair, rfl | rfl⟩ := turn_apply_ne moved
    · rw [turn_eq_swap pair, swap_apply_left]
      exact pair.below
    · rw [turn_eq_swap pair, swap_apply_right]
      exact pair.lt.trans pair.below

theorem turn_mul_self : turn n label l * turn n label l = 1 := by
  by_cases h : ∃ i j, FirstTwo n label l i j
  · obtain ⟨i, j, pair⟩ := h
    rw [turn_eq_swap pair, swap_mul_self]
  · rw [turn_eq_one h, one_mul]

/-- What stands at a position is moved to one with the same label. -/
theorem label_turn : label (turn n label l k) = label k := by
  by_cases moved : turn n label l k = k
  · rw [moved]
  · have back : turn n label l (turn n label l k) = k := by
      rw [← Perm.mul_apply, turn_mul_self, Perm.one_apply]
    rw [label_of_turn_ne moved]
    exact label_of_turn_ne (fun same => moved (by rw [same] at back; exact back))

theorem turn_disjoint (ne : l ≠ l') : Perm.Disjoint (turn n label l) (turn n label l') := by
  intro k
  by_contra both
  rw [not_or] at both
  have same := (label_of_turn_ne both.1).symm.trans (label_of_turn_ne both.2)
  exact ne (Option.some.inj same)

noncomputable def turns (n : Nat) (label : Nat → Option κ) (ls : List κ) : Perm Nat :=
  (ls.map (turn n label)).prod

theorem turns_cons : turns n label (l :: ls) = turn n label l * turns n label ls := List.prod_cons

theorem turns_pairwise (nodup : ls.Nodup) : (ls.map (turn n label)).Pairwise Perm.Disjoint :=
  List.pairwise_map.mpr (nodup.imp turn_disjoint)

theorem turns_perm (nodup : ls.Nodup) (perm : ls.Perm ls') : turns n label ls = turns n label ls' :=
  Perm.disjoint_prod_perm (turns_pairwise nodup) (perm.map _)

theorem turn_disjoint_turns (new : l ∉ ls) : Perm.Disjoint (turn n label l) (turns n label ls) := by
  apply Perm.disjoint_prod_right
  intro g member
  obtain ⟨l', here, rfl⟩ := List.mem_map.mp member
  exact turn_disjoint (fun same => new (same ▸ here))

theorem turns_lt (below : k < n) : turns n label ls k < n := by
  induction ls with
  | nil => exact below
  | cons l ls ih =>
    rw [turns_cons, Perm.mul_apply]
    exact turn_lt ih

theorem label_turns : label (turns n label ls k) = label k := by
  induction ls with
  | nil => rfl
  | cons l ls ih =>
    rw [turns_cons, Perm.mul_apply]
    exact label_turn.trans ih

theorem turns_mul_self (nodup : ls.Nodup) : turns n label ls * turns n label ls = 1 := by
  induction ls with
  | nil => rfl
  | cons l ls ih =>
    obtain ⟨new, nodup⟩ := List.nodup_cons.mp nodup
    have commute : Commute (turn n label l) (turns n label ls) := (turn_disjoint_turns new).commute
    rw [turns_cons, ← mul_assoc, mul_assoc (turn n label l), ← commute.eq, ← mul_assoc, turn_mul_self, one_mul,
      ih nodup]

/-- Where one of the labels has something to exchange, the others do not interfere. -/
theorem turns_apply_of_mem (nodup : ls.Nodup) (member : l ∈ ls) (moved : turn n label l k ≠ k) :
    turns n label ls k = turn n label l k := by
  induction ls with
  | nil => cases member
  | cons head ls ih =>
    obtain ⟨new, nodup⟩ := List.nodup_cons.mp nodup
    rw [turns_cons, Perm.mul_apply]
    rcases List.mem_cons.mp member with rfl | member
    · rw [(turn_disjoint_turns new k).resolve_left moved]
    · have ne : head ≠ l := fun same => new (same ▸ member)
      rw [ih nodup member]
      exact (turn_disjoint ne _).resolve_right (fun fixed => moved ((turn n label l).injective fixed))

theorem turns_of_pair (nodup : ls.Nodup) (member : l ∈ ls) (pair : FirstTwo n label l i j) :
    turns n label ls i = j ∧ turns n label ls j = i := by
  have swapped := turn_eq_swap pair
  have left : turn n label l i = j := by rw [swapped, swap_apply_left]
  have right : turn n label l j = i := by rw [swapped, swap_apply_right]
  constructor
  · rw [turns_apply_of_mem nodup member (left ▸ pair.lt.ne'), left]
  · rw [turns_apply_of_mem nodup member (right ▸ pair.lt.ne), right]

theorem turns_of_not_pair (outside : ∀ l ∈ ls, ∀ i j, FirstTwo n label l i j → k ≠ i ∧ k ≠ j) :
    turns n label ls k = k := by
  induction ls with
  | nil => rfl
  | cons l ls ih =>
    rw [turns_cons, Perm.mul_apply, ih (fun l' member => outside l' (List.mem_cons_of_mem l member))]
    by_contra moved
    obtain ⟨i, j, pair, here⟩ := turn_apply_ne moved
    have apart := outside l List.mem_cons_self i j pair
    exact here.elim apart.1 apart.2

end Exchange
