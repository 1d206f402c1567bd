import Mathlib.Data.List.Basic
import Mathlib.Logic.Function.Basic

/-! Filing the elements of a list one at a time under their keys. An element without a key is left out. -/
namespace Grouping

variable {α κ : Type}

/-- What is filed under a key when more elements come behind. No key is created for none. -/
def extended (old : Option (List α)) (more : List α) : Option (List α) :=
  if more = [] then old else some (old.getD [] ++ more)

@[simp] theorem extended_nil (old : Option (List α)) : extended old [] = old := if_pos rfl

theorem extended_append (old : Option (List α)) (first second : List α) :
    extended (extended old first) second = extended old (first ++ second) := by
  cases second with
  | nil => simp
  | cons y second =>
    cases first with
    | nil => simp
    | cons x first => simp [extended]

theorem extended_inj {old : Option (List α)} {first second : List α}
    (same : extended old first = extended old second) : first = second := by
  have behind (more : List α) : (extended old more).getD [] = old.getD [] ++ more := by
    by_cases none' : more = []
    · simp [none']
    · simp [extended, none']
  have same' := congrArg (·.getD []) same
  simpa only [behind, List.append_cancel_left_eq] using same'

variable [DecidableEq κ]

def members (key : α → Option κ) (k : κ) (xs : List α) : List α := xs.filter fun x => key x = some k

theorem mem_members {key : α → Option κ} {k : κ} {xs : List α} {x : α} :
    x ∈ members key k xs ↔ x ∈ xs ∧ key x = some k := by
  simp [members]

theorem members_congr {key key' : α → Option κ} {xs : List α} (same : ∀ x ∈ xs, key x = key' x) (k : κ) :
    members key k xs = members key' k xs := by
  apply List.filter_congr
  intro x member
  rw [same x member]

def file (key : α → Option κ) (groups : κ → Option (List α)) (x : α) : κ → Option (List α) :=
  match key x with
  | none => groups
  | some k => Function.update groups k (some ((groups k).getD [] ++ [x]))

theorem file_apply (key : α → Option κ) (groups : κ → Option (List α)) (x : α) (k : κ) :
    file key groups x k = extended (groups k) (members key k [x]) := by
  cases keyed : key x with
  | none => simp [file, members, keyed]
  | some k' =>
    by_cases here : k' = k
    · subst here
      simp [file, members, keyed, extended]
    · simp [file, members, keyed, here, Function.update_of_ne (Ne.symm here)]

/-- Filing a whole list puts the elements of each key behind what was there. -/
theorem foldl_file (key : α → Option κ) (xs : List α) (groups : κ → Option (List α)) (k : κ) :
    xs.foldl (file key) groups k = extended (groups k) (members key k xs) := by
  induction xs generalizing groups with
  | nil => rw [members, List.filter_nil, extended_nil, List.foldl_nil]
  | cons x xs ih =>
    rw [List.foldl_cons, ih, file_apply, extended_append, members, members, members, ← List.filter_append,
      List.singleton_append]

end Grouping
