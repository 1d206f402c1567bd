import Mathlib.Logic.Basic

/-! Runs of a transition function, and conditions that are put on every step of a run. -/
namespace Runs

variable {State Input : Type} {step : State → Input → State} {ok ok' : State → Input → Prop}

/-- The condition holds at every step, in the state in which the step is taken. -/
def Along (step : State → Input → State) (ok : State → Input → Prop) : State → List Input → Prop
  | _, [] => True
  | x, i :: is => ok x i ∧ Along step ok (step x i) is

instance Along.decidable [∀ x i, Decidable (ok x i)] : (x : State) → (is : List Input) → Decidable (Along step ok x is)
  | _, [] => isTrue trivial
  | x, i :: is => @instDecidableAnd _ _ _ (Along.decidable (step x i) is)

/-- What every step that meets the condition keeps holds after every run whose steps all meet it. -/
theorem foldl_inv {inv : State → Prop} (keeps : ∀ x i, inv x → ok x i → inv (step x i)) {x : State} (now : inv x)
    {is : List Input} (along : Along step ok x is) : inv (is.foldl step x) := by
  induction is generalizing x with
  | nil => exact now
  | cons i is ih => exact ih (keeps x i now along.1) along.2

theorem Along.and {x : State} {is : List Input} (first : Along step ok x is) (second : Along step ok' x is) :
    Along step (fun x i => ok x i ∧ ok' x i) x is := by
  induction is generalizing x with
  | nil => trivial
  | cons i is ih => exact ⟨⟨first.1, second.1⟩, ih first.2 second.2⟩

/-- Where a bad step shows at once, every state of a run is good exactly if every step of it is. -/
theorem along_iff_forall_take {inv good : State → Prop} (fine : ∀ x, inv x → good x)
    (keeps : ∀ x i, inv x → ok x i → inv (step x i)) (shows : ∀ x i, inv x → ¬ ok x i → ¬ good (step x i)) {x : State}
    (now : inv x) (is : List Input) : Along step ok x is ↔ ∀ k, good ((is.take k).foldl step x) := by
  induction is generalizing x with
  | nil =>
    constructor
    · intro _ k
      rw [List.take_nil]
      exact fine x now
    · exact fun _ => trivial
  | cons i is ih =>
    constructor
    · intro along k
      cases k with
      | zero => exact fine x now
      | succ k => exact (ih (keeps x i now along.1)).mp along.2 k
    · intro all
      have first : ok x i := Classical.byContradiction fun bad => shows x i now bad (all 1)
      exact ⟨first, (ih (keeps x i now first)).mpr fun k => all (k + 1)⟩

end Runs
