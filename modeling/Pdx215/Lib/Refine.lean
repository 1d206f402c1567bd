import Pdx215.Lib.Effect

/-! A device that is built on top of another one. It has the same requests and more in its world; seen from above, each
of its reactions is one that the abstract device has as well. -/
namespace Effect

variable {Op : Type} {Rep : Op → Type} {Out Out' World World' α : Type}

/-- The outcome above is a function of what happens below. -/
structure Refines (low : (op : Op) → Out → World → Rep op × World) (high : (op : Op) → Out' → World' → Rep op × World')
    (view : World → World') where
  outcome : Op → Out → World → Out'
  step : ∀ op o w, high op (outcome op o w) (view w) = ((low op o w).1, view (low op o w).2)

/-- Outcomes before the first request that is made do not matter. -/
theorem exec_congr {react : (op : Op) → Out → World → Rep op × World} {io io' : Nat → Out} {n : Nat}
    (same : ∀ m, n ≤ m → io m = io' m) (p : Prog Op Rep α) (w : World) :
    exec react io p n w = exec react io' p n w := by
  induction p generalizing n w with
  | ret a => rfl
  | call op next ih =>
    have later : ∀ m, n + 1 ≤ m → io m = io' m := fun m after => same m (Nat.le_of_succ_le after)
    rw [exec, exec, same n (Nat.le_refl n), ih _ later]

/-- Every run below is a run above. -/
theorem Refines.exec [Nonempty Out'] {low : (op : Op) → Out → World → Rep op × World}
    {high : (op : Op) → Out' → World' → Rep op × World'} {view : World → World'} (refines : Refines low high view)
    (io : Nat → Out) (p : Prog Op Rep α) (n : Nat) (w : World) :
    ∃ io', Effect.exec high io' p n (view w) = ((Effect.exec low io p n w).1, view (Effect.exec low io p n w).2) := by
  induction p generalizing n w with
  | ret a =>
    obtain ⟨o⟩ := ‹Nonempty Out'›
    exact ⟨fun _ => o, rfl⟩
  | call op next ih =>
    obtain ⟨io', later⟩ := ih (low op (io n) w).1 (n + 1) (low op (io n) w).2
    -- the outcome of this request in front of the later ones
    let joined (m : Nat) : Out' := if m = n then refines.outcome op (io n) w else io' m
    have here : joined n = refines.outcome op (io n) w := if_pos rfl
    have behind : ∀ m, n + 1 ≤ m → joined m = io' m := fun m after => if_neg (Nat.ne_of_gt after)
    refine ⟨joined, ?_⟩
    rw [Effect.exec, here, refines.step, exec_congr behind]
    exact later

end Effect
