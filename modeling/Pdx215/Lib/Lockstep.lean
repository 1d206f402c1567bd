import Pdx215.Lib.Effect

/-! Two runs of one program from different worlds. They are in lockstep if each reply that they get makes the program
go on in the same way. Then they have the same answer, and end in worlds that are still alike. -/
namespace Effect

variable {Op : Type} {Rep : Op → Type} {Out World α β : Type} (react : (op : Op) → Out → World → Rep op × World)

def Lockstep (alike : World → World → Prop) : Prog Op Rep α → World → World → Prop
  | .ret _, w, v => alike w v
  | .call op next, w, v => ∀ o, next (react op o w).1 = next (react op o v).1 ∧
      Lockstep alike (next (react op o w).1) (react op o w).2 (react op o v).2

variable {react} {alike : World → World → Prop}

theorem lockstep_refl (same : ∀ w, alike w w) (p : Prog Op Rep α) (w : World) : Lockstep react alike p w w := by
  induction p generalizing w with
  | ret a => exact same w
  | call op next ih => exact fun o => ⟨rfl, ih _ _⟩

theorem lockstep_mono {alike' : World → World → Prop} {p : Prog Op Rep α} {w v : World}
    (steps : Lockstep react alike p w v) (weaken : ∀ w v, alike w v → alike' w v) : Lockstep react alike' p w v := by
  induction p generalizing w v with
  | ret a => exact weaken w v steps
  | call op next ih => exact fun o => ⟨(steps o).1, ih _ (steps o).2⟩

theorem lockstep_bind {mid : World → World → Prop} {p : Prog Op Rep α} {f : α → Prog Op Rep β} {w v : World}
    (first : Lockstep react mid p w v) (second : ∀ a w v, mid w v → Lockstep react alike (f a) w v) :
    Lockstep react alike (p >>= f) w v := by
  induction p generalizing w v with
  | ret a => exact second a w v first
  | call op next ih =>
    exact fun o => ⟨congrArg (Prog.bind · f) (first o).1, ih _ (first o).2⟩

/-- Requests that get the same reply in worlds that are alike keep the runs in lockstep. -/
theorem lockstep_all {kind : Op → Prop} {p : Prog Op Rep α} {w v : World} (all : p.All kind)
    (keeps : ∀ op, kind op → ∀ o w v, alike w v →
      (react op o w).1 = (react op o v).1 ∧ alike (react op o w).2 (react op o v).2)
    (now : alike w v) : Lockstep react alike p w v := by
  induction p generalizing w v with
  | ret a => exact now
  | call op next ih =>
    intro o
    obtain ⟨reply, later⟩ := keeps op all.1 o w v now
    exact ⟨congrArg next reply, ih _ (all.2 _) later⟩

theorem exec_lockstep {p : Prog Op Rep α} {w v : World} (steps : Lockstep react alike p w v) (io : Nat → Out)
    (n : Nat) :
    (exec react io p n w).1 = (exec react io p n v).1 ∧ alike (exec react io p n w).2 (exec react io p n v).2 := by
  induction p generalizing n w v with
  | ret a => exact ⟨rfl, steps⟩
  | call op next ih =>
    obtain ⟨same, later⟩ := steps (io n)
    have rest := ih _ later (n + 1)
    simp only [exec]
    rwa [same] at rest ⊢

end Effect
