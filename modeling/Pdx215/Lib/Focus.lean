import Mathlib.Logic.Function.Basic
import Pdx215.Lib.Effect

/-! Programs for one component, run inside a system that has several. A program keeps its requests
and only gets the name of its component; what it does there is what it does alone. -/
namespace Effect

/-- How a component lies in a larger world. -/
structure Focus (World Part : Type) where
  get : World → Part
  put : World → Part → World
  get_put : ∀ w p, get (put w p) = p
  put_get : ∀ w, put w (get w) = w
  put_put : ∀ w p q, put (put w p) q = put w q

attribute [simp] Focus.get_put Focus.put_get Focus.put_put

variable {Key Op : Type} {Rep : Op → Type} {Out World Part α β : Type}

/-- The program with each request addressed to a component. -/
def Prog.at (key : Key) : Prog Op Rep α → Prog (Key × Op) (fun request => Rep request.2) α
  | .ret a => .ret a
  | .call op next => .call (key, op) fun reply => (next reply).at key

/-- The system answers a request by letting the component answer it. -/
def reactAt (focus : Key → Focus World Part) (react : Key → (op : Op) → Out → Part → Rep op × Part)
    (request : Key × Op) (o : Out) (w : World) : Rep request.2 × World :=
  let answer := react request.1 request.2 o ((focus request.1).get w)
  (answer.1, (focus request.1).put w answer.2)

section Runs

variable {focus : Key → Focus World Part} {react : Key → (op : Op) → Out → Part → Rep op × Part}

theorem exec_at (io : Nat → Out) (key : Key) (p : Prog Op Rep α) (n : Nat) (w : World) :
    exec (reactAt focus react) io (p.at key) n w =
      ((exec (react key) io p n ((focus key).get w)).1,
        (focus key).put w (exec (react key) io p n ((focus key).get w)).2) := by
  induction p generalizing n w with
  | ret a => simp [Prog.at, exec]
  | call op next ih => simp [Prog.at, exec, reactAt, ih]

/-- A rule for the component is a rule for the system, with the rest of the system as it is. -/
theorem wp_at {allowed : Nat → Out → Prop} {inv : World → Prop} {key : Key} {p : Prog Op Rep α}
    {post : α → Nat → World → Prop} {n : Nat} {w : World}
    (alone : wp (react key) allowed (fun part => inv ((focus key).put w part)) p
      (fun a m part => post a m ((focus key).put w part)) n ((focus key).get w)) :
    wp (reactAt focus react) allowed inv (p.at key) post n w := by
  induction p generalizing n w with
  | ret a =>
    obtain ⟨now, done⟩ := alone
    simp only [Focus.put_get] at now done
    exact ⟨now, done⟩
  | call op next ih =>
    obtain ⟨now, later⟩ := alone
    simp only [Focus.put_get] at now
    refine ⟨now, fun o may => ih _ ?_⟩
    simpa [reactAt] using later o may

end Runs

theorem exec_bind {react : (op : Op) → Out → World → Rep op × World} (io : Nat → Out) (p : Prog Op Rep α)
    (f : α → Prog Op Rep β) (n : Nat) (w : World) : ∃ m,
      exec react io (p >>= f) n w = exec react io (f (exec react io p n w).1) m (exec react io p n w).2 := by
  induction p generalizing n w with
  | ret a => exact ⟨n, rfl⟩
  | call op next ih => exact ih _ (n + 1) _

/-- Where every request meets the same outcome it does not matter which request is the first. -/
theorem exec_const {react : (op : Op) → Out → World → Rep op × World} (o : Out) (p : Prog Op Rep α) (n m : Nat)
    (w : World) : exec react (fun _ => o) p n w = exec react (fun _ => o) p m w := by
  induction p generalizing n m w with
  | ret a => rfl
  | call op next ih => exact ih _ _ _ _

end Effect
