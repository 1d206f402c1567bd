import Mathlib.Logic.Basic

/-! Programs that talk to a device through typed requests. A program is its tree of
requests and continuations, so that a run may be stopped at any request: the states in which it
can be stopped are exactly the states that the rules below quantify over.
Nothing here depends on what the requests are. -/
namespace Effect

/-- A program either has its answer or makes a request and continues with the reply. -/
inductive Prog (Op : Type) (Rep : Op → Type) (α : Type) : Type where
  | ret (a : α) : Prog Op Rep α
  | call (op : Op) (next : Rep op → Prog Op Rep α) : Prog Op Rep α

variable {Op : Type} {Rep : Op → Type} {Out World α β : Type}

namespace Prog

def bind : Prog Op Rep α → (α → Prog Op Rep β) → Prog Op Rep β
  | ret a, f => f a
  | call op next, f => call op (fun r => (next r).bind f)

def request (op : Op) : Prog Op Rep (Rep op) := call op ret

/-- Whatever it is answered, the program makes only requests of one kind. -/
def All (kind : Op → Prop) : Prog Op Rep α → Prop
  | ret _ => True
  | call op next => kind op ∧ ∀ r, (next r).All kind

/-- As long as the answers fit, the program makes only requests of one kind. -/
def Within (fits : (op : Op) → Rep op → Prop) (kind : Op → Prop) : Prog Op Rep α → Prop
  | ret _ => True
  | call op next => kind op ∧ ∀ r, fits op r → (next r).Within fits kind

end Prog

instance : Monad (Prog Op Rep) where
  pure := Prog.ret
  bind := Prog.bind

theorem Prog.All.bind {kind : Op → Prop} {p : Prog Op Rep α} {f : α → Prog Op Rep β} (first : p.All kind)
    (second : ∀ a, (f a).All kind) : (p >>= f).All kind := by
  induction p with
  | ret a => exact second a
  | call op next ih => exact ⟨first.1, fun r => ih r (first.2 r)⟩

theorem Prog.All.mono {kind kind' : Op → Prop} {p : Prog Op Rep α} (all : p.All kind)
    (weaken : ∀ op, kind op → kind' op) : p.All kind' := by
  induction p with
  | ret a => trivial
  | call op next ih => exact ⟨weaken op all.1, fun r => ih r (all.2 r)⟩

theorem Prog.All.and {kind kind' : Op → Prop} {p : Prog Op Rep α} (first : p.All kind) (second : p.All kind') :
    p.All fun op => kind op ∧ kind' op := by
  induction p with
  | ret a => trivial
  | call op next ih => exact ⟨⟨first.1, second.1⟩, fun r => ih r (first.2 r) (second.2 r)⟩

theorem Prog.all_ret {kind : Op → Prop} {a : α} : (ret a : Prog Op Rep α).All kind := trivial

theorem Prog.all_ite {kind : Op → Prop} {c : Prop} [Decidable c] {p q : Prog Op Rep α} (yes : p.All kind)
    (no : q.All kind) : (if c then p else q).All kind := by
  split
  · exact yes
  · exact no

theorem Prog.all_true (p : Prog Op Rep α) : p.All fun _ => True := by
  induction p with
  | ret a => trivial
  | call op next ih => exact ⟨trivial, ih⟩

theorem Prog.All.within {kind : Op → Prop} {p : Prog Op Rep α} (all : p.All kind)
    (fits : (op : Op) → Rep op → Prop) : p.Within fits kind := by
  induction p with
  | ret a => trivial
  | call op next ih => exact ⟨all.1, fun r _ => ih r (all.2 r)⟩

theorem Prog.Within.bind {fits : (op : Op) → Rep op → Prop} {kind : Op → Prop} {p : Prog Op Rep α}
    {f : α → Prog Op Rep β} (first : p.Within fits kind) (second : ∀ a, (f a).Within fits kind) :
    (p >>= f).Within fits kind := by
  induction p with
  | ret a => exact second a
  | call op next ih => exact ⟨first.1, fun r fit => ih r (first.2 r fit)⟩

theorem Prog.within_ite {fits : (op : Op) → Rep op → Prop} {kind : Op → Prop} {c : Prop} [Decidable c]
    {p q : Prog Op Rep α} (yes : p.Within fits kind) (no : q.Within fits kind) :
    (if c then p else q).Within fits kind := by
  split
  · exact yes
  · exact no

section Semantics

/- How the device answers a request, given what happens to it this time. -/
variable (react : (op : Op) → Out → World → Rep op × World)

/-- One outcome is used up by each request. When the outcomes are exhausted the program
is cut off before its next request, and there is no answer. -/
def run : Prog Op Rep α → World → List Out → Option α × World
  | .ret a, w, _ => (some a, w)
  | .call _ _, w, [] => (none, w)
  | .call op next, w, o :: os => run (next (react op o w).1) (react op o w).2 os

/-- The states that a run passes through, from its first request to where it ends or is cut off. -/
def states : Prog Op Rep α → World → List Out → List World
  | .ret _, w, _ => [w]
  | .call _ _, w, [] => [w]
  | .call op next, w, o :: os => w :: states (next (react op o w).1) (react op o w).2 os

/-- A run that is never cut off; the request at position `n` meets the outcome `io n`. -/
def exec (io : Nat → Out) : Prog Op Rep α → Nat → World → α × World
  | .ret a, _, w => (a, w)
  | .call op next, n, w => exec io (next (react op (io n) w).1) (n + 1) (react op (io n) w).2

/-- Weakest precondition with a crash condition: `inv` holds wherever the program can be
stopped, and `post` holds of its answer, the number of requests made and the last state. -/
def wp (allowed : Nat → Out → Prop) (inv : World → Prop) :
    Prog Op Rep α → (α → Nat → World → Prop) → Nat → World → Prop
  | .ret a, post, n, w => inv w ∧ post a n w
  | .call op next, post, n, w => inv w ∧
      ∀ o, allowed n o → wp allowed inv (next (react op o w).1) post (n + 1) (react op o w).2

variable {react} {allowed : Nat → Out → Prop} {inv : World → Prop}

theorem wp_ret {a : α} {post : α → Nat → World → Prop} {n : Nat} {w : World}
    (now : inv w) (done : post a n w) : wp react allowed inv (.ret a) post n w :=
  ⟨now, done⟩

theorem wp_call {op : Op} {next : Rep op → Prog Op Rep α} {post : α → Nat → World → Prop}
    {n : Nat} {w : World} (now : inv w)
    (later : ∀ o, allowed n o →
      wp react allowed inv (next (react op o w).1) post (n + 1) (react op o w).2) :
    wp react allowed inv (.call op next) post n w :=
  ⟨now, later⟩

theorem wp_request {op : Op} {f : Rep op → Prog Op Rep α} {post : α → Nat → World → Prop}
    {n : Nat} {w : World} (now : inv w)
    (later : ∀ o, allowed n o → wp react allowed inv (f (react op o w).1) post (n + 1) (react op o w).2) :
    wp react allowed inv (Prog.request op >>= f) post n w :=
  ⟨now, later⟩

theorem wp_ite {c : Prop} [Decidable c] {p q : Prog Op Rep α} {post : α → Nat → World → Prop} {n : Nat}
    {w : World} (yes : c → wp react allowed inv p post n w) (no : ¬ c → wp react allowed inv q post n w) :
    wp react allowed inv (if c then p else q) post n w := by
  by_cases h : c
  · rw [if_pos h]
    exact yes h
  · rw [if_neg h]
    exact no h

theorem wp_inv {p : Prog Op Rep α} {post : α → Nat → World → Prop} {n : Nat} {w : World}
    (h : wp react allowed inv p post n w) : inv w := by
  cases p with
  | ret a => exact h.1
  | call op next => exact h.1

theorem wp_mono {p : Prog Op Rep α} {post post' : α → Nat → World → Prop} {n : Nat} {w : World}
    (h : wp react allowed inv p post n w) (weaken : ∀ a m v, inv v → post a m v → post' a m v) :
    wp react allowed inv p post' n w := by
  induction p generalizing n w with
  | ret a => exact ⟨h.1, weaken a n w h.1 h.2⟩
  | call op next ih => exact ⟨h.1, fun o ho => ih _ (h.2 o ho)⟩

theorem wp_weaken {inv' : World → Prop} {p : Prog Op Rep α} {post : α → Nat → World → Prop} {n : Nat} {w : World}
    (h : wp react allowed inv p post n w) (weaken : ∀ v, inv v → inv' v) : wp react allowed inv' p post n w := by
  induction p generalizing n w with
  | ret a => exact ⟨weaken w h.1, h.2⟩
  | call op next ih => exact ⟨weaken w h.1, fun o ho => ih _ (h.2 o ho)⟩

theorem wp_and {p : Prog Op Rep α} {post post' : α → Nat → World → Prop} {n : Nat} {w : World}
    (first : wp react allowed inv p post n w) (second : wp react allowed inv p post' n w) :
    wp react allowed inv p (fun a m v => post a m v ∧ post' a m v) n w := by
  induction p generalizing n w with
  | ret a => exact ⟨first.1, first.2, second.2⟩
  | call op next ih => exact ⟨first.1, fun o ho => ih _ (first.2 o ho) (second.2 o ho)⟩

theorem wp_allow {fewer : Nat → Out → Prop} {p : Prog Op Rep α} {post : α → Nat → World → Prop} {n : Nat} {w : World}
    (h : wp react allowed inv p post n w) (fits : ∀ n o, fewer n o → allowed n o) : wp react fewer inv p post n w := by
  induction p generalizing n w with
  | ret a => exact h
  | call op next ih => exact ⟨h.1, fun o ho => ih _ (h.2 o (fits n o ho))⟩

theorem wp_bind {p : Prog Op Rep α} {f : α → Prog Op Rep β} {post : β → Nat → World → Prop}
    {n : Nat} {w : World}
    (h : wp react allowed inv p (fun a m v => wp react allowed inv (f a) post m v) n w) :
    wp react allowed inv (p >>= f) post n w := by
  induction p generalizing n w with
  | ret a => exact h.2
  | call op next ih => exact ⟨h.1, fun o ho => ih _ (h.2 o ho)⟩

/-- The usual rule of composition: what the first program establishes suffices for the second. -/
theorem wp_seq {p : Prog Op Rep α} {f : α → Prog Op Rep β} {mid : α → Nat → World → Prop}
    {post : β → Nat → World → Prop} {n : Nat} {w : World}
    (first : wp react allowed inv p mid n w)
    (second : ∀ a m v, inv v → mid a m v → wp react allowed inv (f a) post m v) :
    wp react allowed inv (p >>= f) post n w :=
  wp_bind (wp_mono first second)

/-- What every request of a kind keeps, a program that makes only such requests keeps. -/
theorem wp_all {kind : Op → Prop} {kept : World → Prop} {p : Prog Op Rep α} {n : Nat} {w : World}
    (all : p.All kind) (enough : ∀ w, kept w → inv w)
    (keeps : ∀ op, kind op → ∀ n o w, allowed n o → kept w → kept (react op o w).2) (now : kept w) :
    wp react allowed inv p (fun _ _ v => kept v) n w := by
  induction p generalizing n w with
  | ret a => exact ⟨enough w now, now⟩
  | call op next ih =>
    exact ⟨enough w now, fun o ho => ih _ (all.2 _) (keeps op all.1 n o w ho now)⟩

/-- What every request of a kind keeps, as long as it does and the reply fits. -/
theorem exec_within {fits : (op : Op) → Rep op → Prop} {kind : Op → Prop} {kept : World → Prop} {p : Prog Op Rep α}
    {io : Nat → Out} {n : Nat} {w : World} (within : p.Within fits kind)
    (keeps : ∀ op, kind op → ∀ o w, kept w → fits op (react op o w).1 ∧ kept (react op o w).2) (now : kept w) :
    kept (exec react io p n w).2 := by
  induction p generalizing n w with
  | ret a => exact now
  | call op next ih =>
    obtain ⟨fit, later⟩ := keeps op within.1 (io n) w now
    exact ih _ (within.2 _ fit) later

/-- However the run is cut off, the crash condition holds of the state it leaves. -/
theorem run_inv {p : Prog Op Rep α} {post : α → Nat → World → Prop} {n : Nat} {w : World}
    (h : wp react allowed inv p post n w) (os : List Out)
    (fit : ∀ i o, os[i]? = some o → allowed (n + i) o) : inv (run react p w os).2 := by
  induction p generalizing n w os with
  | ret a => exact h.1
  | call op next ih =>
    cases os with
    | nil => exact h.1
    | cons o os =>
      apply ih _ (h.2 o (fit 0 o rfl)) os
      intro i o' hi
      have := fit (i + 1) o' hi
      rwa [Nat.add_assoc, Nat.add_comm 1 i]

theorem states_inv {p : Prog Op Rep α} {post : α → Nat → World → Prop} {n : Nat} {w : World}
    (h : wp react allowed inv p post n w) (os : List Out)
    (fit : ∀ i o, os[i]? = some o → allowed (n + i) o) : ∀ v ∈ states react p w os, inv v := by
  induction p generalizing n w os with
  | ret a =>
    intro v here
    cases List.mem_singleton.mp here
    exact h.1
  | call op next ih =>
    cases os with
    | nil =>
      intro v here
      cases List.mem_singleton.mp here
      exact h.1
    | cons o os =>
      intro v here
      rcases List.mem_cons.mp here with rfl | here
      · exact h.1
      refine ih _ (h.2 o (fit 0 o rfl)) os ?_ v here
      intro i o' hi
      have := fit (i + 1) o' hi
      rwa [Nat.add_assoc, Nat.add_comm 1 i]

/-- A run that is not cut off ends, and ends in the postcondition. -/
theorem exec_post {p : Prog Op Rep α} {post : α → Nat → World → Prop} {n : Nat} {w : World}
    {io : Nat → Out} (h : wp react allowed inv p post n w) (fit : ∀ i, allowed i (io i)) :
    ∃ m, post (exec react io p n w).1 m (exec react io p n w).2 := by
  induction p generalizing n w with
  | ret a => exact ⟨n, h.2⟩
  | call op next ih => exact ih _ (h.2 (io n) (fit n))

theorem exec_map {react : (op : Op) → Out → World → Rep op × World} {io : Nat → Out} (f : α → β) (p : Prog Op Rep α)
    (n : Nat) (w : World) :
    exec react io (p >>= fun a => .ret (f a)) n w = (f (exec react io p n w).1, (exec react io p n w).2) := by
  induction p generalizing n w with
  | ret a => rfl
  | call op next ih => exact ih _ _ _

theorem run_nil (p : Prog Op Rep α) (w : World) : (run react p w []).2 = w := by
  cases p <;> rfl

/-- To cut a run off is to let all requests fail from there on, if those that fail change nothing. -/
theorem run_eq_exec {stop : Out} {io : Nat → Out} {os : List Out} {n : Nat}
    (still : ∀ op w, (react op stop w).2 = w) (goes : ∀ i o, os[i]? = some o → io (n + i) = o)
    (stops : ∀ m, n + os.length ≤ m → io m = stop) (p : Prog Op Rep α) (w : World) :
    (run react p w os).2 = (exec react io p n w).2 := by
  induction p generalizing n w os with
  | ret a => rfl
  | call op next ih =>
    cases os with
    | nil =>
      have here : io n = stop := stops n (Nat.le_refl n)
      have later := @ih (react op stop w).1 [] (n + 1) (fun i o none => by cases none)
        (fun m after => stops m (Nat.le_of_succ_le after)) w
      rw [exec, here, still, ← later, run_nil, run_nil]
    | cons o os =>
      have here : io n = o := goes 0 o rfl
      rw [run, exec, here]
      refine ih _ (fun i o' found => ?_) (fun m after => stops m (by rw [List.length_cons]; omega)) _
      rw [Nat.add_assoc, Nat.add_comm 1]
      exact goes (i + 1) o' found

end Semantics

end Effect
