import Mathlib.Logic.Function.Basic
import Pdx215.Lib.Effect

/-! Threads that run programs over one world. Any thread may make its next request at any time, and a thread
that has finished takes a new job when it may. An invariant is shown request by request: every thread carries a mark,
the mark says which requests it may make, and the replies change it. -/
namespace Effect

variable {Op : Type} {Rep : Op → Type} {Out World Key Job Mark α β : Type}

/-- Each thread has the job that it took last and what is left to do of it. -/
structure Pool (Op : Type) (Rep : Op → Type) (World Key Job α : Type) where
  world : World
  running : Key → Job × Prog Op Rep α

def Pool.Idle (P : Pool Op Rep World Key Job α) (k : Key) : Prop := ∃ a, (P.running k).2 = .ret a

instance (P : Pool Op Rep World Key Job α) (k : Key) : Decidable (P.Idle k) :=
  match ended : (P.running k).2 with
  | .ret a => isTrue ⟨a, ended⟩
  | .call op next => isFalse fun ⟨a, idle⟩ => by cases ended.symm.trans idle

structure Threads (Op : Type) (Rep : Op → Type) (Out World Key Job α : Type) where
  react : (op : Op) → Out → World → Rep op × World
  allowed : Out → Prop
  program : Job → Prog Op Rep α
  begins : Job → World → World
  may : Pool Op Rep World Key Job α → Key → Job → Prop

namespace Threads

variable [DecidableEq Key] (T : Threads Op Rep Out World Key Job α)

def begin (P : Pool Op Rep World Key Job α) (k : Key) (job : Job) : Pool Op Rep World Key Job α :=
  ⟨T.begins job P.world, Function.update P.running k (job, T.program job)⟩

inductive Step : Pool Op Rep World Key Job α → Pool Op Rep World Key Job α → Prop where
  | request (P : Pool Op Rep World Key Job α) (k : Key) (job : Job) (op : Op) (next : Rep op → Prog Op Rep α) (o : Out) :
      P.running k = (job, .call op next) → T.allowed o →
      Step P ⟨(T.react op o P.world).2, Function.update P.running k (job, next (T.react op o P.world).1)⟩
  | start (P : Pool Op Rep World Key Job α) (k : Key) (job : Job) : P.Idle k → T.may P k job → Step P (T.begin P k job)

/-- The pool after the next request of a thread, if it has one. -/
def turn (P : Pool Op Rep World Key Job α) (k : Key) (o : Out) : Pool Op Rep World Key Job α :=
  match P.running k with
  | (_, .ret _) => P
  | (job, .call op next) =>
    ⟨(T.react op o P.world).2, Function.update P.running k (job, next (T.react op o P.world).1)⟩

def turns (P : Pool Op Rep World Key Job α) (schedule : List (Key × Out)) : Pool Op Rep World Key Job α :=
  schedule.foldl (fun P next => T.turn P next.1 next.2) P

inductive Reachable (P : Pool Op Rep World Key Job α) : Pool Op Rep World Key Job α → Prop where
  | refl : Reachable P P
  | step {Q R : Pool Op Rep World Key Job α} : Reachable P Q → T.Step Q R → Reachable P R

variable {T} {P Q : Pool Op Rep World Key Job α}

theorem Reachable.turn (reachable : T.Reachable P Q) (k : Key) {o : Out} (allowed : T.allowed o) :
    T.Reachable P (T.turn Q k o) := by
  unfold Threads.turn
  split
  · exact reachable
  · rename_i found
    exact reachable.step (.request Q k _ _ _ o found allowed)

theorem Reachable.turns (reachable : T.Reachable P Q) (schedule : List (Key × Out))
    (allowed : ∀ next ∈ schedule, T.allowed next.2) : T.Reachable P (T.turns Q schedule) := by
  induction schedule generalizing Q with
  | nil => exact reachable
  | cons next schedule ih =>
    have first := reachable.turn next.1 (allowed next List.mem_cons_self)
    exact ih first fun later here => allowed later (List.mem_cons_of_mem next here)

theorem turn_running {j k : Key} (other : k ≠ j) (o : Out) : (T.turn P k o).running j = P.running j := by
  unfold Threads.turn
  split
  · rfl
  · exact Function.update_of_ne other.symm ..

/-- A thread that the schedule does not name stays where it is. -/
theorem turns_running {j : Key} {schedule : List (Key × Out)} (others : ∀ next ∈ schedule, next.1 ≠ j) :
    (T.turns P schedule).running j = P.running j := by
  induction schedule generalizing P with
  | nil => rfl
  | cons next schedule ih =>
    obtain ⟨here, later⟩ := List.forall_mem_cons.mp others
    exact (ih later).trans (turn_running here next.2)

end Threads

/-! ### Marks -/

/-- The requests that a mark permits, the replies that occur, and the mark after each. -/
structure Discipline (Op : Type) (Rep : Op → Type) (Mark : Type) where
  permits : Mark → Op → Prop
  fits : (op : Op) → Rep op → Prop
  after : Mark → (op : Op) → Rep op → Mark

namespace Discipline

variable (D : Discipline Op Rep Mark)

/-- From the mark on, the program makes only permitted requests, and it ends with a mark as the postcondition has it. -/
def Follows (post : Mark → Prop) : Prog Op Rep α → Mark → Prop
  | .ret _, m => post m
  | .call op next, m => D.permits m op ∧ ∀ r, D.fits op r → Follows post (next r) (D.after m op r)

variable {D} {mid post : Mark → Prop} {p : Prog Op Rep α} {f : α → Prog Op Rep β} {m : Mark}

theorem follows_seq (first : D.Follows mid p m) (second : ∀ a m', mid m' → D.Follows post (f a) m') :
    D.Follows post (p >>= f) m := by
  induction p generalizing m with
  | ret a => exact second a m first
  | call op next ih => exact ⟨first.1, fun r fit => ih r (first.2 r fit)⟩

/-- Requests of one kind that are permitted and leave the mark as it is. -/
theorem follows_all {kind : Op → Prop} (all : p.All kind) (permitted : ∀ op, kind op → D.permits m op)
    (same : ∀ op, kind op → ∀ r, D.after m op r = m) (ends : post m) : D.Follows post p m := by
  induction p with
  | ret a => exact ends
  | call op next ih =>
    refine ⟨permitted op all.1, fun r _ => ?_⟩
    rw [same op all.1 r]
    exact ih r (all.2 r)

end Discipline

namespace Threads

/-- One thread keeps to the discipline. Its mark may say something about the job too. -/
def Keeping (D : Discipline Op Rep Mark) (about : Job → Mark → Prop) (ends : Mark → Prop) (m : Mark)
    (running : Job × Prog Op Rep α) : Prop :=
  about running.1 m ∧ D.Follows ends running.2 m

def Obeys (D : Discipline Op Rep Mark) (inv : World → (Key → Mark) → Prop) (about : Job → Mark → Prop)
    (ends : Mark → Prop) (P : Pool Op Rep World Key Job α) : Prop :=
  ∃ marks : Key → Mark, inv P.world marks ∧ ∀ k, Keeping D about ends (marks k) (P.running k)

variable [DecidableEq Key] {T : Threads Op Rep Out World Key Job α} {D : Discipline Op Rep Mark}
  {inv : World → (Key → Mark) → Prop} {about : Job → Mark → Prop} {ends : Mark → Prop}
  {P Q : Pool Op Rep World Key Job α}

theorem forall_update {p : Mark → β → Prop} {f : Key → Mark} {g : Key → β} {k : Key} {a : Mark} {b : β}
    (all : ∀ j, p (f j) (g j)) (here : p a b) : ∀ j, p (Function.update f k a j) (Function.update g k b j) := by
  intro j
  by_cases same : j = k
  · subst same
    rwa [Function.update_self, Function.update_self]
  · rw [Function.update_of_ne same, Function.update_of_ne same]
    exact all j

theorem obeys_step
    (keeps : ∀ w marks k op o, T.allowed o → inv w marks → D.permits (marks k) op →
      D.fits op (T.react op o w).1 ∧
        inv (T.react op o w).2 (Function.update marks k (D.after (marks k) op (T.react op o w).1)))
    (relates : ∀ job mark op r, about job mark → D.permits mark op → about job (D.after mark op r))
    (starts : ∀ (P : Pool Op Rep World Key Job α) marks k job, inv P.world marks →
      (∀ j, Keeping D about ends (marks j) (P.running j)) → P.Idle k → T.may P k job →
      ∃ mark, inv (T.begins job P.world) (Function.update marks k mark) ∧ Keeping D about ends mark (job, T.program job))
    (now : Obeys D inv about ends P) (step : T.Step P Q) : Obeys D inv about ends Q := by
  obtain ⟨marks, holds, all⟩ := now
  cases step with
  | request k job op next o here allowed =>
    have known := all k
    rw [here] at known
    obtain ⟨known, permitted, rest⟩ := known
    obtain ⟨fit, after⟩ := keeps P.world marks k op o allowed holds permitted
    exact ⟨_, after, forall_update all ⟨relates job _ op _ known permitted, rest _ fit⟩⟩
  | start k job idle may =>
    obtain ⟨mark, after, keeping⟩ := starts P marks k job holds all idle may
    exact ⟨_, after, forall_update all keeping⟩

/-- What every step keeps holds wherever the system gets. -/
theorem Reachable.always {kept : Pool Op Rep World Key Job α → Prop} (keeps : ∀ P Q, kept P → T.Step P Q → kept Q)
    (now : kept P) (reachable : T.Reachable P Q) : kept Q := by
  induction reachable with
  | refl => exact now
  | step _ step ih => exact keeps _ _ ih step

end Threads

end Effect
