import Mathlib.Data.List.Basic
import Pdx215.Lib.Total

/-! A state with several parts, and programs that each use one of them. Two states that are alike in a part cannot be
told apart by a program of that part, and it leaves the other parts alone. Then what a part goes through in a run of
many programs is what it goes through in the run of its own programs. -/
namespace Local

open Total (bind_eq_some_iff)

variable {σ Part α β Call Answer : Type}

/-- For each part an equivalence of states. -/
structure Parts (σ Part : Type) where
  alike : Part → σ → σ → Prop
  refl : ∀ g s, alike g s s
  symm : ∀ {g s t}, alike g s t → alike g t s
  trans : ∀ {g s t u}, alike g s t → alike g t u → alike g s u

variable (P : Parts σ Part)

structure Confined (g : Part) (p : StateT σ Option α) : Prop where
  same : ∀ {s s' a t}, P.alike g s s' → p s = some (a, t) → ∃ t', p s' = some (a, t') ∧ P.alike g t t'
  apart : ∀ {s a t h}, p s = some (a, t) → h ≠ g → P.alike h s t

variable {P} {g : Part}

theorem confined_pure (a : α) : Confined P g (pure a : StateT σ Option α) where
  same := by
    intro s s' b t alike run
    cases run
    exact ⟨s', rfl, alike⟩
  apart := by
    intro s b t h run _
    cases run
    exact P.refl h s

theorem Confined.bind {p : StateT σ Option α} {f : α → StateT σ Option β} (first : Confined P g p)
    (second : ∀ a, Confined P g (f a)) : Confined P g (p >>= f) where
  same := by
    intro s s' b t alike run
    obtain ⟨a, s₁, ran, rest⟩ := bind_eq_some_iff.mp run
    obtain ⟨s₁', ran', alike'⟩ := first.same alike ran
    obtain ⟨t', rest', alike''⟩ := (second a).same alike' rest
    exact ⟨t', bind_eq_some_iff.mpr ⟨a, s₁', ran', rest'⟩, alike''⟩
  apart := by
    intro s b t h run other
    obtain ⟨a, s₁, ran, rest⟩ := bind_eq_some_iff.mp run
    exact P.trans (first.apart ran other) ((second a).apart rest other)

theorem confined_ite {c : Prop} [Decidable c] {p q : StateT σ Option α} (yes : Confined P g p) (no : Confined P g q) :
    Confined P g (if c then p else q) := by
  split
  · exact yes
  · exact no

/-! ### Runs -/

section Runs

variable (step : Call → StateT σ Option Answer)

def record : List Call → StateT σ Option (List (Call × Answer))
  | [] => pure []
  | c :: cs => do
    let a ← step c
    let rest ← record cs
    pure ((c, a) :: rest)

variable {step}

theorem record_cons_eq_some {c : Call} {cs : List Call} {s t : σ} {history : List (Call × Answer)} :
    record step (c :: cs) s = some (history, t) ↔
      ∃ a s₁ rest, step c s = some (a, s₁) ∧ record step cs s₁ = some (rest, t) ∧ history = (c, a) :: rest := by
  rw [record]
  constructor
  · intro run
    obtain ⟨a, s₁, ran, later⟩ := bind_eq_some_iff.mp run
    obtain ⟨rest, t', ran', done⟩ := bind_eq_some_iff.mp later
    cases done
    exact ⟨a, s₁, rest, ran, ran', rfl⟩
  · rintro ⟨a, s₁, rest, ran, ran', rfl⟩
    exact bind_eq_some_iff.mpr ⟨a, s₁, ran, bind_eq_some_iff.mpr ⟨rest, t, ran', rfl⟩⟩

variable [DecidableEq Part] {part : Call → Part} (confined : ∀ c, Confined P (part c) (step c))

include confined

/-- Nothing in the history of a part, and nothing in the part itself, comes from calls of other parts. -/
theorem record_part {calls : List Call} {s s' t : σ} {history : List (Call × Answer)}
    (run : record step calls s = some (history, t)) (alike : P.alike g s s') :
    ∃ t', record step (calls.filter (part · = g)) s' = some (history.filter (part ·.1 = g), t') ∧ P.alike g t t' := by
  induction calls generalizing s s' history with
  | nil =>
    cases run
    exact ⟨s', rfl, alike⟩
  | cons c cs ih =>
    obtain ⟨a, s₁, rest, ran, later, rfl⟩ := record_cons_eq_some.mp run
    by_cases own : part c = g
    · have mine := confined c
      rw [own] at mine
      obtain ⟨s₁', ran', alike'⟩ := mine.same alike ran
      obtain ⟨t', later', done⟩ := ih later alike'
      rw [List.filter_cons_of_pos (by simp [own]), List.filter_cons_of_pos (by simp [own])]
      exact ⟨t', record_cons_eq_some.mpr ⟨a, s₁', _, ran', later', rfl⟩, done⟩
    · have aside : P.alike g s s₁ := (confined c).apart ran (Ne.symm own)
      obtain ⟨t', later', done⟩ := ih later (P.trans (P.symm aside) alike)
      rw [List.filter_cons_of_neg (by simp [own]), List.filter_cons_of_neg (by simp [own])]
      exact ⟨t', later', done⟩

/-- The run gets through exactly if it does so for each part by itself. -/
theorem record_isSome_iff (calls : List Call) (s : σ) :
    (record step calls s).isSome ↔ ∀ g, (record step (calls.filter (part · = g)) s).isSome := by
  constructor
  · intro all g
    obtain ⟨⟨history, t⟩, run⟩ := Option.isSome_iff_exists.mp all
    obtain ⟨t', own, _⟩ := record_part confined run (P.refl g s)
    rw [own]
    rfl
  · intro each
    induction calls generalizing s with
    | nil => rfl
    | cons c cs ih =>
      have first := each (part c)
      rw [List.filter_cons_of_pos (by simp)] at first
      obtain ⟨⟨history, t⟩, run⟩ := Option.isSome_iff_exists.mp first
      obtain ⟨a, s₁, rest, ran, later, rfl⟩ := record_cons_eq_some.mp run
      have others : ∀ g, (record step (cs.filter (part · = g)) s₁).isSome := by
        intro g
        by_cases own : part c = g
        · subst own
          rw [later]
          rfl
        · have alone := each g
          rw [List.filter_cons_of_neg (by simp [own])] at alone
          obtain ⟨⟨history', t'⟩, run'⟩ := Option.isSome_iff_exists.mp alone
          obtain ⟨t'', moved, _⟩ := record_part (g := g) confined run' ((confined c).apart ran (Ne.symm own))
          rw [List.filter_filter] at moved
          simp only [Bool.and_self] at moved
          rw [moved]
          rfl
      obtain ⟨⟨history', t'⟩, whole⟩ := Option.isSome_iff_exists.mp (ih s₁ others)
      rw [record_cons_eq_some.mpr ⟨a, s₁, history', ran, whole, rfl⟩]
      rfl

end Runs

end Local
