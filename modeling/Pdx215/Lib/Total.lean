/-! Programs that pass a state on and may die. That a program ends in a postcondition says that it does not die. -/
namespace Total

variable {σ α β : Type} {p : StateT σ Option α} {s : σ} {post post' : α → σ → Prop}

/-- The program returns from this state, with an answer and a state that meet the postcondition. -/
def Ends (p : StateT σ Option α) (s : σ) (post : α → σ → Prop) : Prop :=
  ∃ a s', p s = some (a, s') ∧ post a s'

theorem ends_pure {a : α} (done : post a s) : Ends (pure a) s post := ⟨a, s, rfl, done⟩

theorem Ends.mono (ends : Ends p s post) (weaken : ∀ a s', post a s' → post' a s') : Ends p s post' := by
  obtain ⟨a, s', run, done⟩ := ends
  exact ⟨a, s', run, weaken a s' done⟩

/-- A program that returns has returned from its first part. -/
theorem bind_eq_some_iff {f : α → StateT σ Option β} {r : β × σ} :
    (p >>= f) s = some r ↔ ∃ a s', p s = some (a, s') ∧ f a s' = some r := by
  have unfolded : (p >>= f) s = (p s).bind fun x => f x.1 x.2 := rfl
  rw [unfolded, Option.bind_eq_some_iff]
  constructor
  · rintro ⟨⟨a, s'⟩, run, rest⟩
    exact ⟨a, s', run, rest⟩
  · rintro ⟨a, s', run, rest⟩
    exact ⟨(a, s'), run, rest⟩

theorem Ends.bind {f : α → StateT σ Option β} {after : β → σ → Prop} (first : Ends p s post)
    (second : ∀ a s', post a s' → Ends (f a) s' after) : Ends (p >>= f) s after := by
  obtain ⟨a, s', run, done⟩ := first
  obtain ⟨b, s'', run', done'⟩ := second a s' done
  exact ⟨b, s'', bind_eq_some_iff.mpr ⟨a, s', run, run'⟩, done'⟩

theorem ends_ite {c : Prop} [Decidable c] {q : StateT σ Option α} (yes : c → Ends p s post)
    (no : ¬ c → Ends q s post) : Ends (if c then p else q) s post := by
  by_cases h : c
  · rw [if_pos h]
    exact yes h
  · rw [if_neg h]
    exact no h

/-- There is only one run: two postconditions that it ends in hold of the same answer and state. -/
theorem Ends.and (first : Ends p s post) (second : Ends p s post') : Ends p s fun a s' => post a s' ∧ post' a s' := by
  obtain ⟨a, s', run, done⟩ := first
  obtain ⟨a', s'', run', done'⟩ := second
  rw [run] at run'
  cases run'
  exact ⟨a, s', run, done, done'⟩

end Total
