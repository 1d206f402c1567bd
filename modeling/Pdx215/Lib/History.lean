import Mathlib.Data.List.Induction

/-! The last element of a list that still stands: one after which nothing comes that ends it. -/
namespace History

variable {α : Type} {ends : α → Prop} {x x' y : α} {xs before before' : List α}

/-- After `before` comes `x`, and then nothing that ends it. -/
def Latest (ends : α → Prop) (x : α) (xs before : List α) : Prop :=
  ∃ after, xs = before ++ x :: after ∧ ∀ y ∈ after, ¬ ends y

theorem not_latest_nil : ¬ Latest ends x [] before := by
  rintro ⟨after, split, -⟩
  simp at split

theorem latest_append : Latest ends x (xs ++ [y]) before ↔
    y = x ∧ before = xs ∨ ¬ ends y ∧ Latest ends x xs before := by
  constructor
  · rintro ⟨after, split, lasts⟩
    induction after using List.reverseRecOn with
    | nil =>
      obtain ⟨same, last⟩ := List.append_inj' split rfl
      exact .inl ⟨List.singleton_inj.mp last, same.symm⟩
    | append_singleton after z _ =>
      rw [← List.cons_append, ← List.append_assoc] at split
      obtain ⟨same, last⟩ := List.append_inj' split rfl
      cases last
      refine .inr ⟨lasts y (by simp), after, same, fun z here => lasts z (by simp [here])⟩
  · rintro (⟨rfl, rfl⟩ | ⟨stays, after, rfl, lasts⟩)
    · exact ⟨[], rfl, nofun⟩
    · refine ⟨after ++ [y], by simp, fun z here => ?_⟩
      rcases List.mem_append.mp here with here | here
      · exact lasts z here
      · rw [List.mem_singleton.mp here]
        exact stays

theorem Latest.mem (latest : Latest ends x xs before) : x ∈ xs := by
  obtain ⟨after, rfl, -⟩ := latest
  simp

/-- Of elements that end each other only one is the latest. -/
theorem Latest.unique (latest : Latest ends x xs before) (latest' : Latest ends x' xs before') (one : ends x)
    (other : ends x') : before = before' ∧ x = x' := by
  induction xs using List.reverseRecOn with
  | nil => exact absurd latest not_latest_nil
  | append_singleton xs y ih =>
    rcases latest_append.mp latest with ⟨rfl, rfl⟩ | ⟨stays, early⟩
    · rcases latest_append.mp latest' with ⟨rfl, rfl⟩ | ⟨stays', -⟩
      · exact ⟨rfl, rfl⟩
      · exact absurd one stays'
    · rcases latest_append.mp latest' with ⟨rfl, rfl⟩ | ⟨-, early'⟩
      · exact absurd other stays
      · exact ih early early'

/-- Where something is that ends what comes before it, there is a latest such thing. -/
theorem exists_latest (ends : α → Prop) (here : y ∈ xs) (ending : ends y) :
    ∃ x before, ends x ∧ Latest ends x xs before := by
  induction xs using List.reverseRecOn with
  | nil => cases here
  | append_singleton xs z ih =>
    by_cases last : ends z
    · exact ⟨z, xs, last, latest_append.mpr (.inl ⟨rfl, rfl⟩)⟩
    · have early : y ∈ xs := by
        rcases List.mem_append.mp here with early | late
        · exact early
        · rw [List.mem_singleton] at late
          exact absurd (late ▸ ending) last
      obtain ⟨x, before, ends_x, latest⟩ := ih early
      exact ⟨x, before, ends_x, latest_append.mpr (.inr ⟨last, latest⟩)⟩

section Last

variable {β : Type} {f : α → Option β}

/-- What the last element says that says anything. -/
def last? (f : α → Option β) (xs : List α) : Option β := xs.reverse.findSome? f

theorem last?_append (xs : List α) (y : α) : last? f (xs ++ [y]) = (f y).or (last? f xs) := by
  rw [last?, List.reverse_append, List.reverse_singleton, List.singleton_append, List.findSome?_cons]
  cases f y with
  | none => rfl
  | some b => rfl

theorem last?_eq_none {xs : List α} (silent : ∀ x ∈ xs, f x = none) : last? f xs = none := by
  rw [last?, List.findSome?_eq_none_iff]
  exact fun x here => silent x (List.mem_reverse.mp here)

/-- A cell that is overwritten now and then holds what was written last. -/
theorem foldl_getD_eq (b : β) (xs : List α) : xs.foldl (fun c x => (f x).getD c) b = (last? f xs).getD b := by
  induction xs using List.reverseRecOn with
  | nil => rfl
  | append_singleton xs y ih =>
    rw [List.foldl_append, ih, last?_append, List.foldl_cons, List.foldl_nil]
    cases f y with
    | none => rfl
    | some c => rfl

theorem last?_map {γ : Type} (g : β → γ) (xs : List α) : last? (fun x => (f x).map g) xs = (last? f xs).map g := by
  induction xs using List.reverseRecOn with
  | nil => rfl
  | append_singleton xs y ih =>
    rw [last?_append, last?_append, ih]
    cases f y with
    | none => rfl
    | some b => rfl

/-- The last entries are the same; where one side has none, what was there `first` takes its place. -/
def Agree (first : β → Prop) : Option β → Option β → Prop
  | none, none => True
  | some b, none => first b
  | none, some b => first b
  | some b, some b' => b = b'

instance [DecidableEq β] (first : β → Prop) [DecidablePred first] (b b' : Option β) : Decidable (Agree first b b') :=
  match b, b' with
  | none, none => inferInstanceAs (Decidable True)
  | some b, none => inferInstanceAs (Decidable (first b))
  | none, some b => inferInstanceAs (Decidable (first b))
  | some b, some b' => inferInstanceAs (Decidable (b = b'))

theorem agree_iff {γ : Type} {g : β → γ} (injective : Function.Injective g) {c : γ} (b b' : Option β) :
    Agree (fun b => g b = c) b b' ↔ (b.map g).getD c = (b'.map g).getD c := by
  cases b with
  | none =>
    cases b' with
    | none => exact iff_of_true trivial rfl
    | some b' => exact eq_comm
  | some b =>
    cases b' with
    | none => exact Iff.rfl
    | some b' => exact injective.eq_iff.symm

/-- Behind a common last entry nothing counts. -/
theorem agree_or_iff {first : β → Prop} (last b b' : Option β) :
    Agree first (last.or b) (last.or b') ↔ (last = none → Agree first b b') := by
  cases last with
  | none => exact ⟨fun agree _ => agree, fun agree => agree rfl⟩
  | some c => exact iff_of_true rfl fun none => by cases none

end Last

section Latch

variable (good : α → Prop) [DecidablePred good]

/-- The first entry that is not good, and the last one if all are. -/
def latched (x : α) (xs : List α) : α :=
  ((x :: xs).find? fun y => ¬ good y).getD ((x :: xs).getLast (List.cons_ne_nil x xs))

variable {good}

theorem latched_of_forall (all : ∀ y ∈ x :: xs, good y) :
    latched good x xs = (x :: xs).getLast (List.cons_ne_nil x xs) := by
  have none : ((x :: xs).find? fun y => ¬ good y) = none := by
    rw [List.find?_eq_none]
    simpa using all
  rw [latched, none, Option.getD_none]

theorem good_latched_iff : good (latched good x xs) ↔ ∀ y ∈ x :: xs, good y := by
  constructor
  · intro fine y here
    by_contra bad
    cases found : (x :: xs).find? fun y => ¬ good y with
    | none => exact absurd bad (by simpa using List.find?_eq_none.mp found y here)
    | some z =>
      rw [latched, found, Option.getD_some] at fine
      exact absurd fine (by simpa using List.find?_some found)
  · intro all
    rw [latched_of_forall all]
    exact all _ (List.getLast_mem _)

/-- A cell that is overwritten as long as its contents are good. -/
theorem foldl_latch_eq (x : α) (xs : List α) : xs.foldl (fun c y => if good c then y else c) x = latched good x xs := by
  induction xs generalizing x with
  | nil =>
    by_cases fine : good x
    · rw [latched_of_forall (by simpa using fine)]
      rfl
    · simp [latched, fine]
  | cons y ys ih =>
    rw [List.foldl_cons, ih]
    by_cases fine : good x
    · simp [latched, fine]
    · simp [latched, fine]

end Latch

end History
