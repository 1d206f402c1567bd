import Mathlib.Algebra.Ring.Int.Defs

/-! Signed machine integers for which overflow is undefined: an operation has a result only if its exact
value is one of the type. A computation in them is an `Option`, and what it gives when it gives anything is
what exact arithmetic gives. -/
namespace Signed

/-- The values of a signed type of `w` bits. -/
def Fits (w : Nat) (n : Int) : Prop := -2 ^ (w - 1) ≤ n ∧ n < 2 ^ (w - 1)

instance (w : Nat) (n : Int) : Decidable (Fits w n) := inferInstanceAs (Decidable (_ ∧ _))

/-- The result of an operation whose exact value is `n`. -/
def checked (w : Nat) (n : Int) : Option Int := if Fits w n then some n else none

/-- A statement that is skipped, and leaves `a`, unless a condition holds. -/
def guarded {α : Type} (c : Prop) [Decidable c] (p : Option α) (a : α) : Option α := if c then p else some a

variable {α β : Type} {w : Nat} {n m : Int}

theorem checked_eq_some_iff : checked w n = some m ↔ Fits w n ∧ m = n := by
  rw [checked]
  split
  · rename_i fits
    rw [Option.some.injEq]
    exact ⟨fun same => ⟨fits, same.symm⟩, fun same => same.2.symm⟩
  · rename_i leaves
    constructor
    · intro none
      cases none
    · intro fits
      exact absurd fits.1 leaves

theorem checked_bind_eq_some_iff {f : Int → Option α} {a : α} :
    (checked w n).bind f = some a ↔ Fits w n ∧ f n = some a := by
  rw [Option.bind_eq_some_iff]
  constructor
  · rintro ⟨m, fits, result⟩
    obtain ⟨fits, rfl⟩ := checked_eq_some_iff.mp fits
    exact ⟨fits, result⟩
  · rintro ⟨fits, result⟩
    exact ⟨n, checked_eq_some_iff.mpr ⟨fits, rfl⟩, result⟩

theorem guarded_bind_eq_some_iff {c fits : Prop} [Decidable c] {p : Option α} {a value : α}
    {f : α → Option β} {b : β} (runs : ∀ v, p = some v ↔ fits ∧ v = value) :
    (guarded c p a).bind f = some b ↔ (c → fits) ∧ f (if c then value else a) = some b := by
  rw [guarded]
  by_cases h : c
  · rw [if_pos h, if_pos h, Option.bind_eq_some_iff]
    constructor
    · rintro ⟨v, ran, result⟩
      obtain ⟨fit, rfl⟩ := (runs v).mp ran
      exact ⟨fun _ => fit, result⟩
    · rintro ⟨fit, result⟩
      exact ⟨value, (runs value).mpr ⟨fit h, rfl⟩, result⟩
  · rw [if_neg h, if_neg h, Option.bind_some]
    exact ⟨fun result => ⟨fun held => absurd held h, result⟩, And.right⟩

end Signed
