import Mathlib.Data.Finset.Basic
import Mathlib.Logic.Function.Basic

/-! Heap blocks that are owned through a fixed set of slots. A slot that is written again forgets the
block it had: nothing else points to it, and nobody can free it. -/
namespace Slots

/-- The blocks that are allocated, the name of the next one, and what each slot points to. -/
structure Owner (Slot : Type) where
  live : Finset Nat
  next : Nat
  points : Slot → Option Nat

variable {Slot : Type}

namespace Owner

def fill [DecidableEq Slot] (o : Owner Slot) (s : Slot) : Owner Slot :=
  ⟨insert o.next o.live, o.next + 1, Function.update o.points s (some o.next)⟩

def clear [DecidableEq Slot] (o : Owner Slot) (s : Slot) : Owner Slot := { o with points := Function.update o.points s none }

/-- A block that is allocated and freed again. -/
def spill (o : Owner Slot) : Owner Slot := { o with next := o.next + 1 }

def release (o : Owner Slot) (s : Slot) : Owner Slot :=
  match o.points s with
  | some b => { o with live := o.live.erase b }
  | none => o

/-- The slots point to different blocks, all of them allocated, and none of them one of the others'. -/
structure Owns (others : Finset Nat) (o : Owner Slot) : Prop where
  mine : ∀ s b, o.points s = some b → b ∈ o.live ∧ b ∉ others
  apart : ∀ s t b, o.points s = some b → o.points t = some b → s = t
  below : ∀ b ∈ o.live, b < o.next
  kept : others ⊆ o.live

variable {others : Finset Nat} {o : Owner Slot} {s : Slot}

theorem Owns.next_not_live (owns : o.Owns others) : o.next ∉ o.live :=
  fun here => Nat.lt_irrefl _ (owns.below _ here)

theorem Owns.spill (owns : o.Owns others) : o.spill.Owns others :=
  ⟨owns.mine, owns.apart, fun b here => Nat.lt_succ_of_lt (owns.below b here), owns.kept⟩

section Writes

variable [DecidableEq Slot]

theorem points_fill (t : Slot) : (o.fill s).points t = if t = s then some o.next else o.points t := Function.update_apply _ _ _ _

theorem points_clear (t : Slot) : (o.clear s).points t = if t = s then none else o.points t := Function.update_apply _ _ _ _

theorem Owns.fill (owns : o.Owns others) (s : Slot) : (o.fill s).Owns others where
  mine := by
    intro t b holds
    rw [points_fill] at holds
    split at holds
    case isTrue here =>
      cases holds
      exact ⟨Finset.mem_insert_self _ _, fun other => owns.next_not_live (owns.kept other)⟩
    case isFalse => exact ⟨Finset.mem_insert_of_mem (owns.mine t b holds).1, (owns.mine t b holds).2⟩
  apart := by
    intro t u b first second
    rw [points_fill] at first second
    split at first
    case isTrue here =>
      cases first
      split at second
      case isTrue there => exact here.trans there.symm
      case isFalse => exact (owns.next_not_live (owns.mine u _ second).1).elim
    case isFalse =>
      split at second
      case isTrue =>
        cases second
        exact (owns.next_not_live (owns.mine t _ first).1).elim
      case isFalse => exact owns.apart t u b first second
  below := by
    intro b here
    rcases Finset.mem_insert.mp here with rfl | old
    · exact Nat.lt_succ_self _
    · exact Nat.lt_succ_of_lt (owns.below b old)
  kept := fun b other => Finset.mem_insert_of_mem (owns.kept other)

theorem Owns.clear (owns : o.Owns others) (s : Slot) : (o.clear s).Owns others where
  mine := by
    intro t b holds
    rw [points_clear] at holds
    split at holds
    case isTrue => cases holds
    case isFalse => exact owns.mine t b holds
  apart := by
    intro t u b first second
    rw [points_clear] at first second
    split at first
    case isTrue => cases first
    case isFalse =>
      split at second
      case isTrue => cases second
      case isFalse => exact owns.apart t u b first second
  below := owns.below
  kept := owns.kept

end Writes

end Owner

end Slots
