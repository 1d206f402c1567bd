import Pdx215.Lib.Decimal
import Pdx215.Vibrator.Strokes

/-! The levels of a PWLE composition as the amplifier reads them. A level is clipped first and then printed with one
digit, which may lift it over the limit again. -/
namespace Pdx215.Vibrator

open Effect

/-- Levels are printed with `setprecision(1)`. -/
def Numbers.stream (amplitudeToScale : Rat → Rat → BitVec 8) : Numbers := ⟨amplitudeToScale, Decimal.print⟩

theorem stream_prints (amplitudeToScale : Rat → Rat → BitVec 8) : (Numbers.stream amplitudeToScale).PrintsLevels :=
  ⟨Decimal.print_zero, Decimal.comma_not_mem_print⟩

/-! ### Limits -/

def Members.maxLevel (m : Members) (frequency : Rat) : Rat := min cs40l2xPwleLevelMax (m.levelLimit frequency)

/-- The level that is left of an amplitude is not rounded up, or not beyond the limit. -/
def Members.Printable (m : Members) (amplitude frequency : Rat) : Prop :=
  Decimal.RoundsDown (min amplitude (m.maxLevel frequency)) ∨
    Decimal.next (min amplitude (m.maxLevel frequency)) ≤ m.maxLevel frequency

instance (m : Members) (amplitude frequency : Rat) : Decidable (m.Printable amplitude frequency) :=
  inferInstanceAs (Decidable (_ ∨ _))

def PrimitivePwle.Printable (m : Members) : PrimitivePwle → Prop
  | .active a => m.Printable a.startAmplitude a.startFrequency ∧ m.Printable a.endAmplitude a.endFrequency
  | .braking _ => True

instance (m : Members) (e : PrimitivePwle) : Decidable (e.Printable m) :=
  match e with
  | .active a => inferInstanceAs (Decidable (m.Printable a.startAmplitude a.startFrequency ∧ _))
  | .braking _ => inferInstanceAs (Decidable True)

theorem capTo_eq_min (limit value : Rat) : capTo limit value = min value limit := by
  rw [capTo]
  split
  case isTrue above => exact (min_eq_right above.le).symm
  case isFalse below => exact (min_eq_left (not_lt.mp below)).symm

theorem clipped_eq_min (m : Members) (amplitude frequency : Rat) :
    capTo (m.levelLimit frequency) (capTo cs40l2xPwleLevelMax amplitude) = min amplitude (m.maxLevel frequency) := by
  rw [capTo_eq_min, capTo_eq_min, min_assoc, Members.maxLevel]

theorem printable_iff (m : Members) (amplitude frequency : Rat) :
    Decimal.nearest (capTo (m.levelLimit frequency) (capTo cs40l2xPwleLevelMax amplitude)) ≤ m.maxLevel frequency ↔
      m.Printable amplitude frequency := by
  rw [clipped_eq_min]
  exact Decimal.nearest_le_iff (min_le_right _ _)

/-! ### Strokes -/

def Stroke.Within (m : Members) (k : Stroke) : Prop := Decimal.nearest k.level ≤ m.maxLevel k.frequency

section Strokes

variable {m : Members} (positive : ∀ frequency, 0 ≤ m.maxLevel frequency)

include positive

theorem nearest_zero_le (frequency : Rat) : Decimal.nearest 0 ≤ m.maxLevel frequency := by
  have zero : Decimal.nearest 0 = 0 := by decide +kernel
  rw [zero]
  exact positive frequency

/-- A start point that is left out is one that has been printed before, or level 0. -/
theorem strokes_within_iff {level frequency : Rat} (now : Decimal.nearest level ≤ m.maxLevel frequency)
    (composite : List PrimitivePwle) :
    (∀ k ∈ m.strokes level frequency composite, k.Within m) ↔ ∀ e ∈ composite, e.Printable m := by
  induction composite generalizing level frequency with
  | nil => exact iff_of_true (fun k none => absurd none List.not_mem_nil) fun e none => absurd none List.not_mem_nil
  | cons e composite ih =>
    cases e with
    | active p =>
      have own : (∀ k ∈ (m.clip p).strokes level frequency, k.Within m) ↔
          (PrimitivePwle.active p).Printable m := by
        rw [PrimitivePwle.Printable, ← printable_iff, ← printable_iff]
        simp only [ActivePwle.strokes]
        split
        case isTrue held =>
          have start : Decimal.nearest (m.clip p).startAmplitude ≤ m.maxLevel p.startFrequency := by
            rw [held.1]
            exact held.2 ▸ now
          rw [List.forall_mem_singleton]
          exact (and_iff_right start).symm
        case isFalse =>
          rw [List.forall_mem_cons, List.forall_mem_singleton]
          rfl
      rw [Members.strokes, List.forall_mem_append, List.forall_mem_cons, own]
      exact and_congr_right fun first => ih ((printable_iff m _ _).mpr first.2)
    | braking p =>
      have silent : Stroke.Within m (.braking p.duration p.braking frequency) := nearest_zero_le positive frequency
      rw [Members.strokes, List.forall_mem_cons, List.forall_mem_cons]
      exact and_congr (iff_of_true silent trivial) (ih (nearest_zero_le positive frequency))

theorem strokes_level_nonneg {composite : List PrimitivePwle} (taken : ∀ e ∈ composite, e.Taken)
    (level frequency : Rat) : ∀ k ∈ m.strokes level frequency composite, 0 ≤ k.level := by
  have clipped {amplitude : Rat} (nonneg : 0 ≤ amplitude) (frequency : Rat) :
      0 ≤ capTo (m.levelLimit frequency) (capTo cs40l2xPwleLevelMax amplitude) := by
    rw [clipped_eq_min]
    exact le_min nonneg (positive frequency)
  induction composite generalizing level frequency with
  | nil => exact fun k none => absurd none List.not_mem_nil
  | cons e composite ih =>
    obtain ⟨first, rest⟩ := List.forall_mem_cons.mp taken
    cases e with
    | active p =>
      have own : ∀ k ∈ (m.clip p).strokes level frequency, 0 ≤ k.level := by
        have start := clipped first.startAmplitude.1 p.startFrequency
        have stop := clipped first.endAmplitude.1 p.endFrequency
        simp only [ActivePwle.strokes]
        split
        · exact List.forall_mem_singleton.mpr stop
        · exact List.forall_mem_cons.mpr ⟨start, List.forall_mem_singleton.mpr stop⟩
      exact List.forall_mem_append.mpr ⟨own, ih rest _ _⟩
    | braking p => exact List.forall_mem_cons.mpr ⟨le_refl _, ih rest _ _⟩

end Strokes

/-! ### What is read -/

def LevelWithin (m : Members) (g : Segment) (k : Stroke) : Prop :=
  ∃ level, Decimal.read g.target.level = some level ∧ level ≤ cs40l2xPwleLevelMax ∧ level ≤ m.levelLimit k.frequency

theorem read_level (amplitudeToScale : Rat → Rat → BitVec 8) {k : Stroke} (nonneg : 0 ≤ k.level) (number : Nat) :
    Decimal.read (k.segment (.stream amplitudeToScale) number).target.level = some (Decimal.nearest k.level) := by
  rw [← Decimal.read_print nonneg]
  cases k with
  | active duration level frequency => rfl
  | braking duration kind frequency => exact congrArg Decimal.read Decimal.print_zero.symm

theorem levelWithin_iff (amplitudeToScale : Rat → Rat → BitVec 8) (m : Members) {k : Stroke} (nonneg : 0 ≤ k.level)
    (number : Nat) : LevelWithin m (k.segment (.stream amplitudeToScale) number) k ↔ k.Within m := by
  rw [LevelWithin, read_level amplitudeToScale nonneg]
  constructor
  · rintro ⟨_, ⟨⟩, within⟩
    exact le_min within.1 within.2
  · exact fun within => ⟨_, rfl, within.trans (min_le_left _ _), within.trans (min_le_right _ _)⟩

theorem forall₂_levelWithin_iff (amplitudeToScale : Rat → Rat → BitVec 8) (m : Members) {ks : List Stroke}
    (nonneg : ∀ k ∈ ks, 0 ≤ k.level) (number : Nat) :
    List.Forall₂ (LevelWithin m) (numbered (.stream amplitudeToScale) number ks) ks ↔ ∀ k ∈ ks, k.Within m := by
  induction ks generalizing number with
  | nil => exact iff_of_true .nil fun k none => absurd none List.not_mem_nil
  | cons k ks ih =>
    obtain ⟨first, rest⟩ := List.forall_mem_cons.mp nonneg
    rw [List.forall_mem_cons, ← ih rest (number + 1), ← levelWithin_iff amplitudeToScale m first number]
    exact List.forall₂_cons

/-- What an accepted composition writes: every level is read as one within the limit of the amplifier and the limit at
the frequency that its stroke leads to, if and only if none of the clipped levels is rounded up beyond them. -/
theorem printed_levels_within_iff (amplitudeToScale : Rat → Rat → BitVec 8) (io : Nat → Outcome) (w : World)
    (limits : ∀ i, 0 ≤ w.members.pwleMaxLevelLimitMap i ∧ w.members.pwleMaxLevelLimitMap i ≤ 1)
    (composite : List PrimitivePwle)
    (accepted : (exec perform io (composePwle (.stream amplitudeToScale) composite) 0 w).1 = .ok) :
    ∃ text segments,
      (exec perform io (composePwle (.stream amplitudeToScale) composite) 0 w).2.pwles = text :: w.pwles ∧
      parsePwle text = some segments ∧
      segments = numbered (.stream amplitudeToScale) 0 (w.members.allStrokes composite) ∧
      (List.Forall₂ (LevelWithin w.members) segments (w.members.allStrokes composite) ↔
        ∀ e ∈ composite, e.Printable w.members) := by
  obtain ⟨_, written⟩ := exec_post (wp_composePwle_written composite) fun i => (trivial : (fun _ => True) (io i))
  obtain ⟨s, queue, pwles⟩ := written accepted
  obtain ⟨⟨-, -, -, taken⟩, rfl, -⟩ := (pwleQueue_eq_ok_iff composite s).mp queue
  have positive (frequency : Rat) : 0 ≤ w.members.maxLevel frequency := le_min (by decide +kernel) (limits _).1
  refine ⟨_, _, pwles, parse_strokes (stream_prints amplitudeToScale) _, rfl, ?_⟩
  have nonneg := strokes_level_nonneg positive taken 0 w.members.mResonantFrequency
  exact (forall₂_levelWithin_iff amplitudeToScale w.members nonneg 0).trans
    (strokes_within_iff positive (nearest_zero_le positive _) composite)

namespace Sample

def streamed : Numbers := .stream fun _ _ => 0

end Sample

/-- A level of one half is printed as it is. -/
theorem printed_levels_within_halves :
    ∃ text segments,
      (exec perform (fun _ => Sample.smooth) (composePwle Sample.streamed Sample.ramp) 0
        (World.start Sample.members)).2.pwles = [text] ∧
      parsePwle text = some segments ∧
      List.Forall₂ (LevelWithin Sample.members) segments (Sample.members.allStrokes Sample.ramp) := by
  have limits (i : Nat) : 0 ≤ Sample.members.pwleMaxLevelLimitMap i ∧ Sample.members.pwleMaxLevelLimitMap i ≤ 1 :=
    (by decide : (0 : Rat) ≤ 1 ∧ (1 : Rat) ≤ 1)
  obtain ⟨text, segments, pwles, parsed, -, within⟩ := printed_levels_within_iff (fun _ _ => 0)
    (fun _ => Sample.smooth) (World.start Sample.members) limits Sample.ramp (by decide +kernel)
  exact ⟨text, segments, pwles, parsed, within.mpr (by decide +kernel)⟩

/-- Full amplitude is clipped to 0.99, and printed as 1. -/
theorem printed_level_above_limit :
    (exec perform (fun _ => Sample.smooth) (composePwle Sample.streamed [.active ⟨1, 100, 1, 100, 10⟩]) 0
      (World.start Sample.members)).1 = .ok ∧
    (exec perform (fun _ => Sample.smooth) (composePwle Sample.streamed [.active ⟨1, 100, 1, 100, 10⟩]) 0
      (World.start Sample.members)).2.pwles =
        ["S:0,WF:4,RP:0,WT:0,T0:0,L0:1,F0:100,C0:1,B0:0,AR0:0,V0:0,T1:10,L1:1,F1:100,C1:1,B1:0,AR1:0,V1:0"] ∧
    Decimal.read "1" = some 1 ∧ cs40l2xPwleLevelMax < 1 := by
  decide +kernel

end Pdx215.Vibrator
