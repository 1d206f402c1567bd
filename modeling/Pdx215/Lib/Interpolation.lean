import Mathlib.Algebra.Order.Field.Basic
import Mathlib.Data.List.Infix
import Mathlib.Tactic.Linarith

/-! Interpolation along a list of points with increasing first coordinates. -/
namespace Interpolation

variable {K : Type} [Field K]

def line (p q : K × K) (x : K) : K := p.2 + (q.2 - p.2) / (q.1 - p.1) * (x - p.1)

@[simp] theorem line_left (p q : K × K) : line p q p.1 = p.2 := by
  rw [line, sub_self, mul_zero, add_zero]

variable [LinearOrder K]

/-- The line of the first segment that does not end before. -/
def interpolate : List (K × K) → K → K
  | [], _ => 0
  | [p], _ => p.2
  | p :: q :: points, x => if x ≤ q.1 then line p q x else interpolate (q :: points) x

section Line

variable {p q : K × K} {x : K}

theorem line_right (lt : p.1 < q.1) : line p q q.1 = q.2 := by
  have apart : q.1 - p.1 ≠ 0 := sub_ne_zero.mpr lt.ne'
  rw [line, div_mul_cancel₀ _ apart, add_sub_cancel]

theorem line_between [IsStrictOrderedRing K] (lt : p.1 < q.1) (lower : p.1 ≤ x) (upper : x ≤ q.1) :
    min p.2 q.2 ≤ line p q x ∧ line p q x ≤ max p.2 q.2 := by
  have positive : 0 < q.1 - p.1 := sub_pos.mpr lt
  -- the share of the way from one point to the other
  have share : line p q x = p.2 + (q.2 - p.2) * ((x - p.1) / (q.1 - p.1)) := by
    rw [line, div_mul_eq_mul_div, mul_div_assoc]
  have low : 0 ≤ (x - p.1) / (q.1 - p.1) := div_nonneg (sub_nonneg.mpr lower) positive.le
  have high : (x - p.1) / (q.1 - p.1) ≤ 1 := (div_le_one positive).mpr (sub_le_sub_right upper _)
  generalize (x - p.1) / (q.1 - p.1) = t at share low high
  rw [share]
  rcases le_total p.2 q.2 with up | down
  · rw [min_eq_left up, max_eq_right up]
    constructor
    · nlinarith
    · nlinarith
  · rw [min_eq_right down, max_eq_left down]
    constructor
    · nlinarith
    · nlinarith

end Line

variable {points : List (K × K)} {p q : K × K} {x : K}

theorem interpolate_node (sorted : points.Pairwise fun p q => p.1 < q.1) (member : p ∈ points) :
    interpolate points p.1 = p.2 := by
  induction points with
  | nil => cases member
  | cons a points ih =>
    cases points with
    | nil =>
      rw [List.mem_singleton.mp member]
      rfl
    | cons b points =>
      rw [List.pairwise_cons] at sorted
      have lt := sorted.1 b List.mem_cons_self
      rw [interpolate]
      rcases List.mem_cons.mp member with rfl | later
      · rw [if_pos lt.le, line_left]
      · rcases List.mem_cons.mp later with rfl | rest
        · rw [if_pos le_rfl, line_right lt]
        · have behind := (List.pairwise_cons.mp sorted.2).1 p rest
          rw [if_neg behind.not_ge]
          exact ih sorted.2 later

/-- Between neighbouring points it is the line through them. -/
theorem interpolate_eq_line (sorted : points.Pairwise fun p q => p.1 < q.1) (next : [p, q] <:+: points)
    (lower : p.1 ≤ x) (upper : x ≤ q.1) : interpolate points x = line p q x := by
  induction points with
  | nil => cases List.infix_nil.mp next
  | cons a points ih =>
    cases points with
    | nil =>
      have short := next.length_le
      simp at short
    | cons b points =>
      have sorted' := (List.pairwise_cons.mp sorted).2
      rw [interpolate]
      rcases List.infix_cons_iff.mp next with first | later
      · simp only [List.cons_prefix_cons] at first
        obtain ⟨rfl, rfl, -⟩ := first
        rw [if_pos upper]
      · by_cases before : x ≤ b.1
        · -- the common end of two segments
          have member : p ∈ b :: points := later.subset List.mem_cons_self
          rcases List.mem_cons.mp member with rfl | behind
          · have same : x = p.1 := le_antisymm before lower
            rw [if_pos before, same, line_right ((List.pairwise_cons.mp sorted).1 p List.mem_cons_self), line_left]
          · have lt := (List.pairwise_cons.mp sorted').1 p behind
            exact absurd (before.trans_lt lt) lower.not_gt
        · rw [if_neg before]
          exact ih sorted' later

end Interpolation
