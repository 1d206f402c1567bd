import Mathlib.Data.List.Basic

/-! Reading and overwriting a region of a list. Overwriting never changes the length: what
does not fit behind the last element is dropped. All facts are derived from the two lookup
lemmas. -/
namespace Region

variable {α : Type}

def slice (d : List α) (off len : Nat) : List α := (d.drop off).take len

def splice (d : List α) (off : Nat) (b : List α) : List α :=
  d.take off ++ b.take (d.length - off) ++ d.drop (off + b.length)

def Inside (i off len : Nat) : Prop := off ≤ i ∧ i < off + len

/-- No index lies in both regions. Empty regions are apart from everything. -/
def Apart (off len off' len' : Nat) : Prop := ∀ i, ¬ (Inside i off len ∧ Inside i off' len')

theorem Apart.symm {off len off' len' : Nat} (h : Apart off len off' len') :
    Apart off' len' off len := fun i hi => h i ⟨hi.2, hi.1⟩

theorem apart_of_le {off len off' len' : Nat} (h : off + len ≤ off') :
    Apart off len off' len' := by
  rintro i ⟨⟨_, hi⟩, ⟨hi', _⟩⟩
  omega

theorem Apart.shrink {off len off' len' short : Nat} (h : Apart off len off' len') (le : short ≤ len) :
    Apart off short off' len' := by
  rintro i ⟨⟨lower, upper⟩, other⟩
  exact h i ⟨⟨lower, by omega⟩, other⟩

theorem apart_iff {off len off' len' : Nat} (positive : 0 < len) (positive' : 0 < len') :
    Apart off len off' len' ↔ off + len ≤ off' ∨ off' + len' ≤ off := by
  constructor
  · intro h
    by_contra overlap
    have := h (max off off')
    simp only [Inside] at this
    omega
  · rintro (h | h)
    · exact apart_of_le h
    · exact (apart_of_le h).symm

theorem getElem?_slice (d : List α) (off len i : Nat) :
    (slice d off len)[i]? = if i < len then d[off + i]? else none := by
  simp only [slice, List.getElem?_take, List.getElem?_drop]

theorem length_slice {d : List α} {off len : Nat} (fits : off + len ≤ d.length) :
    (slice d off len).length = len := by
  simp only [slice, List.length_take, List.length_drop]
  omega

@[simp] theorem length_splice (d : List α) (off : Nat) (b : List α) :
    (splice d off b).length = d.length := by
  simp only [splice, List.length_append, List.length_take, List.length_drop]
  omega

theorem getElem?_splice (d : List α) (off : Nat) (b : List α) (i : Nat) :
    (splice d off b)[i]? =
      if off ≤ i ∧ i < off + b.length ∧ i < d.length then b[i - off]? else d[i]? := by
  by_cases before : i < off
  · have outside : ¬ (off ≤ i ∧ i < off + b.length ∧ i < d.length) := by omega
    rw [if_neg outside]
    by_cases short : i < d.length
    · rw [splice, List.append_assoc, List.getElem?_append_left (by simp; omega), List.getElem?_take,
        if_pos before]
    · rw [List.getElem?_eq_none (by simpa using Nat.le_of_not_lt short),
        List.getElem?_eq_none (Nat.le_of_not_lt short)]
  · by_cases short : i < d.length
    · have lead : (d.take off).length = off := by simp; omega
      rw [splice, List.append_assoc, List.getElem?_append_right (by omega), lead]
      by_cases within : i < off + b.length
      · rw [if_pos ⟨by omega, within, short⟩, List.getElem?_append_left (by simp; omega),
          List.getElem?_take, if_pos (by omega)]
      · rw [if_neg (by omega), List.getElem?_append_right (by simp; omega), List.getElem?_drop]
        congr 1
        simp only [List.length_take]
        omega
    · rw [if_neg (by omega), List.getElem?_eq_none (by simpa using Nat.le_of_not_lt short),
        List.getElem?_eq_none (Nat.le_of_not_lt short)]

theorem slice_splice_same {d : List α} {off : Nat} {b : List α} (fits : off + b.length ≤ d.length) :
    slice (splice d off b) off b.length = b := by
  apply List.ext_getElem?
  intro i
  rw [getElem?_slice]
  by_cases within : i < b.length
  · rw [if_pos within, getElem?_splice, if_pos (by omega)]
    congr 1
    omega
  · rw [if_neg within, List.getElem?_eq_none (Nat.le_of_not_lt within)]

theorem slice_splice_apart {d : List α} {off off' len : Nat} {b : List α}
    (apart : Apart off b.length off' len) : slice (splice d off b) off' len = slice d off' len := by
  apply List.ext_getElem?
  intro i
  rw [getElem?_slice, getElem?_slice]
  by_cases within : i < len
  · have outside := apart (off' + i)
    simp only [Inside] at outside
    rw [if_pos within, if_pos within, getElem?_splice, if_neg (by omega)]
  · rw [if_neg within, if_neg within]

theorem splice_slice (d : List α) (off len : Nat) : splice d off (slice d off len) = d := by
  apply List.ext_getElem?
  intro i
  rw [getElem?_splice]
  split
  · rename_i within
    have bound : (slice d off len).length ≤ len := by
      rw [slice, List.length_take]
      exact Nat.min_le_left _ _
    rw [getElem?_slice, if_pos (by omega)]
    congr 1
    omega
  · rfl

/-- A write hides an earlier one at the same place that is not longer. -/
theorem splice_splice_same {d : List α} {off : Nat} {b c : List α} (cover : b.length ≤ c.length) :
    splice (splice d off b) off c = splice d off c := by
  apply List.ext_getElem?
  intro i
  rw [getElem?_splice, getElem?_splice, getElem?_splice, length_splice]
  split
  · rfl
  · rw [if_neg (by omega)]

theorem splice_comm {d : List α} {off off' : Nat} {b c : List α}
    (apart : Apart off b.length off' c.length) :
    splice (splice d off b) off' c = splice (splice d off' c) off b := by
  apply List.ext_getElem?
  intro i
  have outside := apart i
  simp only [Inside] at outside
  rw [getElem?_splice, getElem?_splice, getElem?_splice, getElem?_splice, length_splice, length_splice]
  split
  · rw [if_neg (by omega)]
  · rfl

end Region
