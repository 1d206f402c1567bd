import Pdx215.Gpt.Swap

/-! What the string comparisons of gpt-utils decide: a C string is the part of its buffer in front of
the first zero. -/
namespace Pdx215.Gpt

def cstring (b : Bytes) : Bytes := b.takeWhile (· ≠ 0)

theorem cstring_nil : cstring [] = [] := rfl

theorem cstring_cons (x : UInt8) (b : Bytes) : cstring (x :: b) = if x = 0 then [] else x :: cstring b := by
  by_cases zero : x = 0
  · simp [cstring, zero]
  · simp [cstring, zero]

/-- The recursion of the comparisons, which look at one character of each string at a time. -/
theorem cstring_step (b : Bytes) :
    cstring b = if b.headD 0 = 0 then [] else b.headD 0 :: cstring b.tail := by
  cases b with
  | nil => rfl
  | cons x b => exact cstring_cons x b

theorem cstring_eq_nil_iff (b : Bytes) : cstring b = [] ↔ b[0]?.getD 0 = 0 := by
  rw [cstring_step, List.headD_eq_head?_getD, List.head?_eq_getElem?]
  split
  · simp_all
  · simp_all

theorem cstring_length_le (b : Bytes) : (cstring b).length ≤ b.length :=
  (List.takeWhile_prefix _).length_le

theorem zero_not_mem_cstring (b : Bytes) : 0 ∉ cstring b := by
  intro zero
  have all : (b.takeWhile (· ≠ 0)).all (· ≠ 0) = true := List.all_takeWhile
  simpa using List.all_eq_true.mp all 0 zero

theorem cstring_append {text : Bytes} (nonzero : 0 ∉ text) (b : Bytes) :
    cstring (text ++ b) = text ++ cstring b := by
  induction text with
  | nil => rfl
  | cons x text ih =>
    have head : x ≠ 0 := fun zero => nonzero (by simp [zero])
    rw [List.cons_append, cstring_cons, if_neg head, ih (fun h => nonzero (List.mem_cons_of_mem x h)),
      List.cons_append]

theorem cstring_eq_self {text : Bytes} (nonzero : 0 ∉ text) : cstring text = text := by
  have append := cstring_append nonzero []
  rwa [List.append_nil, cstring_nil, List.append_nil] at append

theorem cstring_append_zeros (b : Bytes) (n : Nat) : cstring (b ++ List.replicate n 0) = cstring b := by
  induction b with
  | nil =>
    cases n with
    | zero => rfl
    | succ n => rfl
  | cons x b ih => rw [List.cons_append, cstring_cons, cstring_cons, ih]

theorem strncmpEq_iff (n : Nat) (a b : Bytes) :
    strncmpEq n a b = true ↔ (cstring a).take n = (cstring b).take n := by
  induction n generalizing a b with
  | zero => simp [strncmpEq]
  | succ n ih =>
    rw [strncmpEq, cstring_step a, cstring_step b]
    generalize a.headD 0 = x
    generalize b.headD 0 = y
    by_cases same : x = y
    · by_cases zero : y = 0
      · simp [same, zero]
      · simp [same, zero, ih]
    · by_cases zero : x = 0
      · have other : y ≠ 0 := fun h => same (zero.trans h.symm)
        simp [zero, other, Ne.symm other]
      · by_cases other : y = 0
        · simp [zero, other]
        · simp [same, zero, other]

theorem strcmpEq_iff (a b : Bytes) : strcmpEq a b = true ↔ cstring a = cstring b := by
  have lengthA := cstring_length_le a
  have lengthB := cstring_length_le b
  rw [strcmpEq, strncmpEq_iff, List.take_of_length_le (by omega), List.take_of_length_le (by omega)]

/-- Comparing as many characters as a string has tells whether the other begins with it. -/
theorem strncmpEq_length_iff {text : Bytes} (nonzero : 0 ∉ text) (b : Bytes) :
    strncmpEq text.length text b = true ↔ text <+: b := by
  rw [strncmpEq_iff, cstring_eq_self nonzero, List.take_length, ← List.prefix_iff_eq_take]
  constructor
  · intro begins
    exact begins.trans (List.takeWhile_prefix _)
  · rintro ⟨rest, rfl⟩
    rw [cstring_append nonzero]
    exact List.prefix_append _ _

theorem strncmpEq_comm (n : Nat) (a b : Bytes) : strncmpEq n a b = strncmpEq n b a := by
  rw [Bool.eq_iff_iff, strncmpEq_iff, strncmpEq_iff, eq_comm]

theorem bak_nonzero : 0 ∉ bakPtnNameExt := by decide

def entryName (env : Env) (pentries : Bytes) (entry : Nat) : Bytes := cstring (name8 env pentries entry)

/-- An entry matches when its name is what the comparison sees of the given one, with or without the backup
suffix behind it. -/
theorem pentryMatches_iff_take (env : Env) {ptnName : Bytes} (nonzero : 0 ∉ ptnName) (pentries : Bytes)
    (entry : Nat) :
    pentryMatches env ptnName pentries entry = true ↔
      entryName env pentries entry = ptnName.take (nameLen ptnName) ∨
      entryName env pentries entry = ptnName.take (nameLen ptnName) ++ bakPtnNameExt := by
  have within : nameLen ptnName ≤ ptnName.length := Nat.mod_le _ _
  have seen : (ptnName.take (nameLen ptnName)).length = nameLen ptnName := by
    rw [List.length_take, Nat.min_eq_left within]
  have nonzero' : 0 ∉ ptnName.take (nameLen ptnName) := fun zero => nonzero (List.mem_of_mem_take zero)
  have compared (b : Bytes) :
      strncmpEq (nameLen ptnName) ptnName b = true ↔ ptnName.take (nameLen ptnName) <+: b := by
    rw [← strncmpEq_length_iff nonzero', strncmpEq_iff, strncmpEq_iff, cstring_eq_self nonzero,
      cstring_eq_self nonzero', seen, List.take_take, Nat.min_self]
  simp only [pentryMatches, entryName, Bool.and_eq_true, compared, Bool.or_eq_true, beq_iff_eq, strcmpEq_iff]
  generalize ptnName.take (nameLen ptnName) = text at seen nonzero' ⊢
  generalize name8 env pentries entry = name
  rw [← seen]
  by_cases begins : text <+: name
  · obtain ⟨rest, rfl⟩ := begins
    have stop : (text ++ rest)[text.length]? = rest[0]? := by
      rw [List.getElem?_append_right (Nat.le_refl _), Nat.sub_self]
    rw [cstring_append nonzero', List.drop_left, stop, ← cstring_eq_nil_iff]
    simp [cstring_eq_self bak_nonzero]
  · have longer : cstring name <+: name := List.takeWhile_prefix _
    have other : ∀ suffix, cstring name ≠ text ++ suffix := by
      rintro suffix named
      exact begins ((List.prefix_append text suffix).trans (named ▸ longer))
    have exact' : cstring name ≠ text := by simpa using other []
    simp [begins, other, exact']

theorem take_nameLen {ptnName : Bytes} (short : ptnName.length < 2 ^ 32) :
    ptnName.take (nameLen ptnName) = ptnName := by
  rw [nameLen, Nat.mod_eq_of_lt short, List.take_length]

/-- An entry matches a partition name when it has this name, or this name and the backup suffix. -/
theorem pentryMatches_iff (env : Env) {ptnName : Bytes} (nonzero : 0 ∉ ptnName)
    (short : ptnName.length < 2 ^ 32) (pentries : Bytes) (entry : Nat) :
    pentryMatches env ptnName pentries entry = true ↔
      entryName env pentries entry = ptnName ∨ entryName env pentries entry = ptnName ++ bakPtnNameExt := by
  rw [pentryMatches_iff_take env nonzero, take_nameLen short]

/-- The search visits `start`, `start + size` and so on while the name begins inside the array, and
ends at the first match. -/
theorem pentrySeekLoop_spec (env : Env) (ptnName pentries : Bytes) {size fuel start : Nat} (moves : 0 < size)
    (enough : pentries.length ≤ start + fuel) :
    (∃ m, pentrySeekLoop env ptnName pentries size fuel start = some (start + m * size) ∧
      start + m * size + partitionNameOffset < pentries.length ∧
      pentryMatches env ptnName pentries (start + m * size) = true ∧
      ∀ l, l < m → pentryMatches env ptnName pentries (start + l * size) ≠ true) ∨
    (pentrySeekLoop env ptnName pentries size fuel start = none ∧
      ∀ l, start + l * size + partitionNameOffset < pentries.length →
        pentryMatches env ptnName pentries (start + l * size) ≠ true) := by
  induction fuel generalizing start with
  | zero => exact .inr ⟨rfl, fun l inside => absurd inside (by omega)⟩
  | succ fuel ih =>
    have shift (l : Nat) : start + (l + 1) * size = start + size + l * size := by
      rw [Nat.succ_mul]
      omega
    rw [pentrySeekLoop]
    by_cases inside : start + partitionNameOffset < pentries.length
    · rw [if_pos inside]
      by_cases hit : pentryMatches env ptnName pentries start = true
      · rw [if_pos hit]
        refine .inl ⟨0, ?_⟩
        rw [Nat.zero_mul, Nat.add_zero]
        exact ⟨rfl, inside, hit, fun l before => absurd before (Nat.not_lt_zero l)⟩
      · rw [if_neg hit]
        have rest := @ih (start + size) (by omega)
        rcases rest with ⟨m, found, within, hits, first⟩ | ⟨missed, none'⟩
        · refine .inl ⟨m + 1, ?_⟩
          rw [shift]
          refine ⟨found, within, hits, fun l before => ?_⟩
          cases l with
          | zero => simpa using hit
          | succ l =>
            rw [shift]
            exact first l (by omega)
        · refine .inr ⟨missed, fun l within => ?_⟩
          cases l with
          | zero => simpa using hit
          | succ l =>
            rw [shift] at within ⊢
            exact none' l within
    · rw [if_neg inside]
      exact .inr ⟨rfl, fun l within => absurd within (by omega)⟩

end Pdx215.Gpt
