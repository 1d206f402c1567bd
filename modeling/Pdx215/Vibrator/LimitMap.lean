import Mathlib.Data.Rat.Floor
import Pdx215.Lib.Interpolation
import Pdx215.Vibrator.Limits

/-! The map of the PWLE level limits is the interpolation of the table that it is made from. In each interval the
frequency and the index of the map run side by side, and both ends of the interval are written. -/
namespace Pdx215.Vibrator

open Interpolation

/-! ### The loops -/

/-- `pwleMaxLevelLimitMapIdx`, a number with fractions that is cut where it is used as an index. -/
def limitMapIdx (frequency : Rat) : Rat := (frequency - pwleFrequencyMinHz) / pwleFrequencyResolutionHz

/-- What the inner loop writes, with the index of each write. There is no result while it would still run. -/
def intervalWrites (p q : Rat × Rat) : Nat → Rat → Rat → Option (List (Int × Rat))
  | 0, _, _ => none
  | fuel + 1, xp, idx =>
    if xp < q.1 + pwleFrequencyResolutionHz then
      let yp := p.2 + (q.2 - p.2) / (q.1 - p.1) * (xp - p.1)
      (intervalWrites p q fuel (xp + pwleFrequencyResolutionHz) (idx + 1)).map ((⌊idx⌋, yp) :: ·)
    else some []

def intervalsWrites (fuel : Nat) : List (Rat × Rat) → Option (List (Int × Rat))
  | p :: q :: points => (intervalWrites p q fuel p.1 (limitMapIdx p.1)).bind fun now =>
      (intervalsWrites fuel (q :: points)).map (now ++ ·)
  | _ => some []

def limitWrites (fuel : Nat) : List (Rat × Rat) → Option (List (Int × Rat))
  | [] => some []
  | [p] => some [(⌊limitMapIdx p.1⌋, p.2)]
  | points => intervalsWrites fuel points

def storeLimits (limits : Nat → Rat) (writes : List (Int × Rat)) : Nat → Rat :=
  writes.foldl (fun limits write => Function.update limits write.1.toNat write.2) limits

/-- `createPwleMaxLevelLimitMap` with any table in the place of `discretePwleMaxLevels`. -/
def Object.createLimitMap (x : Object) (fuel : Nat) (table : List (Rat × Rat)) (probe : Probe) : Option Object :=
  let capabilities := x.getCapabilities probe
  if capabilities.1.frequencyControl then
    (limitWrites fuel table).map fun writes =>
      { capabilities.2 with
        members.pwleMaxLevelLimitMap := storeLimits capabilities.2.members.pwleMaxLevelLimitMap writes }
  else some capabilities.2

/-! ### Indices -/

theorem limitMapIdx_eq (frequency : Rat) : limitMapIdx frequency = frequency - 1 := by
  rw [limitMapIdx, pwleFrequencyMinHz, pwleFrequencyResolutionHz, div_one]

theorem floor_limitMapIdx_nonneg {frequency : Rat} (lower : pwleFrequencyMinHz ≤ frequency) :
    0 ≤ ⌊limitMapIdx frequency⌋ := by
  rw [Int.floor_nonneg, limitMapIdx_eq]
  exact sub_nonneg.mpr lower

def InMap (i : Int) : Prop := 0 ≤ i ∧ i < pwleBwMapSize

theorem inMap_floor_add {frequency last : Rat} (lower : pwleFrequencyMinHz ≤ frequency)
    (upper : last ≤ pwleFrequencyMaxHz) {k : Nat} (below : frequency - 1 + k < last) :
    InMap (⌊limitMapIdx frequency⌋ + k) := by
  have nonneg := floor_limitMapIdx_nonneg lower
  refine ⟨by omega, ?_⟩
  rw [← Int.floor_add_natCast, Int.floor_lt, limitMapIdx_eq]
  exact below.trans_le upper

/-! ### One interval -/

section Interval

variable {p q : Rat × Rat}

def turns (p q : Rat × Rat) : Nat := ⌈q.1 + pwleFrequencyResolutionHz - p.1⌉.toNat

def turnWrite (p q : Rat × Rat) (k : Nat) : Int × Rat :=
  (⌊limitMapIdx p.1⌋ + k, p.2 + (q.2 - p.2) / (q.1 - p.1) * (k * pwleFrequencyResolutionHz))

theorem lt_turns_iff (k : Nat) : k < turns p q ↔ p.1 + k < q.1 + pwleFrequencyResolutionHz := by
  rw [turns, Int.lt_toNat, Int.lt_ceil, lt_sub_iff_add_lt', Int.cast_natCast]

/-- After `k` turns both counters have moved on by `k`. -/
theorem intervalWrites_eq (fuel : Nat) {k : Nat} (within : k ≤ turns p q) :
    intervalWrites p q fuel (p.1 + k) (limitMapIdx p.1 + k) =
      if turns p q - k < fuel then some ((List.range' k (turns p q - k)).map (turnWrite p q)) else none := by
  induction fuel generalizing k with
  | zero => rw [if_neg (Nat.not_lt_zero _), intervalWrites]
  | succ fuel ih =>
    have step : pwleFrequencyResolutionHz = 1 := rfl
    rw [intervalWrites]
    by_cases more : k < turns p q
    · have write : (⌊limitMapIdx p.1 + k⌋, p.2 + (q.2 - p.2) / (q.1 - p.1) * (p.1 + k - p.1)) =
          turnWrite p q k := by
        rw [turnWrite, Int.floor_add_natCast, add_sub_cancel_left, step, mul_one]
      have next := @ih (k + 1) more
      rw [Nat.cast_add_one, ← add_assoc, ← add_assoc] at next
      have left : turns p q - k = turns p q - (k + 1) + 1 := by omega
      rw [if_pos ((lt_turns_iff k).mp more)]
      simp only [write, step, next]
      rw [left, List.range'_succ, List.map_cons]
      simp only [Nat.add_lt_add_iff_right]
      split
      · rfl
      · rfl
    · have done : turns p q - k = 0 := by omega
      rw [if_neg (fun less => more ((lt_turns_iff k).mpr less)), done, if_pos (Nat.succ_pos fuel)]
      rfl

theorem intervalWrites_start {fuel : Nat} (enough : turns p q < fuel) :
    intervalWrites p q fuel p.1 (limitMapIdx p.1) = some ((List.range (turns p q)).map (turnWrite p q)) := by
  have run := @intervalWrites_eq p q fuel 0 (Nat.zero_le _)
  rwa [Nat.cast_zero, add_zero, add_zero, Nat.sub_zero, if_pos enough, ← List.range_eq_range'] at run

theorem storeLimits_interval (lower : pwleFrequencyMinHz ≤ p.1) (limits : Nat → Rat) :
    storeLimits limits ((List.range (turns p q)).map (turnWrite p q)) = limitsBetween limits p q := by
  have index (k : Nat) : (turnWrite p q k).1.toNat = ⌊limitMapIdx p.1⌋.toNat + k := by
    rw [turnWrite, Int.toNat_add (floor_limitMapIdx_nonneg lower) (Int.natCast_nonneg k), Int.toNat_natCast]
  rw [storeLimits, List.foldl_map]
  simp only [index]
  rfl

end Interval

/-! ### The table -/

theorem storeLimits_append (limits : Nat → Rat) (first second : List (Int × Rat)) :
    storeLimits limits (first ++ second) = storeLimits (storeLimits limits first) second :=
  List.foldl_append

def InRange (points : List (Rat × Rat)) : Prop :=
  ∀ p ∈ points, pwleFrequencyMinHz ≤ p.1 ∧ p.1 ≤ pwleFrequencyMaxHz

instance (points : List (Rat × Rat)) : Decidable (InRange points) :=
  inferInstanceAs (Decidable (∀ p ∈ points, pwleFrequencyMinHz ≤ p.1 ∧ p.1 ≤ pwleFrequencyMaxHz))

theorem turns_le {p q : Rat × Rat} (lower : pwleFrequencyMinHz ≤ p.1) (upper : q.1 ≤ pwleFrequencyMaxHz) :
    turns p q ≤ pwleBwMapSize := by
  simp only [pwleFrequencyMinHz, pwleFrequencyMaxHz] at lower upper
  rw [turns, Int.toNat_le, Int.ceil_le, pwleBwMapSize, pwleFrequencyResolutionHz]
  push_cast
  linarith

theorem turnWrite_inMap {p q : Rat × Rat} (lower : pwleFrequencyMinHz ≤ p.1) (upper : q.1 ≤ pwleFrequencyMaxHz)
    {k : Nat} (turn : k < turns p q) : InMap (turnWrite p q k).1 := by
  have below := (lt_turns_iff k).mp turn
  rw [pwleFrequencyResolutionHz] at below
  exact inMap_floor_add lower upper (by linarith)

theorem intervalsWrites_spec {points : List (Rat × Rat)} (range : InRange points) :
    ∃ writes, intervalsWrites (pwleBwMapSize + 1) points = some writes ∧
      (∀ limits, storeLimits limits writes = limitsAlong limits points) ∧ ∀ w ∈ writes, InMap w.1 := by
  induction points with
  | nil => exact ⟨[], rfl, fun _ => rfl, List.forall_mem_nil _⟩
  | cons p points ih =>
    cases points with
    | nil => exact ⟨[], rfl, fun _ => rfl, List.forall_mem_nil _⟩
    | cons q points =>
      have lower := (range p List.mem_cons_self).1
      have upper := (range q (List.mem_cons_of_mem p List.mem_cons_self)).2
      obtain ⟨writes, run, stored, inside⟩ := ih fun r member => range r (List.mem_cons_of_mem p member)
      refine ⟨(List.range (turns p q)).map (turnWrite p q) ++ writes, ?_, fun limits => ?_, fun w member => ?_⟩
      · rw [intervalsWrites, intervalWrites_start (Nat.lt_succ_of_le (turns_le lower upper)), run]
        rfl
      · rw [storeLimits_append, storeLimits_interval lower, stored, limitsAlong]
      · rcases List.mem_append.mp member with first | later
        · obtain ⟨k, turn, rfl⟩ := List.mem_map.mp first
          exact turnWrite_inMap lower upper (List.mem_range.mp turn)
        · exact inside w later

/-- The loops end, no write misses the map, and the map is the one of the model that sets it at once. -/
theorem limitWrites_spec {points : List (Rat × Rat)} (range : InRange points) :
    ∃ writes, limitWrites (pwleBwMapSize + 1) points = some writes ∧
      (∀ limits, storeLimits limits writes = setLimits limits points) ∧ ∀ w ∈ writes, InMap w.1 := by
  cases points with
  | nil => exact ⟨[], rfl, fun _ => rfl, List.forall_mem_nil _⟩
  | cons p points =>
    cases points with
    | nil =>
      obtain ⟨lower, upper⟩ := range p List.mem_cons_self
      refine ⟨_, rfl, fun _ => rfl, fun w member => ?_⟩
      rw [List.mem_singleton.mp member]
      have index := @inMap_floor_add _ _ lower upper 0 (by rw [Nat.cast_zero]; linarith)
      rwa [Nat.cast_zero, add_zero] at index
    | cons q points => exact intervalsWrites_spec range

theorem createLimitMap_eq (x : Object) (actuator : Actuator) (probe : Probe) :
    x.createLimitMap (pwleBwMapSize + 1) actuator.discretePwleMaxLevels probe =
      some (x.createPwleMaxLevelLimitMap actuator probe) := by
  have range : InRange actuator.discretePwleMaxLevels := by
    cases actuator
    · decide +kernel
    · decide +kernel
    · decide +kernel
  obtain ⟨writes, run, stored, -⟩ := limitWrites_spec range
  rw [Object.createLimitMap, Object.createPwleMaxLevelLimitMap, run]
  simp only [Option.map_some, stored]
  split
  · rfl
  · rfl

/-! ### Interpolation -/

/-- A table with at least two integer frequencies, in the order of `std::map`. -/
structure LevelTable where
  first : Nat × Rat
  second : Nat × Rat
  rest : List (Nat × Rat)
  sorted : (first :: second :: rest).Pairwise fun p q => p.1 < q.1
  range : ∀ p ∈ first :: second :: rest, 1 ≤ p.1 ∧ p.1 ≤ 999

def exactPoint (p : Nat × Rat) : Rat × Rat := (p.1, p.2)

theorem exactPoint_sorted {levels : List (Nat × Rat)} (sorted : levels.Pairwise fun p q => p.1 < q.1) :
    (levels.map exactPoint).Pairwise fun p q => p.1 < q.1 :=
  sorted.map exactPoint fun _ _ lt => Nat.cast_lt.mpr lt

namespace LevelTable

variable (table : LevelTable)

def levels : List (Nat × Rat) := table.first :: table.second :: table.rest

def last : Nat × Rat := (table.second :: table.rest).getLast (List.cons_ne_nil _ _)

def points : List (Rat × Rat) := table.levels.map exactPoint

theorem points_inRange : InRange table.points := by
  intro p member
  obtain ⟨level, listed, rfl⟩ := List.mem_map.mp member
  obtain ⟨lower, upper⟩ := table.range level listed
  constructor
  · exact Nat.one_le_cast.mpr lower
  · exact Nat.cast_le_ofNat.mpr upper

theorem points_sorted : table.points.Pairwise fun p q => p.1 < q.1 := exactPoint_sorted table.sorted

variable {table}

theorem first_le {p : Nat × Rat} (member : p ∈ table.levels) : table.first.1 ≤ p.1 := by
  rcases List.mem_cons.mp member with rfl | later
  · exact Nat.le_refl _
  · exact ((List.pairwise_cons.mp table.sorted).1 p later).le

theorem le_last {p : Nat × Rat} (member : p ∈ table.levels) : p.1 ≤ table.last.1 := by
  have split : table.levels.dropLast ++ [table.last] = table.levels :=
    List.dropLast_append_getLast (List.cons_ne_nil _ _)
  have sorted : (table.levels.dropLast ++ [table.last]).Pairwise fun p q => p.1 < q.1 := by
    rw [split]
    exact table.sorted
  rw [← split] at member
  rcases List.mem_append.mp member with before | last
  · exact ((List.pairwise_append.mp sorted).2.2 p before _ List.mem_cons_self).le
  · rw [List.mem_singleton.mp last]

end LevelTable

/-- The map after the function: interpolated between the first and the last frequency, and as before elsewhere. -/
structure Interpolated (table : LevelTable) (before after : Nat → Rat) : Prop where
  inside : ∀ f, table.first.1 ≤ f → f ≤ table.last.1 → after (f - 1) = interpolate table.points f
  nodes : ∀ p ∈ table.levels, after (p.1 - 1) = p.2
  between : ∀ p q, [p, q] <:+: table.levels → ∀ f, p.1 ≤ f → f ≤ q.1 →
    min p.2 q.2 ≤ after (f - 1) ∧ after (f - 1) ≤ max p.2 q.2
  outside : ∀ i, i + 1 < table.first.1 ∨ table.last.1 < i + 1 → after i = before i

theorem foldl_update_range {n a : Nat} {value : Nat → Rat} (limits : Nat → Rat) (i : Nat) :
    (List.range n).foldl (fun limits k => Function.update limits (a + k) (value k)) limits i =
      if a ≤ i ∧ i < a + n then value (i - a) else limits i := by
  induction n with
  | zero => rw [if_neg (by omega), List.range_zero, List.foldl_nil]
  | succ n ih =>
    rw [List.range_succ, List.foldl_append, List.foldl_cons, List.foldl_nil, Function.update_apply, ih]
    by_cases here : i = a + n
    · rw [if_pos here, if_pos (by omega), here, Nat.add_sub_cancel_left]
    · have same : (a ≤ i ∧ i < a + (n + 1)) ↔ (a ≤ i ∧ i < a + n) := by omega
      rw [if_neg here]
      simp only [same]

theorem limitsBetween_apply {p q : Nat × Rat} (positive : 1 ≤ p.1) (lt : p.1 < q.1) (limits : Nat → Rat) (i : Nat) :
    limitsBetween limits (exactPoint p) (exactPoint q) i =
      if p.1 ≤ i + 1 ∧ i + 1 ≤ q.1 then line (exactPoint p) (exactPoint q) (i + 1 : Nat) else limits i := by
  have start : ⌊((p.1 : Rat) - pwleFrequencyMinHz) / pwleFrequencyResolutionHz⌋.toNat = p.1 - 1 := by
    change ⌊limitMapIdx p.1⌋.toNat = p.1 - 1
    rw [limitMapIdx_eq, ← Nat.cast_one, ← Nat.cast_sub positive, Int.floor_natCast, Int.toNat_natCast]
  have count : ⌈(q.1 : Rat) + pwleFrequencyResolutionHz - p.1⌉.toNat = q.1 + 1 - p.1 := by
    rw [pwleFrequencyResolutionHz, ← Nat.cast_one, ← Nat.cast_add, ← Nat.cast_sub (by omega), Int.ceil_natCast,
      Int.toNat_natCast]
  have inside : (p.1 - 1 ≤ i ∧ i < p.1 - 1 + (q.1 + 1 - p.1)) ↔ (p.1 ≤ i + 1 ∧ i + 1 ≤ q.1) := by omega
  simp only [limitsBetween, exactPoint, start, count, foldl_update_range, inside]
  split
  · next here =>
    have offset : ((i - (p.1 - 1) : Nat) : Rat) = (i + 1 : Nat) - p.1 := by
      rw [← Nat.cast_sub here.1]
      congr 1
      omega
    rw [line, offset, pwleFrequencyResolutionHz, mul_one]
  · rfl

theorem limitsAlong_apply {p q : Nat × Rat} {rest : List (Nat × Rat)}
    (sorted : (p :: q :: rest).Pairwise fun p q => p.1 < q.1) (positive : 1 ≤ p.1) (limits : Nat → Rat) (i : Nat) :
    limitsAlong limits ((p :: q :: rest).map exactPoint) i =
      if p.1 ≤ i + 1 ∧ i + 1 ≤ ((q :: rest).getLast (List.cons_ne_nil _ _)).1 then
        interpolate ((p :: q :: rest).map exactPoint) (i + 1 : Nat)
      else limits i := by
  have lt : p.1 < q.1 := (List.pairwise_cons.mp sorted).1 q List.mem_cons_self
  induction rest generalizing p q limits with
  | nil =>
    change limitsBetween limits (exactPoint p) (exactPoint q) i = _
    rw [limitsBetween_apply positive lt, List.getLast_singleton]
    by_cases here : p.1 ≤ i + 1 ∧ i + 1 ≤ q.1
    · rw [if_pos here, if_pos here]
      exact (if_pos (Nat.cast_le.mpr here.2)).symm
    · rw [if_neg here, if_neg here]
  | cons r rest ih =>
    have sorted' := (List.pairwise_cons.mp sorted).2
    have lt' : q.1 < r.1 := (List.pairwise_cons.mp sorted').1 r List.mem_cons_self
    have later : q.1 < ((r :: rest).getLast (List.cons_ne_nil _ _)).1 :=
      (List.pairwise_cons.mp sorted').1 _ (List.getLast_mem _)
    have rest' := ih sorted' (by omega) (limitsBetween limits (exactPoint p) (exactPoint q)) lt'
    change limitsAlong (limitsBetween limits (exactPoint p) (exactPoint q)) ((q :: r :: rest).map exactPoint) i = _
    rw [rest', limitsBetween_apply positive lt, List.getLast_cons (List.cons_ne_nil _ _)]
    rcases Nat.lt_trichotomy (i + 1) q.1 with before | node | behind
    · rw [if_neg (by omega)]
      by_cases here : p.1 ≤ i + 1
      · rw [if_pos ⟨here, before.le⟩, if_pos (by omega)]
        exact (if_pos (Nat.cast_le.mpr before.le)).symm
      · rw [if_neg (by omega), if_neg (by omega)]
    · -- the common end of two intervals is set twice, to the same value
      have value : interpolate ((q :: r :: rest).map exactPoint) (exactPoint q).1 = (exactPoint q).2 :=
        interpolate_node (exactPoint_sorted sorted') List.mem_cons_self
      have value' : interpolate ((p :: q :: r :: rest).map exactPoint) (exactPoint q).1 = (exactPoint q).2 :=
        interpolate_node (exactPoint_sorted sorted) (List.mem_cons_of_mem _ List.mem_cons_self)
      rw [if_pos (by omega), if_pos (by omega), node]
      exact value.trans value'.symm
    · rw [if_neg (show ¬ (p.1 ≤ i + 1 ∧ i + 1 ≤ q.1) by omega)]
      by_cases here : i + 1 ≤ ((r :: rest).getLast (List.cons_ne_nil _ _)).1
      · rw [if_pos ⟨behind.le, here⟩, if_pos ⟨by omega, here⟩]
        exact (if_neg (Nat.cast_lt.mpr behind).not_ge).symm
      · rw [if_neg (by omega), if_neg (by omega)]

theorem getCapabilities_limits (x : Object) (probe : Probe) :
    (x.getCapabilities probe).2.members.pwleMaxLevelLimitMap = x.members.pwleMaxLevelLimitMap := by
  simp only [Object.getCapabilities, Object.hasExternalControl, Object.hasHapticAlsaDevice]
  split
  · rfl
  · split
    · rfl
    · split
      · rfl
      · rfl

theorem interpolated_setLimits (table : LevelTable) (limits : Nat → Rat) :
    Interpolated table limits (setLimits limits table.points) := by
  have positive (p : Nat × Rat) (member : p ∈ table.levels) : 1 ≤ p.1 := (table.range p member).1
  have along (i : Nat) := limitsAlong_apply table.sorted (positive _ List.mem_cons_self) limits i
  change ∀ i, setLimits limits table.points i =
    if table.first.1 ≤ i + 1 ∧ i + 1 ≤ table.last.1 then interpolate table.points (i + 1 : Nat) else limits i at along
  have inside : ∀ f, table.first.1 ≤ f → f ≤ table.last.1 →
      setLimits limits table.points (f - 1) = interpolate table.points f := by
    intro f lower upper
    have shift : f - 1 + 1 = f := Nat.sub_add_cancel ((positive _ List.mem_cons_self).trans lower)
    rw [along, shift, if_pos ⟨lower, upper⟩]
  refine ⟨inside, ?_, ?_, ?_⟩
  · intro p member
    rw [inside p.1 (LevelTable.first_le member) (LevelTable.le_last member)]
    exact interpolate_node table.points_sorted (List.mem_map_of_mem (f := exactPoint) member)
  · intro p q next f lower upper
    have memberP : p ∈ table.levels := next.subset List.mem_cons_self
    have memberQ : q ∈ table.levels := next.subset (List.mem_cons_of_mem p List.mem_cons_self)
    have lt : p.1 < q.1 := (List.pairwise_cons.mp (table.sorted.sublist next.sublist)).1 q List.mem_cons_self
    have lower' : (exactPoint p).1 ≤ f := Nat.cast_le.mpr lower
    have upper' : (f : Rat) ≤ (exactPoint q).1 := Nat.cast_le.mpr upper
    have lt' : (exactPoint p).1 < (exactPoint q).1 := Nat.cast_lt.mpr lt
    rw [inside f ((LevelTable.first_le memberP).trans lower) (upper.trans (LevelTable.le_last memberQ)),
      interpolate_eq_line table.points_sorted (next.map exactPoint) lower' upper']
    exact line_between lt' lower' upper'
  · intro i outside
    rw [along, if_neg (by omega)]

/-- With frequency control the map is the interpolation of the table, and no other entry is written. -/
theorem limitMap_interpolates (x : Object) (table : LevelTable) (probe : Probe)
    (capable : (x.getCapabilities probe).1.frequencyControl = true) :
    ∃ writes x', limitWrites (pwleBwMapSize + 1) table.points = some writes ∧
      x.createLimitMap (pwleBwMapSize + 1) table.points probe = some x' ∧
      Interpolated table x.members.pwleMaxLevelLimitMap x'.members.pwleMaxLevelLimitMap ∧
      ∀ w ∈ writes, InMap w.1 := by
  obtain ⟨writes, run, stored, inside⟩ := limitWrites_spec table.points_inRange
  have made : x.createLimitMap (pwleBwMapSize + 1) table.points probe = some
      { (x.getCapabilities probe).2 with
        members.pwleMaxLevelLimitMap := setLimits x.members.pwleMaxLevelLimitMap table.points } := by
    rw [Object.createLimitMap, if_pos capable, run, Option.map_some, stored, getCapabilities_limits]
  exact ⟨writes, _, run, made, interpolated_setLimits table _, inside⟩

/-- The table of one of the actuators, whose levels have a notch at 145 Hz. -/
def Sample.notch : LevelTable where
  first := (120, 2 / 5)
  second := (130, 31 / 100)
  rest := [(140, 7 / 50), (145, 9 / 100), (150, 3 / 20), (160, 7 / 20), (170, 2 / 5)]
  sorted := by decide
  range := by decide

theorem limitMap_interpolates_notch :
    Sample.notch.points = Actuator.luxshareIct081545.discretePwleMaxLevels ∧
    (Sample.object.getCapabilities Sample.probe).1.frequencyControl = true ∧
    ∃ writes x', limitWrites (pwleBwMapSize + 1) Sample.notch.points = some writes ∧
      Sample.object.createLimitMap (pwleBwMapSize + 1) Sample.notch.points Sample.probe = some x' ∧
      Interpolated Sample.notch Sample.object.members.pwleMaxLevelLimitMap x'.members.pwleMaxLevelLimitMap ∧
      ∀ w ∈ writes, InMap w.1 :=
  ⟨rfl, rfl, limitMap_interpolates Sample.object Sample.notch Sample.probe rfl⟩

end Pdx215.Vibrator
