import Pdx215.Lib.Signed
import Pdx215.Power.Report

/-! The PID controller in the integers that it is written in: `int64_t` for the errors and the sums, `int`
for the minimum. A signed operation that leaves its type has no result here, and neither has the conversion
of a floating-point value that is too large; `static_cast<int>` of the output keeps its low 32 bits. -/
namespace Pdx215.Power

open Effect Signed

def pidRound64 (cfg : AdpfConfig) (target : Int) (length i : Nat) (actual : WorkDuration) (a : PidSums) :
    Option PidSums := do
  -- the two sides of the comparison that decides about a warning
  let _ ← checked 64 actual.durationNanos.natAbs
  let _ ← checked 64 (target * 20)
  let late ← checked 64 (actual.durationNanos - target)
  let error := nsTo100us late
  let derivativeSum ← guarded (windowStart cfg.mSamplingWindowD length ≤ i)
    ((checked 64 (error - a.previousError)).bind fun difference => checked 64 (a.derivativeSum + difference))
    a.derivativeSum
  let errSum ← guarded (windowStart cfg.mSamplingWindowP length ≤ i) (checked 64 (a.errSum + error)) a.errSum
  let integralError ← guarded (windowStart cfg.mSamplingWindowI length ≤ i)
    ((checked 64 (error * nsTo100us target)).bind fun product =>
      (checked 64 (a.integralError + product)).bind fun widened =>
        some (max cfg.pidILowDivI (min cfg.pidIHighDivI widened)))
    a.integralError
  some ⟨integralError, error, errSum, derivativeSum⟩

def pidLoop64 (cfg : AdpfConfig) (target : Int) (length : Nat) :
    Nat → List WorkDuration → PidSums → Option PidSums
  | _, [], a => some a
  | i, d :: ds, a => (pidRound64 cfg target length i d a).bind (pidLoop64 cfg target length (i + 1) ds)

def pidOutput64 (cfg : AdpfConfig) (target : Int) (length : Nat) (a : PidSums) : Option Int := do
  let p ← checked 64 (pOut cfg length a.errSum)
  let i ← checked 64 (iOut cfg a.integralError)
  let term ← dOut cfg target length a.derivativeSum
  let d ← checked 64 term
  let both ← checked 64 (p + i)
  checked 64 (both + d)

def convertWorkDurationToBoostByPid64 (cfg : AdpfConfig) (target : Int) (actual : List WorkDuration)
    (integralError previousError : Int) : Option (Int × Int × Int) := do
  let sums ← pidLoop64 cfg target actual.length (pidFirst cfg actual.length)
    (actual.drop (pidFirst cfg actual.length)) ⟨integralError, previousError, 0, 0⟩
  let output ← pidOutput64 cfg target actual.length sums
  some (output, sums.integralError, sums.previousError)

/-- `next_min` as `reportActualWorkDuration` computes it. -/
def Session.nextMin64 (cfg : AdpfConfig) (x : Session) (actual : List WorkDuration) : Option Int := do
  let r ← convertWorkDurationToBoostByPid64 cfg x.duration actual x.integralError x.previousError
  let raised ← checked 32 (x.currentMin + toInt32 r.1)
  some (max (fromUInt32 cfg.mUclampMinLow) (min (fromUInt32 cfg.mUclampMinHigh) raised))

/-- `next_min` as it is meant: every value is an unbounded integer. -/
def Session.intendedMin (cfg : AdpfConfig) (x : Session) (actual : List WorkDuration) : Int :=
  max (cfg.mUclampMinLow : Int) (min (cfg.mUclampMinHigh : Int) (x.currentMin +
    (convertWorkDurationToBoostByPid cfg x.duration actual x.integralError x.previousError).1))

/-! ### One round and the loop -/

structure RoundFits (cfg : AdpfConfig) (target : Int) (length i : Nat) (actual : WorkDuration) (a : PidSums) :
    Prop where
  size : Fits 64 actual.durationNanos.natAbs
  far : Fits 64 (target * 20)
  late : Fits 64 (actual.durationNanos - target)
  derivative : windowStart cfg.mSamplingWindowD length ≤ i →
    Fits 64 (nsTo100us (actual.durationNanos - target) - a.previousError) ∧
      Fits 64 (a.derivativeSum + (nsTo100us (actual.durationNanos - target) - a.previousError))
  sum : windowStart cfg.mSamplingWindowP length ≤ i →
    Fits 64 (a.errSum + nsTo100us (actual.durationNanos - target))
  integral : windowStart cfg.mSamplingWindowI length ≤ i →
    Fits 64 (nsTo100us (actual.durationNanos - target) * nsTo100us target) ∧
      Fits 64 (a.integralError + nsTo100us (actual.durationNanos - target) * nsTo100us target)

section Loop

variable {cfg : AdpfConfig} {target : Int} {length i : Nat} {a b : PidSums}

theorem pidRound64_eq_some_iff {d : WorkDuration} : pidRound64 cfg target length i d a = some b ↔
    RoundFits cfg target length i d a ∧ b = pidRound cfg target length i d a := by
  have derivative (error v : Int) : ((checked 64 (error - a.previousError)).bind fun difference =>
      checked 64 (a.derivativeSum + difference)) = some v ↔
      (Fits 64 (error - a.previousError) ∧ Fits 64 (a.derivativeSum + (error - a.previousError))) ∧
        v = a.derivativeSum + (error - a.previousError) := by
    rw [checked_bind_eq_some_iff, checked_eq_some_iff, and_assoc]
  have integral (error v : Int) : ((checked 64 (error * nsTo100us target)).bind fun product =>
      (checked 64 (a.integralError + product)).bind fun widened =>
        some (max cfg.pidILowDivI (min cfg.pidIHighDivI widened))) = some v ↔
      (Fits 64 (error * nsTo100us target) ∧ Fits 64 (a.integralError + error * nsTo100us target)) ∧
        v = max cfg.pidILowDivI (min cfg.pidIHighDivI (a.integralError + error * nsTo100us target)) := by
    rw [checked_bind_eq_some_iff, checked_bind_eq_some_iff, and_assoc, Option.some.injEq, eq_comm (b := v)]
  simp only [pidRound64, Option.bind_eq_bind]
  rw [checked_bind_eq_some_iff, checked_bind_eq_some_iff, checked_bind_eq_some_iff,
    guarded_bind_eq_some_iff (derivative _), guarded_bind_eq_some_iff fun v => checked_eq_some_iff,
    guarded_bind_eq_some_iff (integral _), Option.some.injEq]
  constructor
  · rintro ⟨size, far, late, derivative, sum, integral, rfl⟩
    exact ⟨⟨size, far, late, derivative, sum, integral⟩, rfl⟩
  · rintro ⟨fits, rfl⟩
    exact ⟨fits.size, fits.far, fits.late, fits.derivative, fits.sum, fits.integral, rfl⟩

/-- The loop has a result when every round fits, from the sums that exact arithmetic gives. -/
theorem pidLoop64_eq_some_iff {ds : List WorkDuration} : pidLoop64 cfg target length i ds a = some b ↔
    (∀ k d, ds[k]? = some d →
      RoundFits cfg target length (i + k) d (pidLoop cfg target length i (ds.take k) a)) ∧
      b = pidLoop cfg target length i ds a := by
  induction ds generalizing i a with
  | nil => simp [pidLoop64, pidLoop, eq_comm]
  | cons d ds ih =>
    rw [pidLoop64, Option.bind_eq_some_iff]
    constructor
    · rintro ⟨c, round, rest⟩
      obtain ⟨fits, rfl⟩ := pidRound64_eq_some_iff.mp round
      obtain ⟨later, rfl⟩ := ih.mp rest
      refine ⟨fun k e found => ?_, rfl⟩
      cases k with
      | zero =>
        cases found
        exact fits
      | succ k =>
        have step := later k e found
        rw [Nat.add_assoc, Nat.add_comm 1] at step
        exact step
    · rintro ⟨fits, rfl⟩
      refine ⟨_, pidRound64_eq_some_iff.mpr ⟨fits 0 d rfl, rfl⟩, ih.mpr ⟨fun k e found => ?_, rfl⟩⟩
      have step := fits (k + 1) e found
      rw [Nat.add_assoc, Nat.add_comm 1]
      exact step

end Loop

/-! ### The loop in terms of the report -/

/-- No round of the loop leaves `int64_t`: every duration is within reach of the target, the stored error is
close to the errors that it is compared with, and the sum and the integral stay small from sample to
sample. -/
structure SumsFit (cfg : AdpfConfig) (target : Int) (actual : List WorkDuration)
    (integralError previousError : Int) : Prop where
  far : target * 20 < 2 ^ 63
  late : ∀ d ∈ actual.drop (pidFirst cfg actual.length), -2 ^ 63 ≤ d.durationNanos - target
  derivative : windowStart cfg.mSamplingWindowD actual.length ≤ pidFirst cfg actual.length →
    ∀ e ∈ windowed cfg.mSamplingWindowD (pidErrors target actual), Fits 64 (e - previousError)
  sum : ∀ k e, (windowed cfg.mSamplingWindowP (pidErrors target actual))[k]? = some e →
    Fits 64 (((windowed cfg.mSamplingWindowP (pidErrors target actual)).take k).sum + e)
  integral : ∀ k e, (windowed cfg.mSamplingWindowI (pidErrors target actual))[k]? = some e →
    Fits 64 (e * nsTo100us target) ∧
      Fits 64 (((windowed cfg.mSamplingWindowI (pidErrors target actual)).take k).foldl
        (antiWindup cfg (nsTo100us target)) integralError + e * nsTo100us target)

section Rounds

variable {cfg : AdpfConfig} {target integralError previousError : Int} {actual : List WorkDuration} {k : Nat}

def pidBefore (cfg : AdpfConfig) (target : Int) (actual : List WorkDuration) (integralError previousError : Int)
    (k : Nat) : PidSums :=
  pidLoop cfg target actual.length (pidFirst cfg actual.length)
    ((actual.drop (pidFirst cfg actual.length)).take k) ⟨integralError, previousError, 0, 0⟩

theorem pidErrors_take (target : Int) (actual : List WorkDuration) (k : Nat) :
    pidErrors target (actual.take k) = (pidErrors target actual).take k :=
  List.map_take

theorem seen_of_window {window : Nat} (after : pidFirst cfg actual.length ≤ windowStart window actual.length) :
    (pidErrors target ((actual.drop (pidFirst cfg actual.length)).take k)).drop
        (windowStart window actual.length - pidFirst cfg actual.length) =
      (windowed window (pidErrors target actual)).take
        (k - (windowStart window actual.length - pidFirst cfg actual.length)) := by
  rw [pidErrors_take, pidErrors_drop, List.drop_take, List.drop_drop, Nat.add_sub_cancel' after, windowed_eq_drop,
    length_pidErrors]

theorem first_le_P : pidFirst cfg actual.length ≤ windowStart cfg.mSamplingWindowP actual.length :=
  Nat.min_le_left _ _

theorem first_le_I : pidFirst cfg actual.length ≤ windowStart cfg.mSamplingWindowI actual.length :=
  (Nat.min_le_right _ _).trans (Nat.min_le_left _ _)

theorem first_le_D : pidFirst cfg actual.length ≤ windowStart cfg.mSamplingWindowD actual.length :=
  (Nat.min_le_right _ _).trans (Nat.min_le_right _ _)

theorem pidBefore_errSum : (pidBefore cfg target actual integralError previousError k).errSum =
    ((windowed cfg.mSamplingWindowP (pidErrors target actual)).take
      (k - (windowStart cfg.mSamplingWindowP actual.length - pidFirst cfg actual.length))).sum := by
  rw [pidBefore, pidLoop_errSum, seen_of_window first_le_P, Int.zero_add]

theorem pidBefore_integralError : (pidBefore cfg target actual integralError previousError k).integralError =
    ((windowed cfg.mSamplingWindowI (pidErrors target actual)).take
      (k - (windowStart cfg.mSamplingWindowI actual.length - pidFirst cfg actual.length))).foldl
        (antiWindup cfg (nsTo100us target)) integralError := by
  rw [pidBefore, pidLoop_integralError, seen_of_window first_le_I]

/-- The derivative so far and the next difference make up one difference. -/
theorem pidBefore_derivativeSum (begun : windowStart cfg.mSamplingWindowD actual.length ≤
      pidFirst cfg actual.length + k) (within : k < (actual.drop (pidFirst cfg actual.length)).length) (e : Int) :
    (pidBefore cfg target actual integralError previousError k).derivativeSum +
        (e - (pidBefore cfg target actual integralError previousError k).previousError) =
      e - errorBefore cfg target actual previousError := by
  have sizes : (pidErrors target ((actual.drop (pidFirst cfg actual.length)).take k)).length = k := by
    rw [length_pidErrors, List.length_take]
    omega
  have reached : windowStart cfg.mSamplingWindowD actual.length - pidFirst cfg actual.length ≤
      (pidErrors target ((actual.drop (pidFirst cfg actual.length)).take k)).length := by omega
  have same : (previousError :: pidErrors target ((actual.drop (pidFirst cfg actual.length)).take k)).getD
      (windowStart cfg.mSamplingWindowD actual.length - pidFirst cfg actual.length) 0 =
        errorBefore cfg target actual previousError := by
    have taken : previousError :: pidErrors target ((actual.drop (pidFirst cfg actual.length)).take k) =
        (previousError :: (pidErrors target actual).drop (pidFirst cfg actual.length)).take (k + 1) := by
      rw [pidErrors_take, pidErrors_drop, List.take_succ_cons]
    rw [taken, List.getD_eq_getElem?_getD, List.getElem?_take, if_pos (by omega), ← List.getD_eq_getElem?_getD,
      getD_errorBefore]
  rw [pidBefore, pidLoop_derivativeSum, pidLoop_previousError, Int.zero_add, sum_drop_differences reached,
    same]
  omega

/-- The sample behind an error of a window, as the loop meets it. -/
theorem sample_of_window {window : Nat} {e : Int}
    (after : pidFirst cfg actual.length ≤ windowStart window actual.length)
    (found : (windowed window (pidErrors target actual))[k]? = some e) :
    ∃ d, (actual.drop (pidFirst cfg actual.length))[windowStart window actual.length -
      pidFirst cfg actual.length + k]? = some d ∧ nsTo100us (d.durationNanos - target) = e := by
  rw [windowed_eq_drop, length_pidErrors, List.getElem?_drop, pidErrors, List.getElem?_map,
    Option.map_eq_some_iff] at found
  obtain ⟨d, found, error⟩ := found
  refine ⟨d, ?_, error⟩
  rw [List.getElem?_drop, ← Nat.add_assoc, Nat.add_sub_cancel' after]
  exact found

theorem window_of_sample {window : Nat} {d : WorkDuration}
    (after : pidFirst cfg actual.length ≤ windowStart window actual.length)
    (begun : windowStart window actual.length ≤ pidFirst cfg actual.length + k)
    (found : (actual.drop (pidFirst cfg actual.length))[k]? = some d) :
    (windowed window (pidErrors target actual))[k - (windowStart window actual.length -
      pidFirst cfg actual.length)]? = some (nsTo100us (d.durationNanos - target)) := by
  have at_ : windowStart window actual.length + (k - (windowStart window actual.length -
      pidFirst cfg actual.length)) = pidFirst cfg actual.length + k := by omega
  rw [List.getElem?_drop] at found
  rw [windowed_eq_drop, length_pidErrors, List.getElem?_drop, at_, pidErrors, List.getElem?_map, found]
  rfl

theorem natAbs_nsTo100us_le {n : Int} (fits : Fits 64 n) : (nsTo100us n).natAbs ≤ 92233720368547 := by
  have bound : n.natAbs ≤ 2 ^ 63 := by
    obtain ⟨lower, upper⟩ := fits
    simp only [Nat.reduceSub, Int.reducePow] at lower upper
    omega
  rw [nsTo100us, Int.natAbs_tdiv]
  exact (Nat.div_le_div_right bound).trans (by decide)

theorem difference_fits {m n : Int} (first : Fits 64 m) (second : Fits 64 n) :
    Fits 64 (nsTo100us m - nsTo100us n) := by
  have := natAbs_nsTo100us_le first
  have := natAbs_nsTo100us_le second
  simp only [Fits, Nat.reduceSub, Int.reducePow]
  omega

/-- The previous error that a round finds is the stored one or that of a sample. -/
theorem pidBefore_previousError (target integralError previousError : Int)
    (within : k < (actual.drop (pidFirst cfg actual.length)).length) :
    k = 0 ∧ (pidBefore cfg target actual integralError previousError k).previousError = previousError ∨
      ∃ d ∈ actual.drop (pidFirst cfg actual.length),
        (pidBefore cfg target actual integralError previousError k).previousError =
          nsTo100us (d.durationNanos - target) := by
  rw [pidBefore, pidLoop_previousError, pidErrors, List.getLastD_eq_getLast?, List.getLast?_map]
  cases last : ((actual.drop (pidFirst cfg actual.length)).take k).getLast? with
  | none =>
    rw [List.getLast?_eq_none_iff, List.take_eq_nil_iff] at last
    rcases last with zero | empty
    · exact .inl ⟨zero, rfl⟩
    · rw [empty] at within
      exact absurd within (Nat.not_lt_zero k)
  | some d => exact .inr ⟨d, List.mem_of_mem_take (List.mem_of_getLast? last), rfl⟩

theorem errorBefore_sample (reported : actual ≠ []) :
    windowStart cfg.mSamplingWindowD actual.length ≤ pidFirst cfg actual.length ∧
        errorBefore cfg target actual previousError = previousError ∨
      ∃ d ∈ actual.drop (pidFirst cfg actual.length),
        errorBefore cfg target actual previousError = nsTo100us (d.durationNanos - target) := by
  have start : windowStart cfg.mSamplingWindowD actual.length < actual.length :=
    windowStart_lt (List.length_pos_iff.mpr reported)
  rw [errorBefore]
  split
  · rename_i first
    exact .inl ⟨first, rfl⟩
  · rename_i later
    have within : windowStart cfg.mSamplingWindowD actual.length - 1 < actual.length := by omega
    refine .inr ⟨actual[windowStart cfg.mSamplingWindowD actual.length - 1], ?_, ?_⟩
    · rw [List.mem_drop_iff_getElem]
      refine ⟨windowStart cfg.mSamplingWindowD actual.length - 1 - pidFirst cfg actual.length, by omega, ?_⟩
      congr 1
      omega
    · rw [List.getD_eq_getElem?_getD, pidErrors, List.getElem?_map, List.getElem?_eq_getElem within]
      rfl

theorem SumsFit.of_rounds (reported : actual ≠ [])
    (rounds : ∀ k d, (actual.drop (pidFirst cfg actual.length))[k]? = some d →
      RoundFits cfg target actual.length (pidFirst cfg actual.length + k) d
        (pidBefore cfg target actual integralError previousError k)) :
    SumsFit cfg target actual integralError previousError := by
  have started : pidFirst cfg actual.length < actual.length := pidFirst_lt reported
  refine ⟨?_, fun d member => ?_, fun first e member => ?_, fun k e found => ?_, fun k e found => ?_⟩
  · have sample : (actual.drop (pidFirst cfg actual.length))[0]? = some actual[pidFirst cfg actual.length] := by
      rw [List.getElem?_drop]
      exact List.getElem?_eq_getElem started
    exact (rounds 0 _ sample).far.2
  · obtain ⟨k, found⟩ := List.mem_iff_getElem?.mp member
    exact (rounds k d found).late.1
  · obtain ⟨k, found⟩ := List.mem_iff_getElem?.mp member
    obtain ⟨d, sample, rfl⟩ := sample_of_window first_le_D found
    have fits := ((rounds _ d sample).derivative (by omega)).2
    rw [pidBefore_derivativeSum (by omega) (List.getElem?_eq_some_iff.mp sample).1, errorBefore,
      if_pos first] at fits
    exact fits
  · obtain ⟨d, sample, rfl⟩ := sample_of_window first_le_P found
    have fits := (rounds _ d sample).sum (by omega)
    rw [pidBefore_errSum, Nat.add_sub_cancel_left] at fits
    exact fits
  · obtain ⟨d, sample, rfl⟩ := sample_of_window first_le_I found
    have fits := (rounds _ d sample).integral (by omega)
    rw [pidBefore_integralError, Nat.add_sub_cancel_left] at fits
    exact fits

theorem SumsFit.late_fits (fits : SumsFit cfg target actual integralError previousError)
    (durations : ∀ d ∈ actual, Fits 64 d.durationNanos) (positive : 0 < target) :
    ∀ d ∈ actual.drop (pidFirst cfg actual.length), Fits 64 (d.durationNanos - target) := by
  intro d member
  have typed := (durations d (List.mem_of_mem_drop member)).2
  have lower := fits.late d member
  simp only [Fits, Nat.reduceSub, Int.reducePow] at typed lower ⊢
  omega

/-- The differences between samples always fit, so that only the stored error can be too far away. -/
theorem SumsFit.derivative_fits (fits : SumsFit cfg target actual integralError previousError)
    (durations : ∀ d ∈ actual, Fits 64 d.durationNanos) (positive : 0 < target) (reported : actual ≠ [])
    {d : WorkDuration} (begun : windowStart cfg.mSamplingWindowD actual.length ≤ pidFirst cfg actual.length + k)
    (found : (actual.drop (pidFirst cfg actual.length))[k]? = some d) :
    Fits 64 (nsTo100us (d.durationNanos - target) -
        (pidBefore cfg target actual integralError previousError k).previousError) ∧
      Fits 64 (nsTo100us (d.durationNanos - target) - errorBefore cfg target actual previousError) := by
  have late := fits.late_fits durations positive
  have here : Fits 64 (d.durationNanos - target) := late d (List.mem_of_getElem? found)
  have member : nsTo100us (d.durationNanos - target) ∈ windowed cfg.mSamplingWindowD (pidErrors target actual) :=
    List.mem_of_getElem? (window_of_sample first_le_D begun found)
  constructor
  · rcases pidBefore_previousError target integralError previousError (List.getElem?_eq_some_iff.mp found).1 with
      ⟨rfl, stored⟩ | ⟨d', member', previous⟩
    · rw [stored]
      exact fits.derivative begun _ member
    · rw [previous]
      exact difference_fits here (late d' member')
  · rcases errorBefore_sample reported with ⟨first, stored⟩ | ⟨d', member', before⟩
    · rw [stored]
      exact fits.derivative first _ member
    · rw [before]
      exact difference_fits here (late d' member')

theorem rounds_fit_iff (reported : actual ≠ []) (durations : ∀ d ∈ actual, Fits 64 d.durationNanos)
    (positive : 0 < target) :
    (∀ k d, (actual.drop (pidFirst cfg actual.length))[k]? = some d →
      RoundFits cfg target actual.length (pidFirst cfg actual.length + k) d
        (pidBefore cfg target actual integralError previousError k)) ↔
      SumsFit cfg target actual integralError previousError := by
  refine ⟨SumsFit.of_rounds reported, fun fits k d found => ?_⟩
  have here := fits.late_fits durations positive d (List.mem_of_getElem? found)
  have typed := durations d (List.mem_of_mem_drop (List.mem_of_getElem? found))
  have far := fits.far
  refine ⟨?_, ?_, here, fun begun => ?_, fun begun => ?_, fun begun => ?_⟩
  · simp only [Fits, Nat.reduceSub, Int.reducePow] at typed here ⊢
    omega
  · simp only [Fits, Nat.reduceSub, Int.reducePow] at far ⊢
    omega
  · rw [pidBefore_derivativeSum begun (List.getElem?_eq_some_iff.mp found).1]
    exact fits.derivative_fits durations positive reported begun found
  · rw [pidBefore_errSum]
    exact fits.sum _ _ (window_of_sample first_le_P begun found)
  · rw [pidBefore_integralError]
    exact fits.integral _ _ (window_of_sample first_le_I begun found)

end Rounds

/-! ### The output and the clamp -/

namespace Session

section Terms

variable (cfg : AdpfConfig) (x : Session) (actual : List WorkDuration)

/-- The three terms of the output, each from the errors of its window. -/
def pTerm : Int := pOut cfg actual.length (windowed cfg.mSamplingWindowP (pidErrors x.duration actual)).sum

def iTerm : Int :=
  iOut cfg ((windowed cfg.mSamplingWindowI (pidErrors x.duration actual)).foldl
    (antiWindup cfg (nsTo100us x.duration)) x.integralError)

def dTerm : Option Int :=
  dOut cfg x.duration actual.length ((pidErrors x.duration actual).getLastD x.previousError -
    errorBefore cfg x.duration actual x.previousError)

def output : Int := x.pTerm cfg actual + x.iTerm cfg actual + (x.dTerm cfg actual).getD 0

/-- No operation on the way to `next_min` leaves its type. -/
structure ReportFits : Prop where
  sums : SumsFit cfg x.duration actual x.integralError x.previousError
  p : Fits 64 (x.pTerm cfg actual)
  i : Fits 64 (x.iTerm cfg actual)
  d : Fits 64 ((x.dTerm cfg actual).getD 0)
  both : Fits 64 (x.pTerm cfg actual + x.iTerm cfg actual)
  output : Fits 64 (x.output cfg actual)
  raised : Fits 32 (x.currentMin + toInt32 (x.output cfg actual))

end Terms

end Session

/-- The conversions of the limits and of the output do not show in the clamped value. -/
def ClampAgrees (low high : Nat) (raised intended : Int) : Prop :=
  low < 2 ^ 31 ∧ (intended ≤ low ∧ (2 ^ 31 ≤ high ∨ raised ≤ low) ∨
    high < 2 ^ 31 ∧ (high ≤ low ∨ raised = intended ∨ high ≤ intended ∧ high ≤ raised))

theorem fromUInt32_eq {n : Nat} (typed : n < 2 ^ 32) :
    fromUInt32 n = if n < 2 ^ 31 then (n : Int) else n - 2 ^ 32 := by
  rw [fromUInt32, BitVec.toInt_eq_toNat_cond, BitVec.toNat_ofNat, Nat.mod_eq_of_lt typed]
  split <;> split <;> omega

theorem clamp_eq_iff {low high : Nat} {raised intended : Int} (typed_low : low < 2 ^ 32)
    (typed_high : high < 2 ^ 32) (fits : Fits 32 raised) :
    max (fromUInt32 low) (min (fromUInt32 high) raised) = max (low : Int) (min (high : Int) intended) ↔
      ClampAgrees low high raised intended := by
  simp only [Fits, Nat.reduceSub, Int.reducePow] at fits
  rw [fromUInt32_eq typed_low, fromUInt32_eq typed_high, ClampAgrees]
  split <;> split <;> omega

section Output

variable {cfg : AdpfConfig} {x : Session} {actual : List WorkDuration}

theorem dTerm_isSome (cfg : AdpfConfig) (actual : List WorkDuration) (long : 100000 ≤ x.duration) :
    ∃ d, x.dTerm cfg actual = some d := by
  have dt : nsTo100us x.duration ≠ 0 := (nsTo100us_ne_zero_iff _).mpr (long.trans (le_abs_self _))
  exact ⟨_, if_neg dt⟩

theorem pidOutput64_eq_some_iff {target : Int} {length : Nat} {a : PidSums} {d o : Int}
    (term : dOut cfg target length a.derivativeSum = some d) :
    pidOutput64 cfg target length a = some o ↔
      (Fits 64 (pOut cfg length a.errSum) ∧ Fits 64 (iOut cfg a.integralError) ∧ Fits 64 d ∧
        Fits 64 (pOut cfg length a.errSum + iOut cfg a.integralError) ∧
          Fits 64 (pOut cfg length a.errSum + iOut cfg a.integralError + d)) ∧
        o = pOut cfg length a.errSum + iOut cfg a.integralError + d := by
  simp only [pidOutput64, Option.bind_eq_bind, term, Option.bind_some, checked_bind_eq_some_iff,
    checked_eq_some_iff, and_assoc]

theorem dOut_pidSums (reported : actual ≠ []) :
    dOut cfg x.duration actual.length
      (pidSums cfg x.duration actual x.integralError x.previousError).derivativeSum = x.dTerm cfg actual := by
  rw [pidSums_derivativeSum reported, Session.dTerm]

theorem output_eq (reported : actual ≠ []) (long : 100000 ≤ x.duration) :
    (convertWorkDurationToBoostByPid cfg x.duration actual x.integralError x.previousError).1 =
      x.output cfg actual := by
  obtain ⟨d, term⟩ := dTerm_isSome cfg actual long
  rw [convertWorkDurationToBoostByPid_eq, Session.output, term,
    pidOutput_eq_terms ((dOut_pidSums reported).trans term), pidSums_errSum, pidSums_integralError]
  rfl

/-- The controller has a result if everything on the way to it fits, and then it is the exact one. -/
theorem convert64_eq_some_iff {r : Int × Int × Int} (reported : actual ≠ [])
    (durations : ∀ d ∈ actual, Fits 64 d.durationNanos) (long : 100000 ≤ x.duration) :
    convertWorkDurationToBoostByPid64 cfg x.duration actual x.integralError x.previousError = some r ↔
      (SumsFit cfg x.duration actual x.integralError x.previousError ∧ Fits 64 (x.pTerm cfg actual) ∧
        Fits 64 (x.iTerm cfg actual) ∧ Fits 64 ((x.dTerm cfg actual).getD 0) ∧
        Fits 64 (x.pTerm cfg actual + x.iTerm cfg actual) ∧ Fits 64 (x.output cfg actual)) ∧
      r = convertWorkDurationToBoostByPid cfg x.duration actual x.integralError x.previousError := by
  obtain ⟨d, term⟩ := dTerm_isSome cfg actual long
  have looped (b : PidSums) : pidLoop64 cfg x.duration actual.length (pidFirst cfg actual.length)
      (actual.drop (pidFirst cfg actual.length)) ⟨x.integralError, x.previousError, 0, 0⟩ = some b ↔
      SumsFit cfg x.duration actual x.integralError x.previousError ∧
        b = pidSums cfg x.duration actual x.integralError x.previousError := by
    rw [pidLoop64_eq_some_iff, ← rounds_fit_iff reported durations (by omega)]
    rfl
  have terms (o : Int) : pidOutput64 cfg x.duration actual.length
      (pidSums cfg x.duration actual x.integralError x.previousError) = some o ↔
      (Fits 64 (x.pTerm cfg actual) ∧ Fits 64 (x.iTerm cfg actual) ∧ Fits 64 ((x.dTerm cfg actual).getD 0) ∧
        Fits 64 (x.pTerm cfg actual + x.iTerm cfg actual) ∧ Fits 64 (x.output cfg actual)) ∧
        o = x.output cfg actual := by
    rw [pidOutput64_eq_some_iff ((dOut_pidSums reported).trans term), pidSums_errSum, pidSums_integralError,
      Session.output, term]
    rfl
  simp only [convertWorkDurationToBoostByPid64, Option.bind_eq_bind, Option.bind_eq_some_iff, looped]
  constructor
  · rintro ⟨_, ⟨sums, rfl⟩, o, out, done⟩
    obtain ⟨fits, rfl⟩ := (terms o).mp out
    cases done
    refine ⟨⟨sums, fits⟩, Prod.ext (output_eq reported long).symm rfl⟩
  · rintro ⟨⟨sums, fits⟩, rfl⟩
    refine ⟨_, ⟨sums, rfl⟩, x.output cfg actual, (terms _).mpr ⟨fits, rfl⟩, congrArg some ?_⟩
    exact Prod.ext (output_eq reported long).symm rfl

theorem nextMin64_eq_some_iff {m : Int} (reported : actual ≠ [])
    (durations : ∀ d ∈ actual, Fits 64 d.durationNanos) (long : 100000 ≤ x.duration) :
    x.nextMin64 cfg actual = some m ↔ x.ReportFits cfg actual ∧
      m = max (fromUInt32 cfg.mUclampMinLow) (min (fromUInt32 cfg.mUclampMinHigh)
        (x.currentMin + toInt32 (x.output cfg actual))) := by
  simp only [Session.nextMin64, Option.bind_eq_bind, Option.bind_eq_some_iff]
  constructor
  · rintro ⟨r, computed, _, added, done⟩
    obtain ⟨⟨sums, p, i, d, both, output⟩, rfl⟩ := (convert64_eq_some_iff reported durations long).mp computed
    obtain ⟨fits, rfl⟩ := checked_eq_some_iff.mp added
    rw [output_eq reported long] at fits done
    exact ⟨⟨sums, p, i, d, both, output, fits⟩, (Option.some.inj done).symm⟩
  · rintro ⟨fits, rfl⟩
    refine ⟨_, (convert64_eq_some_iff reported durations long).mpr
      ⟨⟨fits.sums, fits.p, fits.i, fits.d, fits.both, fits.output⟩, rfl⟩, ?_⟩
    rw [output_eq reported long]
    exact ⟨_, checked_eq_some_iff.mpr ⟨fits.raised, rfl⟩, rfl⟩

/-- The update of the minimum is the intended one exactly if nothing on the way leaves its type and the
conversions to `int` do not show in the clamped value. -/
theorem clamp_update_exact_iff {s : Sid} {sh : Shared} {io : Nat → Outcome} {n : Nat} (on : cfg.mPidOn = true)
    (low : cfg.mUclampMinLow < 2 ^ 32) (high : cfg.mUclampMinHigh < 2 ^ 32)
    (durations : ∀ d ∈ actual, Fits 64 d.durationNanos) (long : 100000 ≤ x.duration)
    (found : sh.sessions s = some x)
    (accepted : (exec (perform cfg) io (reportActualWorkDuration cfg s actual) n sh).1 = .ok) :
    let after := (exec (perform cfg) io (reportActualWorkDuration cfg s actual) n sh).2
    (x.nextMin64 cfg actual = some (x.intendedMin cfg actual) ∧
        after.Holds (fun y => y.currentMin = x.intendedMin cfg actual) s ∧
        (0 < (convertWorkDurationToBoostByPid cfg x.duration actual x.integralError x.previousError).1 →
          cfg.mUclampMinLow ≤ x.currentMin → x.currentMin ≤ cfg.mUclampMinHigh →
            after.Holds (fun y => x.currentMin ≤ y.currentMin) s)) ↔
      x.ReportFits cfg actual ∧ ClampAgrees cfg.mUclampMinLow cfg.mUclampMinHigh
        (x.currentMin + toInt32 (x.output cfg actual)) (x.currentMin + x.output cfg actual) := by
  intro after
  obtain ⟨reported, y, found', settled, -⟩ := report_controlled on found accepted
  have intended : x.intendedMin cfg actual = max (cfg.mUclampMinLow : Int)
      (min (cfg.mUclampMinHigh : Int) (x.currentMin + x.output cfg actual)) := by
    rw [Session.intendedMin, output_eq reported long]
  have stored : y.currentMin = max (fromUInt32 cfg.mUclampMinLow) (min (fromUInt32 cfg.mUclampMinHigh)
      (x.currentMin + toInt32 (x.output cfg actual))) := by
    rw [settled, Session.nextMin, if_pos on, output_eq reported long]
  rw [nextMin64_eq_some_iff reported durations long, output_eq reported long]
  constructor
  · rintro ⟨⟨fits, exact'⟩, -, -⟩
    rw [intended] at exact'
    exact ⟨fits, (clamp_eq_iff low high fits.raised).mp exact'.symm⟩
  · rintro ⟨fits, agrees⟩
    have exact' := (clamp_eq_iff low high fits.raised).mpr agrees
    rw [← intended, ← stored] at exact'
    refine ⟨⟨fits, exact'.symm.trans stored⟩, ⟨y, found', exact'⟩, fun positive above below => ⟨y, found', ?_⟩⟩
    change x.currentMin ≤ y.currentMin
    omega

end Output

namespace Sample

def running : Session := { Session.fresh 1 10001 [7] 16000000 with currentMin := 100 }

def alone : Shared := { Shared.start with sessions := fun _ => some running }

def proportional : AdpfConfig := { cfg with mPidOn := true, mPidPo := 1 }

end Sample

theorem clamp_update_exact_frame :
    (Sample.proportional.mUclampMinLow < 2 ^ 32 ∧ Sample.proportional.mUclampMinHigh < 2 ^ 32 ∧
      100000 ≤ Sample.running.duration ∧ (∀ d ∈ [(⟨0, 17000000⟩ : WorkDuration)], Fits 64 d.durationNanos)) ∧
      Sample.running.ReportFits Sample.proportional [⟨0, 17000000⟩] := by
  have durations : ∀ d ∈ [(⟨0, 17000000⟩ : WorkDuration)], Fits 64 d.durationNanos := by decide
  have accepted : (exec (perform Sample.proportional) Sample.calm
      (reportActualWorkDuration Sample.proportional 0 [⟨0, 17000000⟩]) 0 Sample.alone).1 = .ok := by decide +kernel
  have stored : ((exec (perform Sample.proportional) Sample.calm
      (reportActualWorkDuration Sample.proportional 0 [⟨0, 17000000⟩]) 0 Sample.alone).2.sessions 0).map
        Session.currentMin = some 110 := by decide +kernel
  obtain ⟨y, found, value⟩ := Option.map_eq_some_iff.mp stored
  have intended : Sample.running.intendedMin Sample.proportional [⟨0, 17000000⟩] = 110 := by decide +kernel
  have computed : Sample.running.nextMin64 Sample.proportional [⟨0, 17000000⟩] = some 110 := by decide +kernel
  have raised : Sample.running.currentMin ≤ y.currentMin := by
    rw [value]
    decide
  have iff := clamp_update_exact_iff (s := 0) (n := 0) rfl (by decide) (by decide) durations (by decide) rfl accepted
  rw [intended] at iff
  exact ⟨⟨by decide, by decide, by decide, durations⟩,
    (iff.mp ⟨computed, ⟨y, found, value⟩, fun _ _ _ => ⟨y, found, raised⟩⟩).1⟩

/-- A frame that is late by 60 hours: the output `2 ^ 31` becomes the smallest `int`, and the boost goes down
to the lower limit instead of up to the upper one. -/
theorem clamp_update_truncated :
    let late : List WorkDuration := [⟨0, 2 ^ 31 * 100000 + 16000000⟩]
    let created := run Sample.proportional .start (Sample.calmly [.createHintSession 0 1 10001 [7] 16000000])
    let report := exec (perform Sample.proportional) Sample.calm
      (reportActualWorkDuration Sample.proportional 0 late) 0 created
    report.1 = .ok ∧
      (created.sessions 0).map (fun x => (x.currentMin, x.intendedMin Sample.proportional late,
        x.nextMin64 Sample.proportional late)) = some (100, 300, some 0) ∧
      (report.2.sessions 0).map Session.currentMin = some 0 := by
  decide +kernel

end Pdx215.Power
