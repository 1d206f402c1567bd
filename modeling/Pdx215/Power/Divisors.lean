import Mathlib.Algebra.Order.Group.Unbundled.Int
import Pdx215.Power.Calls

/-! What the PID controller divides by. The sampling windows are `uint64_t` and the number of samples
is an `int64_t`, so the start of a window is computed with conversions in both directions. -/
namespace Pdx215.Power

open Effect

/-- `samplingWindow == 0 || samplingWindow > length ? 0 : length - samplingWindow`, where `length` is
converted to `uint64_t` and the result back to `int64_t`. -/
def windowStart64 (window : UInt64) (length : Nat) : Int :=
  if window = 0 ∨ UInt64.ofNat length < window then 0
  else (UInt64.ofNat length - window).toInt64.toInt

/-- `dt`, `length - p_start` and `length - d_start`. -/
def pidDivisors (windowP windowD : UInt64) (target : Int) (length : Nat) : List Int :=
  [nsTo100us target, length - windowStart64 windowP length, length - windowStart64 windowD length]

theorem toNat_ofNat_length {length : Nat} (counted : length < 2 ^ 63) :
    (UInt64.ofNat length).toNat = length := by
  rw [UInt64.toNat_ofNat']
  omega

/-- No conversion changes a value: a vector has fewer than `2 ^ 63` elements. -/
theorem windowStart64_eq (window : UInt64) {length : Nat} (counted : length < 2 ^ 63) :
    windowStart64 window length = windowStart window.toNat length := by
  have size := toNat_ofNat_length counted
  have zero : window = 0 ↔ window.toNat = 0 := by
    rw [← UInt64.toNat_inj]
    rfl
  simp only [windowStart64, windowStart, zero, UInt64.lt_iff_toNat_lt, size]
  split
  · rfl
  · rename_i within
    have le : window ≤ UInt64.ofNat length := by
      rw [UInt64.le_iff_toNat_le, size]
      omega
    have diff : (UInt64.ofNat length - window).toNat = length - window.toNat := by
      rw [UInt64.toNat_sub_of_le _ _ le, size]
    have small : 2 * (UInt64.ofNat length - window).toBitVec.toNat < 2 ^ 64 := by
      change 2 * (UInt64.ofNat length - window).toNat < _
      omega
    change (UInt64.ofNat length - window).toBitVec.toInt = _
    rw [BitVec.toInt_eq_toNat_of_lt small]
    exact congrArg _ diff

theorem windowStart_lt {window length : Nat} (some : 0 < length) : windowStart window length < length := by
  simp only [windowStart]
  split <;> omega

theorem nsTo100us_ne_zero_iff (ns : Int) : nsTo100us ns ≠ 0 ↔ 100000 ≤ |ns| := by
  rw [nsTo100us, ← Int.natAbs_ne_zero, Int.natAbs_tdiv]
  change ns.natAbs / 100000 ≠ 0 ↔ _
  rw [Int.abs_eq_natAbs]
  omega

theorem pidDivisors_eq (windowP windowD : UInt64) (target : Int) {length : Nat} (counted : length < 2 ^ 63) :
    pidDivisors windowP windowD target length = [nsTo100us target,
      ((length - windowStart windowP.toNat length : Nat) : Int),
      ((length - windowStart windowD.toNat length : Nat) : Int)] := by
  have count (window : UInt64) : (length : Int) - windowStart64 window length =
      (length - windowStart window.toNat length : Nat) := by
    have le : windowStart window.toNat length ≤ length := by
      simp only [windowStart]
      split <;> omega
    rw [windowStart64_eq window counted, Int.ofNat_sub le]
  simp only [pidDivisors, count]

/-- `pidOutput` divides by `pidDivisors`. -/
theorem pidOutput_divides (cfg : AdpfConfig) (windowP windowD : UInt64) (target : Int) {length : Nat}
    (a : PidSums) (counted : length < 2 ^ 63) (p : cfg.mSamplingWindowP = windowP.toNat)
    (d : cfg.mSamplingWindowD = windowD.toNat) :
    ∃ dt pCount dCount : Int, pidDivisors windowP windowD target length = [dt, pCount, dCount] ∧
      pidOutput cfg target length a =
        toInt64 ((if 0 < a.errSum then cfg.mPidPo else cfg.mPidPu) * a.errSum / pCount) +
          toInt64 (cfg.mPidI * a.integralError) +
          toInt64 ((if 0 < a.derivativeSum then cfg.mPidDo else cfg.mPidDu) * a.derivativeSum / dt / dCount) := by
  refine ⟨_, _, _, pidDivisors_eq windowP windowD target counted, ?_⟩
  rw [← p, ← d]
  rfl

/-- A positive number of samples is in every window, so that only `dt` can be zero. -/
theorem pid_divisors_ne_zero_iff (windowP windowD : UInt64) (duration : Int) (actual : List WorkDuration)
    (reported : actual ≠ []) (counted : actual.length < 2 ^ 63) :
    (∀ q ∈ pidDivisors windowP windowD duration actual.length, q ≠ 0) ↔ 100000 ≤ |duration| := by
  have some : 0 < actual.length := List.length_pos_iff.mpr reported
  rw [← nsTo100us_ne_zero_iff]
  constructor
  · intro nonzero
    exact nonzero _ List.mem_cons_self
  · intro dt q member
    have inP : windowStart windowP.toNat actual.length < actual.length := windowStart_lt some
    have inD : windowStart windowD.toNat actual.length < actual.length := windowStart_lt some
    rw [pidDivisors_eq windowP windowD duration counted] at member
    simp only [List.mem_cons, List.not_mem_nil, or_false] at member
    rcases member with rfl | rfl | rfl
    · exact dt
    · omega
    · omega

theorem pid_divisors_ne_zero_frame :
    100000 ≤ |(16000000 : Int)| ∧ ∀ q ∈ pidDivisors 3 0 16000000 1, q ≠ 0 := by
  have long : 100000 ≤ |(16000000 : Int)| := by decide
  exact ⟨long,
    (pid_divisors_ne_zero_iff 3 0 16000000 [⟨0, 17000000⟩] (List.cons_ne_nil _ _) (by decide)).mpr long⟩

/-- A target of 50 microseconds is stored and let through; the controller then divides by zero. -/
theorem pid_divides_by_zero :
    let cfg := { Sample.cfg with mPidOn := true }
    let created := run cfg .start (Sample.calmly [.createHintSession 0 1 10001 [7] 50000])
    let updated := run cfg .start (Sample.calmly [.createHintSession 0 1 10001 [7] 16000000,
      .updateTargetWorkDuration 0 50000])
    (∀ sh ∈ [created, updated], (sh.sessions 0).map Session.duration = some 50000 ∧
      (exec (perform cfg) Sample.calm (reportActualWorkDuration cfg 0 [⟨60000, 60000⟩]) 0 sh).1 = .ok) ∧
      0 ∈ pidDivisors 1 1 50000 1 := by
  decide +kernel

end Pdx215.Power
