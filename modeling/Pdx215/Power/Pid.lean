import Pdx215.Power.Divisors

/-! The loop of `convertWorkDurationToBoostByPid` in closed form. One loop starts at the earliest of the
three windows and carries the previous error from sample to sample, so each sum is that of its own window,
but the first difference is taken against whatever the loop saw before the window of the derivative. -/
namespace Pdx215.Power

def pidErrors (target : Int) (actual : List WorkDuration) : List Int :=
  actual.map fun d => nsTo100us (d.durationNanos - target)

/-- The integral after one more error, kept between the two limits. -/
def antiWindup (cfg : AdpfConfig) (dt integral error : Int) : Int :=
  max cfg.pidILowDivI (min cfg.pidIHighDivI (integral + error * dt))

/-- Each error less the one before it. -/
def differences : Int → List Int → List Int
  | _, [] => []
  | previous, e :: es => (e - previous) :: differences e es

/-- The last samples that a window admits; all of them if it is 0. -/
def windowed {α : Type} (window : Nat) (xs : List α) : List α :=
  if window = 0 then xs else xs.drop (xs.length - min window xs.length)

theorem windowStart_of_admits {window length : Nat} (admits : window = 0 ∨ length ≤ window) :
    windowStart window length = 0 := by
  rw [windowStart]
  split <;> omega

theorem windowStart_of_narrow {window length : Nat} (narrow : ¬ (window = 0 ∨ length ≤ window)) :
    windowStart window length = length - window := by
  rw [windowStart, if_neg (by omega)]

theorem windowed_eq_drop {α : Type} (window : Nat) (xs : List α) :
    windowed window xs = xs.drop (windowStart window xs.length) := by
  simp only [windowed, windowStart]
  split
  · simp [*]
  · rename_i nonzero
    congr 1
    split <;> omega

@[simp] theorem length_pidErrors (target : Int) (actual : List WorkDuration) :
    (pidErrors target actual).length = actual.length :=
  List.length_map _

theorem pidErrors_cons (target : Int) (d : WorkDuration) (ds : List WorkDuration) :
    pidErrors target (d :: ds) = nsTo100us (d.durationNanos - target) :: pidErrors target ds :=
  rfl

theorem pidErrors_append (target : Int) (xs ys : List WorkDuration) :
    pidErrors target (xs ++ ys) = pidErrors target xs ++ pidErrors target ys :=
  List.map_append

/-- The differences from some point on add up to the last error less the one at that point. -/
theorem sum_drop_differences {previous : Int} {es : List Int} {k : Nat} (within : k ≤ es.length) :
    ((differences previous es).drop k).sum = es.getLastD previous - (previous :: es).getD k 0 := by
  induction es generalizing previous k with
  | nil =>
    cases Nat.le_zero.mp within
    simp [differences]
  | cons e es ih =>
    cases k with
    | zero =>
      have rest : ((differences e es).drop 0).sum = es.getLastD e - e := ih (Nat.zero_le _)
      rw [List.drop_zero] at rest
      rw [List.drop_zero, differences, List.sum_cons, rest, List.getLastD_cons, List.getD_cons_zero]
      omega
    | succ k =>
      rw [differences, List.drop_succ_cons, ih (Nat.le_of_succ_le_succ within), List.getLastD_cons,
        List.getD_cons_succ]

/-! ### The loop -/

section Loop

variable {cfg : AdpfConfig} {target : Int} {length i : Nat} {ds : List WorkDuration} {a : PidSums}

/-- A window that has begun takes the next element, and one that has not lets it pass. -/
theorem drop_sub_cons {α : Type} (x : α) (xs : List α) (start i : Nat) :
    (x :: xs).drop (start - i) =
      if start ≤ i then x :: xs.drop (start - (i + 1)) else xs.drop (start - (i + 1)) := by
  split
  · rename_i begun
    rw [Nat.sub_eq_zero_of_le begun, Nat.sub_eq_zero_of_le (Nat.le_succ_of_le begun)]
    rfl
  · rename_i waits
    have later : start - i = start - (i + 1) + 1 := by omega
    rw [later, List.drop_succ_cons]

theorem pidLoop_previousError :
    (pidLoop cfg target length i ds a).previousError = (pidErrors target ds).getLastD a.previousError := by
  induction ds generalizing i a with
  | nil => rfl
  | cons d ds ih =>
    rw [pidLoop, ih, pidErrors_cons, List.getLastD_cons]
    rfl

theorem pidLoop_errSum : (pidLoop cfg target length i ds a).errSum =
    a.errSum + ((pidErrors target ds).drop (windowStart cfg.mSamplingWindowP length - i)).sum := by
  induction ds generalizing i a with
  | nil => simp [pidLoop, pidErrors]
  | cons d ds ih =>
    rw [pidLoop, ih, pidErrors_cons, drop_sub_cons]
    simp only [pidRound]
    split
    · rw [List.sum_cons, Int.add_assoc]
    · rfl

theorem pidLoop_integralError : (pidLoop cfg target length i ds a).integralError =
    ((pidErrors target ds).drop (windowStart cfg.mSamplingWindowI length - i)).foldl
      (antiWindup cfg (nsTo100us target)) a.integralError := by
  induction ds generalizing i a with
  | nil => simp [pidLoop, pidErrors]
  | cons d ds ih =>
    rw [pidLoop, ih, pidErrors_cons, drop_sub_cons]
    simp only [pidRound]
    split <;> rfl

theorem pidLoop_derivativeSum : (pidLoop cfg target length i ds a).derivativeSum = a.derivativeSum +
    ((differences a.previousError (pidErrors target ds)).drop
      (windowStart cfg.mSamplingWindowD length - i)).sum := by
  induction ds generalizing i a with
  | nil => simp [pidLoop, pidErrors, differences]
  | cons d ds ih =>
    rw [pidLoop, ih, pidErrors_cons, differences, drop_sub_cons]
    simp only [pidRound]
    split
    · rw [List.sum_cons, Int.add_assoc]
    · rfl

end Loop

/-! ### The sums of one report -/

def pidFirst (cfg : AdpfConfig) (length : Nat) : Nat :=
  min (windowStart cfg.mSamplingWindowP length)
    (min (windowStart cfg.mSamplingWindowI length) (windowStart cfg.mSamplingWindowD length))

def pidSums (cfg : AdpfConfig) (target : Int) (actual : List WorkDuration) (integralError previousError : Int) :
    PidSums :=
  pidLoop cfg target actual.length (pidFirst cfg actual.length) (actual.drop (pidFirst cfg actual.length))
    ⟨integralError, previousError, 0, 0⟩

theorem convertWorkDurationToBoostByPid_eq (cfg : AdpfConfig) (target : Int) (actual : List WorkDuration)
    (integralError previousError : Int) :
    let sums := pidSums cfg target actual integralError previousError
    convertWorkDurationToBoostByPid cfg target actual integralError previousError =
      (pidOutput cfg target actual.length sums, sums.integralError, sums.previousError) :=
  rfl

section Sums

variable {cfg : AdpfConfig} {target integralError previousError : Int} {actual : List WorkDuration}

theorem pidErrors_drop (target : Int) (actual : List WorkDuration) (k : Nat) :
    pidErrors target (actual.drop k) = (pidErrors target actual).drop k :=
  List.map_drop

/-- What the loop leaves out of a window is what lies before it. -/
theorem drop_first_drop {start : Nat} (es : List Int) (after : pidFirst cfg es.length ≤ start) :
    (es.drop (pidFirst cfg es.length)).drop (start - pidFirst cfg es.length) = es.drop start := by
  rw [List.drop_drop, Nat.add_sub_cancel' after]

theorem pidSums_errSum : (pidSums cfg target actual integralError previousError).errSum =
    (windowed cfg.mSamplingWindowP (pidErrors target actual)).sum := by
  have after : pidFirst cfg (pidErrors target actual).length ≤
      windowStart cfg.mSamplingWindowP (pidErrors target actual).length := Nat.min_le_left _ _
  have dropped := drop_first_drop (pidErrors target actual) after
  rw [length_pidErrors] at dropped
  rw [pidSums, pidLoop_errSum, pidErrors_drop, dropped, windowed_eq_drop, length_pidErrors, Int.zero_add]

theorem pidSums_integralError : (pidSums cfg target actual integralError previousError).integralError =
    (windowed cfg.mSamplingWindowI (pidErrors target actual)).foldl (antiWindup cfg (nsTo100us target))
      integralError := by
  have after : pidFirst cfg (pidErrors target actual).length ≤
      windowStart cfg.mSamplingWindowI (pidErrors target actual).length :=
    (Nat.min_le_right _ _).trans (Nat.min_le_left _ _)
  have dropped := drop_first_drop (pidErrors target actual) after
  rw [length_pidErrors] at dropped
  rw [pidSums, pidLoop_integralError, pidErrors_drop, dropped, windowed_eq_drop, length_pidErrors]

theorem pidFirst_lt (reported : actual ≠ []) : pidFirst cfg actual.length < actual.length :=
  (Nat.min_le_left _ _).trans_lt (windowStart_lt (List.length_pos_iff.mpr reported))

theorem pidSums_previousError (reported : actual ≠ []) :
    (pidSums cfg target actual integralError previousError).previousError =
      (pidErrors target actual).getLastD previousError := by
  have rest : ¬ (pidErrors target actual).length ≤ pidFirst cfg actual.length := by
    rw [length_pidErrors]
    exact Nat.not_le_of_lt (pidFirst_lt reported)
  rw [pidSums, pidLoop_previousError, pidErrors_drop, List.getLastD_eq_getLast?, List.getLastD_eq_getLast?,
    List.getLast?_drop, if_neg rest]

/-- The error that the first difference of the derivative is taken against. -/
def errorBefore (cfg : AdpfConfig) (target : Int) (actual : List WorkDuration) (previousError : Int) : Int :=
  if windowStart cfg.mSamplingWindowD actual.length ≤ pidFirst cfg actual.length then previousError
  else (pidErrors target actual).getD (windowStart cfg.mSamplingWindowD actual.length - 1) 0

theorem getD_errorBefore : (previousError :: (pidErrors target actual).drop (pidFirst cfg actual.length)).getD
    (windowStart cfg.mSamplingWindowD actual.length - pidFirst cfg actual.length) 0 =
      errorBefore cfg target actual previousError := by
  rw [errorBefore]
  split
  · rename_i first
    rw [Nat.sub_eq_zero_of_le first, List.getD_cons_zero]
  · rename_i later
    have back : windowStart cfg.mSamplingWindowD actual.length - pidFirst cfg actual.length =
        windowStart cfg.mSamplingWindowD actual.length - 1 - pidFirst cfg actual.length + 1 := by omega
    have at_ : pidFirst cfg actual.length +
        (windowStart cfg.mSamplingWindowD actual.length - 1 - pidFirst cfg actual.length) =
        windowStart cfg.mSamplingWindowD actual.length - 1 := by omega
    rw [back, List.getD_cons_succ, List.getD_eq_getElem?_getD, List.getD_eq_getElem?_getD, List.getElem?_drop, at_]

theorem pidSums_derivativeSum (reported : actual ≠ []) :
    (pidSums cfg target actual integralError previousError).derivativeSum =
      (pidErrors target actual).getLastD previousError - errorBefore cfg target actual previousError := by
  have previous : (pidSums cfg target actual integralError previousError).previousError =
      (pidErrors target actual).getLastD previousError := pidSums_previousError reported
  rw [pidSums, pidLoop_previousError] at previous
  have start : windowStart cfg.mSamplingWindowD actual.length < actual.length :=
    windowStart_lt (List.length_pos_iff.mpr reported)
  have within : windowStart cfg.mSamplingWindowD actual.length - pidFirst cfg actual.length ≤
      (pidErrors target (actual.drop (pidFirst cfg actual.length))).length := by
    rw [length_pidErrors, List.length_drop]
    omega
  rw [pidSums, pidLoop_derivativeSum, Int.zero_add, sum_drop_differences within, previous, pidErrors_drop,
    getD_errorBefore]

end Sums

/-! ### Two reports against one -/

theorem windowed_of_length_le {α : Type} {window : Nat} {xs : List α} (all : window = 0 ∨ xs.length ≤ window) :
    windowed window xs = xs := by
  rw [windowed_eq_drop, windowStart_of_admits all, List.drop_zero]

/-- When the window of the integral admits every sample, the stored errors depend only on the samples and
not on how they were divided into reports. -/
theorem batching_keeps_pid_errors (cfg : AdpfConfig) (target integralError previousError : Int)
    (xs ys : List WorkDuration) (first : xs ≠ []) (second : ys ≠ [])
    (admits : cfg.mSamplingWindowI = 0 ∨ (xs ++ ys).length ≤ cfg.mSamplingWindowI) :
    let r := (convertWorkDurationToBoostByPid cfg target xs integralError previousError).2
    (convertWorkDurationToBoostByPid cfg target ys r.1 r.2).2 =
      (convertWorkDurationToBoostByPid cfg target (xs ++ ys) integralError previousError).2 := by
  have lengths : (xs ++ ys).length = xs.length + ys.length := List.length_append
  have whole (zs : List WorkDuration) (le : zs.length ≤ (xs ++ ys).length) :
      windowed cfg.mSamplingWindowI (pidErrors target zs) = pidErrors target zs :=
    windowed_of_length_le (admits.imp_right fun fits => (length_pidErrors target zs).trans_le (le.trans fits))
  have both : xs ++ ys ≠ [] := fun none => first (List.append_eq_nil_iff.mp none).1
  simp only [convertWorkDurationToBoostByPid_eq, pidSums_integralError, pidSums_previousError first,
    pidSums_previousError second, pidSums_previousError both]
  rw [whole xs (by omega), whole ys (by omega), whole (xs ++ ys) (Nat.le_refl _), pidErrors_append,
    List.foldl_append]
  obtain ⟨e, es, split⟩ : ∃ e es, pidErrors target ys = e :: es := by
    apply List.exists_cons_of_ne_nil
    simpa [pidErrors] using second
  rw [split]
  simp [List.getLastD_eq_getLast?, List.getLast?_append, List.getLast?_cons]

theorem batching_keeps_pid_errors_frames :
    let cfg := { Sample.cfg with mSamplingWindowI := 2, pidIHighDivI := 512, pidILowDivI := -30 }
    (cfg.mSamplingWindowI = 0 ∨ 2 ≤ cfg.mSamplingWindowI) ∧
      let r := (convertWorkDurationToBoostByPid cfg 16000000 [⟨0, 17000000⟩] 7 3).2
      (convertWorkDurationToBoostByPid cfg 16000000 [⟨0, 12000000⟩] r.1 r.2).2 =
        (convertWorkDurationToBoostByPid cfg 16000000 [⟨0, 17000000⟩, ⟨0, 12000000⟩] 7 3).2 :=
  ⟨.inr (Nat.le_refl 2), batching_keeps_pid_errors _ 16000000 7 3 [⟨0, 17000000⟩] [⟨0, 12000000⟩]
    (List.cons_ne_nil _ _) (List.cons_ne_nil _ _) (.inr (Nat.le_refl 2))⟩

/-! ### The three terms -/

def pOut (cfg : AdpfConfig) (length : Nat) (errSum : Int) : Int :=
  toInt64 ((if 0 < errSum then cfg.mPidPo else cfg.mPidPu) * errSum /
    ((length - windowStart cfg.mSamplingWindowP length : Nat) : Rat))

def iOut (cfg : AdpfConfig) (integralError : Int) : Int := toInt64 (cfg.mPidI * integralError)

/-- There is no term when `dt` is 0: a quotient by it has no integer value. -/
def dOut (cfg : AdpfConfig) (target : Int) (length : Nat) (derivativeSum : Int) : Option Int :=
  if nsTo100us target = 0 then none
  else some (toInt64 ((if 0 < derivativeSum then cfg.mPidDo else cfg.mPidDu) * derivativeSum /
    (nsTo100us target : Rat) / ((length - windowStart cfg.mSamplingWindowD length : Nat) : Rat)))

theorem pidOutput_eq_terms {cfg : AdpfConfig} {target : Int} {length : Nat} {a : PidSums} {d : Int}
    (term : dOut cfg target length a.derivativeSum = some d) :
    pidOutput cfg target length a = pOut cfg length a.errSum + iOut cfg a.integralError + d := by
  rw [dOut] at term
  split at term
  · cases term
  · cases term
    rfl

def AdpfConfig.sampling (cfg : AdpfConfig) (p i d : UInt64) : AdpfConfig :=
  { cfg with mSamplingWindowP := p.toNat, mSamplingWindowI := i.toNat, mSamplingWindowD := d.toNat }

section Terms

variable (cfg : AdpfConfig) (target integralError previousError : Int) (actual : List WorkDuration)

def pidP : Int := pOut cfg actual.length (pidSums cfg target actual integralError previousError).errSum

/-- The integral that is stored and the term that it gives. -/
def pidI : Int × Int :=
  let sums := pidSums cfg target actual integralError previousError
  (sums.integralError, iOut cfg sums.integralError)

def pidD : Option Int :=
  dOut cfg target actual.length (pidSums cfg target actual integralError previousError).derivativeSum

variable (p i d : UInt64)

theorem pidP_own_window (i' d' : UInt64) :
    pidP (cfg.sampling p i' d') target integralError previousError actual =
      pidP (cfg.sampling p i d) target integralError previousError actual := by
  rw [pidP, pidP, pidSums_errSum, pidSums_errSum]
  rfl

theorem pidI_own_window (p' d' : UInt64) :
    pidI (cfg.sampling p' i d') target integralError previousError actual =
      pidI (cfg.sampling p i d) target integralError previousError actual := by
  simp only [pidI, pidSums_integralError]
  rfl

variable {actual}

theorem pidD_eq (reported : actual ≠ []) :
    pidD (cfg.sampling p i d) target integralError previousError actual =
      dOut (cfg.sampling p i d) target actual.length ((pidErrors target actual).getLastD previousError -
        errorBefore (cfg.sampling p i d) target actual previousError) := by
  rw [pidD, pidSums_derivativeSum reported]

theorem errorBefore_sampling : errorBefore (cfg.sampling p i d) target actual previousError =
    if windowStart d.toNat actual.length ≤ pidFirst (cfg.sampling p i d) actual.length then previousError
    else (pidErrors target actual).getD (windowStart d.toNat actual.length - 1) 0 :=
  rfl

/-- The window of the derivative admits every sample, so that the loop starts with it. -/
theorem errorBefore_of_admits (admits : d.toNat = 0 ∨ actual.length ≤ d.toNat) :
    errorBefore (cfg.sampling p i d) target actual previousError = previousError := by
  rw [errorBefore_sampling, windowStart_of_admits admits, if_pos (Nat.zero_le _)]

theorem errorBefore_narrow : errorBefore (cfg.sampling d d d) target actual previousError = previousError := by
  have first : windowStart d.toNat actual.length ≤ pidFirst (cfg.sampling d d d) actual.length := by
    simp [pidFirst, AdpfConfig.sampling]
  rw [errorBefore_sampling, if_pos first]

theorem errorBefore_wide (narrow : ¬ (d.toNat = 0 ∨ actual.length ≤ d.toNat)) :
    errorBefore (cfg.sampling 0 i d) target actual previousError =
      (pidErrors target actual).getD (actual.length - d.toNat - 1) 0 := by
  have first : pidFirst (cfg.sampling 0 i d) actual.length = 0 := by
    simp [pidFirst, AdpfConfig.sampling, windowStart]
  rw [errorBefore_sampling, first, windowStart_of_narrow narrow, if_neg (by omega)]

/-- The first difference is taken against the stored error or against the sample before the window. -/
theorem errorBefore_cases (actual : List WorkDuration) (p i d : UInt64) :
    errorBefore (cfg.sampling p i d) target actual previousError = previousError ∨
      errorBefore (cfg.sampling p i d) target actual previousError =
        (pidErrors target actual).getD (actual.length - d.toNat - 1) 0 := by
  by_cases admits : d.toNat = 0 ∨ actual.length ≤ d.toNat
  · exact .inl (errorBefore_of_admits cfg target previousError p i d admits)
  · rw [errorBefore_sampling, windowStart_of_narrow admits]
    split
    · exact .inl rfl
    · exact .inr rfl

/-- Each term depends on its own window only if the difference against the stored error and the one
against the sample before the window of the derivative give the same term, or there is no such sample. -/
theorem pid_terms_own_window_iff (reported : actual ≠ []) :
    ((∀ i' d', pidP (cfg.sampling p i' d') target integralError previousError actual =
        pidP (cfg.sampling p i d) target integralError previousError actual) ∧
      (∀ p' d', pidI (cfg.sampling p' i d') target integralError previousError actual =
        pidI (cfg.sampling p i d) target integralError previousError actual) ∧
      ∀ p' i', pidD (cfg.sampling p' i' d) target integralError previousError actual =
        pidD (cfg.sampling p i d) target integralError previousError actual) ↔
      (d.toNat = 0 ∨ actual.length ≤ d.toNat) ∨
        dOut (cfg.sampling p i d) target actual.length
            ((pidErrors target actual).getLastD previousError - previousError) =
          dOut (cfg.sampling p i d) target actual.length ((pidErrors target actual).getLastD previousError -
            (pidErrors target actual).getD (actual.length - d.toNat - 1) 0) := by
  have same (p' i' : UInt64) (sum : Int) : dOut (cfg.sampling p' i' d) target actual.length sum =
      dOut (cfg.sampling p i d) target actual.length sum := rfl
  simp only [pidP_own_window cfg target integralError previousError actual p i d,
    pidI_own_window cfg target integralError previousError actual p i d, pidD_eq _ _ _ _ _ _ _ reported, same,
    implies_true, true_and]
  constructor
  · intro independent
    by_cases admits : d.toNat = 0 ∨ actual.length ≤ d.toNat
    · exact .inl admits
    · have narrow := independent d d
      have wide := independent 0 i
      rw [errorBefore_narrow] at narrow
      rw [errorBefore_wide cfg target previousError i d admits] at wide
      exact .inr (narrow.trans wide.symm)
  · rintro (admits | alike) p' i'
    · rw [errorBefore_of_admits cfg target previousError p' i' d admits,
        errorBefore_of_admits cfg target previousError p i d admits]
    · rcases errorBefore_cases cfg target previousError actual p' i' d with this | this <;>
        rcases errorBefore_cases cfg target previousError actual p i d with that | that <;>
        simp only [this, that, alike]

end Terms

theorem pid_terms_own_window_frame :
    let cfg := { Sample.cfg with mPidDo := 5, mPidDu := 2 }
    ([⟨0, 17000000⟩, ⟨0, 17000000⟩] : List WorkDuration) ≠ [] ∧
      ∀ p i, pidD (cfg.sampling p i 0) 16000000 0 3 [⟨0, 17000000⟩, ⟨0, 17000000⟩] =
        pidD (cfg.sampling 1 1 0) 16000000 0 3 [⟨0, 17000000⟩, ⟨0, 17000000⟩] := by
  refine ⟨List.cons_ne_nil _ _, ?_⟩
  exact ((pid_terms_own_window_iff _ 16000000 0 3 1 1 0 (List.cons_ne_nil _ _)).mpr (.inl (.inl rfl))).2.2

/-- Two samples that miss the target alike: when the loop starts at the second, the stored error decides
the derivative, and when the window of the proportional term makes it start at the first, it does not. -/
theorem pidD_depends_on_other_window :
    let cfg := { Sample.cfg with mPidDo := 5, mPidDu := 2 }
    let late : List WorkDuration := [⟨0, 32000000⟩, ⟨0, 32000000⟩]
    pidD (cfg.sampling 1 1 1) 16000000 0 0 late = some 5 ∧ pidD (cfg.sampling 0 1 1) 16000000 0 0 late = some 0 := by
  decide +kernel

end Pdx215.Power
