import Mathlib.Algebra.Ring.Int.Defs
import Mathlib.Data.Rat.Defs
import Pdx215.Power.Registry

/-! One `PowerHintSession`: its descriptor, its two timers and what it computes from the durations
that an application reports. The gains and factors of the ADPF profile are exact rationals, and a
cast to an integer type cuts towards zero. -/
namespace Pdx215.Power

/-- The fields of `AdpfConfig` that a session or the manager reads. -/
structure AdpfConfig where
  mReportingRateLimitNs : Int
  mPidOn : Bool
  mPidPo : Rat
  mPidPu : Rat
  mPidI : Rat
  mPidDo : Rat
  mPidDu : Rat
  pidIHighDivI : Int
  pidILowDivI : Int
  mSamplingWindowP : Nat
  mSamplingWindowI : Nat
  mSamplingWindowD : Nat
  mUclampMinOn : Bool
  mUclampMinInit : Nat
  mUclampMinHigh : Nat
  mUclampMinLow : Nat
  mEarlyBoostOn : Bool
  mEarlyBoostTimeFactor : Rat
  mTargetTimeFactor : Rat
  mStaleTimeFactor : Rat

/-- `static_cast<int64_t>` of a floating-point value. -/
def toInt64 (q : Rat) : Int := q.num.tdiv q.den

/-- `static_cast<int>` of an `int64_t`. -/
def toInt32 (n : Int) : Int := (n + 2 ^ 31) % 2 ^ 32 - 2 ^ 31

/-- The conversion of a `uint32_t` to `int`. -/
def fromUInt32 (n : Nat) : Int := (BitVec.ofNat 32 n).toInt

def nsTo100us (ns : Int) : Int := ns.tdiv 100000

structure WorkDuration where
  timeStampNanos : Int
  durationNanos : Int

/-! ### The PID controller -/

def windowStart (window length : Nat) : Nat :=
  if window = 0 ∨ length < window then 0 else length - window

structure PidSums where
  integralError : Int
  previousError : Int
  errSum : Int
  derivativeSum : Int

/-- One round of the loop of `convertWorkDurationToBoostByPid`, for the sample at position `i`. -/
def pidRound (cfg : AdpfConfig) (target : Int) (length i : Nat) (actual : WorkDuration) (a : PidSums) :
    PidSums :=
  let error := nsTo100us (actual.durationNanos - target)
  let widened := a.integralError + error * nsTo100us target
  { derivativeSum :=
      if windowStart cfg.mSamplingWindowD length ≤ i then a.derivativeSum + (error - a.previousError)
      else a.derivativeSum
    errSum := if windowStart cfg.mSamplingWindowP length ≤ i then a.errSum + error else a.errSum
    integralError :=
      if windowStart cfg.mSamplingWindowI length ≤ i then
        max cfg.pidILowDivI (min cfg.pidIHighDivI widened)
      else a.integralError
    previousError := error }

def pidLoop (cfg : AdpfConfig) (target : Int) (length : Nat) : Nat → List WorkDuration → PidSums → PidSums
  | _, [], a => a
  | i, d :: ds, a => pidLoop cfg target length (i + 1) ds (pidRound cfg target length i d a)

def pidOutput (cfg : AdpfConfig) (target : Int) (length : Nat) (a : PidSums) : Int :=
  let pOut := toInt64 ((if 0 < a.errSum then cfg.mPidPo else cfg.mPidPu) * a.errSum /
    ((length - windowStart cfg.mSamplingWindowP length : Nat) : Rat))
  let iOut := toInt64 (cfg.mPidI * a.integralError)
  let dOut := toInt64 ((if 0 < a.derivativeSum then cfg.mPidDo else cfg.mPidDu) * a.derivativeSum /
    (nsTo100us target : Rat) / ((length - windowStart cfg.mSamplingWindowD length : Nat) : Rat))
  pOut + iOut + dOut

/-- The sums start at the earliest of the three windows; the result is the output with the two
errors that the session keeps. -/
def convertWorkDurationToBoostByPid (cfg : AdpfConfig) (target : Int) (actual : List WorkDuration)
    (integralError previousError : Int) : Int × Int × Int :=
  let length := actual.length
  let first := min (windowStart cfg.mSamplingWindowP length)
    (min (windowStart cfg.mSamplingWindowI length) (windowStart cfg.mSamplingWindowD length))
  let sums := pidLoop cfg target length first (actual.drop first) ⟨integralError, previousError, 0, 0⟩
  (pidOutput cfg target length sums, sums.integralError, sums.previousError)

/-! ### The session object -/

/-- `StaleTimerHandler` or `EarlyBoostHandler`. -/
structure Timer where
  time : Int
  mIsMonitoring : Bool
  mIsSessionDead : Bool

structure Session where
  tgid : Int
  uid : Int
  threadIds : List Tid
  duration : Int
  currentMin : Int
  isActive : Bool
  updateCount : Nat
  integralError : Int
  previousError : Int
  mLastUpdatedTime : Int
  mSessionClosed : Bool
  /-- The destructor has run. -/
  deleted : Bool
  mLastStartedTimeNs : Int
  mLastDurationNs : Int
  mWorkPeriodNs : Int
  mStaleTimerHandler : Timer
  mEarlyBoostHandler : Timer

def aidAppStart : Int := 10000

namespace Session

/-- The object before the constructor stores its first times. -/
def fresh (tgid uid : Int) (threadIds : List Tid) (durationNanos : Int) : Session where
  tgid := tgid
  uid := uid
  threadIds := threadIds
  duration := durationNanos
  currentMin := 0
  isActive := true
  updateCount := 0
  integralError := 0
  previousError := 0
  mLastUpdatedTime := 0
  mSessionClosed := false
  deleted := false
  mLastStartedTimeNs := 0
  mLastDurationNs := durationNanos
  mWorkPeriodNs := durationNanos
  mStaleTimerHandler := ⟨0, false, false⟩
  mEarlyBoostHandler := ⟨0, false, false⟩

def isAppSession (x : Session) : Bool := decide (aidAppStart ≤ x.uid)

def stalePeriod (cfg : AdpfConfig) (x : Session) : Int := toInt64 (x.duration * cfg.mStaleTimeFactor)

def getStaleTime (cfg : AdpfConfig) (x : Session) : Int := x.mLastUpdatedTime + x.stalePeriod cfg

def isTimeout (cfg : AdpfConfig) (now : Int) (x : Session) : Bool := decide (x.getStaleTime cfg ≤ now)

def getEarlyBoostTime (cfg : AdpfConfig) (x : Session) : Int :=
  x.mLastUpdatedTime + (x.mWorkPeriodNs - x.mLastDurationNs) +
    toInt64 (x.duration * cfg.mEarlyBoostTimeFactor)

/-- The start of the work before the last, when the report contains it. -/
def startedBefore (x : Session) (actual : List WorkDuration) : Int :=
  match actual.reverse with
  | _ :: last :: _ => last.timeStampNanos - last.durationNanos
  | _ => x.mLastStartedTimeNs

def updateWorkPeriod (actual : List WorkDuration) (x : Session) : Session :=
  match actual.getLast? with
  | none => x
  | some current =>
    let currStart := current.timeStampNanos - current.durationNanos
    let period := currStart - x.startedBefore actual
    { x with
      mWorkPeriodNs :=
        if 0 < period ∧ period < x.duration * 2 then
          toInt64 (9 / 10 * (x.mWorkPeriodNs : Rat) + 1 / 10 * (period : Rat))
        else x.mWorkPeriodNs
      mLastStartedTimeNs := currStart
      mLastDurationNs := current.durationNanos }

end Session

/-- What one statement stores in a session. -/
inductive Store where
  | isActive (b : Bool)
  | currentMin (v : Int)
  | closed
  | deleted
  | duration (d : Int)
  | updateCount
  | lastUpdatedTime (now : Int)
  | lastStartedTime (ns : Int)
  | pidErrors (integral previous : Int)
  | workPeriod (actual : List WorkDuration)
  | staleTime (t : Int)
  | staleMonitoring (b : Bool)
  | boostTime (t : Int)
  | boostMonitoring (b : Bool)

def Store.apply (x : Session) : Store → Session
  | .isActive b => { x with isActive := b }
  | .currentMin v => { x with currentMin := v }
  | .closed => { x with mSessionClosed := true }
  | .deleted => { x with deleted := true }
  | .duration d => { x with duration := d }
  | .updateCount => { x with updateCount := x.updateCount + 1 }
  | .lastUpdatedTime now => { x with mLastUpdatedTime := now }
  | .lastStartedTime ns => { x with mLastStartedTimeNs := ns }
  | .pidErrors integral previous => { x with integralError := integral, previousError := previous }
  | .workPeriod actual => x.updateWorkPeriod actual
  | .staleTime t => { x with mStaleTimerHandler.time := t }
  | .staleMonitoring b => { x with mStaleTimerHandler.mIsMonitoring := b }
  | .boostTime t => { x with mEarlyBoostHandler.time := t }
  | .boostMonitoring b => { x with mEarlyBoostHandler.mIsMonitoring := b }

end Pdx215.Power
