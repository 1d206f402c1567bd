import Pdx215.Power.Manager

/-! The methods of `PowerHintSession`, the handlers of its timers and of the manager, and
`createHintSession`, each as the steps that it makes. Tracing and logging are left out, and so is the
hint that the manager sends when `mActive` changes. -/
namespace Pdx215.Power

open Effect

abbrev Call := Prog Act Reply

inductive Status where
  | ok
  | illegalState
  | illegalArgument
  | unsupportedOperation
  deriving DecidableEq, Repr

def act (a : Act) : Call Unit := .call a fun _ => .ret ()

def ifPresent {α : Type} (absent : α) (k : Session → Call α) : Option Session → Call α
  | none => .ret absent
  | some x => k x

/-- Reads fields of the session; the statement uses those that the source loads there. -/
def load {α : Type} (absent : α) (s : Sid) (k : Session → Call α) : Call α :=
  .call (.look s) fun (r : Option Session) => ifPresent absent k r

def readClock {α : Type} (k : Int → Call α) : Call α := .call .now fun (now : Int) => k now

def perhaps (c : Bool) (p : Call Unit) : Call Unit := if c then p else .ret ()

section Session

variable (cfg : AdpfConfig) (s : Sid)

def updateUniveralBoostMode : Call Unit :=
  load () s fun x => perhaps x.isAppSession (act (.sendMessage .manager))

/-- `StaleTimerHandler::updateTimer(staleTime)`. -/
def updateStaleTimerTo (staleTime : Int) : Call Unit := do
  act (.store s (.staleTime staleTime))
  act (.repost (.stale s) 0)
  act (.store s (.staleMonitoring true))

/-- `StaleTimerHandler::updateTimer()`. -/
def updateStaleTimer : Call Unit :=
  readClock fun now => load () s fun x => updateStaleTimerTo s (now + x.stalePeriod cfg)

/-- `EarlyBoostHandler::updateTimer(boostTime)`. -/
def updateEarlyBoostTimer (boostTime : Int) : Call Unit := do
  act (.store s (.boostTime boostTime))
  act (.repost (.earlyBoost s) 0)
  act (.store s (.boostMonitoring true))

def setSessionUclampMin (min' : Int) : Call Unit := do
  act (.store s (.currentMin min'))
  perhaps (decide (min' ≠ 0)) (updateStaleTimer cfg s)
  act (.setUclampMin s min')

def setStale : Call Unit := do
  act (.setUclampMin s 0)
  updateUniveralBoostMode s

def pause : Call Status :=
  load .illegalState s fun x =>
    if x.mSessionClosed then .ret .illegalState
    else load .illegalState s fun x =>
      if !x.isActive then .ret .illegalState
      else do
        act (.store s (.isActive false))
        setStale s
        updateUniveralBoostMode s
        pure .ok

def resume : Call Status :=
  load .illegalState s fun x =>
    if x.mSessionClosed then .ret .illegalState
    else load .illegalState s fun x =>
      if x.isActive then .ret .illegalState
      else do
        act (.store s (.isActive true))
        load () s fun x => setSessionUclampMin cfg s x.currentMin
        updateUniveralBoostMode s
        pure .ok

/-- The last part of `close`: the handlers are told that the session is gone. -/
def closeDead : Call Status := do
  act (.earlyBoostDead s)
  act (.staleDead s)
  updateUniveralBoostMode s
  pure .ok

def closeHandlers : Call Status := do
  act (.store s .closed)
  act (.store s (.isActive false))
  closeDead s

def closeExchanged : Call Status := do
  act (.removePowerSession s)
  setSessionUclampMin cfg s 0
  closeHandlers s

def close : Call Status :=
  .call (.compareExchangeClosed s) fun (exchanged : Bool) =>
    if exchanged then closeExchanged cfg s else .ret .illegalState

/-- The destructor. -/
def destroy : Call Status := do
  let _ ← close cfg s
  act (.store s .deleted)
  pure .ok

def updateTargetWorkDuration (targetDurationNanos : Int) : Call Status :=
  load .illegalState s fun x =>
    if x.mSessionClosed then .ret .illegalState
    else if targetDurationNanos ≤ 0 then .ret .illegalArgument
    else do
      act (.store s (.duration (toInt64 (targetDurationNanos * cfg.mTargetTimeFactor))))
      pure .ok

def updateEarlyBoost (actual : List WorkDuration) : Call Unit := do
  act (.store s (.workPeriod actual))
  load () s fun x => updateEarlyBoostTimer s (x.getEarlyBoostTime cfg)

/-- The part of `reportActualWorkDuration` that runs when `mPidOn` is set. -/
def reportByPid (actual : List WorkDuration) : Call Unit :=
  load () s fun x => do
    let r := convertWorkDurationToBoostByPid cfg x.duration actual x.integralError x.previousError
    act (.store s (.pidErrors r.2.1 r.2.2))
    load () s fun x =>
      setSessionUclampMin cfg s
        (max (fromUInt32 cfg.mUclampMinLow) (min (fromUInt32 cfg.mUclampMinHigh) (x.currentMin + toInt32 r.1)))
    load () s fun x => updateStaleTimerTo s (x.getStaleTime cfg)
    perhaps cfg.mEarlyBoostOn (updateEarlyBoost cfg s actual)

/-- What `reportActualWorkDuration` does with a report that it accepts. -/
def acceptReport (actual : List WorkDuration) : Call Unit := do
  act (.store s .updateCount)
  readClock fun now => load () s fun x => do
    readClock fun updated => act (.store s (.lastUpdatedTime updated))
    perhaps (x.isTimeout cfg now) (updateUniveralBoostMode s)
    if cfg.mPidOn then reportByPid cfg s actual else setSessionUclampMin cfg s (fromUInt32 cfg.mUclampMinHigh)

def reportActualWorkDuration (actual : List WorkDuration) : Call Status :=
  load .illegalState s fun x =>
    if x.mSessionClosed then .ret .illegalState
    else load .illegalState s fun x =>
      if x.duration = 0 then .ret .illegalState
      else if actual.length = 0 then .ret .illegalArgument
      else load .illegalState s fun x =>
        if !x.isActive then .ret .illegalState
        else do
          acceptReport cfg s actual
          pure .ok

/-- The constructor once the descriptor and the handlers exist. -/
def enroll (durationNanos : Int) : Call Unit := do
  readClock fun updated => act (.store s (.lastUpdatedTime updated))
  readClock fun started => act (.store s (.lastStartedTime (started - durationNanos)))
  act (.addPowerSession s)
  setSessionUclampMin cfg s (fromUInt32 cfg.mUclampMinInit)

def construct (tgid uid : Int) (threadIds : List Tid) (durationNanos : Int) : Call Unit := do
  act (.construct s tgid uid threadIds durationNanos)
  enroll cfg s durationNanos

def createHintSession (tgid uid : Int) (threadIds : List Tid) (durationNanos : Int) : Call Status :=
  if cfg.mReportingRateLimitNs ≤ 0 then .ret .unsupportedOperation
  else if threadIds.length = 0 then .ret .illegalArgument
  else do
    construct cfg s tgid uid threadIds durationNanos
    pure .ok

/-- `StaleTimerHandler::handleMessage`; only the rescheduling is under a lock. -/
def handleStale : Call Unit :=
  load () s fun x =>
    if x.mStaleTimerHandler.mIsSessionDead then .ret ()
    else readClock fun now => load () s fun x =>
      if 0 < x.mStaleTimerHandler.time - now then
        act (.repost (.stale s) (x.mStaleTimerHandler.time - now))
      else do
        setStale s
        act (.store s (.staleMonitoring false))

end Session

def handleMessage : Handler → Call Unit
  | .stale s => handleStale s
  | .earlyBoost s => act (.earlyBoost s)
  | .manager => act .isAnyAppSessionActive
  | .wakeup => act .wakeSessions

/-! ### Runs of whole calls -/

/-- A binder call, a message that the looper delivers, or time that passes. `displayUpdate` is
`updateHintBoost` with the boost that wakes the sessions. -/
inductive Event where
  | createHintSession (s : Sid) (tgid uid : Int) (threadIds : List Tid) (durationNanos : Int)
  | close (s : Sid)
  | destroy (s : Sid)
  | pause (s : Sid)
  | resume (s : Sid)
  | updateTargetWorkDuration (s : Sid) (targetDurationNanos : Int)
  | reportActualWorkDuration (s : Sid) (actual : List WorkDuration)
  | displayUpdate
  | deliver (m : Message)
  | tick (elapsed : Nat)

namespace Event

def program (cfg : AdpfConfig) : Event → Call Status
  | .createHintSession s tgid uid threadIds durationNanos =>
    Power.createHintSession cfg s tgid uid threadIds durationNanos
  | .close s => Power.close cfg s
  | .destroy s => Power.destroy cfg s
  | .pause s => Power.pause s
  | .resume s => Power.resume cfg s
  | .updateTargetWorkDuration s target => Power.updateTargetWorkDuration cfg s target
  | .reportActualWorkDuration s actual => Power.reportActualWorkDuration cfg s actual
  | .displayUpdate => do
    act (.sendMessage .wakeup)
    pure .ok
  | .deliver m => do
    handleMessage m.handler
    pure .ok
  | .tick _ => .ret .ok

def live (v : View) (s : Sid) : Bool := (v.sessions s).any fun x => !x.deleted

/-- A new session gets a new name, a call needs an object, and a message is delivered when it is due. -/
def enabled (v : View) : Event → Bool
  | .createHintSession s .. => (v.sessions s).isNone
  | .close s | .destroy s | .pause s | .resume s => live v s
  | .updateTargetWorkDuration s _ | .reportActualWorkDuration s _ => live v s
  | .displayUpdate | .tick _ => true
  | .deliver m => decide (m ∈ v.queue ∧ m.due ≤ v.clock)

/-- The looper takes a message out of the queue before its handler runs. -/
def begin (v : View) : Event → View
  | .deliver m => { v with queue := v.queue.erase m }
  | .tick elapsed => { v with clock := v.clock + elapsed }
  | _ => v

end Event

def eventStep (cfg : AdpfConfig) (sh : Shared) (e : Event × (Nat → Outcome)) : Shared :=
  if e.1.enabled sh.toView then
    (exec (perform cfg) e.2 (e.1.program cfg) 0 (sh.lift fun v => e.1.begin v)).2
  else sh

def run (cfg : AdpfConfig) (sh : Shared) (events : List (Event × (Nat → Outcome))) : Shared :=
  events.foldl (eventStep cfg) sh

theorem run_append (cfg : AdpfConfig) (sh : Shared) (before after : List (Event × (Nat → Outcome))) :
    run cfg sh (before ++ after) = run cfg (run cfg sh before) after :=
  List.foldl_append

/-! ### A small profile for concrete runs -/

namespace Sample

def cfg : AdpfConfig where
  mReportingRateLimitNs := 1
  mPidOn := false
  mPidPo := 0
  mPidPu := 0
  mPidI := 0
  mPidDo := 0
  mPidDu := 0
  pidIHighDivI := 0
  pidILowDivI := 0
  mSamplingWindowP := 1
  mSamplingWindowI := 1
  mSamplingWindowD := 1
  mUclampMinOn := true
  mUclampMinInit := 100
  mUclampMinHigh := 300
  mUclampMinLow := 0
  mEarlyBoostOn := true
  mEarlyBoostTimeFactor := 1
  mTargetTimeFactor := 1
  mStaleTimeFactor := 1

/-- No time passes within a call, the profile calls succeed, and sessions are met in their order. -/
def calm (_ : Nat) : Outcome := ⟨0, fun _ => true, []⟩

def calmly (events : List Event) : List (Event × (Nat → Outcome)) := events.map fun e => (e, calm)

end Sample

end Pdx215.Power
