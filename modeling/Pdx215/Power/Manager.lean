import Mathlib.Data.Finset.Fold
import Mathlib.Data.Finset.Lattice.Fold
import Mathlib.Data.List.Dedup
import Mathlib.Order.Lattice.Nat
import Pdx215.Lib.Effect
import Pdx215.Power.Session

/-! The state that binder threads and the looper share, and the steps in which they change it. A
step is one statement or one region under a mutex. The clock may advance before any step. -/
namespace Pdx215.Power

open Effect

/-- The message handlers of the looper: two for each session, the manager and its `WakeupHandler`. -/
inductive Handler where
  | stale (s : Sid)
  | earlyBoost (s : Sid)
  | manager
  | wakeup
  deriving DecidableEq, Repr

structure Message where
  handler : Handler
  due : Int
  deriving DecidableEq, Repr

/-- Sessions are told apart for ever: a deleted one stays in `sessions` as its destructor left it, so
nothing is said about code that follows a pointer to an object whose memory was used again. -/
structure View where
  clock : Int
  sessions : Sid → Option Session
  registry : Registry
  mActive : Bool
  queue : List Message

/-- A `sched_setattr` call, with the session on whose behalf it is made and what was in memory then. -/
structure Write where
  session : Sid
  tid : Tid
  value : Int
  view : View

structure Shared extends View where
  /-- The newest write comes first. -/
  log : List Write

/-- What the environment decides about a step: the time that passes before it, the answers of the
`SetTaskProfiles` calls in it and the order in which it meets the elements of `mSessions`. -/
structure Outcome where
  elapsed : Nat
  applied : Nat → Bool
  order : List Sid

namespace View

def start : View where
  clock := 0
  sessions := fun _ => none
  registry := .empty
  mActive := false
  queue := []

def modify (v : View) (s : Sid) (f : Session → Session) : View :=
  { v with sessions := Function.update v.sessions s ((v.sessions s).map f) }

def sendMessageDelayed (v : View) (h : Handler) (delay : Int) : View :=
  { v with queue := v.queue ++ [⟨h, v.clock + delay⟩] }

def removeMessages (v : View) (h : Handler) : View :=
  { v with queue := v.queue.filter fun m => m.handler ≠ h }

/-- The region under `mMessageLock`. -/
def repost (v : View) (h : Handler) (delay : Int) : View :=
  (v.removeMessages h).sendMessageDelayed h delay

def getTidList (v : View) (s : Sid) : List Tid :=
  match v.sessions s with
  | none => []
  | some x => x.threadIds

def getUclampMin (v : View) (s : Sid) : Int :=
  match v.sessions s with
  | none => 0
  | some x => x.currentMin

def construct (v : View) (s : Sid) (x : Session) : View :=
  { v with sessions := Function.update v.sessions s (some x) }

/-- `StaleTimerHandler::setSessionDead`. -/
def staleDead (v : View) (s : Sid) : View :=
  (v.modify s fun x => { x with mStaleTimerHandler.mIsSessionDead := true }).removeMessages (.stale s)

/-- `EarlyBoostHandler::setSessionDead`. -/
def earlyBoostDead (v : View) (s : Sid) : View :=
  (v.modify s fun x => { x with mEarlyBoostHandler.mIsSessionDead := true }).removeMessages (.earlyBoost s)

def addPowerSession (v : View) (s : Sid) (applied : Nat → Bool) : View :=
  { v with registry := v.registry.addPowerSession s (v.getTidList s) applied }

def removePowerSession (v : View) (s : Sid) : View :=
  { v with registry := v.registry.removePowerSession s (v.getTidList s) }

def counts (cfg : AdpfConfig) (v : View) (s : Sid) : Bool :=
  match v.sessions s with
  | none => false
  | some x => x.isActive && !x.isTimeout cfg v.clock

/-- The largest `current_min` among those of the given sessions that count, and at least 0. -/
def maxMin (cfg : AdpfConfig) (v : View) (among : Finset Sid) : Int :=
  (among.filter fun s => v.counts cfg s = true).fold max 0 v.getUclampMin

def tidMax (cfg : AdpfConfig) (v : View) (t : Tid) : Int :=
  v.maxMin cfg (v.registry.mTidSessionListMap t)

end View

/-- The range that `set_uclamp_min` admits. -/
def clampMin (min' : Int) : Int := min (max 0 min') 1024

namespace Shared

def start : Shared := { View.start with log := [] }

def lift (sh : Shared) (f : View → View) : Shared := { f sh.toView with log := sh.log }

def wait (sh : Shared) (elapsed : Nat) : Shared := sh.lift fun v => { v with clock := v.clock + elapsed }

theorem wait_zero (sh : Shared) : sh.wait 0 = sh := by
  simp [wait, lift]

def store (sh : Shared) (s : Sid) (x : Store) : Shared := sh.lift fun v => v.modify s fun y => x.apply y

/-- `sched_setattr` does nothing unless the profile has `mUclampMinOn`. -/
def setUclampMinLocked (cfg : AdpfConfig) (s : Sid) (val : Int) (sh : Shared) : Shared :=
  if cfg.mUclampMinOn then
    { sh with
      log := ((sh.getTidList s).map fun t =>
        ⟨s, t, clampMin (max val (sh.tidMax cfg t)), sh.toView⟩).reverse ++ sh.log }
  else sh

/-- `StaleTimerHandler::updateTimer()` as it runs under the locks of `wakeSessions`. -/
def updateStaleTimer (cfg : AdpfConfig) (s : Sid) (x : Session) (sh : Shared) : Shared :=
  ((sh.store s (.staleTime (sh.clock + x.stalePeriod cfg))).lift fun v => v.repost (.stale s) 0).store s
    (.staleMonitoring true)

def wakeup (cfg : AdpfConfig) (sh : Shared) (s : Sid) : Shared :=
  match sh.sessions s with
  | none => sh
  | some x =>
    if x.mSessionClosed || !x.isActive || !x.isTimeout cfg sh.clock then sh
    else
      let min' := max x.currentMin (fromUInt32 cfg.mUclampMinInit)
      updateStaleTimer cfg s x ((sh.store s (.currentMin min')).setUclampMinLocked cfg s min')

/-- Every element once: those that the given order names come first. -/
def inOrder (order : List Sid) (among : Finset Sid) : List Sid :=
  (order.dedup.filter fun s => s ∈ among) ++
    (List.range (among.sup id + 1)).filter fun s => s ∈ among ∧ s ∉ order

def wakeSessions (cfg : AdpfConfig) (order : List Sid) (sh : Shared) : Shared :=
  (inOrder order sh.registry.mSessions).foldl (wakeup cfg) sh

def anyAppSessionActive (cfg : AdpfConfig) (v : View) : Bool :=
  decide (∃ s ∈ v.registry.mSessions, v.counts cfg s = true ∧
    ((v.sessions s).any fun x => x.isAppSession) = true)

/-- The whole of `EarlyBoostHandler::handleMessage` is under `mBoostLock`. -/
def earlyBoost (cfg : AdpfConfig) (s : Sid) (sh : Shared) : Shared :=
  match sh.sessions s with
  | none => sh
  | some x =>
    if x.mEarlyBoostHandler.mIsSessionDead then sh
    else if 0 < x.mEarlyBoostHandler.time - sh.clock then
      sh.lift fun v => v.repost (.earlyBoost s) (x.mEarlyBoostHandler.time - sh.clock)
    else (sh.setUclampMinLocked cfg s (fromUInt32 cfg.mUclampMinHigh)).store s (.boostMonitoring false)

end Shared

inductive Act where
  | now
  | look (s : Sid)
  | construct (s : Sid) (tgid uid : Int) (threadIds : List Tid) (durationNanos : Int)
  | store (s : Sid) (x : Store)
  | compareExchangeClosed (s : Sid)
  | sendMessage (h : Handler)
  | repost (h : Handler) (delay : Int)
  | staleDead (s : Sid)
  | earlyBoostDead (s : Sid)
  | earlyBoost (s : Sid)
  | addPowerSession (s : Sid)
  | removePowerSession (s : Sid)
  | setUclampMin (s : Sid) (val : Int)
  | wakeSessions
  | isAnyAppSessionActive

def Reply : Act → Type
  | .now => Int
  | .look _ => Option Session
  | .compareExchangeClosed _ => Bool
  | .isAnyAppSessionActive => Option Bool
  | _ => Unit

def performNow (cfg : AdpfConfig) (o : Outcome) (sh : Shared) : (a : Act) → Reply a × Shared
  | .now => (sh.clock, sh)
  | .look s => (sh.sessions s, sh)
  | .construct s tgid uid threadIds durationNanos =>
    ((), sh.lift fun v => v.construct s (.fresh tgid uid threadIds durationNanos))
  | .store s x => ((), sh.store s x)
  | .compareExchangeClosed s => ((sh.sessions s).any fun x => !x.mSessionClosed, sh.store s .closed)
  | .sendMessage h => ((), sh.lift fun v => v.sendMessageDelayed h 0)
  | .repost h delay => ((), sh.lift fun v => v.repost h delay)
  | .staleDead s => ((), sh.lift fun v => v.staleDead s)
  | .earlyBoostDead s => ((), sh.lift fun v => v.earlyBoostDead s)
  | .earlyBoost s => ((), sh.earlyBoost cfg s)
  | .addPowerSession s => ((), sh.lift fun v => v.addPowerSession s o.applied)
  | .removePowerSession s => ((), sh.lift fun v => v.removePowerSession s)
  | .setUclampMin s val => ((), sh.setUclampMinLocked cfg s val)
  | .wakeSessions => ((), sh.wakeSessions cfg o.order)
  | .isAnyAppSessionActive =>
    let active := Shared.anyAppSessionActive cfg sh.toView
    (if active = sh.mActive then none else some active, sh.lift fun v => { v with mActive := active })

def perform (cfg : AdpfConfig) (a : Act) (o : Outcome) (sh : Shared) : Reply a × Shared :=
  performNow cfg o (sh.wait o.elapsed) a

end Pdx215.Power
