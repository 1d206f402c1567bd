import Pdx215.Power.Interleave

/-! The handlers of a session's two timers, statement by statement. `StaleTimerHandler` and
`EarlyBoostHandler` are written to one plan: `updateTimer` stores a time, posts a message and sets
`mIsMonitoring`, and `handleMessage` compares the stored time with the clock and either reschedules
itself or takes its expiry branch. Here tracing counts, since it reads the session. -/
namespace Pdx215.Power

open Effect

inductive TimerKind where
  | stale
  | earlyBoost
  deriving DecidableEq, Repr

namespace TimerKind

def handler (s : Sid) : TimerKind → Handler
  | .stale => .stale s
  | .earlyBoost => .earlyBoost s

def timer (x : Session) : TimerKind → Timer
  | .stale => x.mStaleTimerHandler
  | .earlyBoost => x.mEarlyBoostHandler

def storeTime (t : Int) : TimerKind → Store
  | .stale => .staleTime t
  | .earlyBoost => .boostTime t

def storeMonitoring (b : Bool) : TimerKind → Store
  | .stale => .staleMonitoring b
  | .earlyBoost => .boostMonitoring b

def expiryMin (cfg : AdpfConfig) : TimerKind → Int
  | .stale => 0
  | .earlyBoost => fromUInt32 cfg.mUclampMinHigh

def updateTimer (s : Sid) (time : Int) : TimerKind → Call Unit
  | .stale => updateStaleTimerTo s time
  | .earlyBoost => updateEarlyBoostTimer s time

end TimerKind

theorem Store.dead_apply (k : TimerKind) (x : Store) (y : Session) :
    (k.timer (x.apply y)).mIsSessionDead = (k.timer y).mIsSessionDead := by
  cases x
  case workPeriod actual =>
    simp only [Store.apply, Session.updateWorkPeriod]
    split <;> cases k <;> rfl
  all_goals cases k <;> rfl

section Programs

variable (cfg : AdpfConfig) (s : Sid)

/-- `EarlyBoostHandler::handleMessage`; `mBoostLock` is held from its first statement to its last. -/
def handleEarlyBoost : Call Unit :=
  load () s fun x =>
    if x.mEarlyBoostHandler.mIsSessionDead then .ret ()
    else readClock fun now => load () s fun x =>
      if 0 < x.mEarlyBoostHandler.time - now then
        act (.repost (.earlyBoost s) (x.mEarlyBoostHandler.time - now))
      else do
        act (.setUclampMin s (fromUInt32 cfg.mUclampMinHigh))
        act (.store s (.boostMonitoring false))

def TimerKind.handleMessage : TimerKind → Call Unit
  | .stale => handleStale s
  | .earlyBoost => handleEarlyBoost cfg s

end Programs

/-- The statements of the two `handleMessage`s. -/
inductive Place where
  | check
  | clock
  | load (now : Int)
  /-- The early boost is traced before it is rescheduled, the stale timer after it. -/
  | announce (next : Int)
  | reschedule (next : Int)
  | expire
  | app
  | tell
  | settle
  /-- A trace, and whether `mIsMonitoring` is still to be reset. -/
  | trace (more : Bool)
  deriving DecidableEq, Repr

namespace Place

section Steps

variable (cfg : AdpfConfig) (s : Sid) (k : TimerKind)

def act : Place → Act
  | .check | .load _ | .app | .announce _ | .trace _ => .look s
  | .clock => .now
  | .reschedule next => .repost (k.handler s) next
  | .expire => .setUclampMin s (k.expiryMin cfg)
  | .tell => .sendMessage .manager
  | .settle => .store s (k.storeMonitoring false)

def afterCheck (x : Session) : Option Place :=
  if (k.timer x).mIsSessionDead then none else some .clock

def afterLoad (traced : Bool) (now : Int) (x : Session) : Place :=
  if 0 < (k.timer x).time - now then
    if traced = true ∧ k = .earlyBoost then .announce ((k.timer x).time - now)
    else .reschedule ((k.timer x).time - now)
  else .expire

/-- `setStale` ends with a trace. -/
def afterStale (traced : Bool) : Place := if traced then .trace true else .settle

def afterApp (traced : Bool) (x : Session) : Place := if x.isAppSession then .tell else afterStale traced

def next (traced : Bool) : (p : Place) → Reply (p.act cfg s k) → Option Place
  | .check, (r : Option Session) => r.bind (afterCheck k)
  | .clock, (now : Int) => some (.load now)
  | .load now, (r : Option Session) => r.map (afterLoad k traced now)
  | .announce next, _ => some (.reschedule next)
  | .reschedule _, _ => if traced = true ∧ k = .stale then some (.trace false) else none
  | .expire, _ => some (if k = .stale then .app else .settle)
  | .app, (r : Option Session) => some (r.elim .settle (afterApp traced))
  | .tell, _ => some (afterStale traced)
  | .settle, _ => if traced then some (.trace false) else none
  | .trace more, _ => if more then some .settle else none

def step (traced : Bool) (o : Outcome) (sh : Shared) (p : Place) : Option Place × Shared :=
  (p.next cfg s k traced (perform cfg (p.act cfg s k) o sh).1, (perform cfg (p.act cfg s k) o sh).2)

/-! ### The steps are those of the program -/

def settling : Call Unit := Power.act (.store s (k.storeMonitoring false))

def expiring : Call Unit := do
  Power.act (.setUclampMin s (k.expiryMin cfg))
  perhaps (decide (k = .stale)) (updateUniveralBoostMode s)
  settling s k

def comparing (now : Int) : Call Unit :=
  Power.load () s fun x =>
    if 0 < (k.timer x).time - now then Power.act (.repost (k.handler s) ((k.timer x).time - now))
    else expiring cfg s k

/-- What is left of `handleMessage` when nothing more is traced. -/
def program : Place → Call Unit
  | .check => k.handleMessage cfg s
  | .clock => readClock (comparing cfg s k)
  | .load now => comparing cfg s k now
  | .announce next => .call (.look s) fun _ => Power.act (.repost (k.handler s) next)
  | .reschedule next => Power.act (.repost (k.handler s) next)
  | .expire => expiring cfg s k
  | .app => do updateUniveralBoostMode s; settling s k
  | .tell => do Power.act (.sendMessage .manager); settling s k
  | .settle => settling s k
  | .trace more => .call (.look s) fun _ => perhaps more (settling s k)

def rest : Option Place → Call Unit
  | none => .ret ()
  | some p => p.program cfg s k

end Steps

variable {cfg : AdpfConfig} {s : Sid} {k : TimerKind}

theorem program_check : k.handleMessage cfg s = Power.load () s fun x =>
    if (k.timer x).mIsSessionDead then .ret () else readClock (comparing cfg s k) := by
  cases k <;> rfl

/-- Every statement makes its step and leaves what is left of `handleMessage` after it. -/
theorem program_eq (p : Place) :
    p.program cfg s k = .call (p.act cfg s k) fun r => rest cfg s k (p.next cfg s k false r) := by
  cases p
  case check =>
    refine program_check.trans (congrArg (Prog.call _) (funext fun (r : Option Session) => ?_))
    cases r with
    | none => rfl
    | some x =>
      simp only [ifPresent, next, Option.bind_some, afterCheck]
      split <;> rfl
  case load now =>
    refine congrArg (Prog.call _) (funext fun (r : Option Session) => ?_)
    cases r with
    | none => rfl
    | some x =>
      simp only [ifPresent, next, Option.map_some, afterLoad]
      split <;> rfl
  case reschedule next => rfl
  case expire => cases k <;> rfl
  case app =>
    refine congrArg (Prog.call _) (funext fun (r : Option Session) => ?_)
    cases r with
    | none => rfl
    | some x =>
      change (perhaps x.isAppSession (Power.act (.sendMessage .manager))).bind (fun _ => settling s k) = _
      simp only [next, Option.elim_some, afterApp, perhaps]
      split <;> rfl
  case trace more =>
    cases more <;> rfl
  all_goals rfl

/-- Without tracing a place steps as the program does. -/
theorem advance_program (o : Outcome) (sh : Shared) (p : Place) : advance cfg o sh (p.program cfg s k) =
    (rest cfg s k (p.step cfg s k false o sh).1, (p.step cfg s k false o sh).2) := by
  rw [program_eq]
  rfl

end Place

/-- The statements of `updateTimer`, up to its trace. -/
inductive Update where
  | store (time : Int)
  | post
  | monitor
  deriving DecidableEq, Repr

namespace Update

section Steps

variable (s : Sid) (k : TimerKind)

def act : Update → Act
  | .store time => .store s (k.storeTime time)
  | .post => .repost (k.handler s) 0
  | .monitor => .store s (k.storeMonitoring true)

def next : Update → Option Update
  | .store _ => some .post
  | .post => some .monitor
  | .monitor => none

def rest : Option Update → Call Unit
  | none => .ret ()
  | some (.store time) => k.updateTimer s time
  | some .post => do Power.act (.repost (k.handler s) 0); Power.act (.store s (k.storeMonitoring true))
  | some .monitor => Power.act (.store s (k.storeMonitoring true))

end Steps

theorem rest_eq {s : Sid} {k : TimerKind} (u : Update) :
    rest s k (some u) = .call (u.act s k) fun _ => rest s k u.next := by
  cases u <;> cases k <;> rfl

end Update

theorem exec_still {cfg : AdpfConfig} {io : Nat → Outcome} (still : ∀ n, (io (n + 1)).elapsed = 0) {α : Type}
    (a : Act)
    (next : Reply a → Call α) (n : Nat) (sh : Shared) : exec (perform cfg) io (.call a next) (n + 1) sh =
      exec (perform cfg) io (next (performNow cfg (io (n + 1)) sh a).1) (n + 2)
        (performNow cfg (io (n + 1)) sh a).2 := by
  have now : perform cfg a (io (n + 1)) sh = performNow cfg (io (n + 1)) sh a := by
    rw [perform, still, Shared.wait_zero]
  rw [exec, now]

/-- With nothing in between, the statements under `mBoostLock` are the one step that stands for them elsewhere. -/
theorem exec_handleEarlyBoost {cfg : AdpfConfig} {s : Sid} {sh : Shared} {io : Nat → Outcome}
    (still : ∀ n, (io (n + 1)).elapsed = 0) :
    exec (perform cfg) io (handleEarlyBoost cfg s) 0 sh = perform cfg (.earlyBoost s) (io 0) sh := by
  let w := sh.wait (io 0).elapsed
  change exec (perform cfg) io (ifPresent () _ (w.sessions s)) 1 w = ((), w.earlyBoost cfg s)
  cases found : w.sessions s with
  | none => simp only [ifPresent, exec, Shared.earlyBoost, found]
  | some x =>
    simp only [ifPresent, Shared.earlyBoost, found]
    split
    · rfl
    · apply (exec_still still .now _ 0 w).trans
      apply (exec_still still (.look s) _ 1 w).trans
      change exec (perform cfg) io (ifPresent () _ (w.sessions s)) 3 w = _
      rw [found]
      change exec (perform cfg) io (if 0 < x.mEarlyBoostHandler.time - w.clock then _ else _) 3 w = _
      split
      · exact exec_still still _ _ 2 w
      · apply (exec_still still _ _ 2 w).trans
        exact exec_still still _ _ 3 _

namespace Sample

def created : Shared := run cfg .start (calmly [.createHintSession 0 1 10001 [7] 10])

end Sample

end Pdx215.Power
