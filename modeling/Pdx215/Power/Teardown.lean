import Pdx215.Lib.Runs
import Pdx215.Power.Handlers

/-! A session is closed and destroyed on a binder thread while the looper runs the handlers of its timers.
`EarlyBoostHandler` holds `mBoostLock` while it runs, and `setSessionDead` waits for it;
`StaleTimerHandler::handleMessage` holds nothing that its `setSessionDead` would wait for. -/
namespace Pdx215.Power

open Effect Runs

structure Teardown where
  shared : Shared
  binder : Call Status
  looper : Option (TimerKind × Place)

def closeAndDestroy (cfg : AdpfConfig) (s : Sid) : Call Status := do
  let _ ← close cfg s
  destroy cfg s

inductive TeardownTurn where
  | binder (o : Outcome)
  | looper (traced : Bool) (o : Outcome)
  | dispatch (k : TimerKind) (due : Int)
  | other (e : Event) (io : Nat → Outcome)

def TimerKind.dies (s : Sid) : TimerKind → Act
  | .stale => .staleDead s
  | .earlyBoost => .earlyBoostDead s

/-- The next step is the handler's `setSessionDead`. -/
def Call.kills {α : Type} (s : Sid) : TimerKind → Call α → Bool
  | .stale, .call (.staleDead r) _ => decide (r = s)
  | .earlyBoost, .call (.earlyBoostDead r) _ => decide (r = s)
  | _, _ => false

/-- The statements that follow the pointer `mSession`; the others use the handler's own fields. -/
def Place.usesSession : Place → Bool
  | .check | .clock | .load _ | .settle => false
  | _ => true

namespace Teardown

def start (cfg : AdpfConfig) (s : Sid) (sh : Shared) : Teardown := ⟨sh, closeAndDestroy cfg s, none⟩

def blocked (s : Sid) (c : Teardown) : Bool :=
  c.looper.any (fun running => running.1 = .earlyBoost) && Call.kills s .earlyBoost c.binder

section Steps

variable (cfg : AdpfConfig) (s : Sid)

def looperStep (traced : Bool) (o : Outcome) (c : Teardown) : Option (TimerKind × Place) → Teardown
  | none => c
  | some (k, p) =>
    let r := p.step cfg s k traced o c.shared
    { c with shared := r.2, looper := r.1.map fun q => (k, q) }

def step (c : Teardown) : TeardownTurn → Teardown
  | .binder o =>
    if c.blocked s then c
    else { c with
      binder := (advance cfg o c.shared c.binder).1
      shared := (advance cfg o c.shared c.binder).2 }
  | .looper traced o => c.looperStep cfg s traced o c.looper
  | .dispatch k due =>
    let m : Message := ⟨k.handler s, due⟩
    if c.looper = none ∧ (Event.deliver m).enabled c.shared.toView then
      { c with looper := some (k, .check), shared := c.shared.lift fun v => (Event.deliver m).begin v }
    else c
  | .other e io => if e.ofOthers s then { c with shared := eventStep cfg c.shared (e, io) } else c

end Steps

/-- When `StaleTimerHandler::setSessionDead` runs, the looper is not in the handler past its test. -/
def Fine (s : Sid) (c : Teardown) : TeardownTurn → Bool
  | .binder _ =>
    !Call.kills s .stale c.binder || c.looper.all fun running => running.1 ≠ .stale || running.2 = .check
  | _ => true

end Teardown

def View.Living (s : Sid) (k : TimerKind) (v : View) : Prop :=
  ∀ x, v.sessions s = some x → (k.timer x).mIsSessionDead = false

section Living

variable {cfg : AdpfConfig} {s : Sid} {k : TimerKind} {v : View} {sh : Shared}

theorem View.Living.modify (living : v.Living s k) {f : Session → Session}
    (same : ∀ x, (k.timer (f x)).mIsSessionDead = (k.timer x).mIsSessionDead) : (v.modify s f).Living s k := by
  intro x' found'
  rw [modify_self, Option.map_eq_some_iff] at found'
  obtain ⟨x, found, rfl⟩ := found'
  exact (same x).trans (living x found)

theorem View.Living.earlyBoost (living : sh.Living s k) : (sh.earlyBoost cfg s).Living s k := by
  unfold Shared.earlyBoost
  split
  · exact living
  · split
    · exact living
    · split
      · exact living
      · have before : (sh.setUclampMinLocked cfg s (fromUInt32 cfg.mUclampMinHigh)).Living s k :=
          Shared.setUclampMinLocked_toView cfg s _ sh ▸ living
        exact before.modify (Store.dead_apply k _)

theorem View.Living.perform {a : Act} (on : a.On s) (spared : a ≠ k.dies s) (o : Outcome) (living : sh.Living s k) :
    (perform cfg a o sh).2.Living s k := by
  have waited : (sh.wait o.elapsed).Living s k := living
  cases a
  case construct =>
    cases on
    intro x found
    cases (Function.update_self s _ _).symm.trans found
    cases k <;> rfl
  case store r x =>
    cases on
    exact waited.modify (x.dead_apply k)
  case compareExchangeClosed =>
    cases on
    exact waited.modify (Store.closed.dead_apply k)
  case staleDead =>
    cases on
    exact View.Living.modify waited fun _ => by
      cases k
      · exact absurd rfl spared
      · rfl
  case earlyBoostDead =>
    cases on
    exact View.Living.modify waited fun _ => by
      cases k
      · rfl
      · exact absurd rfl spared
  case earlyBoost =>
    cases on
    exact waited.earlyBoost
  case setUclampMin r val =>
    have same : (Power.perform cfg (.setUclampMin r val) o sh).2.toView = (sh.wait o.elapsed).toView :=
      Shared.setUclampMinLocked_toView cfg r val _
    exact same ▸ waited
  case wakeSessions => exact on.elim
  all_goals exact living

theorem Place.act_on (p : Place) : (p.act cfg s k).On s := by
  cases p
  case tell => rfl
  case settle => rfl
  case expire => rfl
  case reschedule next => cases k <;> simp [Place.act, TimerKind.handler, Act.On]
  all_goals trivial

theorem Place.act_ne_dies (p : Place) : p.act cfg s k ≠ k.dies s := by
  cases p <;> cases k <;> nofun

end Living

namespace Teardown

variable {cfg : AdpfConfig} {s : Sid} {c : Teardown}

/-- Past its test, a handler's session is not dead. -/
structure Safe (s : Sid) (c : Teardown) : Prop where
  binder : c.binder.All (Act.On s)
  looper : ∀ k p, c.looper = some (k, p) → p = .check ∨ c.shared.Living s k

theorem start_safe (cfg : AdpfConfig) (s : Sid) (sh : Shared) : (start cfg s sh).Safe s := by
  have closes : (close cfg s).All (Act.On s) := program_on (e := .close s) rfl
  have destroys : (destroy cfg s).All (Act.On s) := program_on (e := .destroy s) rfl
  exact ⟨closes.bind fun _ => destroys, nofun⟩

theorem Safe.binder_step (safe : c.Safe s) (o : Outcome) (fine : Fine s c (.binder o) = true) :
    (step cfg s c (.binder o)).Safe s := by
  simp only [step]
  split
  · exact safe
  · rename_i free
    obtain ⟨sh, binder, looper⟩ := c
    cases binder with
    | ret a => exact safe
    | call a next =>
      refine ⟨safe.binder.2 _, fun k p running => ?_⟩
      change looper = some (k, p) at running
      rcases safe.looper k p running with test | living
      · exact .inl test
      · by_cases spared : a = k.dies s
        · left
          subst running spared
          cases k with
          | stale => simpa [Fine, Call.kills, TimerKind.dies] using fine
          | earlyBoost => simp [blocked, Call.kills, TimerKind.dies] at free
        · exact .inr (living.perform safe.binder.1 spared o)

theorem Safe.looper_step (safe : c.Safe s) (traced : Bool) (o : Outcome) :
    (c.looperStep cfg s traced o c.looper).Safe s := by
  cases running : c.looper with
  | none => exact safe
  | some run =>
    obtain ⟨k, p⟩ := run
    refine ⟨safe.binder, fun k' q next => ?_⟩
    have stepped : (p.step cfg s k traced o c.shared).1.map (fun q => (k, q)) = some (k', q) := next
    obtain ⟨q', after, same⟩ := Option.map_eq_some_iff.mp stepped
    cases same
    right
    have living : c.shared.Living s k := by
      rcases safe.looper k p running with rfl | living
      · intro x found
        have tested : (c.shared.sessions s).bind (Place.afterCheck k) = some q := after
        rw [found, Option.bind_some, Place.afterCheck] at tested
        split at tested
        · cases tested
        · exact Bool.eq_false_of_not_eq_true ‹_›
      · exact living
    exact living.perform p.act_on p.act_ne_dies o

theorem Safe.step (safe : c.Safe s) (t : TeardownTurn) (fine : Fine s c t = true) : (step cfg s c t).Safe s := by
  cases t with
  | binder o => exact safe.binder_step o fine
  | looper traced o => exact safe.looper_step traced o
  | dispatch k due =>
    simp only [Teardown.step]
    split
    · refine ⟨safe.binder, fun k' p running => ?_⟩
      cases running
      exact .inl rfl
    · exact safe
  | other e io =>
    simp only [Teardown.step]
    split
    · rename_i others
      refine ⟨safe.binder, fun k p running => (safe.looper k p running).imp_right fun living x found => ?_⟩
      exact living x ((eventStep_foreign others io).sessions ▸ found)
    · exact safe

/-- If no `StaleTimerHandler::handleMessage` is past its test when the handler's `setSessionDead` runs, then
no handler follows `mSession` once its `setSessionDead` has returned. -/
theorem dead_handlers_spare_session (cfg : AdpfConfig) (s : Sid) (sh : Shared) (ts : List TeardownTurn)
    (fine : Along (Teardown.step cfg s) (fun c t => Fine s c t = true) (start cfg s sh) ts) :
    let c := ts.foldl (Teardown.step cfg s) (start cfg s sh)
    ∀ k p, c.looper = some (k, p) → p.usesSession = true →
      ∀ x, c.shared.sessions s = some x → (k.timer x).mIsSessionDead = false := by
  intro c k p running uses
  have safe : c.Safe s := foldl_inv (fun _ t safe fine => safe.step t fine) (start_safe cfg s sh) fine
  rcases safe.looper k p running with rfl | living
  · cases uses
  · exact living

end Teardown

namespace Sample

/-- The stale timer has expired and its handler has passed the test; then come some steps of the binder
thread, and the handler goes on to its expiry branch. -/
def preempted (steps : Nat) : List TeardownTurn :=
  [.other (.tick 10) calm, .dispatch .stale 0, .looper false (calm 0)] ++
    List.replicate steps (.binder (calm 0)) ++ [.looper false (calm 0), .looper false (calm 0)]

def teardown (steps : Nat) : Teardown := (preempted steps).foldl (Teardown.step cfg 0) (.start cfg 0 created)

end Sample

/- The handler decides while `close` is on its way to `setSessionDead`. -/
theorem dead_handlers_spare_session_closing :
    (Sample.teardown 4).looper = some (.stale, .expire) ∧
      ∀ x, (Sample.teardown 4).shared.sessions 0 = some x → x.mStaleTimerHandler.mIsSessionDead = false := by
  have stands : (Sample.teardown 4).looper = some (.stale, .expire) := by decide +kernel
  exact ⟨stands, Teardown.dead_handlers_spare_session Sample.cfg 0 Sample.created (Sample.preempted 4)
    (by decide +kernel) .stale .expire stands rfl⟩

/- The session is closed and destroyed after the test; the handler then calls `mSession->setStale()`. -/
theorem dead_handler_uses_session :
    (Sample.teardown 20).looper = some (.stale, .expire) ∧ Place.expire.usesSession = true ∧
      ((Sample.teardown 20).shared.sessions 0).any
        (fun x => x.mStaleTimerHandler.mIsSessionDead && x.deleted) = true := by
  decide +kernel

end Pdx215.Power
