import Pdx215.Lib.Runs
import Pdx215.Power.Telling

/-! `mActive` and the app sessions. The manager looks at the sessions only when one of them has posted a
message, so a change of activity or staleness that posts none is noticed late or never. -/
namespace Pdx215.Power

open Effect Runs

/-! ### The invariant -/

structure View.AppAt (v : View) (s : Sid) (x : Session) : Prop where
  registered : s ∈ v.registry.mSessions
  found : v.sessions s = some x
  active : x.isActive = true
  app : x.isAppSession = true

/-- The deadline of the stale timer has passed, and its message has not been handled. -/
def View.Passed (v : View) (s : Sid) (x : Session) : Prop := v.Pending (.stale s) ∧ x.mStaleTimerHandler.time ≤ v.clock

/-- Unless the manager has a message, it knows which app sessions are active, up to those whose timer is
about to tell it. -/
def View.Noticed (cfg : AdpfConfig) (v : View) : Prop :=
  v.Pending .manager ∨
    (∀ s x, v.AppAt s x → v.clock < x.getStaleTime cfg → v.mActive = true) ∧
      (v.mActive = true → ∃ s x, v.AppAt s x ∧ (v.clock < x.getStaleTime cfg ∨ v.Passed s x))

/-- The condition on an event: a change that the event brings about without a message to the manager is
already known to it, or a message will come. -/
def Event.Announced (cfg : AdpfConfig) (v : View) : Event → Prop
  | .createHintSession _ _ uid _ durationNanos =>
    aidAppStart ≤ uid → 0 < toInt64 (durationNanos * cfg.mStaleTimeFactor) → v.mActive = true ∨ v.Pending .manager
  | .updateTargetWorkDuration s target => ∀ x, v.AppAt s x → 0 < target →
    let staleTime := x.mLastUpdatedTime + toInt64 (toInt64 (target * cfg.mTargetTimeFactor) * cfg.mStaleTimeFactor)
    (x.getStaleTime cfg ≤ v.clock → v.clock < staleTime → v.mActive = true ∨ v.Pending .manager) ∧
      (v.clock < x.getStaleTime cfg → staleTime ≤ v.clock → v.Pending .manager ∨ v.Passed s x)
  | .tick elapsed => ∀ s x, v.AppAt s x → v.clock < x.getStaleTime cfg → x.getStaleTime cfg ≤ v.clock + elapsed →
    v.Pending .manager ∨ v.Pending (.stale s) ∧ x.mStaleTimerHandler.time ≤ v.clock + elapsed
  | _ => True

/-- What holds of every session between events. -/
def View.Sane (v : View) : Prop := ∀ s x, v.sessions s = some x → x.mLastUpdatedTime ≤ v.clock ∧
  (x.mStaleTimerHandler.mIsSessionDead = true → x.mSessionClosed = true)

section Invariant

variable {cfg : AdpfConfig} {s r : Sid} {v v' : View} {x x' : Session}

theorem View.Aside.appAt (aside : View.Aside s v v') (other : r ≠ s) : v'.AppAt r x ↔ v.AppAt r x := by
  constructor
  · rintro ⟨registered, found, active, app⟩
    exact ⟨(aside.members r other).mp registered, (aside.sessions r other).symm.trans found, active, app⟩
  · rintro ⟨registered, found, active, app⟩
    exact ⟨(aside.members r other).mpr registered, (aside.sessions r other).trans found, active, app⟩

/-- What has to be said about the session that an event is about. -/
theorem View.Noticed.aside (noticed : v.Noticed cfg) (aside : View.Aside s v v')
    (raise : ∀ x', v'.AppAt s x' → v'.clock < x'.getStaleTime cfg → v'.Pending .manager ∨ v.mActive = true ∨
      ∃ x, v.AppAt s x ∧ v.clock < x.getStaleTime cfg)
    (fall : ∀ x, v.AppAt s x → v.clock < x.getStaleTime cfg ∨ v.Passed s x → v'.Pending .manager ∨
      ∃ x', v'.AppAt s x' ∧ (v'.clock < x'.getStaleTime cfg ∨ v'.Passed s x')) : v'.Noticed cfg := by
  by_cases pending : v'.Pending .manager
  · exact .inl pending
  rcases noticed with told | ⟨up, down⟩
  · exact .inl (aside.manager told)
  refine .inr ⟨fun r x stands fresh => ?_, fun active => ?_⟩
  · rw [aside.mActive]
    by_cases here : r = s
    · subst here
      rcases raise x stands fresh with told | active | ⟨x, stands, fresh⟩
      · exact absurd told pending
      · exact active
      · exact up r x stands fresh
    · exact up r x ((aside.appAt here).mp stands) (aside.clock ▸ fresh)
  · obtain ⟨r, x, stands, still⟩ := down (aside.mActive ▸ active)
    by_cases here : r = s
    · subst here
      rcases fall x stands still with told | ⟨x', stands, still⟩
      · exact absurd told pending
      · exact ⟨r, x', stands, still⟩
    · refine ⟨r, x, (aside.appAt here).mpr stands, ?_⟩
      rw [View.Passed, aside.clock, aside.stale r here]
      exact still

/-! ### Each change keeps it -/

theorem View.Same.session (same : View.Same s v v') (found : v'.sessions s = some x') :
    ∃ x, v.sessions s = some x ∧ x'.vital = x.vital ∧ x'.mStaleTimerHandler.time = x.mStaleTimerHandler.time := by
  have face := same.face
  rw [found, Option.map_some, eq_comm, Option.map_eq_some_iff] at face
  obtain ⟨x, found, equal⟩ := face
  exact ⟨x, found, (congrArg Prod.fst equal).symm, (congrArg Prod.snd equal).symm⟩

theorem getStaleTime_vital (same : x'.vital = x.vital) : x'.getStaleTime cfg = x.getStaleTime cfg := by
  simp only [Session.vital, Vital.mk.injEq] at same
  simp [Session.getStaleTime, Session.stalePeriod, same]

theorem View.AppAt.vital (stands : v.AppAt s x) (registered : s ∈ v'.registry.mSessions)
    (found : v'.sessions s = some x')
    (uid : x'.uid = x.uid) (active : x'.isActive = x.isActive) : v'.AppAt s x' := by
  refine ⟨registered, found, active.trans stands.active, ?_⟩
  rw [Session.isAppSession, uid]
  exact stands.app

theorem View.Noticed.same (noticed : v.Noticed cfg) (same : View.Same s v v') : v'.Noticed cfg := by
  apply noticed.aside same.aside
  · intro x' stands fresh
    obtain ⟨x, found, vital, -⟩ := same.session stands.found
    refine .inr (.inr ⟨x, ?_, ?_⟩)
    · exact stands.vital (same.member.mp stands.registered) found (congrArg Vital.uid vital).symm
        (congrArg Vital.isActive vital).symm
    · rw [← same.aside.clock, ← getStaleTime_vital vital]
      exact fresh
  · intro x stands still
    have face := same.face
    rw [stands.found, Option.map_some, Option.map_eq_some_iff] at face
    obtain ⟨x', found, equal⟩ := face
    have vital : x'.vital = x.vital := congrArg Prod.fst equal
    have time : x'.mStaleTimerHandler.time = x.mStaleTimerHandler.time := congrArg Prod.snd equal
    refine .inr ⟨x', ?_, ?_⟩
    · exact stands.vital (same.member.mpr stands.registered) found (congrArg Vital.uid vital)
        (congrArg Vital.isActive vital)
    · rw [View.Passed, same.aside.clock, getStaleTime_vital vital, same.stale, time]
      exact still

theorem View.Noticed.told (noticed : v.Noticed cfg) (found : v.sessions s = some x) (told : View.Told s x v v') :
    v'.Noticed cfg := by
  obtain ⟨x', found', uid, -, -⟩ := told.session
  have app_iff : x'.isAppSession = x.isAppSession := by rw [Session.isAppSession, uid, Session.isAppSession]
  apply noticed.aside told.aside
  · intro y stands _
    cases Option.some.inj (found'.symm.trans stands.found)
    exact .inl (told.manager (app_iff ▸ stands.app))
  · intro y stands _
    cases Option.some.inj (found.symm.trans stands.found)
    exact .inl (told.manager stands.app)

/-- A session whose timer is dead is closed, and so not registered. -/
theorem View.Noticed.spent (noticed : v.Noticed cfg) (sane : v.Sane) (proper : v.roll.ProperAt s)
    (proper' : v'.roll.ProperAt s) (same : v'.sessions s = v.sessions s)
    (dead : ∀ x, v.sessions s = some x → x.mStaleTimerHandler.mIsSessionDead = true) (aside : View.Aside s v v') :
    v'.Noticed cfg := by
  have gone {u : View} (proper : u.roll.ProperAt s) (same : u.sessions s = v.sessions s) (x : Session) :
      ¬ u.AppAt s x := by
    intro stands
    have found := same.symm.trans stands.found
    obtain ⟨c, core, isOpen⟩ := proper.sessions.mp stands.registered
    cases (View.roll_core stands.found).symm.trans core
    have closed : x.mSessionClosed = true := (sane s x found).2 (dead x found)
    exact absurd (closed.symm.trans isOpen) (by decide)
  apply noticed.aside aside
  · exact fun x stands _ => absurd stands (gone proper' same x)
  · exact fun x stands _ => absurd stands (gone proper rfl x)

theorem View.Noticed.reported (noticed : v.Noticed cfg) (sane : v.Sane) (found : v.sessions s = some x)
    (reported : View.Reported cfg s x v v') : v'.Noticed cfg := by
  obtain ⟨x', found', last, uid, active, duration, -, -⟩ := reported.session
  have fresh : v.clock < x.getStaleTime cfg := by simpa [Session.isTimeout] using reported.fresh
  have fresh' : v'.clock < x'.getStaleTime cfg := by
    have updated := (sane s x found).1
    have duration : x'.duration = x.duration := duration
    rw [reported.aside.clock]
    simp only [Session.getStaleTime, Session.stalePeriod, duration, last] at fresh ⊢
    omega
  apply noticed.aside reported.aside
  · intro y stands _
    cases Option.some.inj (found'.symm.trans stands.found)
    exact .inr (.inr ⟨x, stands.vital (reported.member.mp stands.registered) found uid.symm active.symm, fresh⟩)
  · intro y stands _
    cases Option.some.inj (found.symm.trans stands.found)
    exact .inr ⟨x', stands.vital (reported.member.mpr stands.registered) found' uid active, .inl fresh'⟩

theorem View.Noticed.retargeted {target : Int} (noticed : v.Noticed cfg) (found : v.sessions s = some x)
    (positive : 0 < target) (announced : (Event.updateTargetWorkDuration s target).Announced cfg v) :
    (v.modify s fun y => { y with duration := toInt64 (target * cfg.mTargetTimeFactor) }).Noticed cfg := by
  have found' : (v.modify s fun y => { y with duration := toInt64 (target * cfg.mTargetTimeFactor) }).sessions s =
      some { x with duration := toInt64 (target * cfg.mTargetTimeFactor) } := by simp [found]
  apply noticed.aside (View.aside_modify _)
  · intro y stands fresh
    cases Option.some.inj (found'.symm.trans stands.found)
    have stood : v.AppAt s x := ⟨stands.registered, found, stands.active, stands.app⟩
    by_cases timed : x.getStaleTime cfg ≤ v.clock
    · rcases (announced x stood positive).1 timed fresh with active | told
      · exact .inr (.inl active)
      · exact .inl told
    · exact .inr (.inr ⟨x, stood, not_le.mp timed⟩)
  · intro y stands still
    cases Option.some.inj (found.symm.trans stands.found)
    have stands' : (v.modify s fun y => { y with duration := toInt64 (target * cfg.mTargetTimeFactor) }).AppAt s
        { x with duration := toInt64 (target * cfg.mTargetTimeFactor) } :=
      ⟨stands.registered, found', stands.active, stands.app⟩
    rcases still with fresh | passed
    · by_cases timed : x.mLastUpdatedTime + toInt64 (toInt64 (target * cfg.mTargetTimeFactor) * cfg.mStaleTimeFactor) ≤
          v.clock
      · rcases (announced x stands positive).2 fresh timed with told | passed
        · exact .inl told
        · exact .inr ⟨_, stands', .inr passed⟩
      · exact .inr ⟨_, stands', .inl (not_le.mp timed)⟩
    · exact .inr ⟨_, stands', .inr passed⟩

theorem View.Noticed.created {tgid uid durationNanos : Int} {threadIds : List Tid} (noticed : v.Noticed cfg)
    (new : v.sessions s = none) (created : View.Created s uid durationNanos v v')
    (announced : (Event.createHintSession s tgid uid threadIds durationNanos).Announced cfg v) : v'.Noticed cfg := by
  obtain ⟨x', found', vital⟩ := created.session
  simp only [Session.vital, Vital.mk.injEq] at vital
  obtain ⟨uid', -, duration, last, -, -⟩ := vital
  apply noticed.aside created.aside
  · intro y stands fresh
    cases Option.some.inj (found'.symm.trans stands.found)
    have app : aidAppStart ≤ uid := uid' ▸ of_decide_eq_true stands.app
    have positive : 0 < toInt64 (durationNanos * cfg.mStaleTimeFactor) := by
      simp only [created.aside.clock, Session.getStaleTime, Session.stalePeriod, duration, last] at fresh
      omega
    rcases announced app positive with active | told
    · exact .inr (.inl active)
    · exact .inl (created.aside.manager told)
  · intro y stands _
    exact absurd (stands.found.symm.trans new) (by simp)

theorem anyAppSessionActive_iff :
    Shared.anyAppSessionActive cfg v = true ↔ ∃ s x, v.AppAt s x ∧ v.clock < x.getStaleTime cfg := by
  simp only [Shared.anyAppSessionActive, decide_eq_true_eq]
  constructor
  · rintro ⟨s, registered, counted, app⟩
    obtain ⟨x, found, app⟩ := (Option.any_eq_true _ _).mp app
    simp only [View.counts, found, Bool.and_eq_true, Bool.not_eq_true', Session.isTimeout, decide_eq_false_iff_not,
      not_le] at counted
    exact ⟨s, x, ⟨registered, found, counted.1, app⟩, counted.2⟩
  · rintro ⟨s, x, stands, fresh⟩
    refine ⟨s, stands.registered, ?_, ?_⟩
    · simp [View.counts, stands.found, stands.active, Session.isTimeout, fresh]
    · simp [stands.found, stands.app]

/-- The manager has just looked at the sessions. -/
theorem noticed_recomputed (queue : List Message) :
    View.Noticed cfg { v with queue := queue, mActive := Shared.anyAppSessionActive cfg v } := by
  refine .inr ⟨fun s x stands fresh => ?_, fun active => ?_⟩
  · exact anyAppSessionActive_iff.mpr ⟨s, x, ⟨stands.registered, stands.found, stands.active, stands.app⟩, fresh⟩
  · obtain ⟨s, x, stands, fresh⟩ := anyAppSessionActive_iff.mp active
    exact ⟨s, x, ⟨stands.registered, stands.found, stands.active, stands.app⟩, .inl fresh⟩

theorem View.Noticed.tick {elapsed : Nat} (noticed : v.Noticed cfg) (announced : (Event.tick elapsed).Announced cfg v) :
    View.Noticed cfg { v with clock := v.clock + elapsed } := by
  rcases noticed with told | ⟨up, down⟩
  · exact .inl told
  by_cases pending : v.Pending .manager
  · exact .inl pending
  refine .inr ⟨fun s x stands fresh => ?_, fun active => ?_⟩
  · refine up s x ⟨stands.registered, stands.found, stands.active, stands.app⟩ (lt_of_le_of_lt ?_ fresh)
    exact le_add_of_nonneg_right (Int.natCast_nonneg elapsed)
  · obtain ⟨s, x, stands, still⟩ := down active
    have later : v.clock ≤ v.clock + elapsed := le_add_of_nonneg_right (Int.natCast_nonneg elapsed)
    refine ⟨s, x, ⟨stands.registered, stands.found, stands.active, stands.app⟩, ?_⟩
    rcases still with fresh | ⟨here, passed⟩
    · by_cases timed : x.getStaleTime cfg ≤ v.clock + elapsed
      · exact (announced s x stands fresh timed).elim (fun told => absurd told pending) .inr
      · exact .inl (not_le.mp timed)
    · exact .inr ⟨here, passed.trans later⟩

theorem Change.noticed {e : Event} (change : Change cfg e v v') (sane : v.Sane) (proper : ∀ s, v.roll.ProperAt s)
    (proper' : ∀ s, v'.roll.ProperAt s) (announced : e.Announced cfg v) (noticed : v.Noticed cfg) : v'.Noticed cfg := by
  cases change with
  | same s same => exact noticed.same same
  | told s x found told => exact noticed.told found told
  | spent s same dead aside => exact noticed.spent sane (proper s) (proper' s) same dead aside
  | reported s x found reported => exact noticed.reported sane found reported
  | retargeted s x target event found positive stored =>
    subst event stored
    exact noticed.retargeted found positive announced
  | created s tgid uid threadIds durationNanos event new created =>
    subst event
    exact noticed.created new created announced
  | recomputed looked _ => exact looked ▸ noticed_recomputed _
  | tick elapsed event passed =>
    subst event passed
    exact noticed.tick announced

theorem View.Sane.aside (sane : v.Sane) (aside : View.Aside s v v')
    (own : ∀ x', v'.sessions s = some x' → x'.mLastUpdatedTime ≤ v.clock ∧
      (x'.mStaleTimerHandler.mIsSessionDead = true → x'.mSessionClosed = true)) : v'.Sane := by
  intro r x found
  rw [aside.clock]
  by_cases here : r = s
  · subst here
    exact own x found
  · exact sane r x (aside.sessions r here ▸ found)

theorem Change.sane {e : Event} (change : Change cfg e v v') (sane : v.Sane) : v'.Sane := by
  cases change with
  | same s same =>
    apply sane.aside same.aside
    intro x' found'
    obtain ⟨x, found, vital, -⟩ := same.session found'
    simp only [Session.vital, Vital.mk.injEq] at vital
    obtain ⟨-, -, -, last, closed, dead⟩ := vital
    rw [last, closed, dead]
    exact sane s x found
  | told s x found told =>
    apply sane.aside told.aside
    intro y found'
    obtain ⟨x', here, -, last, kept⟩ := told.session
    cases Option.some.inj (here.symm.trans found')
    obtain ⟨updated, closed⟩ := sane s x found
    refine ⟨?_, kept closed⟩
    rcases last with last | last
    · exact last.trans_le updated
    · exact last.le
  | spent s same dead aside =>
    apply sane.aside aside
    intro x found
    exact sane s x (same ▸ found)
  | reported s x found reported =>
    apply sane.aside reported.aside
    intro y found'
    obtain ⟨x', here, last, -, -, -, closed, dead⟩ := reported.session
    cases Option.some.inj (here.symm.trans found')
    exact ⟨last.le, fun gone => closed.trans ((sane s x found).2 (dead.symm.trans gone))⟩
  | retargeted s x target event found positive stored =>
    subst stored
    apply sane.aside (View.aside_modify _)
    intro y found'
    obtain ⟨z, was, rfl⟩ := View.modify_some found'
    exact sane s z was
  | created s tgid uid threadIds durationNanos event new created =>
    apply sane.aside created.aside
    intro y found'
    obtain ⟨x', here, vital⟩ := created.session
    cases Option.some.inj (here.symm.trans found')
    simp only [Session.vital, Vital.mk.injEq] at vital
    obtain ⟨-, -, -, last, -, dead⟩ := vital
    exact ⟨last.le, fun gone => absurd (dead.symm.trans gone) (by decide)⟩
  | recomputed looked _ =>
    rw [looked]
    exact sane
  | tick elapsed event passed =>
    subst passed
    intro s x found
    exact ⟨(sane s x found).1.trans (le_add_of_nonneg_right (Int.natCast_nonneg elapsed)), (sane s x found).2⟩

end Invariant

/-! ### Runs -/

section Runs

variable {cfg : AdpfConfig}

/-- A call in which no time passes, of the kind considered here. -/
def Calm (e : Event × (Nat → Outcome)) : Prop := e.1.Ordinary = true ∧ ∀ n, (e.2 n).elapsed = 0

theorem run_sane (events : List (Event × (Nat → Outcome))) (calm : ∀ e ∈ events, Calm e) {sh : Shared}
    (sane : sh.Sane) :
    (run cfg sh events).Sane := by
  induction events generalizing sh with
  | nil => exact sane
  | cons e events ih =>
    obtain ⟨ordinary, still⟩ := calm e List.mem_cons_self
    apply ih (fun e' here => calm e' (List.mem_cons_of_mem e here))
    exact (eventStep_change e.1 e.2 still ordinary).sane sane

theorem run_noticed (events : List (Event × (Nat → Outcome))) (calm : ∀ e ∈ events, Calm e) {sh : Shared}
    (sane : sh.Sane) (proper : ∀ s, sh.roll.ProperAt s) (noticed : sh.Noticed cfg)
    (announced : Along (eventStep cfg) (fun sh e => e.1.Announced cfg sh.toView) sh events) :
    (run cfg sh events).Noticed cfg := by
  induction events generalizing sh with
  | nil => exact noticed
  | cons e events ih =>
    obtain ⟨ordinary, still⟩ := calm e List.mem_cons_self
    have change : Change cfg e.1 sh.toView (eventStep cfg sh e).toView := eventStep_change e.1 e.2 still ordinary
    have proper' (s : Sid) : (eventStep cfg sh e).roll.ProperAt s := properAt_eventStep cfg (proper s) e
    apply ih (fun e' here => calm e' (List.mem_cons_of_mem e here)) (change.sane sane) proper' _ announced.2
    exact change.noticed sane proper proper' announced.1 noticed

/-- The manager has handled a message, or nothing has happened yet. -/
def Settled (cfg : AdpfConfig) (events : List (Event × (Nat → Outcome))) : Prop :=
  events = [] ∨ ∃ earlier due io, events = earlier ++ [(.deliver ⟨.manager, due⟩, io)] ∧
    (Event.deliver ⟨.manager, due⟩).enabled (run cfg .start earlier).toView = true

theorem Settled.noticed {events : List (Event × (Nat → Outcome))} (settled : Settled cfg events)
    (calm : ∀ e ∈ events, Calm e) : (run cfg .start events).Noticed cfg := by
  rcases settled with rfl | ⟨earlier, due, io, rfl, enabled⟩
  · refine .inr ⟨fun s x stands _ => ?_, nofun⟩
    exact absurd stands.found nofun
  · have still : (io 0).elapsed = 0 := (calm _ (List.mem_append_right _ List.mem_cons_self)).2 0
    rw [run_append]
    have handled : (eventStep cfg (run cfg .start earlier) (.deliver ⟨.manager, due⟩, io)).toView =
        { (run cfg .start earlier).toView with
          queue := (run cfg .start earlier).queue.erase ⟨.manager, due⟩
          mActive := Shared.anyAppSessionActive cfg (run cfg .start earlier).toView } := by
      rw [eventStep, if_pos enabled]
      change (perform cfg .isAnyAppSessionActive (io 0) _).2.toView = _
      rw [perform, still, Shared.wait_zero]
      rfl
    change (eventStep cfg (run cfg .start earlier) (.deliver ⟨.manager, due⟩, io)).Noticed cfg
    rw [handled]
    exact noticed_recomputed _

/-- From every moment at which the manager has looked at the sessions, as long as no change goes
unannounced: when the looper is idle, `mActive` says whether an app session is active and not timed out. -/
theorem mActive_reflects_sessions (cfg : AdpfConfig) (before after : List (Event × (Nat → Outcome)))
    (calm : ∀ e ∈ before ++ after, Calm e) (settled : Settled cfg before)
    (announced : Along (eventStep cfg) (fun sh e => e.1.Announced cfg sh.toView) (run cfg .start before) after) :
    let v := (run cfg .start (before ++ after)).toView
    ¬ v.Pending .manager → (∀ s x, v.sessions s = some x → x.mSessionClosed = false → ¬ v.Passed s x) →
      (v.mActive = true ↔ ∃ s x, s ∈ v.registry.mSessions ∧ v.sessions s = some x ∧ aidAppStart ≤ x.uid ∧
        x.isActive = true ∧ x.isTimeout cfg v.clock = false) := by
  intro v quiet handled
  have calm_before : ∀ e ∈ before, Calm e := fun e here => calm e (List.mem_append_left _ here)
  have calm_after : ∀ e ∈ after, Calm e := fun e here => calm e (List.mem_append_right _ here)
  have sane : (run cfg .start before).Sane := run_sane before calm_before fun s x found => nomatch found
  have noticed : v.Noticed cfg := by
    simp only [v, run_append]
    exact run_noticed after calm_after sane (fun s => properAt_run cfg before s) (settled.noticed calm_before) announced
  have proper (s : Sid) : v.roll.ProperAt s := properAt_run cfg (before ++ after) s
  rcases noticed with told | ⟨up, down⟩
  · exact absurd told quiet
  constructor
  · intro active
    obtain ⟨s, x, stands, still⟩ := down active
    obtain ⟨c, core, isOpen⟩ := (proper s).sessions.mp stands.registered
    cases (View.roll_core stands.found).symm.trans core
    have fresh : v.clock < x.getStaleTime cfg := still.resolve_right (handled s x stands.found isOpen)
    exact ⟨s, x, stands.registered, stands.found, of_decide_eq_true stands.app, stands.active,
      by simpa [Session.isTimeout] using fresh⟩
  · rintro ⟨s, x, registered, found, app, active, fresh⟩
    exact up s x ⟨registered, found, active, decide_eq_true app⟩ (by simpa [Session.isTimeout] using fresh)

end Runs

namespace Sample

def known : List Event :=
  [.createHintSession 0 1 10001 [7] 10, .pause 0, .resume 0, .deliver ⟨.manager, 0⟩]

def Ahead (v : View) (m : Message) : Bool :=
  match m.handler with
  | .stale s => (v.sessions s).all fun x => decide (v.clock < x.mStaleTimerHandler.time)
  | _ => true

theorem not_pending {v : View} {h : Handler} (others : v.queue.all (fun m => decide (m.handler ≠ h)) = true) :
    ¬ v.Pending h := by
  rintro ⟨m, here, for_h⟩
  exact of_decide_eq_true (List.all_eq_true.mp others m here) for_h

theorem not_passed {v : View} (ahead : v.queue.all (Ahead v) = true) (s : Sid) (x : Session)
    (found : v.sessions s = some x) : ¬ v.Passed s x := by
  rintro ⟨⟨m, here, stale⟩, passed⟩
  have later : Ahead v m = true := List.all_eq_true.mp ahead m here
  simp only [Ahead, stale, found, Option.all_some, decide_eq_true_eq] at later
  exact absurd passed (not_le.mpr later)

end Sample

/- A second app session is created while `mActive` is set. -/
theorem mActive_reflects_sessions_known :
    let v := (run Sample.cfg .start (Sample.calmly Sample.known ++ Sample.calmly [.deliver ⟨.manager, 0⟩,
      .deliver ⟨.manager, 0⟩, .createHintSession 1 1 10002 [8] 10, .reportActualWorkDuration 0 [⟨0, 5⟩]])).toView
    v.mActive = true ∧ (v.mActive = true ↔ ∃ s x, s ∈ v.registry.mSessions ∧ v.sessions s = some x ∧
      aidAppStart ≤ x.uid ∧ x.isActive = true ∧ x.isTimeout Sample.cfg v.clock = false) := by
  refine ⟨by decide +kernel, mActive_reflects_sessions Sample.cfg (Sample.calmly Sample.known) _ ?_ ?_ ?_ ?_ ?_⟩
  · intro e here
    rw [Sample.calmly, Sample.calmly, ← List.map_append] at here
    obtain ⟨e', listed, rfl⟩ := List.mem_map.mp here
    have ordinary : ∀ e ∈ Sample.known ++ [.deliver ⟨.manager, 0⟩, .deliver ⟨.manager, 0⟩,
        .createHintSession 1 1 10002 [8] 10, .reportActualWorkDuration 0 [⟨0, 5⟩]], e.Ordinary = true := by
      simp [Sample.known, Event.Ordinary]
    exact ⟨ordinary e' listed, fun _ => rfl⟩
  · exact .inr ⟨Sample.calmly [.createHintSession 0 1 10001 [7] 10, .pause 0, .resume 0], 0, Sample.calm, rfl,
      by decide +kernel⟩
  · exact ⟨trivial, trivial, fun _ _ => .inl (by decide +kernel), trivial, trivial⟩
  · exact Sample.not_pending (by decide +kernel)
  · exact fun s x found _ => Sample.not_passed (by decide +kernel) s x found

/- The first app session: it is active and not timed out, nothing is pending but its stale timer, whose
deadline is to come, and `mActive` is not set. -/
theorem mActive_misses_new_session :
    let v := (run Sample.cfg .start (Sample.calmly [.createHintSession 0 1 10001 [7] 10])).toView
    ¬ v.Pending .manager ∧ (∀ s x, v.sessions s = some x → x.mSessionClosed = false → ¬ v.Passed s x) ∧
      v.mActive = false ∧ ∃ s x, s ∈ v.registry.mSessions ∧ v.sessions s = some x ∧ aidAppStart ≤ x.uid ∧
        x.isActive = true ∧ x.isTimeout Sample.cfg v.clock = false := by
  intro v
  refine ⟨Sample.not_pending (by decide +kernel),
    fun s x found _ => Sample.not_passed (by decide +kernel) s x found, by decide +kernel, ?_⟩
  have active : Shared.anyAppSessionActive Sample.cfg v = true := by decide +kernel
  obtain ⟨s, x, stands, fresh⟩ := anyAppSessionActive_iff.mp active
  exact ⟨s, x, stands.registered, stands.found, of_decide_eq_true stands.app, stands.active,
    by simpa [Session.isTimeout] using fresh⟩

end Pdx215.Power
