import Pdx215.Power.Stale

/-! What each call does to the activity and the staleness of its session, and when it posts a message to
the manager. Time passes between the calls here, not within them. -/
namespace Pdx215.Power

open Effect

/-! ### Messages that are pending -/

namespace View

variable {v : View} {h h' : Handler}

theorem pending_sendMessageDelayed (delay : Int) :
    (v.sendMessageDelayed h delay).Pending h' ↔ v.Pending h' ∨ h = h' := by
  simp [Pending, sendMessageDelayed, or_and_right, exists_or]

theorem pending_removeMessages : (v.removeMessages h).Pending h' ↔ v.Pending h' ∧ h' ≠ h := by
  simp only [Pending, removeMessages, List.mem_filter, decide_eq_true_eq]
  constructor
  · rintro ⟨m, ⟨here, other⟩, rfl⟩
    exact ⟨⟨m, here, rfl⟩, other⟩
  · rintro ⟨⟨m, here, rfl⟩, other⟩
    exact ⟨m, ⟨here, other⟩, rfl⟩

theorem pending_repost (delay : Int) : (v.repost h delay).Pending h' ↔ v.Pending h' ∨ h = h' := by
  rw [repost, pending_sendMessageDelayed, pending_removeMessages]
  by_cases same : h = h'
  · simp [same]
  · simp [same, Ne.symm same]

/-- Another message than the one that is taken stays. -/
theorem pending_taken {m : Message} (other : m.handler ≠ h) :
    (Event.begin v (.deliver m)).Pending h ↔ v.Pending h := by
  constructor
  · rintro ⟨m', here, rfl⟩
    exact ⟨m', List.mem_of_mem_erase here, rfl⟩
  · rintro ⟨m', here, rfl⟩
    refine ⟨m', (List.mem_erase_of_ne ?_).mpr here, rfl⟩
    rintro rfl
    exact other rfl

end View

/-! ### What a call changes -/

/-- Nothing but one session changes, and no message of the manager is lost. -/
structure View.Aside (s : Sid) (v v' : View) : Prop where
  clock : v'.clock = v.clock
  mActive : v'.mActive = v.mActive
  sessions : ∀ r, r ≠ s → v'.sessions r = v.sessions r
  members : ∀ r, r ≠ s → (r ∈ v'.registry.mSessions ↔ r ∈ v.registry.mSessions)
  stale : ∀ r, r ≠ s → (v'.Pending (.stale r) ↔ v.Pending (.stale r))
  manager : v.Pending .manager → v'.Pending .manager

/-- The part of a session that decides whether it is timed out, and whether its timer works. -/
structure Vital where
  uid : Int
  isActive : Bool
  duration : Int
  mLastUpdatedTime : Int
  mSessionClosed : Bool
  mIsSessionDead : Bool

def Session.vital (x : Session) : Vital where
  uid := x.uid
  isActive := x.isActive
  duration := x.duration
  mLastUpdatedTime := x.mLastUpdatedTime
  mSessionClosed := x.mSessionClosed
  mIsSessionDead := x.mStaleTimerHandler.mIsSessionDead

def View.Holds (q : Session → Prop) (s : Sid) (v : View) : Prop := ∃ x, v.sessions s = some x ∧ q x

def Act.Retains (q : Session → Prop) (s : Sid) : Act → Prop
  | .construct r _ _ _ _ => r ≠ s
  | .store r x => r = s → ∀ y, q y → q (x.apply y)
  | .compareExchangeClosed r => r = s → ∀ y, q y → q { y with mSessionClosed := true }
  | .staleDead r => r = s → ∀ y, q y → q { y with mStaleTimerHandler.mIsSessionDead := true }
  | .earlyBoostDead r => r = s → ∀ y, q y → q { y with mEarlyBoostHandler.mIsSessionDead := true }
  | .earlyBoost r => r = s → ∀ y, q y → q { y with mEarlyBoostHandler.mIsMonitoring := false }
  | .wakeSessions => False
  | _ => True

section Steps

variable {cfg : AdpfConfig} {s r : Sid} {v v' v'' : View} {sh : Shared} {q : Session → Prop}

namespace View

theorem Aside.refl (v : View) : Aside s v v :=
  ⟨rfl, rfl, fun _ _ => rfl, fun _ _ => Iff.rfl, fun _ _ => Iff.rfl, id⟩

theorem Aside.trans (first : Aside s v v') (second : Aside s v' v'') : Aside s v v'' where
  clock := second.clock.trans first.clock
  mActive := second.mActive.trans first.mActive
  sessions r other := (second.sessions r other).trans (first.sessions r other)
  members r other := (second.members r other).trans (first.members r other)
  stale r other := (second.stale r other).trans (first.stale r other)
  manager h := second.manager (first.manager h)

theorem aside_modify (g : Session → Session) : Aside s v (v.modify s g) :=
  ⟨rfl, rfl, fun _ other => modify_ne other g, fun _ _ => Iff.rfl, fun _ _ => Iff.rfl, id⟩

theorem aside_repost {h : Handler} (own : h = .stale s ∨ h = .earlyBoost s) (delay : Int) :
    Aside s v (v.repost h delay) := by
  have foreign (r : Sid) (other : r ≠ s) : h ≠ .stale r := by
    rcases own with rfl | rfl
    · exact fun same => other (Handler.stale.inj same).symm
    · exact nofun
  refine ⟨rfl, rfl, fun _ _ => rfl, fun _ _ => Iff.rfl, fun r other => ?_, fun pending => ?_⟩
  · rw [pending_repost, or_iff_left (foreign r other)]
  · exact (pending_repost delay).mpr (.inl pending)

theorem aside_removeMessages {h : Handler} (own : h = .stale s ∨ h = .earlyBoost s) :
    Aside s v (v.removeMessages h) := by
  refine ⟨rfl, rfl, fun _ _ => rfl, fun _ _ => Iff.rfl, fun r other => ?_, fun pending => ?_⟩
  · rw [pending_removeMessages, and_iff_left]
    rcases own with rfl | rfl
    · exact fun same => other (Handler.stale.inj same)
    · exact nofun
  · refine pending_removeMessages.mpr ⟨pending, ?_⟩
    rcases own with rfl | rfl <;> exact nofun

theorem aside_earlyBoost : Aside s sh.toView (sh.earlyBoost cfg s).toView := by
  unfold Shared.earlyBoost
  split
  · exact .refl _
  · split
    · exact .refl _
    · split
      · exact aside_repost (.inr rfl) _
      · rw [Shared.store, Shared.lift_toView, Shared.setUclampMinLocked_toView]
        exact aside_modify _

end View

theorem perform_aside {a : Act} (on : a.On s) {o : Outcome} (still : o.elapsed = 0) (sh : Shared) :
    View.Aside s sh.toView (perform cfg a o sh).2.toView := by
  rw [perform, still, Shared.wait_zero]
  cases a
  case construct =>
    cases on
    exact ⟨rfl, rfl, fun r other => Function.update_of_ne other _ _, fun _ _ => Iff.rfl, fun _ _ => Iff.rfl, id⟩
  case store =>
    cases on
    exact View.aside_modify _
  case compareExchangeClosed =>
    cases on
    exact View.aside_modify _
  case sendMessage h =>
    cases on
    refine ⟨rfl, rfl, fun _ _ => rfl, fun _ _ => Iff.rfl, fun r _ => ?_, fun pending => ?_⟩
    · exact (View.pending_sendMessageDelayed 0).trans (or_iff_left nofun)
    · exact (View.pending_sendMessageDelayed 0).mpr (.inl pending)
  case repost h delay => exact View.aside_repost on delay
  case staleDead =>
    cases on
    exact (View.aside_modify _).trans (View.aside_removeMessages (.inl rfl))
  case earlyBoostDead =>
    cases on
    exact (View.aside_modify _).trans (View.aside_removeMessages (.inr rfl))
  case earlyBoost =>
    cases on
    exact View.aside_earlyBoost
  case addPowerSession =>
    cases on
    refine ⟨rfl, rfl, fun _ _ => rfl, fun r other => ?_, fun _ _ => Iff.rfl, id⟩
    simp [performNow, View.addPowerSession, other]
  case removePowerSession =>
    cases on
    refine ⟨rfl, rfl, fun _ _ => rfl, fun r other => ?_, fun _ _ => Iff.rfl, id⟩
    simp [performNow, View.removePowerSession, other]
  case setUclampMin r val =>
    have same := Shared.setUclampMinLocked_toView cfg r val sh
    exact same.symm ▸ .refl _
  case now | look => exact .refl _
  case wakeSessions | isAnyAppSessionActive => exact on.elim

theorem View.holds_modify {g : Session → Session} (keeps : r = s → ∀ y, q y → q (g y)) (holds : v.Holds q s) :
    (v.modify r g).Holds q s := by
  obtain ⟨x, found, holds⟩ := holds
  by_cases here : s = r
  · subst here
    exact ⟨g x, by simp [found], keeps rfl x holds⟩
  · exact ⟨x, by simpa [here] using found, holds⟩

theorem holds_earlyBoost (keeps : r = s → ∀ y, q y → q { y with mEarlyBoostHandler.mIsMonitoring := false })
    (holds : sh.Holds q s) : (sh.earlyBoost cfg r).Holds q s := by
  unfold Shared.earlyBoost
  split
  · exact holds
  · split
    · exact holds
    · split
      · exact holds
      · rw [Shared.store, Shared.lift_toView, Shared.setUclampMinLocked_toView]
        exact View.holds_modify keeps holds

theorem perform_retains {a : Act} (retains : a.Retains q s) (o : Outcome) (holds : sh.Holds q s) :
    (perform cfg a o sh).2.Holds q s := by
  have holds : (sh.wait o.elapsed).Holds q s := holds
  cases a
  case construct =>
    obtain ⟨x, found, holds⟩ := holds
    exact ⟨x, (Function.update_of_ne (Ne.symm retains) _ _).trans found, holds⟩
  case store => exact View.holds_modify retains holds
  case compareExchangeClosed => exact View.holds_modify retains holds
  case staleDead =>
    have modified := View.holds_modify retains holds
    exact modified
  case earlyBoostDead =>
    have modified := View.holds_modify retains holds
    exact modified
  case earlyBoost => exact holds_earlyBoost retains holds
  case setUclampMin r val =>
    have same := Shared.setUclampMinLocked_toView cfg r val (sh.wait o.elapsed)
    exact same.symm ▸ holds
  case wakeSessions => exact retains.elim
  all_goals exact holds

end Steps

/-! ### The calls -/

/-- No time passes within a call. -/
def Still (_ : Nat) (o : Outcome) : Prop := o.elapsed = 0

abbrev wpStill (cfg : AdpfConfig) {α : Type} (p : Call α) (post : α → Nat → Shared → Prop) (n : Nat) (sh : Shared) :
    Prop :=
  wp (perform cfg) Still (fun _ => True) p post n sh

structure View.Same (s : Sid) (v v' : View) : Prop where
  aside : View.Aside s v v'
  face : (v'.sessions s).map (fun x => (x.vital, x.mStaleTimerHandler.time)) =
    (v.sessions s).map (fun x => (x.vital, x.mStaleTimerHandler.time))
  member : s ∈ v'.registry.mSessions ↔ s ∈ v.registry.mSessions
  stale : v'.Pending (.stale s) ↔ v.Pending (.stale s)

/-- The session may have changed in any way, and if it is an app's it has told the manager. -/
structure View.Told (s : Sid) (x : Session) (v v' : View) : Prop where
  aside : View.Aside s v v'
  session : ∃ x', v'.sessions s = some x' ∧ x'.uid = x.uid ∧
    (x'.mLastUpdatedTime = x.mLastUpdatedTime ∨ x'.mLastUpdatedTime = v.clock) ∧
    ((x.mStaleTimerHandler.mIsSessionDead = true → x.mSessionClosed = true) →
      x'.mStaleTimerHandler.mIsSessionDead = true → x'.mSessionClosed = true)
  manager : x.isAppSession = true → v'.Pending .manager

/-- The stores that change nothing of `vital`. -/
def Store.Minor : Store → Prop
  | .isActive _ | .closed | .duration _ | .lastUpdatedTime _ => False
  | _ => True

section Calls

variable {cfg : AdpfConfig} {s : Sid} {n : Nat} {sh : Shared} {v : View} {x : Session} {q : Session → Prop}

theorem View.Same.refl (v : View) : View.Same s v v := ⟨.refl v, rfl, Iff.rfl, Iff.rfl⟩

theorem wp_look_still {α : Type} {absent : α} {k : Session → Call α} {post : α → Nat → Shared → Prop}
    (found : sh.sessions s = some x) (rest : wpStill cfg (k x) post (n + 1) sh) :
    wpStill cfg (load absent s k) post n sh := by
  refine ⟨trivial, fun o still => ?_⟩
  change wpStill cfg (ifPresent absent k (sh.sessions s)) post (n + 1) (sh.wait o.elapsed)
  have same : sh.wait o.elapsed = sh := by rw [show o.elapsed = 0 from still, Shared.wait_zero]
  rw [found, same]
  exact rest

theorem wp_look_absent {α : Type} {absent : α} {k : Session → Call α} {post : α → Nat → Shared → Prop}
    (missing : sh.sessions s = none) (done : post absent (n + 1) sh) : wpStill cfg (load absent s k) post n sh := by
  refine ⟨trivial, fun o still => ?_⟩
  change wpStill cfg (ifPresent absent k (sh.sessions s)) post (n + 1) (sh.wait o.elapsed)
  have same : sh.wait o.elapsed = sh := by rw [show o.elapsed = 0 from still, Shared.wait_zero]
  rw [missing, same]
  exact ⟨trivial, done⟩

theorem wp_readClock_still {α : Type} {k : Int → Call α} {post : α → Nat → Shared → Prop}
    (rest : wpStill cfg (k sh.clock) post (n + 1) sh) : wpStill cfg (readClock k) post n sh := by
  refine ⟨trivial, fun o still => ?_⟩
  have same : sh.wait o.elapsed = sh := by rw [show o.elapsed = 0 from still, Shared.wait_zero]
  change wpStill cfg (k (sh.wait o.elapsed).clock) post (n + 1) (sh.wait o.elapsed)
  rw [same]
  exact rest

theorem wp_act_still {a : Act} {p : Shared → Prop} (done : ∀ o, p (performNow cfg o sh a).2) :
    wpStill cfg (act a) (fun _ _ v => p v) n sh := by
  refine ⟨trivial, fun o still => ⟨trivial, ?_⟩⟩
  have stepped : (perform cfg a o sh).2 = (performNow cfg o sh a).2 := by
    rw [perform, show o.elapsed = 0 from still, Shared.wait_zero]
  exact stepped ▸ done o

theorem wp_aside {α : Type} {p : Call α} (on : p.All (Act.On s)) (now : View.Aside s v sh.toView) :
    wpStill cfg p (fun _ _ v' => View.Aside s v v'.toView) n sh :=
  wp_all on (fun _ _ => trivial) (fun _ on _ _ w still now => now.trans (perform_aside on still w)) now

theorem wp_retains {α : Type} {fits : Nat → Outcome → Prop} {p : Call α} (retains : p.All (Act.Retains q s))
    (now : sh.Holds q s) : wp (perform cfg) fits (fun _ => True) p (fun _ _ v => v.Holds q s) n sh :=
  wp_all retains (fun _ _ => trivial) (fun _ retains _ o _ _ now => perform_retains retains o now) now

theorem wp_updateUniveralBoostMode (holds : sh.Holds (fun y => y.uid = x.uid) s) :
    wpStill cfg (updateUniveralBoostMode s) (fun _ _ v => x.isAppSession = true → v.Pending .manager) n sh := by
  obtain ⟨y, found, uid⟩ := holds
  apply wp_look_still found
  have same : y.isAppSession = x.isAppSession := by rw [Session.isAppSession, Session.isAppSession, uid]
  cases app : x.isAppSession with
  | false =>
    rw [perhaps, same, app]
    exact ⟨trivial, fun off => absurd off Bool.false_ne_true⟩
  | true =>
    rw [perhaps, same, app]
    refine wp_act_still (p := fun v => true = true → v.Pending .manager) fun o _ => ?_
    exact (View.pending_sendMessageDelayed 0).mpr (.inr rfl)

theorem Store.minor_vital {st : Store} (minor : st.Minor) (y : Session) : (st.apply y).vital = y.vital := by
  cases st
  case workPeriod actual =>
    simp only [Store.apply, Session.updateWorkPeriod]
    split <;> rfl
  case isActive | closed | duration | lastUpdatedTime => exact minor.elim
  all_goals rfl

/- A property that `vital` determines. -/
variable {k : Vital → Prop}

theorem retains_store {st : Store} (minor : st.Minor) : (Act.store s st).Retains (fun y => k y.vital) s := by
  intro _ y holds
  rw [Store.minor_vital minor y]
  exact holds

theorem retains_updateUniveralBoostMode : (updateUniveralBoostMode s).All (Act.Retains q s) :=
  all_load trivial fun _ => all_perhaps (all_act trivial)

theorem retains_updateStaleTimerTo (t : Int) : (updateStaleTimerTo s t).All (Act.Retains (fun y => k y.vital) s) :=
  ⟨retains_store trivial, fun _ => ⟨trivial, fun _ => all_act (retains_store trivial)⟩⟩

theorem retains_setSessionUclampMin (min' : Int) :
    (setSessionUclampMin cfg s min').All (Act.Retains (fun y => k y.vital) s) := by
  have timed : (updateStaleTimer cfg s).All (Act.Retains (fun y => k y.vital) s) :=
    ⟨trivial, fun _ => all_load trivial fun _ => retains_updateStaleTimerTo _⟩
  exact ⟨retains_store trivial, fun _ => (all_perhaps timed).bind fun _ => all_act trivial⟩

theorem retains_setStale : (setStale s).All (Act.Retains q s) := ⟨trivial, fun _ => retains_updateUniveralBoostMode⟩

theorem retains_reportByPid (actual : List WorkDuration) :
    (reportByPid cfg s actual).All (Act.Retains (fun y => k y.vital) s) := by
  have boosted (t : Int) : (updateEarlyBoostTimer s t).All (Act.Retains (fun y => k y.vital) s) :=
    ⟨retains_store trivial, fun _ => ⟨trivial, fun _ => all_act (retains_store trivial)⟩⟩
  have early : (updateEarlyBoost cfg s actual).All (Act.Retains (fun y => k y.vital) s) :=
    ⟨retains_store trivial, fun _ => all_load trivial fun _ => boosted _⟩
  refine all_load trivial fun x => ⟨retains_store trivial, fun _ => ?_⟩
  refine (all_load trivial fun _ => retains_setSessionUclampMin _).bind fun _ => ?_
  refine (all_load trivial fun _ => retains_updateStaleTimerTo _).bind fun _ => ?_
  exact all_perhaps early

/-- What pausing, resuming and expiry leave alone. -/
def Vital.Steady (old : Vital) (k : Vital) : Prop :=
  k.uid = old.uid ∧ k.mLastUpdatedTime = old.mLastUpdatedTime ∧ k.mSessionClosed = old.mSessionClosed ∧
    k.mIsSessionDead = old.mIsSessionDead

theorem wp_told {α : Type} {p : Call α} (found : sh.sessions s = some x) (on : p.All (Act.On s))
    (retains : p.All (Act.Retains (fun y => x.vital.Steady y.vital) s))
    (tells : wpStill cfg p (fun _ _ v => View.Same s sh.toView v.toView ∨
      (x.isAppSession = true → v.Pending .manager)) n sh) :
    wpStill cfg p (fun _ _ v => View.Same s sh.toView v.toView ∨ View.Told s x sh.toView v.toView) n sh := by
  have kept : wpStill cfg p (fun _ _ v => v.Holds (fun y => x.vital.Steady y.vital) s) n sh :=
    wp_retains retains ⟨x, found, rfl, rfl, rfl, rfl⟩
  refine wp_mono (wp_and (wp_and (wp_aside on (.refl sh.toView)) kept) tells) ?_
  rintro _ m v _ ⟨⟨aside, x', found', uid, updated, closed, dead⟩, same | manager⟩
  · exact .inl same
  · right
    refine ⟨aside, ⟨x', found', uid, .inl updated, fun sane gone => ?_⟩, manager⟩
    exact closed.trans (sane (dead.symm.trans gone))

theorem retains_pause : (pause s).All (Act.Retains (fun y => x.vital.Steady y.vital) s) := by
  refine all_load trivial fun _ => ?_
  split
  · trivial
  · refine all_load trivial fun _ => ?_
    split
    · trivial
    · refine ⟨fun _ _ holds => holds, fun _ => retains_setStale.bind fun _ => ?_⟩
      exact retains_updateUniveralBoostMode.bind fun _ => trivial

theorem wp_pause_told (found : sh.sessions s = some x) :
    wpStill cfg (pause s) (fun _ _ v => View.Same s sh.toView v.toView ∨ View.Told s x sh.toView v.toView) n sh := by
  have on : ((Event.pause s).program cfg).All (Act.On s) := program_on rfl
  refine wp_told found on retains_pause ?_
  refine wp_look_still found (wp_ite (fun _ => ⟨trivial, .inl (.refl _)⟩) fun _ => ?_)
  refine wp_look_still found (wp_ite (fun _ => ⟨trivial, .inl (.refl _)⟩) fun _ => ?_)
  have now : sh.Holds (fun y => y.uid = x.uid) s := ⟨x, found, rfl⟩
  refine wp_seq (wp_retains (all_act fun _ _ holds => holds) now) fun _ m v _ holds => ?_
  refine wp_seq (wp_retains retains_setStale holds) fun _ m v _ holds => ?_
  exact wp_seq (wp_updateUniveralBoostMode holds) fun _ m v _ told => ⟨trivial, .inr told⟩

theorem retains_resume : (resume cfg s).All (Act.Retains (fun y => x.vital.Steady y.vital) s) := by
  refine all_load trivial fun _ => ?_
  split
  · trivial
  · refine all_load trivial fun _ => ?_
    split
    · trivial
    · refine ⟨fun _ _ holds => holds, fun _ => ?_⟩
      refine (all_load trivial fun _ => retains_setSessionUclampMin _).bind fun _ => ?_
      exact retains_updateUniveralBoostMode.bind fun _ => trivial

theorem wp_resume_told (found : sh.sessions s = some x) :
    wpStill cfg (resume cfg s)
      (fun _ _ v => View.Same s sh.toView v.toView ∨ View.Told s x sh.toView v.toView) n sh := by
  have on : ((Event.resume s).program cfg).All (Act.On s) := program_on rfl
  refine wp_told found on retains_resume ?_
  refine wp_look_still found (wp_ite (fun _ => ⟨trivial, .inl (.refl _)⟩) fun _ => ?_)
  refine wp_look_still found (wp_ite (fun _ => ⟨trivial, .inl (.refl _)⟩) fun _ => ?_)
  have now : sh.Holds (fun y => y.vital.uid = x.uid) s := ⟨x, found, rfl⟩
  refine wp_seq (wp_retains (all_act fun _ _ holds => holds) now) fun _ m v _ holds => ?_
  have set : (load () s fun x => setSessionUclampMin cfg s x.currentMin).All
      (Act.Retains (fun y => y.vital.uid = x.uid) s) :=
    all_load trivial fun _ => retains_setSessionUclampMin (k := fun k => k.uid = x.uid) _
  refine wp_seq (wp_retains set holds) fun _ m v _ holds => ?_
  exact wp_seq (wp_updateUniveralBoostMode holds) fun _ m v _ told => ⟨trivial, .inr told⟩

theorem retains_handleStale : (handleStale s).All (Act.Retains (fun y => x.vital.Steady y.vital) s) := by
  refine all_load trivial fun _ => ?_
  split
  · trivial
  · refine ⟨trivial, fun (now : Int) => all_load trivial fun _ => ?_⟩
    split
    · exact all_act trivial
    · exact retains_setStale.bind fun _ => all_act fun _ _ holds => holds

theorem aside_taken {m : Message} (own : m.handler = .stale s ∨ m.handler = .earlyBoost s) :
    View.Aside s v ((Event.deliver m).begin v) := by
  refine ⟨rfl, rfl, fun _ _ => rfl, fun _ _ => Iff.rfl, fun r other => View.pending_taken ?_, fun pending => ?_⟩
  · rcases own with own | own <;> rw [own]
    · exact fun same => other (Handler.stale.inj same).symm
    · exact nofun
  · refine (View.pending_taken ?_).mpr pending
    rcases own with own | own <;> rw [own] <;> exact nofun

/-- The stale timer, as seen from before its message is taken. -/
theorem wp_handleStale_told {due : Int} (found : sh.sessions s = some x)
    (here : (⟨.stale s, due⟩ : Message) ∈ sh.queue) :
    wpStill cfg (handleStale s) (fun _ _ v => (View.Same s sh.toView v.toView ∨ View.Told s x sh.toView v.toView) ∨
      x.mStaleTimerHandler.mIsSessionDead = true ∧ View.Aside s sh.toView v.toView ∧ v.sessions s = some x) n
      (sh.lift fun v => (Event.deliver ⟨.stale s, due⟩).begin v) := by
  obtain ⟨taken, ht⟩ : ∃ u, u = sh.lift fun v => (Event.deliver ⟨.stale s, due⟩).begin v := ⟨_, rfl⟩
  rw [← ht]
  have began : View.Aside s sh.toView taken.toView := ht ▸ aside_taken (.inl rfl)
  have found' : taken.sessions s = some x := ht ▸ found
  have member : s ∈ taken.registry.mSessions ↔ s ∈ sh.registry.mSessions := ht ▸ Iff.rfl
  have aside : wpStill cfg (handleStale s) (fun _ _ v => View.Aside s sh.toView v.toView) n taken :=
    wp_aside (own_handleStale.mono fun _ own => own.on) began
  have kept : wpStill cfg (handleStale s) (fun _ _ v => v.Holds (fun y => x.vital.Steady y.vital) s) n taken :=
    wp_retains retains_handleStale ⟨x, found', rfl, rfl, rfl, rfl⟩
  suffices handled : wpStill cfg (handleStale s) (fun _ _ v => (v.toView = taken.repost (.stale s)
      (x.mStaleTimerHandler.time - taken.clock) ∨ (x.isAppSession = true → v.Pending .manager)) ∨
      x.mStaleTimerHandler.mIsSessionDead = true ∧ v.sessions s = some x) n taken by
    refine wp_mono (wp_and (wp_and aside kept) handled) ?_
    rintro _ m v _ ⟨⟨aside, y, found'', uid, updated, closed, dead⟩, (posted | manager) | ⟨gone, same⟩⟩
    · refine .inl (.inl ⟨aside, ?_, ?_, ?_⟩)
      · rw [posted, found]
        exact congrArg (Option.map _) found'
      · rw [posted]
        exact member
      · rw [posted]
        exact iff_of_true ((View.pending_repost _).mpr (.inr rfl)) ⟨_, here, rfl⟩
    · refine .inl (.inr ⟨aside, ⟨y, found'', uid, .inl updated, fun sane gone => ?_⟩, manager⟩)
      exact closed.trans (sane (dead.symm.trans gone))
    · exact .inr ⟨gone, aside, same⟩
  refine wp_look_still found' (wp_ite (fun dead => ⟨trivial, .inr ⟨dead, found'⟩⟩) fun _ => ?_)
  refine wp_readClock_still (wp_look_still found' (wp_ite (fun _ => ?_) fun _ => ?_))
  · exact wp_act_still (p := fun v => (v.toView = taken.repost (.stale s) (x.mStaleTimerHandler.time - taken.clock) ∨
      (x.isAppSession = true → v.Pending .manager)) ∨ x.mStaleTimerHandler.mIsSessionDead = true ∧ v.sessions s = some x)
      fun _ => .inl (.inl rfl)
  · have now : taken.Holds (fun y => y.uid = x.uid) s := ⟨x, found', rfl⟩
    have set : wpStill cfg (setStale s) (fun _ _ v => x.isAppSession = true → v.Pending .manager) (n + 1 + 1 + 1)
        taken :=
      wp_seq (wp_retains (all_act trivial) now) fun _ m v _ holds => wp_updateUniveralBoostMode holds
    exact wp_seq set fun _ m v _ told => ⟨trivial, fun o _ => ⟨trivial, .inl (.inr told)⟩⟩

/-! ### `close`, reports, targets and creation -/

/-- What `close` leaves alone. -/
def Vital.Dated (old : Vital) (k : Vital) : Prop := k.uid = old.uid ∧ k.mLastUpdatedTime = old.mLastUpdatedTime

theorem retains_closeHandlers (stop : ∀ y, q y → q { y with isActive := false })
    (mark : ∀ y, q y → q { y with mSessionClosed := true })
    (dead : ∀ y, q y → q { y with mStaleTimerHandler.mIsSessionDead := true })
    (boost : ∀ y, q y → q { y with mEarlyBoostHandler.mIsSessionDead := true }) :
    (closeHandlers s).All (Act.Retains q s) := by
  refine ⟨fun _ => mark, fun _ => ⟨fun _ => stop, fun _ => ⟨fun _ => boost, fun _ => ⟨fun _ => dead, fun _ => ?_⟩⟩⟩⟩
  exact retains_updateUniveralBoostMode.bind fun _ => trivial

/-- After the exchange the session is closed, and if it is an app's the manager is told. -/
theorem wp_closeExchanged (closed : sh.Holds (fun y => y.mSessionClosed = true) s)
    (uid : sh.Holds (fun y => y.uid = x.uid) s) :
    wpStill cfg (closeExchanged cfg s) (fun _ _ v => v.Holds (fun y => y.mSessionClosed = true) s ∧
      (x.isAppSession = true → v.Pending .manager)) n sh := by
  apply wp_and
  · refine wp_retains ⟨trivial, fun _ => ?_⟩ closed
    refine (retains_setSessionUclampMin (k := fun k => k.mSessionClosed = true) 0).bind fun _ => ?_
    exact retains_closeHandlers (fun _ h => h) (fun _ _ => rfl) (fun _ h => h) fun _ h => h
  · refine wp_seq (wp_retains (all_act trivial) uid) fun _ m v _ uid => ?_
    refine wp_seq (wp_retains (retains_setSessionUclampMin (k := fun k => k.uid = x.uid) 0) uid) fun _ m v _ uid => ?_
    refine wp_seq (wp_retains (all_act fun _ _ h => h) uid) fun _ m v _ uid => ?_
    refine wp_seq (wp_retains (all_act fun _ _ h => h) uid) fun _ m v _ uid => ?_
    refine wp_seq (wp_retains (all_act fun _ _ h => h) uid) fun _ m v _ uid => ?_
    refine wp_seq (wp_retains (all_act fun _ _ h => h) uid) fun _ m v _ uid => ?_
    exact wp_seq (wp_updateUniveralBoostMode uid) fun _ m v _ told => ⟨trivial, told⟩

theorem wp_close_told (found : sh.sessions s = some x) :
    wpStill cfg (close cfg s)
      (fun _ _ v => View.Same s sh.toView v.toView ∨ View.Told s x sh.toView v.toView) n sh := by
  have on : ((Event.close s).program cfg).All (Act.On s) := program_on rfl
  have aside : wpStill cfg (close cfg s) (fun _ _ v => View.Aside s sh.toView v.toView) n sh := wp_aside on (.refl _)
  have kept : wpStill cfg (close cfg s) (fun _ _ v => v.Holds (fun y => x.vital.Dated y.vital) s) n sh := by
    refine wp_retains ⟨fun _ _ h => h, fun (exchanged : Bool) => ?_⟩ ⟨x, found, rfl, rfl⟩
    cases exchanged with
    | false => trivial
    | true =>
      refine ⟨trivial, fun _ => (retains_setSessionUclampMin 0).bind fun _ => ?_⟩
      exact retains_closeHandlers (fun _ h => h) (fun _ h => h) (fun _ h => h) fun _ h => h
  suffices ended : wpStill cfg (close cfg s) (fun _ _ v => View.Same s sh.toView v.toView ∨
      v.Holds (fun y => y.mSessionClosed = true) s ∧ (x.isAppSession = true → v.Pending .manager)) n sh by
    refine wp_mono (wp_and (wp_and aside kept) ended) ?_
    rintro _ m v _ ⟨⟨aside, x', found', uid, updated⟩, same | ⟨⟨y, found'', closed⟩, manager⟩⟩
    · exact .inl same
    · cases Option.some.inj (found'.symm.trans found'')
      exact .inr ⟨aside, ⟨x', found', uid, .inl updated, fun _ _ => closed⟩, manager⟩
  refine ⟨trivial, fun o still => ?_⟩
  have same : sh.wait o.elapsed = sh := by rw [show o.elapsed = 0 from still, Shared.wait_zero]
  change wpStill cfg (if ((sh.wait o.elapsed).sessions s).any (fun x => !x.mSessionClosed) = true
    then closeExchanged cfg s else .ret .illegalState) _ _ ((sh.wait o.elapsed).store s .closed)
  rw [same]
  have marked : (sh.store s .closed).sessions s = some { x with mSessionClosed := true } := by
    simp [Shared.store, Store.apply, found]
  refine wp_ite (fun _ => ?_) fun refused => ⟨trivial, .inl ⟨View.aside_modify _, ?_, Iff.rfl, Iff.rfl⟩⟩
  · exact wp_mono (wp_closeExchanged ⟨_, marked, rfl⟩ ⟨_, marked, rfl⟩) fun _ _ _ _ done => .inr done
  · have closed : x.mSessionClosed = true := by simpa [found] using refused
    rw [marked, found]
    simp [Session.vital, closed]

theorem wp_destroy_told (found : sh.sessions s = some x) :
    wpStill cfg (destroy cfg s)
      (fun _ _ v => View.Same s sh.toView v.toView ∨ View.Told s x sh.toView v.toView) n sh := by
  refine wp_seq (wp_close_told found) fun _ m v _ closed => ?_
  refine wp_seq (wp_act_still (p := fun v' => v'.toView = v.modify s fun y => Store.deleted.apply y) fun _ => rfl)
    fun _ m v' _ deleted => ⟨trivial, ?_⟩
  change View.Same s sh.toView v'.toView ∨ View.Told s x sh.toView v'.toView
  rw [deleted]
  rcases closed with same | told
  · left
    refine ⟨same.aside.trans (View.aside_modify _), ?_, same.member, same.stale⟩
    rw [← same.face, View.modify_self, Option.map_map]
    rfl
  · right
    obtain ⟨x', found', uid, updated, sane⟩ := told.session
    exact ⟨told.aside.trans (View.aside_modify _), ⟨Store.deleted.apply x', by simp [found'], uid, updated, sane⟩,
      told.manager⟩

/-- The same but for `mLastUpdatedTime`. -/
def Vital.Alike (old : Vital) (k : Vital) : Prop :=
  k.uid = old.uid ∧ k.isActive = old.isActive ∧ k.duration = old.duration ∧ k.mSessionClosed = old.mSessionClosed ∧
    k.mIsSessionDead = old.mIsSessionDead

/-- A report that is not the first frame: the session was not timed out. -/
structure View.Reported (cfg : AdpfConfig) (s : Sid) (x : Session) (v v' : View) : Prop where
  aside : View.Aside s v v'
  member : s ∈ v'.registry.mSessions ↔ s ∈ v.registry.mSessions
  fresh : x.isTimeout cfg v.clock = false
  session : ∃ x', v'.sessions s = some x' ∧ x'.mLastUpdatedTime = v.clock ∧ x.vital.Alike x'.vital

theorem retains_acceptReport (actual : List WorkDuration) :
    (acceptReport cfg s actual).All (Act.Retains (fun y => x.vital.Alike y.vital) s) := by
  refine ⟨retains_store trivial, fun _ => ⟨trivial, fun _ => all_load trivial fun _ => ⟨trivial, fun _ => ?_⟩⟩⟩
  refine ⟨fun _ _ alike => alike, fun _ => (all_perhaps retains_updateUniveralBoostMode).bind fun _ => ?_⟩
  split
  · exact retains_reportByPid actual
  · exact retains_setSessionUclampMin _

theorem retains_report (actual : List WorkDuration) :
    (reportActualWorkDuration cfg s actual).All (Act.Retains (fun y => x.vital.Alike y.vital) s) := by
  refine all_load trivial fun _ => ?_
  split
  · trivial
  · refine all_load trivial fun _ => ?_
    split
    · trivial
    · split
      · trivial
      · refine all_load trivial fun _ => ?_
        split
        · trivial
        · exact (retains_acceptReport actual).bind fun _ => trivial

/-- An accepted report sets `mLastUpdatedTime`, and tells the manager if it finds the session timed out. -/
theorem wp_acceptReport_told (actual : List WorkDuration) (found : sh.sessions s = some x) :
    wpStill cfg (acceptReport cfg s actual) (fun _ _ v => v.Holds (fun y => y.mLastUpdatedTime = sh.clock) s ∧
      (x.isTimeout cfg sh.clock = true → x.isAppSession = true → v.Pending .manager)) n sh := by
  refine wp_seq (wp_act_still (p := fun v => v = sh.store s .updateCount) fun _ => rfl) fun _ m v₁ _ counted => ?_
  have found₁ : v₁.sessions s = some (Store.updateCount.apply x) := by simp [counted, Shared.store, found]
  have clock : v₁.clock = sh.clock := by rw [counted]; rfl
  refine wp_readClock_still (wp_look_still found₁ ?_)
  rw [clock]
  have updated : wpStill cfg (readClock fun updated => act (.store s (.lastUpdatedTime updated)))
      (fun _ _ v => v.Holds (fun y => y.vital.mLastUpdatedTime = sh.clock ∧ y.vital.uid = x.uid) s) (m + 1 + 1) v₁ := by
    refine wp_readClock_still (wp_act_still (p := fun v => View.Holds _ s v.toView) fun _ => ?_)
    refine ⟨Store.apply (Store.updateCount.apply x) (.lastUpdatedTime v₁.clock), ?_, clock, rfl⟩
    simp [performNow, Shared.store, found₁]
  refine wp_seq updated fun _ m v₂ _ holds => ?_
  have told : wpStill cfg (perhaps ((Store.updateCount.apply x).isTimeout cfg sh.clock) (updateUniveralBoostMode s))
      (fun _ _ v => x.isTimeout cfg sh.clock = true → x.isAppSession = true → v.Pending .manager) m v₂ := by
    have same : (Store.updateCount.apply x).isTimeout cfg sh.clock = x.isTimeout cfg sh.clock := rfl
    cases timed : x.isTimeout cfg sh.clock with
    | false =>
      rw [perhaps, same, timed]
      exact ⟨trivial, fun off => absurd off Bool.false_ne_true⟩
    | true =>
      obtain ⟨y, found₂, -, uid⟩ := holds
      rw [perhaps, same, timed]
      exact wp_mono (wp_updateUniveralBoostMode ⟨y, found₂, uid⟩) fun _ _ _ _ told _ => told
  refine wp_seq (wp_and told (wp_retains (all_perhaps retains_updateUniveralBoostMode) holds)) fun _ m v₃ _ before => ?_
  have rest : (if cfg.mPidOn = true then reportByPid cfg s actual
      else setSessionUclampMin cfg s (fromUInt32 cfg.mUclampMinHigh)).All
      fun a => a.On s ∧ a.Retains (fun y => y.vital.mLastUpdatedTime = sh.clock ∧ y.vital.uid = x.uid) s := by
    split
    · exact ((own_reportByPid actual).mono fun _ own => own.on).and
        (retains_reportByPid (k := fun k => k.mLastUpdatedTime = sh.clock ∧ k.uid = x.uid) actual)
    · exact ((own_setSessionUclampMin _).mono fun _ own => own.on).and
        (retains_setSessionUclampMin (k := fun k => k.mLastUpdatedTime = sh.clock ∧ k.uid = x.uid) _)
  refine wp_mono (wp_and (wp_aside (rest.mono fun _ h => h.1) (.refl v₃.toView))
    (wp_retains (rest.mono fun _ h => h.2) before.2)) ?_
  rintro _ m v₄ _ ⟨aside, y, found₄, last, -⟩
  exact ⟨⟨y, found₄, last⟩, fun timed app => aside.manager (before.1 timed app)⟩

theorem wp_report_told (actual : List WorkDuration) (found : sh.sessions s = some x) :
    wpStill cfg (reportActualWorkDuration cfg s actual) (fun _ _ v => (View.Same s sh.toView v.toView ∨
      View.Told s x sh.toView v.toView) ∨ View.Reported cfg s x sh.toView v.toView) n sh := by
  have on : ((Event.reportActualWorkDuration s actual).program cfg).All (Act.On s) := program_on rfl
  have aside : wpStill cfg (reportActualWorkDuration cfg s actual) (fun _ _ v => View.Aside s sh.toView v.toView) n sh :=
    wp_aside on (.refl _)
  have kept : wpStill cfg (reportActualWorkDuration cfg s actual)
      (fun _ _ v => v.Holds (fun y => x.vital.Alike y.vital) s) n sh :=
    wp_retains (retains_report actual) ⟨x, found, rfl, rfl, rfl, rfl, rfl⟩
  have roll : wpCall cfg (fun _ => True) (reportActualWorkDuration cfg s actual) (fun _ _ v => v.roll = sh.roll) n sh :=
    wp_own (own_reportActualWorkDuration actual) rfl
  suffices reported : wpStill cfg (reportActualWorkDuration cfg s actual) (fun _ _ v => View.Same s sh.toView v.toView ∨
      v.Holds (fun y => y.mLastUpdatedTime = sh.clock) s ∧
        (x.isTimeout cfg sh.clock = true → x.isAppSession = true → v.Pending .manager)) n sh by
    refine wp_mono (wp_and (wp_and (wp_and aside kept) (wp_allow roll fun _ _ _ => trivial)) reported) ?_
    rintro _ m v _ ⟨⟨⟨aside, y, found', alike⟩, roll⟩, same | ⟨⟨z, found'', last⟩, told⟩⟩
    · exact .inl (.inl same)
    · cases Option.some.inj (found'.symm.trans found'')
      have last : y.mLastUpdatedTime = sh.clock := last
      have members : v.registry = sh.registry := congrArg Roll.registry roll
      cases timed : x.isTimeout cfg sh.clock with
      | false => exact .inr ⟨aside, members ▸ Iff.rfl, timed, y, found', last, alike⟩
      | true =>
        obtain ⟨uid, -, -, closed, dead⟩ := alike
        refine .inl (.inr ⟨aside, ⟨y, found', uid, .inr last, fun sane gone => ?_⟩, told timed⟩)
        exact closed.trans (sane (dead.symm.trans gone))
  refine wp_look_still found (wp_ite (fun _ => ⟨trivial, .inl (.refl _)⟩) fun _ => ?_)
  refine wp_look_still found (wp_ite (fun _ => ⟨trivial, .inl (.refl _)⟩) fun _ => ?_)
  refine wp_ite (fun _ => ⟨trivial, .inl (.refl _)⟩) fun _ => ?_
  refine wp_look_still found (wp_ite (fun _ => ⟨trivial, .inl (.refl _)⟩) fun _ => ?_)
  exact wp_seq (wp_acceptReport_told actual found) fun _ m v _ done => ⟨trivial, .inr done⟩

theorem wp_target_told (target : Int) (found : sh.sessions s = some x) :
    wpStill cfg (updateTargetWorkDuration cfg s target) (fun _ _ v => View.Same s sh.toView v.toView ∨
      0 < target ∧ v.toView = sh.modify s fun y => { y with duration := toInt64 (target * cfg.mTargetTimeFactor) })
      n sh := by
  refine wp_look_still found (wp_ite (fun _ => ⟨trivial, .inl (.refl _)⟩) fun _ => ?_)
  refine wp_ite (fun _ => ⟨trivial, .inl (.refl _)⟩) fun positive => ?_
  refine wp_seq (wp_act_still (p := fun v => v.toView = sh.modify s fun y =>
    { y with duration := toInt64 (target * cfg.mTargetTimeFactor) }) fun _ => rfl) fun _ m v _ stored => ?_
  exact ⟨trivial, .inr ⟨not_le.mp positive, stored⟩⟩

structure View.Created (s : Sid) (uid durationNanos : Int) (v v' : View) : Prop where
  aside : View.Aside s v v'
  session : ∃ x', v'.sessions s = some x' ∧ x'.vital = ⟨uid, true, durationNanos, v.clock, false, false⟩

theorem wp_create_told (tgid uid : Int) (threadIds : List Tid) (durationNanos : Int) :
    wpStill cfg (createHintSession cfg s tgid uid threadIds durationNanos) (fun _ _ v => View.Same s sh.toView v.toView ∨
      View.Created s uid durationNanos sh.toView v.toView) n sh := by
  have on : ((Event.createHintSession s tgid uid threadIds durationNanos).program cfg).All (Act.On s) := program_on rfl
  have aside : wpStill cfg (createHintSession cfg s tgid uid threadIds durationNanos)
      (fun _ _ v => View.Aside s sh.toView v.toView) n sh := wp_aside on (.refl _)
  suffices created : wpStill cfg (createHintSession cfg s tgid uid threadIds durationNanos) (fun _ _ v =>
      View.Same s sh.toView v.toView ∨
        v.Holds (fun y => y.vital = ⟨uid, true, durationNanos, sh.clock, false, false⟩) s) n sh by
    refine wp_mono (wp_and aside created) ?_
    rintro _ m v _ ⟨aside, same | holds⟩
    · exact .inl same
    · exact .inr ⟨aside, holds⟩
  refine wp_ite (fun _ => ⟨trivial, .inl (.refl _)⟩) fun _ => wp_ite (fun _ => ⟨trivial, .inl (.refl _)⟩) fun _ => ?_
  refine wp_seq ?_ fun _ m v _ holds => ⟨trivial, .inr holds⟩
  refine wp_seq (wp_act_still (p := fun v => v.toView = sh.construct s (.fresh tgid uid threadIds durationNanos))
    fun _ => rfl) fun _ m v₁ _ constructed => ?_
  have found : v₁.sessions s = some (.fresh tgid uid threadIds durationNanos) := by
    simp [constructed, View.construct]
  have clock : v₁.clock = sh.clock := by rw [constructed]; rfl
  have updated : wpStill cfg (readClock fun updated => act (.store s (.lastUpdatedTime updated)))
      (fun _ _ v => v.Holds (fun y => y.vital = ⟨uid, true, durationNanos, sh.clock, false, false⟩) s) m v₁ := by
    refine wp_readClock_still (wp_act_still (p := fun v => View.Holds _ s v.toView) fun _ => ?_)
    refine ⟨Store.apply (.fresh tgid uid threadIds durationNanos) (.lastUpdatedTime v₁.clock), ?_, ?_⟩
    · simp [performNow, Shared.store, found]
    · rw [clock]
      rfl
  refine wp_seq updated fun _ m v _ holds => wp_retains ?_ holds
  have started : (readClock fun started => act (.store s (.lastStartedTime (started - durationNanos)))).All
      (Act.Retains (fun y => y.vital = ⟨uid, true, durationNanos, sh.clock, false, false⟩) s) :=
    ⟨trivial, fun _ => all_act fun _ _ h => h⟩
  refine started.bind fun _ => ⟨trivial, fun _ => ?_⟩
  exact retains_setSessionUclampMin (k := fun k => k = ⟨uid, true, durationNanos, sh.clock, false, false⟩) _

end Calls

/-! ### What an event can do -/

/-- The events that the manager has to notice, and the messages that these events post. -/
def Event.Ordinary : Event → Bool
  | .displayUpdate | .deliver ⟨.wakeup, _⟩ => false
  | _ => true

inductive Change (cfg : AdpfConfig) (e : Event) (v v' : View) : Prop where
  | same (s : Sid) : View.Same s v v' → Change cfg e v v'
  | told (s : Sid) (x : Session) : v.sessions s = some x → View.Told s x v v' → Change cfg e v v'
  | spent (s : Sid) : v'.sessions s = v.sessions s →
    (∀ x, v.sessions s = some x → x.mStaleTimerHandler.mIsSessionDead = true) → View.Aside s v v' → Change cfg e v v'
  | reported (s : Sid) (x : Session) : v.sessions s = some x → View.Reported cfg s x v v' → Change cfg e v v'
  | retargeted (s : Sid) (x : Session) (target : Int) : e = .updateTargetWorkDuration s target →
    v.sessions s = some x → 0 < target →
    v' = (v.modify s fun y => { y with duration := toInt64 (target * cfg.mTargetTimeFactor) }) → Change cfg e v v'
  | created (s : Sid) (tgid uid : Int) (threadIds : List Tid) (durationNanos : Int) :
    e = .createHintSession s tgid uid threadIds durationNanos → v.sessions s = none →
    View.Created s uid durationNanos v v' → Change cfg e v v'
  | recomputed : v' = { v with queue := v'.queue, mActive := Shared.anyAppSessionActive cfg v } →
    (∀ s, v'.Pending (.stale s) ↔ v.Pending (.stale s)) → Change cfg e v v'
  | tick (elapsed : Nat) : e = .tick elapsed → v' = { v with clock := v.clock + elapsed } → Change cfg e v v'

section Events

variable {cfg : AdpfConfig} {s : Sid} {sh : Shared} {v v' v'' : View}

theorem View.Same.trans (first : View.Same s v v') (second : View.Same s v' v'') : View.Same s v v'' :=
  ⟨first.aside.trans second.aside, second.face.trans first.face, second.member.trans first.member,
    second.stale.trans first.stale⟩

theorem same_earlyBoost : View.Same s sh.toView (sh.earlyBoost cfg s).toView := by
  refine ⟨View.aside_earlyBoost, ?_, ?_, ?_⟩
  all_goals unfold Shared.earlyBoost
  all_goals split
  any_goals rfl
  all_goals split
  any_goals rfl
  all_goals split
  any_goals rfl
  · rw [Shared.store, Shared.lift_toView, Shared.setUclampMinLocked_toView, View.modify_self, Option.map_map]
    rfl
  · rw [Shared.store, Shared.lift_toView, Shared.setUclampMinLocked_toView]
    rfl
  · exact (View.pending_repost _).trans (or_iff_left Handler.noConfusion)
  · rw [Shared.store, Shared.lift_toView, Shared.setUclampMinLocked_toView]
    rfl

theorem wp_change (e : Event) (enabled : e.enabled sh.toView = true) (ordinary : e.Ordinary = true) :
    wpStill cfg (e.program cfg) (fun _ _ v => Change cfg e sh.toView v.toView) 0 (sh.lift fun v => e.begin v) := by
  have either {s : Sid} {x : Session} {v : View} (found : sh.sessions s = some x)
      (h : View.Same s sh.toView v ∨ View.Told s x sh.toView v) : Change cfg e sh.toView v := by
    rcases h with same | told
    · exact .same s same
    · exact .told s x found told
  have present {s : Sid} (live : Event.live sh.toView s = true) : ∃ x, sh.sessions s = some x := by
    obtain ⟨x, found, -⟩ := (Option.any_eq_true _ _).mp live
    exact ⟨x, found⟩
  cases e with
  | createHintSession s tgid uid threadIds durationNanos =>
    refine wp_mono (wp_create_told tgid uid threadIds durationNanos) ?_
    rintro _ m v _ (same | created)
    · exact .same s same
    · exact .created s tgid uid threadIds durationNanos rfl (Option.isNone_iff_eq_none.mp enabled) created
  | close s =>
    obtain ⟨x, found⟩ := present enabled
    exact wp_mono (wp_close_told found) fun _ _ _ _ h => either found h
  | destroy s =>
    obtain ⟨x, found⟩ := present enabled
    exact wp_mono (wp_destroy_told found) fun _ _ _ _ h => either found h
  | pause s =>
    obtain ⟨x, found⟩ := present enabled
    exact wp_mono (wp_pause_told found) fun _ _ _ _ h => either found h
  | resume s =>
    obtain ⟨x, found⟩ := present enabled
    exact wp_mono (wp_resume_told found) fun _ _ _ _ h => either found h
  | updateTargetWorkDuration s target =>
    obtain ⟨x, found⟩ := present enabled
    refine wp_mono (wp_target_told target found) ?_
    rintro _ m v _ (same | ⟨positive, stored⟩)
    · exact .same s same
    · exact .retargeted s x target rfl found positive stored
  | reportActualWorkDuration s actual =>
    obtain ⟨x, found⟩ := present enabled
    refine wp_mono (wp_report_told actual found) ?_
    rintro _ m v _ (h | reported)
    · exact either found h
    · exact .reported s x found reported
  | displayUpdate => cases ordinary
  | deliver m =>
    obtain ⟨h, due⟩ := m
    have here : (⟨h, due⟩ : Message) ∈ sh.queue := (of_decide_eq_true enabled).1
    cases h with
    | stale s =>
      cases found : sh.sessions s with
      | none =>
        have spent : Change cfg (.deliver ⟨.stale s, due⟩) sh.toView ((Event.deliver ⟨.stale s, due⟩).begin sh.toView) :=
          .spent s rfl (fun x here => absurd (here.symm.trans found) (by simp)) (aside_taken (.inl rfl))
        have handled : wpStill cfg (handleStale s)
            (fun _ _ v => Change cfg (.deliver ⟨.stale s, due⟩) sh.toView v.toView) 0
            (sh.lift fun v => (Event.deliver ⟨.stale s, due⟩).begin v) := wp_look_absent found spent
        exact wp_seq handled fun _ _ _ _ change => ⟨trivial, change⟩
      | some x =>
        refine wp_seq (wp_handleStale_told found here) ?_
        rintro _ m v _ (h | ⟨gone, aside, same⟩)
        · exact ⟨trivial, either found h⟩
        · exact ⟨trivial, .spent s (same.trans found.symm)
            (fun y here => Option.some.inj (found.symm.trans here) ▸ gone) aside⟩
    | earlyBoost s =>
      refine wp_seq (wp_act_still (p := fun v => View.Same s sh.toView v.toView) fun o => ?_) fun _ _ _ _ same =>
        ⟨trivial, .same s same⟩
      refine View.Same.trans ?_ same_earlyBoost
      exact ⟨aside_taken (.inr rfl), rfl, Iff.rfl, View.pending_taken nofun⟩
    | manager =>
      refine wp_seq (wp_act_still (p := fun v => Change cfg (.deliver ⟨.manager, due⟩) sh.toView v.toView) fun o => ?_)
        fun _ _ _ _ change => ⟨trivial, change⟩
      exact .recomputed rfl fun s => View.pending_taken nofun
    | wakeup => cases ordinary
  | tick elapsed => exact ⟨trivial, .tick elapsed rfl rfl⟩

theorem eventStep_change (e : Event) (io : Nat → Outcome) (still : ∀ n, (io n).elapsed = 0)
    (ordinary : e.Ordinary = true) :
    Change cfg e sh.toView (eventStep cfg sh (e, io)).toView := by
  unfold eventStep
  split
  · rename_i enabled
    obtain ⟨_, change⟩ := exec_post (wp_change e enabled ordinary) still
    exact change
  · exact .same 0 (.refl _)

end Events

end Pdx215.Power
