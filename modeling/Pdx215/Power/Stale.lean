import Pdx215.Lib.Runs
import Pdx215.Power.Writes

/-! The two notions of staleness: the time stored in `StaleTimerHandler` and the time that
`getStaleTime` computes. When the stored time is not earlier than the computed one, a session that
still boosts is timed out by the time its stale timer expires. -/
namespace Pdx215.Power

open Effect

/-- If the session boosts, it is timed out when its stale timer expires. -/
def Session.Covered (cfg : AdpfConfig) (x : Session) : Prop :=
  x.isActive = true → 0 < x.currentMin → x.getStaleTime cfg ≤ x.mStaleTimerHandler.time

namespace View

def Pending (v : View) (h : Handler) : Prop := ∃ m ∈ v.queue, m.handler = h

def Updated (s : Sid) (v : View) : Prop := ∀ x, v.sessions s = some x → x.mLastUpdatedTime ≤ v.clock

def Sure (cfg : AdpfConfig) (s : Sid) (v : View) : Prop :=
  ∀ x, v.sessions s = some x → x.mLastUpdatedTime ≤ v.clock ∧ x.Covered cfg

/-- As `Sure`, but only while a message of the stale timer is in the queue. -/
def Armed (cfg : AdpfConfig) (s : Sid) (v : View) : Prop :=
  ∀ x, v.sessions s = some x → x.mLastUpdatedTime ≤ v.clock ∧ (v.Pending (.stale s) → x.Covered cfg)

variable {cfg : AdpfConfig} {s : Sid} {v v' : View}

theorem Sure.armed (sure : v.Sure cfg s) : v.Armed cfg s :=
  fun x found => ⟨(sure x found).1, fun _ => (sure x found).2⟩

theorem Sure.updated (sure : v.Sure cfg s) : v.Updated s := fun x found => (sure x found).1

theorem Armed.updated (armed : v.Armed cfg s) : v.Updated s := fun x found => (armed x found).1

theorem Armed.sure (armed : v.Armed cfg s) (pending : v.Pending (.stale s)) : v.Sure cfg s :=
  fun x found => ⟨(armed x found).1, (armed x found).2 pending⟩

theorem sure_of_none (absent : v.sessions s = none) : v.Sure cfg s :=
  fun _ found => absurd (found.symm.trans absent) (by simp)

/-- A step that posts no message of the session's stale timer and can only end its boost. -/
structure Mild (cfg : AdpfConfig) (s : Sid) (v v' : View) : Prop where
  clock : v.clock ≤ v'.clock
  pending : v'.Pending (.stale s) → v.Pending (.stale s)
  session : ∀ x', v'.sessions s = some x' → ∃ x, v.sessions s = some x ∧
    x'.mLastUpdatedTime = x.mLastUpdatedTime ∧ (x.Covered cfg → x'.Covered cfg)

theorem Mild.refl (v : View) : Mild cfg s v v := ⟨le_rfl, id, fun x found => ⟨x, found, rfl, id⟩⟩

theorem Mild.trans {v'' : View} (first : Mild cfg s v v') (second : Mild cfg s v' v'') : Mild cfg s v v'' := by
  refine ⟨first.clock.trans second.clock, fun h => first.pending (second.pending h), fun x'' found => ?_⟩
  obtain ⟨x', found, updated', covered'⟩ := second.session x'' found
  obtain ⟨x, found, updated, covered⟩ := first.session x' found
  exact ⟨x, found, updated'.trans updated, fun h => covered' (covered h)⟩

theorem Mild.of_same (sessions : v'.sessions s = v.sessions s) (clock : v.clock ≤ v'.clock)
    (pending : v'.Pending (.stale s) → v.Pending (.stale s)) : Mild cfg s v v' :=
  ⟨clock, pending, fun x found => ⟨x, sessions ▸ found, rfl, id⟩⟩

theorem Mild.updated (mild : Mild cfg s v v') (updated : v.Updated s) : v'.Updated s := by
  intro x' found
  obtain ⟨x, found, same, -⟩ := mild.session x' found
  exact same ▸ (updated x found).trans mild.clock

theorem Mild.sure (mild : Mild cfg s v v') (sure : v.Sure cfg s) : v'.Sure cfg s := by
  intro x' found
  refine ⟨mild.updated sure.updated x' found, ?_⟩
  obtain ⟨x, found, -, covered⟩ := mild.session x' found
  exact covered (sure x found).2

theorem Mild.armed (mild : Mild cfg s v v') (armed : v.Armed cfg s) : v'.Armed cfg s := by
  intro x' found
  refine ⟨mild.updated armed.updated x' found, fun pending => ?_⟩
  obtain ⟨x, found, -, covered⟩ := mild.session x' found
  exact covered ((armed x found).2 (mild.pending pending))

theorem mild_modify (r : Sid) (f : Session → Session)
    (same : r = s → ∀ x, (f x).mLastUpdatedTime = x.mLastUpdatedTime ∧ (x.Covered cfg → (f x).Covered cfg)) :
    Mild cfg s v (v.modify r f) := by
  refine ⟨le_rfl, id, fun x' found => ?_⟩
  by_cases here : s = r
  · subst here
    obtain ⟨x, was, rfl⟩ := modify_some found
    exact ⟨x, was, same rfl x⟩
  · rw [modify_ne here] at found
    exact ⟨x', found, rfl, id⟩

theorem mild_removeMessages (h : Handler) : Mild cfg s v (v.removeMessages h) := by
  refine .of_same rfl le_rfl fun ⟨m, here, stale⟩ => ?_
  exact ⟨m, (List.mem_filter.mp here).1, stale⟩

theorem mild_sendMessageDelayed {h : Handler} (delay : Int) (other : h ≠ .stale s) :
    Mild cfg s v (v.sendMessageDelayed h delay) := by
  refine .of_same rfl le_rfl fun ⟨m, here, stale⟩ => ?_
  rcases List.mem_append.mp here with here | here
  · exact ⟨m, here, stale⟩
  · rw [List.mem_singleton.mp here] at stale
    exact absurd stale other

theorem mild_repost {h : Handler} (delay : Int) (other : h ≠ .stale s) : Mild cfg s v (v.repost h delay) :=
  (mild_removeMessages h).trans (mild_sendMessageDelayed delay other)

theorem mild_staleDead (r : Sid) : Mild cfg s v (v.staleDead r) := by
  refine Mild.trans (mild_modify r _ fun _ y => ?_) (mild_removeMessages _)
  exact ⟨rfl, id⟩

theorem mild_earlyBoostDead (r : Sid) : Mild cfg s v (v.earlyBoostDead r) := by
  refine Mild.trans (mild_modify r _ fun _ y => ?_) (mild_removeMessages _)
  exact ⟨rfl, id⟩

end View

/-! ### The steps that keep the timer covered -/

def Store.Gentle : Store → Prop
  | .isActive b => b = false
  | .currentMin v => v ≤ 0
  | .duration _ | .lastUpdatedTime _ | .staleTime _ => False
  | _ => True

def Act.Gentle (s : Sid) : Act → Prop
  | .construct r _ _ _ _ => r ≠ s
  | .store r x => r ≠ s ∨ x.Gentle
  | .sendMessage h | .repost h _ => h ≠ .stale s
  | .wakeSessions => False
  | _ => True

theorem Act.On.gentle {s r : Sid} (other : r ≠ s) {a : Act} (on : a.On r) : a.Gentle s := by
  cases a
  case construct => exact fun same => other (on.symm.trans same)
  case store => exact .inl fun same => other (on.symm.trans same)
  case sendMessage h =>
    intro same
    cases on.symm.trans same
  case repost h _ =>
    rintro rfl
    rcases on with same | same
    · injection same with same
      exact other same.symm
    · cases same
  case wakeSessions => exact on.elim
  all_goals trivial

section Gentle

variable {cfg : AdpfConfig} {s : Sid}

theorem Store.Gentle.mild {x : Store} (gentle : x.Gentle) (y : Session) :
    (x.apply y).mLastUpdatedTime = y.mLastUpdatedTime ∧ (y.Covered cfg → (x.apply y).Covered cfg) := by
  cases x
  case isActive b =>
    subst gentle
    exact ⟨rfl, fun _ active => nomatch active⟩
  case workPeriod actual =>
    simp only [Store.apply, Session.updateWorkPeriod]
    split
    · exact ⟨rfl, id⟩
    · exact ⟨rfl, id⟩
  case currentMin v => exact ⟨rfl, fun _ _ boosts => absurd boosts (not_lt.mpr gentle)⟩
  case duration | lastUpdatedTime | staleTime => exact gentle.elim
  all_goals exact ⟨rfl, id⟩

theorem mild_earlyBoost (r : Sid) (sh : Shared) : View.Mild cfg s sh.toView (sh.earlyBoost cfg r).toView := by
  unfold Shared.earlyBoost
  split
  · exact .refl _
  · split
    · exact .refl _
    · split
      · exact View.mild_repost _ (by simp)
      · have written := Shared.setUclampMinLocked_toView cfg r (fromUInt32 cfg.mUclampMinHigh) sh
        rw [Shared.store, Shared.lift_toView, written]
        exact View.mild_modify r _ fun _ y => Store.Gentle.mild (x := .boostMonitoring false) trivial y

theorem mild_wait {sh : Shared} (e : Nat) : View.Mild cfg s sh.toView (sh.wait e).toView :=
  .of_same rfl (le_add_of_nonneg_right (Int.natCast_nonneg _)) id

theorem perform_mild {a : Act} (gentle : a.Gentle s) (o : Outcome) (sh : Shared) :
    View.Mild cfg s sh.toView (perform cfg a o sh).2.toView := by
  apply (mild_wait o.elapsed).trans
  cases a
  case construct r tgid uid threadIds durationNanos =>
    exact .of_same (Function.update_of_ne (Ne.symm gentle) _ _) le_rfl id
  case store r x =>
    refine View.mild_modify r _ fun same y => ?_
    rcases gentle with other | gentle
    · exact absurd same other
    · exact gentle.mild y
  case compareExchangeClosed r => exact View.mild_modify r _ fun _ y => Store.Gentle.mild (x := .closed) trivial y
  case sendMessage h => exact View.mild_sendMessageDelayed 0 gentle
  case repost h delay => exact View.mild_repost delay gentle
  case staleDead r => exact View.mild_staleDead r
  case earlyBoostDead r => exact View.mild_earlyBoostDead r
  case earlyBoost r => exact mild_earlyBoost r (sh.wait o.elapsed)
  case setUclampMin r val =>
    have written := Shared.setUclampMinLocked_toView cfg r val (sh.wait o.elapsed)
    exact written.symm ▸ .refl _
  case wakeSessions => exact gentle.elim
  all_goals exact .of_same rfl le_rfl id

/-- A session that is woken has its timer set past its stale time. -/
theorem armed_wakeup {sh : Shared} (r : Sid) (armed : sh.Armed cfg s) : (sh.wakeup cfg r).Armed cfg s := by
  unfold Shared.wakeup
  split
  · exact armed
  · rename_i x found
    split
    · exact armed
    · have written := Shared.setUclampMinLocked_toView cfg r (max x.currentMin (fromUInt32 cfg.mUclampMinInit))
        (sh.store r (.currentMin (max x.currentMin (fromUInt32 cfg.mUclampMinInit))))
      simp only [Shared.updateStaleTimer, Shared.store, Shared.lift_toView] at written ⊢
      rw [written]
      by_cases here : r = s
      · subst here
        have updated := (armed x found).1
        intro x' found'
        obtain ⟨y, was, rfl⟩ := View.modify_some found'
        obtain ⟨y', was', rfl⟩ := View.modify_some (v := View.modify _ _ _) was
        obtain ⟨y'', was'', rfl⟩ := View.modify_some was'
        cases Option.some.inj (found.symm.trans was'')
        refine ⟨updated, fun _ _ _ => ?_⟩
        exact add_le_add_left updated _
      · refine View.Mild.armed ?_ armed
        refine .trans ?_ (View.mild_modify r _ fun same => absurd same here)
        refine .trans ?_ (View.mild_repost 0 fun same => here (Handler.stale.inj same))
        refine .trans ?_ (View.mild_modify r _ fun same => absurd same here)
        exact View.mild_modify r _ fun same => absurd same here

theorem armed_wakeups (order : List Sid) {sh : Shared} (armed : sh.Armed cfg s) :
    (order.foldl (Shared.wakeup cfg) sh).Armed cfg s := by
  induction order generalizing sh with
  | nil => exact armed
  | cons r order ih => exact ih (armed_wakeup r armed)

end Gentle

/-! ### The calls -/

section Rules

variable {cfg : AdpfConfig} {s : Sid} {n : Nat} {sh : Shared}

theorem wp_gentle {α : Type} {p : Call α} {kept : View → Prop} (all : p.All (Act.Gentle s))
    (mild : ∀ v v', View.Mild cfg s v v' → kept v → kept v') (now : kept sh.toView) :
    wpCall cfg (fun _ => True) p (fun _ _ v => kept v.toView) n sh :=
  wp_all all (fun _ _ => trivial) (fun _ gentle _ o w _ now => mild _ _ (perform_mild gentle o w) now) now

theorem wp_step {a : Act} {q : Shared → Prop} (done : ∀ o, q (perform cfg a o sh).2) :
    wpCall cfg (fun _ => True) (act a) (fun _ _ v => q v) n sh :=
  ⟨trivial, fun o _ => ⟨trivial, done o⟩⟩

theorem updated_wait (updated : sh.Updated s) (e : Nat) : (sh.wait e).Updated s :=
  fun x found => (updated x found).trans (le_add_of_nonneg_right (Int.natCast_nonneg _))

theorem wp_readClock {α : Type} {k : Int → Call α} {post : α → Nat → Shared → Prop}
    (rest : ∀ e : Nat, wpCall cfg (fun _ => True) (k (sh.clock + e)) post (n + 1) (sh.wait e)) :
    wpCall cfg (fun _ => True) (readClock k) post n sh :=
  ⟨trivial, fun o _ => rest o.elapsed⟩

theorem gentle_updateUniveralBoostMode : (updateUniveralBoostMode s).All (Act.Gentle s) :=
  all_load trivial fun _ => all_perhaps (all_act (by simp [Act.Gentle]))

theorem gentle_setStale : (setStale s).All (Act.Gentle s) := ⟨trivial, fun _ => gentle_updateUniveralBoostMode⟩

theorem gentle_updateEarlyBoost (actual : List WorkDuration) :
    (updateEarlyBoost cfg s actual).All (Act.Gentle s) := by
  refine ⟨.inr trivial, fun _ => all_load trivial fun x => ⟨.inr trivial, fun _ => ⟨?_, fun _ => ?_⟩⟩⟩
  · simp [Act.Gentle]
  · exact all_act (.inr trivial)

theorem gentle_pause : (pause s).All (Act.Gentle s) := by
  refine all_load trivial fun x => ?_
  split
  · trivial
  · refine all_load trivial fun x => ?_
    split
    · trivial
    · refine ⟨.inr rfl, fun _ => gentle_setStale.bind fun _ => ?_⟩
      exact gentle_updateUniveralBoostMode.bind fun _ => trivial

theorem gentle_close : (close cfg s).All (Act.Gentle s) := by
  refine ⟨trivial, fun (exchanged : Bool) => ?_⟩
  cases exchanged with
  | false => trivial
  | true =>
    have reset : (setSessionUclampMin cfg s 0).All (Act.Gentle s) :=
      ⟨.inr (le_refl 0), fun _ => ⟨trivial, fun _ => trivial⟩⟩
    refine ⟨trivial, fun _ => reset.bind fun _ => ⟨.inr trivial, fun _ => ⟨.inr rfl, fun _ => ?_⟩⟩⟩
    exact ⟨trivial, fun _ => ⟨trivial, fun _ => gentle_updateUniveralBoostMode.bind fun _ => trivial⟩⟩

theorem gentle_destroy : (destroy cfg s).All (Act.Gentle s) :=
  gentle_close.bind fun _ => ⟨.inr trivial, fun _ => trivial⟩

/-- The timer is set to a time that is not earlier than the stale time. -/
theorem wp_updateStaleTimerTo {t : Int} (updated : sh.Updated s)
    (late : ∀ x, sh.sessions s = some x → x.getStaleTime cfg ≤ t) :
    wpCall cfg (fun _ => True) (updateStaleTimerTo s t) (fun _ _ v => v.Sure cfg s) n sh := by
  have stored (o : Outcome) : (perform cfg (.store s (.staleTime t)) o sh).2.Sure cfg s := by
    intro x' found
    obtain ⟨x, was, rfl⟩ := View.modify_some found
    exact ⟨updated_wait updated o.elapsed x was, fun _ _ => late x was⟩
  refine wp_seq (wp_step (q := fun v => v.Sure cfg s) stored) fun _ m v _ sure => ?_
  have posted (o : Outcome) : (perform cfg (.repost (.stale s) 0) o v).2.Sure cfg s :=
    (mild_wait o.elapsed).sure sure
  refine wp_seq (wp_step (q := fun v => v.Sure cfg s) posted) fun _ m v _ sure => ?_
  exact wp_gentle (all_act (.inr trivial)) (fun _ _ mild => mild.sure) sure

theorem wp_updateStaleTimer (updated : sh.Updated s) :
    wpCall cfg (fun _ => True) (updateStaleTimer cfg s) (fun _ _ v => v.Sure cfg s) n sh := by
  refine ⟨trivial, fun o _ => ?_⟩
  have updated := updated_wait updated o.elapsed
  refine wp_look (fun e absent x found => absurd (found.symm.trans absent) (by simp)) fun x e found => ?_
  refine wp_updateStaleTimerTo (updated_wait updated e) fun x' found' => ?_
  cases Option.some.inj (found.symm.trans found')
  exact add_le_add_left (updated x found) _

theorem wp_setSessionUclampMin (min' : Int) (updated : sh.Updated s) :
    wpCall cfg (fun _ => True) (setSessionUclampMin cfg s min') (fun _ _ v => v.Sure cfg s) n sh := by
  have stored (o : Outcome) : (perform cfg (.store s (.currentMin min')) o sh).2.Updated s ∧
      (min' = 0 → (perform cfg (.store s (.currentMin min')) o sh).2.Sure cfg s) := by
    have still : ∀ x', (perform cfg (.store s (.currentMin min')) o sh).2.sessions s = some x' →
        x'.mLastUpdatedTime ≤ (sh.wait o.elapsed).clock ∧ x'.currentMin = min' := by
      intro x' found
      obtain ⟨x, was, rfl⟩ := View.modify_some found
      exact ⟨updated_wait updated o.elapsed x was, rfl⟩
    refine ⟨fun x' found => (still x' found).1, fun zero x' found => ⟨(still x' found).1, fun _ boosts => ?_⟩⟩
    rw [(still x' found).2, zero] at boosts
    exact absurd boosts (lt_irrefl 0)
  refine wp_seq (wp_step (q := fun v => v.Updated s ∧ (min' = 0 → v.Sure cfg s)) stored) fun _ m v _ stored => ?_
  have armed : wpCall cfg (fun _ => True) (perhaps (decide (min' ≠ 0)) (updateStaleTimer cfg s))
      (fun _ _ v => v.Sure cfg s) m v := by
    by_cases zero : min' = 0
    · rw [perhaps, if_neg (by simp [zero])]
      exact ⟨trivial, stored.2 zero⟩
    · rw [perhaps, if_pos (by simp [zero])]
      exact wp_updateStaleTimer stored.1
  refine wp_seq armed fun _ m v _ sure => ?_
  exact wp_gentle (all_act trivial) (fun _ _ mild => mild.sure) sure

theorem wp_storeUpdated :
    wpCall cfg (fun _ => True) (readClock fun updated => act (.store s (.lastUpdatedTime updated)))
      (fun _ _ v => v.Updated s) n sh := by
  refine wp_readClock fun e => wp_step (q := fun v => v.Updated s) fun o x' found => ?_
  obtain ⟨x, was, rfl⟩ := View.modify_some found
  exact le_add_of_nonneg_right (Int.natCast_nonneg o.elapsed)

theorem wp_reportByPid (actual : List WorkDuration) (updated : sh.Updated s) :
    wpCall cfg (fun _ => True) (reportByPid cfg s actual) (fun _ _ v => v.Sure cfg s) n sh := by
  refine wp_look (fun e absent => View.sure_of_none absent) fun x e _ => ?_
  have updated := updated_wait updated e
  refine wp_seq (wp_gentle (all_act (.inr trivial)) (fun _ _ mild => mild.updated) updated)
    fun _ m v _ updated => ?_
  have set : wpCall cfg (fun _ => True) (load () s fun y => setSessionUclampMin cfg s
      (max (fromUInt32 cfg.mUclampMinLow) (min (fromUInt32 cfg.mUclampMinHigh) (y.currentMin + toInt32
        (convertWorkDurationToBoostByPid cfg x.duration actual x.integralError x.previousError).1))))
      (fun _ _ v => v.Sure cfg s) m v :=
    wp_look (fun e absent => View.sure_of_none absent) fun y e _ => wp_setSessionUclampMin _ (updated_wait updated e)
  refine wp_seq set fun _ m v _ sure => ?_
  have timed : wpCall cfg (fun _ => True) (load () s fun y => updateStaleTimerTo s (y.getStaleTime cfg))
      (fun _ _ v => v.Sure cfg s) m v := by
    refine wp_look (fun e absent => View.sure_of_none absent) fun y e found => ?_
    refine wp_updateStaleTimerTo (updated_wait sure.updated e) fun y' found' => ?_
    cases Option.some.inj (found.symm.trans found')
    exact le_rfl
  refine wp_seq timed fun _ m v _ sure => ?_
  exact wp_gentle (all_perhaps (gentle_updateEarlyBoost actual)) (fun _ _ mild => mild.sure) sure

theorem wp_acceptReport (actual : List WorkDuration) :
    wpCall cfg (fun _ => True) (acceptReport cfg s actual) (fun _ _ v => v.Sure cfg s) n sh := by
  refine ⟨trivial, fun o _ => wp_readClock fun e => ?_⟩
  refine wp_look (fun e absent => View.sure_of_none absent) fun x e _ => ?_
  refine wp_seq wp_storeUpdated fun _ m v _ updated => ?_
  refine wp_seq (wp_gentle (all_perhaps gentle_updateUniveralBoostMode)
    (fun _ _ mild => mild.updated) updated) fun _ m v _ updated => ?_
  exact wp_ite (fun _ => wp_reportByPid actual updated) fun _ => wp_setSessionUclampMin _ updated

theorem wp_armed_report (actual : List WorkDuration) (armed : sh.Armed cfg s) :
    wpCall cfg (fun _ => True) (reportActualWorkDuration cfg s actual) (fun _ _ v => v.Armed cfg s) n sh := by
  refine wp_look (fun e _ => (mild_wait e).armed armed) fun x e _ => ?_
  have armed := (mild_wait e).armed armed
  refine wp_ite (fun _ => ⟨trivial, armed⟩) fun _ => ?_
  refine wp_look (fun e _ => (mild_wait e).armed armed) fun x e _ => ?_
  have armed := (mild_wait e).armed armed
  refine wp_ite (fun _ => ⟨trivial, armed⟩) fun _ => wp_ite (fun _ => ⟨trivial, armed⟩) fun _ => ?_
  refine wp_look (fun e _ => (mild_wait e).armed armed) fun x e _ => ?_
  have armed := (mild_wait e).armed armed
  refine wp_ite (fun _ => ⟨trivial, armed⟩) fun _ => ?_
  exact wp_seq (wp_acceptReport actual) fun _ m v _ sure => ⟨trivial, sure.armed⟩

theorem wp_armed_resume (armed : sh.Armed cfg s) :
    wpCall cfg (fun _ => True) (resume cfg s) (fun _ _ v => v.Armed cfg s) n sh := by
  refine wp_look (fun e _ => (mild_wait e).armed armed) fun x e _ => ?_
  have armed := (mild_wait e).armed armed
  refine wp_ite (fun _ => ⟨trivial, armed⟩) fun _ => ?_
  refine wp_look (fun e _ => (mild_wait e).armed armed) fun x e _ => ?_
  have armed := (mild_wait e).armed armed
  refine wp_ite (fun _ => ⟨trivial, armed⟩) fun _ => ?_
  refine wp_seq (wp_step (q := fun v => v.Updated s) fun o x' found => ?_) fun _ m v _ updated => ?_
  · obtain ⟨y, was, rfl⟩ := View.modify_some found
    exact updated_wait armed.updated o.elapsed y was
  have set : wpCall cfg (fun _ => True) (load () s fun x => setSessionUclampMin cfg s x.currentMin)
      (fun _ _ v => v.Sure cfg s) m v :=
    wp_look (fun e absent => View.sure_of_none absent) fun y e _ => wp_setSessionUclampMin _ (updated_wait updated e)
  refine wp_seq set fun _ m v _ sure => ?_
  refine wp_seq (wp_gentle gentle_updateUniveralBoostMode (fun _ _ mild => mild.sure) sure) fun _ m v _ sure => ?_
  exact ⟨trivial, sure.armed⟩

theorem wp_enroll (durationNanos : Int) :
    wpCall cfg (fun _ => True) (enroll cfg s durationNanos) (fun _ _ v => v.Sure cfg s) n sh := by
  refine wp_seq wp_storeUpdated fun _ m v _ updated => ?_
  have started : (readClock fun started => act (.store s (.lastStartedTime (started - durationNanos)))).All
      (Act.Gentle s) := ⟨trivial, fun _ => all_act (.inr trivial)⟩
  refine wp_seq (wp_gentle started (fun _ _ mild => mild.updated) updated) fun _ m v _ updated => ?_
  refine wp_seq (wp_gentle (all_act trivial) (fun _ _ mild => mild.updated) updated)
    fun _ m v _ updated => ?_
  exact wp_setSessionUclampMin _ updated

theorem wp_armed_create (tgid uid : Int) (threadIds : List Tid) (durationNanos : Int) (armed : sh.Armed cfg s) :
    wpCall cfg (fun _ => True) (createHintSession cfg s tgid uid threadIds durationNanos)
      (fun _ _ v => v.Armed cfg s) n sh := by
  refine wp_ite (fun _ => ⟨trivial, armed⟩) fun _ => wp_ite (fun _ => ⟨trivial, armed⟩) fun _ => ?_
  refine ⟨trivial, fun o _ => ?_⟩
  exact wp_seq (wp_enroll durationNanos) fun _ m v _ sure => ⟨trivial, sure.armed⟩

/-- A new target does not move the stale time of a boosting session past the time for which its
pending timer is set. -/
def TargetKept (cfg : AdpfConfig) (s : Sid) (v : View) (target : Int) : Prop :=
  ∀ x, v.sessions s = some x → v.Pending (.stale s) → 0 < target → x.isActive = true → 0 < x.currentMin →
    x.mLastUpdatedTime + toInt64 (toInt64 (target * cfg.mTargetTimeFactor) * cfg.mStaleTimeFactor) ≤
      x.mStaleTimerHandler.time

theorem wp_armed_updateTarget (target : Int) (armed : sh.Armed cfg s)
    (kept : TargetKept cfg s sh.toView target) :
    wpCall cfg (fun _ => True) (updateTargetWorkDuration cfg s target) (fun _ _ v => v.Armed cfg s) n sh := by
  refine wp_look (fun e _ => (mild_wait e).armed armed) fun x e found => ?_
  have waited := (mild_wait e).armed armed
  refine wp_ite (fun _ => ⟨trivial, waited⟩) fun _ => wp_ite (fun _ => ⟨trivial, waited⟩) fun positive => ?_
  refine wp_seq (wp_step (q := fun v => v.Armed cfg s) fun o x' found' => ?_) fun _ m v _ armed => ⟨trivial, armed⟩
  obtain ⟨y, was, rfl⟩ := View.modify_some found'
  cases Option.some.inj (found.symm.trans was)
  refine ⟨updated_wait waited.updated o.elapsed x found, fun pending active boosts => ?_⟩
  exact kept x found pending (not_le.mp positive) active boosts

/-- While the timer's message is handled, only rescheduling posts another one. -/
theorem wp_sure_handleStale (sure : sh.Sure cfg s) :
    wpCall cfg (fun _ => True) (handleStale s) (fun _ _ v => v.Sure cfg s) n sh := by
  refine wp_look (fun e _ => (mild_wait e).sure sure) fun x e _ => ?_
  have sure := (mild_wait e).sure sure
  refine wp_ite (fun _ => ⟨trivial, sure⟩) fun _ => wp_readClock fun e => ?_
  have sure := (mild_wait e).sure sure
  refine wp_look (fun e _ => (mild_wait e).sure sure) fun x e _ => ?_
  have sure := (mild_wait e).sure sure
  refine wp_ite (fun _ => ?_) fun _ => ?_
  · exact wp_step (q := fun v => v.Sure cfg s) fun o => (mild_wait o.elapsed).sure sure
  · refine wp_gentle ?_ (fun _ _ mild => mild.sure) sure
    exact gentle_setStale.bind fun _ => all_act (.inr trivial)

end Rules

def Event.KeepsTimer (cfg : AdpfConfig) (s : Sid) (v : View) (e : Event) : Prop :=
  ∀ target, e = .updateTargetWorkDuration s target → TargetKept cfg s v target

section Events

variable {cfg : AdpfConfig} {s : Sid} {n : Nat} {sh : Shared}

theorem mild_begin (v : View) (e : Event) : View.Mild cfg s v (e.begin v) := by
  cases e with
  | deliver m => exact .of_same rfl le_rfl fun ⟨m', here, stale⟩ => ⟨m', List.mem_of_mem_erase here, stale⟩
  | tick elapsed => exact .of_same rfl (le_add_of_nonneg_right (Int.natCast_nonneg _)) id
  | _ => exact .refl v

theorem wp_armed_program (e : Event) (enabled : e.enabled sh.toView = true) (armed : sh.Armed cfg s)
    (keeps : e.KeepsTimer cfg s sh.toView) :
    wpCall cfg (fun _ => True) (e.program cfg) (fun _ _ v => v.Armed cfg s) n (sh.lift fun v => e.begin v) := by
  have began : (sh.lift fun v => e.begin v).Armed cfg s := (mild_begin sh.toView e).armed armed
  have gently {p : Call Status} (all : p.All (Act.Gentle s)) :
      wpCall cfg (fun _ => True) p (fun _ _ v => v.Armed cfg s) n (sh.lift fun v => e.begin v) :=
    wp_gentle all (fun _ _ mild => mild.armed) began
  by_cases mine : e.session = some s
  · cases e with
    | createHintSession r tgid uid threadIds durationNanos =>
      cases mine
      exact wp_armed_create tgid uid threadIds durationNanos began
    | close r =>
      cases mine
      exact gently gentle_close
    | destroy r =>
      cases mine
      exact gently gentle_destroy
    | pause r =>
      cases mine
      exact gently gentle_pause
    | resume r =>
      cases mine
      exact wp_armed_resume began
    | updateTargetWorkDuration r target =>
      cases mine
      exact wp_armed_updateTarget target began (keeps target rfl)
    | reportActualWorkDuration r actual =>
      cases mine
      exact wp_armed_report actual began
    | displayUpdate => cases mine
    | deliver m =>
      obtain ⟨h, due⟩ := m
      cases h with
      | stale r =>
        cases mine
        have here : (⟨.stale s, due⟩ : Message) ∈ sh.queue := (of_decide_eq_true enabled).1
        have sure := (mild_begin sh.toView (.deliver ⟨.stale s, due⟩)).sure (armed.sure ⟨_, here, rfl⟩)
        exact wp_seq (wp_sure_handleStale sure) fun _ m v _ sure => ⟨trivial, sure.armed⟩
      | earlyBoost r => exact gently ⟨trivial, fun _ => trivial⟩
      | manager => cases mine
      | wakeup => cases mine
    | tick elapsed => cases mine
  · cases target : e.session with
    | some r =>
      have other : r ≠ s := fun same => mine (same ▸ target)
      exact gently ((program_on target).mono fun a on => on.gentle other)
    | none =>
      cases e with
      | displayUpdate => exact gently ⟨by simp [Act.Gentle], fun _ => trivial⟩
      | deliver m =>
        obtain ⟨h, due⟩ := m
        cases h with
        | stale r => cases target
        | earlyBoost r => cases target
        | manager => exact gently ⟨trivial, fun _ => trivial⟩
        | wakeup =>
          refine ⟨trivial, fun o _ => ⟨trivial, ?_⟩⟩
          exact armed_wakeups _ ((mild_wait o.elapsed).armed began)
      | tick elapsed => exact gently trivial
      | _ => cases target

theorem eventStep_armed (e : Event × (Nat → Outcome)) (armed : sh.Armed cfg s)
    (keeps : e.1.KeepsTimer cfg s sh.toView) : (eventStep cfg sh e).Armed cfg s := by
  unfold eventStep
  split
  · rename_i enabled
    obtain ⟨_, kept⟩ := exec_post (wp_armed_program (n := 0) e.1 enabled armed keeps) fun _ => trivial
    exact kept
  · exact armed

end Events

/-! ### What the timer writes -/

section Expiry

variable {cfg : AdpfConfig} {s : Sid} {n : Nat} {sh : Shared}

def Act.Silent (cfg : AdpfConfig) (a : Act) : Prop := ∀ o sh, (perform cfg a o sh).2.log = sh.log

theorem wp_silent {α : Type} {p : Call α} {q : List Write → Prop} (all : p.All (Act.Silent cfg)) (now : q sh.log) :
    wpCall cfg (fun _ => True) p (fun _ _ v => q v.log) n sh :=
  wp_all all (fun _ _ => trivial) (fun _ silent _ o w _ now => silent o w ▸ now) now

theorem wp_handleStale_writes (sure : sh.Sure cfg s) (proper : ∀ r, r ≠ s → Roll.ProperAt sh.roll r) :
    wpCall cfg (fun _ => True) (handleStale s) (fun _ _ v => Adds (Write.OfOthers cfg s) sh.log v.log) n sh := by
  refine wp_look (fun e _ => .refl _) fun _ e _ => wp_ite (fun _ => ⟨trivial, .refl _⟩) fun _ => ?_
  refine wp_readClock fun e' => wp_look (fun e _ => .refl _) fun x e'' found => ?_
  refine wp_ite (fun _ => ?_) fun expired => ?_
  · exact wp_silent (q := Adds (Write.OfOthers cfg s) sh.log) (all_act fun _ _ => rfl) (.refl _)
  -- the timer has expired: the session is timed out at the write, or asks for nothing
  refine ⟨trivial, fun o _ => ?_⟩
  obtain ⟨u, hu⟩ : ∃ u, u = (((sh.wait e).wait e').wait e'').wait o.elapsed := ⟨_, rfl⟩
  have here : u.sessions s = some x := hu ▸ found
  have later : sh.clock + e + e' ≤ u.clock := by
    rw [hu]
    exact Int.le_trans (Int.le_add_of_nonneg_right (Int.natCast_nonneg e''))
      (Int.le_add_of_nonneg_right (Int.natCast_nonneg o.elapsed))
  have silent : u.counts cfg s = true → u.getUclampMin s ≤ 0 := by
    simp only [View.counts, View.getUclampMin, here, Bool.and_eq_true, Session.isTimeout, Bool.not_eq_true',
      decide_eq_false_iff_not]
    rintro ⟨active, fresh⟩
    by_contra boosts
    have timed := (sure x found).2 active (not_le.mp boosts)
    have expired : ¬ 0 < x.mStaleTimerHandler.time - (sh.clock + e + e') := expired
    omega
  have written : Adds (Write.OfOthers cfg s) sh.log (u.setUclampMinLocked cfg s 0).log := by
    have same : u.log = sh.log := by rw [hu]; rfl
    exact same ▸ setUclampMin_ofOthers (hu ▸ proper) silent
  have rest : (do updateUniveralBoostMode s; act (.store s (.staleMonitoring false))).All (Act.Silent cfg) := by
    refine Prog.All.bind (all_load (fun _ _ => rfl) fun _ => all_perhaps (all_act fun _ _ => rfl)) fun _ => ?_
    exact all_act fun _ _ => rfl
  have acted : (perform cfg (.setUclampMin s 0) o (((sh.wait e).wait e').wait e'')).2 =
      u.setUclampMinLocked cfg s 0 := by rw [hu]; rfl
  exact wp_silent rest (acted ▸ written)

end Expiry

def KeepsTimers (cfg : AdpfConfig) (s : Sid) : Shared → List (Event × (Nat → Outcome)) → Prop :=
  Runs.Along (eventStep cfg) fun sh e => e.1.KeepsTimer cfg s sh.toView

/-- In every run whose target updates meet the condition, the stale timer of a session writes the
maximum over the other registered sessions only. -/
theorem stale_timer_writes_others (cfg : AdpfConfig) (s : Sid) (events : List (Event × (Nat → Outcome)))
    (keeps : KeepsTimers cfg s .start events) (due : Int) (io : Nat → Outcome) :
    let sh := run cfg .start events
    ∃ added, (eventStep cfg sh (.deliver ⟨.stale s, due⟩, io)).log = added ++ sh.log ∧
      ∀ w ∈ added, w.session = s ∧ w.value = clampMin (w.view.maxMin cfg (w.view.othersOf s w.tid)) := by
  intro sh
  unfold eventStep
  split
  · rename_i enabled
    have kept (sh : Shared) (e : Event × (Nat → Outcome)) (armed : sh.Armed cfg s)
        (keeps : e.1.KeepsTimer cfg s sh.toView) : (eventStep cfg sh e).Armed cfg s := eventStep_armed e armed keeps
    have armed : sh.Armed cfg s := Runs.foldl_inv kept (View.sure_of_none rfl).armed keeps
    have here : (⟨.stale s, due⟩ : Message) ∈ sh.queue := (of_decide_eq_true enabled).1
    have sure := (mild_begin sh.toView (.deliver ⟨.stale s, due⟩)).sure (armed.sure ⟨_, here, rfl⟩)
    have handled : wpCall cfg (fun _ => True) ((Event.deliver ⟨.stale s, due⟩).program cfg)
        (fun _ _ v => Adds (Write.OfOthers cfg s) sh.log v.log) 0
        (sh.lift fun v => (Event.deliver ⟨.stale s, due⟩).begin v) :=
      wp_seq (wp_handleStale_writes sure fun r _ => properAt_run cfg events r) fun _ _ _ _ written => ⟨trivial, written⟩
    obtain ⟨_, written⟩ := exec_post handled fun _ => trivial
    exact written
  · exact ⟨[], rfl, by simp⟩

theorem targetKept_of_check {cfg : AdpfConfig} {s : Sid} {v : View} {target : Int}
    (check : (v.sessions s).all (fun x => decide (x.mLastUpdatedTime +
      toInt64 (toInt64 (target * cfg.mTargetTimeFactor) * cfg.mStaleTimeFactor) ≤
        x.mStaleTimerHandler.time)) = true) : TargetKept cfg s v target := by
  intro x found _ _ _ _
  rw [found] at check
  exact of_decide_eq_true check

namespace Sample

def retargeted (target : Int) : List Event :=
  [.createHintSession 0 1 1000 [7] 10, .deliver ⟨.stale 0, 0⟩, .updateTargetWorkDuration 0 target, .tick 10]

end Sample

/- A shorter target leaves the timer late enough. -/
theorem stale_timer_writes_others_shortened :
    let sh := run Sample.cfg .start (Sample.calmly (Sample.retargeted 5))
    ∃ added, (eventStep Sample.cfg sh (.deliver ⟨.stale 0, 10⟩, Sample.calm)).log = added ++ sh.log ∧
      ∀ w ∈ added, w.session = 0 ∧ w.value = clampMin (w.view.maxMin Sample.cfg (w.view.othersOf 0 w.tid)) := by
  refine stale_timer_writes_others Sample.cfg 0 (Sample.calmly (Sample.retargeted 5)) ?_ 10 Sample.calm
  refine ⟨nofun, nofun, fun target same => ?_, nofun, trivial⟩
  cases same
  exact targetKept_of_check (by decide +kernel)

/- A longer target keeps the only session of the thread from being timed out when its timer expires:
the reset writes the session's own boost, and no message is left that would reset it later. -/
theorem stale_timer_writes_own_boost :
    let sh := run Sample.cfg .start (Sample.calmly (Sample.retargeted 1000))
    let sh' := eventStep Sample.cfg sh (.deliver ⟨.stale 0, 10⟩, Sample.calm)
    sh'.log.length = sh.log.length + 1 ∧
      sh'.log.head?.map (fun w => (w.session, w.tid, w.value)) = some (0, 7, 100) ∧
      sh'.log.head?.map (fun w => clampMin (w.view.maxMin Sample.cfg (w.view.othersOf 0 7))) = some 0 ∧
      sh'.queue = [] := by
  decide +kernel

end Pdx215.Power
