import Pdx215.Power.Grant
import Pdx215.Power.Stale

/-! Every clamp is the maximum demand on its thread when all `SetTaskProfiles` calls succeed: the
larger of what the operation asks for and of what the sessions that are created and not closed ask
for, if they are active and not timed out at that moment. -/
namespace Pdx215.Power

open Effect

/-- A session that is created and not closed, contains the thread, is active and is not timed out. -/
structure View.Asking (cfg : AdpfConfig) (v : View) (t : Tid) (x : Session) (r : Sid) : Prop where
  created : v.sessions r = some x
  unclosed : x.mSessionClosed = false
  contains : t ∈ x.threadIds
  active : x.isActive = true
  fresh : x.isTimeout cfg v.clock = false

/-- What the sessions ask for on a thread; nothing less than 0 is ever written. -/
def View.demands (cfg : AdpfConfig) (v : View) (t : Tid) : Set Int :=
  { c | c = 0 ∨ ∃ r x, v.Asking cfg t x r ∧ c = x.currentMin }

def Session.nextMin (cfg : AdpfConfig) (x : Session) (actual : List WorkDuration) : Int :=
  if cfg.mPidOn then
    max (fromUInt32 cfg.mUclampMinLow) (min (fromUInt32 cfg.mUclampMinHigh) (x.currentMin +
      toInt32 (convertWorkDurationToBoostByPid cfg x.duration actual x.integralError x.previousError).1))
  else fromUInt32 cfg.mUclampMinHigh

/-- The value that an operation asks for, for a session, as the session was before the operation. -/
def Event.requested (cfg : AdpfConfig) (v : View) (s : Sid) : Event → Int
  | .createHintSession .. => fromUInt32 cfg.mUclampMinInit
  | .reportActualWorkDuration _ actual => (v.sessions s).elim 0 fun x => x.nextMin cfg actual
  | .resume _ => v.getUclampMin s
  | .deliver ⟨.wakeup, _⟩ => max (v.getUclampMin s) (fromUInt32 cfg.mUclampMinInit)
  | .deliver ⟨.earlyBoost _, _⟩ => fromUInt32 cfg.mUclampMinHigh
  | _ => 0

namespace Roll

def Listed (ρ : Roll) : Prop := ∀ s t, s ∈ ρ.registry.mTidSessionListMap t ↔ ρ.Open s ∧ t ∈ ρ.tids s

variable {ρ : Roll} {s : Sid}

theorem listed_setActive (b : Bool) : (ρ.setActive s b).Listed ↔ ρ.Listed := by simp [Listed]

/-- Between `removePowerSession` and the end of `close`. -/
theorem Booked.listed_removed (booked : ρ.Booked) (isOpen : ρ.Open s) : ((ρ.setClosed s).remove s).Listed := by
  have closed : ¬ ((ρ.setClosed s).remove s).Open s := by simp
  have listed : (ρ.discharge s).Listed := (booked.discharge isOpen).lists
  rwa [Roll.discharge, listed_setActive, Roll.setClosed_of_not_open closed] at listed

end Roll

namespace View

variable {cfg : AdpfConfig} {v : View} {among : Finset Sid} {t : Tid} {r : Sid}

theorem maxMin_attained : v.maxMin cfg among = 0 ∨
    ∃ s ∈ among, v.counts cfg s = true ∧ v.maxMin cfg among = v.getUclampMin s := by
  have reached : v.maxMin cfg among ≤ v.maxMin cfg among := le_rfl
  nth_rewrite 2 [maxMin] at reached
  rcases Finset.le_fold_max _ |>.mp reached with small | ⟨s, here, small⟩
  · exact .inl (le_antisymm small maxMin_nonneg)
  · obtain ⟨here, counted⟩ := Finset.mem_filter.mp here
    exact .inr ⟨s, here, counted, le_antisymm small (le_maxMin here counted)⟩

theorem Asking.counts {x : Session} (asking : v.Asking cfg t x r) : v.counts cfg r = true := by
  simp [View.counts, asking.created, asking.active, asking.fresh]

theorem Asking.isOpen {x : Session} (asking : v.Asking cfg t x r) : v.roll.Open r :=
  ⟨x.core, View.roll_core asking.created, asking.unclosed⟩

theorem asking_of_counts (isOpen : v.roll.Open r) (own : t ∈ v.getTidList r) (counted : v.counts cfg r = true) :
    ∃ x, v.Asking cfg t x r := by
  obtain ⟨c, core, unclosed⟩ := isOpen
  obtain ⟨x, found, rfl⟩ := Option.map_eq_some_iff.mp core
  simp only [View.getTidList, found] at own
  simp only [View.counts, found, Bool.and_eq_true, Bool.not_eq_true'] at counted
  exact ⟨x, found, unclosed, own, counted.1, counted.2⟩

/-- With exact lists the maximum of `setUclampMinLocked` is the largest demand. -/
theorem tidMax_isGreatest (listed : v.roll.Listed) (t : Tid) : IsGreatest (v.demands cfg t) (v.tidMax cfg t) := by
  constructor
  · have attained : v.tidMax cfg t = 0 ∨ ∃ s ∈ v.registry.mTidSessionListMap t, v.counts cfg s = true ∧
        v.tidMax cfg t = v.getUclampMin s := maxMin_attained
    rcases attained with zero | ⟨r, here, counted, value⟩
    · exact .inl zero
    · obtain ⟨isOpen, own⟩ := (listed r t).mp here
      rw [View.roll_tids] at own
      obtain ⟨x, asking⟩ := asking_of_counts isOpen own counted
      refine .inr ⟨r, x, asking, value.trans ?_⟩
      simp [View.getUclampMin, asking.created]
  · rintro c (rfl | ⟨r, x, asking, rfl⟩)
    · exact maxMin_nonneg
    · have here : r ∈ v.registry.mTidSessionListMap t := by
        apply (listed r t).mpr ⟨asking.isOpen, ?_⟩
        simpa [View.getTidList, asking.created] using asking.contains
      have below : v.getUclampMin r ≤ v.tidMax cfg t := le_maxMin here asking.counts
      simpa [View.getUclampMin, asking.created] using below

end View

/-! ### What the steps of an operation write -/

/-- The write is made for the session, to one of its threads, at exact lists, and with the value that
the operation asks for. -/
structure Write.Granted (cfg : AdpfConfig) (s : Sid) (val : Int) (w : Write) : Prop where
  session : w.session = s
  own : w.tid ∈ w.view.getTidList w.session
  listed : w.view.roll.Listed
  value : w.value = clampMin (max val (w.view.tidMax cfg w.tid))

section Steps

variable {cfg : AdpfConfig} {s : Sid} {val : Int} {old : List Write} {n : Nat} {sh : Shared}

theorem Write.For.granted {ρ : Roll} {w : Write} (made : Write.For cfg ρ s val w) (listed : ρ.Listed) :
    Write.Granted cfg s val w where
  session := made.session
  own := made.session ▸ made.own
  listed := made.roll ▸ listed
  value := made.value

/-- The steps of an operation that asks for one value, except for those at which the lists change. -/
def Act.Asks (s : Sid) (val : Int) : Act → Prop
  | .setUclampMin r v => r = s ∧ v = val
  | .now | .look _ | .sendMessage _ | .repost _ _ | .staleDead _ | .earlyBoostDead _ => True
  | .store _ x => x ≠ .closed
  | _ => False

/-- The lists are exact, and what was written since is what was asked for. -/
def AskedSince (cfg : AdpfConfig) (s : Sid) (val : Int) (old : List Write) (sh : Shared) : Prop :=
  sh.roll.Listed ∧ Adds (Write.Granted cfg s val) old sh.log

theorem perform_asks {a : Act} (asks : a.Asks s val) (o : Outcome) (since : AskedSince cfg s val old sh) :
    AskedSince cfg s val old (perform cfg a o sh).2 := by
  obtain ⟨listed, adds⟩ := since
  constructor
  · rw [perform_roll]
    cases a
    case store r x =>
      cases x
      case isActive b => exact (Roll.listed_setActive b).mpr listed
      case closed => exact absurd rfl asks
      all_goals exact listed
    case construct | compareExchangeClosed | addPowerSession | removePowerSession => exact asks.elim
    all_goals exact listed
  · cases a
    case setUclampMin r v =>
      obtain ⟨rfl, rfl⟩ := asks
      exact adds.trans ((setUclampMinLocked_for cfg r v (sh.wait o.elapsed)).mono fun w made => made.granted listed)
    case earlyBoost | wakeSessions => exact asks.elim
    all_goals exact adds

theorem wp_asks {α : Type} {fits : Nat → Outcome → Prop} {p : Call α} (all : p.All (Act.Asks s val))
    (since : AskedSince cfg s val old sh) :
    wp (perform cfg) fits (fun _ => True) p (fun _ _ v => AskedSince cfg s val old v) n sh :=
  wp_all all (fun _ _ => trivial) (fun _ asks _ o _ _ now => perform_asks asks o now) since

theorem asks_updateUniveralBoostMode : (updateUniveralBoostMode s).All (Act.Asks s val) :=
  all_load trivial fun _ => all_perhaps (all_act trivial)

theorem asks_updateStaleTimerTo (t : Int) : (updateStaleTimerTo s t).All (Act.Asks s val) :=
  ⟨nofun, fun _ => ⟨trivial, fun _ => all_act nofun⟩⟩

theorem asks_setSessionUclampMin : (setSessionUclampMin cfg s val).All (Act.Asks s val) := by
  have timed : (updateStaleTimer cfg s).All (Act.Asks s val) :=
    ⟨trivial, fun _ => all_load trivial fun _ => asks_updateStaleTimerTo _⟩
  exact ⟨nofun, fun _ => (all_perhaps timed).bind fun _ => all_act ⟨rfl, rfl⟩⟩

theorem asks_setStale : (setStale s).All (Act.Asks s 0) := ⟨⟨rfl, rfl⟩, fun _ => asks_updateUniveralBoostMode⟩

theorem asks_pause : (pause s).All (Act.Asks s 0) := by
  refine all_load trivial fun x => ?_
  split
  · trivial
  · refine all_load trivial fun x => ?_
    split
    · trivial
    · refine ⟨nofun, fun _ => asks_setStale.bind fun _ => ?_⟩
      exact asks_updateUniveralBoostMode.bind fun _ => trivial

theorem asks_handleStale : (handleStale s).All (Act.Asks s 0) := by
  refine all_load trivial fun x => ?_
  split
  · trivial
  · refine ⟨trivial, fun (now : Int) => all_load trivial fun x => ?_⟩
    split
    · exact all_act trivial
    · exact asks_setStale.bind fun _ => all_act nofun

theorem asks_updateTargetWorkDuration (target : Int) :
    (updateTargetWorkDuration cfg s target).All (Act.Asks s val) := by
  refine all_load trivial fun x => ?_
  split
  · trivial
  · split
    · trivial
    · exact ⟨nofun, fun _ => trivial⟩

end Steps

/-! ### Operations that read the value they ask for -/

/-- Nothing is written yet, and what matters of the session is as it was. -/
structure Ready {β : Type} (f : Session → β) (s : Sid) (b : β) (old : List Write) (sh : Shared) : Prop where
  listed : sh.roll.Listed
  log : sh.log = old
  same : ∀ x, sh.sessions s = some x → f x = b

/-- The steps that leave that part of the session alone and write nothing. -/
def Act.Leaves {β : Type} (f : Session → β) (s : Sid) : Act → Prop
  | .now | .look _ | .sendMessage _ => True
  | .store r x => r = s ∧ x ≠ .closed ∧ ∀ y, f (x.apply y) = f y
  | _ => False

section Loads

variable {cfg : AdpfConfig} {s : Sid} {val : Int} {old : List Write} {n : Nat} {sh : Shared} {β : Type}
  {f : Session → β} {b : β}

theorem Ready.since (ready : Ready f s b old sh) : AskedSince cfg s val old sh :=
  ⟨ready.listed, ready.log ▸ .refl _⟩

theorem perform_leaves {a : Act} (leaves : a.Leaves f s) (o : Outcome) (ready : Ready f s b old sh) :
    Ready f s b old (perform cfg a o sh).2 := by
  cases a
  case store r x =>
    obtain ⟨rfl, unclosed, same⟩ := leaves
    have since : AskedSince cfg r 0 old (perform cfg (.store r x) o sh).2 :=
      perform_asks (a := .store r x) unclosed o ready.since
    refine ⟨since.1, ready.log, fun y' found => ?_⟩
    obtain ⟨y, was, rfl⟩ := View.modify_some found
    exact (same y).trans (ready.same y was)
  case now | look | sendMessage => exact ⟨ready.listed, ready.log, ready.same⟩
  all_goals exact leaves.elim

theorem wp_leaves {α : Type} {p : Call α} (all : p.All (Act.Leaves f s)) (ready : Ready f s b old sh) :
    wpCall cfg (fun _ => True) p (fun _ _ v => Ready f s b old v) n sh :=
  wp_all all (fun _ _ => trivial) (fun _ leaves _ o _ _ now => perform_leaves leaves o now) ready

theorem leaves_updateUniveralBoostMode : (updateUniveralBoostMode s).All (Act.Leaves f s) :=
  all_load trivial fun _ => all_perhaps (all_act trivial)

theorem Ready.wait (ready : Ready f s b old sh) (e : Nat) : Ready f s b old (sh.wait e) :=
  ⟨ready.listed, ready.log, ready.same⟩

theorem wp_ready {k : Session → Call Unit} (ready : Ready f s b old sh)
    (rest : ∀ x m v, f x = b → Ready f s b old v →
      wpCall cfg (fun _ => True) (k x) (fun _ _ v => AskedSince cfg s val old v) m v) :
    wpCall cfg (fun _ => True) (load () s k) (fun _ _ v => AskedSince cfg s val old v) n sh := by
  apply wp_look
  · intro e _
    exact (ready.wait e).since
  · intro x e found
    exact rest x _ _ (ready.same x found) (ready.wait e)

theorem wp_resume_asked (ready : Ready Session.currentMin s val old sh) :
    wpCall cfg (fun _ => True) (resume cfg s) (fun _ _ v => AskedSince cfg s val old v) n sh := by
  refine wp_look (fun e _ => (ready.wait e).since) fun x e _ => ?_
  have ready := ready.wait e
  refine wp_ite (fun _ => ⟨trivial, ready.since⟩) fun _ => ?_
  refine wp_look (fun e _ => (ready.wait e).since) fun x e _ => ?_
  have ready := ready.wait e
  refine wp_ite (fun _ => ⟨trivial, ready.since⟩) fun _ => ?_
  have stored : (act (.store s (.isActive true))).All (Act.Leaves Session.currentMin s) :=
    all_act ⟨rfl, nofun, fun _ => rfl⟩
  refine wp_seq (wp_leaves stored ready) fun _ m v _ ready => ?_
  have set : wpCall cfg (fun _ => True) (load () s fun x => setSessionUclampMin cfg s x.currentMin)
      (fun _ _ v => AskedSince cfg s val old v) m v := by
    apply wp_ready ready
    intro x m v same ready
    rw [same]
    exact wp_asks asks_setSessionUclampMin ready.since
  refine wp_seq set fun _ m v _ since => ?_
  refine wp_seq (wp_asks asks_updateUniveralBoostMode since) fun _ m v _ since => ?_
  exact ⟨trivial, since⟩

def Session.pidInput (x : Session) : Int × Int × Int × Int :=
  (x.currentMin, x.duration, x.integralError, x.previousError)

theorem wp_reportByPid_asked {x : Session} {actual : List WorkDuration} (on : cfg.mPidOn = true)
    (ready : Ready Session.pidInput s x.pidInput old sh) :
    wpCall cfg (fun _ => True) (reportByPid cfg s actual)
      (fun _ _ v => AskedSince cfg s (x.nextMin cfg actual) old v) n sh := by
  apply wp_ready ready
  intro y m v same ready
  simp only [Session.pidInput, Prod.mk.injEq] at same
  obtain ⟨-, duration, integral, previous⟩ := same
  rw [duration, integral, previous]
  have mins : Ready Session.currentMin s x.currentMin old v :=
    ⟨ready.listed, ready.log, fun y found => congrArg Prod.fst (ready.same y found)⟩
  refine wp_seq (wp_leaves (all_act ⟨rfl, nofun, fun _ => rfl⟩) mins) fun _ m v _ ready => ?_
  have set : wpCall cfg (fun _ => True) (load () s fun y => setSessionUclampMin cfg s
      (max (fromUInt32 cfg.mUclampMinLow) (min (fromUInt32 cfg.mUclampMinHigh) (y.currentMin +
        toInt32 (convertWorkDurationToBoostByPid cfg x.duration actual x.integralError x.previousError).1))))
      (fun _ _ v => AskedSince cfg s (x.nextMin cfg actual) old v) m v := by
    apply wp_ready ready
    intro y m v same ready
    have value : x.nextMin cfg actual =
        max (fromUInt32 cfg.mUclampMinLow) (min (fromUInt32 cfg.mUclampMinHigh) (y.currentMin +
          toInt32 (convertWorkDurationToBoostByPid cfg x.duration actual x.integralError x.previousError).1)) := by
      rw [Session.nextMin, if_pos on, same]
    rw [← value]
    exact wp_asks asks_setSessionUclampMin ready.since
  refine wp_seq set fun _ m v _ since => ?_
  have early : (updateEarlyBoost cfg s actual).All (Act.Asks s (x.nextMin cfg actual)) :=
    ⟨nofun, fun _ => all_load trivial fun _ => ⟨nofun, fun _ => ⟨trivial, fun _ => all_act nofun⟩⟩⟩
  refine wp_asks (Prog.All.bind ?_ fun _ => all_perhaps early) since
  exact all_load trivial fun _ => asks_updateStaleTimerTo _

theorem wp_acceptReport_asked {x : Session} {actual : List WorkDuration}
    (ready : Ready Session.pidInput s x.pidInput old sh) :
    wpCall cfg (fun _ => True) (acceptReport cfg s actual)
      (fun _ _ v => AskedSince cfg s (x.nextMin cfg actual) old v) n sh := by
  refine wp_seq (wp_leaves (all_act ⟨rfl, nofun, fun _ => rfl⟩) ready) fun _ m v _ ready => ?_
  refine wp_readClock fun e => wp_ready (ready.wait e) fun y m v same ready => ?_
  have updated : (readClock fun updated => act (.store s (.lastUpdatedTime updated))).All
      (Act.Leaves Session.pidInput s) := ⟨trivial, fun _ => all_act ⟨rfl, nofun, fun _ => rfl⟩⟩
  refine wp_seq (wp_leaves updated ready) fun _ m v _ ready => ?_
  refine wp_seq (wp_leaves (all_perhaps leaves_updateUniveralBoostMode) ready) fun _ m v _ ready => ?_
  refine wp_ite (fun on => wp_reportByPid_asked on ready) fun off => ?_
  have value : x.nextMin cfg actual = fromUInt32 cfg.mUclampMinHigh := if_neg off
  rw [value]
  exact wp_asks asks_setSessionUclampMin ready.since

theorem wp_report_asked {x : Session} {actual : List WorkDuration}
    (ready : Ready Session.pidInput s x.pidInput old sh) :
    wpCall cfg (fun _ => True) (reportActualWorkDuration cfg s actual)
      (fun _ _ v => AskedSince cfg s (x.nextMin cfg actual) old v) n sh := by
  refine wp_look (fun e _ => (ready.wait e).since) fun _ e _ => ?_
  have ready := ready.wait e
  refine wp_ite (fun _ => ⟨trivial, ready.since⟩) fun _ => ?_
  refine wp_look (fun e _ => (ready.wait e).since) fun _ e _ => ?_
  have ready := ready.wait e
  refine wp_ite (fun _ => ⟨trivial, ready.since⟩) fun _ => wp_ite (fun _ => ⟨trivial, ready.since⟩) fun _ => ?_
  refine wp_look (fun e _ => (ready.wait e).since) fun _ e _ => ?_
  have ready := ready.wait e
  refine wp_ite (fun _ => ⟨trivial, ready.since⟩) fun _ => ?_
  exact wp_seq (wp_acceptReport_asked ready) fun _ m v _ since => ⟨trivial, since⟩

end Loads

/-! ### Creation, closing and waking -/

section Lists

variable {cfg : AdpfConfig} {s : Sid} {old : List Write} {ρ : Roll} {n : Nat} {sh : Shared}

theorem wp_act_silent {a : Act} (silent : a.Silent cfg) (now : sh.roll = ρ) (log : sh.log = old) :
    wpCall cfg Applied (act a)
      (fun _ _ v => (∃ applied, Applied applied ∧ v.roll = a.onRoll applied ρ) ∧ v.log = old) n sh :=
  ⟨trivial, fun o fit => ⟨trivial, ⟨o.applied, fit, by rw [perform_roll, now]⟩, (silent o sh).trans log⟩⟩

theorem wp_create_asked (tgid uid : Int) (threadIds : List Tid) (durationNanos : Int) (booked : ρ.Booked)
    (new : ρ.core s = none) (now : sh.roll = ρ) (log : sh.log = old) :
    wpCall cfg Applied (createHintSession cfg s tgid uid threadIds durationNanos)
      (fun _ _ v => Adds (Write.Granted cfg s (fromUInt32 cfg.mUclampMinInit)) old v.log) n sh := by
  refine wp_ite (fun _ => ⟨trivial, log ▸ .refl _⟩) fun _ => wp_ite (fun _ => ⟨trivial, log ▸ .refl _⟩) fun _ => ?_
  refine wp_seq ?_ fun _ m v _ since => ⟨trivial, since⟩
  refine wp_seq (wp_act_silent (fun _ _ => rfl) now log) fun _ m v _ made => ?_
  obtain ⟨⟨_, _, made⟩, log⟩ := made
  have timed {k : Int → Store} (plain : ∀ t, (Act.store s (k t)).Plain) {m : Nat} {v : Shared} {ρ : Roll}
      (now : v.roll = ρ) (log : v.log = old) :
      wpCall cfg Applied (readClock fun t => act (.store s (k t))) (fun _ _ v => v.roll = ρ ∧ v.log = old) m v := by
    refine ⟨trivial, fun o _ => wp_mono (wp_act_silent (fun _ _ => rfl) now log) ?_⟩
    rintro _ m v _ ⟨⟨applied, _, stored⟩, log⟩
    exact ⟨stored.trans (plain _ applied ρ), log⟩
  refine wp_seq (timed (k := .lastUpdatedTime) (fun _ _ _ => rfl) made log) fun _ m v _ same => ?_
  refine wp_seq (timed (k := fun t => .lastStartedTime (t - durationNanos)) (fun _ _ _ => rfl) same.1 same.2)
    fun _ m v _ same => ?_
  refine wp_seq (wp_act_silent (fun _ _ => rfl) same.1 same.2) fun _ m v _ added => ?_
  obtain ⟨⟨applied, fit, added⟩, log⟩ := added
  have listed : v.roll.Listed := added ▸ (booked.enlist threadIds new fit).lists
  exact wp_mono (wp_asks asks_setSessionUclampMin ⟨listed, log ▸ .refl _⟩) fun _ _ _ _ since => since.2

theorem silent_closeHandlers : (closeHandlers s).All (Act.Silent cfg) := by
  refine ⟨fun _ _ => rfl, fun _ => ⟨fun _ _ => rfl, fun _ => ⟨fun _ _ => rfl, fun _ => ⟨fun _ _ => rfl, fun _ => ?_⟩⟩⟩⟩
  exact (all_load (fun _ _ => rfl) fun _ => all_perhaps (all_act fun _ _ => rfl)).bind fun _ => trivial

theorem wp_close_asked (booked : ρ.Booked) (now : sh.roll = ρ) (log : sh.log = old) :
    wpCall cfg Applied (close cfg s) (fun _ _ v => Adds (Write.Granted cfg s 0) old v.log) n sh := by
  refine ⟨trivial, fun o _ => ?_⟩
  have marked : (perform cfg (.compareExchangeClosed s) o sh).2.roll = ρ.setClosed s := by
    rw [perform_roll, now]
    rfl
  change wpCall cfg Applied (if ((sh.wait o.elapsed).sessions s).any (fun x => !x.mSessionClosed) = true
    then closeExchanged cfg s else .ret .illegalState) _ _ _
  refine wp_ite (fun exchanged => ?_) fun _ => ⟨trivial, log ▸ .refl _⟩
  have isOpen : ρ.Open s := now ▸ (View.open_iff (sh.wait o.elapsed).toView).mpr exchanged
  refine wp_seq (wp_act_silent (fun _ _ => rfl) marked log) fun _ m v _ removed => ?_
  obtain ⟨⟨_, _, removed⟩, log⟩ := removed
  have listed : v.roll.Listed := removed ▸ booked.listed_removed isOpen
  have since : AskedSince cfg s 0 old v := ⟨listed, log ▸ .refl _⟩
  refine wp_seq (wp_asks asks_setSessionUclampMin since) fun _ m v _ since => ?_
  exact wp_all silent_closeHandlers (fun _ _ => trivial) (fun _ silent _ o w _ adds => silent o w ▸ adds) since.2

end Lists

section Operations

variable {cfg : AdpfConfig} {sh : Shared} {n : Nat}

def Event.Grants (cfg : AdpfConfig) (v : View) (e : Event) (w : Write) : Prop :=
  (∀ r, e.session = some r → w.session = r) ∧ Write.Granted cfg w.session (e.requested cfg v w.session) w

theorem Write.Granted.grants {v : View} {e : Event} {s : Sid} {val : Int} {w : Write}
    (granted : Write.Granted cfg s val w) (mine : e.session = some s) (value : e.requested cfg v s = val) :
    e.Grants cfg v w := by
  obtain rfl := granted.session
  exact ⟨fun r same => Option.some.inj (mine.symm.trans same), value ▸ granted⟩

theorem wp_operation (e : Event) (enabled : e.enabled sh.toView = true) (booked : sh.roll.Booked) :
    wpCall cfg Applied (e.program cfg) (fun _ _ v => Adds (e.Grants cfg sh.toView) sh.log v.log) n
      (sh.lift fun v => e.begin v) := by
  have listed : sh.roll.Listed := booked.lists
  have done {s : Sid} {val : Int} {p : Call Status} {v₀ : Shared} (mine : e.session = some s)
      (value : e.requested cfg sh.toView s = val)
      (h : wpCall cfg Applied p (fun _ _ v => Adds (Write.Granted cfg s val) sh.log v.log) n v₀) :
      wpCall cfg Applied p (fun _ _ v => Adds (e.Grants cfg sh.toView) sh.log v.log) n v₀ :=
    wp_mono h fun _ _ _ _ adds => adds.mono fun _ granted => granted.grants mine value
  have asked {s : Sid} {val : Int} {p : Call Status} (mine : e.session = some s)
      (value : e.requested cfg sh.toView s = val) (all : p.All (Act.Asks s val)) :
      wpCall cfg Applied p (fun _ _ v => Adds (e.Grants cfg sh.toView) sh.log v.log) n
        (sh.lift fun v => e.begin v) := by
    have since : AskedSince cfg s val sh.log (sh.lift fun v => e.begin v) := by
      refine ⟨?_, .refl _⟩
      cases e <;> exact listed
    exact done mine value (wp_mono (wp_asks all since) fun _ _ _ _ since => since.2)
  cases e with
  | createHintSession s tgid uid threadIds durationNanos =>
    have new : sh.roll.core s = none := by simpa [Event.enabled, View.roll] using enabled
    exact done rfl rfl (wp_create_asked tgid uid threadIds durationNanos booked new rfl rfl)
  | close s => exact done rfl rfl (wp_close_asked booked rfl rfl)
  | destroy s =>
    refine done rfl rfl (wp_seq (wp_close_asked booked rfl rfl) fun _ m v _ adds => ?_)
    exact ⟨trivial, fun o _ => ⟨trivial, adds⟩⟩
  | pause s => exact asked rfl rfl asks_pause
  | resume s =>
    have ready : Ready Session.currentMin s (sh.getUclampMin s) sh.log sh :=
      ⟨listed, rfl, fun x found => by simp [View.getUclampMin, found]⟩
    exact done rfl rfl (wp_allow (wp_mono (wp_resume_asked ready) fun _ _ _ _ since => since.2) fun _ _ _ => trivial)
  | updateTargetWorkDuration s target => exact asked rfl rfl (asks_updateTargetWorkDuration target)
  | reportActualWorkDuration s actual =>
    obtain ⟨x, found, -⟩ := (Option.any_eq_true _ _).mp (show Event.live sh.toView s = true from enabled)
    have value : (Event.reportActualWorkDuration s actual).requested cfg sh.toView s = x.nextMin cfg actual := by
      simp [Event.requested, found]
    have ready : Ready Session.pidInput s x.pidInput sh.log sh :=
      ⟨listed, rfl, fun y here => by rw [Option.some.inj (here.symm.trans found)]⟩
    exact done rfl value (wp_allow (wp_mono (wp_report_asked ready) fun _ _ _ _ since => since.2) fun _ _ _ => trivial)
  | displayUpdate => exact ⟨trivial, fun o _ => ⟨trivial, .refl _⟩⟩
  | deliver m =>
    obtain ⟨h, due⟩ := m
    cases h with
    | stale s => exact asked rfl rfl (asks_handleStale.bind fun _ => trivial)
    | earlyBoost s =>
      refine done rfl rfl ⟨trivial, fun o _ => ⟨trivial, ?_⟩⟩
      exact (earlyBoost_for cfg s ((sh.lift fun v => (Event.deliver ⟨.earlyBoost s, due⟩).begin v).wait o.elapsed)).mono
        fun w made => made.granted listed
    | manager => exact ⟨trivial, fun o _ => ⟨trivial, .refl _⟩⟩
    | wakeup =>
      refine ⟨trivial, fun o _ => ⟨trivial, ?_⟩⟩
      exact (perform_for cfg .wakeSessions o (sh.lift fun v => (Event.deliver ⟨.wakeup, due⟩).begin v)).mono
        fun w made => ⟨by rintro _ ⟨⟩, made.granted listed⟩
  | tick elapsed => exact ⟨trivial, .refl _⟩

end Operations

/-- Every clamp that an operation writes after a run in which all profile calls succeed. -/
theorem clamp_is_max_demand (cfg : AdpfConfig) (events : List (Event × (Nat → Outcome)))
    (succeeds : ∀ e ∈ events, ∀ n i, (e.2 n).applied i = true) (e : Event) (io : Nat → Outcome)
    (succeeds_now : ∀ n i, (io n).applied i = true) :
    let sh := run cfg .start events
    ∃ added, (eventStep cfg sh (e, io)).log = added ++ sh.log ∧ ∀ w ∈ added,
      (∀ r, e.session = some r → w.session = r) ∧ w.tid ∈ w.view.getTidList w.session ∧
        ∃ m, IsGreatest (w.view.demands cfg w.tid) m ∧
          w.value = min 1024 (max 0 (max (e.requested cfg sh.toView w.session) m)) ∧
          ∀ r x, w.view.Asking cfg w.tid x r → min 1024 (max 0 x.currentMin) ≤ w.value := by
  intro sh
  have booked : sh.roll.Booked :=
    run_roll Roll.Booked (fun _ _ => Roll.Booked.step) cfg events succeeds .start Roll.booked_empty
  have operated : Adds (e.Grants cfg sh.toView) sh.log (eventStep cfg sh (e, io)).log := by
    unfold eventStep
    split
    · rename_i enabled
      obtain ⟨_, adds⟩ := exec_post (wp_operation (n := 0) e enabled booked) succeeds_now
      exact adds
    · exact .refl _
  obtain ⟨added, grown, good⟩ := operated
  refine ⟨added, grown, fun w here => ?_⟩
  obtain ⟨mine, granted⟩ := good w here
  have greatest : IsGreatest (w.view.demands cfg w.tid) (w.view.tidMax cfg w.tid) :=
    View.tidMax_isGreatest granted.listed w.tid
  have value : w.value = min 1024 (max 0 (max (e.requested cfg sh.toView w.session) (w.view.tidMax cfg w.tid))) := by
    rw [granted.value, clampMin, min_comm]
  refine ⟨mine, granted.own, w.view.tidMax cfg w.tid, greatest, value, fun r x asking => ?_⟩
  have below : x.currentMin ≤ w.view.tidMax cfg w.tid := greatest.2 (.inr ⟨r, x, asking, rfl⟩)
  rw [value]
  omega

/- Pausing one of two sessions of a thread, after the other has asked for 300. -/
theorem clamp_is_max_demand_pair :
    let sh := run Sample.cfg .start (Sample.calmly Sample.pair)
    ∃ added, (eventStep Sample.cfg sh (.pause 1, Sample.calm)).log = added ++ sh.log ∧ ∀ w ∈ added,
      (∀ r, (Event.pause 1).session = some r → w.session = r) ∧ w.tid ∈ w.view.getTidList w.session ∧
        ∃ m, IsGreatest (w.view.demands Sample.cfg w.tid) m ∧
          w.value = min 1024 (max 0 (max ((Event.pause 1).requested Sample.cfg sh.toView w.session) m)) ∧
          ∀ r x, w.view.Asking Sample.cfg w.tid x r → min 1024 (max 0 x.currentMin) ≤ w.value := by
  apply clamp_is_max_demand Sample.cfg (Sample.calmly Sample.pair)
  · intro e here
    obtain ⟨_, _, rfl⟩ := List.mem_map.mp here
    exact fun _ _ => rfl
  · exact fun _ _ => rfl

example : ((eventStep Sample.cfg (run Sample.cfg .start (Sample.calmly Sample.pair))
      (.pause 1, Sample.calm)).log.head?.map
    fun w => (w.session, w.tid, w.value)) = some (1, 7, 300) := by
  decide +kernel

end Pdx215.Power
