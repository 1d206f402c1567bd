import Pdx215.Power.Crew
import Pdx215.Power.Demand

/-! The values that the profile of the service leaves possible. A session asks for nothing, for one of the
values that the profile names, or for what its controller finds within the profile's range, and no
interleaving of the threads lets another value through to a thread of an application. -/
namespace Pdx215.Power

open Effect

structure AdpfConfig.Range where
  low : Int
  high : Int
  init : Int

def AdpfConfig.range (cfg : AdpfConfig) : AdpfConfig.Range :=
  ⟨fromUInt32 cfg.mUclampMinLow, fromUInt32 cfg.mUclampMinHigh, fromUInt32 cfg.mUclampMinInit⟩

/-- The lower end is applied last, so it wins where the profile has its ends the wrong way round. -/
def AdpfConfig.Offers (cfg : AdpfConfig) (v : Int) : Prop :=
  v = 0 ∨ v = cfg.range.init ∨ v = cfg.range.high ∨
    cfg.range.low ≤ v ∧ v ≤ max cfg.range.low cfg.range.high

namespace AdpfConfig

variable {cfg : AdpfConfig}

theorem offers_zero : cfg.Offers 0 := .inl rfl

theorem offers_init : cfg.Offers (fromUInt32 cfg.mUclampMinInit) := .inr (.inl rfl)

theorem offers_high : cfg.Offers (fromUInt32 cfg.mUclampMinHigh) := .inr (.inr (.inl rfl))

theorem offers_clamped (v : Int) :
    cfg.Offers (max (fromUInt32 cfg.mUclampMinLow) (min (fromUInt32 cfg.mUclampMinHigh) v)) :=
  .inr (.inr (.inr ⟨le_max_left _ _, max_le_max le_rfl (min_le_left _ _)⟩))

theorem Offers.max {a b : Int} (first : cfg.Offers a) (second : cfg.Offers b) : cfg.Offers (max a b) := by
  rcases max_choice a b with same | same
  · rwa [same]
  · rwa [same]

theorem Offers.le {v : Int} (offers : cfg.Offers v) :
    v ≤ Max.max 0 (Max.max cfg.range.init (Max.max cfg.range.low cfg.range.high)) := by
  rcases offers with same | same | same | ⟨_, below⟩ <;> omega

end AdpfConfig

structure Shared.Within (cfg : AdpfConfig) (sh : Shared) : Prop where
  sessions : ∀ s x, sh.sessions s = some x → cfg.Offers x.currentMin
  written : ∀ w ∈ sh.log, ∃ v, cfg.Offers v ∧ w.value = clampMin v

section Steps

variable {cfg : AdpfConfig} {sh : Shared} {s : Sid}

theorem Shared.Within.getUclampMin (within : sh.Within cfg) (s : Sid) : cfg.Offers (sh.getUclampMin s) := by
  unfold View.getUclampMin
  split
  · exact AdpfConfig.offers_zero
  · rename_i x found
    exact within.sessions s x found

theorem Shared.Within.tidMax (within : sh.Within cfg) (t : Tid) : cfg.Offers (sh.tidMax cfg t) := by
  unfold View.tidMax
  rcases View.maxMin_attained with nothing | ⟨s, -, -, same⟩
  · rw [nothing]
    exact AdpfConfig.offers_zero
  · rw [same]
    exact within.getUclampMin s

theorem Shared.Within.setUclampMinLocked (within : sh.Within cfg) {val : Int} (offers : cfg.Offers val) :
    (sh.setUclampMinLocked cfg s val).Within cfg := by
  refine ⟨fun r x found => ?_, fun w here => ?_⟩
  · rw [Shared.setUclampMinLocked_toView] at found
    exact within.sessions r x found
  · obtain ⟨added, grown, made⟩ := setUclampMinLocked_adds cfg s val sh
    rw [grown] at here
    rcases List.mem_append.mp here with new | old
    · exact ⟨_, offers.max (within.tidMax w.tid), (made w new).2.2.2⟩
    · exact within.written w old

theorem Shared.Within.modify (within : sh.Within cfg) {f : Session → Session}
    (kept : ∀ x, cfg.Offers x.currentMin → cfg.Offers (f x).currentMin) :
    (sh.lift fun v => v.modify s f).Within cfg := by
  refine ⟨fun r x found => ?_, within.written⟩
  by_cases same : r = s
  · subst same
    obtain ⟨y, was, rfl⟩ := View.modify_some found
    exact kept y (within.sessions r y was)
  · exact within.sessions r x (by simpa [View.modify, same] using found)

theorem updateWorkPeriod_currentMin (actual : List WorkDuration) (x : Session) :
    (x.updateWorkPeriod actual).currentMin = x.currentMin := by
  unfold Session.updateWorkPeriod
  split <;> rfl

def Act.Modest (cfg : AdpfConfig) : Act → Prop
  | .store _ (.currentMin v) | .setUclampMin _ v => cfg.Offers v
  | _ => True

theorem Shared.Within.store (within : sh.Within cfg) {x : Store} (modest : (Act.store s x).Modest cfg) :
    (sh.store s x).Within cfg := by
  refine within.modify fun y offers => ?_
  cases x with
  | currentMin v => exact modest
  | workPeriod actual =>
    change cfg.Offers (y.updateWorkPeriod actual).currentMin
    rwa [updateWorkPeriod_currentMin]
  | _ => exact offers

theorem Shared.Within.lift (within : sh.Within cfg) {f : View → View} (same : (f sh.toView).sessions = sh.sessions) :
    (sh.lift f).Within cfg :=
  ⟨fun r x found => within.sessions r x (same ▸ found), within.written⟩

theorem Shared.Within.updateStaleTimer (within : sh.Within cfg) (x : Session) : (sh.updateStaleTimer cfg s x).Within cfg := by
  have timed : (sh.store s (.staleTime (sh.clock + x.stalePeriod cfg))).Within cfg := within.store trivial
  have posted := timed.lift (f := fun v => v.repost (.stale s) 0) rfl
  exact posted.store trivial

theorem Shared.Within.wakeup (within : sh.Within cfg) (s : Sid) : (sh.wakeup cfg s).Within cfg := by
  unfold Shared.wakeup
  split
  · exact within
  · rename_i x found
    split
    · exact within
    · have offers : cfg.Offers (max x.currentMin (fromUInt32 cfg.mUclampMinInit)) :=
        (within.sessions s x found).max AdpfConfig.offers_init
      have stored : (sh.store s (.currentMin _)).Within cfg := within.store offers
      exact (stored.setUclampMinLocked offers).updateStaleTimer x

theorem Shared.Within.wakeups (order : List Sid) (within : sh.Within cfg) :
    (order.foldl (Shared.wakeup cfg) sh).Within cfg := by
  induction order generalizing sh with
  | nil => exact within
  | cons s order ih => exact ih (within.wakeup s)

theorem Shared.Within.earlyBoost (within : sh.Within cfg) : (sh.earlyBoost cfg s).Within cfg := by
  unfold Shared.earlyBoost
  split
  · exact within
  · split
    · exact within
    · split
      · exact within.lift rfl
      · exact (within.setUclampMinLocked AdpfConfig.offers_high).store trivial

theorem Shared.Within.perform (within : sh.Within cfg) {a : Act} (modest : a.Modest cfg) (o : Outcome) :
    (perform cfg a o sh).2.Within cfg := by
  have waited : (sh.wait o.elapsed).Within cfg := within.lift rfl
  cases a with
  | now => exact waited
  | look s => exact waited
  | construct s tgid uid threadIds durationNanos =>
    refine ⟨fun r x found => ?_, within.written⟩
    change Function.update sh.sessions s _ r = some x at found
    by_cases same : r = s
    · subst same
      rw [Function.update_self] at found
      cases found
      exact AdpfConfig.offers_zero
    · rw [Function.update_of_ne same] at found
      exact within.sessions r x found
  | store s x => exact waited.store modest
  | compareExchangeClosed s => exact waited.store (x := .closed) trivial
  | sendMessage h => exact waited.lift (f := fun v => v.sendMessageDelayed h 0) rfl
  | repost h delay => exact waited.lift (f := fun v => v.repost h delay) rfl
  | staleDead s =>
    have dead := waited.modify (s := s) (f := fun x => { x with mStaleTimerHandler.mIsSessionDead := true }) fun _ offers => offers
    exact dead.lift (f := fun v => v.removeMessages (.stale s)) rfl
  | earlyBoostDead s =>
    have dead := waited.modify (s := s) (f := fun x => { x with mEarlyBoostHandler.mIsSessionDead := true }) fun _ offers => offers
    exact dead.lift (f := fun v => v.removeMessages (.earlyBoost s)) rfl
  | earlyBoost s => exact waited.earlyBoost
  | addPowerSession s => exact waited.lift (f := fun v => v.addPowerSession s o.applied) rfl
  | removePowerSession s => exact waited.lift (f := fun v => v.removePowerSession s) rfl
  | setUclampMin s val => exact waited.setUclampMinLocked modest
  | wakeSessions => exact waited.wakeups _
  | isAnyAppSessionActive =>
    exact waited.lift (f := fun v => { v with mActive := Shared.anyAppSessionActive cfg v }) rfl

end Steps

/-! ### What the programs ask for -/

/-- A value that was read from a session is one that the session had. -/
def AdpfConfig.discipline (cfg : AdpfConfig) : Discipline Act Reply Unit where
  permits _ a := a.Modest cfg
  fits
    | .look _, (r : Option Session) => ∀ x, r = some x → cfg.Offers x.currentMin
    | _, _ => True
  after _ _ _ := ()

abbrev Modest (cfg : AdpfConfig) {α : Type} (p : Call α) : Prop := cfg.discipline.Follows (fun _ => True) p ()

section Programs

variable {cfg : AdpfConfig} {s : Sid} {α β : Type}

theorem Modest.bind {p : Call α} {f : α → Call β} (first : Modest cfg p) (second : ∀ a, Modest cfg (f a)) :
    Modest cfg (p >>= f) :=
  Discipline.follows_seq first fun a _ _ => second a

theorem modest_act {a : Act} (modest : a.Modest cfg) : Modest cfg (act a) := ⟨modest, fun _ _ => trivial⟩

theorem modest_now {k : Int → Call α} (rest : ∀ t, Modest cfg (k t)) : Modest cfg (readClock k) :=
  ⟨trivial, fun t _ => rest t⟩

theorem modest_load {absent : α} {k : Session → Call α} (rest : ∀ x, cfg.Offers x.currentMin → Modest cfg (k x)) :
    Modest cfg (load absent s k) := by
  refine ⟨trivial, fun (r : Option Session) fits => ?_⟩
  cases r with
  | none => trivial
  | some x => exact rest x (fits x rfl)

theorem modest_perhaps {c : Bool} {p : Call Unit} (modest : Modest cfg p) : Modest cfg (perhaps c p) := by
  cases c with
  | false => trivial
  | true => exact modest

theorem modest_updateUniveralBoostMode : Modest cfg (updateUniveralBoostMode s) :=
  modest_load fun _ _ => modest_perhaps (modest_act trivial)

theorem modest_updateStaleTimerTo (t : Int) : Modest cfg (updateStaleTimerTo s t) :=
  Modest.bind (modest_act trivial) fun _ => Modest.bind (modest_act trivial) fun _ => modest_act trivial

theorem modest_setSessionUclampMin {v : Int} (offers : cfg.Offers v) : Modest cfg (setSessionUclampMin cfg s v) := by
  have timed : Modest cfg (updateStaleTimer cfg s) := modest_now fun _ => modest_load fun _ _ => modest_updateStaleTimerTo _
  exact Modest.bind (modest_act offers) fun _ => Modest.bind (modest_perhaps timed) fun _ => modest_act offers

theorem modest_setStale : Modest cfg (setStale s) :=
  Modest.bind (modest_act AdpfConfig.offers_zero) fun _ => modest_updateUniveralBoostMode

theorem modest_pause : Modest cfg (pause s) := by
  refine modest_load fun x _ => ?_
  split
  · trivial
  · refine modest_load fun x _ => ?_
    split
    · trivial
    · refine Modest.bind (modest_act trivial) fun _ => Modest.bind modest_setStale fun _ => ?_
      exact Modest.bind modest_updateUniveralBoostMode fun _ => trivial

theorem modest_resume : Modest cfg (resume cfg s) := by
  refine modest_load fun x _ => ?_
  split
  · trivial
  · refine modest_load fun x _ => ?_
    split
    · trivial
    · refine Modest.bind (modest_act trivial) fun _ => ?_
      refine Modest.bind (modest_load fun x offers => modest_setSessionUclampMin offers) fun _ => ?_
      exact Modest.bind modest_updateUniveralBoostMode fun _ => trivial

theorem modest_close : Modest cfg (close cfg s) := by
  refine ⟨trivial, fun (exchanged : Bool) _ => ?_⟩
  cases exchanged with
  | false => trivial
  | true =>
    refine Modest.bind (modest_act trivial) fun _ => Modest.bind (modest_setSessionUclampMin AdpfConfig.offers_zero) fun _ => ?_
    refine Modest.bind (modest_act trivial) fun _ => Modest.bind (modest_act trivial) fun _ => Modest.bind (modest_act trivial) fun _ => ?_
    exact Modest.bind (modest_act trivial) fun _ => Modest.bind modest_updateUniveralBoostMode fun _ => trivial

theorem modest_reportByPid (actual : List WorkDuration) : Modest cfg (reportByPid cfg s actual) := by
  refine modest_load fun x _ => Modest.bind (modest_act trivial) fun _ => ?_
  refine Modest.bind (modest_load fun x _ => modest_setSessionUclampMin (AdpfConfig.offers_clamped _)) fun _ => ?_
  refine Modest.bind (modest_load fun x _ => modest_updateStaleTimerTo _) fun _ => modest_perhaps ?_
  refine Modest.bind (modest_act trivial) fun _ => modest_load fun x _ => ?_
  exact Modest.bind (modest_act trivial) fun _ => Modest.bind (modest_act trivial) fun _ => modest_act trivial

theorem modest_acceptReport (actual : List WorkDuration) : Modest cfg (acceptReport cfg s actual) := by
  refine Modest.bind (modest_act trivial) fun _ => modest_now fun _ => modest_load fun x _ => ?_
  refine Modest.bind (modest_now fun _ => modest_act trivial) fun _ => ?_
  refine Modest.bind (modest_perhaps modest_updateUniveralBoostMode) fun _ => ?_
  split
  · exact modest_reportByPid actual
  · exact modest_setSessionUclampMin AdpfConfig.offers_high

theorem modest_reportActualWorkDuration (actual : List WorkDuration) :
    Modest cfg (reportActualWorkDuration cfg s actual) := by
  refine modest_load fun x _ => ?_
  split
  · trivial
  · refine modest_load fun x _ => ?_
    split
    · trivial
    · split
      · trivial
      · refine modest_load fun x _ => ?_
        split
        · trivial
        · exact Modest.bind (modest_acceptReport actual) fun _ => trivial

theorem modest_updateTargetWorkDuration (target : Int) : Modest cfg (updateTargetWorkDuration cfg s target) := by
  refine modest_load fun x _ => ?_
  split
  · trivial
  · split
    · trivial
    · exact Modest.bind (modest_act trivial) fun _ => trivial

theorem modest_createHintSession (tgid uid : Int) (threadIds : List Tid) (durationNanos : Int) :
    Modest cfg (createHintSession cfg s tgid uid threadIds durationNanos) := by
  unfold createHintSession
  split
  · trivial
  · split
    · trivial
    · refine Modest.bind (Modest.bind (modest_act trivial) fun _ => ?_) fun _ => trivial
      refine Modest.bind (modest_now fun _ => modest_act trivial) fun _ => Modest.bind (modest_now fun _ => modest_act trivial) fun _ => ?_
      exact Modest.bind (modest_act trivial) fun _ => modest_setSessionUclampMin AdpfConfig.offers_init

theorem modest_handleStale : Modest cfg (handleStale s) := by
  refine modest_load fun x _ => ?_
  split
  · trivial
  · refine modest_now fun now => modest_load fun x _ => ?_
    split
    · exact modest_act trivial
    · exact Modest.bind modest_setStale fun _ => modest_act trivial

theorem modest_program (e : Event) : Modest cfg (e.program cfg) := by
  cases e with
  | createHintSession s tgid uid threadIds durationNanos => exact modest_createHintSession tgid uid threadIds durationNanos
  | close s => exact modest_close
  | destroy s => exact Modest.bind modest_close fun _ => Modest.bind (modest_act trivial) fun _ => trivial
  | pause s => exact modest_pause
  | resume s => exact modest_resume
  | updateTargetWorkDuration s target => exact modest_updateTargetWorkDuration target
  | reportActualWorkDuration s actual => exact modest_reportActualWorkDuration actual
  | displayUpdate => exact Modest.bind (modest_act trivial) fun _ => trivial
  | deliver m =>
    refine Modest.bind ?_ fun _ => trivial
    cases m.handler with
    | stale s => exact modest_handleStale
    | earlyBoost s => exact modest_act trivial
    | manager => exact modest_act trivial
    | wakeup => exact modest_act trivial
  | tick elapsed => trivial

end Programs

theorem Crew.within {cfg : AdpfConfig} {P : Crew} (reachable : (crew cfg fun _ => True).Reachable Crew.start P) :
    P.world.Within cfg := by
  have obeys : Threads.Obeys cfg.discipline (fun sh _ => sh.Within cfg) (fun _ _ => True) (fun _ => True) P := by
    refine reachable.always (fun _ _ => Threads.obeys_step ?_ (fun _ _ _ _ _ _ => trivial) ?_) ?_
    · intro sh marks k a o _ within modest
      refine ⟨?_, within.perform modest o⟩
      cases a with
      | look s => exact fun x found => within.sessions s x found
      | _ => trivial
    · intro P marks k e within _ _ _
      refine ⟨(), ?_, trivial, modest_program e⟩
      have same : (e.begin P.world.toView).sessions = P.world.sessions := by cases e <;> rfl
      exact within.lift (f := fun v => e.begin v) same
    · refine ⟨fun _ => (), ⟨fun s x found => ?_, fun w here => ?_⟩, fun k => ⟨trivial, trivial⟩⟩
      · cases found
      · cases here
  obtain ⟨_, within, _⟩ := obeys
  exact within

/-- However the threads run and whatever the profile calls answer, what a session asks for is what the profile
offers, and so is what is written to a thread, up to the range of `sched_setattr`. -/
theorem crew_clamps_within_profile (cfg : AdpfConfig) (P : Crew)
    (reachable : (crew cfg fun _ => True).Reachable Crew.start P) :
    (∀ s x, P.world.sessions s = some x → cfg.Offers x.currentMin) ∧
      ∀ w ∈ P.world.log, (∃ v, cfg.Offers v ∧ w.value = clampMin v) ∧
        0 ≤ w.value ∧ w.value ≤ clampMin (max cfg.range.init (max cfg.range.low cfg.range.high)) := by
  have within := Crew.within reachable
  refine ⟨within.sessions, fun w here => ?_⟩
  obtain ⟨v, offers, value⟩ := within.written w here
  have below := offers.le
  refine ⟨⟨v, offers, value⟩, ?_, ?_⟩
  · rw [value]
    unfold clampMin
    omega
  · rw [value]
    unfold clampMin
    omega

/- The constructor has come to its first `setUclampMin`, with the value that the profile has for new sessions. -/
theorem crew_clamps_within_profile_created :
    ∃ w ∈ (Sample.creating (fun _ => True) 13).world.log, 0 ≤ w.value ∧
      w.value ≤ clampMin (max Sample.cfg.range.init (max Sample.cfg.range.low Sample.cfg.range.high)) := by
  obtain ⟨w, first⟩ : ∃ w, (Sample.creating (fun _ => True) 13).world.log.head? = some w := ⟨_, rfl⟩
  have written := List.mem_of_head? first
  exact ⟨w, written,
    ((crew_clamps_within_profile Sample.cfg _ (Sample.creating_reachable trivial 13)).2 w written).2⟩

end Pdx215.Power
