import Pdx215.Power.Writes

/-! A granted boost and the updates of other sessions. `wakeup` and `resume` restart the stale timer
of a session but leave `mLastUpdatedTime` alone, so that the session can be timed out for
`setUclampMinLocked` while its boost is supposed to last. -/
namespace Pdx215.Power

open Effect

theorem keeps_plain {kept : Roll → Prop} {a : Act} (plain : Act.Plain a) : a.Keeps kept :=
  fun applied ρ now => (plain applied ρ).symm ▸ now

theorem keeps_own {kept : Roll → Prop} {r : Sid} (a : Act) (own : Act.Own r a) : a.Keeps kept :=
  keeps_plain own.plain

namespace Roll

def Standing (s : Sid) (ρ : Roll) : Prop :=
  s ∈ ρ.registry.mSessions ∧ ∃ c, ρ.core s = some c ∧ c.active = true

/-- The session stands, and every session in `mSessions` is listed under its threads. -/
structure Held (s : Sid) (ρ : Roll) : Prop where
  listed : ∀ r ∈ ρ.registry.mSessions, ∀ t ∈ ρ.tids r, r ∈ ρ.registry.mTidSessionListMap t
  standing : ρ.Standing s

variable {ρ : Roll} {s r : Sid}

theorem Held.setActive (held : ρ.Held s) {b : Bool} (fine : r = s → b = true) : (ρ.setActive r b).Held s := by
  obtain ⟨listed, member, c, found, active⟩ := held
  refine ⟨fun r' here t own => listed r' here t (by simpa using own), member, ?_⟩
  by_cases same : s = r
  · subst same
    exact ⟨{ c with active := b }, by simp [Roll.setActive, found], fine rfl⟩
  · exact ⟨c, by simpa [Roll.setActive, same] using found, active⟩

theorem Held.setClosed (held : ρ.Held s) : (ρ.setClosed r).Held s := by
  obtain ⟨listed, member, c, found, active⟩ := held
  refine ⟨fun r' here t own => listed r' here t (by simpa using own), member, ?_⟩
  by_cases same : s = r
  · subst same
    exact ⟨{ c with closed := true }, by simp [Roll.setClosed, found], active⟩
  · exact ⟨c, by simpa [Roll.setClosed, same] using found, active⟩

theorem Held.add (held : ρ.Held s) (applied : Nat → Bool) : (ρ.add r applied).Held s := by
  obtain ⟨listed, member, found⟩ := held
  refine ⟨fun r' here t own => ?_, ?_, found⟩
  · rw [add_registry, Registry.mem_addPowerSession]
    rw [add_registry, Registry.addPowerSession_sessions] at here
    rcases Finset.mem_insert.mp here with rfl | here
    · exact .inl ⟨own, rfl⟩
    · exact .inr (listed r' here t own)
  · rw [add_registry, Registry.addPowerSession_sessions]
    exact Finset.mem_insert_of_mem member

theorem Held.remove (held : ρ.Held s) (other : r ≠ s) : (ρ.remove r).Held s := by
  obtain ⟨listed, member, found⟩ := held
  refine ⟨fun r' here t own => ?_, ?_, found⟩
  · rw [remove_registry, Registry.mem_removePowerSession]
    rw [remove_registry, Registry.removePowerSession_sessions] at here
    obtain ⟨apart, here⟩ := Finset.mem_erase.mp here
    exact ⟨listed r' here t own, fun _ same => absurd same apart⟩
  · rw [remove_registry, Registry.removePowerSession_sessions]
    exact Finset.mem_erase.mpr ⟨other.symm, member⟩

theorem Held.construct (held : ρ.Held s) (new : ρ.core r = none) (unknown : r ∉ ρ.registry.mSessions)
    (c : Core) : (ρ.setCore r (some c)).Held s := by
  obtain ⟨listed, member, found⟩ := held
  refine ⟨fun r' here t own => ?_, member, ?_⟩
  · have other : r' ≠ r := fun same => unknown (same ▸ here)
    rw [tids_setCore_ne _ other] at own
    exact listed r' here t own
  · obtain ⟨c', found, active⟩ := found
    have other : s ≠ r := by
      rintro rfl
      exact absurd (found.symm.trans new) (by simp)
    exact ⟨c', by simpa [other] using found, active⟩

theorem held_of_proper (proper : ∀ r, ρ.ProperAt r) (standing : ρ.Standing s) : ρ.Held s :=
  ⟨fun r here => (proper r).listed ((proper r).sessions.mp here), standing⟩

end Roll

def Event.Ends (s : Sid) : Event → Prop
  | .pause r | .close r | .destroy r => r = s
  | _ => False

section Events

variable {cfg : AdpfConfig} {s : Sid} {old : List Write} {sh : Shared} {n : Nat}

/-- Only `pause` and `close` of the session itself contain a step that ends its standing. -/
theorem wp_program_held (e : Event) (enabled : e.enabled sh.toView = true) (proper : ∀ r, Roll.ProperAt sh.roll r)
    (lasts : ¬ e.Ends s) (now : KeptSince cfg (Roll.Held s) old sh) :
    wpCall cfg (fun _ => True) (e.program cfg) (fun _ _ v => KeptSince cfg (Roll.Held s) old v) n
      (sh.lift fun v => e.begin v) := by
  have began : KeptSince cfg (Roll.Held s) old (sh.lift fun v => e.begin v) := by cases e <;> exact now
  have closing {r : Sid} (other : r ≠ s) : (close cfg r).All (Act.Keeps (Roll.Held s)) :=
    all_close keeps_own (fun _ _ held => held.setClosed) (fun _ _ held => held.remove other)
      (fun _ _ held => held.setClosed) fun _ _ held => held.setActive fun same => absurd same other
  cases e with
  | createHintSession r tgid uid threadIds durationNanos =>
    have new : sh.roll.core r = none := by simpa [Event.enabled, View.roll] using enabled
    have unknown : r ∉ sh.registry.mSessions := fun here => by
      obtain ⟨c, found, _⟩ := (proper r).sessions.mp here
      exact absurd (found.symm.trans new) (by simp)
    refine wp_ite (fun _ => ⟨trivial, began⟩) fun _ => wp_ite (fun _ => ⟨trivial, began⟩) fun _ => ?_
    have constructed : wpCall cfg (fun _ => True) (construct cfg r tgid uid threadIds durationNanos)
        (fun _ _ v => KeptSince cfg (Roll.Held s) old v) n sh := by
      refine ⟨trivial, fun o _ => ?_⟩
      refine wp_kept (all_enroll keeps_own durationNanos fun applied _ held => held.add applied) ⟨?_, began.2⟩
      rw [perform_roll]
      exact began.1.construct new unknown _
    exact wp_seq constructed fun _ _ v _ done => ⟨trivial, done⟩
  | close r => exact wp_kept (closing lasts) began
  | destroy r =>
    have all : (destroy cfg r).All (Act.Keeps (Roll.Held s)) :=
      (closing lasts).bind fun _ => ⟨keeps_plain fun _ _ => rfl, fun _ => trivial⟩
    exact wp_kept all began
  | pause r =>
    exact wp_kept (all_pause keeps_own fun _ _ held => held.setActive fun same => absurd same lasts) began
  | resume r => exact wp_kept (all_resume keeps_own fun _ _ held => held.setActive fun _ => rfl) began
  | updateTargetWorkDuration r target =>
    exact wp_kept ((own_updateTargetWorkDuration target).mono keeps_own) began
  | reportActualWorkDuration r actual =>
    exact wp_kept ((own_reportActualWorkDuration actual).mono keeps_own) began
  | displayUpdate =>
    have all : (Event.displayUpdate.program cfg).All (Act.Keeps (Roll.Held s)) :=
      ⟨keeps_plain fun _ _ => rfl, fun _ => trivial⟩
    exact wp_kept all began
  | deliver m =>
    have all : ((Event.deliver m).program cfg).All (Act.Keeps (Roll.Held s)) :=
      ((plain_handleMessage m.handler).mono fun _ => keeps_plain).bind fun _ => trivial
    exact wp_kept all began
  | tick elapsed => exact ⟨trivial, began⟩

theorem eventStep_held (e : Event × (Nat → Outcome)) (proper : ∀ r, Roll.ProperAt sh.roll r) (lasts : ¬ e.1.Ends s)
    (now : KeptSince cfg (Roll.Held s) old sh) : KeptSince cfg (Roll.Held s) old (eventStep cfg sh e) := by
  unfold eventStep
  split
  · rename_i enabled
    obtain ⟨_, kept⟩ := exec_post (wp_program_held (n := 0) e.1 enabled proper lasts now) fun _ => trivial
    exact kept
  · exact now

theorem run_held (events : List (Event × (Nat → Outcome))) (proper : ∀ r, Roll.ProperAt sh.roll r)
    (lasts : ∀ e ∈ events, ¬ e.1.Ends s) (now : KeptSince cfg (Roll.Held s) old sh) :
    KeptSince cfg (Roll.Held s) old (run cfg sh events) := by
  induction events generalizing sh with
  | nil => exact now
  | cons e events ih =>
    refine ih (fun r => properAt_eventStep cfg (proper r) e) (fun e' here => lasts e' (List.mem_cons_of_mem e here)) ?_
    exact eventStep_held e proper (lasts e List.mem_cons_self) now

/-- A session that stands and is not timed out is part of the maximum on all its threads. -/
theorem Write.value_ge {w : Write} {x : Session} (held : Roll.Held s w.view.roll) (asked : w.Asked cfg)
    (found : w.view.sessions s = some x) (own : w.tid ∈ x.threadIds) (fresh : w.view.clock < x.getStaleTime cfg) :
    clampMin x.currentMin ≤ w.value := by
  obtain ⟨listed, member, c, core, active⟩ := held
  obtain ⟨val, value⟩ := asked.value
  have same : c = x.core := by simpa [View.roll, found] using core.symm
  have here : s ∈ w.view.registry.mTidSessionListMap w.tid := by
    apply listed s member w.tid
    simpa [View.getTidList, found] using own
  have counted : w.view.counts cfg s = true := by
    have notYet : ¬ x.getStaleTime cfg ≤ w.view.clock := not_le.mpr fresh
    have isActive : x.isActive = true := by simpa [same, Session.core] using active
    simp [View.counts, found, Session.isTimeout, isActive, notYet]
  have below := View.le_maxMin here counted
  rw [value]
  refine clampMin_mono (le_trans ?_ (le_max_right _ _))
  simpa [View.getUclampMin, View.tidMax, found] using below

/-- From any moment at which a session is registered and active, as `wakeup` and `resume` leave it,
until it is paused or closed: no write of another session to one of its threads falls below its
`current_min`, if the session is not timed out when the write is made. -/
theorem granted_boost_kept (cfg : AdpfConfig) (s : Sid) (before during : List (Event × (Nat → Outcome)))
    (granted : ((run cfg .start before).sessions s).any (fun x => !x.mSessionClosed && x.isActive) = true)
    (lasts : ∀ e ∈ during, ¬ e.1.Ends s) :
    ∃ added, (run cfg .start (before ++ during)).log = added ++ (run cfg .start before).log ∧
      ∀ w ∈ added, w.session ≠ s → ∀ x, w.view.sessions s = some x → w.tid ∈ x.threadIds →
        w.view.clock < x.getStaleTime cfg → clampMin x.currentMin ≤ w.value := by
  have proper := properAt_run cfg before
  have standing : Roll.Standing s (run cfg .start before).roll := by
    obtain ⟨x, found, fine⟩ := (Option.any_eq_true _ _).mp granted
    obtain ⟨unclosed, active⟩ := (Bool.and_eq_true _ _).mp fine
    refine ⟨(proper s).sessions.mpr ⟨x.core, View.roll_core found, ?_⟩, x.core, View.roll_core found, active⟩
    simpa [Session.core] using unclosed
  have start : KeptSince cfg (Roll.Held s) (run cfg .start before).log (run cfg .start before) :=
    ⟨Roll.held_of_proper proper standing, .refl _⟩
  obtain ⟨-, added, grown, good⟩ := run_held during proper lasts start
  refine ⟨added, run_append cfg .start before during ▸ grown, fun w here _ x found own fresh => ?_⟩
  exact Write.value_ge (good w here).1 (good w here).2 found own fresh

end Events

namespace Sample

def pair : List Event :=
  [.createHintSession 0 1 1000 [7] 10, .deliver ⟨.stale 0, 0⟩, .createHintSession 1 1 1000 [7] 10,
    .deliver ⟨.stale 1, 0⟩, .reportActualWorkDuration 0 [⟨0, 5⟩], .deliver ⟨.stale 0, 0⟩]

def pairWoken : List Event :=
  pair ++ [.tick 100, .deliver ⟨.stale 0, 10⟩, .deliver ⟨.stale 1, 10⟩, .displayUpdate, .deliver ⟨.wakeup, 100⟩]

end Sample

theorem granted_boost_kept_pair :
    ∃ added, (run Sample.cfg .start (Sample.calmly Sample.pair ++
        Sample.calmly [.reportActualWorkDuration 1 [⟨0, 5⟩], .pause 1])).log =
        added ++ (run Sample.cfg .start (Sample.calmly Sample.pair)).log ∧
      ∀ w ∈ added, w.session ≠ 0 → ∀ x, w.view.sessions 0 = some x → w.tid ∈ x.threadIds →
        w.view.clock < x.getStaleTime Sample.cfg → clampMin x.currentMin ≤ w.value := by
  apply granted_boost_kept Sample.cfg 0 _ _ (by decide +kernel)
  simp [Sample.calmly, Event.Ends]

/- The session that is woken second writes 100 to the thread on which the first was just granted 300. -/
theorem granted_boost_lost :
    let sh := run Sample.cfg .start (Sample.calmly Sample.pairWoken)
    (sh.log.take 2).map (fun w => (w.session, w.tid, w.value)) = [(1, 7, 100), (0, 7, 300)] ∧
      (sh.sessions 0).map (fun x => (x.isActive, x.currentMin)) = some (true, 300) := by
  decide +kernel

end Pdx215.Power
