import Pdx215.Power.Counts

/-! Every `sched_setattr` call: its value is the larger of what the operation asks for and the
maximum over the sessions that the manager lists under the thread, and that list contains the
registered sessions of the thread whatever the profile calls answered. -/
namespace Pdx215.Power

open Effect

theorem clampMin_mono {a b : Int} (h : a ≤ b) : clampMin a ≤ clampMin b := by
  unfold clampMin
  omega

namespace View

variable {cfg : AdpfConfig} {v : View} {among others : Finset Sid} {s : Sid}

theorem maxMin_le_iff {c : Int} : v.maxMin cfg among ≤ c ↔
    0 ≤ c ∧ ∀ s ∈ among, v.counts cfg s = true → v.getUclampMin s ≤ c := by
  simp [maxMin, Finset.fold_max_le]

theorem le_maxMin (here : s ∈ among) (counted : v.counts cfg s = true) :
    v.getUclampMin s ≤ v.maxMin cfg among :=
  (maxMin_le_iff.mp le_rfl).2 s here counted

theorem maxMin_nonneg : 0 ≤ v.maxMin cfg among := (maxMin_le_iff.mp le_rfl).1

/-- Sessions that do not count, or ask for nothing, can be left out. -/
theorem maxMin_le_of_covered
    (covered : ∀ s ∈ among, v.counts cfg s = true → s ∈ others ∨ v.getUclampMin s ≤ 0) :
    v.maxMin cfg among ≤ v.maxMin cfg others := by
  refine maxMin_le_iff.mpr ⟨maxMin_nonneg, fun s here counted => ?_⟩
  rcases covered s here counted with there | nothing
  · exact le_maxMin there counted
  · exact nothing.trans maxMin_nonneg

end View

/-- The value is that of `setUclampMinLocked` for some requested value. -/
structure Write.Asked (cfg : AdpfConfig) (w : Write) : Prop where
  on : cfg.mUclampMinOn = true
  value : ∃ val, w.value = clampMin (max val (w.view.tidMax cfg w.tid))

def Adds (good : Write → Prop) (old new : List Write) : Prop :=
  ∃ added, new = added ++ old ∧ ∀ w ∈ added, good w

section Adds

variable {good good' : Write → Prop} {old mid new : List Write}

theorem Adds.refl (old : List Write) : Adds good old old := ⟨[], rfl, by simp⟩

theorem Adds.trans (first : Adds good old mid) (second : Adds good mid new) : Adds good old new := by
  obtain ⟨a, rfl, ha⟩ := first
  obtain ⟨b, rfl, hb⟩ := second
  refine ⟨b ++ a, (List.append_assoc b a old).symm, fun w here => ?_⟩
  rcases List.mem_append.mp here with here | here
  · exact hb w here
  · exact ha w here

theorem Adds.mono (h : Adds good old new) (weaken : ∀ w, good w → good' w) : Adds good' old new := by
  obtain ⟨a, rfl, ha⟩ := h
  exact ⟨a, rfl, fun w here => weaken w (ha w here)⟩

end Adds

section Log

variable (cfg : AdpfConfig)

theorem setUclampMinLocked_adds (s : Sid) (val : Int) (sh : Shared) :
    Adds (fun w => cfg.mUclampMinOn = true ∧ w.session = s ∧ w.view = sh.toView ∧
      w.value = clampMin (max val (sh.tidMax cfg w.tid))) sh.log (sh.setUclampMinLocked cfg s val).log := by
  unfold Shared.setUclampMinLocked
  split
  · rename_i on
    refine ⟨_, rfl, fun w here => ?_⟩
    obtain ⟨t, -, rfl⟩ := List.mem_map.mp (List.mem_reverse.mp here)
    exact ⟨on, rfl, rfl, rfl⟩
  · exact .refl _

/-- The write is made for a session that asks for a value. The roll stands still during one step. -/
structure Write.For (ρ : Roll) (s : Sid) (val : Int) (w : Write) : Prop where
  on : cfg.mUclampMinOn = true
  session : w.session = s
  own : w.tid ∈ w.view.getTidList s
  roll : w.view.roll = ρ
  value : w.value = clampMin (max val (w.view.tidMax cfg w.tid))

theorem setUclampMinLocked_for (s : Sid) (val : Int) (sh : Shared) :
    Adds (Write.For cfg sh.roll s val) sh.log (sh.setUclampMinLocked cfg s val).log := by
  unfold Shared.setUclampMinLocked
  split
  · rename_i on
    refine ⟨_, rfl, fun w here => ?_⟩
    obtain ⟨t, own, rfl⟩ := List.mem_map.mp (List.mem_reverse.mp here)
    exact ⟨on, rfl, own, rfl, rfl⟩
  · exact .refl _

theorem earlyBoost_for (s : Sid) (sh : Shared) :
    Adds (Write.For cfg sh.roll s (fromUInt32 cfg.mUclampMinHigh)) sh.log (sh.earlyBoost cfg s).log := by
  unfold Shared.earlyBoost
  split
  · exact .refl _
  · split
    · exact .refl _
    · split
      · exact .refl _
      · exact setUclampMinLocked_for cfg s _ sh

/-- Waking the others does not change what a session would ask for when it is woken. -/
structure WokenSince (before sh : Shared) : Prop where
  roll : sh.roll = before.roll
  asks : ∀ r, max (sh.getUclampMin r) (fromUInt32 cfg.mUclampMinInit) =
    max (before.getUclampMin r) (fromUInt32 cfg.mUclampMinInit)
  log : Adds (fun w => Write.For cfg before.roll w.session
    (max (before.getUclampMin w.session) (fromUInt32 cfg.mUclampMinInit)) w) before.log sh.log

variable {cfg}

theorem WokenSince.wakeup {before sh : Shared} (since : WokenSince cfg before sh) (r : Sid) :
    WokenSince cfg before (sh.wakeup cfg r) := by
  suffices both : (∀ r', max ((sh.wakeup cfg r).getUclampMin r') (fromUInt32 cfg.mUclampMinInit) =
      max (before.getUclampMin r') (fromUInt32 cfg.mUclampMinInit)) ∧
      Adds (fun w => Write.For cfg before.roll w.session
        (max (before.getUclampMin w.session) (fromUInt32 cfg.mUclampMinInit)) w) before.log (sh.wakeup cfg r).log from
    ⟨(Shared.roll_wakeup cfg sh r).trans since.roll, both.1, both.2⟩
  unfold Shared.wakeup
  split
  · exact ⟨since.asks, since.log⟩
  · rename_i x found
    split
    · exact ⟨since.asks, since.log⟩
    · have value : max x.currentMin (fromUInt32 cfg.mUclampMinInit) =
          max (before.getUclampMin r) (fromUInt32 cfg.mUclampMinInit) := by
        rw [← since.asks r]
        simp [View.getUclampMin, found]
      constructor
      · intro r'
        rw [← since.asks r']
        by_cases here : r' = r
        · subst here
          simp [Shared.updateStaleTimer, Shared.store, View.getUclampMin, Store.apply, View.repost,
            View.sendMessageDelayed, View.removeMessages, found]
        · simp [Shared.updateStaleTimer, Shared.store, View.getUclampMin, View.repost,
            View.sendMessageDelayed, View.removeMessages, here]
      · have written := setUclampMinLocked_for cfg r (max x.currentMin (fromUInt32 cfg.mUclampMinInit))
          (sh.store r (.currentMin (max x.currentMin (fromUInt32 cfg.mUclampMinInit))))
        rw [Shared.roll_store, since.roll] at written
        exact since.log.trans (written.mono fun w made => made.session ▸ value ▸ made)

theorem wokenSince_wakeups (order : List Sid) {before sh : Shared} (since : WokenSince cfg before sh) :
    WokenSince cfg before (order.foldl (Shared.wakeup cfg) sh) := by
  induction order generalizing sh with
  | nil => exact since
  | cons r order ih => exact ih (since.wakeup r)

/-- The value that a step asks for, for a session, as the session was before the step. -/
def Act.requested (cfg : AdpfConfig) (v : View) (s : Sid) : Act → Int
  | .setUclampMin _ val => val
  | .earlyBoost _ => fromUInt32 cfg.mUclampMinHigh
  | .wakeSessions => max (v.getUclampMin s) (fromUInt32 cfg.mUclampMinInit)
  | _ => 0

/-- What a step writes, it writes for what it asks for and at the roll that it finds. -/
theorem perform_for (cfg : AdpfConfig) (a : Act) (o : Outcome) (sh : Shared) :
    Adds (fun w => Write.For cfg sh.roll w.session (a.requested cfg sh.toView w.session) w) sh.log
      (perform cfg a o sh).2.log := by
  cases a
  case earlyBoost s => exact (earlyBoost_for cfg s (sh.wait o.elapsed)).mono fun w made => made.session ▸ made
  case setUclampMin s val =>
    exact (setUclampMinLocked_for cfg s val (sh.wait o.elapsed)).mono fun w made => made.session ▸ made
  case wakeSessions =>
    have still : WokenSince cfg (sh.wait o.elapsed) (sh.wait o.elapsed) := ⟨rfl, fun _ => rfl, .refl _⟩
    exact (wokenSince_wakeups _ still).log
  all_goals exact .refl _

theorem Write.For.asked {ρ : Roll} {s : Sid} {val : Int} {w : Write} (made : Write.For cfg ρ s val w) : w.Asked cfg :=
  ⟨made.on, val, made.value⟩

end Log

/-! ### Properties of the roll at every write -/

section Kept

/- A property of the roll, and the log when the first step is made. -/
variable (cfg : AdpfConfig) (kept : Roll → Prop) (old : List Write)

def Act.Keeps (a : Act) : Prop := ∀ applied ρ, kept ρ → kept (a.onRoll applied ρ)

def KeptSince (sh : Shared) : Prop :=
  kept sh.roll ∧ Adds (fun w => kept w.view.roll ∧ w.Asked cfg) old sh.log

variable {cfg kept old}

theorem perform_kept {a : Act} (keeps : a.Keeps kept) (o : Outcome) {sh : Shared} (now : KeptSince cfg kept old sh) :
    KeptSince cfg kept old (perform cfg a o sh).2 := by
  refine ⟨perform_roll cfg a o sh ▸ keeps o.applied sh.roll now.1, now.2.trans ?_⟩
  exact (perform_for cfg a o sh).mono fun w made => ⟨made.roll ▸ now.1, made.asked⟩

theorem wp_kept {α : Type} {p : Call α} (all : p.All (Act.Keeps kept)) {n : Nat} {sh : Shared}
    (now : KeptSince cfg kept old sh) :
    wpCall cfg (fun _ => True) p (fun _ _ v => KeptSince cfg kept old v) n sh :=
  wp_all all (fun _ _ => trivial) (fun _ keeps _ o _ _ now => perform_kept keeps o now) now

end Kept

section Asked

variable {cfg : AdpfConfig}

theorem perform_asked (a : Act) (o : Outcome) {sh : Shared} (asked : ∀ w ∈ sh.log, w.Asked cfg) :
    ∀ w ∈ (perform cfg a o sh).2.log, w.Asked cfg := by
  obtain ⟨added, grown, made⟩ := perform_for cfg a o sh
  intro w here
  rw [grown, List.mem_append] at here
  rcases here with here | here
  · exact (made w here).asked
  · exact asked w here

theorem eventStep_asked {sh : Shared} (e : Event × (Nat → Outcome)) (asked : ∀ w ∈ sh.log, w.Asked cfg) :
    ∀ w ∈ (eventStep cfg sh e).log, w.Asked cfg := by
  unfold eventStep
  split
  · have whole : wpCall cfg (fun _ => True) (e.1.program cfg) (fun _ _ v => ∀ w ∈ v.log, w.Asked cfg) 0
        (sh.lift fun v => e.1.begin v) :=
      wp_all (Prog.all_true _) (fun _ _ => trivial) (fun a _ _ o _ _ now => perform_asked a o now) asked
    obtain ⟨_, done⟩ := exec_post whole fun _ => trivial
    exact done
  · exact asked

theorem run_asked (events : List (Event × (Nat → Outcome))) {sh : Shared} (asked : ∀ w ∈ sh.log, w.Asked cfg) :
    ∀ w ∈ (run cfg sh events).log, w.Asked cfg := by
  induction events generalizing sh with
  | nil => exact asked
  | cons e events ih => exact ih (eventStep_asked e asked)

end Asked

/-! ### Membership, whatever the profile calls answer -/

namespace Roll

structure ProperAt (ρ : Roll) (s : Sid) : Prop where
  sessions : s ∈ ρ.registry.mSessions ↔ ρ.Open s
  listed : ρ.Open s → ∀ t ∈ ρ.tids s, s ∈ ρ.registry.mTidSessionListMap t
  own : ∀ t, s ∈ ρ.registry.mTidSessionListMap t → t ∈ ρ.tids s
  idle : ∀ c, ρ.core s = some c → c.closed = true → c.active = false

variable {ρ : Roll} {s r : Sid}

theorem properAt_empty : ProperAt empty s where
  sessions := by simp [empty, Registry.empty, Open]
  listed isOpen := by simp [empty, Open] at isOpen
  own t here := absurd here (Finset.notMem_empty s)
  idle c found := nomatch found

theorem ProperAt.enlist (proper : ProperAt ρ r) (threadIds : List Tid) (applied : Nat → Bool)
    (new : ρ.core s = none) : ProperAt (ρ.enlist s threadIds applied) r := by
  constructor
  · rw [enlist_registry, Registry.addPowerSession_sessions, Finset.mem_insert, open_enlist, proper.sessions, or_comm]
  · intro isOpen t here
    rw [enlist_registry, Registry.mem_addPowerSession]
    rw [tids_enlist] at here
    by_cases same : r = s
    · exact .inl ⟨by simpa [same] using here, same⟩
    · refine .inr (proper.listed ?_ t (by simpa [same] using here))
      simpa [same] using isOpen
  · intro t here
    rw [enlist_registry, Registry.mem_addPowerSession] at here
    rw [tids_enlist]
    rcases here with ⟨here, rfl⟩ | here
    · simpa using here
    · have known := proper.own t here
      have other : r ≠ s := by
        rintro rfl
        simp [tids, new] at known
      simpa [other] using known
  · intro c found closed
    by_cases same : r = s
    · subst same
      simp only [Roll.enlist, add_core, setCore_self, Option.some.injEq] at found
      rw [← found] at closed
      cases closed
    · exact proper.idle c (by simpa [Roll.enlist, same] using found) closed

theorem ProperAt.discharge (proper : ProperAt ρ r) : ProperAt (ρ.discharge s) r := by
  constructor
  · rw [discharge_registry, Registry.removePowerSession_sessions, Finset.mem_erase, open_discharge, proper.sessions,
      and_comm]
  · intro isOpen t here
    obtain ⟨isOpen, other⟩ := open_discharge.mp isOpen
    rw [discharge_registry, Registry.mem_removePowerSession]
    exact ⟨proper.listed isOpen t (by simpa using here), fun _ same => absurd same other⟩
  · intro t here
    rw [discharge_registry, Registry.mem_removePowerSession] at here
    simpa using proper.own t here.1
  · intro c found closed
    by_cases same : r = s
    · subst same
      cases was : ρ.core r with
      | none => simp [Roll.discharge, Roll.setActive, Roll.setClosed, was] at found
      | some c' =>
        simp only [Roll.discharge, Roll.setActive, Roll.setClosed, was, setCore_self, remove_core, Option.map_some,
          Option.some.injEq] at found
        rw [← found]
    · exact proper.idle c (by simpa [Roll.discharge, Roll.setActive, Roll.setClosed, same] using found) closed

theorem ProperAt.setActive (proper : ProperAt ρ r) (b : Bool) (isOpen : ρ.Open s) :
    ProperAt (ρ.setActive s b) r := by
  constructor
  · rw [setActive_registry, proper.sessions, open_setActive]
  · intro isOpen t here
    exact proper.listed (open_setActive b |>.mp isOpen) t (by simpa using here)
  · intro t here
    simpa using proper.own t here
  · intro c found closed
    by_cases same : r = s
    · subst same
      obtain ⟨c', was, unclosed⟩ := isOpen
      simp only [Roll.setActive, was, setCore_self, Option.map_some, Option.some.injEq] at found
      rw [← found] at closed
      exact absurd (closed.symm.trans unclosed) (by decide)
    · exact proper.idle c (by simpa [Roll.setActive, same] using found) closed

theorem ProperAt.step {ρ' : Roll} (proper : ProperAt ρ r) (step : RollStep (fun _ => True) ρ ρ') : ProperAt ρ' r := by
  cases step with
  | stay => exact proper
  | enlist s threadIds applied new _ => exact proper.enlist threadIds applied new
  | discharge s _ => exact proper.discharge
  | setActive s b isOpen => exact proper.setActive b isOpen

end Roll

theorem properAt_eventStep (cfg : AdpfConfig) {sh : Shared} {s : Sid} (proper : Roll.ProperAt sh.roll s)
    (e : Event × (Nat → Outcome)) : Roll.ProperAt (eventStep cfg sh e).roll s :=
  proper.step (eventStep_roll cfg sh e fun _ => trivial)

theorem properAt_run (cfg : AdpfConfig) (events : List (Event × (Nat → Outcome))) (s : Sid) :
    Roll.ProperAt (run cfg .start events).roll s :=
  run_roll (Roll.ProperAt · s) (fun _ _ proper => proper.step) cfg events (fun _ _ _ => trivial) .start
    Roll.properAt_empty

/-! ### The maximum over the other sessions -/

def View.othersOf (v : View) (s : Sid) (t : Tid) : Finset Sid :=
  (v.registry.mSessions.filter fun r => t ∈ v.getTidList r).erase s

section Others

variable {cfg : AdpfConfig} {s : Sid} {sh : Shared}

theorem View.counts_core {v : View} (counted : v.counts cfg s = true) :
    ∃ c, v.roll.core s = some c ∧ c.active = true := by
  unfold View.counts at counted
  split at counted
  · cases counted
  · rename_i x found
    exact ⟨x.core, View.roll_core found, ((Bool.and_eq_true _ _).mp counted).1⟩

/-- A session that does not count, or asks for nothing, leaves the maximum to the others. -/
theorem View.tidMax_eq_others {v : View} (proper : ∀ r, r ≠ s → Roll.ProperAt v.roll r) (t : Tid)
    (silent : v.counts cfg s = true → v.getUclampMin s ≤ 0) :
    v.tidMax cfg t = v.maxMin cfg (v.othersOf s t) := by
  apply le_antisymm
  · refine View.maxMin_le_of_covered fun r here counted => ?_
    by_cases same : r = s
    · exact .inr (same ▸ silent (same ▸ counted))
    · left
      obtain ⟨c, found, active⟩ := View.counts_core counted
      have isOpen : v.roll.Open r := by
        refine ⟨c, found, Bool.eq_false_iff.mpr fun closed => ?_⟩
        rw [(proper r same).idle c found closed] at active
        cases active
      have own := (proper r same).own t here
      rw [View.roll_tids] at own
      exact Finset.mem_erase.mpr ⟨same, Finset.mem_filter.mpr ⟨(proper r same).sessions.mpr isOpen, own⟩⟩
  · refine View.maxMin_le_of_covered fun r here _ => .inl ?_
    obtain ⟨other, here⟩ := Finset.mem_erase.mp here
    obtain ⟨member, own⟩ := Finset.mem_filter.mp here
    apply (proper r other).listed ((proper r other).sessions.mp member) t
    rwa [View.roll_tids]

def Write.OfOthers (cfg : AdpfConfig) (s : Sid) (w : Write) : Prop :=
  w.session = s ∧ w.value = clampMin (w.view.maxMin cfg (w.view.othersOf s w.tid))

theorem setUclampMin_ofOthers (proper : ∀ r, r ≠ s → Roll.ProperAt sh.roll r)
    (silent : sh.counts cfg s = true → sh.getUclampMin s ≤ 0) :
    Adds (Write.OfOthers cfg s) sh.log (sh.setUclampMinLocked cfg s 0).log := by
  refine (setUclampMinLocked_adds cfg s 0 sh).mono fun w made => ?_
  obtain ⟨-, session, view, value⟩ := made
  refine ⟨session, ?_⟩
  rw [value, view, View.tidMax_eq_others proper w.tid silent, max_eq_right View.maxMin_nonneg]

end Others

end Pdx215.Power
