import Mathlib.Algebra.BigOperators.Group.Finset.Basic
import Mathlib.Algebra.Order.BigOperators.Group.Finset
import Pdx215.Power.Roll

/-! The reference counts of `PowerSessionManager` when every `SetTaskProfiles` call succeeds: they
count the occurrences of a thread in the lists of the sessions that are created and not yet closed. -/
namespace Pdx215.Power

def Applied (applied : Nat → Bool) : Prop := ∀ i, applied i = true

namespace Registry

/-- The counts, and the profiles requested last, are those of a thread that is used `c t` times. -/
structure Tally (m : Registry) (c : Tid → Nat) : Prop where
  counts : ∀ t, m.mTidRefCountMap t = if c t = 0 then none else some (c t : Int)
  profiles : ∀ t, m.lastProfile t = some .resetUclampGrp ↔ 0 < c t

variable {m : Registry} {c : Tid → Nat} {s : Sid}

theorem Tally.congr {c' : Tid → Nat} (tally : m.Tally c) (same : ∀ t, c' t = c t) : m.Tally c' :=
  (funext same : c' = c) ▸ tally

theorem Tally.addTid (tally : m.Tally c) (t : Tid) :
    (addTid s true t m).Tally fun u => c u + if u = t then 1 else 0 := by
  have counted := tally.counts t
  unfold Registry.addTid
  by_cases unused : c t = 0
  · rw [counted, if_pos unused]
    constructor
    · intro u
      by_cases same : u = t
      · simp [same, unused]
      · simp [same, tally.counts u]
    · intro u
      by_cases same : u = t
      · simp [same]
      · simp [same, tally.profiles u]
  · rw [counted, if_neg unused]
    have positive : ¬ ((c t : Int) ≤ 0) := by omega
    simp only [positive, if_false]
    constructor
    · intro u
      by_cases same : u = t
      · simp [same]
      · simp [same, tally.counts u]
    · intro u
      rw [setCount_profiles, insertAt_profiles, tally.profiles u]
      by_cases same : u = t
      · subst same
        simp
        omega
      · simp [same]

theorem count_cons_eq (t u : Tid) (ts : List Tid) :
    (t :: ts).count u = ts.count u + if u = t then 1 else 0 := by
  by_cases same : u = t
  · subst same
    simp
  · rw [List.count_cons_of_ne (Ne.symm same), if_neg same, Nat.add_zero]

theorem Tally.addTids {applied : Nat → Bool} (succeeds : Applied applied) (ts : List Tid) (i : Nat)
    (tally : m.Tally c) : (addTids s applied i ts m).Tally fun u => c u + ts.count u := by
  induction ts generalizing i m c with
  | nil => exact tally
  | cons t ts ih =>
    rw [Registry.addTids, succeeds i]
    refine (ih (i + 1) (tally.addTid t)).congr fun u => ?_
    rw [count_cons_eq, Nat.add_assoc, Nat.add_comm (ts.count u)]

theorem Tally.removeTid (tally : m.Tally c) {t : Tid} (used : 0 < c t) :
    (removeTid s t m).Tally fun u => c u - if u = t then 1 else 0 := by
  have counted := tally.counts t
  unfold Registry.removeTid
  rw [counted, if_neg (by omega)]
  by_cases last : c t = 1
  · have done : (c t : Int) - 1 ≤ 0 := by omega
    simp only [done, if_true]
    constructor
    · intro u
      by_cases same : u = t
      · simp [same, last]
      · simp [same, tally.counts u]
    · intro u
      by_cases same : u = t
      · simp [same, last]
      · simp [same, tally.profiles u]
  · have more : ¬ ((c t : Int) - 1 ≤ 0) := by omega
    simp only [more, if_false]
    constructor
    · intro u
      by_cases same : u = t
      · subst same
        have : c u - 1 ≠ 0 := by omega
        simp [this]
        omega
      · simp [same, tally.counts u]
    · intro u
      rw [setCount_profiles, eraseAt_profiles, tally.profiles u]
      by_cases same : u = t
      · subst same
        simp
        omega
      · simp [same]

theorem Tally.removeTids (ts : List Tid) (tally : m.Tally c) (enough : ∀ u, ts.count u ≤ c u) :
    (removeTids s ts m).Tally fun u => c u - ts.count u := by
  induction ts generalizing m c with
  | nil => exact tally
  | cons t ts ih =>
    rw [Registry.removeTids]
    have used : 0 < c t := lt_of_lt_of_le (by simp) (enough t)
    refine (ih (tally.removeTid used) fun u => ?_).congr fun u => ?_
    · have := enough u
      rw [count_cons_eq] at this
      omega
    · rw [count_cons_eq, Nat.sub_sub, Nat.add_comm (ts.count u)]

theorem Tally.addPowerSession {applied : Nat → Bool} (succeeds : Applied applied) (ts : List Tid)
    (tally : m.Tally c) : (addPowerSession s ts applied m).Tally fun u => c u + ts.count u :=
  have added : (Registry.addTids s applied 0 ts m).Tally fun u => c u + ts.count u := tally.addTids succeeds ts 0
  ⟨added.counts, added.profiles⟩

theorem Tally.removePowerSession (ts : List Tid) (tally : m.Tally c) (enough : ∀ u, ts.count u ≤ c u) :
    (removePowerSession s ts m).Tally fun u => c u - ts.count u :=
  have removed : (Registry.removeTids s ts m).Tally fun u => c u - ts.count u := tally.removeTids ts enough
  ⟨removed.counts, removed.profiles⟩

end Registry

/-! ### The invariant -/

namespace Roll

variable {ρ : Roll} {s r : Sid}

theorem tids_setCore_ne (c : Option Core) (ne : r ≠ s) : (ρ.setCore s c).tids r = ρ.tids r := by
  simp [tids, ne]

@[simp] theorem tids_setActive (b : Bool) : (ρ.setActive s b).tids r = ρ.tids r := by
  by_cases same : r = s
  · subst same
    cases found : ρ.core r <;> simp [tids, setActive, found]
  · exact tids_setCore_ne _ same

@[simp] theorem tids_setClosed : (ρ.setClosed s).tids r = ρ.tids r := by
  by_cases same : r = s
  · subst same
    cases found : ρ.core r <;> simp [tids, setClosed, found]
  · exact tids_setCore_ne _ same

@[simp] theorem tids_remove : (ρ.remove s).tids r = ρ.tids r := rfl

@[simp] theorem open_setActive (b : Bool) : (ρ.setActive s b).Open r ↔ ρ.Open r := by
  by_cases same : r = s
  · subst same
    cases found : ρ.core r <;> simp [Open, setActive, found]
  · simp [Open, setActive, same]

@[simp] theorem open_setClosed : (ρ.setClosed s).Open r ↔ ρ.Open r ∧ r ≠ s := by
  by_cases same : r = s
  · subst same
    cases found : ρ.core r <;> simp [Open, setClosed, found]
  · simp [Open, setClosed, same]

@[simp] theorem open_remove : (ρ.remove s).Open r ↔ ρ.Open r := Iff.rfl

@[simp] theorem open_enlist (threadIds : List Tid) (applied : Nat → Bool) :
    (ρ.enlist s threadIds applied).Open r ↔ ρ.Open r ∨ r = s := by
  by_cases same : r = s
  · subst same
    simp [Open, enlist]
  · simp [Open, enlist, same]

theorem tids_enlist (threadIds : List Tid) (applied : Nat → Bool) :
    (ρ.enlist s threadIds applied).tids r = if r = s then threadIds else ρ.tids r := by
  by_cases same : r = s
  · subst same
    simp [tids, enlist]
  · simp [tids, enlist, same]

@[simp] theorem discharge_registry :
    (ρ.discharge s).registry = ρ.registry.removePowerSession s (ρ.tids s) := by
  simp [discharge]

@[simp] theorem tids_discharge : (ρ.discharge s).tids r = ρ.tids r := by
  simp [discharge]

@[simp] theorem open_discharge : (ρ.discharge s).Open r ↔ ρ.Open r ∧ r ≠ s := by
  simp [discharge]

theorem enlist_registry (threadIds : List Tid) (applied : Nat → Bool) :
    (ρ.enlist s threadIds applied).registry = ρ.registry.addPowerSession s threadIds applied := by
  simp [enlist, tids]

/-- How often a thread occurs in the lists of the sessions in `mSessions`. -/
def uses (ρ : Roll) (t : Tid) : Nat := ∑ s ∈ ρ.registry.mSessions, (ρ.tids s).count t

structure Booked (ρ : Roll) : Prop where
  sessions : ∀ s, s ∈ ρ.registry.mSessions ↔ ρ.Open s
  lists : ∀ s t, s ∈ ρ.registry.mTidSessionListMap t ↔ ρ.Open s ∧ t ∈ ρ.tids s
  tally : ρ.registry.Tally ρ.uses

theorem booked_empty : Booked empty where
  sessions s := by simp [empty, Registry.empty, Open]
  lists s t := by simp [empty, Registry.empty, Open]
  tally := ⟨fun t => by simp [empty, Registry.empty, uses], fun t => by simp [empty, Registry.empty, uses]⟩

theorem Booked.enlist (booked : Booked ρ) (threadIds : List Tid) {applied : Nat → Bool}
    (new : ρ.core s = none) (succeeds : Applied applied) : Booked (ρ.enlist s threadIds applied) := by
  have unknown : ¬ ρ.Open s := by simp [Open, new]
  constructor
  · intro r
    rw [enlist_registry, Registry.addPowerSession_sessions, Finset.mem_insert, open_enlist, booked.sessions, or_comm]
  · intro r t
    rw [enlist_registry, Registry.mem_addPowerSession, booked.lists, open_enlist, tids_enlist]
    by_cases same : r = s
    · subst same
      simp [unknown]
    · simp [same]
  · rw [enlist_registry]
    refine (booked.tally.addPowerSession succeeds threadIds).congr fun t => ?_
    have fresh : s ∉ ρ.registry.mSessions := (booked.sessions s).not.mpr unknown
    have kept : ∀ r ∈ ρ.registry.mSessions, ((ρ.enlist s threadIds applied).tids r).count t = (ρ.tids r).count t := by
      intro r here
      rw [tids_enlist, if_neg fun same : r = s => fresh (same ▸ here)]
    rw [uses, enlist_registry, Registry.addPowerSession_sessions, Finset.sum_insert fresh, Finset.sum_congr rfl kept,
      tids_enlist, if_pos rfl, Nat.add_comm]
    rfl

theorem Booked.discharge (booked : Booked ρ) (isOpen : ρ.Open s) : Booked (ρ.discharge s) := by
  have known : s ∈ ρ.registry.mSessions := (booked.sessions s).mpr isOpen
  have enough : ∀ t, (ρ.tids s).count t ≤ ρ.uses t := fun t =>
    Finset.single_le_sum (f := fun r => (ρ.tids r).count t) (fun _ _ => Nat.zero_le _) known
  constructor
  · intro r
    rw [discharge_registry, Registry.removePowerSession_sessions, Finset.mem_erase, open_discharge, booked.sessions,
      and_comm]
  · intro r t
    rw [discharge_registry, Registry.mem_removePowerSession, booked.lists, open_discharge, tids_discharge]
    have counted : t ∈ ρ.tids s → ρ.registry.mTidRefCountMap t ≠ none := by
      intro here
      have := enough t
      have : 0 < (ρ.tids s).count t := List.count_pos_iff.mpr here
      rw [booked.tally.counts t, if_neg (by omega)]
      exact Option.some_ne_none _
    constructor
    · rintro ⟨⟨isOpen, here⟩, gone⟩
      refine ⟨⟨isOpen, fun same => ?_⟩, here⟩
      subst same
      exact counted here (gone here rfl)
    · rintro ⟨⟨isOpen, other⟩, here⟩
      exact ⟨⟨isOpen, here⟩, fun _ same => absurd same other⟩
  · rw [discharge_registry]
    refine (booked.tally.removePowerSession (ρ.tids s) enough).congr fun t => ?_
    rw [uses, discharge_registry, Registry.removePowerSession_sessions, uses, ← Finset.add_sum_erase _ _ known]
    simp

theorem Booked.setActive (booked : Booked ρ) (b : Bool) : Booked (ρ.setActive s b) where
  sessions r := by rw [setActive_registry, booked.sessions, open_setActive]
  lists r t := by rw [setActive_registry, booked.lists, open_setActive, tids_setActive]
  tally := by
    rw [setActive_registry]
    exact booked.tally.congr fun t => by simp [uses]

theorem Booked.step {ρ' : Roll} (booked : Booked ρ)
    (step : RollStep Applied ρ ρ') : Booked ρ' := by
  cases step with
  | stay => exact booked
  | enlist s threadIds applied new succeeds => exact booked.enlist threadIds new succeeds
  | discharge s isOpen => exact booked.discharge isOpen
  | setActive s b _ => exact booked.setActive b

end Roll

/-- Created, and `close` has not taken effect. -/
def View.Registered (v : View) (s : Sid) : Prop := ∃ x, v.sessions s = some x ∧ x.mSessionClosed = false

theorem View.registered_iff_open (v : View) (s : Sid) : v.Registered s ↔ v.roll.Open s := by
  cases found : v.sessions s <;> simp [View.Registered, Roll.Open, View.roll, Session.core, found]

/-- The reference-count invariant, after every run in which all profile calls succeed. -/
theorem run_reference_counts (cfg : AdpfConfig) (events : List (Event × (Nat → Outcome)))
    (succeeds : ∀ e ∈ events, ∀ n i, (e.2 n).applied i = true) :
    let v := (run cfg .start events).toView
    let m := v.registry
    let uses (t : Tid) : Nat := ∑ s ∈ m.mSessions, (v.getTidList s).count t
    (∀ s, s ∈ m.mSessions ↔ v.Registered s) ∧
      (∀ s t, s ∈ m.mTidSessionListMap t ↔ v.Registered s ∧ t ∈ v.getTidList s) ∧
      (∀ t, m.mTidRefCountMap t = if uses t = 0 then none else some (uses t : Int)) ∧
      ∀ t, m.lastProfile t = some .resetUclampGrp ↔ 0 < uses t := by
  intro v m uses
  have booked : Roll.Booked v.roll :=
    run_roll Roll.Booked (fun _ _ => Roll.Booked.step) cfg events succeeds .start Roll.booked_empty
  have same : uses = v.roll.uses := by
    funext t
    simp only [uses, Roll.uses, View.roll_tids]
    rfl
  refine ⟨fun s => ?_, fun s t => ?_, fun t => ?_, fun t => ?_⟩
  · rw [View.registered_iff_open]
    exact booked.sessions s
  · rw [View.registered_iff_open, ← View.roll_tids]
    exact booked.lists s t
  · rw [same]
    exact booked.tally.counts t
  · rw [same]
    exact booked.tally.profiles t

/- Two sessions share a thread, and the first is closed twice and then deleted. -/
theorem run_reference_counts_shared :
    let v := (run Sample.cfg .start (Sample.calmly [.createHintSession 0 1 1000 [7, 7] 10,
      .createHintSession 1 1 1000 [8, 7] 10, .close 0, .close 0, .destroy 0])).toView
    ∀ t, v.registry.lastProfile t = some .resetUclampGrp ↔
      0 < ∑ s ∈ v.registry.mSessions, (v.getTidList s).count t := by
  refine (run_reference_counts Sample.cfg (Sample.calmly _) ?_).2.2.2
  intro e here
  obtain ⟨_, _, rfl⟩ := List.mem_map.mp here
  exact fun _ _ => rfl

end Pdx215.Power
