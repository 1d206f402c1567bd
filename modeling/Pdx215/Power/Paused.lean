import Pdx215.Lib.Runs
import Pdx215.Power.Close

/-! What is written for a session while it is paused. The calls of the session come one after
another, and between their steps come the steps of the looper and whole calls of other sessions. Every
handler but the one of the early boost looks at `is_active`. -/
namespace Pdx215.Power

open Effect Runs

/-! ### The calls of one session -/

/-- The next call of the session begins, or one of the turns that are possible at any time is taken. -/
inductive Move where
  | begin (e : Event)
  | turn (t : Turn)

def Event.ofBinder (s : Sid) : Event → Bool
  | .deliver _ => false
  | e => decide (e.session = some s)

/-- A call of the session begins when the one before it has returned. -/
def move (cfg : AdpfConfig) (s : Sid) (c : Config) : Move → Config
  | .begin e =>
    if (Call.returned c.closer).isSome && e.ofBinder s && e.enabled c.shared.toView then
      { c with closer := e.program cfg }
    else c
  | .turn t => turn cfg s c t

def moves (cfg : AdpfConfig) (s : Sid) (c : Config) (ms : List Move) : Config := ms.foldl (move cfg s) c

def Config.start : Config := ⟨.start, .ret .ok, .ret ()⟩

/-- The next step makes the session active: a `resume` that goes on to return `ok`. -/
def Call.resumes {α : Type} (s : Sid) : Call α → Bool
  | .call (.store r (.isActive b)) _ => decide (r = s) && b
  | _ => false

def Call.boosts {α : Type} (s : Sid) : Call α → Bool
  | .call (.earlyBoost r) _ => decide (r = s)
  | _ => false

def Move.Resumes (s : Sid) (c : Config) : Move → Bool
  | .turn (.closer _) => Call.resumes s c.closer
  | _ => false

/-- The looper handles an early-boost message of the session when the boost is due. -/
def Move.Boosts (s : Sid) (c : Config) : Move → Bool
  | .turn (.looper o) => Call.boosts s c.looper && (c.shared.wait o.elapsed).boostDue s
  | _ => false

/-! ### What a call of the session does to others -/

namespace Roll

variable {ρ : Roll} {s r : Sid}

theorem ProperAt.add (proper : ρ.ProperAt r) (other : r ≠ s) (applied : Nat → Bool) :
    (ρ.add s applied).ProperAt r := by
  have lists (t : Tid) : r ∈ (ρ.add s applied).registry.mTidSessionListMap t ↔
      r ∈ ρ.registry.mTidSessionListMap t := by simp [other]
  have member : r ∈ (ρ.add s applied).registry.mSessions ↔ r ∈ ρ.registry.mSessions := by simp [other]
  exact ⟨member.trans proper.sessions, fun h t own => (lists t).mpr (proper.listed h t own),
    fun t h => proper.own t ((lists t).mp h), proper.idle⟩

def Resting (s : Sid) (ρ : Roll) : Prop := ∃ k, ρ.core s = some k ∧ k.active = false

end Roll

section Steps

variable {cfg : AdpfConfig} {s r : Sid} {sh : Shared}

theorem properAt_on {a : Act} (on : a.On s) (other : r ≠ s) (o : Outcome) (proper : sh.roll.ProperAt r) :
    (perform cfg a o sh).2.roll.ProperAt r := by
  rw [perform_roll]
  cases a
  case construct =>
    cases on
    exact proper.setCore other _
  case store _ x =>
    cases on
    cases x
    case isActive | closed => exact proper.setCore other _
    all_goals exact proper
  case compareExchangeClosed =>
    cases on
    exact proper.setCore other _
  case addPowerSession =>
    cases on
    exact proper.add other _
  case removePowerSession =>
    cases on
    exact proper.remove other
  case wakeSessions => exact on.elim
  all_goals exact proper

theorem Roll.Resting.not_counted (resting : sh.roll.Resting s) : sh.counts cfg s ≠ true := by
  intro counted
  obtain ⟨k, found, inactive⟩ := resting
  obtain ⟨k', found', active⟩ := View.counts_core counted
  cases found.symm.trans found'
  exact absurd (active.symm.trans inactive) (by decide)

theorem Foreign.resting {sh' : Shared} (foreign : Foreign s sh sh') (resting : sh.roll.Resting s) :
    sh'.roll.Resting s := by
  obtain ⟨k, found, inactive⟩ := resting
  have core : sh'.roll.core s = sh.roll.core s := congrArg (Option.map Session.core) foreign.sessions
  exact ⟨k, core.trans found, inactive⟩

theorem wakeup_resting (resting : sh.roll.Resting s) : sh.wakeup cfg s = sh := by
  obtain ⟨k, found, inactive⟩ := resting
  obtain ⟨x, here, rfl⟩ := Option.map_eq_some_iff.mp found
  have paused : x.isActive = false := inactive
  simp [Shared.wakeup, here, paused]

theorem foreign_wakeups_resting (order : List Sid) (resting : sh.roll.Resting s) :
    Foreign s sh (order.foldl (Shared.wakeup cfg) sh) := by
  induction order generalizing sh with
  | nil => exact .refl _
  | cons r order ih =>
    have first : Foreign s sh (sh.wakeup cfg r) := by
      by_cases same : r = s
      · subst same
        rw [wakeup_resting resting]
        exact .refl _
      · exact foreign_wakeup same
    exact first.trans (ih (first.resting resting))

theorem log_handling_resting {a : Act} (handling : a.Handling) (resting : sh.roll.Resting s)
    (others : ∀ r, r ≠ s → sh.roll.ProperAt r) (o : Outcome)
    (calm : a = .earlyBoost s → (sh.wait o.elapsed).boostDue s = false) :
    Adds (fun w => w.session = s → w.OfOthers cfg s) sh.log (perform cfg a o sh).2.log := by
  have waited : (sh.wait o.elapsed).roll.Resting s := resting
  apply log_handling handling others o
  · intro counted
    exact absurd counted waited.not_counted
  · exact foreign_wakeups_resting _ waited
  · exact calm

end Steps

/-! ### The calls of a paused session -/

/-- What a step can answer while the session is paused: it finds the session inactive, and the step
that would make it active is not taken. -/
def Act.InPause : (a : Act) → Reply a → Prop
  | .look _, (r : Option Session) => ∀ x, r = some x → x.isActive = false
  | .store _ (.isActive b), _ => b = false
  | _, _ => True

def Act.Subdued (s : Sid) : Act → Prop
  | .look r | .store r _ | .compareExchangeClosed r | .removePowerSession r => r = s
  | .staleDead r | .earlyBoostDead r => r = s
  | .sendMessage h => h = .manager
  | .setUclampMin r val => r = s ∧ val = 0
  | _ => False

theorem Act.Subdued.on {s : Sid} {a : Act} (subdued : a.Subdued s) : a.On s := by
  cases a
  case look => trivial
  case setUclampMin => exact subdued.1
  case store | compareExchangeClosed | removePowerSession | staleDead | earlyBoostDead | sendMessage => exact subdued
  all_goals exact subdued.elim

section Within

variable {cfg : AdpfConfig} {s : Sid}

theorem within_load {absent : Status} {k : Session → Call Status}
    (rest : ∀ x, x.isActive = false → (k x).Within Act.InPause (Act.Subdued s)) :
    (load absent s k).Within Act.InPause (Act.Subdued s) := by
  refine ⟨rfl, fun (r : Option Session) inactive => ?_⟩
  cases r with
  | none => trivial
  | some x => exact rest x (inactive x rfl)

theorem subdued_updateUniveralBoostMode : (updateUniveralBoostMode s).All (Act.Subdued s) :=
  all_load rfl fun _ => all_perhaps (all_act rfl)

theorem subdued_close : (close cfg s).All (Act.Subdued s) := by
  refine ⟨rfl, fun (exchanged : Bool) => ?_⟩
  cases exchanged with
  | false => trivial
  | true =>
    have reset : (setSessionUclampMin cfg s 0).All (Act.Subdued s) := ⟨rfl, fun _ => ⟨⟨rfl, rfl⟩, fun _ => trivial⟩⟩
    refine ⟨rfl, fun _ => reset.bind fun _ => ⟨rfl, fun _ => ⟨rfl, fun _ => ⟨rfl, fun _ => ⟨rfl, fun _ => ?_⟩⟩⟩⟩⟩
    exact subdued_updateUniveralBoostMode.bind fun _ => trivial

theorem within_pause : (pause s).Within Act.InPause (Act.Subdued s) := by
  apply within_load
  intro x _
  split
  · trivial
  · apply within_load
    intro x inactive
    rw [if_pos (by simp [inactive])]
    trivial

/-- A `resume` that would go on is not let past its first store. -/
theorem within_resume : (resume cfg s).Within Act.InPause (Act.Subdued s) := by
  apply within_load
  intro x _
  split
  · trivial
  · apply within_load
    intro x _
    split
    · trivial
    · exact ⟨rfl, fun _ active => nomatch active⟩

theorem within_updateTargetWorkDuration (target : Int) :
    (updateTargetWorkDuration cfg s target).Within Act.InPause (Act.Subdued s) := by
  apply within_load
  intro x _
  split
  · trivial
  · split
    · trivial
    · exact ⟨rfl, fun _ _ => trivial⟩

theorem within_reportActualWorkDuration (actual : List WorkDuration) :
    (reportActualWorkDuration cfg s actual).Within Act.InPause (Act.Subdued s) := by
  apply within_load
  intro x _
  split
  · trivial
  · apply within_load
    intro x _
    split
    · trivial
    · split
      · trivial
      · apply within_load
        intro x inactive
        rw [if_pos (by simp [inactive])]
        trivial

theorem within_program {e : Event} {v : View} (mine : e.ofBinder s = true) (enabled : e.enabled v = true)
    (present : v.sessions s ≠ none) : (e.program cfg).Within Act.InPause (Act.Subdued s) := by
  cases e with
  | createHintSession r tgid uid threadIds durationNanos =>
    cases Option.some.inj (of_decide_eq_true mine)
    exact absurd (Option.isNone_iff_eq_none.mp enabled) present
  | close r =>
    cases Option.some.inj (of_decide_eq_true mine)
    exact subdued_close.within _
  | destroy r =>
    cases Option.some.inj (of_decide_eq_true mine)
    have all : (destroy cfg s).All (Act.Subdued s) := subdued_close.bind fun _ => ⟨rfl, fun _ => trivial⟩
    exact all.within _
  | pause r =>
    cases Option.some.inj (of_decide_eq_true mine)
    exact within_pause
  | resume r =>
    cases Option.some.inj (of_decide_eq_true mine)
    exact within_resume
  | updateTargetWorkDuration r target =>
    cases Option.some.inj (of_decide_eq_true mine)
    exact within_updateTargetWorkDuration target
  | reportActualWorkDuration r actual =>
    cases Option.some.inj (of_decide_eq_true mine)
    exact within_reportActualWorkDuration actual
  | displayUpdate => cases mine
  | deliver m => cases mine
  | tick elapsed => cases mine

end Within

/-! ### The invariant -/

/-- From the return of `pause` on, when the log was `old`. -/
structure PausedSince (cfg : AdpfConfig) (s : Sid) (old : List Write) (c : Config) : Prop where
  others : ∀ r, r ≠ s → c.shared.roll.ProperAt r
  resting : c.shared.roll.Resting s
  looper : c.looper.All Act.Handling
  own : c.closer.Within Act.InPause (Act.Subdued s)
  log : Adds (fun w => w.session = s → w.OfOthers cfg s) old c.shared.log

section Since

variable {cfg : AdpfConfig} {s : Sid} {old : List Write} {sh : Shared} {c : Config}

theorem inPause_reply {a : Act} (subdued : a.Subdued s) (resting : sh.roll.Resting s) (o : Outcome)
    (unresumed : ∀ r b, a = .store r (.isActive b) → b = false) : a.InPause (perform cfg a o sh).1 := by
  cases a
  case look r =>
    cases subdued
    intro x found
    obtain ⟨k, known, inactive⟩ := resting
    have here : sh.roll.core s = some x.core := View.roll_core found
    cases known.symm.trans here
    exact inactive
  case store r x =>
    cases x
    case isActive b => exact unresumed r b rfl
    all_goals trivial
  all_goals trivial

theorem resting_subdued {a : Act} (subdued : a.Subdued s) (resting : sh.roll.Resting s) (o : Outcome)
    (unresumed : ∀ r b, a = .store r (.isActive b) → b = false) : (perform cfg a o sh).2.roll.Resting s := by
  obtain ⟨k, known, inactive⟩ := resting
  rw [perform_roll]
  cases a
  case store r x =>
    cases subdued
    cases x
    case isActive b =>
      cases unresumed s b rfl
      exact ⟨{ k with active := false }, by simp [Act.onRoll, Roll.setActive, known], rfl⟩
    case closed => exact ⟨{ k with closed := true }, by simp [Act.onRoll, Roll.setClosed, known], inactive⟩
    all_goals exact ⟨k, known, inactive⟩
  case compareExchangeClosed r =>
    cases subdued
    exact ⟨{ k with closed := true }, by simp [Act.onRoll, Roll.setClosed, known], inactive⟩
  case construct | addPowerSession => exact subdued.elim
  all_goals exact ⟨k, known, inactive⟩

theorem log_subdued {a : Act} (subdued : a.Subdued s) (resting : sh.roll.Resting s)
    (others : ∀ r, r ≠ s → sh.roll.ProperAt r) (o : Outcome) :
    Adds (fun w => w.session = s → w.OfOthers cfg s) sh.log (perform cfg a o sh).2.log := by
  cases a
  case setUclampMin r val =>
    obtain ⟨rfl, rfl⟩ := subdued
    have waited : (sh.wait o.elapsed).roll.Resting r := resting
    have written : Adds (Write.OfOthers cfg r) sh.log ((sh.wait o.elapsed).setUclampMinLocked cfg r 0).log :=
      setUclampMin_ofOthers others fun counted => absurd counted waited.not_counted
    exact written.mono fun w good _ => good
  case wakeSessions | earlyBoost => exact subdued.elim
  all_goals exact .refl _

theorem PausedSince.foreign {sh' : Shared} {looper : Call Unit} (since : PausedSince cfg s old c)
    (foreign : Foreign s c.shared sh') (others : ∀ r, r ≠ s → sh'.roll.ProperAt r)
    (handling : looper.All Act.Handling) : PausedSince cfg s old ⟨sh', c.closer, looper⟩ where
  others := others
  resting := foreign.resting since.resting
  looper := handling
  own := since.own
  log := since.log.trans (foreign.log.mono fun _ other mine => absurd mine other)

theorem PausedSince.closer (since : PausedSince cfg s old c) (o : Outcome)
    (unresumed : Call.resumes s c.closer = false) :
    PausedSince cfg s old (turn cfg s c (.closer o)) := by
  obtain ⟨sh, closer, looper⟩ := c
  cases closer with
  | ret status => exact since
  | call a next =>
    obtain ⟨subdued, rest⟩ := since.own
    have inactive : ∀ r b, a = .store r (.isActive b) → b = false := by
      rintro r b rfl
      cases subdued
      simpa [Call.resumes] using unresumed
    exact ⟨fun r other => properAt_on subdued.on other o (since.others r other),
      resting_subdued subdued since.resting o inactive, since.looper,
      rest _ (inPause_reply subdued since.resting o inactive),
      since.log.trans (log_subdued subdued since.resting since.others o)⟩

theorem PausedSince.looper_turn (since : PausedSince cfg s old c) (o : Outcome)
    (calm : (Move.turn (.looper o)).Boosts s c = false) : PausedSince cfg s old (turn cfg s c (.looper o)) := by
  obtain ⟨sh, closer, looper⟩ := c
  cases looper with
  | ret => exact since
  | call a next =>
    obtain ⟨handling, rest⟩ := since.looper
    have same : (perform cfg a o sh).2.roll = sh.roll := (perform_roll cfg a o sh).trans (handling.plain _ _)
    have harmless : a = .earlyBoost s → (sh.wait o.elapsed).boostDue s = false := by
      rintro rfl
      simpa [Move.Boosts, Call.boosts] using calm
    exact ⟨fun r other => same.symm ▸ since.others r other, same.symm ▸ since.resting, rest _, since.own,
      since.log.trans (log_handling_resting handling since.resting since.others o harmless)⟩

/-- What the session's pause is not ended by, and no early boost that is due, keeps the invariant. -/
theorem PausedSince.move (since : PausedSince cfg s old c) (m : Move)
    (fine : m.Resumes s c = false ∧ m.Boosts s c = false) : PausedSince cfg s old (move cfg s c m) := by
  cases m with
  | begin e =>
    simp only [Power.move]
    split
    · rename_i starts
      simp only [Bool.and_eq_true] at starts
      obtain ⟨⟨_, mine⟩, enabled⟩ := starts
      have present : c.shared.sessions s ≠ none := by
        intro absent
        obtain ⟨k, known, _⟩ := since.resting
        simp [View.roll, absent] at known
      exact ⟨since.others, since.resting, since.looper, within_program mine enabled present, since.log⟩
    · exact since
  | turn t =>
    cases t with
    | closer o => exact since.closer o fine.1
    | looper o => exact since.looper_turn o fine.2
    | dispatch m =>
      simp only [Power.move, Power.turn]
      split
      · split
        · exact since.foreign ⟨rfl, Iff.rfl, .refl _⟩ since.others (handling_handleMessage m.handler)
        · exact since
      · exact since
    | other e io =>
      simp only [Power.move, Power.turn]
      split
      · rename_i others
        exact since.foreign (eventStep_foreign others io)
          (fun r other => properAt_eventStep cfg (since.others r other) (e, io)) since.looper
      · exact since

end Since

/-! ### Up to the return of `pause` -/

/-- What holds whatever the session has been called for. -/
structure Tidy (s : Sid) (c : Config) : Prop where
  others : ∀ r, r ≠ s → c.shared.roll.ProperAt r
  looper : c.looper.All Act.Handling
  own : c.closer.All (Act.On s)

/-- The call returns `ok` only after it has made the session inactive. -/
def Call.Pauses (s : Sid) : Call Status → Prop
  | .ret status => status ≠ .ok
  | .call a next =>
    (a = .store s (.isActive false) ∧ ∀ r, (next r).All (Act.Own s)) ∨ ∀ r, Call.Pauses s (next r)

structure Pausing (s : Sid) (c : Config) : Prop where
  tidy : Tidy s c
  present : ∃ k, c.shared.roll.core s = some k
  point : Call.Pauses s c.closer ∨ c.closer.All (Act.Own s) ∧ c.shared.roll.Resting s

section Before

variable {cfg : AdpfConfig} {s : Sid} {sh : Shared} {c : Config}

theorem Tidy.turn (tidy : Tidy s c) (t : Turn) : Tidy s (turn cfg s c t) := by
  obtain ⟨sh, closer, looper⟩ := c
  cases t with
  | closer o =>
    cases closer with
    | ret status => exact tidy
    | call a next =>
      obtain ⟨on, rest⟩ := tidy.own
      exact ⟨fun r other => properAt_on on other o (tidy.others r other), tidy.looper, rest _⟩
  | looper o =>
    cases looper with
    | ret => exact tidy
    | call a next =>
      obtain ⟨handling, rest⟩ := tidy.looper
      have same : (perform cfg a o sh).2.roll = sh.roll := (perform_roll cfg a o sh).trans (handling.plain _ _)
      exact ⟨fun r other => same.symm ▸ tidy.others r other, rest _, tidy.own⟩
  | dispatch m =>
    simp only [Power.turn]
    split
    · split
      · exact ⟨tidy.others, handling_handleMessage m.handler, tidy.own⟩
      · exact tidy
    · exact tidy
  | other e io =>
    simp only [Power.turn]
    split
    · exact ⟨fun r other => properAt_eventStep cfg (tidy.others r other) (e, io), tidy.looper, tidy.own⟩
    · exact tidy

theorem Tidy.move (tidy : Tidy s c) (m : Move) : Tidy s (move cfg s c m) := by
  cases m with
  | begin e =>
    simp only [Power.move]
    split
    · rename_i starts
      simp only [Bool.and_eq_true] at starts
      have target : e.session = some s := by
        cases e <;> first | exact of_decide_eq_true starts.1.2 | exact absurd starts.1.2 (by simp [Event.ofBinder])
      exact ⟨tidy.others, tidy.looper, program_on target⟩
    · exact tidy
  | turn t => exact tidy.turn t

theorem tidy_start : Tidy s .start := ⟨fun _ _ => Roll.properAt_empty, trivial, trivial⟩

theorem tidy_moves (ms : List Move) (tidy : Tidy s c) : Tidy s (moves cfg s c ms) := by
  induction ms generalizing c with
  | nil => exact tidy
  | cons m ms ih => exact ih (tidy.move m)

theorem pauses_pause : Call.Pauses s (pause s) := by
  refine .inr fun (r : Option Session) => ?_
  cases r with
  | none => exact nofun
  | some x =>
    simp only [ifPresent]
    split
    · exact nofun
    · refine .inr fun (r : Option Session) => ?_
      cases r with
      | none => exact nofun
      | some x =>
        simp only [ifPresent]
        split
        · exact nofun
        · refine .inl ⟨rfl, fun _ => own_setStale.bind fun _ => ?_⟩
          exact own_updateUniveralBoostMode.bind fun _ => trivial

theorem present_on {a : Act} (on : a.On s) (o : Outcome) (present : ∃ k, sh.roll.core s = some k) :
    ∃ k, (perform cfg a o sh).2.roll.core s = some k := by
  obtain ⟨k, known⟩ := present
  rw [perform_roll]
  cases a
  case construct =>
    cases on
    exact ⟨_, Roll.setCore_self _ _ _⟩
  case store r x =>
    cases on
    cases x
    case isActive b => exact ⟨{ k with active := b }, by simp [Act.onRoll, Roll.setActive, known]⟩
    case closed => exact ⟨{ k with closed := true }, by simp [Act.onRoll, Roll.setClosed, known]⟩
    all_goals exact ⟨k, known⟩
  case compareExchangeClosed =>
    cases on
    exact ⟨{ k with closed := true }, by simp [Act.onRoll, Roll.setClosed, known]⟩
  all_goals exact ⟨k, known⟩

theorem Pausing.closer (pausing : Pausing s c) (o : Outcome) : Pausing s (turn cfg s c (.closer o)) := by
  have tidy : Tidy s (Power.turn cfg s c (.closer o)) := pausing.tidy.turn (.closer o)
  obtain ⟨sh, closer, looper⟩ := c
  cases closer with
  | ret status => exact pausing
  | call a next =>
    have stepped : (perform cfg a o sh).2.roll = a.onRoll o.applied sh.roll := perform_roll cfg a o sh
    refine ⟨tidy, present_on pausing.tidy.own.1 o pausing.present, ?_⟩
    rcases pausing.point with (⟨stores, rest⟩ | before) | ⟨own, resting⟩
    · obtain ⟨k, known⟩ := pausing.present
      have known : sh.roll.core s = some k := known
      refine .inr ⟨rest _, { k with active := false }, ?_, rfl⟩
      change (perform cfg a o sh).2.roll.core s = _
      rw [stepped, stores]
      simp [Act.onRoll, Roll.setActive, known]
    · exact .inl (before _)
    · refine .inr ⟨own.2 _, ?_⟩
      change (perform cfg a o sh).2.roll.Resting s
      rw [stepped, own.1.plain]
      exact resting

theorem Pausing.turn (pausing : Pausing s c) (t : Turn) : Pausing s (turn cfg s c t) := by
  have tidy : Tidy s (Power.turn cfg s c t) := pausing.tidy.turn t
  -- the roll of the session is as it was after every turn but one of its own
  have kept {c' : Config} (tidy : Tidy s c') (closer : c'.closer = c.closer)
      (core : c'.shared.roll.core s = c.shared.roll.core s) : Pausing s c' := by
    obtain ⟨k, known⟩ := pausing.present
    refine ⟨tidy, ⟨k, core.trans known⟩, closer.symm ▸ pausing.point.imp id fun ⟨own, resting⟩ => ⟨own, ?_⟩⟩
    obtain ⟨k, known, inactive⟩ := resting
    exact ⟨k, core.trans known, inactive⟩
  cases t with
  | closer o => exact pausing.closer o
  | looper o =>
    refine kept tidy rfl ?_
    obtain ⟨sh, closer, looper⟩ := c
    cases looper with
    | ret => rfl
    | call a next =>
      have same := (perform_roll cfg a o sh).trans (pausing.tidy.looper.1.plain _ _)
      exact congrArg (fun ρ => Roll.core ρ s) same
  | dispatch m =>
    refine kept tidy ?_ ?_
    all_goals
      simp only [Power.turn]
      split
      · split <;> rfl
      · rfl
  | other e io =>
    refine kept tidy ?_ ?_
    all_goals
      simp only [Power.turn]
      split
    · rfl
    · rfl
    · rename_i others
      have foreign : Foreign s c.shared (eventStep cfg c.shared (e, io)) := eventStep_foreign others io
      exact congrArg (Option.map Session.core) foreign.sessions
    · rfl

theorem pausing_turns (ts : List Turn) (pausing : Pausing s c) : Pausing s (turns cfg s c ts) := by
  induction ts generalizing c with
  | nil => exact pausing
  | cons t ts ih => exact ih (pausing.turn t)

theorem Pausing.since (pausing : Pausing s c) (ok : Call.returned c.closer = some .ok) :
    PausedSince cfg s c.shared.log c := by
  obtain ⟨sh, closer, looper⟩ := c
  cases closer with
  | call a next => cases ok
  | ret status =>
    cases Option.some.inj ok
    refine ⟨pausing.tidy.others, ?_, pausing.tidy.looper, trivial, .refl _⟩
    rcases pausing.point with refused | ⟨_, resting⟩
    · exact absurd rfl refused
    · exact resting

end Before

/-- In every interleaving, from the return of a `pause` that succeeds to the `resume` that ends it: what
is written for the session is no more than the other registered sessions ask for, if no early boost of
the session is due when the looper handles one. -/
theorem paused_session_boosts_nobody (cfg : AdpfConfig) (s : Sid) (before : List Move) (during : List Turn)
    (after : List Move) :
    let c := moves cfg s .start before
    let paused := turns cfg s (move cfg s c (.begin (.pause s))) during
    (Call.returned c.closer).isSome = true → Event.live c.shared.toView s = true →
      Call.returned paused.closer = some .ok →
      Along (move cfg s) (fun c m => m.Resumes s c = false) paused after →
      Along (move cfg s) (fun c m => m.Boosts s c = false) paused after →
      ∃ added, (moves cfg s paused after).shared.log = added ++ paused.shared.log ∧ ∀ w ∈ added, w.session = s →
        w.value ≤ clampMin (w.view.maxMin cfg (w.view.othersOf s w.tid)) := by
  intro c paused returned live ok unresumed calm
  have begun : Pausing s (move cfg s c (.begin (.pause s))) := by
    have tidy : Tidy s c := tidy_moves before tidy_start
    have starts : move cfg s c (.begin (.pause s)) = { c with closer := pause s } := by
      simp [move, returned, Event.ofBinder, Event.session, Event.enabled, live, Event.program]
    rw [starts]
    obtain ⟨x, found, -⟩ := (Option.any_eq_true _ _).mp live
    have on : ((Event.pause s).program cfg).All (Act.On s) := program_on rfl
    exact ⟨⟨tidy.others, tidy.looper, on⟩, ⟨_, View.roll_core found⟩, .inl pauses_pause⟩
  have since : PausedSince cfg s paused.shared.log paused := (pausing_turns during begun).since ok
  have ended : PausedSince cfg s paused.shared.log (moves cfg s paused after) :=
    foldl_inv (fun _ m since fine => since.move m fine) since (unresumed.and calm)
  obtain ⟨added, grown, good⟩ := ended.log
  exact ⟨added, grown, fun w here mine => le_of_eq (good w here mine).2⟩

namespace Sample

def call (e : Event) : List Move := .begin e :: List.replicate 30 (.turn (.closer (calm 0)))

def handle (m : Message) : List Move := .turn (.dispatch m) :: List.replicate 6 (.turn (.looper (calm 0)))

/-- A session that has armed its early boost for time 14 and shares its thread with another. -/
def reported : List Move :=
  call (.createHintSession 0 1 1000 [7] 10) ++ [.turn (.other (.createHintSession 1 1 1000 [7] 10) calm)] ++
    call (.reportActualWorkDuration 0 [⟨0, 5⟩])

/-- In the middle of the call the looper handles a message of the stale timer. -/
def pausing : List Turn :=
  List.replicate 3 (.closer (calm 0)) ++ [.dispatch ⟨.stale 0, 0⟩] ++ List.replicate 6 (.looper (calm 0)) ++
    List.replicate 8 (.closer (calm 0))

end Sample

/- At time 0 the early-boost handler only posts its message again, and a report is refused. -/
theorem paused_session_boosts_nobody_early :
    let paused := turns Sample.pid 0 (move Sample.pid 0 (moves Sample.pid 0 .start Sample.reported)
      (.begin (.pause 0))) Sample.pausing
    let after := Sample.handle ⟨.earlyBoost 0, 0⟩ ++ Sample.call (.reportActualWorkDuration 0 [⟨0, 5⟩]) ++
      Sample.call (.close 0)
    ∃ added, (moves Sample.pid 0 paused after).shared.log = added ++ paused.shared.log ∧
      ∀ w ∈ added, w.session = 0 →
        w.value ≤ clampMin (w.view.maxMin Sample.pid (w.view.othersOf 0 w.tid)) := by
  refine paused_session_boosts_nobody Sample.pid 0 Sample.reported Sample.pausing _ ?_ ?_ ?_ ?_ ?_
  all_goals decide +kernel

/- At time 14 it boosts the paused session's thread, for which the other session no longer asks. -/
theorem paused_session_early_boost :
    let paused := turns Sample.pid 0 (move Sample.pid 0 (moves Sample.pid 0 .start Sample.reported)
      (.begin (.pause 0))) Sample.pausing
    let after := Sample.handle ⟨.earlyBoost 0, 0⟩ ++ [.turn (.other (.tick 14) Sample.calm)] ++
      Sample.handle ⟨.earlyBoost 0, 14⟩
    Call.returned paused.closer = some .ok ∧
      Along (move Sample.pid 0) (fun c m => m.Resumes 0 c = false) paused after ∧
      ((moves Sample.pid 0 paused after).shared.log.take
        ((moves Sample.pid 0 paused after).shared.log.length - paused.shared.log.length)).map
        (fun w => (w.session, w.tid, w.value, w.view.maxMin Sample.pid (w.view.othersOf 0 7))) =
        [(0, 7, 300, 0)] := by
  decide +kernel

end Pdx215.Power
