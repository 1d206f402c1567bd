import Pdx215.Power.Calls

/-! What matters for the membership of sessions: the manager's registry, and of each session its
threads and whether it is closed and active. Every step acts on this much smaller state in a way
that does not depend on the rest, so that what the calls do to it is read off their steps. -/
namespace Pdx215.Power

open Effect

structure Core where
  threadIds : List Tid
  closed : Bool
  active : Bool

@[ext] structure Roll where
  registry : Registry
  core : Sid → Option Core

def Session.core (x : Session) : Core := ⟨x.threadIds, x.mSessionClosed, x.isActive⟩

def View.roll (v : View) : Roll := ⟨v.registry, fun s => (v.sessions s).map Session.core⟩

namespace Roll

def empty : Roll := ⟨.empty, fun _ => none⟩

def tids (ρ : Roll) (s : Sid) : List Tid := ((ρ.core s).map Core.threadIds).getD []

def setCore (ρ : Roll) (s : Sid) (c : Option Core) : Roll := { ρ with core := Function.update ρ.core s c }

def setActive (ρ : Roll) (s : Sid) (b : Bool) : Roll :=
  ρ.setCore s ((ρ.core s).map fun c => { c with active := b })

def setClosed (ρ : Roll) (s : Sid) : Roll :=
  ρ.setCore s ((ρ.core s).map fun c => { c with closed := true })

def add (ρ : Roll) (s : Sid) (applied : Nat → Bool) : Roll :=
  { ρ with registry := ρ.registry.addPowerSession s (ρ.tids s) applied }

def remove (ρ : Roll) (s : Sid) : Roll :=
  { ρ with registry := ρ.registry.removePowerSession s (ρ.tids s) }

@[simp] theorem setCore_registry (ρ : Roll) (s : Sid) (c : Option Core) :
    (ρ.setCore s c).registry = ρ.registry := rfl
@[simp] theorem setActive_registry (ρ : Roll) (s : Sid) (b : Bool) : (ρ.setActive s b).registry = ρ.registry :=
  rfl
@[simp] theorem setClosed_registry (ρ : Roll) (s : Sid) : (ρ.setClosed s).registry = ρ.registry := rfl
@[simp] theorem add_core (ρ : Roll) (s : Sid) (applied : Nat → Bool) : (ρ.add s applied).core = ρ.core := rfl
@[simp] theorem remove_core (ρ : Roll) (s : Sid) : (ρ.remove s).core = ρ.core := rfl
@[simp] theorem add_registry (ρ : Roll) (s : Sid) (applied : Nat → Bool) :
    (ρ.add s applied).registry = ρ.registry.addPowerSession s (ρ.tids s) applied := rfl
@[simp] theorem remove_registry (ρ : Roll) (s : Sid) :
    (ρ.remove s).registry = ρ.registry.removePowerSession s (ρ.tids s) := rfl

@[simp] theorem setCore_self (ρ : Roll) (s : Sid) (c : Option Core) : (ρ.setCore s c).core s = c := by
  simp [setCore]

@[simp] theorem setCore_ne (ρ : Roll) {s r : Sid} (c : Option Core) (ne : r ≠ s) :
    (ρ.setCore s c).core r = ρ.core r := by
  simp [setCore, ne]

end Roll

def Act.onRoll (applied : Nat → Bool) (ρ : Roll) : Act → Roll
  | .construct s _ _ threadIds _ => ρ.setCore s (some ⟨threadIds, false, true⟩)
  | .store s (.isActive b) => ρ.setActive s b
  | .store s .closed => ρ.setClosed s
  | .compareExchangeClosed s => ρ.setClosed s
  | .addPowerSession s => ρ.add s applied
  | .removePowerSession s => ρ.remove s
  | _ => ρ

section Simulation

@[simp] theorem Shared.lift_toView (sh : Shared) (f : View → View) : (sh.lift f).toView = f sh.toView := rfl

namespace View

variable {v : View} {s : Sid}

@[simp] theorem modify_self (f : Session → Session) : (v.modify s f).sessions s = (v.sessions s).map f := by
  simp [modify]

@[simp] theorem modify_ne {r : Sid} (ne : s ≠ r) (f : Session → Session) :
    (v.modify r f).sessions s = v.sessions s := by
  simp [modify, ne]

theorem modify_some {f : Session → Session} {x' : Session} (found : (v.modify s f).sessions s = some x') :
    ∃ x, v.sessions s = some x ∧ f x = x' := by
  rw [modify_self] at found
  exact Option.map_eq_some_iff.mp found

end View

theorem View.roll_modify (v : View) (s : Sid) (f : Session → Session) (g : Core → Core)
    (same : ∀ x, (f x).core = g x.core) :
    (v.modify s f).roll = v.roll.setCore s ((v.roll.core s).map g) := by
  apply Roll.ext
  · rfl
  · funext r
    by_cases here : r = s
    · subst here
      cases found : v.sessions r <;> simp [View.roll, View.modify, found, same]
    · simp [View.roll, View.modify, here]

theorem Roll.setCore_same (ρ : Roll) (s : Sid) : ρ.setCore s (ρ.core s) = ρ := by
  simp [setCore]

theorem View.roll_modify_same (v : View) (s : Sid) (f : Session → Session) (same : ∀ x, (f x).core = x.core) :
    (v.modify s f).roll = v.roll := by
  rw [View.roll_modify v s f id same, Option.map_id, id_eq, Roll.setCore_same]

theorem updateWorkPeriod_core (actual : List WorkDuration) (x : Session) :
    (x.updateWorkPeriod actual).core = x.core := by
  unfold Session.updateWorkPeriod
  split <;> rfl

theorem Shared.roll_store (sh : Shared) (s : Sid) (x : Store) :
    (sh.store s x).roll = (Act.store s x).onRoll (fun _ => true) sh.roll := by
  cases x
  case isActive b => exact View.roll_modify _ s _ (fun c => { c with active := b }) fun _ => rfl
  case closed => exact View.roll_modify _ s _ (fun c => { c with closed := true }) fun _ => rfl
  case workPeriod actual => exact View.roll_modify_same _ s _ (updateWorkPeriod_core actual)
  all_goals exact View.roll_modify_same _ s _ fun _ => rfl

@[simp] theorem Shared.setUclampMinLocked_toView (cfg : AdpfConfig) (s : Sid) (val : Int) (sh : Shared) :
    (sh.setUclampMinLocked cfg s val).toView = sh.toView := by
  unfold Shared.setUclampMinLocked
  split <;> rfl

theorem Shared.roll_wakeup (cfg : AdpfConfig) (sh : Shared) (s : Sid) : (sh.wakeup cfg s).roll = sh.roll := by
  unfold Shared.wakeup
  split
  · rfl
  · rename_i x _
    split
    · rfl
    · have armed (sh : Shared) : (sh.updateStaleTimer cfg s x).roll = sh.roll := by
        rw [Shared.updateStaleTimer, Shared.roll_store]
        exact Shared.roll_store sh s _
      rw [armed, Shared.setUclampMinLocked_toView]
      exact Shared.roll_store sh s _

theorem Shared.roll_wakeups (cfg : AdpfConfig) (order : List Sid) (sh : Shared) :
    (order.foldl (Shared.wakeup cfg) sh).roll = sh.roll := by
  induction order generalizing sh with
  | nil => rfl
  | cons s order ih => rw [List.foldl_cons, ih, Shared.roll_wakeup]

theorem Shared.roll_earlyBoost (cfg : AdpfConfig) (s : Sid) (sh : Shared) :
    (sh.earlyBoost cfg s).roll = sh.roll := by
  unfold Shared.earlyBoost
  split
  · rfl
  · split
    · rfl
    · split
      · rfl
      · rw [Shared.roll_store]
        simp [Act.onRoll]

theorem View.roll_construct (v : View) (s : Sid) (x : Session) :
    (v.construct s x).roll = v.roll.setCore s (some x.core) := by
  apply Roll.ext
  · rfl
  · funext r
    by_cases here : r = s
    · subst here
      simp [View.roll, View.construct]
    · simp [View.roll, View.construct, here]

@[simp] theorem View.roll_tids (v : View) (s : Sid) : v.roll.tids s = v.getTidList s := by
  cases found : v.sessions s <;> simp [Roll.tids, View.roll, View.getTidList, Session.core, found]

theorem perform_roll (cfg : AdpfConfig) (a : Act) (o : Outcome) (sh : Shared) :
    (perform cfg a o sh).2.roll = a.onRoll o.applied sh.roll := by
  cases a
  case construct s tgid uid threadIds durationNanos => exact View.roll_construct (sh.wait o.elapsed).toView s _
  case store s x =>
    apply (Shared.roll_store (sh.wait o.elapsed) s x).trans
    cases x <;> rfl
  case compareExchangeClosed s => exact Shared.roll_store (sh.wait o.elapsed) s .closed
  case staleDead s => exact View.roll_modify_same (sh.wait o.elapsed).toView s _ fun _ => rfl
  case earlyBoostDead s => exact View.roll_modify_same (sh.wait o.elapsed).toView s _ fun _ => rfl
  case earlyBoost s => exact Shared.roll_earlyBoost cfg s (sh.wait o.elapsed)
  case addPowerSession s =>
    change (Roll.mk ((sh.wait o.elapsed).registry.addPowerSession s _ o.applied) _) = _
    rw [← View.roll_tids]
    rfl
  case removePowerSession s =>
    change (Roll.mk ((sh.wait o.elapsed).registry.removePowerSession s _) _) = _
    rw [← View.roll_tids]
    rfl
  case setUclampMin s val =>
    exact (congrArg View.roll (Shared.setUclampMinLocked_toView cfg s val (sh.wait o.elapsed))).trans rfl
  case wakeSessions => exact Shared.roll_wakeups cfg _ (sh.wait o.elapsed)
  all_goals rfl

end Simulation

/-! ### The steps that leave the roll alone -/

def Act.Plain (a : Act) : Prop := ∀ applied ρ, a.onRoll applied ρ = ρ

/-- The step changes nothing of another session, not even its messages. -/
def Act.On (s : Sid) : Act → Prop
  | .now | .look _ => True
  | .construct r _ _ _ _ | .store r _ | .compareExchangeClosed r | .staleDead r | .earlyBoostDead r => r = s
  | .earlyBoost r | .addPowerSession r | .removePowerSession r | .setUclampMin r _ => r = s
  | .sendMessage h => h = .manager
  | .repost h _ => h = .stale s ∨ h = .earlyBoost s
  | .wakeSessions | .isAnyAppSessionActive => False

structure Act.Own (s : Sid) (a : Act) : Prop where
  plain : a.Plain
  on : a.On s

section Own

variable {cfg : AdpfConfig} {s : Sid}

theorem all_load {α : Type} {kind : Act → Prop} {absent : α} {k : Session → Call α} (look : kind (.look s))
    (rest : ∀ x, (k x).All kind) : (load absent s k).All kind := by
  refine ⟨look, fun (r : Option Session) => ?_⟩
  cases r with
  | none => trivial
  | some x => exact rest x

theorem all_perhaps {kind : Act → Prop} {c : Bool} {p : Call Unit} (all : p.All kind) :
    (perhaps c p).All kind := by
  cases c with
  | false => trivial
  | true => exact all

theorem all_act {kind : Act → Prop} {a : Act} (h : kind a) : (act a).All kind := ⟨h, fun _ => trivial⟩

theorem own_now : Act.Own s .now := ⟨fun _ _ => rfl, trivial⟩

theorem own_look : Act.Own s (.look s) := ⟨fun _ _ => rfl, trivial⟩

theorem own_updateUniveralBoostMode : (updateUniveralBoostMode s).All (Act.Own s) :=
  all_load own_look fun _ => all_perhaps (all_act ⟨fun _ _ => rfl, rfl⟩)

theorem own_updateStaleTimerTo (t : Int) : (updateStaleTimerTo s t).All (Act.Own s) :=
  ⟨⟨fun _ _ => rfl, rfl⟩, fun _ => ⟨⟨fun _ _ => rfl, .inl rfl⟩, fun _ => all_act ⟨fun _ _ => rfl, rfl⟩⟩⟩

theorem own_updateStaleTimer : (updateStaleTimer cfg s).All (Act.Own s) :=
  ⟨own_now, fun _ => all_load own_look fun _ => own_updateStaleTimerTo _⟩

theorem own_updateEarlyBoostTimer (t : Int) : (updateEarlyBoostTimer s t).All (Act.Own s) :=
  ⟨⟨fun _ _ => rfl, rfl⟩, fun _ => ⟨⟨fun _ _ => rfl, .inr rfl⟩, fun _ => all_act ⟨fun _ _ => rfl, rfl⟩⟩⟩

theorem own_updateEarlyBoost (actual : List WorkDuration) : (updateEarlyBoost cfg s actual).All (Act.Own s) :=
  ⟨⟨fun _ _ => rfl, rfl⟩, fun _ => all_load own_look fun _ => own_updateEarlyBoostTimer _⟩

theorem own_setSessionUclampMin (min' : Int) : (setSessionUclampMin cfg s min').All (Act.Own s) :=
  ⟨⟨fun _ _ => rfl, rfl⟩, fun _ => (all_perhaps own_updateStaleTimer).bind fun _ => all_act ⟨fun _ _ => rfl, rfl⟩⟩

theorem own_setStale : (setStale s).All (Act.Own s) :=
  ⟨⟨fun _ _ => rfl, rfl⟩, fun _ => own_updateUniveralBoostMode⟩

theorem own_reportByPid (actual : List WorkDuration) : (reportByPid cfg s actual).All (Act.Own s) := by
  refine all_load own_look fun x => ⟨⟨fun _ _ => rfl, rfl⟩, fun _ => ?_⟩
  refine (all_load own_look fun _ => own_setSessionUclampMin _).bind fun _ => ?_
  refine (all_load own_look fun _ => own_updateStaleTimerTo _).bind fun _ => ?_
  exact all_perhaps (own_updateEarlyBoost actual)

theorem own_acceptReport (actual : List WorkDuration) : (acceptReport cfg s actual).All (Act.Own s) := by
  refine ⟨⟨fun _ _ => rfl, rfl⟩, fun _ => ⟨own_now, fun _ => all_load own_look fun x => ?_⟩⟩
  refine ⟨own_now, fun _ => ⟨⟨fun _ _ => rfl, rfl⟩, fun _ => ?_⟩⟩
  refine (all_perhaps own_updateUniveralBoostMode).bind fun _ => ?_
  split
  · exact own_reportByPid actual
  · exact own_setSessionUclampMin _

theorem own_updateTargetWorkDuration (target : Int) :
    (updateTargetWorkDuration cfg s target).All (Act.Own s) := by
  refine all_load own_look fun x => ?_
  split
  · trivial
  · split
    · trivial
    · exact (all_act ⟨fun _ _ => rfl, rfl⟩).bind fun _ => trivial

theorem own_reportActualWorkDuration (actual : List WorkDuration) :
    (reportActualWorkDuration cfg s actual).All (Act.Own s) := by
  refine all_load own_look fun x => ?_
  split
  · trivial
  · refine all_load own_look fun x => ?_
    split
    · trivial
    · split
      · trivial
      · refine all_load own_look fun x => ?_
        split
        · trivial
        · exact (own_acceptReport actual).bind fun _ => trivial

theorem own_handleStale : (handleStale s).All (Act.Own s) := by
  refine all_load own_look fun x => ?_
  split
  · trivial
  · refine ⟨own_now, fun (now : Int) => all_load own_look fun x => ?_⟩
    split
    · exact all_act ⟨fun _ _ => rfl, .inl rfl⟩
    · exact own_setStale.bind fun _ => all_act ⟨fun _ _ => rfl, rfl⟩

theorem plain_handleMessage (h : Handler) : (handleMessage h).All Act.Plain := by
  cases h with
  | stale s => exact own_handleStale.mono fun _ own => own.plain
  | earlyBoost s => exact all_act fun _ _ => rfl
  | manager => exact all_act fun _ _ => rfl
  | wakeup => exact all_act fun _ _ => rfl

end Own

/-! ### The other steps of each call -/

section Kinds

variable {cfg : AdpfConfig} {s : Sid} {kind : Act → Prop}

theorem all_pause (own : ∀ a, Act.Own s a → kind a) (stop : kind (.store s (.isActive false))) :
    (pause s).All kind := by
  refine all_load (own _ own_look) fun x => ?_
  split
  · trivial
  · refine all_load (own _ own_look) fun x => ?_
    split
    · trivial
    · refine ⟨stop, fun _ => (own_setStale.mono own).bind fun _ => ?_⟩
      exact (own_updateUniveralBoostMode.mono own).bind fun _ => trivial

theorem all_resume (own : ∀ a, Act.Own s a → kind a) (go : kind (.store s (.isActive true))) :
    (resume cfg s).All kind := by
  refine all_load (own _ own_look) fun x => ?_
  split
  · trivial
  · refine all_load (own _ own_look) fun x => ?_
    split
    · trivial
    · refine ⟨go, fun _ => ?_⟩
      refine (all_load (own _ own_look) fun _ => (own_setSessionUclampMin _).mono own).bind fun _ => ?_
      exact (own_updateUniveralBoostMode.mono own).bind fun _ => trivial

theorem all_close (own : ∀ a, Act.Own s a → kind a) (exchange : kind (.compareExchangeClosed s))
    (remove : kind (.removePowerSession s)) (closed : kind (.store s .closed))
    (stop : kind (.store s (.isActive false))) : (close cfg s).All kind := by
  refine ⟨exchange, fun (exchanged : Bool) => ?_⟩
  cases exchanged with
  | false => trivial
  | true =>
    refine ⟨remove, fun _ => ((own_setSessionUclampMin 0).mono own).bind fun _ => ?_⟩
    have told : (act (.earlyBoostDead s)).All (Act.Own s) := all_act ⟨fun _ _ => rfl, rfl⟩
    have told' : (act (.staleDead s)).All (Act.Own s) := all_act ⟨fun _ _ => rfl, rfl⟩
    refine ⟨closed, fun _ => ⟨stop, fun _ => (told.mono own).bind fun _ => (told'.mono own).bind fun _ => ?_⟩⟩
    exact (own_updateUniveralBoostMode.mono own).bind fun _ => trivial

theorem all_enroll (own : ∀ a, Act.Own s a → kind a) (durationNanos : Int)
    (add : kind (.addPowerSession s)) : (enroll cfg s durationNanos).All kind := by
  have updated : (readClock fun t => act (.store s (.lastUpdatedTime t))).All kind :=
    ⟨own _ own_now, fun _ => all_act (own _ ⟨fun _ _ => rfl, rfl⟩)⟩
  have started : (readClock fun t => act (.store s (.lastStartedTime (t - durationNanos)))).All kind :=
    ⟨own _ own_now, fun _ => all_act (own _ ⟨fun _ _ => rfl, rfl⟩)⟩
  refine updated.bind fun _ => started.bind fun _ => (all_act add).bind fun _ => ?_
  exact (own_setSessionUclampMin _).mono own

def Event.session : Event → Option Sid
  | .createHintSession s .. | .close s | .destroy s | .pause s | .resume s => some s
  | .updateTargetWorkDuration s _ | .reportActualWorkDuration s _ => some s
  | .deliver ⟨.stale s, _⟩ | .deliver ⟨.earlyBoost s, _⟩ => some s
  | _ => none

theorem program_on {e : Event} (target : e.session = some s) : (e.program cfg).All (Act.On s) := by
  have own (a : Act) (own : Act.Own s a) : a.On s := own.on
  cases e with
  | createHintSession r tgid uid threadIds durationNanos =>
    cases target
    simp only [Event.program, createHintSession]
    split
    · trivial
    · split
      · trivial
      · have made : (act (.construct s tgid uid threadIds durationNanos)).All (Act.On s) := all_act rfl
        exact (made.bind fun _ => all_enroll own durationNanos rfl).bind fun _ => trivial
  | close r =>
    cases target
    exact all_close own rfl rfl rfl rfl
  | destroy r =>
    cases target
    exact (all_close own rfl rfl rfl rfl).bind fun _ => ⟨rfl, fun _ => trivial⟩
  | pause r =>
    cases target
    exact all_pause own rfl
  | resume r =>
    cases target
    exact all_resume own rfl
  | updateTargetWorkDuration r t =>
    cases target
    exact (own_updateTargetWorkDuration t).mono own
  | reportActualWorkDuration r actual =>
    cases target
    exact (own_reportActualWorkDuration actual).mono own
  | displayUpdate => cases target
  | deliver m =>
    obtain ⟨h, due⟩ := m
    cases h with
    | stale r =>
      cases target
      exact (own_handleStale.mono own).bind fun _ => trivial
    | earlyBoost r =>
      cases target
      exact ⟨rfl, fun _ => trivial⟩
    | manager => cases target
    | wakeup => cases target
  | tick elapsed => cases target

end Kinds

/-! ### What an event does to the roll -/

/-- The constructor and `addPowerSession` in it. -/
def Roll.enlist (ρ : Roll) (s : Sid) (threadIds : List Tid) (applied : Nat → Bool) : Roll :=
  (ρ.setCore s (some ⟨threadIds, false, true⟩)).add s applied

/-- The first `close` of a session. -/
def Roll.discharge (ρ : Roll) (s : Sid) : Roll := (((ρ.setClosed s).remove s).setClosed s).setActive s false

def Roll.Open (ρ : Roll) (s : Sid) : Prop := ∃ c, ρ.core s = some c ∧ c.closed = false

inductive RollStep (allowed : (Nat → Bool) → Prop) : Roll → Roll → Prop where
  | stay (ρ : Roll) : RollStep allowed ρ ρ
  | enlist (ρ : Roll) (s : Sid) (threadIds : List Tid) (applied : Nat → Bool) :
    ρ.core s = none → allowed applied → RollStep allowed ρ (ρ.enlist s threadIds applied)
  | discharge (ρ : Roll) (s : Sid) : ρ.Open s → RollStep allowed ρ (ρ.discharge s)
  | setActive (ρ : Roll) (s : Sid) (b : Bool) : ρ.Open s → RollStep allowed ρ (ρ.setActive s b)

theorem RollStep.to {allowed : (Nat → Bool) → Prop} {ρ ρ' ρ'' : Roll} (step : RollStep allowed ρ ρ')
    (same : ρ'' = ρ') : RollStep allowed ρ ρ'' :=
  same ▸ step

section Events

variable {cfg : AdpfConfig} {s : Sid} {allowed : (Nat → Bool) → Prop} {ρ : Roll} {n : Nat} {sh : Shared}

/-- No crash condition: only whole calls are looked at here. -/
abbrev wpCall (cfg : AdpfConfig) (allowed : (Nat → Bool) → Prop) {α : Type} (p : Call α)
    (post : α → Nat → Shared → Prop) (n : Nat) (sh : Shared) : Prop :=
  wp (perform cfg) (fun _ o => allowed o.applied) (fun _ => True) p post n sh

theorem wp_plain {α : Type} {p : Call α} (plain : p.All Act.Plain) (now : sh.roll = ρ) :
    wpCall cfg allowed p (fun _ _ v => v.roll = ρ) n sh := by
  refine wp_all plain (fun _ _ => trivial) (fun a h _ o w _ same => ?_) now
  rw [perform_roll, h, same]

theorem wp_own {α : Type} {p : Call α} (own : p.All (Act.Own s)) (now : sh.roll = ρ) :
    wpCall cfg allowed p (fun _ _ v => v.roll = ρ) n sh :=
  wp_plain (own.mono fun _ own => own.plain) now

theorem wp_act {a : Act} (now : sh.roll = ρ) :
    wpCall cfg allowed (act a) (fun _ _ v => ∃ applied, allowed applied ∧ v.roll = a.onRoll applied ρ) n sh :=
  ⟨trivial, fun o fit => ⟨trivial, o.applied, fit, by rw [perform_roll, now]⟩⟩

theorem wp_look {α : Type} {fits : Nat → Outcome → Prop} {absent : α} {k : Session → Call α}
    {post : α → Nat → Shared → Prop} (gone : ∀ e, sh.sessions s = none → post absent (n + 1) (sh.wait e))
    (rest : ∀ x e, sh.sessions s = some x →
      wp (perform cfg) fits (fun _ => True) (k x) post (n + 1) (sh.wait e)) :
    wp (perform cfg) fits (fun _ => True) (load absent s k) post n sh := by
  refine ⟨trivial, fun o _ => ?_⟩
  change wp (perform cfg) fits _ (ifPresent absent k (sh.sessions s)) post _ _
  cases found : sh.sessions s with
  | none => exact ⟨trivial, gone o.elapsed found⟩
  | some x => exact rest x o.elapsed found

theorem wp_load {α : Type} {absent : α} {k : Session → Call α} {post : α → Nat → Shared → Prop}
    (now : sh.roll = ρ) (gone : ∀ m v, v.roll = ρ → post absent m v)
    (rest : ∀ x m v, v.sessions s = some x → v.roll = ρ → wpCall cfg allowed (k x) post m v) :
    wpCall cfg allowed (load absent s k) post n sh := by
  refine wp_look (fun e _ => gone _ _ ?_) fun x e found => rest x _ _ found ?_
  all_goals exact now

theorem View.roll_core {v : View} {x : Session} (found : v.sessions s = some x) : v.roll.core s = some x.core := by
  simp [View.roll, found]

theorem View.open_iff (v : View) :
    v.roll.Open s ↔ (v.sessions s).any (fun x => !x.mSessionClosed) = true := by
  cases found : v.sessions s <;> simp [Roll.Open, View.roll, Session.core, found]

theorem Roll.setClosed_of_not_open (closed : ¬ ρ.Open s) : ρ.setClosed s = ρ := by
  have same : (ρ.core s).map (fun c => { c with closed := true }) = ρ.core s := by
    cases found : ρ.core s with
    | none => rfl
    | some c =>
      have : c.closed = true := by
        by_contra h
        exact closed ⟨c, found, by simpa using h⟩
      simp [← this]
  rw [Roll.setClosed, same, Roll.setCore_same]

theorem wp_pause (now : sh.roll = ρ) :
    wpCall cfg allowed (pause s) (fun _ _ v => RollStep allowed ρ v.roll) n sh := by
  refine wp_load now (fun _ _ same => (RollStep.stay ρ).to same) fun x m v found same => ?_
  refine wp_ite (fun _ => ⟨trivial, (RollStep.stay ρ).to same⟩) fun unclosed => ?_
  have isOpen : ρ.Open s := ⟨x.core, same ▸ View.roll_core found, by simpa [Session.core] using unclosed⟩
  refine wp_load same (fun _ _ same => (RollStep.stay ρ).to same) fun x m v _ same => ?_
  refine wp_ite (fun _ => ⟨trivial, (RollStep.stay ρ).to same⟩) fun _ => ?_
  refine wp_seq (wp_act same) fun _ m v _ stored => ?_
  obtain ⟨applied, _, stored⟩ := stored
  refine wp_seq (wp_own own_setStale stored) fun _ m v _ same => ?_
  refine wp_seq (wp_own own_updateUniveralBoostMode same) fun _ m v _ same => ?_
  exact ⟨trivial, (RollStep.setActive ρ s false isOpen).to same⟩

theorem wp_resume (now : sh.roll = ρ) :
    wpCall cfg allowed (resume cfg s) (fun _ _ v => RollStep allowed ρ v.roll) n sh := by
  refine wp_load now (fun _ _ same => (RollStep.stay ρ).to same) fun x m v found same => ?_
  refine wp_ite (fun _ => ⟨trivial, (RollStep.stay ρ).to same⟩) fun unclosed => ?_
  have isOpen : ρ.Open s := ⟨x.core, same ▸ View.roll_core found, by simpa [Session.core] using unclosed⟩
  refine wp_load same (fun _ _ same => (RollStep.stay ρ).to same) fun x m v _ same => ?_
  refine wp_ite (fun _ => ⟨trivial, (RollStep.stay ρ).to same⟩) fun _ => ?_
  refine wp_seq (wp_act same) fun _ m v _ stored => ?_
  obtain ⟨applied, _, stored⟩ := stored
  refine wp_seq (wp_own (all_load own_look fun _ => own_setSessionUclampMin _) stored)
    fun _ m v _ same => ?_
  refine wp_seq (wp_own own_updateUniveralBoostMode same) fun _ m v _ same => ?_
  exact ⟨trivial, (RollStep.setActive ρ s true isOpen).to same⟩

theorem wp_closeHandlers (now : sh.roll = ρ) :
    wpCall cfg allowed (closeHandlers s) (fun _ _ v => v.roll = (ρ.setClosed s).setActive s false) n sh := by
  refine wp_seq (wp_act now) fun _ m v _ stored => ?_
  obtain ⟨_, _, stored⟩ := stored
  refine wp_seq (wp_act stored) fun _ m v _ stored => ?_
  obtain ⟨_, _, stored⟩ := stored
  refine wp_seq (wp_plain (all_act fun _ _ => rfl) stored) fun _ m v _ same => ?_
  refine wp_seq (wp_plain (all_act fun _ _ => rfl) same) fun _ m v _ same => ?_
  exact wp_seq (wp_own own_updateUniveralBoostMode same) fun _ m v _ same => ⟨trivial, same⟩

theorem wp_close (now : sh.roll = ρ) :
    wpCall cfg allowed (close cfg s) (fun _ _ v => RollStep allowed ρ v.roll) n sh := by
  refine ⟨trivial, fun o _ => ?_⟩
  have marked : (perform cfg (.compareExchangeClosed s) o sh).2.roll = ρ.setClosed s := by
    rw [perform_roll, now]
    rfl
  have exchanged_iff : ((sh.wait o.elapsed).sessions s).any (fun x => !x.mSessionClosed) = true ↔ ρ.Open s :=
    now ▸ (View.open_iff (sh.wait o.elapsed).toView).symm
  change wpCall cfg allowed (if ((sh.wait o.elapsed).sessions s).any (fun x => !x.mSessionClosed) = true
    then closeExchanged cfg s else .ret .illegalState) _ _ _
  refine wp_ite (fun exchanged => ?_) fun refused => ?_
  · refine wp_seq (wp_act marked) fun _ m v _ removed => ?_
    obtain ⟨_, _, removed⟩ := removed
    refine wp_seq (wp_own (own_setSessionUclampMin 0) removed) fun _ m v _ same => ?_
    refine wp_mono (wp_closeHandlers same) fun _ m v _ same => ?_
    exact (RollStep.discharge ρ s (exchanged_iff.mp exchanged)).to same
  · refine ⟨trivial, (RollStep.stay ρ).to ?_⟩
    rw [marked, Roll.setClosed_of_not_open (exchanged_iff.not.mp refused)]

theorem wp_destroy (now : sh.roll = ρ) :
    wpCall cfg allowed (destroy cfg s) (fun _ _ v => RollStep allowed ρ v.roll) n sh := by
  refine wp_seq (wp_close now) fun _ m v _ closed => ?_
  refine wp_seq (wp_plain (all_act fun _ _ => rfl) rfl) fun _ m v _ same => ?_
  exact ⟨trivial, closed.to same⟩

theorem wp_createHintSession (tgid uid : Int) (threadIds : List Tid) (durationNanos : Int)
    (new : ρ.core s = none) (now : sh.roll = ρ) :
    wpCall cfg allowed (createHintSession cfg s tgid uid threadIds durationNanos)
      (fun _ _ v => RollStep allowed ρ v.roll) n sh := by
  refine wp_ite (fun _ => ⟨trivial, (RollStep.stay ρ).to now⟩) fun _ => ?_
  refine wp_ite (fun _ => ⟨trivial, (RollStep.stay ρ).to now⟩) fun _ => ?_
  refine wp_seq ?_ fun _ m v _ created => ⟨trivial, created⟩
  refine wp_seq (wp_act now) fun _ m v _ stored => ?_
  obtain ⟨_, _, stored⟩ := stored
  refine wp_seq (wp_plain ⟨fun _ _ => rfl, fun _ => all_act fun _ _ => rfl⟩ stored) fun _ m v _ same => ?_
  refine wp_seq (wp_plain ⟨fun _ _ => rfl, fun _ => all_act fun _ _ => rfl⟩ same) fun _ m v _ same => ?_
  refine wp_seq (wp_act same) fun _ m v _ added => ?_
  obtain ⟨applied, fit, added⟩ := added
  refine wp_mono (wp_own (own_setSessionUclampMin _) added) fun _ m v _ same => ?_
  exact (RollStep.enlist ρ s threadIds applied new fit).to same

theorem wp_program (e : Event) (enabled : e.enabled sh.toView = true) :
    wpCall cfg allowed (e.program cfg) (fun _ _ v => RollStep allowed sh.roll v.roll) n
      (sh.lift fun v => e.begin v) := by
  have began : (sh.lift fun v => e.begin v).roll = sh.roll := by cases e <;> rfl
  have plainly {p : Call Status} (plain : p.All Act.Plain) :
      wpCall cfg allowed p (fun _ _ v => RollStep allowed sh.roll v.roll) n (sh.lift fun v => e.begin v) :=
    wp_mono (wp_plain plain began) fun _ _ _ _ same => (RollStep.stay _).to same
  cases e with
  | createHintSession s tgid uid threadIds durationNanos =>
    refine wp_createHintSession tgid uid threadIds durationNanos ?_ began
    simpa [Event.enabled, View.roll] using enabled
  | close s => exact wp_close began
  | destroy s => exact wp_destroy began
  | pause s => exact wp_pause began
  | resume s => exact wp_resume began
  | updateTargetWorkDuration s target => exact plainly ((own_updateTargetWorkDuration target).mono fun _ own => own.plain)
  | reportActualWorkDuration s actual => exact plainly ((own_reportActualWorkDuration actual).mono fun _ own => own.plain)
  | displayUpdate => exact plainly ((all_act fun _ _ => rfl).bind fun _ => trivial)
  | deliver m => exact plainly ((plain_handleMessage m.handler).bind fun _ => trivial)
  | tick elapsed => exact plainly trivial

end Events

theorem eventStep_roll {allowed : (Nat → Bool) → Prop} (cfg : AdpfConfig) (sh : Shared)
    (e : Event × (Nat → Outcome)) (fit : ∀ n, allowed (e.2 n).applied) :
    RollStep allowed sh.roll (eventStep cfg sh e).roll := by
  unfold eventStep
  split
  · rename_i enabled
    have whole : wpCall cfg allowed (e.1.program cfg) (fun _ _ v => RollStep allowed sh.roll v.roll) 0
        (sh.lift fun v => e.1.begin v) := wp_program e.1 enabled
    obtain ⟨_, stepped⟩ := exec_post whole fit
    exact stepped
  · exact .stay sh.roll

theorem run_roll {allowed : (Nat → Bool) → Prop} (kept : Roll → Prop)
    (step : ∀ ρ ρ', kept ρ → RollStep allowed ρ ρ' → kept ρ') (cfg : AdpfConfig)
    (events : List (Event × (Nat → Outcome))) (fit : ∀ e ∈ events, ∀ n, allowed (e.2 n).applied)
    (sh : Shared) (now : kept sh.roll) : kept (run cfg sh events).roll := by
  induction events generalizing sh with
  | nil => exact now
  | cons e events ih =>
    refine ih (fun e' here => fit e' (List.mem_cons_of_mem e here)) _ ?_
    exact step _ _ now (eventStep_roll cfg sh e (fit e List.mem_cons_self))

end Pdx215.Power
