import Pdx215.Power.Writes

/-! A session's `close` on a binder thread while the looper runs its handlers: between the steps of
the one the steps of the other may come, and whole calls of other sessions. What each kind of step
can do to the session is said here once. -/
namespace Pdx215.Power

open Effect

structure Config where
  shared : Shared
  closer : Call Status
  looper : Call Unit

/-- Whose step comes next. An idle looper takes a message that is due. -/
inductive Turn where
  | closer (o : Outcome)
  | looper (o : Outcome)
  | dispatch (m : Message)
  | other (e : Event) (io : Nat → Outcome)

def advance {α : Type} (cfg : AdpfConfig) (o : Outcome) (sh : Shared) : Call α → Call α × Shared
  | .ret a => (.ret a, sh)
  | .call a next => (next (perform cfg a o sh).1, (perform cfg a o sh).2)

def Event.ofOthers (s : Sid) : Event → Bool
  | .deliver _ => false
  | e => decide (e.session ≠ some s)

def turn (cfg : AdpfConfig) (s : Sid) (c : Config) : Turn → Config
  | .closer o => { c with
      closer := (advance cfg o c.shared c.closer).1
      shared := (advance cfg o c.shared c.closer).2 }
  | .looper o => { c with
      looper := (advance cfg o c.shared c.looper).1
      shared := (advance cfg o c.shared c.looper).2 }
  | .dispatch m =>
    match c.looper with
    | .ret _ =>
      if (Event.deliver m).enabled c.shared.toView then
        { c with looper := handleMessage m.handler, shared := c.shared.lift fun v => (Event.deliver m).begin v }
      else c
    | .call _ _ => c
  | .other e io => if e.ofOthers s then { c with shared := eventStep cfg c.shared (e, io) } else c

def turns (cfg : AdpfConfig) (s : Sid) (c : Config) (ts : List Turn) : Config := ts.foldl (turn cfg s) c

/-! ### Steps for other sessions -/

structure Foreign (s : Sid) (sh sh' : Shared) : Prop where
  sessions : sh'.sessions s = sh.sessions s
  member : s ∈ sh'.registry.mSessions ↔ s ∈ sh.registry.mSessions
  log : Adds (fun w => w.session ≠ s) sh.log sh'.log

section Foreign

variable {cfg : AdpfConfig} {s r : Sid} {sh sh' sh'' : Shared}

theorem Foreign.refl (sh : Shared) : Foreign s sh sh := ⟨rfl, Iff.rfl, .refl _⟩

theorem Foreign.trans (first : Foreign s sh sh') (second : Foreign s sh' sh'') : Foreign s sh sh'' :=
  ⟨second.sessions.trans first.sessions, second.member.trans first.member, first.log.trans second.log⟩

theorem foreign_modify (other : r ≠ s) (f : Session → Session) : Foreign s sh (sh.lift fun v => v.modify r f) :=
  ⟨View.modify_ne other.symm f, Iff.rfl, .refl _⟩

theorem foreign_setUclampMinLocked (other : r ≠ s) (val : Int) :
    Foreign s sh (sh.setUclampMinLocked cfg r val) := by
  have same := Shared.setUclampMinLocked_toView cfg r val sh
  refine ⟨congrArg (fun v => v.sessions s) same, ?_, ?_⟩
  · exact iff_of_eq (congrArg (fun v => s ∈ v.registry.mSessions) same)
  · exact (setUclampMinLocked_adds cfg r val sh).mono fun w made => made.2.1 ▸ other

theorem foreign_earlyBoost (other : r ≠ s) : Foreign s sh (sh.earlyBoost cfg r) := by
  unfold Shared.earlyBoost
  split
  · exact .refl _
  · split
    · exact .refl _
    · split
      · exact ⟨rfl, Iff.rfl, .refl _⟩
      · exact (foreign_setUclampMinLocked other _).trans (foreign_modify other _)

theorem foreign_updateStaleTimer (other : r ≠ s) (x : Session) : Foreign s sh (sh.updateStaleTimer cfg r x) := by
  refine .trans ?_ (foreign_modify other _)
  exact .trans (foreign_modify other _) ⟨rfl, Iff.rfl, .refl _⟩

theorem foreign_wakeup (other : r ≠ s) : Foreign s sh (sh.wakeup cfg r) := by
  unfold Shared.wakeup
  split
  · exact .refl _
  · split
    · exact .refl _
    · refine .trans ?_ (foreign_updateStaleTimer other _)
      refine .trans ?_ (foreign_setUclampMinLocked other _)
      exact foreign_modify other _

theorem foreign_wakeups (order : List Sid) (others : ∀ r ∈ order, r ≠ s) :
    Foreign s sh (order.foldl (Shared.wakeup cfg) sh) := by
  induction order generalizing sh with
  | nil => exact .refl _
  | cons r order ih =>
    refine (foreign_wakeup (others r List.mem_cons_self)).trans (ih ?_)
    exact fun r' here => others r' (List.mem_cons_of_mem r here)

theorem mem_of_mem_inOrder {order : List Sid} {among : Finset Sid} (here : r ∈ Shared.inOrder order among) :
    r ∈ among := by
  simp only [Shared.inOrder, List.mem_append, List.mem_filter, decide_eq_true_eq] at here
  rcases here with here | here
  · exact here.2
  · exact here.2.1

/-- A session that the manager has removed is not woken. -/
theorem foreign_wakeSessions (order : List Sid) (removed : s ∉ sh.registry.mSessions) :
    Foreign s sh (sh.wakeSessions cfg order) :=
  foreign_wakeups _ fun _ here same => removed (same ▸ mem_of_mem_inOrder here)

theorem perform_foreign {a : Act} (on : a.On r) (other : r ≠ s) (o : Outcome) (sh : Shared) :
    Foreign s sh (perform cfg a o sh).2 := by
  have waited : Foreign s sh (sh.wait o.elapsed) := ⟨rfl, Iff.rfl, .refl _⟩
  apply waited.trans
  cases a
  case construct =>
    cases on
    exact ⟨Function.update_of_ne other.symm _ _, Iff.rfl, .refl _⟩
  case store =>
    cases on
    exact foreign_modify other _
  case compareExchangeClosed =>
    cases on
    exact foreign_modify other _
  case staleDead =>
    cases on
    exact (foreign_modify other _).trans ⟨rfl, Iff.rfl, .refl _⟩
  case earlyBoostDead =>
    cases on
    exact (foreign_modify other _).trans ⟨rfl, Iff.rfl, .refl _⟩
  case earlyBoost =>
    cases on
    exact foreign_earlyBoost other
  case addPowerSession =>
    cases on
    refine ⟨rfl, ?_, .refl _⟩
    simp [perform, performNow, View.addPowerSession, other.symm]
  case removePowerSession =>
    cases on
    refine ⟨rfl, ?_, .refl _⟩
    simp [perform, performNow, View.removePowerSession, other.symm]
  case setUclampMin val =>
    cases on
    exact foreign_setUclampMinLocked other val
  case wakeSessions => exact on.elim
  all_goals exact ⟨rfl, Iff.rfl, .refl _⟩

theorem eventStep_foreign {e : Event} (others : e.ofOthers s = true) (io : Nat → Outcome) :
    Foreign s sh (eventStep cfg sh (e, io)) := by
  have began : Foreign s sh (sh.lift fun v => e.begin v) := by cases e <;> exact ⟨rfl, Iff.rfl, .refl _⟩
  have kept : wpCall cfg (fun _ => True) (e.program cfg) (fun _ _ v => Foreign s sh v) 0
      (sh.lift fun v => e.begin v) := by
    cases target : e.session with
    | some r =>
      have other : r ≠ s := by
        rintro rfl
        cases e <;> simp_all [Event.ofOthers]
      exact wp_all (program_on target) (fun _ _ => trivial)
        (fun _ on _ o w _ now => now.trans (perform_foreign on other o w)) began
    | none =>
      cases e with
      | displayUpdate => exact ⟨trivial, fun o _ => ⟨trivial, began.trans ⟨rfl, Iff.rfl, .refl _⟩⟩⟩
      | tick elapsed => exact ⟨trivial, began⟩
      | deliver m => cases others
      | _ => cases target
  unfold eventStep
  split
  · obtain ⟨_, done⟩ := exec_post kept fun _ => trivial
    exact done
  · exact .refl _

end Foreign

/-! ### Steps of the handlers -/

def Act.Handling : Act → Prop
  | .now | .look _ | .sendMessage _ | .repost _ _ | .earlyBoost _ | .wakeSessions | .isAnyAppSessionActive => True
  | .store _ (.staleMonitoring _) => True
  | .setUclampMin _ val => val = 0
  | _ => False

theorem handling_handleMessage (h : Handler) : (handleMessage h).All Act.Handling := by
  cases h with
  | stale s =>
    refine all_load trivial fun x => ?_
    split
    · trivial
    · refine ⟨trivial, fun (now : Int) => all_load trivial fun x => ?_⟩
      split
      · exact all_act trivial
      · refine Prog.All.bind ⟨rfl, fun _ => ?_⟩ fun _ => all_act trivial
        exact all_load trivial fun _ => all_perhaps (all_act trivial)
  | earlyBoost s => exact all_act trivial
  | manager => exact all_act trivial
  | wakeup => exact all_act trivial

theorem Act.Handling.plain {a : Act} (handling : a.Handling) : a.Plain := by
  intro applied ρ
  cases a
  case store s x => cases x <;> first | rfl | exact handling.elim
  case setUclampMin => rfl
  case construct | compareExchangeClosed | addPowerSession | removePowerSession => exact handling.elim
  all_goals rfl

/-- What is kept of a session that the manager has removed. -/
structure Near (s : Sid) (sh sh' : Shared) : Prop where
  session : ∀ x, sh.sessions s = some x → ∃ x', sh'.sessions s = some x' ∧ x'.currentMin = x.currentMin ∧
    (x.mEarlyBoostHandler.mIsSessionDead = true → x'.mEarlyBoostHandler.mIsSessionDead = true)
  member : s ∈ sh'.registry.mSessions ↔ s ∈ sh.registry.mSessions

section Near

variable {cfg : AdpfConfig} {s r : Sid} {sh sh' sh'' : Shared}

theorem Near.trans (first : Near s sh sh') (second : Near s sh' sh'') : Near s sh sh'' := by
  refine ⟨fun x found => ?_, second.member.trans first.member⟩
  obtain ⟨x', found', min', dead'⟩ := first.session x found
  obtain ⟨x'', found'', min'', dead''⟩ := second.session x' found'
  exact ⟨x'', found'', min''.trans min', fun dead => dead'' (dead' dead)⟩

theorem Foreign.near (foreign : Foreign s sh sh') : Near s sh sh' :=
  ⟨fun x found => ⟨x, foreign.sessions ▸ found, rfl, id⟩, foreign.member⟩

theorem Near.of_same (sessions : sh'.sessions s = sh.sessions s)
    (members : sh'.registry.mSessions = sh.registry.mSessions) : Near s sh sh' :=
  ⟨fun x found => ⟨x, sessions ▸ found, rfl, id⟩, members ▸ Iff.rfl⟩

theorem Near.of_view (same : sh'.toView = sh.toView) : Near s sh sh' :=
  .of_same (congrArg (fun v => v.sessions s) same) (congrArg (fun v => v.registry.mSessions) same)

theorem near_wait (elapsed : Nat) : Near s sh (sh.wait elapsed) := .of_same rfl rfl

theorem near_modify (r : Sid) (f : Session → Session)
    (same : ∀ x, (f x).currentMin = x.currentMin ∧ (x.mEarlyBoostHandler.mIsSessionDead = true →
      (f x).mEarlyBoostHandler.mIsSessionDead = true)) : Near s sh (sh.lift fun v => v.modify r f) := by
  refine ⟨fun x found => ?_, Iff.rfl⟩
  by_cases here : s = r
  · subst here
    refine ⟨f x, ?_, same x⟩
    simp [found]
  · refine ⟨x, ?_, rfl, id⟩
    simpa [here] using found

theorem near_earlyBoost (r : Sid) : Near s sh (sh.earlyBoost cfg r) := by
  unfold Shared.earlyBoost
  split
  · exact .of_view rfl
  · split
    · exact .of_view rfl
    · split
      · exact .of_same rfl rfl
      · exact (Near.of_view (Shared.setUclampMinLocked_toView ..)).trans (near_modify r _ fun _ => ⟨rfl, id⟩)

theorem near_handling {a : Act} (handling : a.Handling) (removed : s ∉ sh.registry.mSessions) (o : Outcome) :
    Near s sh (perform cfg a o sh).2 := by
  apply (near_wait o.elapsed).trans
  cases a
  case store r x =>
    cases x
    case staleMonitoring b => exact near_modify r _ fun _ => ⟨rfl, id⟩
    all_goals exact handling.elim
  case earlyBoost r => exact near_earlyBoost r
  case setUclampMin r val => exact .of_view (Shared.setUclampMinLocked_toView cfg r val _)
  case wakeSessions =>
    have foreign : Foreign s (sh.wait o.elapsed) ((sh.wait o.elapsed).wakeSessions cfg o.order) :=
      foreign_wakeSessions o.order removed
    exact foreign.near
  case construct | compareExchangeClosed | staleDead | earlyBoostDead | addPowerSession | removePowerSession =>
    exact handling.elim
  all_goals exact .of_same rfl rfl

end Near

end Pdx215.Power
