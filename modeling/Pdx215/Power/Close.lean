import Pdx215.Lib.Runs
import Pdx215.Power.Interleave

/-! What an interleaved `close` leaves on the threads of its session. After the clamp is reset only
an early boost can raise it again, until its handler is told that the session is gone. -/
namespace Pdx215.Power

open Effect

/-! ### The condition -/

/-- `close` has reset the clamp and has not yet told the early-boost handler. -/
def InWindow (s : Sid) (p : Call Status) : Prop :=
  p = closeHandlers s ∨ p = (do act (.store s (.isActive false)); closeDead s) ∨ p = closeDead s

/-- `EarlyBoostHandler::handleMessage` would boost the session. -/
def View.boostDue (v : View) (s : Sid) : Bool :=
  (v.sessions s).any fun x =>
    !x.mEarlyBoostHandler.mIsSessionDead && decide (x.mEarlyBoostHandler.time - v.clock ≤ 0)

/-- No early boost of the session is due when the looper handles one in the window. -/
def Turn.Fine (s : Sid) (c : Config) : Turn → Prop
  | .looper o => ∀ next, c.looper = .call (.earlyBoost s) next → InWindow s c.closer →
      (c.shared.wait o.elapsed).boostDue s = false
  | _ => True

def FineTurns (cfg : AdpfConfig) (s : Sid) : Config → List Turn → Prop :=
  Runs.Along (turn cfg s) fun c t => t.Fine s c

/-! ### The writes of handlers -/

section Handlers

variable {cfg : AdpfConfig} {s : Sid} {sh sh' : Shared}

def Zeroed (s : Sid) (sh : Shared) : Prop :=
  s ∉ sh.registry.mSessions ∧ ∃ x, sh.sessions s = some x ∧ x.currentMin ≤ 0

theorem Zeroed.near (zeroed : Zeroed s sh) (near : Near s sh sh') : Zeroed s sh' := by
  obtain ⟨removed, x, found, nothing⟩ := zeroed
  obtain ⟨x', found', same, -⟩ := near.session x found
  exact ⟨near.member.not.mpr removed, x', found', same ▸ nothing⟩

theorem Zeroed.silent (zeroed : Zeroed s sh) : sh.getUclampMin s ≤ 0 := by
  obtain ⟨-, x, found, nothing⟩ := zeroed
  simpa [View.getUclampMin, found] using nothing

theorem log_earlyBoost (calm : sh.boostDue s = false) : (sh.earlyBoost cfg s).log = sh.log := by
  unfold Shared.earlyBoost
  split
  · rfl
  · rename_i x found
    split
    · rfl
    · rename_i alive
      split
      · rfl
      · rename_i due
        have boosts : sh.boostDue s = true := by simpa [View.boostDue, found, alive] using due
        exact absurd (boosts.symm.trans calm) (by decide)

/-- The writes of handlers are harmless for a session that asks for nothing and is not woken, except for
the one of an early boost. -/
theorem log_handling {a : Act} (handling : a.Handling) (others : ∀ r, r ≠ s → sh.roll.ProperAt r) (o : Outcome)
    (silent : (sh.wait o.elapsed).counts cfg s = true → (sh.wait o.elapsed).getUclampMin s ≤ 0)
    (asleep : Foreign s (sh.wait o.elapsed) ((sh.wait o.elapsed).wakeSessions cfg o.order))
    (calm : a = .earlyBoost s → (sh.wait o.elapsed).boostDue s = false) :
    Adds (fun w => w.session = s → w.OfOthers cfg s) sh.log (perform cfg a o sh).2.log := by
  have foreign {sh' : Shared} (h : Foreign s (sh.wait o.elapsed) sh') :
      Adds (fun w => w.session = s → w.OfOthers cfg s) sh.log sh'.log :=
    h.log.mono fun w other same => absurd same other
  cases a
  case earlyBoost r =>
    by_cases same : r = s
    · subst same
      have quiet : ((sh.wait o.elapsed).earlyBoost cfg r).log = sh.log := log_earlyBoost (calm rfl)
      exact quiet.symm ▸ .refl _
    · exact foreign (foreign_earlyBoost same)
  case setUclampMin r val =>
    cases handling
    by_cases same : r = s
    · subst same
      have written : Adds (Write.OfOthers cfg r) sh.log ((sh.wait o.elapsed).setUclampMinLocked cfg r 0).log :=
        setUclampMin_ofOthers others silent
      exact written.mono fun w good _ => good
    · exact foreign (foreign_setUclampMinLocked same 0)
  case wakeSessions => exact foreign asleep
  all_goals exact .refl _

/-- The last write to each thread, if it was made for the session, gives the thread no more than the
other sessions ask for. -/
def Quiet (cfg : AdpfConfig) (s : Sid) (tids : List Tid) (log : List Write) : Prop :=
  ∀ t ∈ tids, ∀ w, log.find? (fun w => w.tid == t) = some w → w.session = s →
    w.value ≤ clampMin (w.view.maxMin cfg (w.view.othersOf s t))

theorem Quiet.adds {tids : List Tid} {old new : List Write} (quiet : Quiet cfg s tids old)
    (adds : Adds (fun w => w.session = s → w.OfOthers cfg s) old new) : Quiet cfg s tids new := by
  obtain ⟨added, rfl, good⟩ := adds
  intro t own w found mine
  rw [List.find?_append] at found
  cases last : added.find? (fun w => w.tid == t) with
  | none =>
    rw [last] at found
    exact quiet t own w found mine
  | some w' =>
    rw [last] at found
    cases found
    have same : w.tid = t := by simpa using List.find?_some last
    exact le_of_eq (same ▸ (good w (List.mem_of_find?_eq_some last) mine).2)

theorem quiet_reset (on : cfg.mUclampMinOn = true) (zeroed : Zeroed s sh)
    (others : ∀ r, r ≠ s → sh.roll.ProperAt r) :
    Quiet cfg s (sh.getTidList s) (sh.setUclampMinLocked cfg s 0).log := by
  intro t own w found _
  have grown : (sh.setUclampMinLocked cfg s 0).log = ((sh.getTidList s).map fun t =>
      ⟨s, t, clampMin (max 0 (sh.tidMax cfg t)), sh.toView⟩).reverse ++ sh.log := by
    simp [Shared.setUclampMinLocked, on]
  rw [grown, List.find?_append] at found
  cases last : (((sh.getTidList s).map fun t =>
      (⟨s, t, clampMin (max 0 (sh.tidMax cfg t)), sh.toView⟩ : Write)).reverse).find? (fun w => w.tid == t) with
  | none =>
    have absent := List.find?_eq_none.mp last _ (List.mem_reverse.mpr (List.mem_map_of_mem own))
    simp at absent
  | some w' =>
    rw [last] at found
    cases found
    obtain ⟨t', -, rfl⟩ := List.mem_map.mp (List.mem_reverse.mp (List.mem_of_find?_eq_some last))
    have same : t' = t := by simpa using List.find?_some last
    subst same
    rw [View.tidMax_eq_others others t' fun _ => zeroed.silent, max_eq_right View.maxMin_nonneg]

end Handlers

/-! ### The steps of `close` -/

namespace Roll

variable {ρ : Roll} {s r : Sid}

theorem ProperAt.setCore (proper : ρ.ProperAt r) (other : r ≠ s) (c : Option Core) : (ρ.setCore s c).ProperAt r := by
  have core : (ρ.setCore s c).core r = ρ.core r := setCore_ne ρ c other
  have isOpen : (ρ.setCore s c).Open r ↔ ρ.Open r := by simp [Open, core]
  have tids : (ρ.setCore s c).tids r = ρ.tids r := tids_setCore_ne c other
  exact ⟨proper.sessions.trans isOpen.symm, fun h => tids ▸ proper.listed (isOpen.mp h),
    fun t h => tids ▸ proper.own t h, fun c h => proper.idle c (core ▸ h)⟩

theorem ProperAt.remove (proper : ρ.ProperAt r) (other : r ≠ s) : (ρ.remove s).ProperAt r := by
  have lists (t : Tid) : r ∈ (ρ.remove s).registry.mTidSessionListMap t ↔ r ∈ ρ.registry.mTidSessionListMap t := by
    simp [other]
  have member : r ∈ (ρ.remove s).registry.mSessions ↔ r ∈ ρ.registry.mSessions := by simp [other]
  exact ⟨member.trans proper.sessions, fun h t own => (lists t).mpr (proper.listed h t own),
    fun t h => proper.own t ((lists t).mp h), proper.idle⟩

end Roll

def Act.Ending (s : Sid) : Act → Prop
  | .compareExchangeClosed r | .removePowerSession r | .store r _ | .setUclampMin r _ => r = s
  | .earlyBoostDead r | .staleDead r => r = s
  | .look _ | .sendMessage _ => True
  | _ => False

def Act.Closing (s : Sid) : Act → Prop
  | .store r .closed | .store r (.isActive _) => r = s
  | .earlyBoostDead r | .staleDead r => r = s
  | .look _ | .sendMessage _ => True
  | _ => False

def Dead (s : Sid) (sh : Shared) : Prop :=
  ∃ x, sh.sessions s = some x ∧ x.mEarlyBoostHandler.mIsSessionDead = true

/-- How far `close` has come, and what holds then. -/
inductive Point (cfg : AdpfConfig) (s : Sid) (tids : List Tid) : Call Status → Shared → Prop where
  | start {sh : Shared} : sh.roll.Open s → Point cfg s tids (close cfg s) sh
  | exchanged {sh : Shared} : Point cfg s tids (closeExchanged cfg s) sh
  | removed {sh : Shared} : s ∉ sh.registry.mSessions →
    Point cfg s tids (do setSessionUclampMin cfg s 0; closeHandlers s) sh
  | zeroed {sh : Shared} : Zeroed s sh → Point cfg s tids (do act (.setUclampMin s 0); closeHandlers s) sh
  | window {p : Call Status} {sh : Shared} : InWindow s p → Zeroed s sh → Quiet cfg s tids sh.log →
    Point cfg s tids p sh
  | dead {p : Call Status} {sh : Shared} : p.All (Act.Closing s) → Dead s sh → Zeroed s sh →
    Quiet cfg s tids sh.log → Point cfg s tids p sh

structure Inv (cfg : AdpfConfig) (s : Sid) (tids : List Tid) (c : Config) : Prop where
  others : ∀ r, r ≠ s → c.shared.roll.ProperAt r
  own : ∃ k, c.shared.roll.core s = some k ∧ k.threadIds = tids
  looper : c.looper.All Act.Handling
  asked : ∀ w ∈ c.shared.log, w.Asked cfg
  point : Point cfg s tids c.closer c.shared

section Turns

variable {cfg : AdpfConfig} {s : Sid} {tids : List Tid} {c : Config}

theorem near_closing {a : Act} (closing : a.Closing s) (o : Outcome) (sh : Shared) :
    Near s sh (perform cfg a o sh).2 := by
  apply (near_wait o.elapsed).trans
  cases a
  case store r x =>
    cases x
    case closed => exact near_modify r _ fun _ => ⟨rfl, id⟩
    case isActive b => exact near_modify r _ fun _ => ⟨rfl, id⟩
    all_goals exact closing.elim
  case staleDead r =>
    exact (near_modify r (fun x => { x with mStaleTimerHandler.mIsSessionDead := true }) fun _ => ⟨rfl, id⟩).trans
      (.of_same rfl rfl)
  case earlyBoostDead r =>
    exact (near_modify r (fun x => { x with mEarlyBoostHandler.mIsSessionDead := true })
      fun _ => ⟨rfl, fun _ => rfl⟩).trans (.of_same rfl rfl)
  case look | sendMessage => exact .of_same rfl rfl
  all_goals exact closing.elim

theorem log_closing {a : Act} (closing : a.Closing s) (o : Outcome) (sh : Shared) :
    (perform cfg a o sh).2.log = sh.log := by
  cases a
  case store | staleDead | earlyBoostDead | look | sendMessage => rfl
  all_goals exact closing.elim

theorem Dead.near {sh sh' : Shared} (dead : Dead s sh) (near : Near s sh sh') : Dead s sh' := by
  obtain ⟨x, found, gone⟩ := dead
  obtain ⟨x', found', -, kept⟩ := near.session x found
  exact ⟨x', found', kept gone⟩

theorem Act.Closing.ending {a : Act} (closing : a.Closing s) : a.Ending s := by
  cases a
  case store r x => cases x <;> first | exact closing | exact closing.elim
  case staleDead | earlyBoostDead => exact closing
  case look | sendMessage => trivial
  all_goals exact closing.elim

theorem properAt_ending {a : Act} {r : Sid} {sh : Shared} (ending : a.Ending s) (other : r ≠ s) (o : Outcome)
    (proper : sh.roll.ProperAt r) : (perform cfg a o sh).2.roll.ProperAt r := by
  rw [perform_roll]
  cases a
  case store _ x =>
    cases ending
    cases x
    case isActive | closed => exact proper.setCore other _
    all_goals exact proper
  case compareExchangeClosed =>
    cases ending
    exact proper.setCore other _
  case removePowerSession =>
    cases ending
    exact proper.remove other
  case construct | addPowerSession => exact ending.elim
  all_goals exact proper

theorem threads_ending {a : Act} {sh : Shared} (ending : a.Ending s) (o : Outcome)
    (own : ∃ k, sh.roll.core s = some k ∧ k.threadIds = tids) :
    ∃ k, (perform cfg a o sh).2.roll.core s = some k ∧ k.threadIds = tids := by
  obtain ⟨k, found, threads⟩ := own
  rw [perform_roll]
  cases a
  case store _ x =>
    cases ending
    cases x
    case isActive b => exact ⟨{ k with active := b }, by simp [Act.onRoll, Roll.setActive, found], threads⟩
    case closed => exact ⟨{ k with closed := true }, by simp [Act.onRoll, Roll.setClosed, found], threads⟩
    all_goals exact ⟨k, found, threads⟩
  case compareExchangeClosed =>
    cases ending
    exact ⟨{ k with closed := true }, by simp [Act.onRoll, Roll.setClosed, found], threads⟩
  case construct | addPowerSession => exact ending.elim
  all_goals exact ⟨k, found, threads⟩

theorem Inv.ending {a : Act} {p : Call Status} (inv : Inv cfg s tids c) (ending : a.Ending s) (o : Outcome)
    (point : Point cfg s tids p (perform cfg a o c.shared).2) :
    Inv cfg s tids { c with closer := p, shared := (perform cfg a o c.shared).2 } where
  others r other := properAt_ending ending other o (inv.others r other)
  own := threads_ending ending o inv.own
  looper := inv.looper
  asked := perform_asked a o inv.asked
  point := point

theorem Inv.found (inv : Inv cfg s tids c) : ∃ x, c.shared.sessions s = some x ∧ x.threadIds = tids := by
  obtain ⟨k, found, threads⟩ := inv.own
  obtain ⟨x, here, rfl⟩ := Option.map_eq_some_iff.mp found
  exact ⟨x, here, threads⟩

/-- Where nothing is written there is no last write. -/
theorem quiet_of_off {sh : Shared} (off : cfg.mUclampMinOn = false) (asked : ∀ w ∈ sh.log, w.Asked cfg) :
    Quiet cfg s tids sh.log := by
  intro t _ w found
  have on := (asked w (List.mem_of_find?_eq_some found)).on
  exact absurd (off.symm.trans on) (by decide)

theorem Inv.reset {sh : Shared} {closer : Call Status} {looper : Call Unit} (inv : Inv cfg s tids ⟨sh, closer, looper⟩)
    (zeroed : Zeroed s sh) (o : Outcome) : Quiet cfg s tids (perform cfg (.setUclampMin s 0) o sh).2.log := by
  cases on : cfg.mUclampMinOn with
  | false => exact quiet_of_off on (perform_asked _ o inv.asked)
  | true =>
    obtain ⟨x, found, rfl⟩ := inv.found
    have threads : (sh.wait o.elapsed).getTidList s = x.threadIds := by
      have kept : (sh.wait o.elapsed).sessions s = some x := found
      simp [View.getTidList, kept]
    have waited : Zeroed s (sh.wait o.elapsed) := zeroed
    exact threads ▸ quiet_reset on waited inv.others

theorem kept_closing {a : Act} {sh : Shared} (closing : a.Closing s) (zeroed : Zeroed s sh)
    (quiet : Quiet cfg s tids sh.log) (o : Outcome) :
    Zeroed s (perform cfg a o sh).2 ∧ Quiet cfg s tids (perform cfg a o sh).2.log :=
  ⟨zeroed.near (near_closing closing o sh), (log_closing closing o sh).symm ▸ quiet⟩

theorem inv_exchange {sh : Shared} {looper : Call Unit} (inv : Inv cfg s tids ⟨sh, close cfg s, looper⟩)
    (isOpen : sh.roll.Open s) (o : Outcome) :
    Inv cfg s tids (turn cfg s ⟨sh, close cfg s, looper⟩ (.closer o)) := by
  have exchanged : ((sh.wait o.elapsed).sessions s).any (fun x => !x.mSessionClosed) = true :=
    (View.open_iff (sh.wait o.elapsed).toView).mp isOpen
  have next : (advance cfg o sh (close cfg s)).1 = closeExchanged cfg s := if_pos exchanged
  have stepped := inv.ending (a := .compareExchangeClosed s) rfl o .exchanged
  rw [← next] at stepped
  exact stepped

/-- In the window `close` marks the session closed and inactive, and then tells the early-boost handler. -/
theorem inv_window {sh : Shared} {p : Call Status} {looper : Call Unit} (inv : Inv cfg s tids ⟨sh, p, looper⟩)
    (window : InWindow s p) (zeroed : Zeroed s sh) (quiet : Quiet cfg s tids sh.log) (o : Outcome) :
    Inv cfg s tids (turn cfg s ⟨sh, p, looper⟩ (.closer o)) := by
  rcases window with rfl | rfl | rfl
  · obtain ⟨zeroed, quiet⟩ := kept_closing (a := .store s .closed) rfl zeroed quiet o
    exact inv.ending (a := .store s .closed) rfl o (.window (.inr (.inl rfl)) zeroed quiet)
  · obtain ⟨zeroed, quiet⟩ := kept_closing (a := .store s (.isActive false)) rfl zeroed quiet o
    exact inv.ending (a := .store s (.isActive false)) rfl o (.window (.inr (.inr rfl)) zeroed quiet)
  · obtain ⟨zeroed, quiet⟩ := kept_closing (a := .earlyBoostDead s) rfl zeroed quiet o
    obtain ⟨x, found, -⟩ := inv.found
    have posted : (updateUniveralBoostMode s).All (Act.Closing s) :=
      all_load trivial fun _ => all_perhaps (all_act trivial)
    have told : Dead s (perform cfg (.earlyBoostDead s) o sh).2 := by
      refine ⟨{ x with mEarlyBoostHandler.mIsSessionDead := true }, ?_, rfl⟩
      have here : (sh.wait o.elapsed).sessions s = some x := found
      simp [perform, performNow, View.earlyBoostDead, View.removeMessages, here]
    exact inv.ending (a := .earlyBoostDead s) rfl o
      (.dead ⟨rfl, fun _ => posted.bind fun _ => trivial⟩ told zeroed quiet)

theorem inv_closer (inv : Inv cfg s tids c) (o : Outcome) : Inv cfg s tids (turn cfg s c (.closer o)) := by
  have session := inv.found
  obtain ⟨sh, closer, looper⟩ := c
  have point : Point cfg s tids closer sh := inv.point
  cases point with
  | start isOpen => exact inv_exchange inv isOpen o
  | exchanged =>
    refine inv.ending (a := .removePowerSession s) rfl o (.removed ?_)
    simp [perform, performNow, View.removePowerSession]
  | removed gone =>
    obtain ⟨x, found, -⟩ := session
    refine inv.ending (a := .store s (.currentMin 0)) rfl o (.zeroed ⟨gone, { x with currentMin := 0 }, ?_, le_rfl⟩)
    have here : (sh.wait o.elapsed).sessions s = some x := found
    simp [perform, performNow, Shared.store, Store.apply, here]
  | zeroed zeroed =>
    have waited : Zeroed s (sh.wait o.elapsed) := zeroed
    have still : Zeroed s (perform cfg (.setUclampMin s 0) o sh).2 :=
      waited.near (.of_view (Shared.setUclampMinLocked_toView cfg s 0 (sh.wait o.elapsed)))
    exact inv.ending (a := .setUclampMin s 0) rfl o (.window (.inl rfl) still (inv.reset zeroed o))
  | window window zeroed quiet => exact inv_window inv window zeroed quiet o
  | dead closing dead zeroed quiet =>
    cases closer with
    | ret status => exact inv
    | call a next =>
      obtain ⟨zeroed, quiet⟩ := kept_closing closing.1 zeroed quiet o
      exact inv.ending closing.1.ending o (.dead (closing.2 _) (dead.near (near_closing closing.1 o sh)) zeroed quiet)

theorem Dead.not_due {sh : Shared} (dead : Dead s sh) (elapsed : Nat) : (sh.wait elapsed).boostDue s = false := by
  obtain ⟨x, found, gone⟩ := dead
  have here : (sh.wait elapsed).sessions s = some x := found
  simp [View.boostDue, here, gone]

theorem inv_looper (inv : Inv cfg s tids c) (o : Outcome) (fine : (Turn.looper o).Fine s c) :
    Inv cfg s tids (turn cfg s c (.looper o)) := by
  obtain ⟨sh, closer, looper⟩ := c
  cases looper with
  | ret => exact inv
  | call a next =>
    obtain ⟨handling, rest⟩ := inv.looper
    have same : (perform cfg a o sh).2.roll = sh.roll := (perform_roll cfg a o sh).trans (handling.plain _ _)
    have members : (perform cfg a o sh).2.registry = sh.registry := congrArg Roll.registry same
    have zeroed_after (zeroed : Zeroed s sh) : Zeroed s (perform cfg a o sh).2 :=
      zeroed.near (near_handling handling zeroed.1 o)
    have quiet_after (zeroed : Zeroed s sh) (quiet : Quiet cfg s tids sh.log)
        (calm : a = .earlyBoost s → (sh.wait o.elapsed).boostDue s = false) :
        Quiet cfg s tids (perform cfg a o sh).2.log := by
      have waited : Zeroed s (sh.wait o.elapsed) := zeroed
      apply quiet.adds
      exact log_handling handling inv.others o (fun _ => waited.silent) (foreign_wakeSessions o.order waited.1) calm
    have point : Point cfg s tids closer sh := inv.point
    refine ⟨fun r other => same.symm ▸ inv.others r other, same.symm ▸ inv.own, rest _,
      perform_asked a o inv.asked, ?_⟩
    change Point cfg s tids closer (perform cfg a o sh).2
    cases point with
    | start isOpen => exact .start (same.symm ▸ isOpen)
    | exchanged => exact .exchanged
    | removed gone => exact .removed (members.symm ▸ gone)
    | zeroed zeroed => exact .zeroed (zeroed_after zeroed)
    | window window zeroed quiet =>
      refine .window window (zeroed_after zeroed) (quiet_after zeroed quiet fun boost => ?_)
      subst boost
      exact fine next rfl window
    | dead closing dead zeroed quiet =>
      refine .dead closing (dead.near (near_handling handling zeroed.1 o)) (zeroed_after zeroed) ?_
      exact quiet_after zeroed quiet fun _ => dead.not_due o.elapsed

theorem Point.foreign {p : Call Status} {sh sh' : Shared} (point : Point cfg s tids p sh) (foreign : Foreign s sh sh') :
    Point cfg s tids p sh' := by
  have quiet_after (quiet : Quiet cfg s tids sh.log) : Quiet cfg s tids sh'.log :=
    quiet.adds (foreign.log.mono fun _ other mine => absurd mine other)
  have core : sh'.roll.core s = sh.roll.core s := congrArg (Option.map Session.core) foreign.sessions
  cases point with
  | start isOpen =>
    obtain ⟨k, found, unclosed⟩ := isOpen
    exact .start ⟨k, core.trans found, unclosed⟩
  | exchanged => exact .exchanged
  | removed gone => exact .removed (foreign.member.not.mpr gone)
  | zeroed zeroed => exact .zeroed (zeroed.near foreign.near)
  | window window zeroed quiet => exact .window window (zeroed.near foreign.near) (quiet_after quiet)
  | dead closing dead zeroed quiet =>
    exact .dead closing (dead.near foreign.near) (zeroed.near foreign.near) (quiet_after quiet)

theorem inv_other (inv : Inv cfg s tids c) {e : Event} (others : e.ofOthers s = true) (io : Nat → Outcome) :
    Inv cfg s tids { c with shared := eventStep cfg c.shared (e, io) } := by
  have foreign : Foreign s c.shared (eventStep cfg c.shared (e, io)) := eventStep_foreign others io
  have core : (eventStep cfg c.shared (e, io)).roll.core s = c.shared.roll.core s :=
    congrArg (Option.map Session.core) foreign.sessions
  exact ⟨fun r other => properAt_eventStep cfg (inv.others r other) (e, io), core.symm ▸ inv.own, inv.looper,
    eventStep_asked (e, io) inv.asked, inv.point.foreign foreign⟩

theorem inv_turn (inv : Inv cfg s tids c) (t : Turn) (fine : t.Fine s c) : Inv cfg s tids (turn cfg s c t) := by
  cases t with
  | closer o => exact inv_closer inv o
  | looper o => exact inv_looper inv o fine
  | dispatch m =>
    have taken : Foreign s c.shared (c.shared.lift fun v => (Event.deliver m).begin v) := ⟨rfl, Iff.rfl, .refl _⟩
    simp only [turn]
    split
    · split
      · exact ⟨inv.others, inv.own, handling_handleMessage m.handler, inv.asked, inv.point.foreign taken⟩
      · exact inv
    · exact inv
  | other e io =>
    simp only [turn]
    split
    · rename_i others
      exact inv_other inv others io
    · exact inv

def Call.returned {α : Type} : Call α → Option α
  | .ret a => some a
  | .call _ _ => none

theorem Point.quiet {p : Call Status} {sh : Shared} (point : Point cfg s tids p sh) {status : Status}
    (returned : Call.returned p = some status) : Quiet cfg s tids sh.log := by
  cases point with
  | start | exchanged | removed | zeroed => cases returned
  | window window zeroed quiet => exact quiet
  | dead closing dead zeroed quiet => exact quiet

end Turns

/-- A session's `close`, interleaved with the looper and with calls of other sessions, after a run of
whole calls. -/
def closing (cfg : AdpfConfig) (s : Sid) (events : List (Event × (Nat → Outcome))) (ts : List Turn) : Config :=
  turns cfg s ⟨run cfg .start events, close cfg s, .ret ()⟩ ts

/-- The session asks for as much as it did, on the same thread. -/
def View.Lasts (cfg : AdpfConfig) (s r : Sid) (t : Tid) (v v' : View) : Prop :=
  r ∈ v'.othersOf s t ∧ v'.counts cfg r = true ∧ v.getUclampMin r ≤ v'.getUclampMin r

theorem View.maxMin_le_of_lasts {cfg : AdpfConfig} {s : Sid} {t : Tid} {v v' : View}
    (lasts : ∀ r ∈ v.othersOf s t, v.counts cfg r = true → View.Lasts cfg s r t v v') :
    v.maxMin cfg (v.othersOf s t) ≤ v'.maxMin cfg (v'.othersOf s t) := by
  refine View.maxMin_le_iff.mpr ⟨View.maxMin_nonneg, fun r here counted => ?_⟩
  obtain ⟨there, still, more⟩ := lasts r here counted
  exact more.trans (View.le_maxMin there still)

/-- Once `close` has returned, a thread of the session whose last write was made for the session has
no more than the other registered sessions asked for at that write, and so no more than they ask for
now unless one of them has lapsed since. -/
theorem close_leaves_no_boost (cfg : AdpfConfig) (s : Sid) (events : List (Event × (Nat → Outcome)))
    (ts : List Turn) (status : Status)
    (registered : ((run cfg .start events).sessions s).any (fun x => !x.mSessionClosed) = true)
    (fine : FineTurns cfg s ⟨run cfg .start events, close cfg s, .ret ()⟩ ts)
    (returned : Call.returned (closing cfg s events ts).closer = some status) :
    let sh := (closing cfg s events ts).shared
    ∀ t ∈ sh.getTidList s, ∀ w, sh.log.find? (fun w => w.tid == t) = some w → w.session = s →
      w.value ≤ clampMin (w.view.maxMin cfg (w.view.othersOf s t)) ∧
        ((∀ r ∈ w.view.othersOf s t, w.view.counts cfg r = true → View.Lasts cfg s r t w.view sh.toView) →
          w.value ≤ clampMin (sh.maxMin cfg (sh.othersOf s t))) := by
  intro sh t own w last mine
  have isOpen : (run cfg .start events).roll.Open s := (View.open_iff _).mpr registered
  have ⟨k, found, _⟩ := isOpen
  have begun : Inv cfg s k.threadIds ⟨run cfg .start events, close cfg s, .ret ()⟩ :=
    ⟨fun r _ => properAt_run cfg events r, ⟨k, found, rfl⟩, trivial, run_asked events (by simp [Shared.start]),
      .start isOpen⟩
  have kept (c : Config) (t : Turn) (inv : Inv cfg s k.threadIds c) (fine : t.Fine s c) :
      Inv cfg s k.threadIds (turn cfg s c t) := inv_turn inv t fine
  have ended : Inv cfg s k.threadIds (closing cfg s events ts) := Runs.foldl_inv kept begun fine
  obtain ⟨x, here, threads⟩ := ended.found
  have own' : t ∈ k.threadIds := by
    have same : sh.getTidList s = x.threadIds := by simp [View.getTidList, sh, here]
    exact threads ▸ same ▸ own
  have below := (ended.point.quiet returned) t own' w last mine
  exact ⟨below, fun lasts => below.trans (clampMin_mono (View.maxMin_le_of_lasts lasts))⟩

namespace Sample

def pid : AdpfConfig := { cfg with mPidOn := true }

/-- Two sessions of one thread; the first arms its early boost for time 14. -/
def armed : List Event :=
  [.createHintSession 0 1 1000 [7] 10, .createHintSession 1 1 1000 [7] 10, .reportActualWorkDuration 0 [⟨0, 5⟩]]

/-- One session, at the time for which its early boost is armed. -/
def boostTime : List Event :=
  [.createHintSession 0 1 1000 [7] 10, .reportActualWorkDuration 0 [⟨0, 5⟩], .deliver ⟨.stale 0, 0⟩,
    .deliver ⟨.earlyBoost 0, 0⟩, .tick 10, .deliver ⟨.stale 0, 10⟩, .tick 4]

/-- The looper handles an early-boost message right after the clamp is reset. -/
def race (due : Int) : List Turn :=
  [.closer (calm 0), .closer (calm 1), .closer (calm 2), .closer (calm 3), .dispatch ⟨.earlyBoost 0, due⟩,
    .looper (calm 0), .closer (calm 4), .closer (calm 5), .closer (calm 6), .closer (calm 7), .closer (calm 8)]

end Sample

/- At time 0 the handler only posts its message again. -/
theorem close_leaves_no_boost_early :
    let sh := (closing Sample.pid 0 (Sample.calmly Sample.armed) (Sample.race 0)).shared
    ∀ t ∈ sh.getTidList 0, ∀ w, sh.log.find? (fun w => w.tid == t) = some w → w.session = 0 →
      w.value ≤ clampMin (w.view.maxMin Sample.pid (w.view.othersOf 0 t)) ∧
        ((∀ r ∈ w.view.othersOf 0 t, w.view.counts Sample.pid r = true →
          View.Lasts Sample.pid 0 r t w.view sh.toView) →
          w.value ≤ clampMin (sh.maxMin Sample.pid (sh.othersOf 0 t))) := by
  refine close_leaves_no_boost Sample.pid 0 _ _ .ok (by decide +kernel) ?_ (by decide +kernel)
  refine ⟨trivial, trivial, trivial, trivial, trivial, fun _ _ _ => ?_, ?_⟩
  · decide +kernel
  · exact ⟨trivial, trivial, trivial, trivial, trivial, trivial⟩

/- At time 14 it boosts the closed session's only thread, which no other session uses, and no message
is left that would undo it. -/
theorem close_leaves_early_boost :
    let c := closing Sample.pid 0 (Sample.calmly Sample.boostTime) (Sample.race 14)
    Call.returned c.closer = some .ok ∧
      (c.shared.log.find? (fun w => w.tid == 7)).map
        (fun w => (w.session, w.value, w.view.maxMin Sample.pid (w.view.othersOf 0 7))) = some (0, 300, 0) ∧
      c.shared.maxMin Sample.pid (c.shared.othersOf 0 7) = 0 ∧ c.shared.queue = [] := by
  decide +kernel

end Pdx215.Power
