import Pdx215.Power.Service

/-! The service as its two halves: the sessions, which hear of `Power` and `PowerExt` only through the profile and the
display updates, and `Power`, which shares no state with the others but the list of the hint manager's calls. -/
namespace Pdx215.Power

open Effect

/-! ### What each half sees of an event -/

def atOnce (_ : Nat) : Outcome := ⟨0, fun _ => true, []⟩

def wakes (boost : String) : Option (Event × (Nat → Outcome)) :=
  if boost = "DISPLAY_UPDATE_IMMINENT" then some (.displayUpdate, atOnce) else none

namespace HalEvent

def sessionEvent (names : Hint.Names) : HalEvent → Option (Event × (Nat → Outcome))
  | .power (.setBoost type _) => wakes (names.boost type)
  | .ext (.setBoost boost _) => wakes boost
  | .session .displayUpdate _ => none
  | .session e io => some (e, io)
  | _ => none

def request : HalEvent → Option Hint.Request
  | .power r => some r
  | _ => none

def extName : HalEvent → Option String
  | .ext (.setMode name _) | .ext (.setBoost name _) => some name
  | _ => none

end HalEvent

def callName : Hint.Call → Option String
  | .doHint name | .doHintFor name _ | .endHint name => some name
  | .acquire _ => none

/-! ### The sessions -/

section Sessions

variable {config : HintConfig} {names : Hint.Names} {h : Hal} {profile : AdpfConfig}

theorem displayUpdate_atOnce (sh : Shared) :
    eventStep profile sh (.displayUpdate, atOnce) = sh.lift fun v => v.sendMessageDelayed .wakeup 0 := by
  have woken : eventStep profile sh (.displayUpdate, atOnce) =
      (sh.wait 0).lift fun v => v.sendMessageDelayed .wakeup 0 := rfl
  rw [woken, Shared.wait_zero]

theorem tellBoost_shared (current : h.profile = some profile) (reporting : profile.Reporting) (boost : String) :
    (h.tellBoost boost).shared = (wakes boost).elim h.shared (eventStep profile h.shared) := by
  have told : h.reports = true := by simpa [Hal.reports, current, AdpfConfig.Reporting] using reporting
  unfold Hal.tellBoost Hal.updateHintBoost wakes
  rw [if_pos told]
  split
  · exact (displayUpdate_atOnce h.shared).symm
  · rfl

theorem handleManager_shared (m : Message) (io : Nat → Outcome) (h : Hal) (manager : m.handler = .manager)
    (due : (Event.deliver m).enabled h.shared.toView = true) :
    (h.handleManager config profile m io).shared = eventStep profile h.shared (.deliver m, io) := by
  unfold Hal.handleManager eventStep
  rw [heed_shared, if_pos due]
  simp only [Event.program, manager]
  rfl

theorem session_shared (current : h.profile = some profile) (e : Event) (io : Nat → Outcome) :
    (h.session config e io).shared =
      ((HalEvent.session e io).sessionEvent names).elim h.shared (eventStep profile h.shared) := by
  unfold Hal.session
  rw [current]
  cases e with
  | deliver m =>
    obtain ⟨handler, due⟩ := m
    cases handler with
    | manager =>
      simp only [HalEvent.sessionEvent, Option.elim_some]
      split
      case isTrue ready => exact handleManager_shared _ io h rfl ready
      case isFalse early =>
        unfold eventStep
        exact (if_neg early).symm
    | _ => rfl
  | _ => rfl

theorem step_shared (current : h.profile = some profile) (reporting : profile.Reporting) (e : HalEvent) :
    (h.step config names e).shared = (e.sessionEvent names).elim h.shared (eventStep profile h.shared) := by
  cases e with
  | power r =>
    cases r with
    | setMode type enabled => exact tellMode_shared _ enabled h
    | setBoost type durationMs => exact tellBoost_shared current reporting (names.boost type)
  | ext r =>
    cases r with
    | setMode mode enabled => exact tellMode_shared mode enabled _
    | setBoost boost durationMs => exact tellBoost_shared current reporting boost
  | session e io => exact session_shared current e io

/-- With one profile for the whole run the sessions take the steps of their own events. -/
theorem run_shared (current : h.profile = some profile) (reporting : profile.Reporting) (events : List HalEvent)
    (same : ∀ other ∈ named config names events, other = profile) :
    (h.run config names events).shared = run profile h.shared (events.filterMap (HalEvent.sessionEvent names)) := by
  induction events generalizing h with
  | nil => rfl
  | cons e events ih =>
    have next : (h.step config names e).profile = some profile := by
      rw [step_profile current, if_pos reporting]
      cases asked : (e.mode names).bind config.profiles with
      | none => rfl
      | some other => exact congrArg some (same other (by simp [named, asked]))
    have later : ∀ other ∈ named config names events, other = profile := by
      intro other here
      refine same other ?_
      simp only [named, List.filterMap_cons] at here ⊢
      split
      · exact here
      · exact List.mem_cons_of_mem _ here
    refine (ih next later).trans ?_
    rw [step_shared current reporting e]
    cases seen : e.sessionEvent names with
    | none => simp [seen]
    | some event => simp [seen, run]

end Sessions

/-! ### `Power` -/

/-- The same flag, and the same calls of the kind that counts. -/
structure Matches (counts : Hint.Call → Bool) (p q : Hint.Power) : Prop where
  flag : p.mSustainedPerfModeOn = q.mSustainedPerfModeOn
  calls : p.hints.filter counts = q.hints.filter counts

section Hints

variable {config : HintConfig} {names : Hint.Names} {h : Hal} {p q : Hint.Power} {counts : Hint.Call → Bool}

theorem Matches.hint (same : Matches counts p q) (call : Hint.Call) : Matches counts (p.hint call) (q.hint call) := by
  refine ⟨same.flag, ?_⟩
  simp only [Hint.Power.hint, List.filter_append, same.calls]

theorem Matches.uncounted (same : Matches counts p q) {call : Hint.Call} (other : counts call = false) :
    Matches counts (p.hint call) q := by
  refine ⟨same.flag, ?_⟩
  simp [Hint.Power.hint, other, same.calls]

theorem Matches.switchHint (same : Matches counts p q) (type : Hint.Mode) (enabled : Bool) :
    Matches counts (p.switchHint names type enabled) (q.switchHint names type enabled) := by
  unfold Hint.Power.switchHint
  split <;> exact same.hint _

theorem Matches.setMode (same : Matches counts p q) (type : Hint.Mode) (enabled : Bool) :
    Matches counts (p.setMode names type enabled) (q.setMode names type enabled) := by
  cases type with
  | sustainedPerformance =>
    cases enabled with
    | true => exact ⟨rfl, (same.hint _).calls⟩
    | false => exact ⟨rfl, same.calls⟩
  | launch =>
    simp only [Hint.Power.setMode, same.flag]
    split
    · exact same
    · exact same.switchHint _ enabled
  | _ => exact same.switchHint _ enabled

theorem Matches.setBoost (same : Matches counts p q) (type : Hint.Boost) (durationMs : Int) :
    Matches counts (p.setBoost names type durationMs) (q.setBoost names type durationMs) := by
  have plain (type : Hint.Boost) :
      Matches counts (p.boostHint names type durationMs) (q.boostHint names type durationMs) := by
    unfold Hint.Power.boostHint
    split
    · exact same.hint _
    split <;> exact same.hint _
  cases type with
  | interaction =>
    simp only [Hint.Power.setBoost, same.flag]
    split
    · exact same
    · exact same.hint _
  | _ =>
    simp only [Hint.Power.setBoost, same.flag]
    split
    · exact same
    · exact plain _

/-- The manager makes no call but for its own hint. -/
theorem session_matches (same : Matches counts h.power q)
    (others : ∀ call, callName call = some config.kDisableBoostHintName → counts call = false) (e : Event)
    (io : Nat → Outcome) : Matches counts (h.session config e io).power q := by
  unfold Hal.session
  split
  · exact same
  · split
    · split
      · rw [(handleManager_cases _ _ io h).2]
        split
        · exact same
        split
        · exact same.uncounted (others _ (by split <;> rfl))
        · exact same
      · exact same
    · exact same
    · exact same

theorem step_matches (same : Matches counts h.power q) (e : HalEvent)
    (others : ∀ call, callName call = some config.kDisableBoostHintName → counts call = false)
    (spares : ∀ call, ∀ name ∈ e.extName, callName call = some name → counts call = false) :
    Matches counts (h.step config names e).power (e.request.elim q (Hint.Request.apply names q)) := by
  cases e with
  | power r =>
    cases r with
    | setMode type enabled =>
      have now : Matches counts (h.tellMode config (names.mode type) enabled).power q := by
        rw [tellMode_power]
        exact same
      exact now.setMode type enabled
    | setBoost type durationMs =>
      have now : Matches counts (h.tellBoost (names.boost type)).power q := by
        rw [tellBoost_power]
        exact same
      exact now.setBoost type durationMs
  | ext r =>
    cases r with
    | setMode mode enabled =>
      simp only [Hal.step, Hal.extRequest, tellMode_power]
      exact same.uncounted (spares _ mode rfl (by split <;> rfl))
    | setBoost boost durationMs =>
      simp only [Hal.step, Hal.extRequest, tellBoost_power]
      refine same.uncounted (spares _ boost rfl ?_)
      split
      · rfl
      split <;> rfl
  | session e io => exact session_matches same others e io

theorem run_matches (same : Matches counts h.power q) (events : List HalEvent)
    (others : ∀ call, callName call = some config.kDisableBoostHintName → counts call = false)
    (spares : ∀ e ∈ events, ∀ call, ∀ name ∈ e.extName, callName call = some name → counts call = false) :
    Matches counts (h.run config names events).power
      ((events.filterMap HalEvent.request).foldl (Hint.Request.apply names) q) := by
  induction events generalizing h q with
  | nil => exact same
  | cons e events ih =>
    have next := @step_matches config names h q counts same e others (spares e (List.mem_cons_self ..))
    have later := ih next fun e' here => spares e' (List.mem_cons_of_mem _ here)
    cases asked : e.request with
    | none =>
      rw [List.filterMap_cons_none asked]
      rw [asked] at later
      exact later
    | some r =>
      rw [List.filterMap_cons_some asked]
      rw [asked] at later
      exact later

end Hints

/-- As long as no mode names another profile, the service does what its halves do by themselves: the sessions take the
steps of their own events, and `Power` makes its own calls, with other calls between them only for hints that `PowerExt`
and the session manager are asked to switch. -/
theorem service_is_halves (config : HintConfig) (names : Hint.Names) (s : Hint.StateProperties) (profile : AdpfConfig)
    (reporting : profile.Reporting) (events : List HalEvent)
    (same : ∀ other ∈ named config names events, other = profile) :
    let h := (Hal.start s (some profile)).run config names events
    let power := Hint.history names s (events.filterMap HalEvent.request)
    h.shared = run profile .start (events.filterMap (HalEvent.sessionEvent names)) ∧
      h.power.mSustainedPerfModeOn = power.mSustainedPerfModeOn ∧
      ∀ target, target ≠ some config.kDisableBoostHintName → (∀ e ∈ events, e.extName = none ∨ e.extName ≠ target) →
        h.power.hints.filter (fun call => callName call = target) =
          power.hints.filter (fun call => callName call = target) := by
  intro h power
  refine ⟨run_shared rfl reporting events same, ?_, ?_⟩
  · have start : Matches (fun _ => false) (Hal.start s (some profile)).power (.new s) := ⟨rfl, rfl⟩
    exact (run_matches start events (fun _ _ => rfl) fun _ _ _ _ _ _ => rfl).flag
  · intro target other spares
    have start : Matches (fun call => callName call = target) (Hal.start s (some profile)).power (.new s) := ⟨rfl, rfl⟩
    refine (run_matches start events ?_ ?_).calls
    · intro call manager
      simpa [manager] using other.symm
    · intro e here call name asked about
      rcases spares e here with none | different
      · rw [none] at asked
        cases asked
      · rw [asked] at different
        simpa [about] using different

theorem service_is_halves_served :
    let h := (Hal.start ⟨"", "", ""⟩ (some Sample.cfg)).run Sample.hints Hint.Sample.names Sample.served
    h.shared.mActive = true ∧
      h.shared = run Sample.cfg .start (Sample.served.filterMap (HalEvent.sessionEvent Hint.Sample.names)) := by
  refine ⟨by decide +kernel, ?_⟩
  have none : ∀ other ∈ named Sample.hints Hint.Sample.names Sample.served, other = Sample.cfg := by
    simp [named, Sample.served, Sample.hints, HalEvent.mode]
  exact (service_is_halves Sample.hints Hint.Sample.names ⟨"", "", ""⟩ Sample.cfg (by decide) Sample.served none).1

end Pdx215.Power
