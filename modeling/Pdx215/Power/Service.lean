import Mathlib.Data.List.Infix
import Pdx215.Hint.Modes
import Pdx215.Lib.Focus
import Pdx215.Power.Roll

/-! The whole service: `Power` and its extension `PowerExt`, which share the hints and the profile of the hint
manager, and the sessions, whose manager switches off the boost of the top app while an app session is active. -/
namespace Pdx215.Power

open Effect

/-- What the hint manager has read from its configuration, and the name that the session manager has from a property. -/
structure HintConfig where
  isHintSupported : String → Bool
  profiles : String → Option AdpfConfig
  kDisableBoostHintName : String

structure Hal where
  power : Hint.Power
  shared : Shared
  /-- `GetAdpfProfile()`. -/
  profile : Option AdpfConfig
  mDisplayRefreshRate : Int

/-- Requests to `PowerExt`. -/
inductive ExtRequest where
  | setMode (mode : String) (enabled : Bool)
  | setBoost (boost : String) (durationMs : Int)
  deriving DecidableEq, Repr

inductive HalEvent where
  | power (r : Hint.Request)
  | ext (r : ExtRequest)
  | session (e : Event) (io : Nat → Outcome)

namespace Hal

variable (config : HintConfig) (names : Hint.Names)

def start (s : Hint.StateProperties) (profile : Option AdpfConfig) : Hal where
  power := .new s
  shared := .start
  profile := profile
  mDisplayRefreshRate := 60

/-- The condition under which the session manager is told of modes and boosts. -/
def reports (h : Hal) : Bool := h.profile.any fun profile => decide (0 < profile.mReportingRateLimitNs)

def refreshRate (mode : String) (old : Int) : Int :=
  if mode = "REFRESH_120FPS" then 120
  else if mode = "REFRESH_90FPS" then 90
  else if mode = "REFRESH_60FPS" then 60
  else old

/-- A mode that is the name of a profile selects it, whether the mode is switched on or off. -/
def updateHintMode (mode : String) (enabled : Bool) (h : Hal) : Hal :=
  { h with
    mDisplayRefreshRate :=
      if enabled ∧ "REFRESH_".toList <+: mode.toList then refreshRate mode h.mDisplayRefreshRate
      else h.mDisplayRefreshRate
    profile := if h.profile.isSome then (config.profiles mode).or h.profile else h.profile }

def updateHintBoost (boost : String) (h : Hal) : Hal :=
  if boost = "DISPLAY_UPDATE_IMMINENT" then
    { h with shared := h.shared.lift fun v => v.sendMessageDelayed .wakeup 0 }
  else h

def tellMode (mode : String) (enabled : Bool) (h : Hal) : Hal :=
  if h.reports then h.updateHintMode config mode enabled else h

def tellBoost (boost : String) (h : Hal) : Hal := if h.reports then h.updateHintBoost boost else h

/-! ### `Power` -/

def request (r : Hint.Request) (h : Hal) : Hal :=
  match r with
  | .setMode type enabled =>
    let h := h.tellMode config (names.mode type) enabled
    { h with power := h.power.setMode names type enabled }
  | .setBoost type durationMs =>
    let h := h.tellBoost (names.boost type)
    { h with power := h.power.setBoost names type durationMs }

def createHintSession (s : Sid) (tgid uid : Int) (threadIds : List Tid) (durationNanos : Int) (io : Nat → Outcome)
    (h : Hal) : Status :=
  match h.profile with
  | none => .unsupportedOperation
  | some profile =>
    (exec (perform profile) io (Power.createHintSession profile s tgid uid threadIds durationNanos) 0 h.shared).1

def getHintSessionPreferredRate (h : Hal) : Except Status Int :=
  let outNanoseconds := h.profile.elim 0 AdpfConfig.mReportingRateLimitNs
  if outNanoseconds ≤ 0 then .error .unsupportedOperation else .ok outNanoseconds

/-! ### `PowerExt` -/

def extRequest (r : ExtRequest) (h : Hal) : Hal :=
  match r with
  | .setMode mode enabled =>
    let hinted := { h with power := h.power.hint (if enabled then .doHint mode else .endHint mode) }
    hinted.tellMode config mode enabled
  | .setBoost boost durationMs =>
    let h := h.tellBoost boost
    { h with
      power := h.power.hint (
        if 0 < durationMs then .doHintFor boost durationMs
        else if durationMs = 0 then .doHint boost
        else .endHint boost) }

/-! ### The sessions and their manager -/

def enableSystemTopAppBoost (h : Hal) : Hal :=
  if config.isHintSupported config.kDisableBoostHintName then
    { h with power := h.power.hint (.endHint config.kDisableBoostHintName) }
  else h

def disableSystemTopAppBoost (h : Hal) : Hal :=
  if config.isHintSupported config.kDisableBoostHintName then
    { h with power := h.power.hint (.doHint config.kDisableBoostHintName) }
  else h

def heed (active : Option Bool) (h : Hal) : Hal :=
  match active with
  | none => h
  | some true => h.disableSystemTopAppBoost config
  | some false => h.enableSystemTopAppBoost config

/-- `PowerSessionManager::handleMessage`, for a message that is due. -/
def handleManager (profile : AdpfConfig) (m : Message) (io : Nat → Outcome) (h : Hal) : Hal :=
  let isAnyAppSessionActive : Call (Option Bool) := .call .isAnyAppSessionActive fun (active : Option Bool) => .ret active
  let found := exec (perform profile) io isAnyAppSessionActive 0 (h.shared.lift fun v => (Event.deliver m).begin v)
  heed config found.1 { h with shared := found.2 }

/-- Without a profile there are no sessions. -/
def session (e : Event) (io : Nat → Outcome) (h : Hal) : Hal :=
  match h.profile with
  | none => h
  | some profile =>
    match e with
    | .deliver ⟨.manager, due⟩ =>
      if (Event.deliver ⟨.manager, due⟩).enabled h.shared.toView then h.handleManager config profile ⟨.manager, due⟩ io
      else h
    -- Display updates come as boosts.
    | .displayUpdate => h
    | e => { h with shared := eventStep profile h.shared (e, io) }

def step (h : Hal) : HalEvent → Hal
  | .power r => h.request config names r
  | .ext r => h.extRequest config r
  | .session e io => h.session config e io

def run (h : Hal) (events : List HalEvent) : Hal := events.foldl (step config names) h

end Hal

/-! ### `mActive` -/

section Active

variable {cfg : AdpfConfig} {sh : Shared}

theorem wakeup_mActive (sh : Shared) (s : Sid) : (sh.wakeup cfg s).mActive = sh.mActive := by
  unfold Shared.wakeup
  split
  · rfl
  split
  · rfl
  · simp only [Shared.updateStaleTimer, Shared.store, Shared.lift_toView, Shared.setUclampMinLocked_toView]
    rfl

theorem wakeups_mActive (order : List Sid) (sh : Shared) :
    (order.foldl (Shared.wakeup cfg) sh).mActive = sh.mActive := by
  induction order generalizing sh with
  | nil => rfl
  | cons s order ih => exact (ih _).trans (wakeup_mActive sh s)

theorem earlyBoost_mActive (s : Sid) (sh : Shared) : (sh.earlyBoost cfg s).mActive = sh.mActive := by
  unfold Shared.earlyBoost
  split
  · rfl
  split
  · rfl
  split
  · rfl
  · simp only [Shared.store, Shared.lift_toView, Shared.setUclampMinLocked_toView]
    rfl

/-- Only the manager's own step changes it. -/
theorem perform_mActive {a : Act} (other : a ≠ .isAnyAppSessionActive) (o : Outcome) :
    (perform cfg a o sh).2.mActive = sh.mActive := by
  cases a with
  | isAnyAppSessionActive => exact absurd rfl other
  | wakeSessions => exact wakeups_mActive _ (sh.wait o.elapsed)
  | earlyBoost s => exact earlyBoost_mActive s (sh.wait o.elapsed)
  | setUclampMin s val =>
    have same := congrArg View.mActive (Shared.setUclampMinLocked_toView cfg s val (sh.wait o.elapsed))
    exact same
  | _ => rfl

theorem eventStep_mActive {e : Event} (other : ∀ due, e ≠ .deliver ⟨.manager, due⟩) (io : Nat → Outcome) :
    (eventStep cfg sh (e, io)).mActive = sh.mActive := by
  have spares : (e.program cfg).All fun a => a ≠ .isAnyAppSessionActive := by
    cases target : e.session with
    | some s =>
      refine (program_on target).mono ?_
      rintro _ on rfl
      exact on
    | none =>
      cases e with
      | displayUpdate => exact ⟨Act.noConfusion, fun _ => trivial⟩
      | tick elapsed => trivial
      | deliver m =>
        obtain ⟨handler, due⟩ := m
        cases handler with
        | manager => exact absurd rfl (other due)
        | wakeup => exact ⟨Act.noConfusion, fun _ => trivial⟩
        | _ => cases target
      | _ => cases target
  have start : (sh.lift fun v => e.begin v).mActive = sh.mActive := by
    cases e <;> rfl
  unfold eventStep
  split
  · have keeps (a : Act) (other : a ≠ .isAnyAppSessionActive) (o : Outcome) (v : Shared)
        (same : v.mActive = sh.mActive) : True ∧ (perform cfg a o v).2.mActive = sh.mActive :=
      ⟨trivial, (perform_mActive other o).trans same⟩
    exact exec_within (spares.within fun _ _ => True) keeps start
  · rfl

end Active

/-! ### The boost of the top app -/

/-- Whether the call switches this hint, and to what. -/
def switches (name : String) : Hint.Call → Option Bool
  | .doHint other | .doHintFor other _ => if other = name then some true else none
  | .endHint other => if other = name then some false else none
  | .acquire _ => none

def Hal.switched (name : String) (h : Hal) : List Bool := h.power.hints.filterMap (switches name)

/-- `Power` has no mode and no boost of this name. -/
structure Apart (names : Hint.Names) (name : String) : Prop where
  mode : ∀ m, names.mode m ≠ name
  boost : ∀ b, names.boost b ≠ name

def HalEvent.Spares (name : String) : HalEvent → Prop
  | .ext (.setMode mode _) => mode ≠ name
  | .ext (.setBoost boost _) => boost ≠ name
  | _ => True

section Switching

variable {config : HintConfig} {names : Hint.Names} {name : String} {p : Hint.Power} {h : Hal}

theorem hint_unswitched {call : Hint.Call} (other : switches name call = none) :
    (p.hint call).hints.filterMap (switches name) = p.hints.filterMap (switches name) := by
  simp [Hint.Power.hint, other]

theorem hint_switched {call : Hint.Call} {b : Bool} (same : switches name call = some b) :
    (p.hint call).hints.filterMap (switches name) = p.hints.filterMap (switches name) ++ [b] := by
  simp [Hint.Power.hint, same]

theorem new_unswitched (apart : Apart names name) (s : Hint.StateProperties) :
    (Hint.Power.new s).hints.filterMap (switches name) = [] := by
  have sustained : "SUSTAINED_PERFORMANCE" ≠ name := names.sustainedPerformance ▸ apart.mode .sustainedPerformance
  have audio : "AUDIO_STREAMING_LOW_LATENCY" ≠ name :=
    names.audioStreamingLowLatency ▸ apart.mode .audioStreamingLowLatency
  have rendering : "EXPENSIVE_RENDERING" ≠ name := names.expensiveRendering ▸ apart.mode .expensiveRendering
  unfold Hint.Power.new Hint.Power.initRendering Hint.Power.initAudio Hint.Power.initState Hint.Power.hint
  by_cases first : s.state = "SUSTAINED_PERFORMANCE" <;> by_cases second : s.audio = "AUDIO_STREAMING_LOW_LATENCY" <;>
    by_cases third : s.rendering = "EXPENSIVE_RENDERING" <;>
      simp [first, second, third, switches, sustained, audio, rendering]

theorem setMode_unswitched (apart : Apart names name) (type : Hint.Mode) (enabled : Bool) :
    (p.setMode names type enabled).hints.filterMap (switches name) = p.hints.filterMap (switches name) := by
  have plain (type : Hint.Mode) : (p.switchHint names type enabled).hints.filterMap (switches name) =
      p.hints.filterMap (switches name) := by
    unfold Hint.Power.switchHint
    split <;> exact hint_unswitched (by simp [switches, apart.mode type])
  cases type with
  | sustainedPerformance =>
    have named : "SUSTAINED_PERFORMANCE" ≠ name := names.sustainedPerformance ▸ apart.mode .sustainedPerformance
    cases enabled with
    | true => exact hint_unswitched (by simp [switches, named])
    | false => rfl
  | launch =>
    simp only [Hint.Power.setMode]
    split
    · rfl
    · exact plain _
  | _ => exact plain _

theorem setBoost_unswitched (apart : Apart names name) (type : Hint.Boost) (durationMs : Int) :
    (p.setBoost names type durationMs).hints.filterMap (switches name) = p.hints.filterMap (switches name) := by
  have plain : (p.boostHint names type durationMs).hints.filterMap (switches name) =
      p.hints.filterMap (switches name) := by
    unfold Hint.Power.boostHint
    split
    · exact hint_unswitched (by simp [switches, apart.boost type])
    split <;> exact hint_unswitched (by simp [switches, apart.boost type])
  cases type with
  | interaction =>
    simp only [Hint.Power.setBoost]
    split
    · rfl
    · exact hint_unswitched rfl
  | _ =>
    simp only [Hint.Power.setBoost]
    split
    · rfl
    · exact plain

theorem heed_eq (active : Option Bool) (h : Hal) :
    h.heed config active = { h with power := (h.heed config active).power } := by
  rcases active with - | - | -
  · rfl
  · simp only [Hal.heed, Hal.enableSystemTopAppBoost]
    split <;> rfl
  · simp only [Hal.heed, Hal.disableSystemTopAppBoost]
    split <;> rfl

theorem heed_shared (active : Option Bool) (h : Hal) : (h.heed config active).shared = h.shared := by
  rw [heed_eq]

theorem heed_power (active before : Bool) (h : Hal) :
    (h.heed config (if active = before then none else some active)).power =
      if active = before then h.power
      else if config.isHintSupported config.kDisableBoostHintName then
        h.power.hint (if active then .doHint config.kDisableBoostHintName else .endHint config.kDisableBoostHintName)
      else h.power := by
  by_cases same : active = before
  · simp only [same, if_true, Hal.heed]
  simp only [same, if_false]
  cases active with
  | true =>
    simp only [Hal.heed, Hal.disableSystemTopAppBoost]
    split <;> rfl
  | false =>
    simp only [Hal.heed, Hal.enableSystemTopAppBoost]
    split <;> rfl

/-- `mActive` becomes what the sessions say, and the hint is switched if that is another value. -/
theorem handleManager_cases (profile : AdpfConfig) (m : Message) (io : Nat → Outcome) (h : Hal) :
    let h' := h.handleManager config profile m io
    h'.shared.mActive = Shared.anyAppSessionActive profile h'.shared.toView ∧
      h'.power = if h'.shared.mActive = h.shared.mActive then h.power else
        if config.isHintSupported config.kDisableBoostHintName then
          h.power.hint (if h'.shared.mActive then .doHint config.kDisableBoostHintName
            else .endHint config.kDisableBoostHintName)
        else h.power := by
  simp only [Hal.handleManager, heed_shared]
  exact ⟨rfl, heed_power _ h.shared.mActive _⟩

/-- What an event does to `mActive` and to the hint of the session manager. -/
structure Switched (config : HintConfig) (h h' : Hal) : Prop where
  same : h'.shared.mActive = h.shared.mActive →
    h'.switched config.kDisableBoostHintName = h.switched config.kDisableBoostHintName
  other : h'.shared.mActive ≠ h.shared.mActive →
    h'.switched config.kDisableBoostHintName =
      if config.isHintSupported config.kDisableBoostHintName then
        h.switched config.kDisableBoostHintName ++ [h'.shared.mActive]
      else h.switched config.kDisableBoostHintName

theorem Switched.of_same {h' : Hal} (active : h'.shared.mActive = h.shared.mActive)
    (calls : h'.switched config.kDisableBoostHintName = h.switched config.kDisableBoostHintName) :
    Switched config h h' :=
  ⟨fun _ => calls, fun changed => absurd active changed⟩

theorem handleManager_switched (profile : AdpfConfig) (m : Message) (io : Nat → Outcome) (h : Hal) :
    Switched config h (h.handleManager config profile m io) := by
  obtain ⟨-, power⟩ := @handleManager_cases config profile m io h
  constructor
  · intro same
    rw [if_pos same] at power
    simp only [Hal.switched, power]
  · intro changed
    rw [if_neg changed] at power
    simp only [Hal.switched, power]
    split
    · exact hint_switched (by split <;> simp_all [switches])
    · rfl

theorem tellMode_shared (mode : String) (enabled : Bool) (h : Hal) :
    (h.tellMode config mode enabled).shared = h.shared := by
  unfold Hal.tellMode
  split <;> rfl

theorem tellMode_power (mode : String) (enabled : Bool) (h : Hal) :
    (h.tellMode config mode enabled).power = h.power := by
  unfold Hal.tellMode
  split <;> rfl

theorem tellBoost_mActive (boost : String) (h : Hal) : (h.tellBoost boost).shared.mActive = h.shared.mActive := by
  unfold Hal.tellBoost Hal.updateHintBoost
  split
  · split <;> rfl
  · rfl

theorem tellBoost_power (boost : String) (h : Hal) : (h.tellBoost boost).power = h.power := by
  unfold Hal.tellBoost Hal.updateHintBoost
  split
  · split <;> rfl
  · rfl

theorem session_switched (e : Event) (io : Nat → Outcome) (h : Hal) : Switched config h (h.session config e io) := by
  have unchanged : Switched config h h := .of_same rfl rfl
  unfold Hal.session
  split
  · exact unchanged
  · split
    · split
      · exact handleManager_switched _ _ io h
      · exact unchanged
    · exact unchanged
    · next other _ => exact .of_same (eventStep_mActive other io) rfl

theorem step_switched (apart : Apart names config.kDisableBoostHintName) {e : HalEvent}
    (spares : e.Spares config.kDisableBoostHintName) (h : Hal) : Switched config h (h.step config names e) := by
  cases e with
  | power r =>
    cases r with
    | setMode type enabled =>
      refine .of_same (congrArg (·.mActive) (tellMode_shared _ enabled h)) ?_
      refine (setMode_unswitched apart type enabled).trans ?_
      rw [tellMode_power]
      rfl
    | setBoost type durationMs =>
      refine .of_same (tellBoost_mActive _ h) ((setBoost_unswitched apart type durationMs).trans ?_)
      rw [tellBoost_power]
      rfl
  | ext r =>
    cases r with
    | setMode mode enabled =>
      refine .of_same (congrArg (·.mActive) (tellMode_shared mode enabled _)) ?_
      simp only [Hal.switched, Hal.step, Hal.extRequest, tellMode_power]
      refine hint_unswitched ?_
      split <;> exact if_neg spares
    | setBoost boost durationMs =>
      refine .of_same (tellBoost_mActive boost h) ?_
      simp only [Hal.switched, Hal.step, Hal.extRequest, tellBoost_power]
      refine hint_unswitched ?_
      split
      · exact if_neg spares
      split <;> exact if_neg spares
  | session e io => exact session_switched e io h

/-- The calls for the hint are on and off in turn, on first, and the last one says whether an app session counts. -/
structure Follows (config : HintConfig) (h : Hal) : Prop where
  alternating : (h.switched config.kDisableBoostHintName).IsChain (· ≠ ·)
  first : ∀ b ∈ (h.switched config.kDisableBoostHintName).head?, b = true
  last : (h.switched config.kDisableBoostHintName).getLast?.getD false = h.shared.mActive

theorem Follows.start (apart : Apart names config.kDisableBoostHintName) (s : Hint.StateProperties)
    (profile : Option AdpfConfig) : Follows config (Hal.start s profile) := by
  have none : (Hal.start s profile).switched config.kDisableBoostHintName = [] := new_unswitched apart s
  exact ⟨by simp [none], by simp [none], by rw [none]; rfl⟩

theorem Follows.step {h' : Hal} (supported : config.isHintSupported config.kDisableBoostHintName = true)
    (follows : Follows config h) (switched : Switched config h h') : Follows config h' := by
  by_cases same : h'.shared.mActive = h.shared.mActive
  · have calls := switched.same same
    exact ⟨calls ▸ follows.alternating, calls ▸ follows.first, by rw [calls, same, follows.last]⟩
  have calls := switched.other same
  rw [if_pos supported] at calls
  have last := follows.last
  refine ⟨?_, ?_, by simp [calls]⟩
  · rw [calls, List.isChain_append]
    refine ⟨follows.alternating, .singleton _, ?_⟩
    intro b latest b' new
    cases new
    rw [latest, Option.getD_some] at last
    exact fun equal => same (equal.symm.trans last)
  · rw [calls]
    cases earlier : h.switched config.kDisableBoostHintName with
    | nil =>
      rw [earlier] at last
      have off : h.shared.mActive = false := last.symm
      simpa [off] using same
    | cons b bs =>
      have first := follows.first
      rw [earlier] at first
      exact first

/-- Whatever else is asked of the service, the boost of the top app is off exactly while an app session counts. -/
theorem top_app_boost_follows_sessions (config : HintConfig) (names : Hint.Names)
    (apart : Apart names config.kDisableBoostHintName) (s : Hint.StateProperties) (profile : Option AdpfConfig)
    (events : List HalEvent) (spares : ∀ e ∈ events, e.Spares config.kDisableBoostHintName) :
    let name := config.kDisableBoostHintName
    let h := (Hal.start s profile).run config names events
    (config.isHintSupported name = true → Follows config h ∧
      ∀ cfg due io, h.profile = some cfg → (Event.deliver ⟨.manager, due⟩).enabled h.shared.toView = true →
        let h' := h.step config names (.session (.deliver ⟨.manager, due⟩) io)
        (h'.switched name).getLast?.getD false = Shared.anyAppSessionActive cfg h'.shared.toView) ∧
      (config.isHintSupported name = false → h.switched name = []) := by
  intro name h
  constructor
  · intro supported
    have follows : Follows config h := by
      refine List.foldlRecOn (motive := Follows config) events _ (.start apart s profile) ?_
      exact fun x follows e here => follows.step supported (step_switched apart (spares e here) x)
    refine ⟨follows, ?_⟩
    intro cfg due io selected enabled
    have handled : h.step config names (.session (.deliver ⟨.manager, due⟩) io) =
        h.handleManager config cfg ⟨.manager, due⟩ io := by
      simp only [Hal.step, Hal.session, selected, enabled, if_true]
    rw [handled]
    have follows' := follows.step supported (handleManager_switched cfg ⟨.manager, due⟩ io h)
    exact follows'.last.trans (handleManager_cases cfg ⟨.manager, due⟩ io h).1
  · intro unsupported
    refine List.foldlRecOn (motive := fun x : Hal => x.switched name = []) events _ (new_unswitched apart s) ?_
    intro x none e here
    have switched := step_switched apart (spares e here) x
    by_cases same : (x.step config names e).shared.mActive = x.shared.mActive
    · exact (switched.same same).trans none
    · have calls := switched.other same
      rw [if_neg (by simp [unsupported, name])] at calls
      exact calls.trans none

end Switching

namespace Sample

def hints : HintConfig where
  isHintSupported _ := true
  profiles _ := none
  kDisableBoostHintName := "ADPF_DISABLE_TA_BOOST"

theorem apart : Apart Hint.Sample.names hints.kDisableBoostHintName := by
  constructor
  · intro m same
    have chars := congrArg String.toList same
    cases m <;> simp [Hint.Sample.names, Hint.Sample.modeName, hints] at chars
  · intro b same
    have chars := congrArg String.toList same
    cases b <;> simp [Hint.Sample.names, Hint.Sample.boostName, hints] at chars

def served : List HalEvent :=
  [.session (.createHintSession 0 1 10001 [7] 10) calm, .power (.setMode .launch true), .session (.pause 0) calm,
    .session (.resume 0) calm, .session (.deliver ⟨.manager, 0⟩) calm, .ext (.setBoost "CAMERA" 5),
    .session (.pause 0) calm]

end Sample

theorem top_app_boost_served :
    let h := (Hal.start ⟨"", "", ""⟩ (some Sample.cfg)).run Sample.hints Hint.Sample.names Sample.served
    h.switched "ADPF_DISABLE_TA_BOOST" = [true] ∧ Follows Sample.hints h := by
  have spares : ∀ e ∈ Sample.served, e.Spares Sample.hints.kDisableBoostHintName := by
    simp [Sample.served, Sample.hints, HalEvent.Spares]
  refine ⟨by decide +kernel, ?_⟩
  exact ((top_app_boost_follows_sessions Sample.hints Hint.Sample.names Sample.apart ⟨"", "", ""⟩ (some Sample.cfg)
    Sample.served spares).1 rfl).1

/-! ### The profile -/

/-- The mode that the event names, through either interface. -/
def HalEvent.mode (names : Hint.Names) : HalEvent → Option String
  | .power (.setMode type _) => some (names.mode type)
  | .ext (.setMode mode _) => some mode
  | _ => none

def named (config : HintConfig) (names : Hint.Names) (events : List HalEvent) : List AdpfConfig :=
  events.filterMap fun e => (e.mode names).bind config.profiles

/-- With such a profile sessions are reported on, and the manager is told of modes. -/
def AdpfConfig.Reporting (profile : AdpfConfig) : Prop := 0 < profile.mReportingRateLimitNs

instance : DecidablePred AdpfConfig.Reporting :=
  fun profile => inferInstanceAs (Decidable (0 < profile.mReportingRateLimitNs))

section Profiles

variable {config : HintConfig} {names : Hint.Names} {h : Hal} {profile : AdpfConfig}

theorem not_reporting_iff : ¬ profile.Reporting ↔ profile.mReportingRateLimitNs ≤ 0 := Int.not_lt

theorem tellMode_profile (current : h.profile = some profile) (mode : String) (enabled : Bool) :
    (h.tellMode config mode enabled).profile =
      some (if profile.Reporting then (config.profiles mode).getD profile else profile) := by
  have told : h.reports = true ↔ profile.Reporting := by simp [Hal.reports, current, AdpfConfig.Reporting]
  unfold Hal.tellMode Hal.updateHintMode
  by_cases reporting : profile.Reporting
  · rw [if_pos (told.mpr reporting), if_pos reporting]
    cases config.profiles mode <;> simp [current]
  · rw [if_neg (told.not.mpr reporting), if_neg reporting, current]

theorem tellBoost_profile (boost : String) (h : Hal) : (h.tellBoost boost).profile = h.profile := by
  unfold Hal.tellBoost Hal.updateHintBoost
  split
  · split <;> rfl
  · rfl

theorem session_profile (e : Event) (io : Nat → Outcome) (h : Hal) : (h.session config e io).profile = h.profile := by
  unfold Hal.session
  split
  · rfl
  · split
    · split
      · rw [Hal.handleManager, heed_eq]
      · rfl
    · rfl
    · rfl

/-- A profile with reports gives way to the one that a mode names. -/
theorem step_profile (current : h.profile = some profile) (e : HalEvent) :
    (h.step config names e).profile =
      some (if profile.Reporting then ((e.mode names).bind config.profiles).getD profile else profile) := by
  have silent : some profile = some (if profile.Reporting then (none : Option AdpfConfig).getD profile else profile) := by
    split <;> rfl
  cases e with
  | power r =>
    cases r with
    | setMode type enabled => exact tellMode_profile current (names.mode type) enabled
    | setBoost type durationMs => exact (tellBoost_profile _ h).trans (current.trans silent)
  | ext r =>
    cases r with
    | setMode mode enabled =>
      let hinted := { h with power := h.power.hint (if enabled then .doHint mode else .endHint mode) }
      have still : hinted.profile = some profile := current
      exact tellMode_profile still mode enabled
    | setBoost boost durationMs => exact (tellBoost_profile _ h).trans (current.trans silent)
  | session e io => exact (session_profile e io h).trans (current.trans silent)

theorem run_profile (current : h.profile = some profile) (events : List HalEvent) :
    (h.run config names events).profile =
      some (History.latched AdpfConfig.Reporting profile (named config names events)) := by
  rw [← History.foldl_latch_eq]
  induction events generalizing h profile with
  | nil => exact current
  | cons e events ih =>
    refine (ih (step_profile current e)).trans ?_
    cases next : (e.mode names).bind config.profiles with
    | none => simp [named, next]
    | some next' => simp [named, next]

theorem createHintSession_status (current : h.profile = some profile) (s : Sid) (tgid uid : Int)
    (threadIds : List Tid) (durationNanos : Int) (io : Nat → Outcome) :
    h.createHintSession s tgid uid threadIds durationNanos io =
      if profile.Reporting then if threadIds = [] then .illegalArgument else .ok else .unsupportedOperation := by
  simp only [Hal.createHintSession, current, Power.createHintSession]
  by_cases reporting : profile.Reporting
  · rw [if_neg (fun none => not_reporting_iff.mpr none reporting), if_pos reporting]
    by_cases none : threadIds = []
    · simp [none, exec]
    · rw [if_neg (by simpa using none), if_neg none]
      -- The status does not depend on what the constructor does.
      obtain ⟨_, answers⟩ := @exec_bind _ _ _ _ _ _ (perform profile) io
        (construct profile s tgid uid threadIds durationNanos) (fun _ => pure Status.ok) 0 h.shared
      rw [answers]
      rfl
  · rw [if_pos (not_reporting_iff.mp reporting), if_neg reporting]
    rfl

theorem getHintSessionPreferredRate_status (current : h.profile = some profile) :
    h.getHintSessionPreferredRate =
      if profile.Reporting then .ok profile.mReportingRateLimitNs else .error .unsupportedOperation := by
  simp only [Hal.getHintSessionPreferredRate, current, Option.elim_some]
  by_cases reporting : profile.Reporting
  · rw [if_neg (fun none => not_reporting_iff.mpr none reporting), if_pos reporting]
  · rw [if_pos (not_reporting_iff.mp reporting), if_neg reporting]

/-- The first profile without reports stays for good: no mode selects another one, and no session is created. -/
theorem profile_after_run (config : HintConfig) (names : Hint.Names) (s : Hint.StateProperties) (first : AdpfConfig)
    (events : List HalEvent) :
    let h := (Hal.start s (some first)).run config names events
    let profiles := first :: named config names events
    let last := profiles.getLast (List.cons_ne_nil _ _)
    h.profile = some ((profiles.find? fun profile => ¬ profile.Reporting).getD last) ∧
      (∀ s tgid uid threadIds durationNanos io,
        h.createHintSession s tgid uid threadIds durationNanos io =
          if ∀ profile ∈ profiles, profile.Reporting then if threadIds = [] then .illegalArgument else .ok
          else .unsupportedOperation) ∧
      h.getHintSessionPreferredRate =
        if ∀ profile ∈ profiles, profile.Reporting then .ok last.mReportingRateLimitNs
        else .error .unsupportedOperation := by
  intro h profiles last
  have current : h.profile = some (History.latched AdpfConfig.Reporting first (named config names events)) :=
    run_profile rfl events
  have reporting : (History.latched AdpfConfig.Reporting first (named config names events)).Reporting ↔
      ∀ profile ∈ profiles, profile.Reporting := History.good_latched_iff
  refine ⟨current, ?_, ?_⟩
  · intro s tgid uid threadIds durationNanos io
    rw [createHintSession_status current]
    simp only [reporting, profiles]
  · rw [getHintSessionPreferredRate_status current]
    by_cases all : ∀ profile ∈ profiles, profile.Reporting
    · rw [if_pos (reporting.mpr all), if_pos all, History.latched_of_forall all]
    · rw [if_neg (reporting.not.mpr all), if_neg all]

end Profiles

end Pdx215.Power
