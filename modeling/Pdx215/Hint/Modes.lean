import Mathlib.Data.List.TakeWhile
import Mathlib.Logic.Function.Basic
import Pdx215.Lib.History

/-! The service object `Power`: which hints `setMode` and `setBoost` take and give back. The session manager
is told of every request first, whatever becomes of it; that is left out here. -/
namespace Pdx215.Hint

open History

inductive Mode where
  | sustainedPerformance
  | launch
  | doubleTapToWake
  | fixedPerformance
  | expensiveRendering
  | interactive
  | deviceIdle
  | displayInactive
  | audioStreamingLowLatency
  | gameLoading
  /-- A mode that the source does not name. -/
  | other (value : Nat)
  deriving DecidableEq, Repr

inductive Boost where
  | interaction
  | displayUpdateImminent
  | mlAcc
  | audioLaunch
  | other (value : Nat)
  deriving DecidableEq, Repr

/-- The `toString` of the two interface enumerations, which is generated: enumerators have different names,
and some are also written out in the source. -/
structure Names where
  mode : Mode → String
  boost : Boost → String
  injective : Function.Injective mode
  apart : ∀ m b, mode m ≠ boost b
  sustainedPerformance : mode .sustainedPerformance = "SUSTAINED_PERFORMANCE"
  audioStreamingLowLatency : mode .audioStreamingLowLatency = "AUDIO_STREAMING_LOW_LATENCY"
  expensiveRendering : mode .expensiveRendering = "EXPENSIVE_RENDERING"

/-- Calls of the hint manager, and of the interaction handler for the hint that it looks after. -/
inductive Call where
  | doHint (name : String)
  | doHintFor (name : String) (ms : Int)
  | endHint (name : String)
  | acquire (ms : Int)
  deriving DecidableEq, Repr

structure StateProperties where
  state : String
  audio : String
  rendering : String

structure Power where
  mSustainedPerfModeOn : Bool
  /-- The oldest call comes first. -/
  hints : List Call

namespace Power

def hint (p : Power) (call : Call) : Power := { p with hints := p.hints ++ [call] }

def initState (s : StateProperties) (p : Power) : Power :=
  if s.state = "SUSTAINED_PERFORMANCE" then
    { p.hint (.doHint "SUSTAINED_PERFORMANCE") with mSustainedPerfModeOn := true }
  else p

def initAudio (s : StateProperties) (p : Power) : Power :=
  if s.audio = "AUDIO_STREAMING_LOW_LATENCY" then p.hint (.doHint s.audio) else p

def initRendering (s : StateProperties) (p : Power) : Power :=
  if s.rendering = "EXPENSIVE_RENDERING" then p.hint (.doHint "EXPENSIVE_RENDERING") else p

def new (s : StateProperties) : Power := initRendering s (initAudio s (initState s ⟨false, []⟩))

section Requests

variable (names : Names)

/-- The case that all others fall through to. -/
def switchHint (type : Mode) (enabled : Bool) (p : Power) : Power :=
  if enabled then p.hint (.doHint (names.mode type)) else p.hint (.endHint (names.mode type))

def setMode (type : Mode) (enabled : Bool) (p : Power) : Power :=
  match type with
  | .sustainedPerformance =>
    let p := if enabled then p.hint (.doHint "SUSTAINED_PERFORMANCE") else p
    { p with mSustainedPerfModeOn := true }
  | .launch => if p.mSustainedPerfModeOn then p else p.switchHint names .launch enabled
  | type => p.switchHint names type enabled

def boostHint (type : Boost) (durationMs : Int) (p : Power) : Power :=
  if 0 < durationMs then p.hint (.doHintFor (names.boost type) durationMs)
  else if durationMs = 0 then p.hint (.doHint (names.boost type))
  else p.hint (.endHint (names.boost type))

def setBoost (type : Boost) (durationMs : Int) (p : Power) : Power :=
  match type with
  | .interaction => if p.mSustainedPerfModeOn then p else p.hint (.acquire durationMs)
  | type => if p.mSustainedPerfModeOn then p else p.boostHint names type durationMs

end Requests

end Power

inductive Request where
  | setMode (type : Mode) (enabled : Bool)
  | setBoost (type : Boost) (durationMs : Int)
  deriving DecidableEq, Repr

def Request.apply (names : Names) (p : Power) : Request → Power
  | .setMode type enabled => p.setMode names type enabled
  | .setBoost type durationMs => p.setBoost names type durationMs

def history (names : Names) (s : StateProperties) (requests : List Request) : Power :=
  requests.foldl (Request.apply names) (.new s)

/-! ### What a history of requests asks for -/

def Unmatched (name : String) (hints : List Call) : Prop :=
  ∃ before, Latest (· = .endHint name) (.doHint name) hints before

/-- The last `setMode` call for the mode comes after the given ones. -/
def Last (m : Mode) (requests before : List Request) (enabled : Bool) : Prop :=
  Latest (fun r => ∃ e, r = .setMode m e) (.setMode m enabled) requests before

def Untouched (m : Mode) (requests : List Request) : Prop := ∀ e, .setMode m e ∉ requests

def StateProperties.selects (s : StateProperties) : Mode → Prop
  | .sustainedPerformance => s.state = "SUSTAINED_PERFORMANCE"
  | .audioStreamingLowLatency => s.audio = "AUDIO_STREAMING_LOW_LATENCY"
  | .expensiveRendering => s.rendering = "EXPENSIVE_RENDERING"
  | _ => False

/-- The requests that sustained performance suppresses. -/
def Request.Governed : Request → Prop
  | .setMode .launch _ => True
  | .setMode _ _ => False
  | .setBoost _ _ => True

def Suppressed (names : Names) (p : Power) (r : Request) : Prop := (r.apply names p).hints = p.hints

/-- Modes can be switched off again: a hint is left on exactly if its mode was asked for last and the
request was not suppressed, and requests are suppressed exactly while sustained performance is asked for. -/
structure Obeyed (names : Names) (s : StateProperties) (requests : List Request) : Prop where
  hints : ∀ m, Unmatched (names.mode m) (history names s requests).hints ↔
    (∃ before, Last m requests before true ∧
      ¬ (m = .launch ∧ (history names s before).mSustainedPerfModeOn = true)) ∨
    Untouched m requests ∧ s.selects m
  suppression : ∀ r : Request, r.Governed → (Suppressed names (history names s requests) r ↔
    (∃ before, Last .sustainedPerformance requests before true) ∨
    Untouched .sustainedPerformance requests ∧ s.selects .sustainedPerformance)

/-! ### One request -/

section Steps

variable {names : Names} {s : StateProperties} {p : Power} {r : Request} {requests before : List Request} {m : Mode}

theorem history_append : history names s (requests ++ [r]) = r.apply names (history names s requests) :=
  List.foldl_append

def Request.Sustains (r : Request) : Bool :=
  match r with
  | .setMode .sustainedPerformance _ => true
  | _ => false

@[simp] theorem hint_flag (call : Call) : (p.hint call).mSustainedPerfModeOn = p.mSustainedPerfModeOn := rfl

@[simp] theorem switchHint_flag (type : Mode) (e : Bool) :
    (p.switchHint names type e).mSustainedPerfModeOn = p.mSustainedPerfModeOn := by
  cases e <;> rfl

theorem setBoost_flag (type : Boost) (ms : Int) :
    (p.setBoost names type ms).mSustainedPerfModeOn = p.mSustainedPerfModeOn := by
  cases type <;> simp only [Power.setBoost, Power.boostHint] <;> repeat' split
  all_goals rfl

theorem apply_flag (r : Request) :
    (r.apply names p).mSustainedPerfModeOn = (p.mSustainedPerfModeOn || r.Sustains) := by
  cases r with
  | setBoost type ms => simp [Request.apply, setBoost_flag, Request.Sustains]
  | setMode type e =>
    cases type
    case sustainedPerformance => simp [Request.apply, Power.setMode, Request.Sustains]
    case launch =>
      simp only [Request.apply, Power.setMode, Request.Sustains, Bool.or_false]
      split
      · rfl
      · exact switchHint_flag _ _
    all_goals simp [Request.apply, Power.setMode, Request.Sustains]

theorem unmatched_hint {call : Call} {name : String} : Unmatched name (p.hint call).hints ↔
    call = .doHint name ∨ call ≠ .endHint name ∧ Unmatched name p.hints := by
  simp [Unmatched, Power.hint, latest_append, exists_or]

theorem unmatched_switchHint (type : Mode) (e : Bool) : Unmatched (names.mode m) (p.switchHint names type e).hints ↔
    type = m ∧ e = true ∨ ¬ (type = m ∧ e = false) ∧ Unmatched (names.mode m) p.hints := by
  cases e <;> simp [Power.switchHint, unmatched_hint, names.injective.eq_iff]

theorem unmatched_setBoost (type : Boost) (ms : Int) :
    Unmatched (names.mode m) (p.setBoost names type ms).hints ↔ Unmatched (names.mode m) p.hints := by
  have apart : names.boost type ≠ names.mode m := (names.apart m type).symm
  cases type <;> simp only [Power.setBoost, Power.boostHint] <;> repeat' split
  all_goals simp [unmatched_hint, apart]

theorem setMode_plain {type : Mode} (sustains : type ≠ .sustainedPerformance) (launches : type ≠ .launch) (e : Bool) :
    p.setMode names type e = p.switchHint names type e := by
  cases type
  case sustainedPerformance => exact absurd rfl sustains
  case launch => exact absurd rfl launches
  all_goals rfl

theorem unmatched_sustained (e : Bool) : Unmatched (names.mode m) (p.setMode names .sustainedPerformance e).hints ↔
    .sustainedPerformance = m ∧ e = true ∨ Unmatched (names.mode m) p.hints := by
  cases e with
  | false => simp [Power.setMode]
  | true =>
    have kept : (p.setMode names .sustainedPerformance true).hints =
        (p.hint (.doHint (names.mode .sustainedPerformance))).hints := by
      rw [names.sustainedPerformance]
      rfl
    simp [kept, unmatched_hint, names.injective.eq_iff]

theorem unmatched_apply (r : Request) : Unmatched (names.mode m) (r.apply names p).hints ↔
    r = .setMode m true ∧ ¬ (m = .launch ∧ p.mSustainedPerfModeOn = true) ∨
    ¬ (r = .setMode m false ∧ m ≠ .sustainedPerformance ∧ ¬ (m = .launch ∧ p.mSustainedPerfModeOn = true)) ∧
      Unmatched (names.mode m) p.hints := by
  cases r with
  | setBoost type ms => simp [Request.apply, unmatched_setBoost]
  | setMode type e =>
    change Unmatched _ (p.setMode names type e).hints ↔ _
    by_cases sustains : type = .sustainedPerformance
    · subst sustains
      rw [unmatched_sustained]
      by_cases same : Mode.sustainedPerformance = m
      · subst same
        simp
      · simp [same]
    · by_cases launches : type = .launch
      · subst launches
        simp only [Power.setMode]
        by_cases same : Mode.launch = m
        · subst same
          split
          · simp_all
          · simp_all [unmatched_switchHint]
        · split
          · simp [same]
          · simp [unmatched_switchHint, same]
      · rw [setMode_plain sustains launches, unmatched_switchHint]
        by_cases same : type = m
        · subst same
          simp [sustains, launches]
        · simp [same]

theorem suppressed_iff (governed : r.Governed) : Suppressed names p r ↔ p.mSustainedPerfModeOn = true := by
  cases r with
  | setBoost type ms =>
    cases type <;> simp only [Suppressed, Request.apply, Power.setBoost, Power.boostHint] <;> repeat' split
    all_goals simp_all [Power.hint]
  | setMode type e =>
    cases type
    case launch =>
      simp only [Suppressed, Request.apply, Power.setMode]
      split
      · simp_all
      · cases e <;> simp_all [Power.switchHint, Power.hint]
    all_goals exact governed.elim

end Steps

/-! ### Whole histories -/

section Histories

variable {names : Names} {s : StateProperties} {requests before : List Request} {m : Mode}

theorem new_flag : (Power.new s).mSustainedPerfModeOn = decide (s.state = "SUSTAINED_PERFORMANCE") := by
  unfold Power.new Power.initRendering Power.initAudio Power.initState
  split <;> split <;> split <;> simp_all

theorem history_flag : (history names s requests).mSustainedPerfModeOn =
    (decide (s.state = "SUSTAINED_PERFORMANCE") || requests.any Request.Sustains) := by
  induction requests using List.reverseRecOn with
  | nil => simp [history, new_flag]
  | append_singleton requests r ih => simp [history_append, apply_flag, ih, Bool.or_assoc]

theorem unmatched_nil (name : String) : ¬ Unmatched name [] := fun ⟨_, latest⟩ => not_latest_nil latest

theorem unmatched_selected {p : Power} {c : Prop} [Decidable c] {m' : Mode} {name : String}
    (named : c → names.mode m' = name) :
    Unmatched (names.mode m) (if c then p.hint (.doHint name) else p).hints ↔
      m' = m ∧ c ∨ Unmatched (names.mode m) p.hints := by
  split
  · rename_i selected
    simp [← named selected, selected, unmatched_hint, names.injective.eq_iff]
  · simp_all

theorem unmatched_new : Unmatched (names.mode m) (Power.new s).hints ↔ s.selects m := by
  have first : (Power.initState s ⟨false, []⟩).hints =
      (if s.state = "SUSTAINED_PERFORMANCE" then (Power.mk false []).hint (.doHint "SUSTAINED_PERFORMANCE")
        else ⟨false, []⟩).hints := by
    unfold Power.initState
    split <;> rfl
  rw [Power.new, Power.initRendering, unmatched_selected fun _ => names.expensiveRendering, Power.initAudio,
    unmatched_selected fun selected => names.audioStreamingLowLatency.trans selected.symm, first,
    unmatched_selected fun _ => names.sustainedPerformance]
  cases m <;> simp [unmatched_nil, StateProperties.selects]

theorem last_append {r : Request} {e : Bool} : Last m (requests ++ [r]) before e ↔
    r = .setMode m e ∧ before = requests ∨ (∀ e', r ≠ .setMode m e') ∧ Last m requests before e := by
  simp [Last, latest_append]

theorem untouched_append {r : Request} :
    Untouched m (requests ++ [r]) ↔ (∀ e, r ≠ .setMode m e) ∧ Untouched m requests := by
  simp [Untouched, forall_and, and_comm, eq_comm]

/-- A request is for the mode, one way or the other, or leaves its hint and its last call as they are. -/
theorem request_cases (m : Mode) (r : Request) :
    r = .setMode m true ∨ r = .setMode m false ∨ ∀ e, r ≠ .setMode m e := by
  by_cases on : r = .setMode m true
  · exact .inl on
  · by_cases off : r = .setMode m false
    · exact .inr (.inl off)
    · refine .inr (.inr fun e => ?_)
      cases e
      · exact off
      · exact on

theorem unmatched_plain (sustains : m ≠ .sustainedPerformance) (launches : m ≠ .launch) :
    Unmatched (names.mode m) (history names s requests).hints ↔
      (∃ before, Last m requests before true) ∨ Untouched m requests ∧ s.selects m := by
  induction requests using List.reverseRecOn with
  | nil => simpa [history, Last, not_latest_nil, Untouched] using unmatched_new
  | append_singleton requests r ih =>
    rw [history_append, unmatched_apply, ih]
    simp only [last_append, untouched_append, launches]
    rcases request_cases m r with rfl | rfl | other
    · simp
    · simp [sustains]
    · simp [other]

theorem unmatched_sustained_history : Unmatched (names.mode .sustainedPerformance) (history names s requests).hints ↔
    s.selects .sustainedPerformance ∨ .setMode .sustainedPerformance true ∈ requests := by
  induction requests using List.reverseRecOn with
  | nil => simpa [history] using unmatched_new
  | append_singleton requests r ih =>
    rw [history_append, unmatched_apply, ih, List.mem_append, List.mem_singleton]
    rcases request_cases .sustainedPerformance r with rfl | rfl | other
    · simp
    · simp
    · simp [other, (other true).symm]

/-! ### Launches -/

def early (s : StateProperties) (requests : List Request) : List Request :=
  if s.state = "SUSTAINED_PERFORMANCE" then [] else requests.takeWhile fun r => !r.Sustains

theorem early_append_of_on {r : Request} (on : (history names s requests).mSustainedPerfModeOn = true) :
    early s (requests ++ [r]) = early s requests := by
  unfold early
  split
  · rfl
  · rename_i unselected
    obtain ⟨r', here, sustains⟩ : ∃ r' ∈ requests, r'.Sustains = true := by
      simpa [history_flag, unselected] using on
    rw [List.takeWhile_append, if_neg]
    intro full
    have whole : (requests.takeWhile fun r => !r.Sustains) = requests :=
      (List.takeWhile_sublist _).eq_of_length full
    simpa [sustains] using List.takeWhile_eq_self_iff.mp whole r' here

theorem early_of_off (off : (history names s requests).mSustainedPerfModeOn = false) (after : List Request) :
    early s (requests ++ after) = requests ++ after.takeWhile fun r => !r.Sustains := by
  rw [history_flag, Bool.or_eq_false_iff] at off
  have unselected : ¬ s.state = "SUSTAINED_PERFORMANCE" := by simpa using off.1
  have none : ∀ r ∈ requests, (!r.Sustains) = true := by simpa using off.2
  rw [early, if_neg unselected, List.takeWhile_append_of_pos none]

theorem sustains_iff {r : Request} : r.Sustains = true ↔ ∃ e, r = .setMode .sustainedPerformance e := by
  cases r with
  | setBoost type ms => simp [Request.Sustains]
  | setMode type e => cases type <;> simp [Request.Sustains]

/-- Only the launches before sustained performance have taken or given back their hint. -/
theorem unmatched_launch : Unmatched (names.mode .launch) (history names s requests).hints ↔
    ∃ before, Last .launch (early s requests) before true := by
  induction requests using List.reverseRecOn with
  | nil => simpa [history, early, Last, not_latest_nil, StateProperties.selects] using unmatched_new (m := .launch)
  | append_singleton requests r ih =>
    rw [history_append, unmatched_apply]
    cases on : (history names s requests).mSustainedPerfModeOn with
    | true =>
      rw [early_append_of_on on, ← ih]
      simp
    | false =>
      have all : early s requests = requests := by simpa using early_of_off on []
      rw [ih, all, early_of_off on]
      by_cases sustains : r.Sustains = true
      · obtain ⟨e, rfl⟩ := sustains_iff.mp sustains
        simp [Request.Sustains]
      · have kept : ([r].takeWhile fun r => !r.Sustains) = [r] := by simp [sustains]
        rw [kept]
        simp only [last_append]
        rcases request_cases .launch r with rfl | rfl | other
        · simp
        · simp
        · simp [other]

/-- A launch is on when sustained performance is first asked for, and there is a request for it afterwards. -/
def Crossing (s : StateProperties) (requests : List Request) : Prop :=
  (∃ before, Last .launch (early s requests) before true) ∧
    ∃ e, .setMode .launch e ∈ requests.drop (early s requests).length

theorem early_prefix (s : StateProperties) (requests : List Request) : early s requests <+: requests := by
  unfold early
  split
  · exact List.nil_prefix
  · exact List.takeWhile_prefix _

theorem off_of_early {r : Request} {after : List Request} (split : early s requests = before ++ r :: after) :
    (history names s before).mSustainedPerfModeOn = false := by
  unfold early at split
  split at split
  · simp at split
  · rename_i unselected
    have none : ∀ r ∈ before, r.Sustains = false := by
      intro r here
      have inside : r ∈ requests.takeWhile fun r => !r.Sustains := split ▸ List.mem_append_left _ here
      simpa using List.mem_takeWhile_imp inside
    simpa [history_flag, unselected] using none

/-- A launch that was not suppressed is the last one, unless there is another after sustained performance. -/
theorem last_launch (names : Names) (uncrossed : ¬ Crossing s requests) :
    (∃ before, Last .launch (early s requests) before true) ↔
    ∃ before, Last .launch requests before true ∧ ¬ (history names s before).mSustainedPerfModeOn = true := by
  constructor
  · rintro ⟨before, after, split, none⟩
    obtain ⟨rest, whole⟩ := early_prefix s requests
    have dropped : requests.drop (early s requests).length = rest :=
      (congrArg (List.drop _) whole).symm.trans List.drop_left
    refine ⟨before, ⟨after ++ rest, ?_, fun r here => ?_⟩, by simp [off_of_early split]⟩
    · rw [← whole, split, List.append_assoc, List.cons_append]
    · rcases List.mem_append.mp here with here | here
      · exact none r here
      · rintro ⟨e, rfl⟩
        exact uncrossed ⟨⟨before, after, split, none⟩, e, dropped ▸ here⟩
  · rintro ⟨before, ⟨after, rfl, none⟩, off⟩
    refine ⟨before, after.takeWhile fun r => !r.Sustains, ?_, fun r here => ?_⟩
    · rw [early_of_off (eq_false_of_ne_true off)]
      rfl
    · exact none r ((List.takeWhile_sublist _).mem here)

theorem not_crossing_of_last (last : Last .launch requests before true)
    (off : (history names s before).mSustainedPerfModeOn = false) : ¬ Crossing s requests := by
  rintro ⟨-, e, later⟩
  obtain ⟨after, rfl, none⟩ := last
  rw [early_of_off off, List.length_append, List.drop_length_add_append] at later
  have inside : .setMode .launch e ∈ after := List.mem_of_mem_drop later
  exact none _ inside ⟨e, rfl⟩

/-- The last request for sustained performance, if there is one, is to switch it on. -/
theorem sustained_asked (kept : ∀ before, ¬ Last .sustainedPerformance requests before false) :
    (∃ before, Last .sustainedPerformance requests before true) ∨ Untouched .sustainedPerformance requests := by
  by_cases untouched : Untouched .sustainedPerformance requests
  · exact .inr untouched
  · obtain ⟨e, here⟩ := not_forall_not.mp untouched
    obtain ⟨_, before, ⟨e', rfl⟩, last⟩ := exists_latest (fun r => ∃ e, r = .setMode .sustainedPerformance e) here
      ⟨e, rfl⟩
    cases e' with
    | false => exact absurd last (kept before)
    | true => exact .inl ⟨before, last⟩

theorem asked_iff (kept : ∀ before, ¬ Last .sustainedPerformance requests before false) :
    (∃ before, Last .sustainedPerformance requests before true) ∨
        Untouched .sustainedPerformance requests ∧ s.selects .sustainedPerformance ↔
      s.selects .sustainedPerformance ∨ .setMode .sustainedPerformance true ∈ requests := by
  constructor
  · rintro (⟨before, last⟩ | ⟨-, selected⟩)
    · exact .inr last.mem
    · exact .inl selected
  · intro asked
    rcases sustained_asked kept with last | untouched
    · exact .inl last
    · exact .inr ⟨untouched, asked.resolve_right (untouched true)⟩

theorem flag_iff (kept : ∀ before, ¬ Last .sustainedPerformance requests before false) :
    (history names s requests).mSustainedPerfModeOn = true ↔
      s.selects .sustainedPerformance ∨ .setMode .sustainedPerformance true ∈ requests := by
  rw [history_flag, Bool.or_eq_true, List.any_eq_true, decide_eq_true_eq]
  apply or_congr_right
  constructor
  · rintro ⟨r, here, sustains⟩
    obtain ⟨e, rfl⟩ := sustains_iff.mp sustains
    rcases sustained_asked kept with ⟨before, last⟩ | untouched
    · exact last.mem
    · exact absurd here (untouched e)
  · exact fun here => ⟨_, here, rfl⟩

/-- Modes can be switched off again in a history exactly if its last request for sustained performance, if any, is
to switch it on, and no launch crosses the beginning of sustained performance. -/
theorem modes_obeyed_iff (names : Names) (s : StateProperties) (requests : List Request) : Obeyed names s requests ↔
    (∀ before, ¬ Last .sustainedPerformance requests before false) ∧ ¬ Crossing s requests := by
  constructor
  · intro obeyed
    constructor
    · intro before last
      have on : (history names s requests).mSustainedPerfModeOn = true := by
        rw [history_flag, Bool.or_eq_true, List.any_eq_true]
        exact .inr ⟨_, last.mem, rfl⟩
      have governed : (Request.setMode .launch true).Governed := trivial
      have suppressed : Suppressed names (history names s requests) (.setMode .launch true) :=
        (suppressed_iff governed).mpr on
      rcases (obeyed.suppression (.setMode .launch true) trivial).mp suppressed with ⟨before', last'⟩ | ⟨untouched, -⟩
      · have same := (last.unique last' ⟨_, rfl⟩ ⟨_, rfl⟩).2
        cases same
      · exact untouched false last.mem
    · intro crossing
      have left : Unmatched (names.mode .launch) (history names s requests).hints := unmatched_launch.mpr crossing.1
      rcases (obeyed.hints .launch).mp left with ⟨before, last, heard⟩ | ⟨-, selected⟩
      · have off : (history names s before).mSustainedPerfModeOn = false :=
          eq_false_of_ne_true fun on => heard ⟨rfl, on⟩
        exact not_crossing_of_last last off crossing
      · exact selected
  · rintro ⟨kept, uncrossed⟩
    refine ⟨fun m => ?_, fun r governed => ?_⟩
    · by_cases sustains : m = .sustainedPerformance
      · subst sustains
        simpa using unmatched_sustained_history.trans (asked_iff kept).symm
      · by_cases launches : m = .launch
        · subst launches
          simpa [StateProperties.selects] using unmatched_launch.trans (last_launch names uncrossed)
        · simpa [launches] using unmatched_plain sustains launches
    · exact (suppressed_iff governed).trans ((flag_iff kept).trans (asked_iff kept).symm)

end Histories

namespace Sample

def modeName : Mode → String
  | .sustainedPerformance => "SUSTAINED_PERFORMANCE"
  | .launch => "LAUNCH"
  | .doubleTapToWake => "DOUBLE_TAP_TO_WAKE"
  | .fixedPerformance => "FIXED_PERFORMANCE"
  | .expensiveRendering => "EXPENSIVE_RENDERING"
  | .interactive => "INTERACTIVE"
  | .deviceIdle => "DEVICE_IDLE"
  | .displayInactive => "DISPLAY_INACTIVE"
  | .audioStreamingLowLatency => "AUDIO_STREAMING_LOW_LATENCY"
  | .gameLoading => "GAME_LOADING"
  | .other value => String.ofList ('m' :: List.replicate value 'm')

def boostName : Boost → String
  | .interaction => "INTERACTION"
  | .displayUpdateImminent => "DISPLAY_UPDATE_IMMINENT"
  | .mlAcc => "ML_ACC"
  | .audioLaunch => "AUDIO_LAUNCH"
  | .other value => String.ofList ('b' :: List.replicate value 'b')

theorem modeName_injective : Function.Injective modeName := by
  intro m m' same
  replace same := congrArg String.toList same
  cases m <;> cases m' <;> simp_all [modeName]

theorem modeName_ne_boostName (m : Mode) (b : Boost) : modeName m ≠ boostName b := by
  intro same
  have chars := congrArg String.toList same
  cases m <;> cases b <;> simp [modeName, boostName] at chars

def names : Names where
  mode := modeName
  boost := boostName
  injective := modeName_injective
  apart := modeName_ne_boostName
  sustainedPerformance := rfl
  audioStreamingLowLatency := rfl
  expensiveRendering := rfl

end Sample

/- Sustained performance is switched on and off again: its hint is still taken, and boosts stay suppressed. -/
theorem sustained_never_ends :
    let requests : List Request := [.setMode .sustainedPerformance true, .setMode .sustainedPerformance false]
    let power := history Sample.names ⟨"", "", ""⟩ requests
    power.hints = [.doHint "SUSTAINED_PERFORMANCE"] ∧ power.mSustainedPerfModeOn = true ∧
      ¬ Obeyed Sample.names ⟨"", "", ""⟩ requests := by
  intro requests power
  refine ⟨by decide, by decide, fun obeyed => ?_⟩
  have governed : (Request.setBoost .audioLaunch 0).Governed := trivial
  have suppressed : Suppressed Sample.names power (.setBoost .audioLaunch 0) := by
    unfold Suppressed
    decide
  have split : requests = [.setMode .sustainedPerformance true] ++ [.setMode .sustainedPerformance false] := rfl
  rcases (obeyed.suppression _ governed).mp suppressed with ⟨before, last⟩ | ⟨untouched, -⟩
  · rw [split, last_append] at last
    simp at last
  · exact untouched false (by decide)

end Pdx215.Hint
