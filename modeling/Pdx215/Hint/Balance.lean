import Pdx215.Hint.Interaction

/-! What holds however calls of `Acquire` and the steps of the thread are ordered: which states of the
handler go with each place where the thread stands, that its event descriptor counts at most one abort of
the present wait, and that the hint is taken and given back in turn. -/
namespace Pdx215.Hint

variable {p : Properties} {h h' : InteractionHandler} {c : Config}

/-- Everything that a call of `Acquire` can do. -/
inductive Acquired (p : Properties) (h : InteractionHandler) : InteractionHandler → Prop where
  | direct (ms : Int) : p.kDisplayIdleSupport = false ∨ h.mState = .uninitialized →
      Acquired p h (h.hint (.doHintFor ms))
  | covered : h.mState ≠ .uninitialized → h.mState ≠ .idle → Acquired p h h
  | begun (ms : BitVec 32) (now : Timespec) : h.mState = .idle → Acquired p h
      { h.perfLock with mLastTimespec := now, mDurationMs := ms, mState := .interaction }
  | resumed (ms : BitVec 32) (now : Timespec) : h.mState = .waiting → Acquired p h
      { h.abortWaitLocked with mLastTimespec := now, mDurationMs := ms, mState := .interaction }
  | extended (ms : BitVec 32) (now : Timespec) : h.mState = .interaction → Acquired p h
      { h with mLastTimespec := now, mDurationMs := ms, mState := .interaction }

theorem acquire_acquired (duration : BitVec 32) (now : Timespec) : Acquired p h (h.acquire p duration now) := by
  simp only [InteractionHandler.acquire]
  split
  · rename_i direct
    exact .direct _ (by simpa using direct)
  · rename_i supported
    have ready : h.mState ≠ .uninitialized := by simp_all
    split
    · rename_i covers
      have busy : h.mState ≠ .idle := by simp_all [InteractionHandler.covers]
      exact .covered ready busy
    · cases state : h.mState with
      | uninitialized => exact absurd state ready
      | idle =>
        simp only [InteractionHandler.engage]
        exact .begun _ now state
      | interaction =>
        simp only [InteractionHandler.engage]
        exact .extended _ now state
      | waiting =>
        simp only [InteractionHandler.engage]
        exact .resumed _ now state

/-- The thread has switched to WAITING and not yet finished `Release`. -/
def Point.AtWork : Point → Prop
  | .condWait | .returned => False
  | _ => True

/-- Everything that a step of the thread can do. -/
inductive Stepped (h : InteractionHandler) : Point → Point × InteractionHandler → Prop where
  | asleep : h.mState = .idle → Stepped h .condWait (.condWait, h)
  | ended : h.mState = .uninitialized → Stepped h .condWait (.returned, h)
  | switched : h.mState ≠ .idle → h.mState ≠ .uninitialized →
      Stepped h .condWait (.arguments, { h with mState := .waiting })
  | waited (q q' : Point) : q.AtWork → q'.AtWork → q' ≠ .arguments → Stepped h q (q', h)
  | released : Stepped h .release (.condWait, h.release)
  | stopped : Stepped h .returned (.returned, h)

theorem afterPoll_atWork (stay next : Point) (here : stay.AtWork ∧ stay ≠ .arguments)
    (there : next.AtWork ∧ next ≠ .arguments) (answer : PollResult) :
    (Point.afterPoll h stay next answer).AtWork ∧ Point.afterPoll h stay next answer ≠ .arguments := by
  cases answer with
  | error => exact ⟨trivial, nofun⟩
  | timeout => exact there
  | idleFd => exact ⟨trivial, nofun⟩
  | eventFd =>
    simp only [Point.afterPoll]
    split
    · exact here
    · exact ⟨trivial, nofun⟩

theorem afterPread_atWork (timeoutMs : BitVec 32) (read : Option (List Char)) :
    (Point.afterPread timeoutMs read).AtWork ∧ Point.afterPread timeoutMs read ≠ .arguments := by
  cases read with
  | none => exact ⟨trivial, nofun⟩
  | some data =>
    simp only [Point.afterPread]
    split
    · exact ⟨trivial, nofun⟩
    · exact ⟨trivial, nofun⟩

theorem step_stepped (answer : Answer) (q : Point) : Stepped h q (q.step p answer h) := by
  cases q with
  | condWait =>
    simp only [Point.step]
    split
    · exact .asleep ‹_›
    · split
      · exact .ended ‹_›
      · exact .switched ‹_› ‹_›
  | arguments => exact .waited _ _ trivial trivial nofun
  | poll waitMs timeoutMs =>
    obtain ⟨works, past⟩ := afterPoll_atWork (h := h) (.poll waitMs timeoutMs) (.pread timeoutMs)
      ⟨trivial, nofun⟩ ⟨trivial, nofun⟩ answer.poll
    exact .waited _ _ trivial works past
  | pread timeoutMs =>
    obtain ⟨works, past⟩ := afterPread_atWork timeoutMs answer.pread
    exact .waited _ _ trivial works past
  | pollIdle timeoutMs =>
    obtain ⟨works, past⟩ := afterPoll_atWork (h := h) (.pollIdle timeoutMs) .release
      ⟨trivial, nofun⟩ ⟨trivial, nofun⟩ answer.poll
    exact .waited _ _ trivial works past
  | release => exact .released
  | returned => exact .stopped

/-! ### The event descriptor -/

/-- The thread waits for an `Acquire`: no abort is pending. -/
def InteractionHandler.AtRest (h : InteractionHandler) : Prop :=
  h.mEventFd = 0 ∧ (h.mState = .idle ∨ h.mState = .interaction)

/-- The thread is at work: an abort is pending as soon as an `Acquire` has gone through. -/
def InteractionHandler.InWait (acquired : Nat) (h : InteractionHandler) : Prop :=
  h.mState = .waiting ∧ h.mEventFd = 0 ∨ h.mState = .interaction ∧ h.mEventFd = 1 ∧ 0 < acquired

structure Config.Ordered (c : Config) : Prop where
  rest : c.routine = .condWait → c.handler.AtRest
  work : c.routine.AtWork → c.handler.InWait c.acquired
  running : c.routine ≠ .returned

theorem InteractionHandler.AtRest.acquired (rest : h.AtRest) (made : Acquired p h h') : h'.AtRest := by
  obtain ⟨zero, state⟩ := rest
  cases made with
  | direct ms _ => exact ⟨zero, state⟩
  | covered _ _ => exact ⟨zero, state⟩
  | begun ms now _ => exact ⟨zero, .inr rfl⟩
  | extended ms now _ => exact ⟨zero, .inr rfl⟩
  | resumed ms now waiting => simp [waiting] at state

theorem InteractionHandler.InWait.acquired {n : Nat} (wait : h.InWait n) (made : Acquired p h h') :
    h'.InWait (n + 1) := by
  rcases wait with ⟨waiting, zero⟩ | ⟨interaction, one, _⟩
  · cases made with
    | direct ms _ => exact .inl ⟨waiting, zero⟩
    | covered _ _ => exact .inl ⟨waiting, zero⟩
    | resumed ms now _ => exact .inr ⟨rfl, congrArg (· + 1) zero, Nat.succ_pos n⟩
    | begun ms now idle => cases waiting.symm.trans idle
    | extended ms now interaction => cases waiting.symm.trans interaction
  · cases made with
    | direct ms _ => exact .inr ⟨interaction, one, Nat.succ_pos n⟩
    | covered _ _ => exact .inr ⟨interaction, one, Nat.succ_pos n⟩
    | extended ms now _ => exact .inr ⟨rfl, one, Nat.succ_pos n⟩
    | begun ms now idle => cases interaction.symm.trans idle
    | resumed ms now waiting => cases interaction.symm.trans waiting

theorem InteractionHandler.InWait.release {n : Nat} (wait : h.InWait n) : h.release.AtRest := by
  rcases wait with ⟨waiting, zero⟩ | ⟨interaction, one, _⟩
  · rw [InteractionHandler.release, if_pos waiting]
    exact ⟨zero, .inl rfl⟩
  · rw [InteractionHandler.release, if_neg (by simp [interaction]), if_neg (by simp [one])]
    exact ⟨rfl, .inr interaction⟩

theorem Config.Ordered.routine_step (ordered : c.Ordered) (answer : Answer) : (c.routineStep p answer).Ordered := by
  obtain ⟨h, q, n⟩ := c
  have stepped : Stepped h q (q.step p answer h) := step_stepped answer q
  simp only [Config.routineStep]
  generalize q.step p answer h = r at stepped ⊢
  cases stepped with
  | asleep idle => exact ⟨fun _ => ordered.rest rfl, False.elim, nofun⟩
  | ended uninitialized =>
    have state := (ordered.rest rfl).2
    simp [uninitialized] at state
  | switched _ _ => exact ⟨nofun, fun _ => .inl ⟨rfl, (ordered.rest rfl).1⟩, nofun⟩
  | waited q q' works works' past =>
    have wait : h.InWait (if q' = .arguments then 0 else n) := by
      rw [if_neg past]
      exact ordered.work works
    refine ⟨?_, fun _ => wait, ?_⟩
    · rintro rfl
      exact works'.elim
    · rintro rfl
      exact works'
  | released => exact ⟨fun _ => InteractionHandler.InWait.release (ordered.work trivial), False.elim, nofun⟩
  | stopped => exact absurd rfl ordered.running

theorem Config.Ordered.turn (ordered : c.Ordered) (t : Turn) : (turn p c t).Ordered := by
  cases t with
  | acquire duration now =>
    have made : Acquired p c.handler (c.handler.acquire p duration now) := acquire_acquired duration now
    exact ⟨fun here => (ordered.rest here).acquired made, fun here => (ordered.work here).acquired made,
      ordered.running⟩
  | routine answer => exact ordered.routine_step answer

theorem init_of_success {opens : String → Bool} {eventfd : Bool} {last : Timespec}
    (up : ((InteractionHandler.new last).init opens eventfd).1 = true) :
    ((InteractionHandler.new last).init opens eventfd).2 = { InteractionHandler.new last with mState := .idle } := by
  unfold InteractionHandler.init at up ⊢
  simp only [InteractionHandler.new, ne_eq, not_true_eq_false, if_false] at up ⊢
  split at up
  · cases up
  · rename_i opened
    rw [if_neg opened]
    split at up
    · cases up
    · rename_i made
      rw [if_neg made]

theorem start_ordered {last : Timespec} :
    (Config.start { InteractionHandler.new last with mState := .idle }).Ordered :=
  ⟨fun _ => ⟨rfl, .inl rfl⟩, False.elim, nofun⟩

theorem Config.Ordered.cases (ordered : c.Ordered) : c.routine = .condWait ∧ c.handler.AtRest ∨
    c.routine.AtWork ∧ c.handler.InWait c.acquired := by
  cases here : c.routine with
  | condWait => exact .inl ⟨rfl, ordered.rest here⟩
  | returned => exact absurd here ordered.running
  | _ => exact .inr ⟨trivial, ordered.work (here ▸ trivial)⟩

theorem run_ordered (p : Properties) {last : Timespec} {opens : String → Bool} {eventfd : Bool}
    (up : ((InteractionHandler.new last).init opens eventfd).1 = true) (ts : List Turn) :
    (ts.foldl (turn p) (.start ((InteractionHandler.new last).init opens eventfd).2)).Ordered := by
  rw [init_of_success up]
  exact List.foldlRecOn ts _ start_ordered fun _ now t _ => now.turn t

def Point.InWaitForIdle : Point → Bool
  | .poll _ _ | .pread _ | .pollIdle _ => true
  | _ => false

/-- From a successful `Init` on, the event descriptor counts at most one abort, and none while the state is
WAITING or IDLE; `WaitForIdle` sees an abort only if there was an `Acquire` since the switch to WAITING,
and `Release` finds one whenever it reads. -/
theorem no_stale_abort (p : Properties) (last : Timespec) (opens : String → Bool) (eventfd : Bool)
    (up : ((InteractionHandler.new last).init opens eventfd).1 = true) (ts : List Turn) :
    let c := ts.foldl (turn p) (.start ((InteractionHandler.new last).init opens eventfd).2)
    c.handler.mEventFd ≤ 1 ∧
      (c.handler.mState = .waiting ∨ c.handler.mState = .idle → c.handler.mEventFd = 0) ∧
      (c.routine.InWaitForIdle = true → c.handler.mEventFd ≠ 0 → 0 < c.acquired) ∧
      (c.routine = .release → c.handler.mState ≠ .waiting → c.handler.mEventFd ≠ 0) := by
  intro c
  rcases (run_ordered p up ts).cases with ⟨here, zero, _⟩ | ⟨_, ⟨waiting, zero⟩ | ⟨interaction, one, acquired⟩⟩
  · refine ⟨zero.trans_le (Nat.zero_le 1), fun _ => zero, fun _ some => absurd zero some, fun releases => ?_⟩
    cases here.symm.trans releases
  · exact ⟨zero.trans_le (Nat.zero_le 1), fun _ => zero, fun _ some => absurd zero some,
      fun _ other => absurd waiting other⟩
  · have some : c.handler.mEventFd ≠ 0 := one.trans_ne Nat.one_ne_zero
    refine ⟨le_of_eq one, fun state => ?_, fun _ _ => acquired, fun _ _ => some⟩
    rcases state with waiting | idle
    · cases interaction.symm.trans waiting
    · cases interaction.symm.trans idle

namespace Sample

def properties : Properties := ⟨true, 100, 1400, 5650, 650⟩

def up : InteractionHandler := ((InteractionHandler.new ⟨0, 0⟩).init (fun _ => true) true).2

/-- The wait for the display is aborted by a second `Acquire`, two seconds after the first. -/
def aborted : List Turn :=
  [.acquire 1000 ⟨5, 0⟩, .routine ⟨.timeout, none⟩, .routine ⟨.timeout, none⟩, .acquire 1000 ⟨7, 0⟩]

/-- The thread finds the display idle, the hint is given back, and there is another `Acquire`. -/
def again : List Turn :=
  [.acquire 0 ⟨5, 0⟩, .routine ⟨.timeout, none⟩, .routine ⟨.timeout, none⟩, .routine ⟨.timeout, none⟩,
    .routine ⟨.timeout, some ['i', 'd', 'l', 'e']⟩, .routine ⟨.timeout, none⟩, .acquire 0 ⟨6, 0⟩]

end Sample

theorem no_stale_abort_aborted :
    let c := Sample.aborted.foldl (turn Sample.properties) (.start Sample.up)
    c.handler.mEventFd = 1 ∧ c.routine.InWaitForIdle = true ∧ 0 < c.acquired := by
  have fine := no_stale_abort Sample.properties ⟨0, 0⟩ (fun _ => true) true (by decide) Sample.aborted
  exact ⟨by decide +kernel, by decide +kernel, fine.2.2.1 (by decide +kernel) (by decide +kernel)⟩

/-! ### The hint -/

/-- The calls are PerfLock, PerfRel, PerfLock and so on. -/
def Alternates (calls : List HintCall) : Prop :=
  ∀ i call, calls[i]? = some call → call = if i % 2 = 0 then .doHint else .endHint

theorem Alternates.append {calls : List HintCall} (alternates : Alternates calls) :
    Alternates (calls ++ [if calls.length % 2 = 0 then .doHint else .endHint]) := by
  intro i call found
  rw [List.getElem?_append] at found
  split at found
  · exact alternates i call found
  · obtain ⟨last, rfl⟩ := List.getElem?_eq_some_iff.mp found
    have here : i = calls.length := by
      simp only [List.length_singleton] at last
      omega
    simp [here]

theorem Alternates.getLast_iff {calls : List HintCall} (alternates : Alternates calls) :
    calls.getLast? = some .doHint ↔ calls.length % 2 = 1 := by
  rw [List.getLast?_eq_getElem?]
  constructor
  · intro last
    have odd := alternates _ _ last
    have inside : calls.length - 1 < calls.length := (List.getElem?_eq_some_iff.mp last).1
    split at odd
    · omega
    · cases odd
  · intro odd
    have inside : calls.length - 1 < calls.length := by omega
    have last : calls[calls.length - 1]? = some calls[calls.length - 1] := List.getElem?_eq_getElem inside
    rw [last, alternates _ _ last, if_pos (by omega)]

/-- The hint is held while the handler is active. -/
structure InteractionHandler.Balanced (h : InteractionHandler) : Prop where
  alternates : Alternates h.hints
  held : h.hints.length % 2 = 1 ↔ h.mState = .interaction ∨ h.mState = .waiting

theorem InteractionHandler.Balanced.acquired (balanced : h.Balanced) (supported : p.kDisplayIdleSupport = true)
    (ready : h.mState ≠ .uninitialized) (made : Acquired p h h') : h'.Balanced := by
  cases made with
  | direct ms fallback =>
    rcases fallback with off | uninitialized
    · cases supported.symm.trans off
    · exact absurd uninitialized ready
  | covered _ _ => exact balanced
  | begun ms now idle =>
    have even : h.hints.length % 2 = 0 := by
      have held := balanced.held
      simp [idle] at held
      exact held
    have next := balanced.alternates.append
    rw [if_pos even] at next
    refine ⟨next, iff_of_true ?_ (.inl rfl)⟩
    simp only [perfLock, hint, List.length_append, List.length_singleton]
    omega
  | resumed ms now waiting =>
    exact ⟨balanced.alternates, iff_of_true (balanced.held.mpr (.inr waiting)) (.inl rfl)⟩
  | extended ms now interaction =>
    exact ⟨balanced.alternates, iff_of_true (balanced.held.mpr (.inl interaction)) (.inl rfl)⟩

theorem InteractionHandler.Balanced.release (balanced : h.Balanced) : h.release.Balanced := by
  unfold InteractionHandler.release
  split
  · rename_i waiting
    have odd : h.hints.length % 2 = 1 := balanced.held.mpr (.inr waiting)
    have next := balanced.alternates.append
    rw [if_neg (by omega)] at next
    refine ⟨next, iff_of_false ?_ nofun⟩
    simp only [perfRel, hint, List.length_append, List.length_singleton]
    omega
  · split
    · exact balanced
    · exact ⟨balanced.alternates, balanced.held⟩

theorem InteractionHandler.Balanced.stepped {q : Point} {r : Point × InteractionHandler} (balanced : h.Balanced)
    (stepped : Stepped h q r) : r.2.Balanced := by
  cases stepped with
  | switched busy ready =>
    have held : h.mState = .interaction ∨ h.mState = .waiting := by
      cases state : h.mState <;> simp_all
    exact ⟨balanced.alternates, iff_of_true (balanced.held.mpr held) (.inr rfl)⟩
  | released => exact balanced.release
  | _ => exact balanced

theorem Config.Ordered.ready (ordered : c.Ordered) : c.handler.mState ≠ .uninitialized := by
  intro uninitialized
  rcases ordered.cases with ⟨_, _, state⟩ | ⟨_, ⟨waiting, _⟩ | ⟨interaction, _⟩⟩
  · simp [uninitialized] at state
  · cases uninitialized.symm.trans waiting
  · cases uninitialized.symm.trans interaction

theorem turn_balanced (supported : p.kDisplayIdleSupport = true) (ordered : c.Ordered) (balanced : c.handler.Balanced)
    (t : Turn) : (turn p c t).handler.Balanced := by
  cases t with
  | acquire duration now => exact balanced.acquired supported ordered.ready (acquire_acquired duration now)
  | routine answer => exact balanced.stepped (step_stepped answer c.routine)

theorem run_balanced (p : Properties) (supported : p.kDisplayIdleSupport = true) {last : Timespec}
    {opens : String → Bool} {eventfd : Bool} (up : ((InteractionHandler.new last).init opens eventfd).1 = true)
    (ts : List Turn) :
    (ts.foldl (turn p) (.start ((InteractionHandler.new last).init opens eventfd).2)).handler.Balanced := by
  have both (c : Config) (now : c.Ordered ∧ c.handler.Balanced) (t : Turn) :
      (turn p c t).Ordered ∧ (turn p c t).handler.Balanced :=
    ⟨now.1.turn t, turn_balanced supported now.1 now.2 t⟩
  have started : (InteractionHandler.mk .idle 0 last 0 []).Balanced := ⟨nofun, by simp⟩
  rw [init_of_success up]
  exact (List.foldlRecOn ts _ ⟨start_ordered, started⟩ fun c now t _ => both c now t).2

/-- With display-idle support, from a successful `Init` on: the calls of PerfLock and PerfRel alternate, PerfLock
first, and the hint is held, PerfLock being the last of them, exactly in the states INTERACTION and WAITING. -/
theorem interaction_hint_balanced (p : Properties) (supported : p.kDisplayIdleSupport = true) (last : Timespec)
    (opens : String → Bool) (eventfd : Bool) (up : ((InteractionHandler.new last).init opens eventfd).1 = true)
    (ts : List Turn) :
    let h := (ts.foldl (turn p) (.start ((InteractionHandler.new last).init opens eventfd).2)).handler
    Alternates h.hints ∧
      (h.hints.getLast? = some .doHint ↔ h.mState = .interaction ∨ h.mState = .waiting) := by
  intro h
  have balanced : h.Balanced := run_balanced p supported up ts
  exact ⟨balanced.alternates, balanced.alternates.getLast_iff.trans balanced.held⟩

theorem interaction_hint_balanced_again :
    let h := (Sample.again.foldl (turn Sample.properties) (.start Sample.up)).handler
    h.hints = [.doHint, .endHint, .doHint] ∧ Alternates h.hints ∧
      (h.hints.getLast? = some .doHint ↔ h.mState = .interaction ∨ h.mState = .waiting) :=
  ⟨by decide +kernel,
    interaction_hint_balanced Sample.properties rfl ⟨0, 0⟩ (fun _ => true) true (by decide) Sample.again⟩

end Pdx215.Hint
