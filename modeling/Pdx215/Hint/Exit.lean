import Pdx215.Hint.Balance

/-! `Exit` among calls of `Acquire` and the steps of the thread: the join returns, nothing uses the
descriptors once they are closed, and a hint that is held at that moment is never given back. -/
namespace Pdx215.Hint

/-- The part of `Exit` under the lock, and whether there is more to do. -/
def InteractionHandler.exit (h : InteractionHandler) : Bool × InteractionHandler :=
  if h.mState = .uninitialized then (false, h) else (true, { h.abortWaitLocked with mState := .uninitialized })

/-- Where the first call of `Exit` that has something to do stands. -/
inductive Leaving where
  | notYet
  | joining
  | closed
  deriving DecidableEq, Repr

structure System where
  config : Config
  leaving : Leaving

inductive Event where
  | turn (t : Turn)
  | exit
  | join

/-- `join` goes on to close the descriptors when the thread has returned; until then it waits. -/
def System.step (p : Properties) (s : System) : Event → System
  | .turn t => { s with config := Hint.turn p s.config t }
  | .exit =>
    let r := s.config.handler.exit
    { config := { s.config with handler := r.2 }, leaving := if r.1 then .joining else s.leaving }
  | .join => if s.leaving = .joining ∧ s.config.routine = .returned then { s with leaving := .closed } else s

def Point.Uses (h : InteractionHandler) : Point → Prop
  | .poll _ _ | .pread _ | .pollIdle _ => True
  | .release => h.mState ≠ .waiting
  | .condWait | .arguments | .returned => False

def Event.Uses (p : Properties) (s : System) : Event → Prop
  | .turn (.acquire duration now) => (s.config.handler.acquire p duration now).mEventFd ≠ s.config.handler.mEventFd
  | .turn (.routine _) => s.config.routine.Uses s.config.handler
  | .exit => s.config.handler.mState ≠ .uninitialized
  | .join => False

def Point.left : Point → Nat
  | .returned => 0
  | .condWait => 1
  | .release => 2
  | .pollIdle _ => 3
  | .pread _ => 4
  | .poll _ _ => 5
  | .arguments => 6

def Event.isRoutine : Event → Bool
  | .turn (.routine _) => true
  | _ => false

section Exiting

variable {p : Properties} {s : System} {e : Event}

/-- After `Exit` has released the lock: an abort is pending for as long as the thread can wait for one. -/
structure System.Exiting (s : System) : Prop where
  state : s.config.handler.mState = .uninitialized
  pending : s.config.routine.AtWork → 0 < s.config.handler.mEventFd
  left : s.leaving ≠ .notYet
  closed : s.leaving = .closed → s.config.routine = .returned

theorem acquire_uninitialized {h : InteractionHandler} (state : h.mState = .uninitialized) (duration : BitVec 32)
    (now : Timespec) : ∃ ms, h.acquire p duration now = h.hint (.doHintFor ms) :=
  ⟨(p.finalDuration duration).toInt, by simp [InteractionHandler.acquire, state]⟩

theorem afterPoll_pending {h : InteractionHandler} (pending : 0 < h.mEventFd) (stay next : Point) (answer : PollResult) :
    Point.afterPoll h stay next answer = .release ∨ Point.afterPoll h stay next answer = next := by
  cases answer with
  | error => exact .inl rfl
  | timeout => exact .inr rfl
  | idleFd => exact .inl rfl
  | eventFd => exact .inl (if_neg (Nat.ne_of_gt pending))

theorem afterPread_cases (timeoutMs : BitVec 32) (data : Option (List Char)) :
    Point.afterPread timeoutMs data = .release ∨ Point.afterPread timeoutMs data = .pollIdle timeoutMs := by
  cases data with
  | none => exact .inl rfl
  | some data =>
    by_cases idle : data.take 4 = ['i', 'd', 'l', 'e']
    · exact .inl (if_pos idle)
    · exact .inr (if_neg idle)

/-- What a step of the thread does when it is to end: it gets closer to its end, and touches only the event descriptor. -/
structure Closer (h : InteractionHandler) (q : Point) (r : Point × InteractionHandler) : Prop where
  left : r.1.left ≤ q.left - 1
  state : r.2.mState = .uninitialized
  hints : r.2.hints = h.hints
  pending : r.1.AtWork → 0 < r.2.mEventFd

theorem step_closer {h : InteractionHandler} {q : Point} (state : h.mState = .uninitialized)
    (pending : q.AtWork → 0 < h.mEventFd) (answer : Answer) : Closer h q (q.step p answer h) := by
  cases q with
  | condWait =>
    have ends : Point.step p answer h .condWait = (.returned, h) := by simp [Point.step, state]
    rw [ends]
    exact ⟨Nat.le_refl _, state, rfl, False.elim⟩
  | arguments => exact ⟨Nat.le_refl _, state, rfl, fun _ => pending trivial⟩
  | poll waitMs timeoutMs =>
    refine ⟨?_, state, rfl, fun _ => pending trivial⟩
    rcases afterPoll_pending (pending trivial) (.poll waitMs timeoutMs) (.pread timeoutMs) answer.poll with next | next
    · simp [Point.step, next, Point.left]
    · simp [Point.step, next, Point.left]
  | pread timeoutMs =>
    refine ⟨?_, state, rfl, fun _ => pending trivial⟩
    rcases afterPread_cases timeoutMs answer.pread with next | next
    · simp [Point.step, next, Point.left]
    · simp [Point.step, next, Point.left]
  | pollIdle timeoutMs =>
    refine ⟨?_, state, rfl, fun _ => pending trivial⟩
    rcases afterPoll_pending (pending trivial) (.pollIdle timeoutMs) .release answer.poll with next | next
    · simp [Point.step, next, Point.left]
    · simp [Point.step, next, Point.left]
  | release =>
    have other : h.mState ≠ .waiting := by rw [state]; decide
    refine ⟨Nat.le_refl _, ?_, ?_, False.elim⟩
    · simp only [Point.step, InteractionHandler.release, if_neg other]
      split
      · exact state
      · exact state
    · simp only [Point.step, InteractionHandler.release, if_neg other]
      split
      · rfl
      · rfl
  | returned => exact ⟨Nat.le_refl _, state, rfl, False.elim⟩

def Timed (calls : List HintCall) : Prop := ∀ call ∈ calls, ∃ ms, call = .doHintFor ms

/-- What any event does after `Exit` has released the lock. -/
structure Ends (s s' : System) (steps : Nat) : Prop where
  exiting : s'.Exiting
  left : s'.config.routine.left ≤ s.config.routine.left - steps
  hints : ∃ timed, Timed timed ∧ s'.config.handler.hints = s.config.handler.hints ++ timed

theorem returned_of_left {q : Point} (none : q.left = 0) : q = .returned := by
  cases q with
  | returned => rfl
  | condWait | arguments | poll _ _ | pread _ | pollIdle _ | release => cases none

theorem System.Exiting.step (exiting : s.Exiting) (e : Event) :
    Ends s (s.step p e) (if e.isRoutine then 1 else 0) := by
  have quiet : ∃ timed, Timed timed ∧ s.config.handler.hints = s.config.handler.hints ++ timed :=
    ⟨[], fun _ none => (by cases none), (List.append_nil _).symm⟩
  cases e with
  | turn t =>
    cases t with
    | acquire duration now =>
      obtain ⟨ms, direct⟩ := @acquire_uninitialized p _ exiting.state duration now
      refine ⟨⟨?_, ?_, exiting.left, exiting.closed⟩, Nat.le_refl _, [.doHintFor ms], ?_, ?_⟩
      · simp only [System.step, Hint.turn, direct]
        exact exiting.state
      · simp only [System.step, Hint.turn, direct]
        exact exiting.pending
      · intro call here
        exact ⟨ms, List.mem_singleton.mp here⟩
      · simp only [System.step, Hint.turn, direct, InteractionHandler.hint]
    | routine answer =>
      have closer := @step_closer p _ _ exiting.state exiting.pending answer
      refine ⟨⟨closer.state, closer.pending, exiting.left, fun closed => ?_⟩, closer.left, ?_⟩
      · have done := exiting.closed closed
        simp only [System.step, Hint.turn, Config.routineStep, done]
        rfl
      · simp only [System.step, Hint.turn, Config.routineStep, closer.hints]
        exact quiet
  | exit =>
    have again : s.step p .exit = s := by
      simp [System.step, InteractionHandler.exit, exiting.state]
    rw [again]
    exact ⟨exiting, Nat.le_refl _, quiet⟩
  | join =>
    simp only [System.step]
    split
    case isTrue ready =>
      exact ⟨⟨exiting.state, exiting.pending, by simp, fun _ => ready.2⟩, Nat.le_refl _, quiet⟩
    case isFalse => exact ⟨exiting, Nat.le_refl _, quiet⟩

theorem System.Exiting.run (exiting : s.Exiting) (after : List Event) :
    Ends s (after.foldl (System.step p) s) (after.countP Event.isRoutine) := by
  induction after generalizing s with
  | nil => exact ⟨exiting, Nat.le_refl _, [], fun _ none => (by cases none), (List.append_nil _).symm⟩
  | cons e after ih =>
    have first := @System.Exiting.step p s exiting e
    have rest := ih first.exiting
    obtain ⟨timed, isTimed, hints⟩ := first.hints
    obtain ⟨timed', isTimed', hints'⟩ := rest.hints
    refine ⟨rest.exiting, ?_, timed ++ timed', ?_, ?_⟩
    · have here := first.left
      have there := rest.left
      rw [List.foldl_cons, List.countP_cons]
      omega
    · intro call here
      rcases List.mem_append.mp here with here | here
      · exact isTimed call here
      · exact isTimed' call here
    · rw [List.foldl_cons, hints', hints, List.append_assoc]

theorem System.Exiting.no_use (exiting : s.Exiting) (closed : s.leaving = .closed) (e : Event) : ¬ e.Uses p s := by
  cases e with
  | turn t =>
    cases t with
    | acquire duration now =>
      obtain ⟨ms, direct⟩ := @acquire_uninitialized p _ exiting.state duration now
      simp [Event.Uses, direct, InteractionHandler.hint]
    | routine answer =>
      simp [Event.Uses, exiting.closed closed, Point.Uses]
  | exit => exact fun uses => uses exiting.state
  | join => exact id

theorem exit_exiting {c : Config} (ordered : c.Ordered) : (System.step p ⟨c, .notYet⟩ .exit).Exiting := by
  have up := ordered.ready
  constructor
  · simp [System.step, InteractionHandler.exit, up]
  · intro _
    simp [System.step, InteractionHandler.exit, up, InteractionHandler.abortWaitLocked]
  · simp [System.step, InteractionHandler.exit, up]
  · simp [System.step, InteractionHandler.exit, up]

end Exiting

section Exit

variable (p : Properties) {last : Timespec} {opens : String → Bool} {eventfd : Bool}

def exited (h : InteractionHandler) (before : List Turn) (after : List Event) : System :=
  after.foldl (System.step p) (System.step p ⟨before.foldl (turn p) (.start h), .notYet⟩ .exit)

/-- However `Exit` falls among the calls of `Acquire` and the steps of the thread, and whatever comes after: the handler stays
uninitialised, the thread returns after at most six of its steps, so that the join ends, and from then on
nobody uses the descriptors that `Exit` has closed. -/
theorem exit_completes (up : ((InteractionHandler.new last).init opens eventfd).1 = true) (before : List Turn)
    (after : List Event) :
    let s := exited p ((InteractionHandler.new last).init opens eventfd).2 before after
    s.config.handler.mState = .uninitialized ∧
      (6 ≤ after.countP Event.isRoutine → s.config.routine = .returned ∧ (s.step p .join).leaving = .closed) ∧
      (s.leaving = .closed → ∀ e, ¬ Event.Uses p s e) := by
  intro s
  have ends := System.Exiting.run (p := p) (exit_exiting (p := p) (run_ordered p up before)) after
  refine ⟨ends.exiting.state, fun enough => ?_, fun closed => ends.exiting.no_use closed⟩
  have short : ∀ q : Point, q.left ≤ 6 := by
    intro q
    cases q <;> simp [Point.left]
  have returned : s.config.routine = .returned := by
    have bound : s.config.routine.left ≤ 6 - after.countP Event.isRoutine :=
      Nat.le_trans ends.left (Nat.sub_le_sub_right (short _) _)
    exact returned_of_left (by omega)
  refine ⟨returned, ?_⟩
  cases leaving : s.leaving with
  | notYet => exact (ends.exiting.left leaving).elim
  | joining => simp [System.step, leaving, returned]
  | closed => simp [System.step, leaving]

def HintCall.untimed : HintCall → Bool
  | .doHintFor _ => false
  | .doHint | .endHint => true

theorem filter_alternates {calls : List HintCall} (alternates : Alternates calls) :
    calls.filter HintCall.untimed = calls := by
  refine List.filter_eq_self.mpr fun call here => ?_
  obtain ⟨i, found⟩ := List.getElem?_of_mem here
  rw [alternates i call found]
  split
  · rfl
  · rfl

/-- `Exit` does not give the hint back, and nobody does so after it: INTERACTION stays on for good exactly if the handler was
not idle. -/
theorem exit_leaves_hint_iff (supported : p.kDisplayIdleSupport = true)
    (up : ((InteractionHandler.new last).init opens eventfd).1 = true) (before : List Turn) (after : List Event) :
    let h := ((InteractionHandler.new last).init opens eventfd).2
    ((exited p h before after).config.handler.hints.filter HintCall.untimed).getLast? = some .doHint ↔
      (before.foldl (turn p) (.start h)).handler.mState ≠ .idle := by
  intro h
  have ordered := run_ordered p up before
  have balanced := run_balanced p supported up before
  have ends := System.Exiting.run (p := p) (exit_exiting (p := p) ordered) after
  obtain ⟨timed, isTimed, hints⟩ := ends.hints
  have same : (System.step p ⟨before.foldl (turn p) (.start h), .notYet⟩ .exit).config.handler.hints =
      (before.foldl (turn p) (.start h)).handler.hints := by
    simp [System.step, InteractionHandler.exit, ordered.ready, InteractionHandler.abortWaitLocked, h]
  have gone : timed.filter HintCall.untimed = [] := by
    refine List.filter_eq_nil_iff.mpr fun call here => ?_
    obtain ⟨ms, rfl⟩ := isTimed call here
    exact Bool.false_ne_true
  rw [exited, hints, same, List.filter_append, gone, List.append_nil, filter_alternates balanced.alternates,
    balanced.alternates.getLast_iff, balanced.held]
  have ready := ordered.ready
  cases state : (before.foldl (turn p) (.start h)).handler.mState with
  | uninitialized => exact (ready state).elim
  | idle => simp
  | interaction => simp
  | waiting => simp

end Exit

theorem exit_completes_aborted :
    ((InteractionHandler.new ⟨0, 0⟩).init (fun _ => true) true).1 = true ∧
    (exited Sample.properties Sample.up Sample.aborted (List.replicate 6 (.turn (.routine ⟨.eventFd, none⟩)))).config.routine =
      .returned :=
  ⟨by decide, ((exit_completes Sample.properties (by decide) Sample.aborted
    (List.replicate 6 (.turn (.routine ⟨.eventFd, none⟩)))).2.1 (by decide)).1⟩

theorem exit_leaves_hint_aborted :
    Sample.properties.kDisplayIdleSupport = true ∧
    ((exited Sample.properties Sample.up Sample.aborted [.turn (.acquire 0 ⟨8, 0⟩)]).config.handler.hints.filter
      HintCall.untimed).getLast? = some .doHint :=
  ⟨rfl, (exit_leaves_hint_iff Sample.properties rfl (by decide) Sample.aborted [.turn (.acquire 0 ⟨8, 0⟩)]).mpr
    (by decide +kernel)⟩

end Pdx215.Hint
