import Mathlib.Data.BitVec

/-! `InteractionHandler`. `Acquire` takes the INTERACTION hint on a binder thread; the thread that `Init`
starts waits until the display is idle and gives the hint back. Whatever runs under `mLock` is one step.
Durations are 32-bit words as in the source: their sum wraps around, the two limits are compared as
unsigned numbers and two durations as signed ones. -/
namespace Pdx215.Hint

structure Properties where
  kDisplayIdleSupport : Bool
  kWaitMs : BitVec 32
  kMinDurationMs : BitVec 32
  kMaxDurationMs : BitVec 32
  kDurationOffsetMs : BitVec 32

inductive InteractionState where
  | uninitialized
  | idle
  | interaction
  | waiting
  deriving DecidableEq, Repr

structure Timespec where
  tvSec : Int
  tvNsec : Int
  deriving DecidableEq, Repr

/-- Calls of the hint manager with "INTERACTION". -/
inductive HintCall where
  | doHint
  | doHintFor (ms : Int)
  | endHint
  deriving DecidableEq, Repr

structure InteractionHandler where
  mState : InteractionState
  mDurationMs : BitVec 32
  mLastTimespec : Timespec
  /-- The counter behind the event descriptor. -/
  mEventFd : Nat
  /-- The oldest call comes first. -/
  hints : List HintCall

/-- A `size_t` of milliseconds. -/
def calcTimespecDiffMs (start finish : Timespec) : BitVec 64 :=
  BitVec.ofInt 64 ((finish.tvSec - start.tvSec) * 1000) +
    BitVec.ofInt 64 ((finish.tvNsec - start.tvNsec).tdiv 1000000)

def kDispIdlePath : List String :=
  ["/sys/class/drm/card0/device/idle_state", "/sys/class/graphics/fb0/idle_state"]

def Properties.finalDuration (p : Properties) (duration : BitVec 32) : BitVec 32 :=
  let inputDuration := duration + p.kDurationOffsetMs
  if p.kMaxDurationMs < inputDuration then p.kMaxDurationMs
  else if p.kMinDurationMs < inputDuration then inputDuration
  else p.kMinDurationMs

namespace InteractionHandler

/-- The constructor leaves `mLastTimespec` as it finds it. -/
def new (mLastTimespec : Timespec) : InteractionHandler where
  mState := .uninitialized
  mDurationMs := 0
  mLastTimespec := mLastTimespec
  mEventFd := 0
  hints := []

/-- The environment says which paths can be opened and whether there is an event descriptor. -/
def init (opens : String → Bool) (eventfd : Bool) (h : InteractionHandler) : Bool × InteractionHandler :=
  if h.mState ≠ .uninitialized then (true, h)
  else if !kDispIdlePath.any opens then (false, h)
  else if !eventfd then (false, h)
  else (true, { h with mEventFd := 0, mState := .idle })

def hint (h : InteractionHandler) (call : HintCall) : InteractionHandler := { h with hints := h.hints ++ [call] }

def perfLock (h : InteractionHandler) : InteractionHandler := h.hint .doHint

def perfRel (h : InteractionHandler) : InteractionHandler := h.hint .endHint

def abortWaitLocked (h : InteractionHandler) : InteractionHandler := { h with mEventFd := h.mEventFd + 1 }

def covers (h : InteractionHandler) (now : Timespec) (finalDuration : BitVec 32) : Bool :=
  decide (h.mState ≠ .idle) && finalDuration.sle h.mDurationMs &&
    decide (calcTimespecDiffMs h.mLastTimespec now ≤ (h.mDurationMs - finalDuration).signExtend 64)

def engage (h : InteractionHandler) : InteractionHandler :=
  match h.mState with
  | .waiting => h.abortWaitLocked
  | .idle => h.perfLock
  | _ => h

def acquire (p : Properties) (duration : BitVec 32) (now : Timespec) (h : InteractionHandler) : InteractionHandler :=
  let finalDuration := p.finalDuration duration
  if !p.kDisplayIdleSupport || h.mState = .uninitialized then h.hint (.doHintFor finalDuration.toInt)
  else if h.covers now finalDuration then h
  else
    let h := { h with mLastTimespec := now, mDurationMs := finalDuration }
    { h.engage with mState := .interaction }

/-- A read of the event descriptor clears its counter, and fails if it is 0. -/
def release (h : InteractionHandler) : InteractionHandler :=
  if h.mState = .waiting then { h.perfRel with mState := .idle }
  else if h.mEventFd = 0 then h
  else { h with mEventFd := 0 }

end InteractionHandler

/-! ### The thread -/

inductive PollResult where
  | error
  | timeout
  | eventFd
  | idleFd
  deriving DecidableEq, Repr

/-- What the thread is answered: by `poll`, and by `pread`, which may be at the end of the file. -/
structure Answer where
  poll : PollResult
  pread : Option (List Char)

/-- Where the thread stands in `Routine` and `WaitForIdle`. -/
inductive Point where
  | condWait
  | arguments
  | poll (waitMs timeoutMs : BitVec 32)
  | pread (timeoutMs : BitVec 32)
  | pollIdle (timeoutMs : BitVec 32)
  | release
  | returned
  deriving DecidableEq, Repr

/-- `poll` does not report an event descriptor whose counter is 0, and goes on waiting. -/
def Point.afterPoll (h : InteractionHandler) (stay next : Point) (answer : PollResult) : Point :=
  match answer with
  | .error => .release
  | .timeout => next
  | .eventFd => if h.mEventFd = 0 then stay else .release
  | .idleFd => .release

def Point.afterPread (timeoutMs : BitVec 32) : Option (List Char) → Point
  | none => .release
  | some data => if data.take 4 = ['i', 'd', 'l', 'e'] then .release else .pollIdle timeoutMs

def Point.step (p : Properties) (answer : Answer) (h : InteractionHandler) : Point → Point × InteractionHandler
  | .condWait =>
    if h.mState = .idle then (.condWait, h)
    else if h.mState = .uninitialized then (.returned, h)
    else (.arguments, { h with mState := .waiting })
  | .arguments => (.poll p.kWaitMs h.mDurationMs, h)
  | .poll waitMs timeoutMs => (afterPoll h (.poll waitMs timeoutMs) (.pread timeoutMs) answer.poll, h)
  | .pread timeoutMs => (afterPread timeoutMs answer.pread, h)
  | .pollIdle timeoutMs => (afterPoll h (.pollIdle timeoutMs) .release answer.poll, h)
  | .release => (.condWait, h.release)
  | .returned => (.returned, h)

structure Config where
  handler : InteractionHandler
  routine : Point
  /-- The calls of `Acquire` since the thread last switched to WAITING. -/
  acquired : Nat

inductive Turn where
  | acquire (duration : BitVec 32) (now : Timespec)
  | routine (answer : Answer)

def Config.start (h : InteractionHandler) : Config := ⟨h, .condWait, 0⟩

def Config.routineStep (p : Properties) (answer : Answer) (c : Config) : Config :=
  let r := c.routine.step p answer c.handler
  { handler := r.2, routine := r.1, acquired := if r.1 = .arguments then 0 else c.acquired }

def turn (p : Properties) (c : Config) : Turn → Config
  | .acquire duration now => { c with handler := c.handler.acquire p duration now, acquired := c.acquired + 1 }
  | .routine answer => c.routineStep p answer

end Pdx215.Hint
