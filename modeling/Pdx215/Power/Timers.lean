import Mathlib.Data.List.Count
import Pdx215.Power.Handlers

/-! One timer of a live session: `updateTimer` runs on a binder thread, `handleMessage` on the looper,
and their statements come in any order. A running handler that has read an old time may remove the
message of a new one, but it never leaves the timer without a message that will read the new time. -/
namespace Pdx215.Power

open Effect

def View.waiting (v : View) (h : Handler) : Nat := v.queue.countP fun m => decide (m.handler = h)

structure Timing where
  shared : Shared
  binder : Option Update
  looper : Option Place
  /-- How many calls of `updateTimer` have stored their time. -/
  stored : Nat
  /-- How many of them have returned. -/
  returned : Nat
  /-- The last call whose time a handler execution has read that took its expiry branch; 0 at first. -/
  expired : Nat

inductive TimingTurn where
  | updateTimer (time : Int)
  | binder (o : Outcome)
  | dispatch (m : Message)
  | looper (traced : Bool) (o : Outcome)
  | tick (elapsed : Nat)

namespace Timing

def start (sh : Shared) : Timing := ⟨sh, none, none, 0, 0, 0⟩

section Steps

variable (cfg : AdpfConfig) (s : Sid) (k : TimerKind)

def binderStep (o : Outcome) (c : Timing) : Option Update → Timing
  | none => c
  | some u =>
    let c := { c with shared := (perform cfg (u.act s k) o c.shared).2, binder := u.next }
    match u with
    | .store _ => { c with stored := c.stored + 1 }
    | .post => c
    | .monitor => { c with returned := c.stored }

def looperStep (traced : Bool) (o : Outcome) (c : Timing) : Option Place → Timing
  | none => c
  | some p =>
    let r := p.step cfg s k traced o c.shared
    { c with shared := r.2, looper := r.1, expired := if r.1 = some .expire then c.stored else c.expired }

def step (c : Timing) : TimingTurn → Timing
  | .updateTimer time => if c.binder = none then { c with binder := some (.store time) } else c
  | .binder o => c.binderStep cfg s k o c.binder
  | .dispatch m =>
    if c.looper = none ∧ m.handler = k.handler s ∧ (Event.deliver m).enabled c.shared.toView then
      { c with looper := some .check, shared := c.shared.lift fun v => (Event.deliver m).begin v }
    else c
  | .looper traced o => c.looperStep cfg s k traced o c.looper
  | .tick elapsed => { c with shared := c.shared.wait elapsed }

end Steps

/-- The last call of `updateTimer` whose message has been posted. -/
def posted (c : Timing) : Nat := if c.binder = some .post then c.stored - 1 else c.stored

end Timing

/-- The execution has not taken its expiry branch, and may still read or reschedule. -/
def Place.Undecided : Place → Prop
  | .check | .clock | .load _ | .announce _ | .reschedule _ => True
  | _ => False

def View.Alive (s : Sid) (k : TimerKind) (v : View) : Prop :=
  ∃ x, v.sessions s = some x ∧ (k.timer x).mIsSessionDead = false

structure Timing.Kept (s : Sid) (k : TimerKind) (c : Timing) : Prop where
  alive : c.shared.Alive s k
  single : c.shared.waiting (k.handler s) ≤ 1
  returned : c.returned ≤ c.posted
  armed : c.posted ≤ c.expired ∨ 0 < c.shared.waiting (k.handler s) ∨ ∃ p, c.looper = some p ∧ p.Undecided

section Frames

variable {cfg : AdpfConfig} {s : Sid} {k : TimerKind} {v : View} {sh : Shared}

theorem waiting_repost (h : Handler) (delay : Int) : (v.repost h delay).waiting h = 1 := by
  have none : (v.removeMessages h).waiting h = 0 := by
    simp [View.waiting, View.removeMessages, List.countP_eq_zero]
  simp [View.repost, View.sendMessageDelayed, View.waiting] at none ⊢
  exact none

theorem waiting_sendMessage {h h' : Handler} (other : h' ≠ h) (delay : Int) :
    (v.sendMessageDelayed h' delay).waiting h = v.waiting h := by
  simp [View.sendMessageDelayed, View.waiting, other]

theorem waiting_taken {m : Message} {h : Handler} (here : m ∈ v.queue) (for_h : m.handler = h)
    (single : v.waiting h ≤ 1) : ({ v with queue := v.queue.erase m } : View).waiting h = 0 := by
  simp only [View.waiting] at single ⊢
  have erased := List.countP_erase (fun m => decide (m.handler = h)) v.queue m
  rw [if_pos ⟨here, decide_eq_true for_h⟩] at erased
  omega

theorem View.Alive.store (alive : v.Alive s k) (x : Store) : (v.modify s fun y => x.apply y).Alive s k := by
  obtain ⟨y, found, live⟩ := alive
  exact ⟨x.apply y, by simp [found], (x.dead_apply k y).trans live⟩

theorem expire_toView (o : Outcome) :
    (perform cfg (Place.expire.act cfg s k) o sh).2.toView = (sh.wait o.elapsed).toView :=
  Shared.setUclampMinLocked_toView cfg s _ _

theorem View.Alive.place (alive : sh.Alive s k) (o : Outcome) (p : Place) :
    (perform cfg (p.act cfg s k) o sh).2.Alive s k := by
  cases p
  case settle => exact View.Alive.store alive _
  case expire =>
    rw [expire_toView]
    exact alive
  all_goals exact alive

theorem View.Alive.update (alive : sh.Alive s k) (o : Outcome) (u : Update) :
    (perform cfg (u.act s k) o sh).2.Alive s k := by
  cases u
  case post => exact alive
  all_goals exact View.Alive.store alive _

theorem waiting_place (cfg : AdpfConfig) (s : Sid) (k : TimerKind) (sh : Shared) (o : Outcome) (p : Place) :
    (∃ next, p = .reschedule next) ∧ (perform cfg (p.act cfg s k) o sh).2.waiting (k.handler s) = 1 ∨
      (∀ next, p ≠ .reschedule next) ∧
        (perform cfg (p.act cfg s k) o sh).2.waiting (k.handler s) = sh.waiting (k.handler s) := by
  cases p
  case reschedule next => exact .inl ⟨⟨next, rfl⟩, waiting_repost ..⟩
  case expire => exact .inr ⟨nofun, congrArg (fun v => v.waiting (k.handler s)) (expire_toView o)⟩
  case tell => exact .inr ⟨nofun, waiting_sendMessage (by cases k <;> nofun) 0⟩
  all_goals exact .inr ⟨nofun, rfl⟩

end Frames

namespace Timing

variable {cfg : AdpfConfig} {s : Sid} {k : TimerKind} {c : Timing}

/-- An execution that has not decided goes on undecided, or reschedules, or takes its expiry branch. -/
theorem undecided_next {p : Place} (alive : c.shared.Alive s k) (undecided : p.Undecided) (traced : Bool)
    (o : Outcome) :
    (∃ q, (p.step cfg s k traced o c.shared).1 = some q ∧ q.Undecided) ∨ (∃ next, p = .reschedule next) ∨
      (p.step cfg s k traced o c.shared).1 = some .expire := by
  obtain ⟨x, found, live⟩ := alive
  cases p
  case check =>
    refine .inl ⟨.clock, ?_, trivial⟩
    change ((c.shared.sessions s).bind _) = _
    simp [found, Place.afterCheck, live]
  case clock => exact .inl ⟨_, rfl, trivial⟩
  case load now =>
    have stepped : ((Place.load now).step cfg s k traced o c.shared).1 = some (Place.afterLoad k traced now x) := by
      change ((c.shared.sessions s).map _) = _
      rw [found]
      rfl
    rw [stepped, Place.afterLoad]
    split
    · left
      split
      · exact ⟨_, rfl, trivial⟩
      · exact ⟨_, rfl, trivial⟩
    · exact .inr (.inr rfl)
  case announce next => exact .inl ⟨_, rfl, trivial⟩
  case reschedule next => exact .inr (.inl ⟨next, rfl⟩)
  all_goals exact undecided.elim

theorem posted_le_stored : c.posted ≤ c.stored := by
  unfold posted
  split
  · exact Nat.sub_le _ _
  · exact le_rfl

theorem Kept.looper (kept : c.Kept s k) (traced : Bool) (o : Outcome) :
    (c.looperStep cfg s k traced o c.looper).Kept s k := by
  cases running : c.looper with
  | none => exact kept
  | some p =>
    have queue := waiting_place cfg s k c.shared o p
    have below : c.posted ≤ c.stored := posted_le_stored
    refine ⟨kept.alive.place o p, ?_, kept.returned, ?_⟩
    · rcases queue with ⟨-, one⟩ | ⟨-, same⟩
      · exact le_of_eq one
      · exact same.trans_le kept.single
    · rcases kept.armed with expired | waits | ⟨q, looking, undecided⟩
      · left
        change c.posted ≤ if _ then c.stored else c.expired
        split
        · exact below
        · exact expired
      · right; left
        rcases queue with ⟨-, one⟩ | ⟨-, same⟩
        · exact one.symm ▸ Nat.one_pos
        · exact same.symm ▸ waits
      · cases running.symm.trans looking
        rcases undecided_next kept.alive undecided traced o with on | ⟨next, rfl⟩ | expires
        · exact .inr (.inr on)
        · exact .inr (.inl (Nat.lt_of_lt_of_eq Nat.one_pos (waiting_repost ..).symm))
        · left
          change c.posted ≤ if _ then c.stored else c.expired
          rw [if_pos expires]
          exact below

theorem Kept.binder (kept : c.Kept s k) (o : Outcome) : (c.binderStep cfg s k o c.binder).Kept s k := by
  have returned := kept.returned
  have armed := kept.armed
  cases calling : c.binder with
  | none => exact kept
  | some u =>
    have alive : (perform cfg (u.act s k) o c.shared).2.Alive s k := kept.alive.update o u
    cases u with
    | store time =>
      simp only [posted, calling, reduceCtorEq, if_false, Option.some.injEq] at returned armed
      exact ⟨alive, kept.single, returned, armed⟩
    | post =>
      simp only [posted, calling, if_true] at returned
      have one := waiting_repost (v := (c.shared.wait o.elapsed).toView) (k.handler s) 0
      exact ⟨alive, le_of_eq one, returned.trans (Nat.sub_le _ _),
        .inr (.inl (Nat.lt_of_lt_of_eq Nat.one_pos one.symm))⟩
    | monitor =>
      simp only [posted, calling, reduceCtorEq, if_false, Option.some.injEq] at armed
      exact ⟨alive, kept.single, le_rfl, armed⟩

theorem Kept.step (kept : c.Kept s k) (t : TimingTurn) : (c.step cfg s k t).Kept s k := by
  cases t with
  | updateTimer time =>
    simp only [Timing.step]
    split
    · rename_i idle
      have same : ({ c with binder := some (.store time) } : Timing).posted = c.posted := by
        simp [posted, idle]
      exact ⟨kept.alive, kept.single, same ▸ kept.returned, same ▸ kept.armed⟩
    · exact kept
  | binder o => exact kept.binder o
  | dispatch m =>
    simp only [Timing.step]
    split
    · rename_i ready
      obtain ⟨-, for_k, enabled⟩ := ready
      have here : m ∈ c.shared.queue := (of_decide_eq_true enabled).1
      have taken := waiting_taken here for_k kept.single
      exact ⟨kept.alive, taken.trans_le (Nat.zero_le 1), kept.returned, .inr (.inr ⟨.check, rfl, trivial⟩)⟩
    · exact kept
  | looper traced o => exact kept.looper traced o
  | tick elapsed => exact ⟨kept.alive, kept.single, kept.returned, kept.armed⟩

end Timing

namespace Sample

/-- While the handler is about to reschedule itself for time 10, `updateTimer` stores the time 50 and posts its
message, which the handler then removes. -/
def crossing : List TimingTurn :=
  [.dispatch ⟨.stale 0, 0⟩, .looper false (calm 0), .looper false (calm 0), .looper false (calm 0), .updateTimer 50,
    .binder (calm 0), .binder (calm 0), .looper false (calm 0), .binder (calm 0)]

end Sample

end Pdx215.Power
