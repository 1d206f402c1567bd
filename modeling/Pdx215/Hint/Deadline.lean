import Pdx215.Hint.Balance

/-! How long a request is covered. `Acquire` compares whole milliseconds, with the nanoseconds cut towards
zero, so that the elapsed time that it computes is wrong by less than one millisecond either way; the error
does not add up from one call to the next. -/
namespace Pdx215.Hint

/-! ### The elapsed time -/

def Timespec.ns (t : Timespec) : Int := t.tvSec * 1000000000 + t.tvNsec

/-- A normalised time of `CLOCK_MONOTONIC`, early enough for its milliseconds to be a `long`. -/
structure Timespec.Normal (t : Timespec) : Prop where
  started : 0 ≤ t.tvSec
  early : t.tvSec * 1000 + 1000 < 2 ^ 63
  positive : 0 ≤ t.tvNsec
  fraction : t.tvNsec < 1000000000

theorem tdiv_near (n : Int) : n - 1000000 < n.tdiv 1000000 * 1000000 ∧ n.tdiv 1000000 * 1000000 < n + 1000000 := by
  have whole := Int.tdiv_mul_add_tmod n 1000000
  have upper := Int.tmod_lt_of_pos n (show (0 : Int) < 1000000 by decide)
  have lower := Int.lt_tmod_of_pos n (show (0 : Int) < 1000000 by decide)
  omega

theorem calcTimespecDiffMs_near {start finish : Timespec} (first : start.Normal) (second : finish.Normal)
    (later : start.ns ≤ finish.ns) :
    finish.ns - start.ns - 1000000 < (calcTimespecDiffMs start finish).toNat * 1000000 ∧
      (calcTimespecDiffMs start finish).toNat * 1000000 < finish.ns - start.ns + 1000000 := by
  have near := tdiv_near (finish.tvNsec - start.tvNsec)
  obtain ⟨elapsed, is⟩ : ∃ e, e = (finish.tvSec - start.tvSec) * 1000 +
    (finish.tvNsec - start.tvNsec).tdiv 1000000 := ⟨_, rfl⟩
  have value : calcTimespecDiffMs start finish = BitVec.ofInt 64 elapsed := by
    rw [calcTimespecDiffMs, is, BitVec.ofInt_add]
  obtain ⟨_, early, _, _⟩ := first
  obtain ⟨_, early', _, _⟩ := second
  simp only [Timespec.ns] at later ⊢
  have positive : 0 ≤ elapsed := by omega
  have small : elapsed < (2 ^ 64 : Nat) := by omega
  have exact' : ((calcTimespecDiffMs start finish).toNat : Int) = elapsed := by
    rw [value, BitVec.toNat_ofInt, Int.emod_eq_of_lt positive small, Int.toNat_of_nonneg positive]
  rw [exact']
  omega

/-! ### One call -/

def InteractionHandler.deadline (h : InteractionHandler) : Int :=
  h.mLastTimespec.ns + h.mDurationMs.toInt * 1000000

def Properties.due (p : Properties) (r : BitVec 32 × Timespec) : Int :=
  r.2.ns + (p.finalDuration r.1).toInt * 1000000

section Call

variable {p : Properties} {h : InteractionHandler} {final : BitVec 32} {now : Timespec}

theorem toNat_difference {shorter longer : BitVec 32} (positive : 0 ≤ shorter.toInt)
    (le : shorter.toInt ≤ longer.toInt) :
    (((longer - shorter).signExtend 64).toNat : Int) = longer.toInt - shorter.toInt := by
  have longs := BitVec.toInt_eq_toNat_cond longer
  have shorts := BitVec.toInt_eq_toNat_cond shorter
  have width := longer.isLt
  have width' := shorter.isLt
  have small : (longer - shorter).toNat = longer.toNat - shorter.toNat := by
    rw [BitVec.toNat_sub]
    split at longs <;> split at shorts <;> omega
  have msb : (longer - shorter).msb = false := by
    rw [BitVec.msb_eq_false_iff_two_mul_lt, small]
    split at longs <;> split at shorts <;> omega
  rw [BitVec.signExtend_eq_setWidth_of_msb_false msb, BitVec.toNat_setWidth, small]
  split at longs <;> split at shorts <;> omega

theorem due_of_covers (last : h.mLastTimespec.Normal) (clock : now.Normal) (later : h.mLastTimespec.ns ≤ now.ns)
    (positive : 0 ≤ final.toInt) (covers : h.covers now final = true) :
    now.ns + final.toInt * 1000000 - 1000000 < h.deadline := by
  simp only [InteractionHandler.covers, Bool.and_eq_true, decide_eq_true_eq] at covers
  obtain ⟨⟨-, shorter⟩, elapsed⟩ := covers
  have shorter : final.toInt ≤ h.mDurationMs.toInt := BitVec.sle_iff_toInt_le.mp shorter
  have near := calcTimespecDiffMs_near last clock later
  have difference := toNat_difference positive shorter
  have elapsed := BitVec.le_def.mp elapsed
  rw [InteractionHandler.deadline]
  omega

theorem deadline_of_not_covers (busy : h.mState ≠ .idle) (last : h.mLastTimespec.Normal) (clock : now.Normal)
    (later : h.mLastTimespec.ns ≤ now.ns) (positive : 0 ≤ final.toInt) (open' : h.covers now final = false) :
    h.deadline ≤ now.ns + final.toInt * 1000000 := by
  rw [InteractionHandler.deadline]
  by_cases shorter : final.toInt ≤ h.mDurationMs.toInt
  · have sle : final.sle h.mDurationMs = true := BitVec.sle_iff_toInt_le.mpr shorter
    simp only [InteractionHandler.covers, busy, sle, ne_eq, not_false_eq_true, decide_true, Bool.and_true,
      Bool.true_and, decide_eq_false_iff_not, BitVec.not_le] at open'
    have near := calcTimespecDiffMs_near last clock later
    have difference := toNat_difference positive shorter
    have elapsed := BitVec.lt_def.mp open'
    omega
  · omega

end Call

/-! ### A period outside IDLE -/

def requests (turns : List Turn) : List (BitVec 32 × Timespec) :=
  turns.filterMap fun
    | .acquire duration now => some (duration, now)
    | .routine _ => none

/-- The handler holds a hint that covers the requests made so far. -/
structure Covering (p : Properties) (past : List (BitVec 32 × Timespec)) (h : InteractionHandler) : Prop where
  ready : h.mState ≠ .uninitialized
  busy : h.mState ≠ .idle
  clock : h.mLastTimespec.Normal
  last : ∃ r ∈ past, r.2 = h.mLastTimespec
  covered : ∀ r ∈ past, p.due r - 1000000 < h.deadline

section Steps

variable {p : Properties} {h : InteractionHandler} {past : List (BitVec 32 × Timespec)} {duration : BitVec 32}
  {now : Timespec}

theorem engage_deadline (h : InteractionHandler) : h.engage.deadline = h.deadline ∧
    h.engage.mLastTimespec = h.mLastTimespec := by
  rw [InteractionHandler.engage]
  split <;> exact ⟨rfl, rfl⟩

theorem acquire_taken (supported : p.kDisplayIdleSupport = true) (ready : h.mState ≠ .uninitialized)
    (open' : h.covers now (p.finalDuration duration) = false) :
    (h.acquire p duration now).mState = .interaction ∧ (h.acquire p duration now).mLastTimespec = now ∧
      (h.acquire p duration now).deadline = p.due (duration, now) := by
  have direct : ¬ ((!p.kDisplayIdleSupport || decide (h.mState = .uninitialized)) = true) := by
    simp [supported, ready]
  have taken := engage_deadline { h with mLastTimespec := now, mDurationMs := p.finalDuration duration }
  simp only [InteractionHandler.acquire, if_neg direct, open', Bool.false_eq_true, if_false]
  exact ⟨trivial, taken.2, taken.1⟩

theorem acquire_covered (supported : p.kDisplayIdleSupport = true) (ready : h.mState ≠ .uninitialized)
    (covers : h.covers now (p.finalDuration duration) = true) : h.acquire p duration now = h := by
  have direct : ¬ ((!p.kDisplayIdleSupport || decide (h.mState = .uninitialized)) = true) := by
    simp [supported, ready]
  simp only [InteractionHandler.acquire, if_neg direct, covers, if_true]

theorem covering_begin (supported : p.kDisplayIdleSupport = true) (idle : h.mState = .idle) (clock : now.Normal) :
    Covering p [(duration, now)] (h.acquire p duration now) := by
  have open' : h.covers now (p.finalDuration duration) = false := by simp [InteractionHandler.covers, idle]
  obtain ⟨state, last, deadline⟩ := acquire_taken supported (by simp [idle]) open'
  refine ⟨by simp [state], by simp [state], last.symm ▸ clock, ⟨_, List.mem_singleton.mpr rfl, last.symm⟩, ?_⟩
  intro r member
  cases List.mem_singleton.mp member
  omega

/-- A further request is covered by the old hint or by its own, and the deadline does not move back. -/
theorem covering_acquire (supported : p.kDisplayIdleSupport = true) (covering : Covering p past h)
    (clock : now.Normal) (later : ∀ r ∈ past, r.2.ns ≤ now.ns) (positive : 0 ≤ (p.finalDuration duration).toInt) :
    Covering p (past ++ [(duration, now)]) (h.acquire p duration now) ∧
      h.deadline ≤ (h.acquire p duration now).deadline := by
  have since : h.mLastTimespec.ns ≤ now.ns := by
    obtain ⟨r, member, is⟩ := covering.last
    exact is ▸ later r member
  cases covers : h.covers now (p.finalDuration duration) with
  | true =>
    rw [acquire_covered supported covering.ready covers]
    refine ⟨⟨covering.ready, covering.busy, covering.clock, ?_, fun r member => ?_⟩, le_refl _⟩
    · obtain ⟨r, member, is⟩ := covering.last
      exact ⟨r, List.mem_append_left _ member, is⟩
    · rcases List.mem_append.mp member with old | new
      · exact covering.covered r old
      · cases List.mem_singleton.mp new
        exact due_of_covers covering.clock clock since positive covers
  | false =>
    obtain ⟨state, last, deadline⟩ := acquire_taken supported covering.ready covers
    have forward : h.deadline ≤ p.due (duration, now) :=
      deadline_of_not_covers covering.busy covering.clock clock since positive covers
    rw [deadline]
    refine ⟨⟨by simp [state], by simp [state], last.symm ▸ clock, ?_, fun r member => ?_⟩, forward⟩
    · exact ⟨_, List.mem_append_right _ (List.mem_singleton.mpr rfl), last.symm⟩
    · rw [deadline]
      rcases List.mem_append.mp member with old | new
      · have := covering.covered r old
        omega
      · cases List.mem_singleton.mp new
        omega

theorem covering_step {q : Point} {answer : Answer} (covering : Covering p past h)
    (busy : (q.step p answer h).2.mState ≠ .idle) :
    Covering p past (q.step p answer h).2 ∧ h.deadline = (q.step p answer h).2.deadline := by
  have stepped := step_stepped (p := p) (h := h) answer q
  generalize q.step p answer h = r at stepped busy
  cases stepped with
  | asleep | ended | waited | stopped => exact ⟨covering, rfl⟩
  | switched => exact ⟨⟨by simp, busy, covering.clock, covering.last, covering.covered⟩, rfl⟩
  | released =>
    have kept : h.release.mState ≠ .uninitialized ∧ h.release.mLastTimespec = h.mLastTimespec ∧
        h.release.mDurationMs = h.mDurationMs := by
      simp only [InteractionHandler.release]
      split
      · exact ⟨by simp, rfl, rfl⟩
      · split <;> exact ⟨covering.ready, rfl, rfl⟩
    have same : h.release.deadline = h.deadline := by
      rw [InteractionHandler.deadline, InteractionHandler.deadline, kept.2.1, kept.2.2]
    obtain ⟨ready, last, -⟩ := kept
    refine ⟨⟨ready, busy, last.symm ▸ covering.clock, last.symm ▸ covering.last, ?_⟩, same.symm⟩
    intro r member
    exact same.symm ▸ covering.covered r member

end Steps

/-- A run that begins with a request in IDLE and stays outside IDLE, on a clock that does not go back. -/
structure Period (p : Properties) (c : Config) (turns : List Turn) : Prop where
  supported : p.kDisplayIdleSupport = true
  idle : c.handler.mState = .idle
  begun : ∃ duration now rest, turns = .acquire duration now :: rest
  busy : ∀ before, before <+: turns → before ≠ [] → (before.foldl (turn p) c).handler.mState ≠ .idle
  clock : ∀ r ∈ requests turns, r.2.Normal
  ordered : (requests turns).Pairwise fun r r' => r.2.ns ≤ r'.2.ns
  milliseconds : ∀ r ∈ requests turns, 0 ≤ (p.finalDuration r.1).toInt

section Run

variable {p : Properties} {c : Config} {past : List (BitVec 32 × Timespec)} {turns : List Turn}

theorem covering_run (turns : List Turn) (supported : p.kDisplayIdleSupport = true) (covering : Covering p past c.handler)
    (busy : ∀ before, before <+: turns → (before.foldl (turn p) c).handler.mState ≠ .idle)
    (clock : ∀ r ∈ requests turns, r.2.Normal)
    (ordered : (past ++ requests turns).Pairwise fun r r' => r.2.ns ≤ r'.2.ns)
    (milliseconds : ∀ r ∈ requests turns, 0 ≤ (p.finalDuration r.1).toInt) :
    Covering p (past ++ requests turns) (turns.foldl (turn p) c).handler ∧
      c.handler.deadline ≤ (turns.foldl (turn p) c).handler.deadline := by
  induction turns generalizing c past with
  | nil => exact ⟨(List.append_nil past).symm ▸ covering, le_refl _⟩
  | cons t turns ih =>
    have busy' : ∀ before, before <+: turns → (before.foldl (turn p) (turn p c t)).handler.mState ≠ .idle :=
      fun before within => busy (t :: before) ((List.prefix_cons_inj t).mpr within)
    cases t with
    | acquire duration now =>
      have head : requests (.acquire duration now :: turns) = (duration, now) :: requests turns := rfl
      rw [head] at clock ordered milliseconds ⊢
      have later : ∀ r ∈ past, r.2.ns ≤ now.ns := fun r member =>
        (List.pairwise_append.mp ordered).2.2 r member _ List.mem_cons_self
      have step := covering_acquire supported covering (clock _ List.mem_cons_self) later
        (milliseconds _ List.mem_cons_self)
      rw [List.append_cons] at ordered ⊢
      have rest := ih (c := turn p c (.acquire duration now)) step.1 busy'
        (fun r member => clock r (List.mem_cons_of_mem _ member)) ordered
        (fun r member => milliseconds r (List.mem_cons_of_mem _ member))
      exact ⟨rest.1, step.2.trans rest.2⟩
    | routine answer =>
      have step := covering_step covering (busy [.routine answer] (List.prefix_append [.routine answer] turns))
      have rest := ih (c := turn p c (.routine answer)) step.1 busy' clock ordered milliseconds
      exact ⟨rest.1, step.2.trans_le rest.2⟩

theorem requests_append (before after : List Turn) : requests (before ++ after) = requests before ++ requests after :=
  List.filterMap_append

/-- The deadline never moves back, and whenever one looks it is later than what any request so far asked for,
less a millisecond. -/
theorem interaction_deadline (period : Period p c turns) (before after : List Turn)
    (split : turns = before ++ after) (some : before ≠ []) :
    (before.foldl (turn p) c).handler.deadline ≤ (turns.foldl (turn p) c).handler.deadline ∧
      ∀ r ∈ requests before, p.due r - 1000000 < (before.foldl (turn p) c).handler.deadline := by
  obtain ⟨supported, idle, ⟨duration, now, rest, head⟩, busy, clock, ordered, milliseconds⟩ := period
  subst split
  obtain ⟨rest, rfl⟩ : ∃ rest, before = .acquire duration now :: rest := by
    cases before with
    | nil => exact absurd rfl some
    | cons t before => exact ⟨before, by rw [(List.cons.inj head).1]⟩
  have begun : requests (.acquire duration now :: rest) = [(duration, now)] ++ requests rest := rfl
  rw [requests_append, begun] at clock ordered milliseconds
  have first : Covering p [(duration, now)] (turn p c (.acquire duration now)).handler :=
    covering_begin supported idle (clock (duration, now) (by simp))
  have run := covering_run rest supported first
    (fun b within => busy (.acquire duration now :: b)
      (((List.prefix_cons_inj _).mpr within).trans (List.prefix_append _ after)) (List.cons_ne_nil _ _))
    (fun r member => clock r (by simp [member])) (List.pairwise_append.mp ordered).1
    (fun r member => milliseconds r (by simp [member]))
  have later := covering_run after supported run.1
    (fun b within => by
      have whole := busy (.acquire duration now :: rest ++ b) ((List.prefix_append_right_inj _).mpr within)
        (by simp)
      rwa [List.foldl_append] at whole)
    (fun r member => clock r (by simp [member])) ordered
    (fun r member => milliseconds r (by simp [member]))
  rw [List.foldl_append]
  exact ⟨later.2, fun r member => run.1.covered r (begun ▸ member)⟩

end Run

/-! ### The duration of a request -/

section Duration

variable {p : Properties}

theorem toNat_finalDuration (duration : BitVec 32) {sum : Nat}
    (is : sum = (duration.toNat + p.kDurationOffsetMs.toNat) % 2 ^ 32) :
    p.kMaxDurationMs.toNat < sum ∧ (p.finalDuration duration).toNat = p.kMaxDurationMs.toNat ∨
      sum ≤ p.kMaxDurationMs.toNat ∧ (p.finalDuration duration).toNat = max p.kMinDurationMs.toNat sum := by
  simp only [Properties.finalDuration, BitVec.lt_def, BitVec.toNat_add, ← is]
  split
  · rename_i long
    exact .inl ⟨long, rfl⟩
  · rename_i within
    refine .inr ⟨Nat.le_of_not_lt within, ?_⟩
    split
    · rename_i above
      rw [BitVec.toNat_add, ← is, Nat.max_eq_right (Nat.le_of_lt above)]
    · rename_i below
      rw [Nat.max_eq_left (Nat.le_of_not_lt below)]

/-- With limits that are `int`s every duration is one of milliseconds. -/
theorem finalDuration_nonneg (least : p.kMinDurationMs.toNat < 2 ^ 31) (most : p.kMaxDurationMs.toNat < 2 ^ 31)
    (duration : BitVec 32) : 0 ≤ (p.finalDuration duration).toInt := by
  have value := toNat_finalDuration (p := p) duration rfl
  rw [BitVec.toInt_eq_toNat_cond]
  split <;> omega

theorem toNat_sum (duration : BitVec 32) {offset : Nat} (typed : offset < 2 ^ 31) :
    (((duration.toNat + offset) % 2 ^ 32 : Nat) : Int) =
      if 0 ≤ duration.toInt + offset then duration.toInt + offset else duration.toInt + offset + 2 ^ 32 := by
  have width := duration.isLt
  rw [BitVec.toInt_eq_toNat_cond]
  split <;> split <;> omega

/-- A negative sum is taken for a large unsigned number, and gets the longest duration. -/
theorem finalDuration_eq (most : p.kMaxDurationMs.toNat < 2 ^ 31) (offset : p.kDurationOffsetMs.toNat < 2 ^ 31)
    (ordered : p.kMinDurationMs.toNat ≤ p.kMaxDurationMs.toNat) (duration : BitVec 32) :
    (p.finalDuration duration).toInt =
      if 0 ≤ duration.toInt + p.kDurationOffsetMs.toNat then
        min (p.kMaxDurationMs.toNat : Int) (max (p.kMinDurationMs.toNat : Int)
          (duration.toInt + p.kDurationOffsetMs.toNat))
      else p.kMaxDurationMs.toNat := by
  have value := toNat_finalDuration (p := p) duration rfl
  have sum := toNat_sum duration offset
  have lower : -2 ^ 31 ≤ duration.toInt := duration.le_toInt
  have positive := finalDuration_nonneg (ordered.trans_lt most) most duration
  have exact' : (p.finalDuration duration).toInt = (p.finalDuration duration).toNat := by
    rw [BitVec.toInt_eq_toNat_cond] at positive ⊢
    split at positive <;> omega
  rw [exact']
  by_cases nonneg : 0 ≤ duration.toInt + p.kDurationOffsetMs.toNat
  · rw [if_pos nonneg] at sum ⊢
    omega
  · rw [if_neg nonneg] at sum ⊢
    omega

/-- The duration is the clamped sum unless the sum is negative and the limits differ. -/
theorem finalDuration_clamp_iff (ordered : p.kMinDurationMs.toNat ≤ p.kMaxDurationMs.toNat)
    (most : p.kMaxDurationMs.toNat < 2 ^ 31) (offset : p.kDurationOffsetMs.toNat < 2 ^ 31) :
    (∀ duration : BitVec 32, (p.finalDuration duration).toInt =
        min (p.kMaxDurationMs.toNat : Int) (max (p.kMinDurationMs.toNat : Int)
          (duration.toInt + p.kDurationOffsetMs.toNat)) ↔
      0 ≤ duration.toInt + p.kDurationOffsetMs.toNat ∨ p.kMinDurationMs = p.kMaxDurationMs) ∧
    ∀ duration duration' : BitVec 32, 0 ≤ duration.toInt + p.kDurationOffsetMs.toNat →
      duration.toInt ≤ duration'.toInt →
        (p.finalDuration duration).toInt ≤ (p.finalDuration duration').toInt := by
  constructor
  · intro duration
    rw [finalDuration_eq most offset ordered, ← BitVec.toNat_inj]
    split <;> omega
  · intro duration duration' first le
    rw [finalDuration_eq most offset ordered, finalDuration_eq most offset ordered, if_pos first, if_pos (by omega)]
    omega

end Duration

theorem finalDuration_clamp_default :
    let p := Sample.properties
    (p.kMinDurationMs.toNat ≤ p.kMaxDurationMs.toNat ∧ p.kMaxDurationMs.toNat < 2 ^ 31 ∧
      p.kDurationOffsetMs.toNat < 2 ^ 31) ∧
      ∀ duration : BitVec 32, (p.finalDuration duration).toInt = min 5650 (max 1400 (duration.toInt + 650)) ↔
        0 ≤ duration.toInt + 650 ∨ p.kMinDurationMs = p.kMaxDurationMs :=
  ⟨by decide, (finalDuration_clamp_iff (p := Sample.properties) (by decide) (by decide) (by decide)).1⟩

/-- With the default properties a duration of -1000 is extended to 5650 and not to 1400. -/
theorem finalDuration_of_negative :
    (Sample.properties.finalDuration (-1000)).toInt = 5650 ∧ (-1000 : BitVec 32).toInt = -1000 ∧
      min (5650 : Int) (max 1400 (-1000 + 650)) = 1400 ∧
      ((InteractionHandler.new ⟨0, 0⟩).acquire Sample.properties (-1000) ⟨5, 0⟩).hints = [.doHintFor 5650] := by
  decide

namespace Sample

def busy : List Turn :=
  [.acquire 1000 ⟨5, 0⟩, .acquire 0 ⟨5, 100000000⟩, .routine ⟨.timeout, none⟩, .routine ⟨.timeout, none⟩,
    .acquire 1000 ⟨7, 0⟩]

theorem normal {sec nsec : Int} (within : 0 ≤ sec ∧ sec < 1000 ∧ 0 ≤ nsec ∧ nsec < 1000000000) :
    (Timespec.mk sec nsec).Normal := by
  obtain ⟨started, early, positive, fraction⟩ := within
  refine ⟨started, ?_, positive, fraction⟩
  change sec * 1000 + 1000 < 2 ^ 63
  omega

theorem period_busy : Period properties (.start up) busy where
  supported := rfl
  idle := rfl
  begun := ⟨_, _, _, rfl⟩
  busy := by
    intro before within some
    obtain ⟨after, split⟩ := within
    have k : before = busy.take before.length := by rw [← split, List.take_left]
    have short : before.length ≤ 5 := by
      have := congrArg List.length split
      simp only [List.length_append] at this
      change _ = 5 at this
      omega
    have all : ∀ n : Fin 6, n.val ≠ 0 → ((busy.take n).foldl (turn properties) (.start up)).handler.mState ≠ .idle := by
      decide
    have here := all ⟨before.length, by omega⟩ (by simpa using some)
    rwa [← k] at here
  clock := by
    intro r member
    simp only [requests, busy, List.filterMap_cons, List.filterMap_nil, List.mem_cons, List.not_mem_nil,
      or_false] at member
    rcases member with rfl | rfl | rfl <;> exact normal (by decide)
  ordered := by decide
  milliseconds := fun r _ => finalDuration_nonneg (by decide) (by decide) r.1

end Sample

theorem interaction_deadline_busy :
    Period Sample.properties (.start Sample.up) Sample.busy ∧
      ∀ r ∈ requests (Sample.busy.take 2), Sample.properties.due r - 1000000 <
        ((Sample.busy.take 2).foldl (turn Sample.properties) (.start Sample.up)).handler.deadline :=
  ⟨Sample.period_busy, (interaction_deadline Sample.period_busy (Sample.busy.take 2) (Sample.busy.drop 2) rfl
    (List.cons_ne_nil _ _)).2⟩

end Pdx215.Hint
