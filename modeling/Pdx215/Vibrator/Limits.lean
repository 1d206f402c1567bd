import Mathlib.Algebra.Order.BigOperators.Group.List
import Pdx215.Vibrator.Construct
import Pdx215.Vibrator.Strokes

/-! The limits that a PWLE composition has to keep: the number of segments and the length of the text that the
amplifier takes, and the durations. Sizes are checked on primitives, of which an active one may take two segments. -/
namespace Pdx215.Vibrator

open Effect Fields

/-! ### The length of the text -/

/-- 26 characters, seven times the number, and the values that vary. -/
def Stroke.size (num : Numbers) (k : Stroke) (number : Nat) : Nat :=
  26 + 7 * (toString number).length + (toString k.duration).length + (toString (lround k.frequency)).length +
    match k with
    | .active _ level _ => (num.printLevel level).length
    | .braking _ kind _ => (toString kind).length

theorem length_field (name : String) (segmentIdx : Nat) (value : String) :
    (field name segmentIdx value).length = 2 + name.length + (toString segmentIdx).length + value.length := by
  have comma : ",".length = 1 := rfl
  have colon : ":".length = 1 := rfl
  simp only [field, String.length_append, comma, colon]
  omega

theorem length_text (num : Numbers) (k : Stroke) (segmentIdx : Nat) :
    (k.text num segmentIdx).length = k.size num segmentIdx := by
  have one : ∀ name ∈ ["T", "L", "F", "C", "B", "V", "0", "1"], name.length = 1 := by decide
  have two : "AR".length = 2 := rfl
  simp only [List.forall_mem_cons, List.not_mem_nil, false_implies, implies_true, and_true] at one
  cases k with
  | active duration level frequency =>
    simp only [Stroke.text, constructActiveSegment, constructActiveDefaults, String.length_append, length_field, one,
      two, Stroke.size, Stroke.duration, Stroke.frequency]
    omega
  | braking duration kind frequency =>
    simp only [Stroke.text, constructBrakingSegment, String.length_append, length_field, one, two, Stroke.size,
      Stroke.duration, Stroke.frequency]
    omega

def textSize (num : Numbers) : Nat → List Stroke → Nat
  | _, [] => 0
  | number, k :: ks => k.size num number + textSize num (number + 1) ks

theorem length_strokes_text (num : Numbers) (s : Pwle) (ks : List Stroke) :
    (ks.foldl (Pwle.add num) s).pwleQueue.length = s.pwleQueue.length + textSize num s.segmentIdx ks := by
  induction ks generalizing s with
  | nil => rfl
  | cons k ks ih =>
    have first : (s.add num k).pwleQueue.length = s.pwleQueue.length + k.size num s.segmentIdx := by
      rw [← length_text]
      exact String.length_append _ _
    rw [List.foldl_cons, ih, first, textSize, Nat.add_assoc]
    rfl

theorem textSize_ge (num : Numbers) (number : Nat) (ks : List Stroke) : 26 * ks.length ≤ textSize num number ks := by
  induction ks generalizing number with
  | nil => exact Nat.le_refl _
  | cons k ks ih =>
    have rest := ih (number + 1)
    have one : 26 ≤ k.size num number := by
      unfold Stroke.size
      omega
    rw [List.length_cons, textSize]
    omega

/-! ### The number of segments -/

/-- One if it does not start where the envelope is. -/
def ActivePwle.jump (a : ActivePwle) (level frequency : Rat) : Nat :=
  if a.startAmplitude = level ∧ a.startFrequency = frequency then 0 else 1

/-- The active primitives that do not start where the envelope is. -/
def Members.jumps (m : Members) : Rat → Rat → List PrimitivePwle → Nat
  | _, _, [] => 0
  | level, frequency, .active p :: composite =>
    (m.clip p).jump level frequency + m.jumps (m.clip p).endAmplitude p.endFrequency composite
  | _, frequency, .braking _ :: composite => m.jumps 0 frequency composite

theorem ActivePwle.length_strokes (a : ActivePwle) (level frequency : Rat) :
    (a.strokes level frequency).length = 1 + a.jump level frequency := by
  by_cases held : a.startAmplitude = level ∧ a.startFrequency = frequency
  · rw [ActivePwle.strokes, ActivePwle.jump, if_pos held, if_pos held]
    rfl
  · rw [ActivePwle.strokes, ActivePwle.jump, if_neg held, if_neg held]
    rfl

theorem Members.length_strokes (m : Members) (level frequency : Rat) (composite : List PrimitivePwle) :
    (m.strokes level frequency composite).length = composite.length + m.jumps level frequency composite := by
  induction composite generalizing level frequency with
  | nil => rfl
  | cons e composite ih =>
    cases e with
    | active p =>
      rw [Members.strokes, List.length_append, ih, ActivePwle.length_strokes, Members.jumps, List.length_cons]
      omega
    | braking p =>
      rw [Members.strokes, List.length_cons, ih, Members.jumps, List.length_cons]
      omega

def PrimitivePwle.Valid : PrimitivePwle → Prop
  | .active a => a.Valid
  | .braking b => b.Taken ∧ 0 ≤ b.duration

instance (e : PrimitivePwle) : Decidable e.Valid :=
  match e with
  | .active a => inferInstanceAs (Decidable a.Valid)
  | .braking b => inferInstanceAs (Decidable (b.Taken ∧ 0 ≤ b.duration))

theorem PrimitivePwle.Valid.taken {e : PrimitivePwle} (valid : e.Valid) : e.Taken := by
  cases e with
  | active a => exact valid
  | braking b => exact valid.1

/-- What a successful `getPwleCompositionSizeMax` says about the object that it leaves. -/
theorem getPwleCompositionSizeMax_ok {x x' : Object} {probe : Probe} {segments maxSize : BitVec 32}
    (advertised : x.getPwleCompositionSizeMax probe (some segments) = (.ok maxSize, x')) :
    x'.members.mIsChirpEnabled = true ∧ x'.members.mCompositionSizeMax = maxSize.toInt ∧
      maxSize.toNat ≤ composePwleSizeLimit.toNat := by
  simp only [Object.getPwleCompositionSizeMax] at advertised
  split at advertised
  case isTrue capable =>
    have chirp : (x.getCapabilities probe).2.members.mIsChirpEnabled = true := (Bool.and_eq_true_iff.mp capable).2
    cases advertised
    refine ⟨chirp, rfl, ?_⟩
    split
    case isTrue => exact Nat.le_refl _
    case isFalse small => exact BitVec.not_lt.mp small
  case isFalse => cases advertised

/-- A composition of valid primitives that is not longer than advertised is taken, with no more segments than the
amplifier has, if and only if the additional segments for its jumps and the text of all of them still fit. The empty
composition is refused, but not because of its size. -/
theorem advertised_size_honoured_iff {num : Numbers} (prints : num.PrintsLevels) (x x' : Object) (probe : Probe)
    (segments maxSize : BitVec 32)
    (advertised : x.getPwleCompositionSizeMax probe (some segments) = (.ok maxSize, x'))
    {composite : List PrimitivePwle} (valid : ∀ e ∈ composite, e.Valid) (size : composite.length ≤ maxSize.toInt) :
    (composite = [] ∨ ∃ s gs, x'.members.pwleQueue num composite = .ok s ∧ parsePwle s.pwleQueue = some gs ∧
        gs.length ≤ segments.toNat ∧ s.pwleQueue.length ≤ cs40l2xPwleLengthMax) ↔
      composite.length + x'.members.jumps 0 x'.members.mResonantFrequency composite ≤ segments.toNat ∧
      18 + textSize num 0 (x'.members.allStrokes composite) ≤ cs40l2xPwleLengthMax := by
  obtain ⟨chirp, members, limit⟩ := getPwleCompositionSizeMax_ok advertised
  have text := length_strokes_text num x'.members.pwleStart (x'.members.allStrokes composite)
  have header : x'.members.pwleStart.pwleQueue.length = 18 := (by decide : "S:0,WF:4,RP:0,WT:0".length = 18)
  rw [header] at text
  have count := x'.members.length_strokes 0 x'.members.mResonantFrequency composite
  have parsed := parse_strokes prints (m := x'.members) (x'.members.allStrokes composite)
  constructor
  · rintro (rfl | ⟨s, gs, accepted, read, few, short⟩)
    · exact ⟨Nat.zero_le _, (by decide : 18 + 0 ≤ cs40l2xPwleLengthMax)⟩
    · obtain ⟨-, rfl, -⟩ := (pwleQueue_eq_ok_iff composite s).mp accepted
      cases read.symm.trans parsed
      rw [length_numbered, Members.allStrokes, count] at few
      exact ⟨few, text ▸ short⟩
  · rintro ⟨few, short⟩
    by_cases empty : composite = []
    · exact .inl empty
    have wide : composite.length ≤ x'.members.mCompositionSizeMax % 2 ^ 64 := by
      have : composePwleSizeLimit.toNat = 82 := rfl
      rw [members]
      have := BitVec.toInt_eq_toNat_cond maxSize
      omega
    refine .inr ⟨_, _, (pwleQueue_eq_ok_iff composite _).mpr ⟨⟨chirp, empty, wide, ?_⟩, rfl, ?_⟩, parsed, ?_, ?_⟩
    · exact fun e here => (valid e here).taken
    · exact text ▸ short
    · rw [length_numbered, Members.allStrokes, count]
      exact few
    · exact text ▸ short

namespace Sample

def object : Object := ⟨members, ⟨0, 0, 0, [], false, false⟩⟩

def probe : Probe := ⟨true, true, [], true⟩

def rise : List PrimitivePwle := [.active ⟨1 / 2, 100, 1 / 2, 120, 10⟩, .active ⟨1 / 2, 120, 0, 120, 10⟩]

end Sample

/-- Two primitives with one jump fit into three segments. -/
theorem advertised_size_honoured_three :
    (Sample.object.getPwleCompositionSizeMax Sample.probe (some 3)).1 = .ok 3 ∧
    ∃ s gs, (Sample.object.getPwleCompositionSizeMax Sample.probe (some 3)).2.members.pwleQueue Sample.levels
        Sample.rise = .ok s ∧
      parsePwle s.pwleQueue = some gs ∧ gs.length ≤ 3 ∧ s.pwleQueue.length ≤ cs40l2xPwleLengthMax :=
  ⟨rfl, ((advertised_size_honoured_iff Sample.levels_prints Sample.object _ Sample.probe 3 3 rfl (by decide +kernel)
    (by decide)).mpr (by decide +kernel)).resolve_left (by decide)⟩

/-- The amplifier has one segment, and one primitive is written as two. -/
theorem advertised_size_exceeded :
    (Sample.object.getPwleCompositionSizeMax Sample.probe (some 1)).1 = .ok 1 ∧
    (∀ e ∈ Sample.ramp, e.Valid) ∧ Sample.ramp.length = 1 ∧
    ∃ s gs, (Sample.object.getPwleCompositionSizeMax Sample.probe (some 1)).2.members.pwleQueue Sample.levels
        Sample.ramp = .ok s ∧
      parsePwle s.pwleQueue = some gs ∧ gs.length = 2 := by
  have valid : ∀ e ∈ Sample.ramp, e.Valid := by decide +kernel
  refine ⟨rfl, valid, rfl, _, _, (pwleQueue_eq_ok_iff _ _).mpr ⟨⟨rfl, by decide, by decide, ?_⟩, rfl, ?_⟩,
    parse_strokes Sample.levels_prints _, ?_⟩
  · exact fun e here => (valid e here).taken
  · decide +kernel
  · decide +kernel

/-! ### Durations -/

def Entry.duration : Entry → Option (BitVec 32)
  | .service _ (.setDuration value) _ _ _ _ => some value
  | _ => none

def World.durations (w : World) : List (BitVec 32) := w.log.filterMap Entry.duration

section Written

variable {num : Numbers} {n : Nat} {w : World} {before : List (BitVec 32)}

theorem wp_activatePwle_duration (totalDuration : BitVec 32) (now : w.durations = before) :
    wpCall (fun _ => True) (activatePwle num totalDuration)
      (fun _ _ v => v.durations = (totalDuration + maxColdStartLatencyMs) :: before) n w := by
  have ends (i : Nat) : (Entry.deactivate i).duration = none := rfl
  have scaled : (setEffectAmplitude num voltageScaleMax.toNat voltageScaleMax.toNat).All (Act.Unseen Entry.duration) :=
    all_tryPut fun _ _ _ _ _ => rfl
  apply wp_seq (wp_unseen ends now scaled)
  intro _ m v _ now
  apply wp_put_unseen ends now fun _ _ _ _ _ => rfl
  intro m v now
  apply wp_put_seen ends now fun _ _ _ _ _ => rfl
  intro m v now
  apply wp_put_unseen ends now fun _ _ _ _ _ => rfl
  intro m v now
  exact wp_unseen ends now (all_startTask trivial trivial)

theorem wp_composePwle_duration (composite : List PrimitivePwle) :
    wpCall (fun _ => True) (composePwle num composite) (fun status _ v => status = .ok →
      ∃ s, w.members.pwleQueue num composite = .ok s ∧
        v.durations = (s.totalDuration + maxColdStartLatencyMs) :: w.durations) n w := by
  have ends (i : Nat) : (Entry.deactivate i).duration = none := rfl
  apply wp_composePwle_accepted
  intro is s
  apply wp_seq (wp_unseen ends (World.seen_progress ends w is) (all_tryPut fun _ _ _ _ _ => rfl))
  intro status k v _ now
  apply wp_ite
  · exact fun _ => wp_mono (wp_activatePwle_duration _ now) fun _ _ _ _ now _ => now
  · exact fun failed => ⟨trivial, fun fine => absurd fine failed⟩

end Written

theorem Members.strokes_duration (m : Members) {composite : List PrimitivePwle} (valid : ∀ e ∈ composite, e.Valid)
    (level frequency : Rat) :
    ∀ k ∈ m.strokes level frequency composite, 0 ≤ k.duration ∧ k.duration ≤ composePwlePrimitiveDurationMaxMs := by
  induction composite generalizing level frequency with
  | nil => exact fun k none => absurd none List.not_mem_nil
  | cons e composite ih =>
    obtain ⟨first, rest⟩ := List.forall_mem_cons.mp valid
    cases e with
    | active p =>
      have one : ∀ k ∈ (m.clip p).strokes level frequency,
          0 ≤ k.duration ∧ k.duration ≤ composePwlePrimitiveDurationMaxMs := by
        intro k here
        simp only [ActivePwle.strokes] at here
        split at here
        · rw [List.mem_singleton.mp here]
          exact first.duration
        · rcases List.mem_pair.mp here with rfl | rfl
          · exact ⟨Int.le_refl _, (by decide : 0 ≤ composePwlePrimitiveDurationMaxMs)⟩
          · exact first.duration
      intro k here
      rcases List.mem_append.mp here with here | here
      · exact one k here
      · exact ih rest _ _ k here
    | braking p => exact List.forall_mem_cons.mpr ⟨⟨first.2, first.1.duration⟩, ih rest _ _⟩

theorem Members.exists_braking_stroke (m : Members) {composite : List PrimitivePwle} {b : BrakingPwle}
    (here : .braking b ∈ composite) (level frequency : Rat) :
    ∃ k ∈ m.strokes level frequency composite, k.duration = b.duration := by
  induction composite generalizing level frequency with
  | nil => exact absurd here List.not_mem_nil
  | cons e composite ih =>
    rcases List.mem_cons.mp here with rfl | later
    · exact ⟨_, List.mem_cons_self, rfl⟩
    · cases e with
      | active p =>
        obtain ⟨k, inside, same⟩ := ih later _ _
        exact ⟨k, List.mem_append_right _ inside, same⟩
      | braking p =>
        obtain ⟨k, inside, same⟩ := ih later _ _
        exact ⟨k, List.mem_cons_of_mem _ inside, same⟩

/-- The limit on the text leaves no room for so many segments that their durations wrap around. -/
theorem toNat_totalDuration {num : Numbers} {m : Members} {ks : List Stroke}
    (short : (ks.foldl (Pwle.add num) m.pwleStart).pwleQueue.length ≤ cs40l2xPwleLengthMax)
    (bounded : ∀ d ∈ ks.map Stroke.duration, 0 ≤ d ∧ d ≤ composePwlePrimitiveDurationMaxMs) :
    (((ks.foldl (Pwle.add num) m.pwleStart).totalDuration + maxColdStartLatencyMs).toNat : Int) =
      (ks.map Stroke.duration).sum + maxColdStartLatencyMs.toNat := by
  have count : ks.length ≤ 157 := by
    have := textSize_ge num 0 ks
    have := length_strokes_text num m.pwleStart ks
    have start : m.pwleStart.segmentIdx = 0 := rfl
    have limit : cs40l2xPwleLengthMax = 4094 := rfl
    rw [start] at this
    omega
  have lower : 0 ≤ (ks.map Stroke.duration).sum := List.sum_nonneg fun d here => (bounded d here).1
  have upper : (ks.map Stroke.duration).sum ≤ ks.length * 999 := by
    have := List.sum_le_card_nsmul _ _ fun d here => (bounded d here).2
    rw [List.length_map, nsmul_eq_mul] at this
    exact this
  rw [totalDuration_strokes, show m.pwleStart.totalDuration = 0#32 from rfl, BitVec.zero_add, BitVec.toNat_add,
    BitVec.toNat_ofInt]
  have latency : maxColdStartLatencyMs.toNat = 6 := rfl
  omega

/-- What an accepted composition writes: its segments have durations in range that add up to the duration, with the
latency, if and only if no braking primitive has a negative duration. -/
theorem composePwle_durations_iff {num : Numbers} (prints : num.PrintsLevels) (io : Nat → Outcome) (w : World)
    (composite : List PrimitivePwle) (accepted : (exec perform io (composePwle num composite) 0 w).1 = .ok) :
    ∃ text segments duration,
      (exec perform io (composePwle num composite) 0 w).2.pwles = text :: w.pwles ∧
      (exec perform io (composePwle num composite) 0 w).2.durations = duration :: w.durations ∧
      parsePwle text = some segments ∧
      ((∀ g ∈ segments, 0 ≤ g.duration ∧ g.duration ≤ composePwlePrimitiveDurationMaxMs) ∧
          (duration.toNat : Int) = (segments.map (·.duration)).sum + maxColdStartLatencyMs.toNat ↔
        ∀ b, .braking b ∈ composite → 0 ≤ b.duration) := by
  obtain ⟨_, written⟩ := exec_post (wp_composePwle_written composite) fun i => (trivial : (fun _ => True) (io i))
  obtain ⟨_, timed⟩ := exec_post (wp_composePwle_duration composite) fun i => (trivial : (fun _ => True) (io i))
  obtain ⟨s, queue, pwles⟩ := written accepted
  obtain ⟨t, again, durations⟩ := timed accepted
  cases queue.symm.trans again
  obtain ⟨⟨-, -, -, taken⟩, rfl, short⟩ := (pwleQueue_eq_ok_iff composite s).mp queue
  refine ⟨_, _, _, pwles, durations, parse_strokes prints _, ?_⟩
  have inside (P : Int → Prop) : (∀ g ∈ numbered num 0 (w.members.allStrokes composite), P g.duration) ↔
      ∀ d ∈ (w.members.allStrokes composite).map Stroke.duration, P d := by
    rw [← durations_numbered num 0, List.forall_mem_map]
  rw [inside fun d => 0 ≤ d ∧ d ≤ composePwlePrimitiveDurationMaxMs, durations_numbered]
  constructor
  · rintro ⟨bounded, -⟩ b here
    obtain ⟨k, stroke, same⟩ := w.members.exists_braking_stroke here 0 w.members.mResonantFrequency
    exact same ▸ (bounded _ (List.mem_map_of_mem stroke)).1
  · intro nonneg
    have valid : ∀ e ∈ composite, e.Valid := by
      intro e here
      cases e with
      | active a => exact taken _ here
      | braking b => exact ⟨taken _ here, nonneg b here⟩
    have bounded : ∀ d ∈ (w.members.allStrokes composite).map Stroke.duration,
        0 ≤ d ∧ d ≤ composePwlePrimitiveDurationMaxMs :=
      List.forall_mem_map.mpr (w.members.strokes_duration valid 0 w.members.mResonantFrequency)
    exact ⟨bounded, toNat_totalDuration short bounded⟩

def Sample.stopped : List PrimitivePwle := Sample.ramp ++ [.braking ⟨1, 5⟩]

theorem composePwle_durations_sample :
    ∃ text segments duration,
      (exec perform (fun _ => Sample.smooth) (composePwle Sample.levels Sample.stopped) 0
        (World.start Sample.members)).2.pwles = [text] ∧
      (exec perform (fun _ => Sample.smooth) (composePwle Sample.levels Sample.stopped) 0
        (World.start Sample.members)).2.durations = [duration] ∧
      parsePwle text = some segments ∧
      (∀ g ∈ segments, 0 ≤ g.duration ∧ g.duration ≤ composePwlePrimitiveDurationMaxMs) ∧
      (duration.toNat : Int) = (segments.map (·.duration)).sum + maxColdStartLatencyMs.toNat := by
  obtain ⟨text, segments, duration, pwles, durations, parsed, valid⟩ :=
    composePwle_durations_iff Sample.levels_prints (fun _ => Sample.smooth) (World.start Sample.members)
      Sample.stopped (by decide +kernel)
  refine ⟨text, segments, duration, pwles, durations, parsed, valid.mpr ?_⟩
  simp [Sample.stopped, Sample.ramp]

/-- 10 ms less than nothing are written as they are, and with the latency as more than 49 days. -/
theorem composePwle_negative_duration :
    (exec perform (fun _ => Sample.smooth) (composePwle Sample.levels [.braking ⟨1, -10⟩]) 0
      (World.start Sample.members)).1 = .ok ∧
    (exec perform (fun _ => Sample.smooth) (composePwle Sample.levels [.braking ⟨1, -10⟩]) 0
      (World.start Sample.members)).2.pwles =
        ["S:0,WF:4,RP:0,WT:0,T0:-10,L0:0,F0:145,C0:0,B0:1,AR0:0,V0:0"] ∧
    (exec perform (fun _ => Sample.smooth) (composePwle Sample.levels [.braking ⟨1, -10⟩]) 0
      (World.start Sample.members)).2.durations = [4294967292] := by
  decide +kernel

end Pdx215.Vibrator
