import Mathlib.Tactic.MkIffOfInductiveProp
import Pdx215.Vibrator.Envelope

/-! The segments of a composition as numbers, before they are printed. `composePwle` prints these strokes one after
the other, so that what it writes can be counted, measured and added up on them. -/
namespace Pdx215.Vibrator

open Effect Fields

inductive Stroke where
  | active (duration : Int) (level frequency : Rat)
  | braking (duration kind : Int) (frequency : Rat)
  deriving DecidableEq, Repr

namespace Stroke

def duration : Stroke → Int
  | .active duration _ _ | .braking duration _ _ => duration

/-- A braking segment leads to level 0. -/
def level : Stroke → Rat
  | .active _ level _ => level
  | .braking _ _ _ => 0

def frequency : Stroke → Rat
  | .active _ _ frequency | .braking _ _ frequency => frequency

def text (num : Numbers) (k : Stroke) (segmentIdx : Nat) : String :=
  match k with
  | .active duration level frequency => constructActiveSegment num segmentIdx duration level frequency
  | .braking duration kind frequency => constructBrakingSegment segmentIdx duration kind frequency

def segment (num : Numbers) (k : Stroke) (number : Nat) : Segment :=
  match k with
  | .active duration level frequency => activeSegment num number duration level frequency
  | .braking duration kind frequency => brakingSegment number duration kind frequency

end Stroke

/-! ### The strokes of a composition -/

/-- The levels are cut down to what the amplifier takes. -/
def Members.clip (m : Members) (a : ActivePwle) : ActivePwle :=
  { a with
    startAmplitude := capTo (m.levelLimit a.startFrequency) (capTo cs40l2xPwleLevelMax a.startAmplitude)
    endAmplitude := capTo (m.levelLimit a.endFrequency) (capTo cs40l2xPwleLevelMax a.endAmplitude) }

/-- From a point where the envelope is. -/
def ActivePwle.strokes (a : ActivePwle) (level frequency : Rat) : List Stroke :=
  if a.startAmplitude = level ∧ a.startFrequency = frequency then
    [.active a.duration a.endAmplitude a.endFrequency]
  else [.active 0 a.startAmplitude a.startFrequency, .active a.duration a.endAmplitude a.endFrequency]

def Members.strokes (m : Members) : Rat → Rat → List PrimitivePwle → List Stroke
  | _, _, [] => []
  | level, frequency, .active p :: composite =>
    (m.clip p).strokes level frequency ++ m.strokes (m.clip p).endAmplitude p.endFrequency composite
  | _, frequency, .braking b :: composite =>
    .braking b.duration b.braking frequency :: m.strokes 0 frequency composite

/-- Those of a whole composition, from level 0 at the resonant frequency. -/
def Members.allStrokes (m : Members) (composite : List PrimitivePwle) : List Stroke :=
  m.strokes 0 m.mResonantFrequency composite

/-! ### Primitives that are taken -/

@[mk_iff]
structure ActivePwle.Valid (a : ActivePwle) : Prop where
  duration : 0 ≤ a.duration ∧ a.duration ≤ composePwlePrimitiveDurationMaxMs
  startAmplitude : pwleLevelMin ≤ a.startAmplitude ∧ a.startAmplitude ≤ pwleLevelMax
  endAmplitude : pwleLevelMin ≤ a.endAmplitude ∧ a.endAmplitude ≤ pwleLevelMax
  startFrequency : pwleFrequencyMinHz ≤ a.startFrequency ∧ a.startFrequency ≤ pwleFrequencyMaxHz
  endFrequency : pwleFrequencyMinHz ≤ a.endFrequency ∧ a.endFrequency ≤ pwleFrequencyMaxHz

/-- A negative duration is taken too. -/
@[mk_iff]
structure BrakingPwle.Taken (b : BrakingPwle) : Prop where
  braking : b.braking ≤ 1
  duration : b.duration ≤ composePwlePrimitiveDurationMaxMs

def PrimitivePwle.Taken : PrimitivePwle → Prop
  | .active a => a.Valid
  | .braking b => b.Taken

instance (a : ActivePwle) : Decidable a.Valid := decidable_of_iff _ (ActivePwle.valid_iff a).symm

instance (b : BrakingPwle) : Decidable b.Taken := decidable_of_iff _ (BrakingPwle.taken_iff b).symm

theorem checkActive_eq_ok_iff (m : Members) (a a' : ActivePwle) :
    m.checkActive a = .ok a' ↔ a.Valid ∧ a' = m.clip a := by
  simp only [Members.checkActive]
  by_cases duration : a.duration < 0 ∨ composePwlePrimitiveDurationMaxMs < a.duration
  · rw [if_pos duration]
    refine iff_of_false (by rintro ⟨⟩) fun taken => ?_
    have := taken.1.duration
    omega
  rw [if_neg duration]
  by_cases amplitude : a.startAmplitude < pwleLevelMin ∨ pwleLevelMax < a.startAmplitude ∨
      a.endAmplitude < pwleLevelMin ∨ pwleLevelMax < a.endAmplitude
  · rw [if_pos amplitude]
    refine iff_of_false (by rintro ⟨⟩) fun taken => ?_
    rcases amplitude with low | high | low | high
    · exact not_lt.mpr taken.1.startAmplitude.1 low
    · exact not_lt.mpr taken.1.startAmplitude.2 high
    · exact not_lt.mpr taken.1.endAmplitude.1 low
    · exact not_lt.mpr taken.1.endAmplitude.2 high
  rw [if_neg amplitude]
  by_cases frequency : a.startFrequency < pwleFrequencyMinHz ∨ pwleFrequencyMaxHz < a.startFrequency ∨
      a.endFrequency < pwleFrequencyMinHz ∨ pwleFrequencyMaxHz < a.endFrequency
  · rw [if_pos frequency]
    refine iff_of_false (by rintro ⟨⟩) fun taken => ?_
    rcases frequency with low | high | low | high
    · exact not_lt.mpr taken.1.startFrequency.1 low
    · exact not_lt.mpr taken.1.startFrequency.2 high
    · exact not_lt.mpr taken.1.endFrequency.1 low
    · exact not_lt.mpr taken.1.endFrequency.2 high
  rw [if_neg frequency]
  simp only [not_or, not_lt] at duration amplitude frequency
  have valid : a.Valid := ⟨duration, ⟨amplitude.1, amplitude.2.1⟩, amplitude.2.2, ⟨frequency.1, frequency.2.1⟩,
    frequency.2.2⟩
  constructor
  · intro accepted
    cases accepted
    exact ⟨valid, rfl⟩
  · rintro ⟨-, rfl⟩
    rfl

theorem checkBraking_eq_ok_iff (b b' : BrakingPwle) : checkBraking b = .ok b' ↔ b.Taken ∧ b' = b := by
  simp only [checkBraking]
  by_cases kind : 1 < b.braking
  · rw [if_pos kind]
    exact iff_of_false (by rintro ⟨⟩) fun taken => not_lt.mpr taken.1.braking kind
  rw [if_neg kind]
  by_cases duration : composePwlePrimitiveDurationMaxMs < b.duration
  · rw [if_pos duration]
    exact iff_of_false (by rintro ⟨⟩) fun taken => not_lt.mpr taken.1.duration duration
  rw [if_neg duration]
  constructor
  · intro accepted
    cases accepted
    exact ⟨⟨not_lt.mp kind, not_lt.mp duration⟩, rfl⟩
  · rintro ⟨-, rfl⟩
    rfl

/-! ### The encoder on strokes -/

def Pwle.add (num : Numbers) (s : Pwle) (k : Stroke) : Pwle :=
  { s.segment (k.text num) with
    prevEndAmplitude := k.level
    prevEndFrequency := k.frequency
    totalDuration := s.totalDuration + BitVec.ofInt 32 k.duration }

section Encoder

variable {num : Numbers} {m : Members}

theorem addActive_eq_foldl (s : Pwle) (a : ActivePwle) :
    s.addActive num a = (a.strokes s.prevEndAmplitude s.prevEndFrequency).foldl (Pwle.add num) s := by
  simp only [Pwle.addActive, ActivePwle.strokes]
  by_cases held : a.startAmplitude = s.prevEndAmplitude ∧ a.startFrequency = s.prevEndFrequency
  · rw [if_neg (not_not.mpr held), if_pos held]
    rfl
  · rw [if_pos held, if_neg held]
    have still : s.totalDuration + BitVec.ofInt 32 0 = s.totalDuration := BitVec.add_zero _
    simp only [List.foldl_cons, List.foldl_nil, Pwle.add, Pwle.segment, Stroke.text, Stroke.level, Stroke.frequency,
      Stroke.duration, still]

theorem pwleStep_eq_ok_iff (s s' : Pwle) (e : PrimitivePwle) :
    m.pwleStep num s e = .ok s' ↔
      e.Taken ∧ s' = (m.strokes s.prevEndAmplitude s.prevEndFrequency [e]).foldl (Pwle.add num) s := by
  cases e with
  | active p =>
    have strokes : m.strokes s.prevEndAmplitude s.prevEndFrequency [.active p] =
        (m.clip p).strokes s.prevEndAmplitude s.prevEndFrequency := List.append_nil _
    rw [strokes, ← addActive_eq_foldl]
    simp only [Members.pwleStep, PrimitivePwle.Taken]
    cases checked : m.checkActive p with
    | error status =>
      refine iff_of_false (by rintro ⟨⟩) fun taken => ?_
      cases checked.symm.trans ((checkActive_eq_ok_iff m p _).mpr ⟨taken.1, rfl⟩)
    | ok a =>
      obtain ⟨valid, rfl⟩ := (checkActive_eq_ok_iff m p a).mp checked
      constructor
      · rintro ⟨⟩
        exact ⟨valid, rfl⟩
      · rintro ⟨-, rfl⟩
        rfl
  | braking p =>
    simp only [Members.pwleStep, PrimitivePwle.Taken]
    cases checked : checkBraking p with
    | error status =>
      refine iff_of_false (by rintro ⟨⟩) fun taken => ?_
      cases checked.symm.trans ((checkBraking_eq_ok_iff p _).mpr ⟨taken.1, rfl⟩)
    | ok b =>
      obtain ⟨valid, rfl⟩ := (checkBraking_eq_ok_iff p b).mp checked
      constructor
      · rintro ⟨⟩
        exact ⟨valid, rfl⟩
      · rintro ⟨-, rfl⟩
        rfl

theorem strokes_cons (num : Numbers) (s : Pwle) (e : PrimitivePwle) (composite : List PrimitivePwle) :
    let s' := (m.strokes s.prevEndAmplitude s.prevEndFrequency [e]).foldl (Pwle.add num) s
    m.strokes s.prevEndAmplitude s.prevEndFrequency (e :: composite) =
      m.strokes s.prevEndAmplitude s.prevEndFrequency [e] ++
        m.strokes s'.prevEndAmplitude s'.prevEndFrequency composite := by
  cases e with
  | active p =>
    have strokes : m.strokes s.prevEndAmplitude s.prevEndFrequency [.active p] =
        (m.clip p).strokes s.prevEndAmplitude s.prevEndFrequency := List.append_nil _
    rw [strokes, ← addActive_eq_foldl]
    rfl
  | braking p => rfl

/-- The loop of `composePwle`: it goes through if all primitives are taken, and prints their strokes. -/
theorem pwleSteps_eq_ok_iff (composite : List PrimitivePwle) (s s' : Pwle) :
    composite.foldlM (m.pwleStep num) s = .ok s' ↔
      (∀ e ∈ composite, e.Taken) ∧
        s' = (m.strokes s.prevEndAmplitude s.prevEndFrequency composite).foldl (Pwle.add num) s := by
  induction composite generalizing s with
  | nil =>
    have all : ∀ e ∈ ([] : List PrimitivePwle), e.Taken := fun _ none => absurd none List.not_mem_nil
    constructor
    · rintro ⟨⟩
      exact ⟨all, rfl⟩
    · rintro ⟨-, rfl⟩
      rfl
  | cons e composite ih =>
    rw [strokes_cons num, List.foldl_append, List.forall_mem_cons, List.foldlM_cons]
    cases first : m.pwleStep num s e with
    | error status =>
      refine iff_of_false (by rintro ⟨⟩) fun taken => ?_
      cases first.symm.trans ((pwleStep_eq_ok_iff s _ e).mpr ⟨taken.1.1, rfl⟩)
    | ok next =>
      obtain ⟨taken, rfl⟩ := (pwleStep_eq_ok_iff s next e).mp first
      exact (ih _).trans ⟨fun rest => ⟨⟨taken, rest.1⟩, rest.2⟩, fun all => ⟨all.1.2, all.2⟩⟩

theorem pwleQueue_eq_ok_iff (composite : List PrimitivePwle) (s : Pwle) :
    m.pwleQueue num composite = .ok s ↔
      (m.mIsChirpEnabled = true ∧ composite ≠ [] ∧ composite.length ≤ m.mCompositionSizeMax % 2 ^ 64 ∧
        ∀ e ∈ composite, e.Taken) ∧
      s = (m.allStrokes composite).foldl (Pwle.add num) m.pwleStart ∧ s.pwleQueue.length ≤ cs40l2xPwleLengthMax := by
  simp only [Members.pwleQueue]
  cases chirp : m.mIsChirpEnabled with
  | false => exact iff_of_false (by rintro ⟨⟩) fun accepted => absurd accepted.1.1 (by decide)
  | true =>
    by_cases size : composite.length ≤ 0 ∨ m.mCompositionSizeMax % 2 ^ 64 < composite.length
    · rw [if_pos size]
      refine iff_of_false (by rintro ⟨⟩) fun accepted => ?_
      have := List.length_pos_iff.mpr accepted.1.2.1
      omega
    rw [if_neg size]
    simp only [not_or, not_le, not_lt] at size
    have some : composite ≠ [] := List.length_pos_iff.mp size.1
    cases steps : composite.foldlM (m.pwleStep num) m.pwleStart with
    | error status =>
      refine iff_of_false (by rintro ⟨⟩) fun accepted => ?_
      cases steps.symm.trans ((pwleSteps_eq_ok_iff composite _ s).mpr ⟨accepted.1.2.2.2, accepted.2.1⟩)
    | ok last =>
      obtain ⟨taken, reached⟩ := (pwleSteps_eq_ok_iff composite _ last).mp steps
      by_cases long : cs40l2xPwleLengthMax < last.pwleQueue.length
      · refine iff_of_false (fun accepted => ?_) fun accepted => ?_
        · cases (if_pos long).symm.trans accepted
        · exact not_lt.mpr accepted.2.2 ((accepted.2.1.trans reached.symm) ▸ long)
      · constructor
        · intro accepted
          cases (if_neg long).symm.trans accepted
          exact ⟨⟨rfl, some, size.2, taken⟩, reached, not_lt.mp long⟩
        · rintro ⟨-, same, -⟩
          rw [same.trans reached.symm]
          exact if_neg long

end Encoder

/-! ### What has been printed -/

def numbered (num : Numbers) (number : Nat) (ks : List Stroke) : List Segment :=
  (ks.zipIdx number).map fun k => k.1.segment num k.2

theorem Stroke.segment_duration (num : Numbers) (k : Stroke) (number : Nat) :
    (k.segment num number).duration = k.duration := by
  cases k <;> rfl

theorem length_numbered (num : Numbers) (number : Nat) (ks : List Stroke) :
    (numbered num number ks).length = ks.length := by
  rw [numbered, List.length_map, List.length_zipIdx]

theorem durations_numbered (num : Numbers) (number : Nat) (ks : List Stroke) :
    (numbered num number ks).map (·.duration) = ks.map Stroke.duration := by
  induction ks generalizing number with
  | nil => rfl
  | cons k ks ih => exact congrArg₂ List.cons (k.segment_duration num number) (ih (number + 1))

theorem totalDuration_strokes (num : Numbers) (s : Pwle) (ks : List Stroke) :
    (ks.foldl (Pwle.add num) s).totalDuration =
      s.totalDuration + BitVec.ofInt 32 (ks.map Stroke.duration).sum := by
  induction ks generalizing s with
  | nil => exact (BitVec.add_zero _).symm
  | cons k ks ih =>
    rw [List.foldl_cons, ih, List.map_cons, List.sum_cons, BitVec.ofInt_add, ← BitVec.add_assoc]
    rfl

section Printed

variable {num : Numbers} (prints : num.PrintsLevels) {m : Members} {s : Pwle} {gs : List Segment}

include prints

theorem Pwle.Written.add (written : s.Written gs) (k : Stroke) :
    (s.add num k).Written (gs ++ [k.segment num s.segmentIdx]) := by
  have added : (s.segment (k.text num)).Written (gs ++ [k.segment num s.segmentIdx]) := by
    cases k with
    | active duration level frequency => exact written.active prints duration level frequency
    | braking duration kind frequency =>
      exact written.segment (extend_brakingSegment ..) rfl (plain_brakingSegment ..)
  exact added.congr rfl rfl

theorem Pwle.Written.strokes (written : s.Written gs) (ks : List Stroke) :
    (ks.foldl (Pwle.add num) s).Written (gs ++ numbered num s.segmentIdx ks) := by
  induction ks generalizing s gs with
  | nil => exact (List.append_nil gs).symm ▸ written
  | cons k ks ih =>
    have rest := ih (written.add prints k)
    rw [List.append_assoc] at rest
    exact rest

theorem parse_strokes (ks : List Stroke) :
    parsePwle (ks.foldl (Pwle.add num) m.pwleStart).pwleQueue = some (numbered num 0 ks) :=
  ((written_start m).strokes prints ks).parse

end Printed

end Pdx215.Vibrator
