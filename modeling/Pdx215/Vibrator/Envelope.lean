import Pdx215.Lib.Fields
import Pdx215.Vibrator.Rules

/-! The text that `composePwle` writes, read back. A segment stands for a ramp from where the last one ended. A start
point is left out if the envelope is there already. What is played is then the same as with all of them. -/
namespace Pdx215.Vibrator

open Effect Fields

/-! ### Segments -/

/-- Level and frequency as they are printed. -/
structure Point where
  level : String
  frequency : String
  deriving DecidableEq, Repr

/-- The fields that say how the level is reached. -/
structure Drive where
  c : String
  b : String
  ar : String
  v : String
  deriving DecidableEq, Repr

structure Segment where
  number : Nat
  duration : Int
  target : Point
  drive : Drive
  deriving DecidableEq, Repr

def Segment.fields (g : Segment) : List Field :=
  [⟨"T", some g.number, toString g.duration⟩, ⟨"L", some g.number, g.target.level⟩,
    ⟨"F", some g.number, g.target.frequency⟩, ⟨"C", some g.number, g.drive.c⟩, ⟨"B", some g.number, g.drive.b⟩,
    ⟨"AR", some g.number, g.drive.ar⟩, ⟨"V", some g.number, g.drive.v⟩]

def readSegment (t l f c b ar v : Field) : Option Segment := do
  let number ← t.number
  let duration ← readInt t.value
  let g : Segment := ⟨number, duration, ⟨l.value, f.value⟩, ⟨c.value, b.value, ar.value, v.value⟩⟩
  if g.fields = [t, l, f, c, b, ar, v] then some g else none

def readSegments : List Field → Option (List Segment)
  | [] => some []
  | t :: l :: f :: c :: b :: ar :: v :: rest => do
    let g ← readSegment t l f c b ar v
    let gs ← readSegments rest
    some (g :: gs)
  | _ => none

/-- `S:0,WF:4,RP:0,WT:0`. -/
def header : List Field := [⟨"S", none, "0"⟩, ⟨"WF", none, "4"⟩, ⟨"RP", none, "0"⟩, ⟨"WT", none, "0"⟩]

def parsePwle (text : String) : Option (List Segment) := do
  let fields ← parse text
  if fields.take header.length = header then readSegments (fields.drop header.length) else none

theorem readSegment_fields (g : Segment) :
    readSegment ⟨"T", some g.number, toString g.duration⟩ ⟨"L", some g.number, g.target.level⟩
      ⟨"F", some g.number, g.target.frequency⟩ ⟨"C", some g.number, g.drive.c⟩ ⟨"B", some g.number, g.drive.b⟩
      ⟨"AR", some g.number, g.drive.ar⟩ ⟨"V", some g.number, g.drive.v⟩ = some g := by
  simp only [readSegment, readInt_toString]
  exact if_pos rfl

theorem readSegments_fields (gs : List Segment) : readSegments (gs.flatMap Segment.fields) = some gs := by
  induction gs with
  | nil => rfl
  | cons g gs ih =>
    simp only [List.flatMap_cons, Segment.fields, List.cons_append, List.nil_append, readSegments,
      readSegment_fields]
    rw [ih]
    rfl

/-! ### What is played -/

structure Ramp where
  start : Point
  stop : Point
  duration : Int
  drive : Drive
  deriving DecidableEq, Repr

def ramps : Point → List Segment → List Ramp
  | _, [] => []
  | p, g :: gs => ⟨p, g.target, g.duration, g.drive⟩ :: ramps g.target gs

def endPoint (p : Point) (gs : List Segment) : Point := gs.foldl (fun _ g => g.target) p

def played (p : Point) (gs : List Segment) : List Ramp := (ramps p gs).filter fun r => 0 < r.duration

theorem ramps_append (p : Point) (gs hs : List Segment) :
    ramps p (gs ++ hs) = ramps p gs ++ ramps (endPoint p gs) hs := by
  induction gs generalizing p with
  | nil => rfl
  | cons g gs ih => exact congrArg (_ :: ·) (ih g.target)

theorem played_append (p : Point) (gs hs : List Segment) :
    played p (gs ++ hs) = played p gs ++ played (endPoint p gs) hs := by
  rw [played, ramps_append, List.filter_append]
  rfl

theorem endPoint_append (p : Point) (gs hs : List Segment) : endPoint p (gs ++ hs) = endPoint (endPoint p gs) hs :=
  List.foldl_append

theorem endPoint_snoc (p : Point) (gs : List Segment) (g : Segment) : endPoint p (gs ++ [g]) = g.target :=
  endPoint_append p gs [g]

/-- A segment without duration is not played by itself, it only moves the point. -/
theorem played_jump (p : Point) (gs : List Segment) {g : Segment} (jump : g.duration = 0) (h : Segment) :
    played p (gs ++ [g] ++ [h]) = played p gs ++ played g.target [h] := by
  have silent : played (endPoint p gs) [g] = [] := by simp [played, ramps, jump]
  rw [played_append, played_append, silent, List.append_nil, endPoint_snoc]

/-! ### The plain encoding -/

/-- The start point is always written. -/
def Pwle.addActivePlain (num : Numbers) (s : Pwle) (a : ActivePwle) : Pwle :=
  let s := s.segment fun i => constructActiveSegment num i 0 a.startAmplitude a.startFrequency
  { s.segment fun i => constructActiveSegment num i a.duration a.endAmplitude a.endFrequency with
    prevEndAmplitude := a.endAmplitude
    prevEndFrequency := a.endFrequency
    totalDuration := s.totalDuration + BitVec.ofInt 32 a.duration }

def Members.plainStep (num : Numbers) (m : Members) (s : Pwle) : PrimitivePwle → Except Status Pwle
  | .active p => do
    let a ← m.checkActive p
    .ok (s.addActivePlain num a)
  | .braking p => do
    let b ← checkBraking p
    .ok (s.addBraking b)

/-- How the stream prints levels: the literal 0 of a braking segment is also how the level 0 is printed, and the
separator does not occur. -/
structure Numbers.PrintsLevels (num : Numbers) : Prop where
  zero : num.printLevel 0 = "0"
  plain : ∀ level, ',' ∉ (num.printLevel level).toList

def Numbers.point (num : Numbers) (level frequency : Rat) : Point :=
  ⟨num.printLevel level, toString (lround frequency)⟩

def activeSegment (num : Numbers) (number : Nat) (duration : Int) (amplitude frequency : Rat) : Segment :=
  ⟨number, duration, num.point amplitude frequency, ⟨"1", "0", "0", "0"⟩⟩

def brakingSegment (number : Nat) (duration braking : Int) (frequency : Rat) : Segment :=
  ⟨number, duration, ⟨"0", toString (lround frequency)⟩, ⟨"0", toString braking, "0", "0"⟩⟩

theorem extend_field (text name : String) (number : Nat) (value : String) (fields : List Field) :
    extend text (⟨name, some number, value⟩ :: fields) = extend (text ++ field name number value) fields := by
  simp only [extend, List.foldl_cons, Field.print, field, String.append_assoc]

theorem extend_activeSegment (num : Numbers) (text : String) (number : Nat) (duration : Int)
    (amplitude frequency : Rat) :
    extend text (activeSegment num number duration amplitude frequency).fields =
      text ++ constructActiveSegment num number duration amplitude frequency := by
  simp only [Segment.fields, activeSegment, Numbers.point, extend_field, constructActiveSegment,
    constructActiveDefaults, String.append_assoc]
  rfl

theorem extend_brakingSegment (text : String) (number : Nat) (duration braking : Int) (frequency : Rat) :
    extend text (brakingSegment number duration braking frequency).fields =
      text ++ constructBrakingSegment number duration braking frequency := by
  simp only [Segment.fields, brakingSegment, extend_field, constructBrakingSegment, String.append_assoc]
  rfl

structure Segment.Plain (g : Segment) : Prop where
  level : ',' ∉ g.target.level.toList
  frequency : ',' ∉ g.target.frequency.toList
  c : ',' ∉ g.drive.c.toList
  b : ',' ∉ g.drive.b.toList
  ar : ',' ∉ g.drive.ar.toList
  v : ',' ∉ g.drive.v.toList

theorem Segment.Plain.fields {g : Segment} (plain : g.Plain) : ∀ f ∈ g.fields, f.Plain := by
  have named (name : String) (alpha : name.toList.all Char.isAlpha = true) {value : String}
      (separate : ',' ∉ value.toList) : Field.Plain ⟨name, some g.number, value⟩ :=
    ⟨List.all_eq_true.mp alpha, separate⟩
  simp only [Segment.fields, List.forall_mem_cons, List.not_mem_nil, false_implies, implies_true, and_true]
  exact ⟨named "T" (by decide) (comma_not_mem_toString_int _), named "L" (by decide) plain.level,
    named "F" (by decide) plain.frequency, named "C" (by decide) plain.c, named "B" (by decide) plain.b,
    named "AR" (by decide) plain.ar, named "V" (by decide) plain.v⟩

theorem plain_activeSegment {num : Numbers} (prints : num.PrintsLevels) (number : Nat) (duration : Int)
    (amplitude frequency : Rat) : (activeSegment num number duration amplitude frequency).Plain := by
  have zero : ',' ∉ "0".toList := by decide
  have one : ',' ∉ "1".toList := by decide
  exact ⟨prints.plain amplitude, comma_not_mem_toString_int _, one, zero, zero, zero⟩

theorem plain_brakingSegment (number : Nat) (duration braking : Int) (frequency : Rat) :
    (brakingSegment number duration braking frequency).Plain := by
  have zero : ',' ∉ "0".toList := by decide
  exact ⟨zero, comma_not_mem_toString_int _, zero, comma_not_mem_toString_int _, zero, zero⟩

structure Pwle.Written (s : Pwle) (gs : List Segment) : Prop where
  text : s.pwleQueue = extend "S:0,WF:4,RP:0,WT:0" (gs.flatMap Segment.fields)
  count : s.segmentIdx = gs.length
  numbers : gs.map (·.number) = List.range gs.length
  plain : ∀ g ∈ gs, g.Plain

theorem Pwle.Written.segment {s : Pwle} {gs : List Segment} (written : s.Written gs) {text : Nat → String}
    {g : Segment} (prints : extend s.pwleQueue g.fields = s.pwleQueue ++ text s.segmentIdx)
    (numbered : g.number = s.segmentIdx) (plain : g.Plain) : (s.segment text).Written (gs ++ [g]) where
  text := by
    have more : extend "S:0,WF:4,RP:0,WT:0" ((gs ++ [g]).flatMap Segment.fields) = extend s.pwleQueue g.fields := by
      rw [written.text, List.flatMap_append, List.flatMap_singleton]
      exact List.foldl_append
    rw [more, prints]
    rfl
  count := by
    rw [List.length_append]
    exact congrArg (· + 1) written.count
  numbers := by
    rw [List.map_append, written.numbers, List.length_append, List.map_singleton, numbered, written.count,
      List.length_singleton, List.range_succ]
  plain := by
    intro h here
    rcases List.mem_append.mp here with before | last
    · exact written.plain h before
    · rw [List.mem_singleton.mp last]
      exact plain

theorem written_start (m : Members) : m.pwleStart.Written [] :=
  ⟨rfl, rfl, rfl, fun _ none => absurd none List.not_mem_nil⟩

theorem parse_header : parse "S:0,WF:4,RP:0,WT:0" = some header := by decide

theorem Pwle.Written.parse {s : Pwle} {gs : List Segment} (written : s.Written gs) :
    parsePwle s.pwleQueue = some gs := by
  have plain : ∀ f ∈ gs.flatMap Segment.fields, f.Plain := by
    intro f here
    obtain ⟨g, inside, here⟩ := List.mem_flatMap.mp here
    exact (written.plain g inside).fields f here
  rw [parsePwle, written.text, parse_extend parse_header plain]
  simp [readSegments_fields]

theorem Pwle.Written.congr {s t : Pwle} {gs : List Segment} (written : s.Written gs)
    (text : t.pwleQueue = s.pwleQueue) (count : t.segmentIdx = s.segmentIdx) : t.Written gs :=
  ⟨text.trans written.text, count.trans written.count, written.numbers, written.plain⟩

/-! ### The two encoders side by side -/

/-- The encoder and the plain one after the same primitives. The point that the segments lead to is the one that
`prevEndAmplitude` and `prevEndFrequency` stand for. -/
structure Follows (num : Numbers) (p : Point) (s t : Pwle) (gs hs : List Segment) : Prop where
  written : s.Written gs
  plain : t.Written hs
  frequency : t.prevEndFrequency = s.prevEndFrequency
  reached : endPoint p gs = num.point s.prevEndAmplitude s.prevEndFrequency
  same : played p hs = played p gs
  stops : endPoint p hs = endPoint p gs

theorem Pwle.Written.braking {s : Pwle} {gs : List Segment} (written : s.Written gs) (b : BrakingPwle) :
    (s.addBraking b).Written (gs ++ [brakingSegment s.segmentIdx b.duration b.braking s.prevEndFrequency]) := by
  have added : (s.segment fun i => constructBrakingSegment i b.duration b.braking s.prevEndFrequency).Written
      (gs ++ [brakingSegment s.segmentIdx b.duration b.braking s.prevEndFrequency]) :=
    written.segment (extend_brakingSegment ..) rfl (plain_brakingSegment ..)
  exact added.congr rfl rfl

section Steps

variable {num : Numbers} (prints : num.PrintsLevels) {m : Members} {p : Point} {s t : Pwle} {gs hs : List Segment}

include prints

theorem Pwle.Written.active (written : s.Written gs) (duration : Int) (amplitude frequency : Rat) :
    (s.segment fun i => constructActiveSegment num i duration amplitude frequency).Written
      (gs ++ [activeSegment num s.segmentIdx duration amplitude frequency]) :=
  written.segment (extend_activeSegment ..) rfl (plain_activeSegment prints ..)

theorem Follows.active (follows : Follows num p s t gs hs) (a : ActivePwle) :
    ∃ gs' hs', Follows num p (s.addActive num a) (t.addActivePlain num a) gs' hs' := by
  have plain := (follows.plain.active prints 0 a.startAmplitude a.startFrequency).active prints a.duration
    a.endAmplitude a.endFrequency
  by_cases held : a.startAmplitude = s.prevEndAmplitude ∧ a.startFrequency = s.prevEndFrequency
  · have written := follows.written.active prints a.duration a.endAmplitude a.endFrequency
    -- the start point of the plain encoding is where the envelope is already
    have there : num.point a.startAmplitude a.startFrequency = endPoint p gs := by
      rw [held.1, held.2, follows.reached]
    have skip : ¬ ¬ (a.startAmplitude = s.prevEndAmplitude ∧ a.startFrequency = s.prevEndFrequency) :=
        not_not.mpr held
    refine ⟨_, _, written.congr ?_ ?_, plain.congr rfl rfl, rfl, endPoint_snoc .., ?_, ?_⟩
    · rw [Pwle.addActive, if_neg skip]
    · rw [Pwle.addActive, if_neg skip]
    · rw [played_jump p hs rfl, played_append, follows.same]
      exact congrArg (fun q => played p gs ++ played q _) there
    · rw [endPoint_snoc, endPoint_snoc]
      rfl
  · have written := (follows.written.active prints 0 a.startAmplitude a.startFrequency).active prints a.duration
      a.endAmplitude a.endFrequency
    refine ⟨_, _, written.congr ?_ ?_, plain.congr rfl rfl, rfl, endPoint_snoc .., ?_, ?_⟩
    · rw [Pwle.addActive, if_pos held]
    · rw [Pwle.addActive, if_pos held]
    · rw [played_jump p hs rfl, played_jump p gs rfl, follows.same]
      rfl
    · rw [endPoint_snoc, endPoint_snoc]
      rfl

theorem Follows.braking (follows : Follows num p s t gs hs) (b : BrakingPwle) :
    ∃ gs' hs', Follows num p (s.addBraking b) (t.addBraking b) gs' hs' := by
  refine ⟨_, _, follows.written.braking b, follows.plain.braking b, follows.frequency, ?_, ?_, ?_⟩
  · rw [endPoint_snoc]
    exact congrArg (Point.mk · _) prints.zero.symm
  · rw [played_append, played_append, follows.same, follows.stops, follows.frequency]
    rfl
  · rw [endPoint_snoc, endPoint_snoc, follows.frequency]
    rfl

theorem Follows.step (follows : Follows num p s t gs hs) {e : PrimitivePwle} {s' : Pwle}
    (taken : m.pwleStep num s e = .ok s') :
    ∃ t' gs' hs', m.plainStep num t e = .ok t' ∧ Follows num p s' t' gs' hs' := by
  cases e with
  | active a =>
    simp only [Members.pwleStep] at taken
    simp only [Members.plainStep]
    cases checked : m.checkActive a with
    | error status =>
      rw [checked] at taken
      cases taken
    | ok a =>
      rw [checked] at taken
      cases taken
      obtain ⟨gs', hs', follows⟩ := follows.active prints a
      exact ⟨_, gs', hs', rfl, follows⟩
  | braking b =>
    simp only [Members.pwleStep] at taken
    simp only [Members.plainStep]
    cases checked : checkBraking b with
    | error status =>
      rw [checked] at taken
      cases taken
    | ok b =>
      rw [checked] at taken
      cases taken
      obtain ⟨gs', hs', follows⟩ := follows.braking prints b
      exact ⟨_, gs', hs', rfl, follows⟩

theorem Follows.run (follows : Follows num p s t gs hs) {composite : List PrimitivePwle} {s' : Pwle}
    (taken : composite.foldlM (m.pwleStep num) s = .ok s') :
    ∃ t' gs' hs', composite.foldlM (m.plainStep num) t = .ok t' ∧ Follows num p s' t' gs' hs' := by
  induction composite generalizing s t gs hs with
  | nil =>
    cases taken
    exact ⟨t, gs, hs, rfl, follows⟩
  | cons e composite ih =>
    rw [List.foldlM_cons] at taken
    cases first : m.pwleStep num s e with
    | error status =>
      rw [first] at taken
      cases taken
    | ok next =>
      rw [first] at taken
      obtain ⟨t', gs', hs', plain, follows⟩ := follows.step prints first
      obtain ⟨t'', gs'', hs'', rest, follows⟩ := ih follows taken
      refine ⟨t'', gs'', hs'', ?_, follows⟩
      rw [List.foldlM_cons, plain]
      exact rest

end Steps

/-! ### What reaches the driver -/

def Entry.pwle : Entry → Option String
  | .service _ (.setPwle text) true _ _ _ => some text
  | _ => none

def World.pwles (w : World) : List String := w.log.filterMap Entry.pwle

def Act.Spares (a : Act) : Prop := ∀ text, a ≠ .write (.setPwle text)

theorem World.pwles_progress (w : World) (is : List Nat) : (w.progress is).pwles = w.pwles :=
  World.seen_progress (fun _ => rfl) w is

theorem Act.Spares.pwles {a : Act} (spares : a.Spares) (o : Outcome) (w : World) :
    (perform a o w).2.pwles = w.pwles := by
  have before := w.pwles_progress o.tasks
  cases a with
  | write op =>
    cases op with
    | setPwle text => exact absurd rfl (spares text)
    | _ => exact before
  | assign => exact (World.pwles_progress _ _).trans before
  | _ => exact before

section Written

variable {num : Numbers} {m : Members} {n : Nat} {w : World}

theorem spares_activatePwle (totalDuration : BitVec 32) : (activatePwle num totalDuration).All Act.Spares := by
  have write (op : HwWrite) (starts : op.Starts) : (Act.write op).Spares := by
    rintro text ⟨⟩
    exact starts
  exact all_activatePwle write nofun nofun totalDuration

theorem pwleStep_ne_error_ok (s : Pwle) (e : PrimitivePwle) : m.pwleStep num s e ≠ .error .ok := by
  intro failed
  cases e with
  | active a =>
    simp only [Members.pwleStep, Members.checkActive] at failed
    split_ifs at failed <;> cases failed
  | braking b =>
    simp only [Members.pwleStep, checkBraking] at failed
    split_ifs at failed <;> cases failed

theorem pwleSteps_ne_error_ok (composite : List PrimitivePwle) (s : Pwle) :
    composite.foldlM (m.pwleStep num) s ≠ .error .ok := by
  induction composite generalizing s with
  | nil => nofun
  | cons e composite ih =>
    rw [List.foldlM_cons]
    cases first : m.pwleStep num s e with
    | error status =>
      rintro ⟨⟩
      exact pwleStep_ne_error_ok s e first
    | ok next => exact ih next

theorem pwleQueue_cases (composite : List PrimitivePwle) :
    (∃ status, status ≠ .ok ∧ m.pwleQueue num composite = .error status) ∨
      m.pwleQueue num composite = composite.foldlM (m.pwleStep num) m.pwleStart := by
  simp only [Members.pwleQueue]
  split
  · exact .inl ⟨.unsupportedOperation, by decide, rfl⟩
  split
  · exact .inl ⟨.illegalArgument, by decide, rfl⟩
  cases composite.foldlM (m.pwleStep num) m.pwleStart with
  | error status => exact .inr rfl
  | ok s =>
    by_cases long : cs40l2xPwleLengthMax < s.pwleQueue.length
    · exact .inl ⟨.illegalState, by decide, if_pos long⟩
    · exact .inr (if_neg long)

theorem pwleQueue_ne_error_ok (composite : List PrimitivePwle) : m.pwleQueue num composite ≠ .error .ok := by
  intro failed
  rcases pwleQueue_cases composite with ⟨status, other, refused⟩ | steps
  · cases refused.symm.trans failed
    exact other rfl
  · exact pwleSteps_ne_error_ok composite _ (steps.symm.trans failed)

theorem wp_tryPut_pwle (text : String) {before : List String} (now : w.pwles = before) :
    wpCall (fun _ => True) (tryPut (.setPwle text)) (fun status _ v => status = .ok → v.pwles = text :: before)
      n w := by
  refine ⟨trivial, fun o _ => ?_⟩
  have answered (ok : Bool) : wpCall (fun _ => True) (.ret (if ok then Status.ok else .illegalState))
      (fun status _ v => status = .ok → v.pwles = text :: before) (n + 1)
      ((w.progress o.tasks).write (.setPwle text) ok) := by
    cases ok with
    | false => exact ⟨trivial, nofun⟩
    | true => exact ⟨trivial, fun _ => congrArg (text :: ·) ((w.pwles_progress o.tasks).trans now)⟩
  exact answered (o.write (.setPwle text))

/-- For a composition that is accepted only what comes after the checks matters. -/
theorem wp_composePwle_accepted {composite : List PrimitivePwle} {ended : Pwle → World → Prop}
    (queued : ∀ o s, wpCall (fun _ => True) (orReturn (tryPut (.setPwle s.pwleQueue)) (activatePwle num s.totalDuration))
      (fun status _ v => status = .ok → ended s v) (n + 1) (w.progress o)) :
    wpCall (fun _ => True) (composePwle num composite) (fun status _ v => status = .ok →
      ∃ s, w.members.pwleQueue num composite = .ok s ∧ ended s v) n w := by
  apply wp_load
  intro o _
  rw [World.progress_members]
  cases queue : w.members.pwleQueue num composite with
  | error status =>
    refine ⟨trivial, fun fine => ?_⟩
    subst fine
    exact absurd queue (pwleQueue_ne_error_ok composite)
  | ok s => exact wp_mono (queued o.tasks s) fun _ _ _ _ done fine => ⟨s, rfl, done fine⟩

theorem wp_composePwle_written (composite : List PrimitivePwle) :
    wpCall (fun _ => True) (composePwle num composite) (fun status _ v => status = .ok →
      ∃ s, w.members.pwleQueue num composite = .ok s ∧ v.pwles = s.pwleQueue :: w.pwles) n w := by
  apply wp_composePwle_accepted
  intro is s
  apply wp_seq (wp_tryPut_pwle s.pwleQueue (w.pwles_progress is))
  intro status k v _ now
  apply wp_ite
  · intro fine
    have keeps (a : Act) (spares : a.Spares) (o : Outcome) (u : World) (same : u.pwles = s.pwleQueue :: w.pwles) :
        (perform a o u).2.pwles = s.pwleQueue :: w.pwles := (spares.pwles o u).trans same
    exact wp_mono (wp_kept (spares_activatePwle _) keeps (now fine)) fun _ _ _ _ now _ => now
  · exact fun failed => ⟨trivial, fun fine => absurd fine failed⟩

end Written

namespace Sample

def levels : Numbers where
  amplitudeToScale := fun _ _ => 0
  printLevel := fun level => if level = 0 then "0" else "0.5"

theorem levels_prints : levels.PrintsLevels where
  zero := rfl
  plain := by
    intro level
    simp only [levels]
    split <;> decide

end Sample

end Pdx215.Vibrator
