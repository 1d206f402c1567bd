import Pdx215.Lib.Fields
import Pdx215.Vibrator.Rejection

/-! The queue that `compose` writes: delays and effects, each with a comma behind it, and a final 0. It is read back as
what was asked for. -/
namespace Pdx215.Vibrator

open Effect Fields

/-! ### Tokens -/

inductive Token where
  | delay (ms : Int)
  | effect (index level : Nat)
  deriving DecidableEq, Repr

namespace Token

def print : Token → String
  | .delay ms => toString ms
  | .effect index level => toString index ++ "." ++ toString level

def read (text : List Char) : Option Token := do
  let token ← match text.splitOn '.' with
    | [ms] => (readInt (String.ofList ms)).map Token.delay
    | [index, level] => do
      let index ← readNat index
      let level ← readNat level
      some (.effect index level)
    | _ => none
  if token.print.toList = text then some token else none

theorem toList_print_effect (index level : Nat) :
    (Token.effect index level).print.toList = (toString index).toList ++ '.' :: (toString level).toList := by
  simp [print]

theorem read_print (token : Token) : read token.print.toList = some token := by
  cases token with
  | delay ms =>
    have single : (toString ms).toList.splitOn '.' = [(toString ms).toList] :=
      List.splitOn_eq_singleton (not_mem_toString_int (by decide) (by decide) ms)
    simp only [read, print, single, String.ofList_toList, readInt_toString]
    exact if_pos rfl
  | effect index level =>
    have pair : (Token.effect index level).print.toList.splitOn '.' =
        [(toString index).toList, (toString level).toList] := by
      rw [toList_print_effect, List.splitOn_append_cons_self,
        List.splitOn_eq_singleton (not_mem_toString (by decide) index),
        List.splitOn_eq_singleton (not_mem_toString (by decide) level)]
      rfl
    simp only [read, pair, readNat_toString]
    exact if_pos rfl

theorem comma_not_mem_print (token : Token) : ',' ∉ token.print.toList := by
  cases token with
  | delay ms => exact comma_not_mem_toString_int ms
  | effect index level =>
    rw [toList_print_effect]
    intro here
    rcases List.mem_append.mp here with here | here
    · exact comma_not_mem_toString index here
    · exact List.not_mem_cons_of_ne_of_not_mem (by decide) (comma_not_mem_toString level) here

end Token

def printTokens : List Token → String
  | [] => ""
  | token :: tokens => token.print ++ "," ++ printTokens tokens

/-- At least one token with a comma behind it, and a 0. -/
def readQueue (text : String) : Option (List Token) :=
  let parts := text.toList.splitOn ','
  if parts.getLast? = some ['0'] ∧ parts.dropLast ≠ [] then parts.dropLast.mapM Token.read else none

theorem printTokens_append (xs ys : List Token) : printTokens (xs ++ ys) = printTokens xs ++ printTokens ys := by
  induction xs with
  | nil => exact String.empty_append.symm
  | cons x xs ih => simp only [List.cons_append, printTokens, ih, String.append_assoc]

theorem splitOn_printTokens (tokens : List Token) :
    (printTokens tokens ++ "0").toList.splitOn ',' = tokens.map (·.print.toList) ++ [['0']] := by
  induction tokens with
  | nil => decide
  | cons token tokens ih =>
    have text : (printTokens (token :: tokens) ++ "0").toList =
        token.print.toList ++ ',' :: (printTokens tokens ++ "0").toList := by
      simp [printTokens]
    rw [text, List.splitOn_append_cons_self, List.splitOn_eq_singleton token.comma_not_mem_print, ih]
    rfl

theorem readQueue_printTokens {tokens : List Token} (nonempty : tokens ≠ []) :
    readQueue (printTokens tokens ++ "0") = some tokens := by
  have parts := splitOn_printTokens tokens
  have last : (tokens.map (·.print.toList) ++ [['0']]).getLast? = some ['0'] := List.getLast?_concat
  have others : (tokens.map (·.print.toList) ++ [['0']]).dropLast = tokens.map (·.print.toList) :=
    List.dropLast_concat
  have mapped : tokens.map (·.print.toList) ≠ [] := fun none => nonempty (List.map_eq_nil_iff.mp none)
  simp only [readQueue, parts, last, others]
  rw [if_pos ⟨trivial, mapped⟩]
  exact mapM_map_eq_some fun token _ => token.read_print

/-! ### Levels -/

def CompositePrimitive.volLevels (m : Members) : CompositePrimitive → VolLevels
  | .lightTick => m.mTickEffectVol
  | .quickRise | .quickFall => m.mLongEffectVol
  | _ => m.mClickEffectVol

/-- The level at a scale, as a number without width. -/
def VolLevels.scaled (v : VolLevels) (scale : Rat) : Nat :=
  v.v0.toNat + (lround (scale * (v.v1.toNat - v.v0.toNat : Nat))).toNat

structure Members.Calibrated (m : Members) : Prop where
  tick : m.mTickEffectVol.v0 ≤ m.mTickEffectVol.v1
  click : m.mClickEffectVol.v0 ≤ m.mClickEffectVol.v1
  long : m.mLongEffectVol.v0 ≤ m.mLongEffectVol.v1

theorem Members.Calibrated.volLevels {m : Members} (calibrated : m.Calibrated) (p : CompositePrimitive) :
    (p.volLevels m).v0 ≤ (p.volLevels m).v1 := by
  cases p with
  | lightTick => exact calibrated.tick
  | quickRise => exact calibrated.long
  | quickFall => exact calibrated.long
  | _ => exact calibrated.click

theorem intensityToVolLevel_eq (m : Members) (scale : Rat) {p : CompositePrimitive} {effectIndex : BitVec 32}
    (found : getPrimitiveDetails p = .ok effectIndex) :
    m.intensityToVolLevel scale effectIndex = (p.volLevels m).calc scale := by
  cases p with
  | noop => cases found
  | other value => cases found
  | _ =>
    cases found
    rfl

/-- A share of a number is rounded to at most that number. -/
theorem lround_share {scale : Rat} (lower : 0 ≤ scale) (upper : scale ≤ 1) (n : Nat) :
    0 ≤ lround (scale * n) ∧ lround (scale * n) ≤ n := by
  have share : 0 ≤ scale * n := mul_nonneg lower n.cast_nonneg
  have whole : scale * n ≤ n := mul_le_of_le_one_left n.cast_nonneg upper
  rw [lround, if_pos share]
  constructor
  · exact Int.floor_nonneg.mpr (by linarith)
  · have : ⌊scale * n + 1 / 2⌋ < (n : Int) + 1 := Int.floor_lt.mpr (by push_cast; linarith)
    omega

section Scaled

variable {v : VolLevels} (calibrated : v.v0 ≤ v.v1) {scale : Rat} (lower : 0 ≤ scale) (upper : scale ≤ 1)

include calibrated lower upper

theorem scaled_bounds : v.v0.toNat ≤ v.scaled scale ∧ v.scaled scale ≤ v.v1.toNat := by
  have order : v.v0.toNat ≤ v.v1.toNat := calibrated
  have share := lround_share lower upper (v.v1.toNat - v.v0.toNat)
  rw [VolLevels.scaled]
  omega

theorem toNat_calc : (v.calc scale).toNat = v.scaled scale := by
  have order : v.v0.toNat ≤ v.v1.toNat := calibrated
  have share := lround_share lower upper (v.v1.toNat - v.v0.toNat)
  have width := v.v1.isLt
  rw [VolLevels.calc, BitVec.toNat_sub_of_le calibrated, BitVec.toNat_ofInt, VolLevels.scaled]
  omega

end Scaled

/-! ### The tokens of a composition -/

def CompositeEffect.pause (e : CompositeEffect) : List Token := if e.delayMs ≠ 0 then [.delay e.delayMs] else []

/-- NOOP has no waveform. -/
def CompositeEffect.sound (m : Members) (e : CompositeEffect) : List Token :=
  match getPrimitiveDetails e.primitive with
  | .ok effectIndex => [.effect effectIndex.toNat ((e.primitive.volLevels m).scaled e.scale)]
  | .error _ => []

def CompositeEffect.tokens (m : Members) (e : CompositeEffect) : List Token := e.pause ++ e.sound m

/-- A delay in range, or an effect of a supported primitive at one of its levels. -/
def Token.Valid (m : Members) : Token → Prop
  | .delay ms => 1 ≤ ms ∧ ms ≤ composeDelayMaxMs
  | .effect index level => ∃ p effectIndex, getPrimitiveDetails p = .ok effectIndex ∧ index = effectIndex.toNat ∧
      (p.volLevels m).v0.toNat ≤ level ∧ level ≤ (p.volLevels m).v1.toNat

section Composed

variable {m : Members} (calibrated : m.Calibrated)

include calibrated

theorem composeEffect_eq {e : CompositeEffect} (valid : e.Valid) :
    m.composeEffect e = .ok (printTokens (e.tokens m)) := by
  obtain ⟨lower, upper, delay, known⟩ := valid
  have scale : ¬ (e.scale < 0 ∨ 1 < e.scale) := not_or.mpr ⟨not_lt.mpr lower, not_lt.mpr upper⟩
  -- what is printed behind the delay
  have behind (before : String) : (if e.primitive ≠ .noop then do
        let effectIndex ← getPrimitiveDetails e.primitive
        .ok (before ++ toString effectIndex.toNat ++ "." ++
          toString (m.intensityToVolLevel e.scale effectIndex).toNat ++ ",")
      else .ok before) = (.ok (before ++ printTokens (e.sound m)) : Except Status String) := by
    by_cases sounds : e.primitive = .noop
    · have silent : e.sound m = [] := by
        rw [CompositeEffect.sound, sounds]
        rfl
      rw [if_neg (not_not.mpr sounds), silent]
      exact congrArg Except.ok String.append_empty.symm
    · obtain ⟨effectIndex, found⟩ := getPrimitiveDetails_ok known sounds
      have level := toNat_calc (calibrated.volLevels e.primitive) lower upper
      rw [← intensityToVolLevel_eq m e.scale found] at level
      have heard : e.sound m = [.effect effectIndex.toNat (m.intensityToVolLevel e.scale effectIndex).toNat] := by
        rw [CompositeEffect.sound, found, level]
      rw [if_pos sounds, heard, found]
      exact congrArg Except.ok (by simp [printTokens, Token.print, String.append_assoc])
  simp only [Members.composeEffect, if_neg scale, if_neg (not_lt.mpr delay), CompositeEffect.tokens,
    CompositeEffect.pause]
  split
  · have text : printTokens ([.delay e.delayMs] ++ e.sound m) =
        toString e.delayMs ++ "," ++ printTokens (e.sound m) := rfl
    rw [text]
    exact behind _
  · exact (behind "").trans (congrArg Except.ok String.empty_append)

theorem composeEffects_eq {es : List CompositeEffect} (valid : ∀ e ∈ es, e.Valid) (effectQueue : String) :
    m.composeEffects es effectQueue = .ok (effectQueue ++ printTokens (es.flatMap (·.tokens m))) := by
  induction es generalizing effectQueue with
  | nil => exact congrArg Except.ok String.append_empty.symm
  | cons e es ih =>
    obtain ⟨here, later⟩ := List.forall_mem_cons.mp valid
    simp only [Members.composeEffects, composeEffect_eq calibrated here]
    rw [List.flatMap_cons, printTokens_append, ← String.append_assoc]
    exact ih later _

theorem composeQueue_text {composite : List CompositeEffect} {text : String}
    (composed : m.composeQueue composite = .ok text) :
    (∀ e ∈ composite, e.Valid) ∧ composite.flatMap (·.tokens m) ≠ [] ∧
      text = printTokens (composite.flatMap (·.tokens m)) ++ "0" := by
  by_cases accepted : (Request.compose composite).Accepted
  · obtain ⟨small, valid, -⟩ := accepted
    have effects : m.composeEffects composite "" = .ok (printTokens (composite.flatMap (·.tokens m))) :=
      (composeEffects_eq calibrated valid "").trans (congrArg Except.ok String.empty_append)
    simp only [Members.composeQueue, if_neg (not_lt.mpr small), effects] at composed
    by_cases empty : printTokens (composite.flatMap (·.tokens m)) = ""
    · cases (if_pos empty).symm.trans composed
    · cases (if_neg empty).symm.trans composed
      exact ⟨valid, fun none => empty (by rw [none]; rfl), rfl⟩
  · obtain ⟨status, refused⟩ := composeQueue_error m accepted
    cases composed.symm.trans refused

theorem valid_sound {e : CompositeEffect} (valid : e.Valid) : ∀ t ∈ e.sound m, t.Valid m := by
  intro t here
  rw [CompositeEffect.sound] at here
  split at here
  case h_1 effectIndex found =>
    rw [List.mem_singleton.mp here]
    exact ⟨_, _, found, rfl, scaled_bounds (calibrated.volLevels e.primitive) valid.1 valid.2.1⟩
  case h_2 => exact absurd here List.not_mem_nil

theorem valid_tokens_iff {e : CompositeEffect} (valid : e.Valid) :
    (∀ t ∈ e.tokens m, t.Valid m) ↔ 0 ≤ e.delayMs := by
  have small := valid.2.2.1
  rw [CompositeEffect.tokens, List.forall_mem_append, and_iff_left (valid_sound calibrated valid),
    CompositeEffect.pause]
  split
  · rw [List.forall_mem_singleton, Token.Valid]
    omega
  · refine iff_of_true (fun t none => absurd none List.not_mem_nil) ?_
    omega

end Composed

/-! ### What reaches the driver -/

def Entry.effectQueue : Entry → Option String
  | .service _ (.setEffectQueue text) _ _ _ _ => some text
  | _ => none

def World.effectQueues (w : World) : List String := w.log.filterMap Entry.effectQueue

section Written

variable {num : Numbers} {m : Members} {n : Nat} {w : World}

theorem getPrimitiveDetails_ne_error_ok (p : CompositePrimitive) : getPrimitiveDetails p ≠ .error .ok := by
  cases p <;> rintro ⟨⟩

theorem composeEffect_ne_error_ok (e : CompositeEffect) : m.composeEffect e ≠ .error .ok := by
  intro failed
  simp only [Members.composeEffect] at failed
  cases found : getPrimitiveDetails e.primitive with
  | error status =>
    rw [found] at failed
    split_ifs at failed
    all_goals try cases failed
    all_goals exact getPrimitiveDetails_ne_error_ok e.primitive found
  | ok effectIndex =>
    rw [found] at failed
    split_ifs at failed <;> cases failed

theorem composeEffects_ne_error_ok (es : List CompositeEffect) (effectQueue : String) :
    m.composeEffects es effectQueue ≠ .error .ok := by
  induction es generalizing effectQueue with
  | nil => rintro ⟨⟩
  | cons e es ih =>
    rw [Members.composeEffects]
    cases first : m.composeEffect e with
    | error status =>
      rintro ⟨⟩
      exact composeEffect_ne_error_ok e first
    | ok added => exact ih _

theorem composeQueue_cases (composite : List CompositeEffect) :
    (∃ status, status ≠ .ok ∧ m.composeQueue composite = .error status) ∨
      ∃ effectQueue, m.composeQueue composite = .ok (effectQueue ++ "0") := by
  rw [Members.composeQueue]
  split
  · exact .inl ⟨.illegalArgument, by decide, rfl⟩
  cases effects : m.composeEffects composite "" with
  | error status =>
    refine .inl ⟨status, ?_, rfl⟩
    rintro rfl
    exact composeEffects_ne_error_ok composite "" effects
  | ok effectQueue =>
    by_cases empty : effectQueue = ""
    · exact .inl ⟨.illegalArgument, by decide, if_pos empty⟩
    · exact .inr ⟨effectQueue, if_neg empty⟩

theorem unseen_onIndex (timeoutMs effectIndex : BitVec 32) :
    (onIndex num timeoutMs effectIndex).All (Act.Unseen Entry.effectQueue) := by
  have control (a : Act) (control : a.Control) : a.Unseen Entry.effectQueue := by
    cases a with
    | write op =>
      cases op with
      | setEffectQueue text => exact control.elim
      | _ => exact fun _ _ _ _ _ => rfl
    | _ => trivial
  have write (op : HwWrite) (starts : op.Starts) : (Act.write op).Unseen Entry.effectQueue := by
    cases op with
    | setEffectQueue text => exact starts.elim
    | _ => exact fun _ _ _ _ _ => rfl
  exact all_onIndex control write trivial (fun _ => trivial) trivial trivial timeoutMs effectIndex

theorem wp_compose_queues (composite : List CompositeEffect) :
    wpCall (fun _ => True) (compose num composite) (fun status _ v =>
      ∃ texts, v.effectQueues = texts ++ w.effectQueues ∧ (status = .ok → texts ≠ []) ∧
        ∀ text ∈ texts, w.members.composeQueue composite = .ok text) n w := by
  have ends (i : Nat) : (Entry.deactivate i).effectQueue = none := rfl
  apply wp_load
  intro o _
  have before : (w.progress o.tasks).log.filterMap Entry.effectQueue = w.effectQueues :=
    World.seen_progress ends w o.tasks
  rw [World.progress_members]
  rcases composeQueue_cases (m := w.members) composite with ⟨status, other, refused⟩ | ⟨effectQueue, composed⟩
  · rw [refused]
    exact ⟨trivial, [], before, fun fine => absurd fine other, fun _ none => absurd none List.not_mem_nil⟩
  · rw [composed]
    have written (v : World) (now : v.log.filterMap Entry.effectQueue = (effectQueue ++ "0") :: w.effectQueues)
        (status : Status) : ∃ texts, v.effectQueues = texts ++ w.effectQueues ∧ (status = .ok → texts ≠ []) ∧
          ∀ text ∈ texts, Except.ok (effectQueue ++ "0") = (.ok text : Except Status String) := by
      refine ⟨[effectQueue ++ "0"], now, fun _ => List.cons_ne_nil _ _, fun text here => ?_⟩
      rw [List.mem_singleton.mp here]
    have rest : (setEffectAmplitude num voltageScaleMax.toNat voltageScaleMax.toNat >>= fun _ =>
        onIndex num maxTimeMs waveformTriggerQueueIndex).All (Act.Unseen Entry.effectQueue) :=
      (all_tryPut fun _ _ _ _ _ => rfl).bind fun _ => unseen_onIndex maxTimeMs waveformTriggerQueueIndex
    have queued : effectQueue ++ "0" ≠ "" := fun empty => absurd (String.append_eq_empty_iff.mp empty).2 (by decide)
    apply wp_ite
    · intro _
      apply wp_seq (wp_tryPut_seen ends before fun _ _ _ _ _ => rfl)
      intro status k v _ now
      apply wp_ite
      · exact fun _ => wp_mono (wp_unseen ends now rest) fun status _ u _ now => written u now status
      · exact fun _ => ⟨trivial, written v now status⟩
    · exact fun empty => absurd queued empty

end Written

/-- Whatever `compose` writes to the queue consists of tokens with commas behind them and a 0. It is read back as the
delay and the effect of each element, in order. All tokens are valid if and only if no delay is negative. -/
theorem compose_queue_valid_iff (num : Numbers) (io : Nat → Outcome) (w : World) (calibrated : w.members.Calibrated)
    (composite : List CompositeEffect) :
    ∃ texts, (exec perform io (compose num composite) 0 w).2.effectQueues = texts ++ w.effectQueues ∧
      ((exec perform io (compose num composite) 0 w).1 = .ok → texts ≠ []) ∧
      ∀ text ∈ texts,
        composite.flatMap (·.tokens w.members) ≠ [] ∧
        text = printTokens (composite.flatMap (·.tokens w.members)) ++ "0" ∧
        readQueue text = some (composite.flatMap (·.tokens w.members)) ∧
        ((∀ t ∈ composite.flatMap (·.tokens w.members), t.Valid w.members) ↔ ∀ e ∈ composite, 0 ≤ e.delayMs) := by
  obtain ⟨_, texts, queues, accepted, composed⟩ :=
    exec_post (wp_compose_queues composite) fun i => (trivial : (fun _ => True) (io i))
  refine ⟨texts, queues, accepted, fun text here => ?_⟩
  obtain ⟨valid, nonempty, rfl⟩ := composeQueue_text calibrated (composed text here)
  refine ⟨nonempty, rfl, readQueue_printTokens nonempty, ?_⟩
  rw [List.forall_mem_flatMap]
  exact forall₂_congr fun e inside => valid_tokens_iff calibrated (valid e inside)

namespace Sample

def ready : World := (World.start members).progress [0]

def clicks : List CompositeEffect := [⟨0, .click, 1⟩, ⟨100, .noop, 0⟩, ⟨50, .lightTick, 1 / 2⟩]

theorem calibrated : ready.members.Calibrated := ⟨by decide, by decide, by decide⟩

end Sample

theorem compose_queue_valid_clicks :
    ∃ texts, (exec perform (fun _ => Sample.smooth) (compose Sample.numbers Sample.clicks) 0
        Sample.ready).2.effectQueues = texts ∧ texts ≠ [] ∧
      ∀ text ∈ texts, readQueue text = some [.effect 2 100, .delay 100, .delay 50, .effect 9 51] ∧
        ∀ t ∈ Sample.clicks.flatMap (·.tokens Sample.ready.members), t.Valid Sample.ready.members := by
  obtain ⟨texts, queues, accepted, valid⟩ :=
    compose_queue_valid_iff Sample.numbers (fun _ => Sample.smooth) Sample.ready Sample.calibrated Sample.clicks
  refine ⟨texts, queues.trans (List.append_nil texts), accepted (by decide +kernel), fun text here => ?_⟩
  obtain ⟨-, -, read, nonneg⟩ := valid text here
  exact ⟨read.trans (by decide +kernel), nonneg.mpr (by simp [Sample.clicks])⟩

/-- A delay of less than nothing is written as it is. -/
theorem compose_negative_delay :
    (exec perform (fun _ => Sample.smooth) (compose Sample.numbers [⟨-5, .click, 1⟩]) 0 Sample.ready).1 = .ok ∧
    (exec perform (fun _ => Sample.smooth) (compose Sample.numbers [⟨-5, .click, 1⟩]) 0
      Sample.ready).2.effectQueues = ["-5,2.100,0"] ∧
    readQueue "-5,2.100,0" = some [.delay (-5), .effect 2 100] := by
  decide +kernel

end Pdx215.Vibrator
