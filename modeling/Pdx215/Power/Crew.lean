import Pdx215.Lib.Threads
import Pdx215.Power.Writes

/-! The service as its threads run it: the looper and any number of binder threads, each in the middle of a call, with
a step of any of them next. A call needs its object, so the constructor and the destructor of a session do
not overlap another call on it; the handlers on the looper overlap everything. -/
namespace Pdx215.Power

open Effect

inductive Worker where
  | looper
  | binder (i : Nat)
  deriving DecidableEq, Repr

namespace Event

def object : Event → Option Sid
  | .createHintSession s .. | .close s | .destroy s | .pause s | .resume s => some s
  | .updateTargetWorkDuration s _ | .reportActualWorkDuration s _ => some s
  | .displayUpdate | .deliver _ | .tick _ => none

def alone : Event → Bool
  | .createHintSession .. | .destroy _ => true
  | _ => false

def Conflict (e e' : Event) : Prop :=
  ∃ s, e.object = some s ∧ e'.object = some s ∧ (e.alone || e'.alone) = true

def Suits (k : Worker) : Event → Prop
  | .deliver _ => k = .looper
  | .tick _ => True
  | _ => k ≠ .looper

def creates : Event → Option Sid
  | .createHintSession s .. => some s
  | _ => none

def closes : Event → Option Sid
  | .close s | .destroy s => some s
  | _ => none

end Event

abbrev Crew := Pool Act Reply Shared Worker Event Status

def crew (cfg : AdpfConfig) (allowed : Outcome → Prop) : Threads Act Reply Outcome Shared Worker Event Status where
  react := perform cfg
  allowed := allowed
  program := Event.program cfg
  begins e sh := sh.lift fun v => e.begin v
  may P k e := e.enabled P.world.toView = true ∧ e.Suits k ∧ ∀ j, P.Idle j ∨ ¬ e.Conflict (P.running j).1

def Crew.start : Crew := ⟨.start, fun _ => (.tick 0, .ret .ok)⟩

/-- Nobody is in the middle of creating or closing the session. -/
def Crew.Settled (P : Crew) (s : Sid) : Prop :=
  ∀ k, P.Idle k ∨ ((P.running k).1.creates ≠ some s ∧ (P.running k).1.closes ≠ some s)

/-! ### The books of the manager, whoever is at work -/

namespace Roll

variable {ρ ρ' : Roll} {s : Sid}

structure Ledger (ρ : Roll) : Prop where
  lists : ∀ s t, s ∈ ρ.registry.mTidSessionListMap t ↔ s ∈ ρ.registry.mSessions ∧ t ∈ ρ.tids s
  tally : ρ.registry.Tally ρ.uses

theorem ledger_empty : Ledger empty where
  lists s t := by simp [empty, Registry.empty]
  tally := ⟨fun t => by simp [empty, Registry.empty, uses], fun t => by simp [empty, Registry.empty, uses]⟩

theorem Ledger.same (ledger : ρ.Ledger) (registry : ρ'.registry = ρ.registry)
    (tids : ∀ r ∈ ρ.registry.mSessions, ρ'.tids r = ρ.tids r) : ρ'.Ledger where
  lists r t := by
    rw [registry, ledger.lists]
    exact and_congr_right fun here => by rw [tids r here]
  tally := by
    rw [registry]
    refine ledger.tally.congr fun t => ?_
    unfold uses
    rw [registry]
    exact Finset.sum_congr rfl fun r here => by rw [tids r here]

theorem Ledger.add (ledger : ρ.Ledger) {applied : Nat → Bool} (new : s ∉ ρ.registry.mSessions)
    (succeeds : Applied applied) : (ρ.add s applied).Ledger where
  lists r t := by
    have tids : (ρ.add s applied).tids r = ρ.tids r := rfl
    rw [add_registry, Registry.mem_addPowerSession, Registry.addPowerSession_sessions, Finset.mem_insert, tids, ledger.lists]
    by_cases same : r = s
    · subst same
      simp [new]
    · simp [same]
  tally := by
    rw [add_registry]
    refine (ledger.tally.addPowerSession succeeds (ρ.tids s)).congr fun t => ?_
    unfold uses
    rw [add_registry, Registry.addPowerSession_sessions, Finset.sum_insert new, Nat.add_comm]
    rfl

theorem Ledger.remove (ledger : ρ.Ledger) (known : s ∈ ρ.registry.mSessions) : (ρ.remove s).Ledger := by
  have enough : ∀ t, (ρ.tids s).count t ≤ ρ.uses t := fun t =>
    Finset.single_le_sum (f := fun r => (ρ.tids r).count t) (fun _ _ => Nat.zero_le _) known
  constructor
  · intro r t
    have counted : t ∈ ρ.tids s → ρ.registry.mTidRefCountMap t ≠ none := by
      intro here
      have := enough t
      have : 0 < (ρ.tids s).count t := List.count_pos_iff.mpr here
      rw [ledger.tally.counts t, if_neg (by omega)]
      exact Option.some_ne_none _
    rw [remove_registry, Registry.mem_removePowerSession, Registry.removePowerSession_sessions, Finset.mem_erase,
      tids_remove, ledger.lists]
    by_cases same : r = s
    · subst same
      simpa using fun _ here => ⟨here, counted here⟩
    · simp [same]
  · rw [remove_registry]
    refine (ledger.tally.removePowerSession (ρ.tids s) enough).congr fun t => ?_
    unfold uses
    rw [remove_registry, Registry.removePowerSession_sessions, ← Finset.add_sum_erase _ _ known]
    simp

end Roll

/-! ### The life of a session -/

/-- Where a session is between its constructor and its `close`, and which thread takes it to the next place. -/
inductive Phase where
  | unborn
  | creating (k : Worker)
  | built (k : Worker)
  | live
  | leaving (k : Worker)
  | gone

namespace Phase

def constructed : Phase → Prop
  | .unborn | .creating _ => False
  | _ => True

def isOpen : Phase → Prop
  | .built _ | .live => True
  | _ => False

def listed : Phase → Prop
  | .live | .leaving _ => True
  | _ => False

def known : Phase → Prop
  | .live | .leaving _ | .gone => True
  | _ => False

structure Stands (ρ : Roll) (s : Sid) (φ : Phase) : Prop where
  constructed : ρ.core s ≠ none ↔ φ.constructed
  isOpen : ρ.Open s ↔ φ.isOpen
  listed : s ∈ ρ.registry.mSessions ↔ φ.listed

end Phase

/-- What a thread may rely on in the middle of its call. -/
inductive Token where
  | free
  | create (s : Sid)
  | built (s : Sid)
  | use (s : Sid)
  | remove (s : Sid)
  | removed (s : Sid)

namespace Token

/-- The constructor has built the object before it adds it, only the thread whose exchange succeeded removes the
session, and it stores `mSessionClosed` again only afterwards. -/
def permits (τ : Token) : Act → Prop
  | .construct s .. => τ = .create s
  | .addPowerSession s => τ = .built s
  | .compareExchangeClosed s => τ = .use s
  | .removePowerSession s => τ = .remove s
  | .store s .closed => τ = .removed s
  | _ => True

def after (τ : Token) : (a : Act) → Reply a → Token
  | .construct s .., _ => .built s
  | .addPowerSession _, _ => .free
  | .compareExchangeClosed s, exchanged =>
    match (exchanged : Bool) with
    | true => .remove s
    | false => .free
  | .removePowerSession s, _ => .removed s
  | _, _ => τ

def Owns (s : Sid) (τ : Token) : Prop := τ = .create s ∨ τ = .built s ∨ τ = .remove s

def Done (τ : Token) : Prop := ∀ s, ¬ τ.Owns s

def About (e : Event) : Token → Prop
  | .free => True
  | .create s | .built s => e.creates = some s
  | .use s | .remove s | .removed s => e.closes = some s

def Fits (phase : Sid → Phase) (k : Worker) : Token → Prop
  | .free => True
  | .create s => phase s = .creating k
  | .built s => phase s = .built k
  | .use s => (phase s).known
  | .remove s => phase s = .leaving k
  | .removed s => phase s = .gone

end Token

def Phase.Owned (marks : Worker → Token) (s : Sid) : Phase → Prop
  | .creating k => marks k = .create s
  | .built k => marks k = .built s
  | .leaving k => marks k = .remove s
  | _ => True

def Token.discipline : Discipline Act Reply Token where
  permits := Token.permits
  fits _ _ := True
  after := Token.after

structure Manned (phase : Sid → Phase) (marks : Worker → Token) (ρ : Roll) : Prop where
  stands : ∀ s, (phase s).Stands ρ s
  fits : ∀ k, (marks k).Fits phase k
  owned : ∀ s, (phase s).Owned marks s

/-- The session goes from one place to the next when a thread takes a step for it. -/
inductive Passage (k : Worker) (s : Sid) : Phase → Token → Phase → Token → Prop where
  | begin (τ : Token) : τ.Done → Passage k s .unborn τ (.creating k) (.create s)
  | construct : Passage k s (.creating k) (.create s) (.built k) (.built s)
  | add : Passage k s (.built k) (.built s) .live .free
  | exchange : Passage k s .live (.use s) (.leaving k) (.remove s)
  | remove : Passage k s (.leaving k) (.remove s) .gone (.removed s)

section Moves

variable {phase : Sid → Phase} {marks : Worker → Token} {ρ ρ' : Roll} {k : Worker} {s : Sid} {φ φ' : Phase} {τ τ' : Token}

/-- Tokens of other threads still fit: none of them owned the session, and a place that is known stays known. -/
theorem Passage.fits (passage : Passage k s φ τ φ' τ') (here : phase s = φ) {j : Worker} (other : j ≠ k)
    (fits : (marks j).Fits phase j) : (marks j).Fits (Function.update phase s φ') j := by
  cases held : marks j with
  | free => trivial
  | create r | built r | use r | remove r | removed r =>
    rw [held] at fits
    simp only [Token.Fits] at fits ⊢
    by_cases same : r = s
    · subst same
      rw [here] at fits
      cases passage <;> simp_all [Phase.known]
    · rwa [Function.update_of_ne same]

theorem Phase.Owned.retoken {r : Sid} {φ : Phase} (owned : φ.Owned marks r) (apart : ¬ (marks k).Owns r) :
    φ.Owned (Function.update marks k τ') r := by
  cases φ with
  | unborn | live | gone => trivial
  | creating j | built j | leaving j =>
    simp only [Phase.Owned] at owned ⊢
    by_cases same : j = k
    · subst same
      exact (apart (by simp [Token.Owns, owned])).elim
    · rwa [Function.update_of_ne same]

theorem Passage.apart (passage : Passage k s φ τ φ' τ') {r : Sid} (other : r ≠ s) : ¬ τ.Owns r := by
  cases passage with
  | begin τ done => exact done r
  | construct | add | exchange | remove => simp [Token.Owns, other.symm]

theorem Passage.manned (passage : Passage k s φ τ φ' τ') (here : phase s = φ) (held : marks k = τ)
    (manned : Manned phase marks ρ) (stands : φ'.Stands ρ' s) (others : ∀ r, r ≠ s → ∀ ψ : Phase, ψ.Stands ρ r → ψ.Stands ρ' r) :
    Manned (Function.update phase s φ') (Function.update marks k τ') ρ' := by
  constructor
  · intro r
    by_cases same : r = s
    · subst same
      rwa [Function.update_self]
    · rw [Function.update_of_ne same]
      exact others r same _ (manned.stands r)
  · intro j
    by_cases same : j = k
    · subst same
      rw [Function.update_self]
      cases passage <;> simp [Token.Fits]
    · rw [Function.update_of_ne same]
      exact passage.fits here same (manned.fits j)
  · intro r
    by_cases same : r = s
    · subst same
      rw [Function.update_self]
      cases passage <;> simp [Phase.Owned]
    · rw [Function.update_of_ne same]
      exact (manned.owned r).retoken (held ▸ passage.apart same)

theorem Manned.retoken (manned : Manned phase marks ρ) (done : (marks k).Done) (fits : τ'.Fits phase k) :
    Manned phase (Function.update marks k τ') ρ where
  stands := manned.stands
  fits j := by
    by_cases same : j = k
    · subst same
      rwa [Function.update_self]
    · rw [Function.update_of_ne same]
      exact manned.fits j
  owned r := (manned.owned r).retoken (done r)

theorem Manned.fits_at (manned : Manned phase marks ρ) (held : marks k = τ) : τ.Fits phase k := held ▸ manned.fits k

theorem Manned.stands_at (manned : Manned phase marks ρ) (here : phase s = φ) : φ.Stands ρ s := here ▸ manned.stands s

/-! ### What each step does to the phases -/

theorem Phase.Stands.same {r : Sid} {ψ : Phase} (stands : ψ.Stands ρ r) (core : ρ'.core r = none ↔ ρ.core r = none)
    (isOpen : ρ'.Open r ↔ ρ.Open r) (listed : r ∈ ρ'.registry.mSessions ↔ r ∈ ρ.registry.mSessions) : ψ.Stands ρ' r where
  constructed := (not_congr core).trans stands.constructed
  isOpen := isOpen.trans stands.isOpen
  listed := listed.trans stands.listed

theorem Roll.open_setCore_ne {r : Sid} (c : Option Core) (ne : r ≠ s) : (ρ.setCore s c).Open r ↔ ρ.Open r := by
  simp [Roll.Open, ne]

theorem Manned.construct (manned : Manned phase marks ρ) (held : marks k = .create s) (threadIds : List Tid) :
    Manned (Function.update phase s (.built k)) (Function.update marks k (.built s))
      (ρ.setCore s (some ⟨threadIds, false, true⟩)) := by
  have here : phase s = .creating k := manned.fits_at held
  have before := manned.stands_at here
  refine Passage.construct.manned here held manned ⟨?_, ?_, ?_⟩ fun r other ψ stands => ?_
  · simp [Phase.constructed]
  · simp [Phase.isOpen, Roll.Open]
  · simpa [Phase.listed] using before.listed
  · exact stands.same (by rw [Roll.setCore_ne _ _ other]) (Roll.open_setCore_ne _ other) Iff.rfl

theorem Manned.add (manned : Manned phase marks ρ) (held : marks k = .built s) (applied : Nat → Bool) :
    Manned (Function.update phase s .live) (Function.update marks k .free) (ρ.add s applied) := by
  have here : phase s = .built k := manned.fits_at held
  have before := manned.stands_at here
  refine Passage.add.manned here held manned ⟨before.constructed, before.isOpen, ?_⟩ fun r other ψ stands => ?_
  · simp [Phase.listed]
  · exact stands.same Iff.rfl Iff.rfl (by simp [other])

theorem Manned.exchange (manned : Manned phase marks ρ) (held : marks k = .use s) (isOpen : ρ.Open s) :
    Manned (Function.update phase s (.leaving k)) (Function.update marks k (.remove s)) (ρ.setClosed s) := by
  have here : phase s = .live := by
    have known : (phase s).known := manned.fits_at held
    have unclosed : (phase s).isOpen := (manned.stands s).isOpen.mp isOpen
    cases found : phase s <;> simp_all [Phase.known, Phase.isOpen]
  have before := manned.stands_at here
  refine Passage.exchange.manned here held manned ⟨?_, ?_, before.listed⟩ fun r other ψ stands => ?_
  · simpa [Roll.setClosed, Phase.constructed] using before.constructed
  · simp [Phase.isOpen]
  · exact stands.same (by rw [Roll.setClosed, Roll.setCore_ne _ _ other]) (by simp [other]) Iff.rfl

theorem Manned.remove (manned : Manned phase marks ρ) (held : marks k = .remove s) :
    Manned (Function.update phase s .gone) (Function.update marks k (.removed s)) (ρ.remove s) := by
  have here : phase s = .leaving k := manned.fits_at held
  have before := manned.stands_at here
  refine Passage.remove.manned here held manned ⟨before.constructed, before.isOpen, ?_⟩ fun r other ψ stands => ?_
  · simp [Phase.listed]
  · exact stands.same Iff.rfl Iff.rfl (by simp [other])

theorem Manned.setActive (manned : Manned phase marks ρ) (b : Bool) : Manned phase marks (ρ.setActive s b) where
  stands r := by
    refine (manned.stands r).same ?_ (Roll.open_setActive b) Iff.rfl
    by_cases same : r = s
    · subst same
      simp [Roll.setActive]
    · rw [Roll.setActive, Roll.setCore_ne _ _ same]
  fits := manned.fits
  owned := manned.owned

end Moves

/-! ### The invariant -/

structure Crew.Sound (sh : Shared) (marks : Worker → Token) : Prop where
  manned : ∃ phase, Manned phase marks sh.roll
  ledger : sh.roll.Ledger

section Invariant

variable {cfg : AdpfConfig} {sh : Shared} {marks : Worker → Token} {k : Worker} {s : Sid} {a : Act} {o : Outcome}

/-- The books and the tokens after a step. -/
def Act.Settles (a : Act) (o : Outcome) (r : Reply a) (marks : Worker → Token) (k : Worker) (ρ : Roll) : Prop :=
  (∃ phase, Manned phase (Function.update marks k ((marks k).after a r)) (a.onRoll o.applied ρ)) ∧
    (a.onRoll o.applied ρ).Ledger

theorem settles_kept {r : Reply a} {ρ : Roll} {phase : Sid → Phase} (kept : (marks k).after a r = marks k)
    (manned : Manned phase marks (a.onRoll o.applied ρ)) (ledger : (a.onRoll o.applied ρ).Ledger) :
    a.Settles o r marks k ρ := by
  unfold Act.Settles
  rw [kept, Function.update_eq_self]
  exact ⟨⟨phase, manned⟩, ledger⟩

/-- The exchange of `close` succeeds for one thread; for every other one the session is closed already. -/
theorem settles_exchange {ρ : Roll} {phase : Sid → Phase} (manned : Manned phase marks ρ) (ledger : ρ.Ledger)
    (held : marks k = .use s) (exchanged : Bool) (exchanged_iff : exchanged = true ↔ ρ.Open s) :
    (Act.compareExchangeClosed s).Settles o exchanged marks k ρ := by
  cases exchanged with
  | true => exact ⟨⟨_, manned.exchange held (exchanged_iff.mp rfl)⟩, ledger.same rfl fun _ _ => Roll.tids_setClosed⟩
  | false =>
    have shut : ¬ ρ.Open s := exchanged_iff.not.mp Bool.false_ne_true
    have done : (marks k).Done := by
      rw [held]
      simp [Token.Done, Token.Owns]
    have same : (Act.compareExchangeClosed s).onRoll o.applied ρ = ρ := Roll.setClosed_of_not_open shut
    unfold Act.Settles
    rw [same]
    exact ⟨⟨phase, manned.retoken done trivial⟩, ledger⟩

theorem Crew.Sound.settles (sound : Crew.Sound sh marks) (succeeds : Applied o.applied)
    (permitted : (marks k).permits a) : a.Settles o (perform cfg a o sh).1 marks k sh.roll := by
  obtain ⟨⟨phase, manned⟩, ledger⟩ := sound
  cases a with
  | construct s tgid uid threadIds durationNanos =>
    have unlisted : s ∉ sh.roll.registry.mSessions := (manned.stands_at (manned.fits_at permitted)).listed.mp
    refine ⟨⟨_, manned.construct permitted threadIds⟩, ledger.same rfl fun r here => ?_⟩
    exact Roll.tids_setCore_ne _ fun same => unlisted (same ▸ here)
  | addPowerSession s =>
    have unlisted : s ∉ sh.roll.registry.mSessions := (manned.stands_at (manned.fits_at permitted)).listed.mp
    exact ⟨⟨_, manned.add permitted o.applied⟩, ledger.add unlisted succeeds⟩
  | removePowerSession s =>
    have listed : s ∈ sh.roll.registry.mSessions :=
      (manned.stands_at (manned.fits_at permitted)).listed.mpr trivial
    exact ⟨⟨_, manned.remove permitted⟩, ledger.remove listed⟩
  | compareExchangeClosed s =>
    exact settles_exchange manned ledger permitted _ (View.open_iff (sh.wait o.elapsed).toView).symm
  | store s x =>
    cases x with
    | closed =>
      have shut : ¬ sh.roll.Open s := (manned.stands_at (manned.fits_at permitted)).isOpen.mp
      have same : (Act.store s .closed).onRoll o.applied sh.roll = sh.roll := Roll.setClosed_of_not_open shut
      exact settles_kept rfl (by rwa [same]) (by rwa [same])
    | isActive b => exact settles_kept rfl (manned.setActive b) (ledger.same rfl fun _ _ => Roll.tids_setActive b)
    | _ => exact settles_kept rfl manned ledger
  | _ => exact settles_kept rfl manned ledger

theorem Crew.Sound.perform (sound : Crew.Sound sh marks) (succeeds : Applied o.applied)
    (permitted : (marks k).permits a) : Crew.Sound (perform cfg a o sh).2
      (Function.update marks k ((marks k).after a (perform cfg a o sh).1)) := by
  obtain ⟨manned, ledger⟩ := sound.settles succeeds permitted
  constructor
  · rwa [perform_roll]
  · rwa [perform_roll]

/-! ### The programs keep to the tokens -/

def Act.Common (a : Act) : Prop := a.Plain ∨ ∃ s b, a = .store s (.isActive b)

theorem not_plain_setClosed (same : ∀ ρ : Roll, ρ.setClosed s = ρ) : False := by
  have shut := same ⟨.empty, fun _ => some ⟨[], false, false⟩⟩
  simpa [Roll.setClosed, Roll.setCore] using congrFun (congrArg Roll.core shut) s

theorem permits_of_plain (τ : Token) (plain : a.Plain) : τ.permits a ∧ ∀ r, τ.after a r = τ := by
  cases a with
  | construct s tgid uid threadIds durationNanos =>
    have same := congrFun (congrArg Roll.core (plain (fun _ => true) .empty)) s
    simp [Act.onRoll, Roll.empty] at same
  | addPowerSession s =>
    have same := congrArg (fun ρ : Roll => ρ.registry.mSessions) (plain (fun _ => true) .empty)
    simp [Act.onRoll, Roll.empty, Registry.empty] at same
  | removePowerSession s =>
    have same := congrArg (fun ρ : Roll => ρ.registry.mSessions)
      (plain (fun _ => true) ⟨{ Registry.empty with mSessions := {s} }, fun _ => none⟩)
    simp [Act.onRoll] at same
  | compareExchangeClosed s => exact (not_plain_setClosed (plain fun _ => true)).elim
  | store s x =>
    cases x with
    | closed => exact (not_plain_setClosed (plain fun _ => true)).elim
    | _ => exact ⟨trivial, fun _ => rfl⟩
  | _ => exact ⟨trivial, fun _ => rfl⟩

theorem permits_of_common (τ : Token) (common : a.Common) : τ.permits a ∧ ∀ r, τ.after a r = τ := by
  rcases common with plain | ⟨s, b, rfl⟩
  · exact permits_of_plain τ plain
  · exact ⟨trivial, fun _ => rfl⟩

section Programs

variable {α : Type} {p : Call α} {τ τ' : Token} {post : Token → Prop}

theorem follows_common (all : p.All Act.Common) (ends : post τ) : Token.discipline.Follows post p τ :=
  Discipline.follows_all all (fun _ common => (permits_of_common τ common).1)
    (fun _ common => (permits_of_common τ common).2) ends

theorem follows_own (all : p.All (Act.Own s)) : Token.discipline.Follows (fun τ' => τ' = τ) p τ :=
  follows_common (all.mono fun _ own => .inl own.plain) rfl

theorem follows_act (permitted : τ.permits a) (after : ∀ r, τ.after a r = τ') :
    Token.discipline.Follows (fun σ => σ = τ') (act a) τ :=
  ⟨permitted, fun r _ => after r⟩

theorem done_free : Token.free.Done := by simp [Token.Done, Token.Owns]

theorem done_removed : (Token.removed s).Done := by simp [Token.Done, Token.Owns]

theorem common_isActive (b : Bool) : (Act.store s (.isActive b)).Common := .inr ⟨s, b, rfl⟩

theorem Act.Own.common (own : Act.Own s a) : a.Common := .inl own.plain

theorem follows_enroll (durationNanos : Int) :
    Token.discipline.Follows (fun τ' => τ' = .free) (enroll cfg s durationNanos) (.built s) := by
  have updated (k : Int → Store) (plain : ∀ t, (Act.store s (k t)).Plain) : (readClock fun t => act (.store s (k t))).All Act.Common :=
    ⟨.inl fun _ _ => rfl, fun _ => all_act (.inl (plain _))⟩
  refine Discipline.follows_seq (follows_common (updated _ fun _ _ _ => rfl) rfl) fun _ τ same => ?_
  subst same
  refine Discipline.follows_seq (follows_common (updated (fun t => .lastStartedTime (t - durationNanos)) fun _ _ _ => rfl) rfl) fun _ τ same => ?_
  subst same
  refine Discipline.follows_seq (follows_act rfl fun _ => rfl) fun _ τ same => ?_
  subst same
  exact follows_own (own_setSessionUclampMin _)

theorem follows_createHintSession (tgid uid : Int) (threadIds : List Tid) (durationNanos : Int) :
    ∃ τ, (τ = .free ∨ τ = .create s) ∧
      Token.discipline.Follows Token.Done (createHintSession cfg s tgid uid threadIds durationNanos) τ := by
  unfold createHintSession
  split
  · exact ⟨.free, .inl rfl, done_free⟩
  · split
    · exact ⟨.free, .inl rfl, done_free⟩
    · have made : Token.discipline.Follows (fun τ => τ = .free) (construct cfg s tgid uid threadIds durationNanos)
          (.create s) :=
        Discipline.follows_seq (follows_act rfl fun _ => rfl) fun _ τ same => same ▸ follows_enroll durationNanos
      exact ⟨.create s, .inr rfl, Discipline.follows_seq made fun _ τ same => same ▸ done_free⟩

theorem follows_close : Token.discipline.Follows Token.Done (close cfg s) (.use s) := by
  refine ⟨rfl, fun (exchanged : Bool) _ => ?_⟩
  cases exchanged with
  | false => exact done_free
  | true =>
    refine Discipline.follows_seq (follows_act (τ := .remove s) rfl fun _ => rfl) fun _ τ same => ?_
    subst same
    refine Discipline.follows_seq (follows_own (own_setSessionUclampMin 0)) fun _ τ same => ?_
    subst same
    refine Discipline.follows_seq (follows_act rfl fun _ => rfl) fun _ τ same => ?_
    subst same
    have told : (closeDead s).All Act.Common := by
      refine (all_act (.inl fun _ _ => rfl)).bind fun _ => (all_act (.inl fun _ _ => rfl)).bind fun _ => ?_
      exact (own_updateUniveralBoostMode.mono fun _ own => own.common).bind fun _ => trivial
    exact follows_common ((all_act (common_isActive false)).bind fun _ => told) done_removed

theorem follows_destroy : Token.discipline.Follows Token.Done (destroy cfg s) (.use s) :=
  Discipline.follows_seq follows_close fun _ _ done =>
    follows_common ((all_act (.inl fun _ _ => rfl)).bind fun _ => trivial) done

theorem common_program {e : Event} (kept : e.creates = none) (kept' : e.closes = none) :
    (e.program cfg).All Act.Common := by
  cases e with
  | createHintSession s tgid uid threadIds durationNanos => cases kept
  | close s => cases kept'
  | destroy s => cases kept'
  | pause s => exact all_pause (fun _ own => own.common) (common_isActive false)
  | resume s => exact all_resume (fun _ own => own.common) (common_isActive true)
  | updateTargetWorkDuration s target => exact (own_updateTargetWorkDuration target).mono fun _ own => own.common
  | reportActualWorkDuration s actual => exact (own_reportActualWorkDuration actual).mono fun _ own => own.common
  | displayUpdate => exact (all_act (.inl fun _ _ => rfl)).bind fun _ => trivial
  | deliver m => exact ((plain_handleMessage m.handler).mono fun _ plain => .inl plain).bind fun _ => trivial
  | tick elapsed => trivial

end Programs

/-! ### Calls begin -/

abbrev Crew.Works (τ : Token) (running : Event × Call Status) : Prop :=
  Threads.Keeping Token.discipline Token.About Token.Done τ running

section Begin

variable {P : Crew} {e : Event}

theorem Crew.Works.busy {τ : Token} {job : Event × Call Status} (works : Crew.Works τ job) (owns : τ.Owns s) (a : Status) :
    job.2 ≠ .ret a := by
  intro ended
  have follows := works.2
  rw [ended] at follows
  exact follows s owns

theorem Crew.no_constructor (works : ∀ j, Crew.Works (marks j) (P.running j))
    (clear : ∀ j, P.Idle j ∨ ¬ e.Conflict (P.running j).1) (target : e.object = some s) (j : Worker) :
    marks j ≠ .create s ∧ marks j ≠ .built s := by
  have clash (held : marks j = .create s ∨ marks j = .built s) : False := by
    have owns : (marks j).Owns s := by
      rcases held with held | held <;> simp [Token.Owns, held]
    have creates : (P.running j).1.creates = some s := by
      have about := (works j).1
      rcases held with held | held <;> rwa [held] at about
    rcases clear j with ⟨a, idle⟩ | apart
    · exact (works j).busy owns a idle
    · refine apart ⟨s, target, ?_⟩
      cases found : (P.running j).1 <;> simp_all [Event.creates, Event.object, Event.alone]
  exact ⟨fun held => clash (.inl held), fun held => clash (.inr held)⟩

theorem Crew.Sound.begins (sound : Crew.Sound sh marks) {τ : Token} {phase : Sid → Phase}
    (manned : Manned phase (Function.update marks k τ) sh.roll) :
    Crew.Sound (sh.lift fun v => e.begin v) (Function.update marks k τ) := by
  have same : (sh.lift fun v => e.begin v).roll = sh.roll := by cases e <;> rfl
  exact ⟨⟨phase, same ▸ manned⟩, same ▸ sound.ledger⟩

theorem Crew.Works.done (works : Crew.Works (marks k) (P.running k)) (idle : P.Idle k) : (marks k).Done := by
  obtain ⟨a, ended⟩ := idle
  exact fun s owns => works.busy owns a ended

theorem Manned.known {phase : Sid → Phase} {v : View} (manned : Manned phase marks v.roll) (live : Event.live v s = true)
    (none_built : ∀ j, marks j ≠ .built s) : (phase s).known := by
  have constructed : (phase s).constructed := by
    rw [← (manned.stands s).constructed]
    cases found : v.sessions s with
    | none => simp [Event.live, found] at live
    | some x => simp [View.roll, found]
  have owned := manned.owned s
  cases here : phase s with
  | unborn | creating j =>
    rw [here] at constructed
    exact constructed
  | built j =>
    rw [here] at owned
    exact none_built j owned
  | live | leaving j | gone => trivial

theorem Manned.unborn {phase : Sid → Phase} {v : View} (manned : Manned phase marks v.roll) (new : v.sessions s = none)
    (none_creating : ∀ j, marks j ≠ .create s) : phase s = .unborn := by
  have unconstructed : ¬ (phase s).constructed := by
    rw [← (manned.stands s).constructed]
    simp [View.roll, new]
  have owned := manned.owned s
  cases here : phase s with
  | unborn => rfl
  | creating j =>
    rw [here] at owned
    exact (none_creating j owned).elim
  | built j | live | leaving j | gone => simp [here, Phase.constructed] at unconstructed

theorem Manned.begin {phase : Sid → Phase} {ρ : Roll} (manned : Manned phase marks ρ) (done : (marks k).Done)
    (new : phase s = .unborn) :
    Manned (Function.update phase s (.creating k)) (Function.update marks k (.create s)) ρ := by
  have before := manned.stands_at new
  exact (Passage.begin (marks k) done).manned new rfl manned ⟨before.constructed, before.isOpen, before.listed⟩
    fun _ _ _ stands => stands

theorem Crew.begins {allowed : Outcome → Prop} (sound : Crew.Sound P.world marks)
    (works : ∀ j, Crew.Works (marks j) (P.running j)) (idle : P.Idle k) (may : (crew cfg allowed).may P k e) :
    ∃ τ, Crew.Sound ((crew cfg allowed).begins e P.world) (Function.update marks k τ) ∧
      Crew.Works τ (e, e.program cfg) := by
  obtain ⟨enabled, -, clear⟩ := may
  obtain ⟨phase, manned⟩ := sound.manned
  have done := (works k).done idle
  have closing (s : Sid) (target : e.object = some s) (live : Event.live P.world.toView s = true) :
      Crew.Sound ((crew cfg allowed).begins e P.world) (Function.update marks k (.use s)) := by
    have known : (phase s).known := manned.known live fun j => (Crew.no_constructor works clear target j).2
    exact sound.begins (manned.retoken done known)
  have other (kept : e.creates = none) (kept' : e.closes = none) :
      ∃ τ, Crew.Sound ((crew cfg allowed).begins e P.world) (Function.update marks k τ) ∧
        Crew.Works τ (e, e.program cfg) :=
    ⟨.free, sound.begins (manned.retoken done trivial), trivial, follows_common (common_program kept kept') done_free⟩
  cases e with
  | createHintSession s tgid uid threadIds durationNanos =>
    obtain ⟨τ, which, follows⟩ := @follows_createHintSession cfg s tgid uid threadIds durationNanos
    rcases which with rfl | rfl
    · exact ⟨.free, sound.begins (manned.retoken done trivial), trivial, follows⟩
    · have new : P.world.sessions s = none := by simpa [Event.enabled] using enabled
      have unborn := manned.unborn new fun j => (Crew.no_constructor works clear rfl j).1
      exact ⟨.create s, sound.begins (manned.begin done unborn), rfl, follows⟩
  | close s => exact ⟨.use s, closing s rfl enabled, rfl, follows_close⟩
  | destroy s => exact ⟨.use s, closing s rfl enabled, rfl, follows_destroy⟩
  | _ => exact other rfl rfl

end Begin

end Invariant

def Applies (o : Outcome) : Prop := Applied o.applied

theorem Token.about_after (e : Event) (τ : Token) (a : Act) (r : Reply a) (about : τ.About e) (permitted : τ.permits a) :
    (τ.after a r).About e := by
  cases a with
  | construct s tgid uid threadIds durationNanos =>
    cases (permitted : τ = .create s)
    exact about
  | addPowerSession s => trivial
  | compareExchangeClosed s =>
    cases (permitted : τ = .use s)
    cases (r : Bool) with
    | true => exact about
    | false => trivial
  | removePowerSession s =>
    cases (permitted : τ = .remove s)
    exact about
  | _ => exact about

theorem Crew.sound_start : Crew.Sound .start fun _ => .free where
  manned := by
    refine ⟨fun _ => .unborn, fun s => ⟨?_, ?_, ?_⟩, fun _ => trivial, fun _ => trivial⟩
    · simp [Phase.constructed, View.roll, Shared.start, View.start]
    · simp [Phase.isOpen, Roll.Open, View.roll, Shared.start, View.start]
    · simp [Phase.listed, View.roll, Shared.start, View.start, Registry.empty]
  ledger := Roll.ledger_empty

theorem Crew.obeys {cfg : AdpfConfig} {P : Crew} (reachable : (crew cfg Applies).Reachable Crew.start P) :
    Threads.Obeys Token.discipline Crew.Sound Token.About Token.Done P := by
  refine reachable.always (fun _ _ => Threads.obeys_step ?_ Token.about_after ?_) ?_
  · exact fun sh marks k a o succeeds sound permitted => ⟨trivial, sound.perform succeeds permitted⟩
  · exact fun P marks k e sound works idle may => Crew.begins sound works idle may
  · exact ⟨fun _ => .free, Crew.sound_start, fun k => ⟨trivial, done_free⟩⟩

theorem Manned.listed_iff {phase : Sid → Phase} {marks : Worker → Token} {P : Crew} {s : Sid}
    (manned : Manned phase marks P.world.roll) (works : ∀ j, Crew.Works (marks j) (P.running j)) (settled : P.Settled s) :
    s ∈ P.world.registry.mSessions ↔ P.world.roll.Open s := by
  have stands := manned.stands s
  have owned := manned.owned s
  have unowned (j : Worker) (owns : (marks j).Owns s) : False := by
    have about := (works j).1
    rcases settled j with ⟨a, idle⟩ | ⟨creates, closes⟩
    · exact (works j).busy owns a idle
    · rcases owns with held | held | held
      · rw [held] at about
        exact creates about
      · rw [held] at about
        exact creates about
      · rw [held] at about
        exact closes about
  refine stands.listed.trans (Iff.trans ?_ stands.isOpen.symm)
  cases here : phase s with
  | unborn | creating j | live | gone => exact Iff.rfl
  | built j =>
    rw [here] at owned
    exact (unowned j (.inr (.inl owned))).elim
  | leaving j =>
    rw [here] at owned
    exact (unowned j (.inr (.inr owned))).elim

/-- The books of the manager are exact in the middle of any number of calls, and its sessions are those created and
not yet closed, except the ones that a thread is creating or closing. -/
theorem crew_reference_counts (cfg : AdpfConfig) (P : Crew) (reachable : (crew cfg Applies).Reachable Crew.start P) :
    let v := P.world.toView
    let m := v.registry
    let uses (t : Tid) : Nat := ∑ s ∈ m.mSessions, (v.getTidList s).count t
    (∀ s t, s ∈ m.mTidSessionListMap t ↔ s ∈ m.mSessions ∧ t ∈ v.getTidList s) ∧
      (∀ t, m.mTidRefCountMap t = if uses t = 0 then none else some (uses t : Int)) ∧
      (∀ t, m.lastProfile t = some .resetUclampGrp ↔ 0 < uses t) ∧
      ∀ s, P.Settled s → (s ∈ m.mSessions ↔ v.Registered s) := by
  intro v m uses
  obtain ⟨marks, sound, works⟩ := Crew.obeys reachable
  obtain ⟨phase, manned⟩ := sound.manned
  have same : uses = v.roll.uses := by
    funext t
    simp only [uses, Roll.uses, View.roll_tids]
    rfl
  refine ⟨fun s t => ?_, fun t => ?_, fun t => ?_, fun s settled => ?_⟩
  · rw [← View.roll_tids]
    exact sound.ledger.lists s t
  · rw [same]
    exact sound.ledger.tally.counts t
  · rw [same]
    exact sound.ledger.tally.profiles t
  · rw [View.registered_iff_open]
    exact manned.listed_iff works settled

namespace Sample

/-- A thread takes up a call and comes as far as the given number of steps. -/
def doing (allowed : Outcome → Prop) (P : Crew) (k : Worker) (e : Event) (steps : Nat) : Crew :=
  (crew cfg allowed).turns ((crew cfg allowed).begin P k e) (List.replicate steps (k, calm 0))

section Doing

variable {allowed : Outcome → Prop} {P : Crew} {k : Worker} {e : Event} {steps : Nat}

theorem doing_reachable (fits : allowed (calm 0)) (reachable : (crew cfg allowed).Reachable Crew.start P)
    (idle : ∀ j, P.Idle j) (enabled : e.enabled P.world.toView = true) (suits : e.Suits k) :
    (crew cfg allowed).Reachable Crew.start (doing allowed P k e steps) := by
  have begun : (crew cfg allowed).Step P _ := .start P k e (idle k) ⟨enabled, suits, fun j => .inl (idle j)⟩
  refine (reachable.step begun).turns _ fun next here => ?_
  rw [List.eq_of_mem_replicate here]
  exact fits

theorem doing_idle (idle : ∀ j, P.Idle j) (ended : (doing allowed P k e steps).Idle k) (j : Worker) :
    (doing allowed P k e steps).Idle j := by
  by_cases same : j = k
  · rwa [same]
  · have others : ∀ next ∈ List.replicate steps (k, calm 0), next.1 ≠ j := by
      intro next here
      rw [List.eq_of_mem_replicate here]
      exact Ne.symm same
    have kept : ((crew cfg allowed).begin P k e).running j = P.running j := Function.update_of_ne same ..
    rw [Pool.Idle, doing, Threads.turns_running others, kept]
    exact idle j

theorem start_idle (k : Worker) : Crew.start.Idle k := ⟨.ok, rfl⟩

end Doing

def creating (allowed : Outcome → Prop) (steps : Nat) : Crew :=
  doing allowed Crew.start (.binder 0) (.createHintSession 0 1 10001 [7, 7] 10) steps

theorem creating_reachable {allowed : Outcome → Prop} (fits : allowed (calm 0)) (steps : Nat) :
    (crew cfg allowed).Reachable Crew.start (creating allowed steps) :=
  doing_reachable fits .refl start_idle rfl (show Worker.binder 0 ≠ Worker.looper by decide)

def paired : Crew := doing Applies (creating Applies 20) (.binder 1) (.createHintSession 1 1 10001 [7, 8] 10) 20

def closing : Crew := doing Applies paired (.binder 1) (.close 1) 1

theorem closing_reachable : (crew cfg Applies).Reachable Crew.start closing := by
  have binder : Worker.binder 1 ≠ Worker.looper := by decide
  have first : ∀ j, (creating Applies 20).Idle j := doing_idle start_idle (by decide +kernel)
  have second : ∀ j, paired.Idle j := doing_idle first (by decide +kernel)
  have reachable : (crew cfg Applies).Reachable Crew.start paired :=
    doing_reachable (fun _ => rfl) (creating_reachable (fun _ => rfl) 20) first (by decide +kernel) binder
  exact doing_reachable (fun _ => rfl) reachable second (by decide +kernel) binder

end Sample

/- The second session still counts, although it is closed. -/
theorem crew_reference_counts_closing :
    let v := Sample.closing.world.toView
    (v.registry.mSessions = {0, 1} ∧ v.registry.mTidRefCountMap 7 = some 3 ∧
      (v.sessions 1).any (·.mSessionClosed) = true) ∧
      ∀ s t, s ∈ v.registry.mTidSessionListMap t ↔ s ∈ v.registry.mSessions ∧ t ∈ v.getTidList s :=
  ⟨by decide +kernel, (crew_reference_counts Sample.cfg _ Sample.closing_reachable).1⟩

end Pdx215.Power
