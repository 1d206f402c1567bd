import Mathlib.Data.Finset.Basic
import Mathlib.Data.List.Count

/-! What `PowerSessionManager` remembers about its sessions: `mSessions` and the two maps keyed by
thread id, as `addPowerSession` and `removePowerSession` maintain them. The answer of each
`SetTaskProfiles` call is an input, given by the position of the thread in the session's list. -/
namespace Pdx215.Power

/- A session is known to the manager by its address. -/
abbrev Sid := Nat

abbrev Tid := Int

inductive TaskProfile where
  | resetUclampGrp
  | noResetUclampGrp
  deriving DecidableEq, Repr

structure Registry where
  mSessions : Finset Sid
  mTidRefCountMap : Tid → Option Int
  mTidSessionListMap : Tid → Finset Sid
  /-- The profile that was requested last for a thread, whether or not the request succeeded. -/
  lastProfile : Tid → Option TaskProfile

namespace Registry

def empty : Registry where
  mSessions := ∅
  mTidRefCountMap := fun _ => none
  mTidSessionListMap := fun _ => ∅
  lastProfile := fun _ => none

def insertAt (m : Registry) (t : Tid) (s : Sid) : Registry :=
  { m with mTidSessionListMap := Function.update m.mTidSessionListMap t (insert s (m.mTidSessionListMap t)) }

def eraseAt (m : Registry) (t : Tid) (s : Sid) : Registry :=
  { m with mTidSessionListMap := Function.update m.mTidSessionListMap t ((m.mTidSessionListMap t).erase s) }

def setCount (m : Registry) (t : Tid) (n : Option Int) : Registry :=
  { m with mTidRefCountMap := Function.update m.mTidRefCountMap t n }

def setTaskProfile (m : Registry) (t : Tid) (p : TaskProfile) : Registry :=
  { m with lastProfile := Function.update m.lastProfile t (some p) }

/-- One round of the loop of `addPowerSession`. -/
def addTid (s : Sid) (applied : Bool) (t : Tid) (m : Registry) : Registry :=
  match m.mTidRefCountMap t with
  | none =>
    let asked := (m.insertAt t s).setTaskProfile t .resetUclampGrp
    if applied then asked.setCount t (some 1) else asked
  | some n => if n ≤ 0 then m.insertAt t s else (m.insertAt t s).setCount t (some (n + 1))

def addTids (s : Sid) (applied : Nat → Bool) : Nat → List Tid → Registry → Registry
  | _, [], m => m
  | i, t :: ts, m => addTids s applied (i + 1) ts (addTid s (applied i) t m)

def addPowerSession (s : Sid) (tids : List Tid) (applied : Nat → Bool) (m : Registry) : Registry :=
  let listed := addTids s applied 0 tids m
  { listed with mSessions := insert s listed.mSessions }

/-- One round of the loop of `removePowerSession`. A failed request only logs a warning. -/
def removeTid (s : Sid) (t : Tid) (m : Registry) : Registry :=
  match m.mTidRefCountMap t with
  | none => m
  | some n =>
    if n - 1 ≤ 0 then ((m.eraseAt t s).setTaskProfile t .noResetUclampGrp).setCount t none
    else (m.eraseAt t s).setCount t (some (n - 1))

def removeTids (s : Sid) : List Tid → Registry → Registry
  | [], m => m
  | t :: ts, m => removeTids s ts (removeTid s t m)

def removePowerSession (s : Sid) (tids : List Tid) (m : Registry) : Registry :=
  let dropped := removeTids s tids m
  { dropped with mSessions := dropped.mSessions.erase s }

section Fields

variable (m : Registry) (s r : Sid) (t u : Tid) (n : Option Int) (p : TaskProfile)

@[simp] theorem insertAt_sessions : (m.insertAt t s).mSessions = m.mSessions := rfl
@[simp] theorem insertAt_counts : (m.insertAt t s).mTidRefCountMap = m.mTidRefCountMap := rfl
@[simp] theorem insertAt_profiles : (m.insertAt t s).lastProfile = m.lastProfile := rfl
@[simp] theorem eraseAt_sessions : (m.eraseAt t s).mSessions = m.mSessions := rfl
@[simp] theorem eraseAt_counts : (m.eraseAt t s).mTidRefCountMap = m.mTidRefCountMap := rfl
@[simp] theorem eraseAt_profiles : (m.eraseAt t s).lastProfile = m.lastProfile := rfl
@[simp] theorem setCount_sessions : (m.setCount t n).mSessions = m.mSessions := rfl
@[simp] theorem setCount_lists : (m.setCount t n).mTidSessionListMap = m.mTidSessionListMap := rfl
@[simp] theorem setCount_profiles : (m.setCount t n).lastProfile = m.lastProfile := rfl
@[simp] theorem setTaskProfile_sessions : (m.setTaskProfile t p).mSessions = m.mSessions := rfl
@[simp] theorem setTaskProfile_counts : (m.setTaskProfile t p).mTidRefCountMap = m.mTidRefCountMap := rfl
@[simp] theorem setTaskProfile_lists :
    (m.setTaskProfile t p).mTidSessionListMap = m.mTidSessionListMap := rfl

@[simp] theorem setCount_counts :
    (m.setCount t n).mTidRefCountMap u = if u = t then n else m.mTidRefCountMap u := by
  simp [setCount, Function.update_apply]

@[simp] theorem setTaskProfile_profiles :
    (m.setTaskProfile t p).lastProfile u = if u = t then some p else m.lastProfile u := by
  simp [setTaskProfile, Function.update_apply]

@[simp] theorem mem_insertAt : r ∈ (m.insertAt t s).mTidSessionListMap u ↔
    (u = t ∧ r = s) ∨ r ∈ m.mTidSessionListMap u := by
  by_cases same : u = t
  · subst same
    simp [insertAt]
  · simp [insertAt, same]

@[simp] theorem mem_eraseAt : r ∈ (m.eraseAt t s).mTidSessionListMap u ↔
    ¬ (u = t ∧ r = s) ∧ r ∈ m.mTidSessionListMap u := by
  by_cases same : u = t
  · subst same
    simp [eraseAt]
  · simp [eraseAt, same]

end Fields

@[simp] theorem mem_addTid (s r : Sid) (applied : Bool) (t u : Tid) (m : Registry) :
    r ∈ (addTid s applied t m).mTidSessionListMap u ↔ (u = t ∧ r = s) ∨ r ∈ m.mTidSessionListMap u := by
  unfold addTid
  split
  · split <;> simp
  · split <;> simp

@[simp] theorem addTid_sessions (s : Sid) (applied : Bool) (t : Tid) (m : Registry) :
    (addTid s applied t m).mSessions = m.mSessions := by
  unfold addTid
  split
  · split <;> rfl
  · split <;> rfl

@[simp] theorem removeTid_sessions (s : Sid) (t : Tid) (m : Registry) :
    (removeTid s t m).mSessions = m.mSessions := by
  unfold removeTid
  split
  · rfl
  · split <;> rfl

/-- A thread without a count keeps the session in its list. -/
@[simp] theorem mem_removeTid (s r : Sid) (t u : Tid) (m : Registry) :
    r ∈ (removeTid s t m).mTidSessionListMap u ↔
      r ∈ m.mTidSessionListMap u ∧ (u = t → r = s → m.mTidRefCountMap t = none) := by
  unfold removeTid
  cases found : m.mTidRefCountMap t with
  | none => simp
  | some n => by_cases last : n - 1 ≤ 0 <;> simp [last, and_comm]

theorem removeTid_counts_ne (s : Sid) {t u : Tid} (ne : u ≠ t) (m : Registry) :
    (removeTid s t m).mTidRefCountMap u = m.mTidRefCountMap u := by
  unfold removeTid
  split
  · rfl
  · split <;> simp [ne]

theorem removeTid_counts_none (s : Sid) {t : Tid} {m : Registry} (missing : m.mTidRefCountMap t = none) :
    removeTid s t m = m := by
  simp [removeTid, missing]

@[simp] theorem mem_addTids (s r : Sid) (applied : Nat → Bool) (i : Nat) (ts : List Tid) (u : Tid)
    (m : Registry) : r ∈ (addTids s applied i ts m).mTidSessionListMap u ↔
      (u ∈ ts ∧ r = s) ∨ r ∈ m.mTidSessionListMap u := by
  induction ts generalizing i m with
  | nil => simp [addTids]
  | cons t ts ih =>
    rw [addTids, ih, mem_addTid, List.mem_cons]
    tauto

@[simp] theorem addTids_sessions (s : Sid) (applied : Nat → Bool) (i : Nat) (ts : List Tid) (m : Registry) :
    (addTids s applied i ts m).mSessions = m.mSessions := by
  induction ts generalizing i m with
  | nil => rfl
  | cons t ts ih => rw [addTids, ih, addTid_sessions]

@[simp] theorem removeTids_sessions (s : Sid) (ts : List Tid) (m : Registry) :
    (removeTids s ts m).mSessions = m.mSessions := by
  induction ts generalizing m with
  | nil => rfl
  | cons t ts ih => rw [removeTids, ih, removeTid_sessions]

/-- Other sessions stay listed; the removed one goes from exactly the lists whose thread
has a count when the loop starts. -/
@[simp] theorem mem_removeTids (s r : Sid) (ts : List Tid) (u : Tid) (m : Registry) :
    r ∈ (removeTids s ts m).mTidSessionListMap u ↔
      r ∈ m.mTidSessionListMap u ∧ (u ∈ ts → r = s → m.mTidRefCountMap u = none) := by
  induction ts generalizing m with
  | nil => simp [removeTids]
  | cons t ts ih =>
    rw [removeTids, ih, mem_removeTid, List.mem_cons]
    by_cases same : u = t
    · subst same
      -- once the first round found a count the session is gone, otherwise it changed nothing
      cases found : m.mTidRefCountMap u with
      | none =>
        rw [removeTid_counts_none s found]
        simp [found]
      | some n =>
        simp only [forall_const, reduceCtorEq, imp_false, true_or]
        tauto
    · rw [removeTid_counts_ne s same]
      tauto

@[simp] theorem mem_addPowerSession (s r : Sid) (tids : List Tid) (applied : Nat → Bool) (u : Tid)
    (m : Registry) : r ∈ (addPowerSession s tids applied m).mTidSessionListMap u ↔
      (u ∈ tids ∧ r = s) ∨ r ∈ m.mTidSessionListMap u :=
  mem_addTids s r applied 0 tids u m

@[simp] theorem addPowerSession_sessions (s : Sid) (tids : List Tid) (applied : Nat → Bool) (m : Registry) :
    (addPowerSession s tids applied m).mSessions = insert s m.mSessions := by
  simp [addPowerSession]

@[simp] theorem mem_removePowerSession (s r : Sid) (tids : List Tid) (u : Tid) (m : Registry) :
    r ∈ (removePowerSession s tids m).mTidSessionListMap u ↔
      r ∈ m.mTidSessionListMap u ∧ (u ∈ tids → r = s → m.mTidRefCountMap u = none) :=
  mem_removeTids s r tids u m

@[simp] theorem removePowerSession_sessions (s : Sid) (tids : List Tid) (m : Registry) :
    (removePowerSession s tids m).mSessions = m.mSessions.erase s := by
  simp [removePowerSession]

end Registry

/-! ### Runs of the two calls -/

inductive RegistryCall where
  | add (s : Sid) (applied : Nat → Bool)
  | remove (s : Sid)

section Runs

variable (tids : Sid → List Tid)

def registryStep (m : Registry) : RegistryCall → Registry
  | .add s applied => m.addPowerSession s (tids s) applied
  | .remove s => m.removePowerSession s (tids s)

def registryRun (m : Registry) (calls : List RegistryCall) : Registry :=
  calls.foldl (registryStep tids) m

/-- Every session is added once, and removed at most once and after it was added. -/
def Orderly (added removed : Finset Sid) : List RegistryCall → Prop
  | [] => True
  | .add s _ :: calls => s ∉ added ∧ Orderly (insert s added) removed calls
  | .remove s :: calls => s ∈ added ∧ s ∉ removed ∧ Orderly added (insert s removed) calls

/-- The sessions that are added and not yet removed are listed under all their threads, and no
session is ever listed under another thread. -/
structure Listing (added removed : Finset Sid) (m : Registry) : Prop where
  all : ∀ s ∈ added, s ∉ removed → ∀ t ∈ tids s, s ∈ m.mTidSessionListMap t
  only : ∀ s t, s ∈ m.mTidSessionListMap t → t ∈ tids s

variable {added removed : Finset Sid} {m : Registry}

theorem listing_empty : Listing tids ∅ ∅ Registry.empty where
  all _ known := absurd known (Finset.notMem_empty _)
  only _ _ here := absurd here (Finset.notMem_empty _)

variable {tids}

theorem Listing.add (listing : Listing tids added removed m) (r : Sid) (applied : Nat → Bool) :
    Listing tids (insert r added) removed (m.addPowerSession r (tids r) applied) := by
  constructor
  · intro s known kept t here
    rw [Registry.mem_addPowerSession]
    rcases Finset.mem_insert.mp known with rfl | known
    · exact .inl ⟨here, rfl⟩
    · exact .inr (listing.all s known kept t here)
  · intro s t here
    rcases (Registry.mem_addPowerSession ..).mp here with ⟨own, rfl⟩ | here
    · exact own
    · exact listing.only s t here

theorem Listing.remove (listing : Listing tids added removed m) (r : Sid) :
    Listing tids added (insert r removed) (m.removePowerSession r (tids r)) := by
  constructor
  · intro s known kept t here
    obtain ⟨other, kept⟩ := not_or.mp (Finset.mem_insert.not.mp kept)
    rw [Registry.mem_removePowerSession]
    exact ⟨listing.all s known kept t here, fun _ same => absurd same other⟩
  · intro s t here
    exact listing.only s t ((Registry.mem_removePowerSession ..).mp here).1

variable (tids) in
theorem removed_stays (s : Sid) (known : s ∈ added) (gone : s ∈ removed) (m : Registry)
    {calls : List RegistryCall} (orderly : Orderly added removed calls) :
    (s ∈ (registryRun tids m calls).mSessions ↔ s ∈ m.mSessions) ∧
      ∀ t, s ∈ (registryRun tids m calls).mTidSessionListMap t ↔ s ∈ m.mTidSessionListMap t := by
  induction calls generalizing added removed m with
  | nil => exact ⟨Iff.rfl, fun _ => Iff.rfl⟩
  | cons c calls ih =>
    cases c with
    | add r applied =>
      obtain ⟨fresh, rest⟩ := orderly
      have other : s ≠ r := fun same => fresh (same ▸ known)
      obtain ⟨sessions, lists⟩ := ih (Finset.mem_insert_of_mem known) gone
        (m.addPowerSession r (tids r) applied) rest
      exact ⟨sessions.trans (by simp [other]), fun t => (lists t).trans (by simp [other])⟩
    | remove r =>
      obtain ⟨-, fresh, rest⟩ := orderly
      have other : s ≠ r := fun same => fresh (same ▸ gone)
      obtain ⟨sessions, lists⟩ := ih known (Finset.mem_insert_of_mem gone)
        (m.removePowerSession r (tids r)) rest
      exact ⟨sessions.trans (by simp [other]), fun t => (lists t).trans (by simp [other])⟩

theorem forgotten_iff (s : Sid) (before after : List RegistryCall)
    (listing : Listing tids added removed m)
    (orderly : Orderly added removed (before ++ .remove s :: after)) :
    (s ∉ (registryRun tids m (before ++ .remove s :: after)).mSessions ∧
      ∀ t, s ∉ (registryRun tids m (before ++ .remove s :: after)).mTidSessionListMap t) ↔
      ∀ t ∈ tids s, (registryRun tids m before).mTidRefCountMap t ≠ none := by
  induction before generalizing added removed m with
  | nil =>
    obtain ⟨known, kept, rest⟩ := orderly
    obtain ⟨sessions, lists⟩ := removed_stays tids s known (Finset.mem_insert_self s removed)
      (m.removePowerSession s (tids s)) rest
    have start : registryRun tids m ([] ++ .remove s :: after) =
        registryRun tids (m.removePowerSession s (tids s)) after := rfl
    have here : registryRun tids m [] = m := rfl
    rw [start, here]
    constructor
    · intro gone t here missing
      apply gone.2 t
      rw [lists, Registry.mem_removePowerSession]
      exact ⟨listing.all s known kept t here, fun _ _ => missing⟩
    · intro counted
      refine ⟨by simp [sessions], fun t there => ?_⟩
      rw [lists, Registry.mem_removePowerSession] at there
      have own := listing.only s t there.1
      exact counted t own (there.2 own rfl)
  | cons c before ih =>
    cases c with
    | add r applied => exact ih (listing.add r applied) orderly.2
    | remove r => exact ih (listing.remove r) orderly.2.2

/-- A removed session is forgotten, right after its removal and ever after, if and only if each of
its threads had a reference count when `removePowerSession` was called. -/
theorem removed_session_forgotten_iff (tids : Sid → List Tid) (s : Sid) (before after : List RegistryCall)
    (orderly : Orderly ∅ ∅ (before ++ .remove s :: after)) :
    (s ∉ (registryRun tids .empty (before ++ .remove s :: after)).mSessions ∧
      ∀ t, s ∉ (registryRun tids .empty (before ++ .remove s :: after)).mTidSessionListMap t) ↔
      ∀ t ∈ tids s, (registryRun tids .empty before).mTidRefCountMap t ≠ none :=
  forgotten_iff s before after (listing_empty tids) orderly

/- Two sessions share a thread and the profile of the second one's own thread is refused. -/
theorem removed_session_forgotten_shared :
    let tids : Sid → List Tid := fun s => if s = 0 then [7, 7] else [7, 8]
    let before : List RegistryCall := [.add 0 fun _ => true, .add 1 fun _ => false]
    (0 ∉ (registryRun tids .empty (before ++ [.remove 0, .remove 1])).mSessions ∧
      ∀ t, 0 ∉ (registryRun tids .empty (before ++ [.remove 0, .remove 1])).mTidSessionListMap t) :=
  (removed_session_forgotten_iff _ 0 _ _ (by simp [Orderly])).mpr (by decide)

/- The profile call fails when the only session is added: the thread gets no count, and the
removal skips it before it reaches the session list. -/
theorem removed_session_survives :
    let tids : Sid → List Tid := fun _ => [7]
    let calls : List RegistryCall := [.add 0 fun _ => false, .remove 0]
    Orderly ∅ ∅ calls ∧ 0 ∉ (registryRun tids .empty calls).mSessions ∧
      0 ∈ (registryRun tids .empty calls).mTidSessionListMap 7 := by
  refine ⟨by simp [Orderly], by decide, by decide⟩

end Runs

end Pdx215.Power
