import Pdx215.Gpt.Mounted

/-! The staged update is crash safe: however its calls are ordered and wherever each of them is cut
off or fails, the disk keeps a valid partition table that the next call recognises. -/
namespace Pdx215.Gpt
open Region Effect

/-- What holds of the tables between any two writes. `arr` is the primary array, which no stage
writes; the primary header always describes it. -/
structure Tables.Safe (env : Env) (arr : Bytes) (t : Tables) : Prop where
  array : t.arr .primary = arr
  describes : partitionCrc (t.hdr .primary) = (env.crc32 (t.arr .primary)).toNat
  primary : headerState env (t.hdr .primary) ≠ .badCrc
  secondary : headerState env (t.hdr .secondary) ≠ .badCrc
  one : headerState env (t.hdr .primary) = .ok ∨ t.Valid env .secondary

namespace Tables.Safe

variable {env : Env} {arr : Bytes} {t : Tables}

theorem valid (safe : t.Safe env arr) (ok : headerState env (t.hdr .primary) = .ok) : t.Valid env .primary :=
  ⟨ok, safe.describes⟩

theorem some_valid (safe : t.Safe env arr) : ∃ gpt, t.Valid env gpt := by
  rcases safe.one with ok | second
  · exact ⟨.primary, safe.valid ok⟩
  · exact ⟨.secondary, second⟩

theorem no_abort (safe : t.Safe env arr) :
    abortsOnCrc (headerState env (t.hdr .primary)) (headerState env (t.hdr .secondary)) = false ∧
    abortsOnSignatures (headerState env (t.hdr .primary)) (headerState env (t.hdr .secondary)) = false := by
  have first := safe.primary
  have second := safe.secondary
  refine ⟨by simp [abortsOnCrc, first, second], ?_⟩
  rcases safe.one with ok | valid
  · simp [abortsOnSignatures, ok]
  · simp [abortsOnSignatures, valid.state]

theorem setPrimary_ok (safe : t.Safe env arr) (large : 92 ≤ (t.hdr .primary).length) :
    (t.setState env .primary .ok).Safe env arr := by
  have ok : headerState env ((t.setState env .primary .ok).hdr .primary) = .ok := by
    rw [setState_same, headerState_withState_ok env large]
  refine ⟨safe.array, ?_, by rw [ok]; decide, safe.secondary, .inl ok⟩
  rw [setState_same, partitionCrc_withState, safe.describes, setState_arr]

theorem setPrimary_bad (safe : t.Safe env arr) (large : 92 ≤ (t.hdr .primary).length)
    (second : t.Valid env .secondary) : (t.setState env .primary .badSignature).Safe env arr := by
  refine ⟨safe.array, ?_, ?_, safe.secondary, .inr ⟨second.state, second.array⟩⟩
  · rw [setState_same, partitionCrc_withState, safe.describes, setState_arr]
  · rw [setState_same, headerState_withState_bad env large]
    decide

/- As long as the primary table is in force, the secondary one may be anything that has a CRC. -/
theorem secondary_any (safe : t.Safe env arr) (ok : headerState env (t.hdr .primary) = .ok) {u : Tables}
    (hdr : u.hdr .primary = t.hdr .primary) (same : u.arr .primary = t.arr .primary)
    (sealed : headerState env (u.hdr .secondary) ≠ .badCrc) : u.Safe env arr := by
  refine ⟨?_, ?_, ?_, sealed, .inl ?_⟩
  · rw [same, safe.array]
  · rw [hdr, same, safe.describes]
  · rw [hdr]
    exact safe.primary
  · rw [hdr, ok]

theorem setSecondary (safe : t.Safe env arr) (ok : headerState env (t.hdr .primary) = .ok)
    (large : 92 ≤ (t.hdr .secondary).length) {state : GptState} (settable : state ≠ .badCrc) :
    (t.setState env .secondary state).Safe env arr := by
  refine safe.secondary_any ok rfl rfl ?_
  rw [setState_same, headerState_withState env large settable]
  exact settable

theorem chainHeader (safe : t.Safe env arr) (ok : headerState env (t.hdr .primary) = .ok)
    (large : 92 ≤ (t.hdr .secondary).length) (boot : BootChain) : (t.chainHeader env boot).Safe env arr := by
  refine safe.secondary_any ok rfl rfl ?_
  rw [chainHeader_secondary, headerState_withArray _ large safe.secondary]
  exact safe.secondary

theorem setChain (safe : t.Safe env arr) (ok : headerState env (t.hdr .primary) = .ok)
    (large : 92 ≤ (t.hdr .secondary).length) (boot : BootChain) : (t.setChain env boot).Safe env arr :=
  safe.secondary_any ok rfl rfl (safe.chainHeader ok large boot).secondary

end Tables.Safe

theorem Tables.valid_setChain {env : Env} {t : Tables} (large : 92 ≤ (t.hdr .secondary).length)
    (ok : headerState env (t.hdr .secondary) = .ok) (boot : BootChain) :
    (t.setChain env boot).Valid env .secondary := by
  constructor
  · rw [setChain_secondary, headerState_withArray _ large (by rw [ok]; decide), ok]
  · rw [setChain_secondary, partitionCrc_withArray env _ large, setChain_arr_secondary]

def SafeDisk (env : Env) (p : Place) (d arr : Bytes) (w : World) : Prop :=
  ∃ t, Mounted env p d t w ∧ t.Safe env arr

section Stages

variable {env : Env} {allowed : Nat → Outcome → Prop} {p : Place} {d arr : Bytes} {t : Tables}
  {w : World} {n : Nat}

/-- A step lemma for `gpt_set_state`: a safe change of the state is safe wherever it stops. -/
theorem wp_gptSetState_safe (atomic : AllAtomic allowed) {gpt : GptInstance} {state : GptState}
    {post : Int → Nat → World → Prop} (settable : state ≠ .badCrc) (on : Mounted env p d t w)
    (safe : t.Safe env arr) (later : (t.setState env gpt state).Safe env arr) (fails : ∀ m, post (-1) m w)
    (done : ∀ m, post 0 m (w.setState env gpt state)) :
    wp (react env) allowed (SafeDisk env p d arr) (gptSetState env gpt state) post n w :=
  wp_gptSetState atomic settable ⟨t, on, safe⟩ on.room (fun m _ _ _ _ => fails (m + 1))
    ⟨_, on.setState gpt state, later⟩ (fun _ => done _)

/-- The same for `gpt2_set_boot_chain`, which runs only while the primary table is in force. -/
theorem wp_gpt2SetBootChain_safe (atomic : AllAtomic allowed) {boot : BootChain}
    {post : Int → Nat → World → Prop} (on : Mounted env p d t w) (safe : t.Safe env arr)
    (ok : headerState env (t.hdr .primary) = .ok) (stays : ∀ r m, r ≠ 0 → post r m w)
    (half : ∀ m, post (-1) m (w.chainHeader env boot)) (done : ∀ m, post 0 m (w.setChain env boot)) :
    wp (react env) allowed (SafeDisk env p d arr) (gpt2SetBootChain env boot) post n w := by
  have large := on.large .secondary
  have first : SafeDisk env p d arr (w.chainHeader env boot) :=
    ⟨_, on.chainHeader boot, safe.chainHeader ok large boot⟩
  have second : SafeDisk env p d arr (w.setChain env boot) :=
    ⟨_, on.setChain boot, safe.setChain ok large boot⟩
  exact wp_gpt2SetBootChain atomic ⟨t, on, safe⟩ on.room (fun m _ _ _ _ => stays _ _ (by decide))
    (fun _ m => stays _ m (by decide)) (fun _ none m => stays _ m none) (fun _ => first)
    (fun _ m _ _ _ _ => half _) (fun _ _ m => half m) (fun _ _ _ _ => ⟨second, done _⟩)

theorem wp_updateMain_safe (atomic : AllAtomic allowed) (on : Mounted env p d t w) (safe : t.Safe env arr)
    (ok : headerState env (t.hdr .primary) = .ok) (ok' : headerState env (t.hdr .secondary) = .ok) :
    wp (react env) allowed (SafeDisk env p d arr) (updateMain env) (fun _ _ _ => True) n w := by
  suffices rest : ∀ m v, Mounted env p d t v →
      wp (react env) allowed (SafeDisk env p d arr) (updateMainTables env) (fun _ _ _ => True) m v from
    wp_afterSwitch atomic.noShort ⟨t, on, safe⟩ (fun _ => rest n w on) (fun _ _ _ _ _ _ => trivial)
      (fun _ _ _ => trivial) (fun _ _ _ => rest _ _ (on.setLun _))
  intro m v on
  have large := on.large .secondary
  have chained := safe.setChain ok large .backupBoot
  have corrupted := chained.setPrimary_bad (on.large .primary) (Tables.valid_setChain large ok' .backupBoot)
  refine wp_bind (wp_gpt2SetBootChain_safe atomic on safe ok ?_ ?_ ?_)
  · intro r k failed
    rw [if_pos failed]
    exact wp_ret ⟨t, on, safe⟩ trivial
  · exact fun k => wp_ret ⟨_, on.chainHeader .backupBoot, safe.chainHeader ok large .backupBoot⟩ trivial
  · exact fun k => wp_gptSetState_safe atomic (by decide) (on.setChain .backupBoot) chained corrupted
      (fun _ => trivial) (fun _ => trivial)

theorem wp_updateBackup_safe (atomic : AllAtomic allowed) (on : Mounted env p d t w) (safe : t.Safe env arr) :
    wp (react env) allowed (SafeDisk env p d arr) (updateBackup env) (fun _ _ _ => True) n w := by
  suffices rest : ∀ m v, Mounted env p d t v →
      wp (react env) allowed (SafeDisk env p d arr) (updateBackupTables env) (fun _ _ _ => True) m v from
    wp_afterSwitch atomic.noShort ⟨t, on, safe⟩ (fun _ => rest n w on) (fun _ _ _ _ _ _ => trivial)
      (fun _ _ _ => trivial) (fun _ _ _ => rest _ _ (on.setLun _))
  intro m v on
  have restored := safe.setPrimary_ok (on.large .primary)
  have ok : headerState env ((t.setState env .primary .ok).hdr .primary) = .ok := by
    rw [Tables.setState_same, headerState_withState_ok env (on.large .primary)]
  refine wp_bind (wp_gptSetState_safe atomic (by decide) on safe restored ?_ ?_)
  · exact fun k => wp_ret ⟨t, on, safe⟩ trivial
  · refine fun k => wp_ite (fun failed => (failed rfl).elim) (fun _ => ?_)
    exact wp_gptSetState_safe atomic (by decide) (on.setState .primary .ok) restored
      (restored.setSecondary ok (on.large .secondary) (by decide)) (fun _ => trivial) (fun _ => trivial)

theorem wp_updateFinalize_safe (atomic : AllAtomic allowed) (on : Mounted env p d t w) (safe : t.Safe env arr)
    (ok : headerState env (t.hdr .primary) = .ok) :
    wp (react env) allowed (SafeDisk env p d arr) (updateFinalize env) (fun _ _ _ => True) n w := by
  have large := on.large .secondary
  have fix : ∀ {u : Tables} {v : World} {m : Nat}, Mounted env p d u v → u.Safe env arr →
      headerState env (u.hdr .primary) = .ok →
      wp (react env) allowed (SafeDisk env p d arr) (gptSetState env .secondary .ok) (fun _ _ _ => True) m v := by
    intro u v m on safe ok
    exact wp_gptSetState_safe atomic (by decide) on safe
      (safe.setSecondary ok (on.large .secondary) (by decide)) (fun _ => trivial) (fun _ => trivial)
  refine wp_bind (wp_gpt2SetBootChain_safe atomic on safe ok ?_ ?_ ?_)
  · exact fun r k _ => wp_ite (fun _ => wp_ret ⟨t, on, safe⟩ trivial) (fun _ => fix on safe ok)
  · exact fun k => wp_ret ⟨_, on.chainHeader .normalBoot, safe.chainHeader ok large .normalBoot⟩ trivial
  · exact fun k => fix (on.setChain .normalBoot) (safe.setChain ok large .normalBoot) ok

theorem wp_preparePartitions_safe (atomic : AllAtomic allowed) (stage : BootUpdateStage)
    (path : Option Bytes) (now : SafeDisk env p d arr w) :
    wp (react env) allowed (SafeDisk env p d arr) (preparePartitions env stage path) (fun _ _ _ => True) n w := by
  obtain ⟨t, on, safe⟩ := now
  cases path with
  | none => exact wp_ret ⟨t, on, safe⟩ trivial
  | some path =>
    refine wp_preparePartitions atomic.noShort ⟨t, on, safe⟩ on.room (fun _ _ _ _ _ => trivial)
      (fun _ _ _ _ _ => trivial) (fun _ => ?_)
    rw [on.header, on.header]
    refine wp_dispatchStage ⟨t, on, safe⟩ (fun _ => trivial) (fun expected => ?_)
    cases stage with
    | updateMain => exact wp_updateMain_safe atomic on safe expected.1 expected.2
    | updateBackup => exact wp_updateBackup_safe atomic on safe
    | updateFinalize => exact wp_updateFinalize_safe atomic on safe expected.1

end Stages

/-- One call of `prepare_partitions`: its stage, and what happens to its system calls. A call is cut
off where its outcomes end. -/
structure Call where
  stage : BootUpdateStage
  outcomes : List Outcome

def history (env : Env) (path : Option Bytes) : World → List Call → List World
  | w, [] => [w]
  | w, call :: calls =>
    states (react env) (preparePartitions env call.stage path) w call.outcomes ++
      history env path (run (react env) (preparePartitions env call.stage path) w call.outcomes).2 calls

theorem history_safe {env : Env} {p : Place} {d arr : Bytes} (path : Option Bytes) (calls : List Call)
    (atomic : ∀ call ∈ calls, ∀ o ∈ call.outcomes, Outcome.Atomic o) {w : World} (now : SafeDisk env p d arr w) :
    ∀ v ∈ history env path w calls, SafeDisk env p d arr v := by
  induction calls generalizing w with
  | nil =>
    intro v here
    cases List.mem_singleton.mp here
    exact now
  | cons call calls ih =>
    obtain ⟨here, later⟩ := List.forall_mem_cons.mp atomic
    have fit : ∀ i o, call.outcomes[i]? = some o → Outcome.Atomic o :=
      fun i o found => here o (List.mem_of_getElem? found)
    have step : wp (react env) (fun _ => Outcome.Atomic) (SafeDisk env p d arr)
        (preparePartitions env call.stage path) (fun _ _ _ => True) 0 w :=
      wp_preparePartitions_safe (fun _ _ h => h) call.stage path now
    intro v reached
    rcases List.mem_append.mp reached with during | after
    · exact states_inv step call.outcomes fit v during
    · exact ih later (run_inv step call.outcomes fit) v after

theorem WellFormed.safe {env : Env} {w : World} (formed : WellFormed env w.disk) :
    SafeDisk env (placeOf env w.disk) w.disk (entries env w.disk .primary) w := by
  have ok : ∀ gpt, headerState env (header env w.disk gpt) = .ok := fun gpt => (formed.valid gpt).state
  refine ⟨tablesOf env w.disk, mounted_tablesOf formed.laid, rfl, (formed.valid .primary).array, ?_, ?_, .inl (ok _)⟩
  · rw [tablesOf, ok]; decide
  · rw [tablesOf, ok]; decide

/-- Whatever calls are made and wherever they stop or fail, every state on the way has a completely
valid table and the original primary array, and `prepare_partitions` has no reason to abort. -/
theorem staged_update_crash_safe (env : Env) (path : Option Bytes) (w : World)
    (formed : WellFormed env w.disk) (calls : List Call)
    (atomic : ∀ call ∈ calls, ∀ o ∈ call.outcomes, Outcome.Atomic o) :
    ∀ v ∈ history env path w calls,
      (∃ gpt, CompletelyValid env v.disk gpt) ∧
      entries env v.disk .primary = entries env w.disk .primary ∧
      (∀ gpt, reportedState env v gpt ≠ some .badCrc) ∧
      ¬ (∀ gpt, reportedState env v gpt = some .badSignature) ∧
      abortsOnCrc (headerState env (header env v.disk .primary))
        (headerState env (header env v.disk .secondary)) = false ∧
      abortsOnSignatures (headerState env (header env v.disk .primary))
        (headerState env (header env v.disk .secondary)) = false := by
  intro v reached
  obtain ⟨t, on, safe⟩ := history_safe path calls atomic formed.safe v reached
  obtain ⟨gpt, valid⟩ := safe.some_valid
  simp only [on.header, on.entries, safe.array, reportedState_eq on.room, ne_eq, Option.some.injEq]
  refine ⟨⟨gpt, (on.valid gpt).mpr valid⟩, trivial, ?_, ?_, safe.no_abort⟩
  · intro gpt
    cases gpt with
    | primary => exact safe.primary
    | secondary => exact safe.secondary
  · intro both
    have state := both gpt
    rw [valid.state] at state
    cases state

/-- An update that loses power in its second write, is repeated, and then fails to open the disk. -/
theorem staged_update_crash_safe_sample :
    WellFormed Sample.env Sample.world.disk ∧
    ∀ v ∈ history Sample.env (some (cstr "/dev/block/sda")) Sample.world
      [⟨.updateMain, List.replicate 28 .ok⟩, ⟨.updateMain, List.replicate 40 .ok⟩, ⟨.updateBackup, [.error none]⟩],
      ∃ gpt, CompletelyValid Sample.env v.disk gpt := by
  refine ⟨Sample.world_wellFormed, fun v reached => ?_⟩
  refine (staged_update_crash_safe Sample.env _ Sample.world Sample.world_wellFormed _ ?_ v reached).1
  intro call listed o happened
  simp only [List.mem_cons, List.not_mem_nil, or_false] at listed
  rcases listed with rfl | rfl | rfl
  · rw [List.eq_of_mem_replicate happened]
    trivial
  · rw [List.eq_of_mem_replicate happened]
    trivial
  · rw [List.mem_singleton.mp happened]
    rfl

end Pdx215.Gpt
