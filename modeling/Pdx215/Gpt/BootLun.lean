import Pdx215.Gpt.Stages

/-! The boot LUN and the partition tables in `UPDATE_MAIN`. The LUN is switched before the steps
that can fail or find nothing to do, and none of their exits switches it back. -/
namespace Pdx215.Gpt
open Region Effect

/-- The code would still take the primary header for a GPT header. -/
def SignatureIntact (env : Env) (d : Bytes) : Prop :=
  (header env d .primary).take gptSignature.length = gptSignature

instance (env : Env) (d : Bytes) : Decidable (SignatureIntact env d) :=
  inferInstanceAs (Decidable (_ = _))

def CallsOk (io : Nat → Outcome) (first last : Nat) : Prop := ∀ m, first ≤ m → m < last → io m = .ok

theorem callsOk_of_okTo {io : Nat → Outcome} {first last : Nat}
    (ok : OkTo (fun n o => o = io n) first last) : CallsOk io first last :=
  fun m lower upper => (ok m lower upper).symm

/-- After the switch of the boot LUN the primary header gets its signature destroyed: the calls of
`gpt2_set_boot_chain` succeed, the primary array is right and has an entry with a backup, and the
calls of `gpt_set_state` succeed too (or the new secondary array was itself written over the signature). -/
structure TablesFollow (env : Env) (io : Nat → Outcome) (w : World) : Prop where
  chain : CallsOk io 15 29
  source : ChainSource env w.disk
  pair : (chainResult env .backupBoot w.disk).2 = 0
  space : ¬ NoSpace w.disk (entriesStart env w.disk .secondary) (chainResult env .backupBoot w.disk).1.length
  corrupted : CallsOk io 29 35 ∨ ¬ SignatureIntact env (w.setChain env .backupBoot).disk

section Signature

variable {env : Env} {w : World}

theorem signatureIntact_of_ok {d : Bytes} (ok : headerState env (header env d .primary) = .ok) :
    SignatureIntact env d := (headerState_ok.mp ok).2

/-- With three blocks the two headers do not touch. -/
theorem signatureIntact_chainHeader (room : 3 * env.blkSize ≤ w.disk.length) (boot : BootChain) :
    SignatureIntact env (w.chainHeader env boot).disk ↔ SignatureIntact env w.disk := by
  have fits := headerOff_fits env (d := w.disk) (by omega) .secondary
  have length : (withArray env (chainResult env boot w.disk).1 (header env w.disk .secondary)).length =
      env.blkSize := by
    rw [length_withArray, header, length_slice fits]
  have apart : Apart (headerOff env w.disk .secondary) env.blkSize (headerOff env w.disk .primary) env.blkSize := by
    refine (apart_of_le ?_).symm
    simp only [headerOff]
    omega
  have same : header env (w.chainHeader env boot).disk .primary = header env w.disk .primary := by
    unfold header
    rw [World.chainHeader, World.put]
    exact slice_splice_apart (by rw [length]; exact apart)
  rw [SignatureIntact, same, SignatureIntact]

theorem not_signatureIntact_setState (room : 2 * env.blkSize ≤ w.disk.length) :
    ¬ SignatureIntact env (w.setState env .primary .badSignature).disk := by
  have fits := headerOff_fits env room .primary
  have sized : (header env w.disk .primary).length = env.blkSize := length_slice fits
  have large : 92 ≤ (header env w.disk .primary).length := by
    have := env.blk_large
    omega
  have same : header env (w.setState env .primary .badSignature).disk .primary =
      withState env .badSignature (header env w.disk .primary) := by
    have whole : (withState env .badSignature (header env w.disk .primary)).length = env.blkSize := by
      rw [length_withState, sized]
    rw [header, World.setState, World.put, ← whole]
    exact slice_splice_same (by rw [whole]; exact fits)
  intro intact
  rw [SignatureIntact, same] at intact
  have state := headerState_withState_bad env large
  have crc := headerState_ne_badCrc.mp (show headerState env _ ≠ .badCrc by rw [state]; decide)
  have ok := headerState_ok.mpr ⟨crc, intact⟩
  rw [state] at ok
  cases ok

end Signature

/-- When the property holds: the LUN was B before, the call ended before the switch, or the tables
followed. -/
def LunConsistent (env : Env) (io : Nat → Outcome) (w : World) : Prop :=
  w.bootLun = bootLunBId ∨ ¬ CallsOk io 0 15 ∨
  ¬ Expected .updateMain (headerState env (header env w.disk .primary)) (headerState env (header env w.disk .secondary)) ∨
  ¬ LunResolves env .backupBoot ∨ TablesFollow env io w

section Main

variable {env : Env} {io : Nat → Outcome} {w : World}

/-- The call may end here: the property holds of this state exactly if it should. -/
def Fair (env : Env) (io : Nat → Outcome) (w v : World) : Prop :=
  (SignatureIntact env v.disk → v.bootLun = w.bootLun) ↔ LunConsistent env io w

theorem fair_unswitched {v : World} (same : v.bootLun = w.bootLun) (ended : LunConsistent env io w) :
    Fair env io w v := ⟨fun _ => ended, fun _ _ => same⟩

theorem not_callsOk {m first last : Nat} {left : Option Bytes} (lower : first ≤ m) (upper : m < last)
    (failed : .error left = io m) : ¬ CallsOk io first last := by
  intro fine
  have ok := fine m lower upper
  rw [← failed] at ok
  cases ok

theorem wp_updateMainTables_lun (atomic : ∀ n, (io n).Atomic) (room : 3 * env.blkSize ≤ w.disk.length)
    (before : CallsOk io 0 15)
    (expected : Expected .updateMain (headerState env (header env w.disk .primary))
      (headerState env (header env w.disk .secondary)))
    (resolves : LunResolves env .backupBoot) :
    wp (react env) (fun n o => o = io n) (fun _ => True) (updateMainTables env)
      (fun _ _ v => Fair env io w v) 15 (w.setLun .backupBoot) := by
  have all : AllAtomic (fun n o => o = io n) := by
    rintro n o rfl
    exact atomic n
  have intact : SignatureIntact env w.disk := signatureIntact_of_ok expected.1
  have half := (signatureIntact_chainHeader room .backupBoot).mpr intact
  have followed : TablesFollow env io w → ∀ v, Fair env io w v ↔
      (SignatureIntact env v.disk → v.bootLun = w.bootLun) :=
    fun follows v => iff_true_right (.inr (.inr (.inr (.inr follows))))
  have alone : ∀ v : World, v.bootLun = bootLunBId → SignatureIntact env v.disk → ¬ TablesFollow env io w →
      Fair env io w v := by
    intro v lun kept not
    constructor
    · exact fun property => .inl (lun ▸ property kept).symm
    · rintro (same | early | unexpected | lost | follows) -
      · exact lun.trans same.symm
      · exact (early before).elim
      · exact (unexpected expected).elim
      · exact (lost resolves).elim
      · exact (not follows).elim
  have room' : 2 * env.blkSize ≤ (w.setLun .backupBoot).disk.length := Nat.le_trans (by omega) room
  refine wp_bind (wp_gpt2SetBootChain all trivial room' ?_ ?_ ?_ (fun _ => trivial) ?_ ?_ ?_)
  · intro m left lower upper failed
    refine wp_ret trivial (alone _ rfl intact (fun follows => ?_))
    exact not_callsOk lower (Nat.lt_trans upper (by decide)) failed follows.chain
  · exact fun refused m => wp_ret trivial (alone _ rfl intact (fun follows => refused follows.source))
  · intro _ none m
    refine wp_ite (fun _ => wp_ret trivial (alone _ rfl intact ?_)) (fun zero => (zero none).elim)
    exact fun follows => none follows.pair
  · intro _ m left lower upper failed
    refine wp_ret trivial (alone _ rfl half (fun follows => ?_))
    exact not_callsOk (Nat.le_trans (by decide) lower) upper failed follows.chain
  · exact fun _ full m => wp_ret trivial (alone _ rfl half (fun follows => follows.space full))
  intro ok source pair space
  refine ⟨trivial, wp_ite (fun failed => (failed rfl).elim) (fun _ => ?_)⟩
  have room₂ : 2 * env.blkSize ≤ ((w.setLun .backupBoot).setChain env .backupBoot).disk.length := by
    simp only [World.setChain, World.chainHeader, World.put, length_splice]
    exact room'
  have follows : CallsOk io 29 35 ∨ ¬ SignatureIntact env (w.setChain env .backupBoot).disk → TablesFollow env io w :=
    fun corrupted => ⟨callsOk_of_okTo ok, source, pair, space, corrupted⟩
  refine wp_gptSetState all (by decide) trivial room₂ ?_ trivial (fun ok' => ?_)
  · intro m left lower upper failed
    by_cases kept : SignatureIntact env (w.setChain env .backupBoot).disk
    · refine alone _ rfl kept (fun done => ?_)
      exact done.corrupted.elim (not_callsOk lower upper failed) (fun gone => gone kept)
    · exact (followed (follows (.inr kept)) _).mpr (fun intact => (kept intact).elim)
  · refine (followed (follows (.inl (callsOk_of_okTo ok'))) _).mpr (fun intact => ?_)
    exact (not_signatureIntact_setState room₂ intact).elim

end Main

/-- On a target with xbl LUNs, whatever the disk holds and whichever calls fail: if `UPDATE_MAIN`
leaves the primary signature intact, it leaves the boot LUN alone, exactly under `LunConsistent`. -/
theorem updateMain_lun_iff (env : Env) (uses : UsesXbl env) (path : Bytes) (io : Nat → Outcome)
    (atomic : ∀ n, (io n).Atomic) (w : World) (room : 3 * env.blkSize ≤ w.disk.length) :
    let after := (exec (react env) io (preparePartitions env .updateMain (some path)) 0 w).2
    (SignatureIntact env after.disk → after.bootLun = w.bootLun) ↔ LunConsistent env io w := by
  have all : AllAtomic (fun n o => o = io n) := by
    rintro n o rfl
    exact atomic n
  have early : ∀ m left, m < 15 → .error left = io m → Fair env io w w :=
    fun m left upper failed => fair_unswitched rfl (.inr (.inl (not_callsOk (Nat.zero_le m) upper failed)))
  have spec : wp (react env) (fun n o => o = io n) (fun _ => True) (preparePartitions env .updateMain (some path))
      (fun _ _ v => Fair env io w v) 0 w := by
    refine wp_preparePartitions all.noShort trivial (by omega) ?_ ?_ (fun ok => ?_)
    · exact fun m left _ upper failed => early m left (by omega) failed
    · exact fun m left _ upper failed => early m left (by omega) failed
    refine wp_dispatchStage trivial ?_ (fun expected => ?_)
    · exact fun unexpected => fair_unswitched rfl (.inr (.inr (.inl unexpected)))
    refine wp_afterSwitch all.noShort trivial (fun other => (other uses).elim) ?_ ?_ (fun _ ok' found => ?_)
    · exact fun _ m left _ upper failed => early m left (by omega) failed
    · exact fun _ lost m => fair_unswitched rfl (.inr (.inr (.inr (.inl lost))))
    · exact wp_updateMainTables_lun atomic room (callsOk_of_okTo (ok.append ok')) expected found
  obtain ⟨_, fair⟩ := exec_post spec (fun _ => rfl)
  exact fair

/-- If no entry has a backup, the switch of the boot LUN is all that a call for `UPDATE_MAIN` does. -/
theorem uninterrupted_unpaired {env : Env} {p : Place} {d : Bytes} {t : Tables} {w : World}
    (on : Mounted env p d t w) (valid : ∀ gpt, t.Valid env gpt) (uses : UsesXbl env)
    (found : LunResolves env .backupBoot) (unpaired : 0 < (t.target env .backupBoot).2) (path : Bytes) :
    uninterrupted env path .updateMain w = (0, w.setLun .backupBoot) := by
  have switched := on.setLun .backupBoot
  have source := switched.source (valid .primary).array
  have spec : wp (react env) Fine (fun _ => True) (preparePartitions env .updateMain (some path))
      (fun r _ v => (r, v) = (0, w.setLun .backupBoot)) 0 w := by
    refine wp_preparePartitions fine_atomic.noShort trivial on.room .fine .fine (fun _ => ?_)
    rw [on.header, on.header, (valid .primary).state, (valid .secondary).state]
    refine wp_dispatchStage trivial (fun unexpected => (unexpected ⟨rfl, rfl⟩).elim) (fun _ => ?_)
    refine wp_afterSwitch fine_atomic.noShort trivial (fun other => (other uses).elim) (fun _ => .fine)
      (fun _ lost => (lost found).elim) (fun _ _ _ => ?_)
    refine wp_bind (wp_gpt2SetBootChain fine_atomic trivial switched.room .fine (fun none => (none source).elim)
      (fun _ alone _ => ?_) (fun _ => trivial) (fun _ => .fine) (fun _ full => (switched.space _ full).elim) ?_)
    · rw [switched.chainResult] at alone ⊢
      rw [if_pos alone, if_neg (Int.not_lt.mpr (Int.le_of_lt unpaired))]
      exact wp_ret trivial rfl
    · intro _ _ pair
      rw [switched.chainResult] at pair
      exact absurd pair (Int.ne_of_gt unpaired)
  obtain ⟨_, result⟩ := exec_post spec (fun _ => rfl)
  exact result

theorem updateMain_lun_sample :
    let after := (exec (react Sample.env) (fun _ => .ok)
      (preparePartitions Sample.env .updateMain (some (cstr "/dev/block/sda"))) 0 Sample.world).2
    UsesXbl Sample.env ∧ ((SignatureIntact Sample.env after.disk → after.bootLun = Sample.world.bootLun) ↔
      LunConsistent Sample.env (fun _ => .ok) Sample.world) := by
  have room : 3 * Sample.env.blkSize ≤ Sample.world.disk.length := by
    rw [Sample.world_mounted.length]
    decide
  have uses := Sample.usesXbl
  exact ⟨uses, updateMain_lun_iff Sample.env uses _ (fun _ => .ok) (fun _ => trivial) Sample.world room⟩

def Sample.lone : World where
  disk := Sample.disk (Sample.entry 1 "abl") (Sample.entry 2 "tz")
  bootLun := bootLunAId
  writes := 0

/-- No call fails and the answer is 0, but the device now boots from LUN B with the tables as before. -/
theorem updateMain_switches_lun_alone :
    let result := exec (react Sample.env) (fun _ => .ok)
      (preparePartitions Sample.env .updateMain (some (cstr "/dev/block/sda"))) 0 Sample.lone
    UsesXbl Sample.env ∧ result.1 = 0 ∧ SignatureIntact Sample.env result.2.disk ∧
      result.2.bootLun ≠ Sample.lone.bootLun := by
  have on : Mounted Sample.env Sample.place (List.replicate 2560 0) _ Sample.lone :=
    Sample.mounted (Sample.length_entry _ _) (Sample.length_entry _ _) _ _
  have valid := Sample.valid (Sample.entry 1 "abl") (Sample.entry 2 "tz")
  have unpaired : 0 < (Tables.target Sample.env .backupBoot
      (Sample.tables (Sample.entry 1 "abl") (Sample.entry 2 "tz"))).2 := by
    rw [Tables.target, (Sample.sameLayout _ _ _).entry, (Sample.bare_fields _).2.2.2]
    decide +kernel
  have result := uninterrupted_unpaired on valid Sample.usesXbl (Sample.lunResolves _) unpaired
    (cstr "/dev/block/sda")
  rw [uninterrupted] at result
  simp only [result]
  refine ⟨Sample.usesXbl, trivial, ?_, by decide⟩
  rw [SignatureIntact, (on.setLun _).header]
  exact (headerState_ok.mp (valid .primary).state).2

end Pdx215.Gpt
