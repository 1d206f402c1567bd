import Pdx215.Gpt.Exchange
import Pdx215.Gpt.Stages

/-! The three stages one after the other give back the disk they started from. -/
namespace Pdx215.Gpt
open Region Effect

namespace Tables

variable {env : Env} {arr : Bytes} {t : Tables}

structure Twins (env : Env) (t : Tables) : Prop where
  valid : ∀ gpt, t.Valid env gpt
  large : ∀ gpt, 92 ≤ (t.hdr gpt).length
  same : t.arr .secondary = t.arr .primary

theorem Twins.safe (twins : t.Twins env) : t.Safe env (t.arr .primary) := by
  have ok := fun gpt => (twins.valid gpt).state
  refine ⟨rfl, (twins.valid .primary).array, ?_, ?_, .inl (ok _)⟩
  · rw [ok]; decide
  · rw [ok]; decide

/-- After the first stage the secondary table is in force, with the swapped entries. -/
theorem Twins.main (twins : t.Twins env) :
    (t.afterMain env).Safe env (t.arr .primary) ∧
    headerState env ((t.afterMain env).hdr .primary) = .badSignature ∧
    (t.afterMain env).Valid env .secondary := by
  have ok := fun gpt => (twins.valid gpt).state
  have second := valid_setChain (twins.large .secondary) (ok .secondary) .backupBoot
  have chained := twins.safe.setChain (ok _) (twins.large .secondary) .backupBoot
  refine ⟨chained.setPrimary_bad (twins.large .primary) second, ?_, ⟨second.state, second.array⟩⟩
  rw [afterMain, setState_same, setChain_primary, headerState_withState_bad env (twins.large .primary)]

theorem length_afterMain (env : Env) (t : Tables) (gpt : GptInstance) :
    ((t.afterMain env).hdr gpt).length = (t.hdr gpt).length := by
  cases gpt
  · rw [afterMain, setState_same, length_withState, setChain_primary]
  · rw [afterMain, setState_primary, setChain_secondary, length_withArray]

theorem Twins.backup (twins : t.Twins env) :
    ((t.afterMain env).afterBackup env).hdr .primary = t.hdr .primary ∧
    ((t.afterMain env).afterBackup env).Safe env (t.arr .primary) ∧
    headerState env (((t.afterMain env).afterBackup env).hdr .secondary) = .badSignature := by
  have ok := fun gpt => (twins.valid gpt).state
  have large : ∀ gpt, 92 ≤ ((t.afterMain env).hdr gpt).length := by
    intro gpt
    rw [length_afterMain]
    exact twins.large gpt
  have restored : ((t.afterMain env).setState env .primary .ok).hdr .primary = t.hdr .primary := by
    rw [setState_same, afterMain, setState_same, setChain_primary,
      withState_ok_withState_bad (twins.large .primary) (ok .primary)]
  have safe := twins.main.1.setPrimary_ok (large .primary)
  rw [afterBackup]
  refine ⟨?_, safe.setSecondary ?_ ?_ (by decide), ?_⟩
  · rw [setState_secondary, restored]
  · rw [restored, ok]
  · rw [setState_primary]
    exact large .secondary
  · rw [setState_same, setState_primary, headerState_withState_bad env (large .secondary)]

/-- The secondary header goes through four changes that cancel out. -/
theorem Twins.finalize (twins : t.Twins env) :
    ((t.afterMain env).afterBackup env).afterFinalize env = t := by
  have ok := fun gpt => (twins.valid gpt).state
  have large := twins.large .secondary
  have fixed : withArray env (t.arr .primary) (t.hdr .secondary) = t.hdr .secondary :=
    withArray_of_match large (by rw [ok]; decide) (by rw [(twins.valid .secondary).array, twins.same])
  have target : (((t.afterMain env).afterBackup env).target env .normalBoot).1 = t.arr .primary := by
    rw [Tables.target, chainSwap, afterBackup, setState_arr, setState_arr, afterMain, setState_arr,
      setChain_arr_primary]
  refine Tables.ext ?_ ?_ <;> intro gpt <;> cases gpt
  · rw [afterFinalize, setState_secondary, setChain_primary, twins.backup.1]
  · rw [afterFinalize, setState_same, setChain_secondary, target, afterBackup, setState_same, setState_primary,
      afterMain, setState_primary, setChain_secondary, withArray_withState, withArray_withArray, fixed,
      withState_ok_withState_bad large (ok _)]
  · rw [afterFinalize, setState_arr, setChain_arr_primary, afterBackup, setState_arr, setState_arr, afterMain,
      setState_arr, setChain_arr_primary]
  · rw [afterFinalize, setState_arr, setChain_arr_secondary, target, twins.same]

end Tables

/-- Main, backup and finalize on valid tables with the same whole entries, one of which has a backup: each stage
succeeds, one table at a time is in force in between, the secondary one with the pairs exchanged, and in the end no
byte has changed. -/
theorem update_cycle_identity (env : Env) (path : Bytes) (w : World) (laid : LaidOut env w.disk)
    (valid : ∀ gpt, CompletelyValid env w.disk gpt)
    (same : entries env w.disk .secondary = entries env w.disk .primary) (count : Nat)
    (large : ptnEntrySize ≤ pentrySize (header env w.disk .primary))
    (whole : (entries env w.disk .primary).length = count * pentrySize (header env w.disk .primary))
    (pair : ∃ p i j, SwapPair env count (pentrySize (header env w.disk .primary)) (entries env w.disk .primary) p i j)
    (lun : ∀ chain, UsesXbl env → LunResolves env chain) :
    let main := uninterrupted env path .updateMain w
    let backup := uninterrupted env path .updateBackup main.2
    let finalize := uninterrupted env path .updateFinalize backup.2
    (main.1 = 0 ∧ backup.1 = 0 ∧ finalize.1 = 0) ∧ finalize.2.disk = w.disk ∧
    (¬ CompletelyValid env main.2.disk .primary ∧ CompletelyValid env main.2.disk .secondary ∧
      Exchanged env count (pentrySize (header env w.disk .primary)) (entries env w.disk .primary)
        (entries env main.2.disk .secondary) ∧
      entries env main.2.disk .secondary =
        (gptBootChainSwap env (entries env w.disk .primary) (pentrySize (header env w.disk .primary))).1) ∧
    (CompletelyValid env backup.2.disk .primary ∧ ¬ CompletelyValid env backup.2.disk .secondary ∧
      entries env backup.2.disk .primary = entries env w.disk .primary) := by
  intro main backup finalize
  have on := mounted_tablesOf laid
  have twins : (tablesOf env w.disk).Twins env :=
    ⟨fun gpt => (on.valid gpt).mp (valid gpt), on.large, same⟩
  have ok := fun gpt => (twins.valid gpt).state
  obtain ⟨safe₁, bad₁, valid₁⟩ := twins.main
  obtain ⟨hdr₂, safe₂, bad₂⟩ := twins.backup
  have ok₂ : headerState env ((((tablesOf env w.disk).afterMain env).afterBackup env).hdr .primary) = .ok := by
    rw [hdr₂, ok]
  have ready₀ : Ready env .updateMain (tablesOf env w.disk) :=
    ⟨⟨ok _, ok _⟩, lun _, (gptBootChainSwap_zero_iff large whole).mpr pair⟩
  obtain ⟨zero₁, -, on₁⟩ := uninterrupted_ready on twins.safe ready₀ path
  have ready₁ : Ready env .updateBackup ((tablesOf env w.disk).afterMain env) := ⟨⟨bad₁, valid₁.state⟩, lun _⟩
  obtain ⟨zero₂, -, on₂⟩ := uninterrupted_ready on₁ safe₁ ready₁ path
  have ready₂ : Ready env .updateFinalize (((tablesOf env w.disk).afterMain env).afterBackup env) :=
    ⟨⟨ok₂, bad₂⟩, trivial⟩
  obtain ⟨zero₃, -, on₃⟩ := uninterrupted_ready on₂ safe₂ ready₂ path
  simp only [Tables.after] at on₁ on₂ on₃
  rw [twins.finalize] at on₃
  have swapped : entries env main.2.disk .secondary =
      (gptBootChainSwap env (entries env w.disk .primary) (pentrySize (header env w.disk .primary))).1 :=
    on₁.entries .secondary
  refine ⟨⟨zero₁, zero₂, zero₃⟩, ?_, ⟨?_, ?_, ?_, swapped⟩, ?_, ?_, ?_⟩
  · exact on₃.disk.trans (mount_tablesOf env w.disk)
  · intro first
    have state := ((on₁.valid .primary).mp first).state
    rw [bad₁] at state
    cases state
  · exact (on₁.valid .secondary).mpr valid₁
  · rw [swapped]
    exact gptBootChainSwap_exchanged large whole
  · exact (on₂.valid .primary).mpr (safe₂.valid ok₂)
  · intro second
    have state := ((on₂.valid .secondary).mp second).state
    rw [bad₂] at state
    cases state
  · exact (on₂.entries .primary).trans safe₂.array

theorem Sample.twins : (Sample.tables (Sample.entry 1 "abl") (Sample.entry 2 "ablbak")).Twins Sample.env :=
  ⟨Sample.valid _ _, Sample.world_mounted.large, rfl⟩

theorem Sample.ready : Ready Sample.env .updateMain (Sample.tables (Sample.entry 1 "abl") (Sample.entry 2 "ablbak")) := by
  have pair := Sample.world_pair
  rw [Sample.world_mounted.entries, Sample.world_mounted.header] at pair
  exact ⟨⟨(Sample.twins.valid _).state, (Sample.twins.valid _).state⟩, fun _ => Sample.lunResolves _, pair⟩

theorem Sample.world_swapPair : SwapPair Sample.env 2 (pentrySize (header Sample.env Sample.world.disk .primary))
    (entries Sample.env Sample.world.disk .primary) (cstr "abl") 0 1 := by
  rw [Sample.world_mounted.entries, Sample.world_mounted.header, (Sample.sameLayout _ _ _).entry]
  refine ⟨by decide +kernel, by decide +kernel, by decide, by decide, .inl (by decide +kernel), .inr (by decide +kernel), ?_⟩
  intro k below _
  omega

/-- The secondary array differs from the primary one after the first stage. -/
theorem update_cycle_identity_sample :
    let main := uninterrupted Sample.env (cstr "/dev/block/sda") .updateMain Sample.world
    let backup := uninterrupted Sample.env (cstr "/dev/block/sda") .updateBackup main.2
    let finalize := uninterrupted Sample.env (cstr "/dev/block/sda") .updateFinalize backup.2
    CompletelyValid Sample.env Sample.world.disk .primary ∧
    entries Sample.env main.2.disk .secondary ≠ entries Sample.env Sample.world.disk .primary ∧
    finalize.2.disk = Sample.world.disk := by
  have formed := Sample.world_wellFormed
  have on := Sample.world_mounted
  have same : entries Sample.env Sample.world.disk .secondary = entries Sample.env Sample.world.disk .primary := by
    rw [on.entries, on.entries]
    rfl
  have size : pentrySize (header Sample.env Sample.world.disk .primary) = 128 := by
    rw [on.header, (Sample.sameLayout _ _ _).entry, (Sample.bare_fields _).2.2.2]
  have large : ptnEntrySize ≤ pentrySize (header Sample.env Sample.world.disk .primary) := by
    rw [size]
    decide
  have array : entries Sample.env Sample.world.disk .primary = Sample.entry 1 "abl" ++ Sample.entry 2 "ablbak" :=
    on.entries .primary
  have whole : (entries Sample.env Sample.world.disk .primary).length =
      2 * pentrySize (header Sample.env Sample.world.disk .primary) := by
    rw [size, array, List.length_append, Sample.length_entry, Sample.length_entry]
  obtain ⟨-, back, ⟨-, -, exchanged, -⟩, -⟩ := update_cycle_identity Sample.env (cstr "/dev/block/sda") Sample.world
    formed.laid formed.valid same 2 large whole ⟨_, _, _, Sample.world_swapPair⟩
    fun chain _ => Sample.lunResolves chain
  refine ⟨formed.valid .primary, fun unchanged => ?_, back⟩
  have first := (exchanged.pairs _ 0 1 Sample.world_swapPair 0 (by decide)).1
  rw [unchanged, size, array] at first
  -- the first bytes of the two entries are their type GUIDs
  exact absurd first (by decide +kernel)

end Pdx215.Gpt
