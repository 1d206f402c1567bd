import Pdx215.Gpt.UpdateRules

/-! The writes of the staged update as changes of the four values that are mounted on the disk. -/
namespace Pdx215.Gpt
open Region Effect

/-- The disk carries the tables `t` at the places `p`, and is `d` elsewhere. -/
structure Mounted (env : Env) (p : Place) (d : Bytes) (t : Tables) (w : World) : Prop where
  sound : p.Sound
  blk : p.blk = env.blkSize
  size : d.length = p.size
  fits : t.Fits p
  disk : w.disk = mount p d t

namespace Tables

def setState (env : Env) (t : Tables) (gpt : GptInstance) (state : GptState) : Tables :=
  t.setHdr gpt (withState env state (t.hdr gpt))

def target (env : Env) (boot : BootChain) (t : Tables) : Bytes × Int :=
  chainSwap env boot (t.arr .primary) (pentrySize (t.hdr .primary))

def chainHeader (env : Env) (boot : BootChain) (t : Tables) : Tables :=
  t.setHdr .secondary (withArray env (t.target env boot).1 (t.hdr .secondary))

def setChain (env : Env) (boot : BootChain) (t : Tables) : Tables :=
  (t.chainHeader env boot).setArr .secondary (t.target env boot).1

section Simp

variable (env : Env) (t : Tables) (gpt : GptInstance) (state : GptState) (boot : BootChain)

@[simp] theorem setState_same : (t.setState env gpt state).hdr gpt = withState env state (t.hdr gpt) :=
  setHdr_hdr_same ..
@[simp] theorem setState_primary : (t.setState env .primary state).hdr .secondary = t.hdr .secondary := rfl
@[simp] theorem setState_secondary : (t.setState env .secondary state).hdr .primary = t.hdr .primary := rfl
@[simp] theorem setState_arr : (t.setState env gpt state).arr = t.arr := rfl
@[simp] theorem chainHeader_primary : (t.chainHeader env boot).hdr .primary = t.hdr .primary := rfl
@[simp] theorem chainHeader_secondary :
    (t.chainHeader env boot).hdr .secondary = withArray env (t.target env boot).1 (t.hdr .secondary) :=
  setHdr_hdr_same ..
@[simp] theorem chainHeader_arr : (t.chainHeader env boot).arr = t.arr := rfl
@[simp] theorem setChain_primary : (t.setChain env boot).hdr .primary = t.hdr .primary := rfl
@[simp] theorem setChain_secondary :
    (t.setChain env boot).hdr .secondary = withArray env (t.target env boot).1 (t.hdr .secondary) :=
  chainHeader_secondary env t boot
@[simp] theorem setChain_arr_primary : (t.setChain env boot).arr .primary = t.arr .primary := rfl
@[simp] theorem setChain_arr_secondary : (t.setChain env boot).arr .secondary = (t.target env boot).1 :=
  setArr_arr_same ..

end Simp

theorem length_target (env : Env) (boot : BootChain) (t : Tables) :
    (t.target env boot).1.length = (t.arr .primary).length := by
  unfold target chainSwap
  cases boot with
  | backupBoot => exact gptBootChainSwap_length env _ _
  | normalBoot => rfl

end Tables

theorem mounted_tablesOf {env : Env} {w : World} (laid : LaidOut env w.disk) :
    Mounted env (placeOf env w.disk) w.disk (tablesOf env w.disk) w :=
  ⟨laid.sound, rfl, rfl, laid.fits, (mount_tablesOf env w.disk).symm⟩

namespace Mounted

variable {env : Env} {p : Place} {d : Bytes} {t : Tables} {w : World}

theorem large (on : Mounted env p d t w) (gpt : GptInstance) : 92 ≤ (t.hdr gpt).length := by
  have large := on.sound.large
  rw [on.fits.hdr]
  omega

theorem length (on : Mounted env p d t w) : w.disk.length = p.size := by
  rw [on.disk, length_mount, on.size]

theorem room (on : Mounted env p d t w) : 2 * env.blkSize ≤ w.disk.length := by
  rw [on.length, ← on.blk]
  exact on.sound.headers

theorem headerOff (on : Mounted env p d t w) (gpt : GptInstance) : headerOff env w.disk gpt = p.off gpt := by
  cases gpt <;> simp only [Gpt.headerOff, Place.off, on.length, on.blk]

theorem header (on : Mounted env p d t w) (gpt : GptInstance) : header env w.disk gpt = t.hdr gpt := by
  rw [on.disk]
  exact header_mount on.sound on.blk on.size on.fits gpt

theorem entries (on : Mounted env p d t w) (gpt : GptInstance) : entries env w.disk gpt = t.arr gpt := by
  rw [on.disk]
  exact entries_mount on.sound on.blk on.size on.fits gpt

theorem entriesStart (on : Mounted env p d t w) (gpt : GptInstance) :
    entriesStart env w.disk gpt = p.start gpt := by
  rw [Gpt.entriesStart, on.header, ← on.blk, on.fits.start]

theorem valid (on : Mounted env p d t w) (gpt : GptInstance) :
    CompletelyValid env w.disk gpt ↔ t.Valid env gpt := by
  rw [on.disk]
  exact completelyValid_mount on.sound on.blk on.size on.fits gpt

theorem unique {u : Tables} (on : Mounted env p d t w) (on' : Mounted env p d u w) : t = u := by
  refine Tables.ext ?_ ?_ <;> intro gpt
  · rw [← on.header, on'.header]
  · rw [← on.entries, on'.entries]

theorem setLun (on : Mounted env p d t w) (chain : BootChain) : Mounted env p d t (w.setLun chain) :=
  ⟨on.sound, on.blk, on.size, on.fits, on.disk⟩

theorem setState (on : Mounted env p d t w) (gpt : GptInstance) (state : GptState) :
    Mounted env p d (t.setState env gpt state) (w.setState env gpt state) := by
  refine ⟨on.sound, on.blk, on.size, on.fits.withState env gpt state, ?_⟩
  simp only [World.setState, World.put, on.headerOff, on.header]
  rw [on.disk]
  exact splice_mount_hdr on.sound on.fits gpt (by rw [length_withState, on.fits.hdr])

theorem chainArray (on : Mounted env p d t w) : chainArray env w.disk = t.arr .primary := by
  have inside := on.sound.arrays .primary
  rw [Gpt.chainArray, readInto_of_fits]
  · rw [List.length_replicate]
    exact on.entries .primary
  · rw [List.length_replicate, on.entriesStart, entriesSize, on.header, on.fits.len, on.length]
    exact inside

theorem chainResult (on : Mounted env p d t w) (boot : BootChain) :
    chainResult env boot w.disk = t.target env boot := by
  rw [Gpt.chainResult, on.chainArray, on.header, Tables.target]

theorem source (on : Mounted env p d t w)
    (array : partitionCrc (t.hdr .primary) = (env.crc32 (t.arr .primary)).toNat) : ChainSource env w.disk := by
  constructor
  · have inside := on.sound.arrays .primary
    rw [on.entriesStart, on.length]
    omega
  · rw [on.header, on.chainArray, array]

theorem space (on : Mounted env p d t w) (boot : BootChain) :
    ¬ NoSpace w.disk (Gpt.entriesStart env w.disk .secondary) (Gpt.chainResult env boot w.disk).1.length := by
  apply not_noSpace
  rw [on.chainResult, Tables.length_target, on.fits.arr, on.entriesStart, on.length]
  exact on.sound.arrays .secondary

theorem chainHeader (on : Mounted env p d t w) (boot : BootChain) :
    Mounted env p d (t.chainHeader env boot) (w.chainHeader env boot) := by
  refine ⟨on.sound, on.blk, on.size, on.fits.withArray env .secondary _, ?_⟩
  simp only [World.chainHeader, World.put, on.headerOff, on.header, on.chainResult]
  rw [on.disk]
  exact splice_mount_hdr on.sound on.fits .secondary (by rw [length_withArray, on.fits.hdr])

theorem setChain (on : Mounted env p d t w) (boot : BootChain) :
    Mounted env p d (t.setChain env boot) (w.setChain env boot) := by
  have first := on.chainHeader boot
  have length : (t.target env boot).1.length = p.len := by
    rw [Tables.length_target, on.fits.arr]
  refine ⟨on.sound, on.blk, on.size, first.fits.setArr length, ?_⟩
  simp only [World.setChain, World.put, on.entriesStart, on.chainResult]
  rw [first.disk]
  exact splice_mount_arr on.sound first.fits .secondary length

end Mounted

/-! A device with a boot LUN and a disk of five blocks, with one entry and its backup in each table. -/
namespace Sample

def env : Env where
  crc32 := zlibCrc32
  heap _ := 0
  blkSize := 512
  blk_large := by decide
  bootdevice := cstr "soc/1d84000.ufshc"
  stat path := path = xblPrimary ∨ path = xblBackup
  readlink path :=
    if path = xblPrimary then some (cstr "/dev/block/sdb1")
    else if path = xblBackup then some (cstr "/dev/block/sdc1") else none
  readdir path :=
    if path = cstr "/dev" then some [cstr "block", cstr "ufs-bsg0"]
    else if path = cstr "/sys/block/sdb/device/scsi_generic" then some [cstr ".", cstr "..", cstr "sg1"]
    else if path = cstr "/sys/block/sdc/device/scsi_generic" then some [cstr ".", cstr "..", cstr "sg2"]
    else none

def entry (guid : UInt8) (name : String) : Bytes :=
  splice (splice (List.replicate 128 0) 0 [guid]) 56 ((cstr name).flatMap (fun c => [c, 0]))

def place : Place where
  blk := 512
  size := 2560
  start := fun
    | .primary => 1024
    | .secondary => 1536
  len := 256

def bare (lba : Nat) : Bytes :=
  put4Bytes (put4Bytes (put4Bytes (put4Bytes (List.replicate 512 0) headerSizeOffset 92) pentriesOffset lba)
    partitionCountOffset 2) pentrySizeOffset 128

def lba : GptInstance → Nat
  | .primary => 2
  | .secondary => 3

def tables (first second : Bytes) : Tables where
  hdr gpt := withState env .ok (withArray env (first ++ second) (bare (lba gpt)))
  arr _ := first ++ second

def disk (first second : Bytes) : Bytes := mount place (List.replicate 2560 0) (tables first second)

def world : World where
  disk := disk (entry 1 "abl") (entry 2 "ablbak")
  bootLun := bootLunAId
  writes := 0

theorem sound : place.Sound := by
  refine ⟨by decide, by decide, ?_, apart_of_le (by decide), ?_, apart_of_le (by decide)⟩
  · intro gpt
    cases gpt <;> decide
  · intro gpt gpt'
    cases gpt with
    | primary => cases gpt' <;> exact apart_of_le (by decide)
    | secondary => cases gpt' <;> exact (apart_of_le (by decide)).symm

theorem sameLayout (first second : Bytes) (gpt : GptInstance) :
    SameLayout ((tables first second).hdr gpt) (bare (lba gpt)) :=
  (sameLayout_withState env .ok _).trans (sameLayout_withArray env _ _)

theorem length_entry (guid : UInt8) (name : String) : (entry guid name).length = 128 := by
  rw [entry, length_splice, length_splice, List.length_replicate]

theorem length_bare (lba : Nat) : (bare lba).length = 512 := by
  simp only [bare, length_put4Bytes, List.length_replicate]

theorem bare_fields (gpt : GptInstance) :
    headerSize (bare (lba gpt)) = 92 ∧ pentriesStart 512 (bare (lba gpt)) = place.start gpt ∧
      partitionCount (bare (lba gpt)) = 2 ∧ pentrySize (bare (lba gpt)) = 128 := by
  cases gpt <;> decide +kernel

theorem fits {first second : Bytes} (one : first.length = 128) (two : second.length = 128) :
    (tables first second).Fits place := by
  refine ⟨?_, ?_, ?_, ?_⟩ <;> intro gpt
  · rw [tables, length_withState, length_withArray, length_bare, place]
  · rw [tables, List.length_append, one, two, place]
  · exact ((sameLayout first second gpt).arrayStart 512).trans (bare_fields gpt).2.1
  · rw [(sameLayout first second gpt).arraySize, pentriesArraySize, (bare_fields gpt).2.2.1, (bare_fields gpt).2.2.2]
    rfl

theorem valid (first second : Bytes) (gpt : GptInstance) : (tables first second).Valid env gpt := by
  have large : 92 ≤ (bare (lba gpt)).length := by rw [length_bare]; decide
  refine ⟨headerState_withState_ok env (by rwa [length_withArray]), ?_⟩
  rw [tables, partitionCrc_withState, partitionCrc_withArray env _ large]

theorem mounted {first second : Bytes} (one : first.length = 128) (two : second.length = 128)
    (bootLun writes : Nat) : Mounted env place (List.replicate 2560 0) (tables first second)
      ⟨disk first second, bootLun, writes⟩ :=
  ⟨sound, rfl, List.length_replicate, fits one two, rfl⟩

/-- The secondary header has the last block, and each array a block of its own. -/
theorem wellFormed {first second : Bytes} (one : first.length = 128) (two : second.length = 128) :
    WellFormed env (disk first second) := by
  have on := mounted one two 0 0
  refine ⟨laidOut_mount sound rfl on.size on.fits ?_ ?_, ?_, ?_⟩
  · rw [(sameLayout first second _).count, (sameLayout first second _).count, (bare_fields _).2.2.1,
      (bare_fields _).2.2.1]
  · rw [(sameLayout first second _).entry, (sameLayout first second _).entry, (bare_fields _).2.2.2,
      (bare_fields _).2.2.2]
  · exact fun gpt => (on.valid gpt).mpr (valid first second gpt)
  · intro gpt
    have hdr : header env (disk first second) gpt = _ := on.header gpt
    rw [hdr, (sameLayout first second gpt).size, (bare_fields gpt).1]
    decide

theorem world_mounted : Mounted env place (List.replicate 2560 0) (tables (entry 1 "abl") (entry 2 "ablbak")) world :=
  mounted (length_entry _ _) (length_entry _ _) _ _

theorem world_pair :
    (gptBootChainSwap env (entries env world.disk .primary) (pentrySize (header env world.disk .primary))).2 = 0 := by
  rw [world_mounted.entries, world_mounted.header, (sameLayout _ _ _).entry]
  decide +kernel

theorem usesXbl : UsesXbl env := ⟨rfl, rfl, rfl⟩

theorem lunResolves (chain : BootChain) : LunResolves env chain := by
  cases chain <;> exact ⟨rfl, rfl⟩

theorem world_wellFormed : WellFormed env world.disk := wellFormed (length_entry _ _) (length_entry _ _)

end Sample

end Pdx215.Gpt
