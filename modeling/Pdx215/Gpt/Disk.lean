import Pdx215.Gpt.Mounted
import Pdx215.Gpt.Names

/-! The `gpt_disk` interface: loading both partition tables of the disk that holds a partition,
recalculating their CRCs and writing them back. -/
namespace Pdx215.Gpt
open Region Effect

def gptDiskInitMagic : Nat := 0xABCD

/-- `struct gpt_disk`. A null buffer is empty. -/
structure GptDisk where
  hdr : Bytes
  hdrCrc : Nat
  hdrBak : Bytes
  hdrBakCrc : Nat
  pentryArr : Bytes
  pentryArrBak : Bytes
  pentryArrSize : Nat
  pentrySize : Nat
  pentryArrCrc : Nat
  pentryArrBakCrc : Nat
  devpath : Bytes
  blockSize : Nat
  isInitialized : Nat

def gptDiskAlloc : GptDisk := ⟨[], 0, [], 0, [], [], 0, 0, 0, 0, [], 0, 0⟩

/-- `snprintf(path, sizeof(path), "%s/%s", BOOT_DEV_DIR, partname)`. -/
def byNamePath (partname : Bytes) : Bytes := (bootDevDir ++ cstr "/" ++ cstring partname).take (pathMax - 1)

def getDevPathFromPartitionName (env : Env) (partname : Bytes) : Io (Option Bytes) := do
  if gptUtilsIsUfsDevice env then
    let path := byNamePath partname
    if !env.stat path then return none
    let some link ← Sys.readlink path | return none
    return some (link.take pathTruncateLoc)
  else return some (cstr "/dev/block/mmcblk0")

/-- The end of `gpt_get_header`. A failed allocation is only noticed by the read into the null buffer. -/
def gptFillHeader (gpt : GptInstance) (blockSize : Nat) (hdr : Option Bytes) : Io (Option Bytes) := do
  let some hdrOffset ← headerOffset gpt blockSize | return none
  let some hdr := hdr | return none
  blkRead hdrOffset hdr

def gptGetHeader (env : Env) (partname : Bytes) (gpt : GptInstance) : Io (Option Bytes) := do
  let some devpath ← getDevPathFromPartitionName env partname | return none
  if !(← Sys.openDev devpath) then return none
  let some blockSize ← Sys.blkSszGet | return none
  let hdr ← malloc env blockSize
  gptFillHeader gpt blockSize hdr

def gptGetPentryArr (hdr : Bytes) : Io (Option Bytes) := do
  let some blockSize ← Sys.blkSszGet | return none
  let some arr ← calloc (pentriesArraySize hdr) | return none
  blkRead (pentriesStart blockSize hdr) arr

def gptSetHeader (env : Env) (hdr : Bytes) (gpt : GptInstance) : Io Int := do
  let some blockSize ← Sys.blkSszGet | return -1
  let some off ← headerOffset gpt blockSize | return -1
  if off = 0 then return -1
  if (← blkWrite off (peek env hdr 0 blockSize)) ≠ 0 then return -1
  return 0

def gptSetPentryArr (env : Env) (hdr arr : Bytes) : Io Int := do
  let some blockSize ← Sys.blkSszGet | return -1
  if (← blkWrite (pentriesStart blockSize hdr) (peek env arr 0 (pentriesArraySize hdr))) ≠ 0 then return -1
  return 0

def crcOf (env : Env) (buf : Bytes) (size : Nat) : Nat := (env.crc32 (peek env buf 0 size)).toNat

/-- The result code and the structure as it was filled in. -/
def gptDiskGetDiskInfo (env : Env) (dev : Bytes) (disk : GptDisk) : Io (Int × GptDisk) := do
  let some hdr ← gptGetHeader env dev .primary | return (-1, disk)
  let size := headerSize hdr
  let disk := { disk with hdr := hdr, hdrCrc := crcOf env hdr size }
  let some hdrBak ← gptGetHeader env dev .secondary | return (-1, disk)
  let disk := { disk with hdrBak := hdrBak, hdrBakCrc := crcOf env hdrBak size }
  let some devpath ← getDevPathFromPartitionName env dev | return (-1, disk)
  let disk := { disk with devpath := devpath }
  if !(← Sys.openDev devpath) then return (-1, disk)
  let some arr ← gptGetPentryArr hdr | return (-1, disk)
  let disk := { disk with pentryArr := arr }
  let some arrBak ← gptGetPentryArr hdrBak | return (-1, disk)
  let blockSize ← Sys.blkSszGet
  return (0, { disk with
    pentryArrBak := arrBak
    pentrySize := pentrySize hdr
    pentryArrSize := pentriesArraySize hdr
    pentryArrCrc := partitionCrc hdr
    pentryArrBakCrc := partitionCrc hdrBak
    blockSize := blockSize.getD 0
    isInitialized := gptDiskInitMagic })

def GptDisk.entryArray (disk : GptDisk) : GptInstance → Bytes
  | .primary => disk.pentryArr
  | .secondary => disk.pentryArrBak

structure EntryPtr where
  gpt : GptInstance
  offset : Nat
  deriving DecidableEq, Repr

/-- A null argument is `none`. -/
def gptDiskGetPentry (env : Env) (disk : Option GptDisk) (partname : Option Bytes) (gpt : GptInstance) :
    Option EntryPtr :=
  match disk, partname with
  | some disk, some partname =>
    if disk.isInitialized ≠ gptDiskInitMagic then none
    else
      -- the size is that of the primary array for both instances
      let ptnArr := peek env (disk.entryArray gpt) 0 disk.pentryArrSize
      (gptPentrySeek env partname ptnArr 0 disk.pentrySize).map (EntryPtr.mk gpt)
  | _, _ => none

def gptDiskUpdateCrc (env : Env) (disk : GptDisk) : Int × GptDisk :=
  if disk.isInitialized ≠ gptDiskInitMagic then (-1, disk)
  else
    let arrCrc := crcOf env disk.pentryArr disk.pentryArrSize
    let arrBakCrc := crcOf env disk.pentryArrBak disk.pentryArrSize
    let hdr := put4Bytes disk.hdr partitionCrcOffset arrCrc
    let hdrBak := put4Bytes disk.hdrBak partitionCrcOffset arrBakCrc
    -- the size in the primary header serves for both
    let size := headerSize hdr
    (0, { disk with
      pentryArrCrc := arrCrc
      pentryArrBakCrc := arrBakCrc
      hdrCrc := crcOfHeader env size hdr
      hdrBakCrc := crcOfHeader env size hdrBak
      hdr := sealHeader env size hdr
      hdrBak := sealHeader env size hdrBak })

def gptDiskCommit (env : Env) (disk : GptDisk) : Io Int := do
  if disk.isInitialized ≠ gptDiskInitMagic then return -1
  if !(← Sys.openDev disk.devpath) then return -1
  if (← gptSetHeader env disk.hdr .primary) ≠ 0 then return -1
  if (← gptSetPentryArr env disk.hdr disk.pentryArr) ≠ 0 then return -1
  if (← gptSetHeader env disk.hdrBak .secondary) ≠ 0 then return -1
  if (← gptSetPentryArr env disk.hdrBak disk.pentryArrBak) ≠ 0 then return -1
  Sys.fsync
  return 0

end Pdx215.Gpt
