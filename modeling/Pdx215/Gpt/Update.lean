import Pdx215.Gpt.Swap

/-! The staged update: reading and changing the state of the two headers, switching the boot
chain of the secondary table and the boot LUN, and the stage logic over them. -/
namespace Pdx215.Gpt
open Region Effect

inductive GptState where
  | ok | badSignature | badCrc
  deriving DecidableEq, Repr

inductive BootChain where
  | normalBoot | backupBoot
  deriving DecidableEq, Repr

inductive BootUpdateStage where
  | updateMain | updateBackup | updateFinalize
  deriving DecidableEq, Repr

def BootUpdateStage.toInt : BootUpdateStage → Int
  | .updateMain => 1
  | .updateBackup => 2
  | .updateFinalize => 3

/-- The header CRC is calculated with its own field cleared. -/
def crcOfHeader (env : Env) (size : Nat) (h : Bytes) : Nat :=
  (env.crc32 (peek env (put4Bytes h headerCrcOffset 0) 0 size)).toNat

def headerState (env : Env) (h : Bytes) : GptState :=
  if crcOfHeader env (headerSize h) h ≠ headerCrc h then .badCrc
  else if h.take gptSignature.length ≠ gptSignature then .badSignature
  else .ok

def sealHeader (env : Env) (size : Nat) (h : Bytes) : Bytes :=
  put4Bytes (put4Bytes h headerCrcOffset 0) headerCrcOffset (crcOfHeader env size h)

def headerOffset (gpt : GptInstance) (blkSize : Nat) : Io (Option Nat) := do
  match gpt with
  | .primary => return some blkSize
  | .secondary =>
    let some last ← Sys.seekEnd | return none
    if last < blkSize then return none
    return some (last - blkSize)

def readHeader (env : Env) (gpt : GptInstance) : Io (Option (Nat × Bytes)) := do
  let some blkSize ← Sys.blkSszGet | return none
  let some buf ← malloc env blkSize | return none
  let some off ← headerOffset gpt blkSize | return none
  let some h ← blkRead off buf | return none
  return some (off, h)

def gptGetState (env : Env) (gpt : GptInstance) : Io (Option GptState) := do
  let some (_, h) ← readHeader env gpt | return none
  return some (headerState env h)

def gptSetState (env : Env) (gpt : GptInstance) (state : GptState) : Io Int := do
  let some (off, h) ← readHeader env gpt | return -1
  match state with
  | .ok =>
    let h := splice h 0 gptSignature
    blkWrite off (sealHeader env (headerSize h) h)
  | .badSignature =>
    let h := splice h 0 [0]
    blkWrite off (sealHeader env (headerSize h) h)
  | .badCrc => return -1

/-- The array for the secondary table, with the result of looking for pairs to swap. -/
def chainSwap (env : Env) (boot : BootChain) (pentries : Bytes) (pentrySize : Nat) : Bytes × Int :=
  match boot with
  | .backupBoot => gptBootChainSwap env pentries pentrySize
  | .normalBoot => (pentries, 0)

/-- The end of `gpt2_set_boot_chain`: the secondary header `h2` and the array are changed in memory
and written back. -/
def chainWrite (env : Env) (blkSize gpt2HeaderOffset : Nat) (h2 : Bytes) (swapped : Bytes × Int) :
    Io Int := do
  if swapped.2 ≠ 0 then return swapped.2
  let h := put4Bytes h2 partitionCrcOffset (env.crc32 swapped.1).toNat
  let r ← blkWrite gpt2HeaderOffset (sealHeader env (headerSize h2) h)
  if r ≠ 0 then return r
  blkWrite (pentriesStart blkSize h2) swapped.1

def gpt2SetBootChain (env : Env) (boot : BootChain) : Io Int := do
  let some blkSize ← Sys.blkSszGet | return -1
  let some buf ← malloc env blkSize | return -1
  let some gpt2HeaderOffset ← headerOffset .secondary blkSize | return -1
  let some h1 ← blkRead blkSize buf | return -1
  let some zeros ← calloc (pentriesArraySize h1) | return -1
  let some pentries ← blkRead (pentriesStart blkSize h1) zeros | return -1
  if partitionCrc h1 ≠ (env.crc32 pentries).toNat then return -1
  -- the secondary header is read over the primary one in the same buffer
  let some h2 ← blkRead gpt2HeaderOffset h1 | return -1
  chainWrite env blkSize gpt2HeaderOffset h2 (chainSwap env boot pentries (pentrySize h1))

def bootDevDir : Bytes := cstr "/dev/block/bootdevice/by-name"
def xblPrimary : Bytes := cstr "/dev/block/bootdevice/by-name/xbl"
def xblBackup : Bytes := cstr "/dev/block/bootdevice/by-name/xblbak"
def xblAbPrimary : Bytes := cstr "/dev/block/bootdevice/by-name/xbl_a"
def xblAbSecondary : Bytes := cstr "/dev/block/bootdevice/by-name/xbl_b"
def bootLunAId : Nat := 1
def bootLunBId : Nat := 2
def pathMax : Nat := 4096
def pathTruncateLoc : Nat := (cstr "/dev/block/sda").length
def lunNameStartLoc : Nat := (cstr "/dev/block/").length

/-- The directory with the generic node of the LUN that a boot device links to. -/
def scsiGenericDir (link : Bytes) : Option Bytes :=
  let realPath := link.take (pathMax - 1)
  if realPath.length < pathTruncateLoc + 1 then none
  else some (cstr "/sys/block/" ++ (realPath.take pathTruncateLoc).drop lunNameStartLoc ++
    cstr "/device/scsi_generic")

def sgName (names : List Bytes) : Option Bytes :=
  names.find? (fun name => name.headD 0 ≠ 46 && strncmpEq 2 name (cstr "sg"))

def getScsiNodeFromBootdevice (bootdevPath : Bytes) : Io (Option Bytes) := do
  let some link ← Sys.readlink bootdevPath | return none
  let some dir := scsiGenericDir link | return none
  let some names ← Sys.opendir dir | return none
  let some name := sgName names | return none
  return some (cstr "/dev/" ++ name)

def ufsBsgName (names : List Bytes) : Option Bytes :=
  names.find? (fun name => strcmpEq name (cstr "ufs-bsg") || strcmpEq name (cstr "ufs-bsg0"))

/-- The node argument is not used by the bsg variant that the build selects. -/
def setBootLun (_sgDev : Bytes) (bootLunId : Nat) : Io Bool := do
  let some names ← Sys.opendir (cstr "/dev") | return false
  let some name := ufsBsgName names | return false
  if !(← Sys.openDev (cstr "/dev/" ++ name)) then return false
  Sys.queryAttr bootLunId

def xblBootDevice (env : Env) : BootChain → Option Bytes
  | .backupBoot =>
    if env.stat xblBackup then some xblBackup
    else if env.stat xblAbSecondary then some xblAbSecondary
    else none
  | .normalBoot =>
    if env.stat xblPrimary then some xblPrimary
    else if env.stat xblAbPrimary then some xblAbPrimary
    else none

def bootLunId : BootChain → Nat
  | .backupBoot => bootLunBId
  | .normalBoot => bootLunAId

def gptUtilsSetXblBootPartition (env : Env) (chain : BootChain) : Io Int := do
  let some bootDev := xblBootDevice env chain | return -1
  -- either both xbl and xblbak or both xbl_a and xbl_b have to be there
  if (!env.stat xblPrimary || !env.stat xblBackup) &&
      (!env.stat xblAbPrimary || !env.stat xblAbSecondary) then return -1
  let some sgDevNode ← getScsiNodeFromBootdevice bootDev | return -1
  if ← setBootLun sgDevNode (bootLunId chain) then return 0
  return -1

/-- The block that stages `UPDATE_MAIN` and `UPDATE_BACKUP` share. Without both nodes the target
boots from sbl, which is no error. -/
def switchXbl (env : Env) (chain : BootChain) : Io Int := do
  if !gptUtilsIsUfsDevice env then return 0
  if !env.stat xblPrimary || !env.stat xblBackup then return 0
  gptUtilsSetXblBootPartition env chain

/-- The two combinations of header states that are answered with an abort. -/
def abortsOnCrc (prim second : GptState) : Bool := prim == .badCrc || second == .badCrc
def abortsOnSignatures (prim second : GptState) : Bool :=
  prim == .badSignature && second == .badSignature

/-- The stage that the states of the two headers stand for. -/
def internalStage : GptState → GptState → Option BootUpdateStage
  | .ok, .ok => some .updateMain
  | .badSignature, _ => some .updateBackup
  | _, .badSignature => some .updateFinalize
  | _, _ => none

def updateMainTables (env : Env) : Io Int := do
  let r ← gpt2SetBootChain env .backupBoot
  -- no backup partitions: the primary table is not corrupted, and it is no error
  if r ≠ 0 then return (if r < 0 then r else 0)
  gptSetState env .primary .badSignature

def updateMain (env : Env) : Io Int := do
  let r ← switchXbl env .backupBoot
  if r ≠ 0 then return r
  updateMainTables env

def updateBackupTables (env : Env) : Io Int := do
  let r ← gptSetState env .primary .ok
  if r ≠ 0 then return r
  gptSetState env .secondary .badSignature

def updateBackup (env : Env) : Io Int := do
  let r ← switchXbl env .normalBoot
  if r ≠ 0 then return r
  updateBackupTables env

def updateFinalize (env : Env) : Io Int := do
  let r ← gpt2SetBootChain env .normalBoot
  if r < 0 then return r
  gptSetState env .secondary .ok

def performStage (env : Env) : BootUpdateStage → Io Int
  | .updateMain => updateMain env
  | .updateBackup => updateBackup env
  | .updateFinalize => updateFinalize env

/-- What `prepare_partitions` does once it knows the states of the two headers. -/
def dispatchStage (env : Env) (stage : BootUpdateStage) (prim second : GptState) : Io Int := do
  if abortsOnCrc prim second then return -1
  if abortsOnSignatures prim second then return -1
  let some internal := internalStage prim second | return -1
  if stage.toInt = internal.toInt - 1 then return 0
  if stage ≠ internal then return -1
  performStage env stage

/-- `prepare_partitions` between opening and closing the device. -/
def prepareOpened (env : Env) (stage : BootUpdateStage) : Io Int := do
  let some prim ← gptGetState env .primary | return 1
  let some second ← gptGetState env .secondary | return 1
  dispatchStage env stage prim second

def preparePartitions (env : Env) (stage : BootUpdateStage) (devPath : Option Bytes) : Io Int := do
  let some path := devPath | return -1
  if !(← Sys.openDev path) then return -1
  let r ← prepareOpened env stage
  Sys.fsync
  return r

end Pdx215.Gpt
