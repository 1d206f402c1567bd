import Pdx215.Lib.Slots
import Pdx215.Gpt.Disk

/-! The memory of a `gpt_disk` handle over its life: which buffers it owns, which pointers are null, and which calls
look at them without a test. What the buffers hold is in `Disk`. -/
namespace Pdx215.Gpt.Ownership
open Slots

/-- The heap blocks of a handle, the structure itself among them. -/
inductive Block where
  | disk | hdr | hdrBak | pentryArr | pentryArrBak
  deriving DecidableEq, Repr

structure Handle where
  memory : Owner Block
  pentryArrSize : Nat
  isInitialized : Nat

/-- How `gpt_get_header` or `gpt_get_pentry_arr` ends: without a buffer, with a buffer that it frees again because the read
failed, or with a buffer for the caller. -/
inductive Fetch where
  | refused | unread | read
  deriving DecidableEq, Repr

def fetch (b : Block) : Fetch → Owner Block → Owner Block
  | .refused, memory => memory.clear b
  | .unread, memory => memory.spill.clear b
  | .read, memory => memory.fill b

structure Load where
  hdr : Fetch
  hdrBak : Fetch
  devpath : Bool
  opened : Bool
  pentryArr : Fetch
  pentryArrBak : Fetch
  pentryArrSize : Nat

def gptDiskAlloc (memory : Owner Block) : Handle := ⟨memory.fill .disk, 0, 0⟩

def Handle.fetch (h : Handle) (b : Block) (r : Fetch) : Handle := { h with memory := Ownership.fetch b r h.memory }

/-- The buffers of an earlier call are overwritten, and an error leaves the handle as it is by then. -/
def gptDiskGetDiskInfo (l : Load) (h : Handle) : Int × Handle :=
  let h := h.fetch .hdr l.hdr
  if h.memory.points .hdr = none then (-1, h)
  else
    let h := h.fetch .hdrBak l.hdrBak
    if h.memory.points .hdrBak = none then (-1, h)
    else if !l.devpath then (-1, h)
    else if !l.opened then (-1, h)
    else
      let h := h.fetch .pentryArr l.pentryArr
      if h.memory.points .pentryArr = none then (-1, h)
      else
        let h := h.fetch .pentryArrBak l.pentryArrBak
        if h.memory.points .pentryArrBak = none then (-1, h)
        else (0, { h with pentryArrSize := l.pentryArrSize, isInitialized := gptDiskInitMagic })

def arrayOf : GptInstance → Block
  | .primary => .pentryArr
  | .secondary => .pentryArrBak

/-- The search starts at the name of the first entry and ends at the size of the array. -/
def gptDiskGetPentryFaults (gpt : GptInstance) (h : Handle) : Bool :=
  h.isInitialized = gptDiskInitMagic && (h.memory.points (arrayOf gpt)).isNone &&
    decide (partitionNameOffset < h.pentryArrSize)

/-- The CRC of a null array is 0; the headers are written to. -/
def gptDiskUpdateCrcFaults (h : Handle) : Bool :=
  h.isInitialized = gptDiskInitMagic && ((h.memory.points .hdr).isNone || (h.memory.points .hdrBak).isNone)

inductive Call where
  | getDiskInfo (l : Load)
  | getPentry (gpt : GptInstance)
  | updateCrc
  | commit

/-- There is no next state where the call follows a null pointer. `gpt_disk_commit` tests each of the pointers. -/
def step (h : Handle) : Call → Option Handle
  | .getDiskInfo l => some (gptDiskGetDiskInfo l h).2
  | .getPentry gpt => if gptDiskGetPentryFaults gpt h then none else some h
  | .updateCrc => if gptDiskUpdateCrcFaults h then none else some h
  | .commit => some h

def run (h : Handle) (calls : List Call) : Option Handle := calls.foldlM step h

inductive Stage where
  | primaryHeader | backupHeader | devPath | openDisk | primaryArray | backupArray | complete
  deriving DecidableEq, Repr

def Load.stage (l : Load) : Stage :=
  if l.hdr ≠ .read then .primaryHeader
  else if l.hdrBak ≠ .read then .backupHeader
  else if !l.devpath then .devPath
  else if !l.opened then .openDisk
  else if l.pentryArr ≠ .read then .primaryArray
  else if l.pentryArrBak ≠ .read then .backupArray
  else .complete

def Load.of (l : Load) : Block → Fetch
  | .hdr => l.hdr
  | .hdrBak => l.hdrBak
  | .pentryArr => l.pentryArr
  | .pentryArrBak => l.pentryArrBak
  | .disk => .read

section Fetches

variable {others : Finset Nat} {memory : Owner Block} {b : Block} {r : Fetch}

variable {l : Load} {blocks : List Block}

end Fetches

def loads (calls : List Call) : List Load :=
  calls.filterMap fun
    | .getDiskInfo l => some l
    | _ => none

section Loads

variable {h : Handle} {ls : List Load}

variable {others : Finset Nat}

end Loads

/-! ### From `gpt_disk_alloc` to `gpt_disk_free` -/

def fresh (others : Finset Nat) (next : Nat) : Owner Block := ⟨others, next, fun _ => none⟩

def Sample.load : Load := ⟨.read, .read, true, true, .read, .read, 256⟩

end Pdx215.Gpt.Ownership
