import Pdx215.Lib.Effect
import Pdx215.Gpt.Layout

/-! The block device and the UFS boot LUN attribute as gpt-utils sees them: system calls, what
can happen to each, and what they do to the disk. -/
namespace Pdx215.Gpt
open Region Effect

inductive GptInstance where
  | primary | secondary
  deriving DecidableEq, Repr

/-- What the code reads from its surroundings and never changes. `crc32` is the zlib
function started from its initial value; `heap` is what a fresh heap block, and the memory
behind its end, happens to hold. -/
structure Env where
  crc32 : Bytes → UInt32
  heap : Nat → UInt8
  blkSize : Nat
  -- the kernel has no smaller logical block
  blk_large : 512 ≤ blkSize
  bootdevice : Bytes
  stat : Bytes → Bool
  readlink : Bytes → Option Bytes
  readdir : Bytes → Option (List Bytes)

def crcShift (c : Nat) : Nat := if c % 2 = 1 then (c / 2) ^^^ 0xEDB88320 else c / 2

def crcByte (c : Nat) (x : UInt8) : Nat :=
  crcShift (crcShift (crcShift (crcShift (crcShift (crcShift (crcShift (crcShift (c ^^^ x.toNat))))))))

/- The register is matched on so that an evaluation keeps it as a number. -/
def crcBytes : Nat → Bytes → Nat
  | c, [] => c
  | c, x :: xs => match crcByte c x with
    | 0 => crcBytes 0 xs
    | n + 1 => crcBytes (n + 1) xs

def zlibCrc32 (b : Bytes) : UInt32 := (crcBytes 0xFFFFFFFF b ^^^ 0xFFFFFFFF).toUInt32

example : zlibCrc32 ("123456789".toList.map (fun c => c.toNat.toUInt8)) = 0xCBF43926 := by decide +kernel

/-- The bytes that a read of `len` bytes from `off` in a heap buffer gives; past its end
the buffer is whatever the heap holds. -/
def peek (env : Env) (buf : Bytes) (off len : Nat) : Bytes :=
  (List.range len).map (fun i => buf[off + i]?.getD (env.heap (off + i)))

inductive Op where
  | openDev (path : Bytes)
  | blkSszGet
  | malloc
  | seekEnd
  | seekSet (off : Nat)
  | read (off len : Nat)
  | write (off : Nat) (buf : Bytes)
  | fsync
  | readlink (path : Bytes)
  | opendir (path : Bytes)
  | queryAttr (bootLunId : Nat)

abbrev Rep : Op → Type
  | .openDev _ => Bool
  | .blkSszGet => Option Nat
  | .malloc => Bool
  | .seekEnd => Option Nat
  | .seekSet _ => Bool
  | .read _ _ => Option Bytes
  | .write _ _ => Bool
  | .fsync => Unit
  | .readlink _ => Option Bytes
  | .opendir _ => Option (List Bytes)
  | .queryAttr _ => Bool

/-- What can happen to one system call. A transfer may be `short`; a failed write may
leave its region with other contents, or as it was. -/
inductive Outcome where
  | ok
  | short (count : Nat)
  | error (left : Option Bytes)

def Outcome.failed : Outcome → Bool
  | .error _ => true
  | _ => false

/-- Every transfer is complete, or fails and leaves the disk alone. -/
def Outcome.Atomic : Outcome → Prop
  | .ok => True
  | .short _ => False
  | .error left => left = none

/-- Every transfer is complete, or fails and may leave anything in its own region. -/
def Outcome.Whole : Outcome → Prop
  | .short _ => False
  | _ => True

/-- `writes` counts the block writes that the device has carried out. -/
structure World where
  disk : Bytes
  bootLun : Nat
  writes : Nat

def World.put (w : World) (off : Nat) (buf : Bytes) : World :=
  { w with disk := splice w.disk off buf, writes := w.writes + 1 }

/- Seeking behind the end of a block device fails; a transfer stops at its end, and a write
that starts there has no space left. -/
def react (env : Env) : (op : Op) → Outcome → World → Rep op × World
  | .openDev _, o, w => (!o.failed, w)
  | .blkSszGet, o, w => (if o.failed then none else some env.blkSize, w)
  | .malloc, o, w => (!o.failed, w)
  | .seekEnd, o, w => (if o.failed then none else some w.disk.length, w)
  | .seekSet off, o, w => (!o.failed && decide (off ≤ w.disk.length), w)
  | .read off len, .ok, w => (some (slice w.disk off len), w)
  | .read off len, .short count, w => (some (slice w.disk off (min count len)), w)
  | .read _ _, .error _, w => (none, w)
  | .write off buf, .ok, w =>
    if buf = [] ∨ off < w.disk.length then (true, w.put off buf) else (false, w)
  | .write off buf, .short count, w =>
    if buf = [] ∨ off < w.disk.length then (true, w.put off (buf.take count)) else (false, w)
  | .write _ _, .error none, w => (false, w)
  | .write off buf, .error (some left), w =>
    (false, { w with disk := splice w.disk off (left.take buf.length) })
  | .fsync, _, w => ((), w)
  | .readlink path, o, w => (if o.failed then none else env.readlink path, w)
  | .opendir path, o, w => (if o.failed then none else env.readdir path, w)
  | .queryAttr id, o, w => if o.failed then (false, w) else (true, { w with bootLun := id })

abbrev Io := Prog Op Rep

namespace Sys

abbrev openDev (path : Bytes) : Io Bool := Prog.request (Op.openDev path)
abbrev blkSszGet : Io (Option Nat) := Prog.request Op.blkSszGet
abbrev malloc : Io Bool := Prog.request Op.malloc
abbrev seekEnd : Io (Option Nat) := Prog.request Op.seekEnd
abbrev seekSet (off : Nat) : Io Bool := Prog.request (Op.seekSet off)
abbrev read (off len : Nat) : Io (Option Bytes) := Prog.request (Op.read off len)
abbrev write (off : Nat) (buf : Bytes) : Io Bool := Prog.request (Op.write off buf)
abbrev fsync : Io Unit := Prog.request Op.fsync
abbrev readlink (path : Bytes) : Io (Option Bytes) := Prog.request (Op.readlink path)
abbrev opendir (path : Bytes) : Io (Option (List Bytes)) := Prog.request (Op.opendir path)
abbrev queryAttr (bootLunId : Nat) : Io Bool := Prog.request (Op.queryAttr bootLunId)

end Sys

/-- `blk_rw` with the read flag: the buffer comes back with the transferred bytes in front, or
not at all when the call failed. A short read is no failure. -/
def blkRead (off : Nat) (buf : Bytes) : Io (Option Bytes) := do
  if !(← Sys.seekSet off) then return none
  match ← Sys.read off buf.length with
  | none => return none
  | some got => return some (got ++ buf.drop got.length)

def blkWrite (off : Nat) (buf : Bytes) : Io Int := do
  if !(← Sys.seekSet off) then return -1
  if ← Sys.write off buf then return 0
  return -1

def malloc (env : Env) (size : Nat) : Io (Option Bytes) := do
  if ← Sys.malloc then return some ((List.range size).map env.heap)
  return none

def calloc (size : Nat) : Io (Option Bytes) := do
  if ← Sys.malloc then return some (List.replicate size 0)
  return none

theorem peek_of_le {env : Env} {buf : Bytes} {off len : Nat} (fits : off + len ≤ buf.length) :
    peek env buf off len = slice buf off len := by
  apply List.ext_getElem?
  intro i
  rw [getElem?_slice, peek, List.getElem?_map]
  by_cases within : i < len
  · rw [if_pos within, List.getElem?_range within, Option.map_some,
      List.getElem?_eq_getElem (by omega), Option.getD_some]
  · rw [if_neg within, List.getElem?_eq_none (by simpa using within), Option.map_none]

end Pdx215.Gpt
