import Pdx215.Lib.Region
import Mathlib.Data.Nat.Bitwise
import Mathlib.Tactic.NormNum

/-! The on-disk layout of a GPT header and the byte macros of gpt-utils.
Headers and entry arrays are byte lists; the 32 and 64 bit fields are read as naturals, and the
products that the code forms from them keep the wrap-around of their C type. -/
namespace Pdx215.Gpt
open Region

abbrev Bytes := List UInt8

def headerSizeOffset : Nat := 12
def headerCrcOffset : Nat := 16
def pentriesOffset : Nat := 72
def partitionCountOffset : Nat := 80
def pentrySizeOffset : Nat := 84
def partitionCrcOffset : Nat := 88

def partitionNameOffset : Nat := 56
def ptnEntrySize : Nat := 128
def maxGptNameSize : Nat := 72

/-- The characters of a C string literal, without the terminating zero. -/
def cstr (s : String) : Bytes := s.toList.map (fun c => UInt8.ofNat c.toNat)

/-- `sizeof` counts the terminating zero, so nine bytes are compared and copied: the last one
is the low byte of the revision field. -/
def gptSignature : Bytes := cstr "EFI PART" ++ [0]

def byteOf (buf : Bytes) (i : Nat) : Nat := (buf[i]?.getD 0).toNat

def get4Bytes (buf : Bytes) (off : Nat) : Nat :=
  byteOf buf off ||| byteOf buf (off + 1) <<< 8 ||| byteOf buf (off + 2) <<< 16 |||
    byteOf buf (off + 3) <<< 24

def get8Bytes (buf : Bytes) (off : Nat) : Nat :=
  byteOf buf off ||| byteOf buf (off + 1) <<< 8 ||| byteOf buf (off + 2) <<< 16 |||
    byteOf buf (off + 3) <<< 24 ||| byteOf buf (off + 4) <<< 32 ||| byteOf buf (off + 5) <<< 40 |||
    byteOf buf (off + 6) <<< 48 ||| byteOf buf (off + 7) <<< 56

def fourBytes (y : Nat) : Bytes :=
  [UInt8.ofNat (y &&& 0xff), UInt8.ofNat (y >>> 8 &&& 0xff), UInt8.ofNat (y >>> 16 &&& 0xff),
    UInt8.ofNat (y >>> 24 &&& 0xff)]

def put4Bytes (buf : Bytes) (off y : Nat) : Bytes := splice buf off (fourBytes y)

def headerSize (h : Bytes) : Nat := get4Bytes h headerSizeOffset
def headerCrc (h : Bytes) : Nat := get4Bytes h headerCrcOffset
def partitionCount (h : Bytes) : Nat := get4Bytes h partitionCountOffset
def pentrySize (h : Bytes) : Nat := get4Bytes h pentrySizeOffset
def partitionCrc (h : Bytes) : Nat := get4Bytes h partitionCrcOffset

/- Both factors are `uint32_t`, and so is the product. -/
def pentriesArraySize (h : Bytes) : Nat := partitionCount h * pentrySize h % 2 ^ 32

/- A `uint64_t` number of blocks times a `uint32_t` block size. -/
def pentriesStart (blkSize : Nat) (h : Bytes) : Nat := get8Bytes h pentriesOffset * blkSize % 2 ^ 64

theorem byteOf_lt (buf : Bytes) (i : Nat) : byteOf buf i < 256 := UInt8.toNat_lt _

theorem or_shift_eq_add {a b k : Nat} (small : a < 2 ^ k) : a ||| b <<< k = a + 2 ^ k * b := by
  rw [Nat.or_comm, ← Nat.shiftLeft_add_eq_or_of_lt small, Nat.shiftLeft_eq, Nat.add_comm, Nat.mul_comm]

theorem get4Bytes_eq (buf : Bytes) (off : Nat) :
    get4Bytes buf off = byteOf buf off + 256 * byteOf buf (off + 1) + 65536 * byteOf buf (off + 2) +
      16777216 * byteOf buf (off + 3) := by
  have h0 := byteOf_lt buf off
  have h1 := byteOf_lt buf (off + 1)
  have h2 := byteOf_lt buf (off + 2)
  have low : byteOf buf off ||| byteOf buf (off + 1) <<< 8 =
      byteOf buf off + 2 ^ 8 * byteOf buf (off + 1) := or_shift_eq_add (by omega)
  have mid : byteOf buf off + 2 ^ 8 * byteOf buf (off + 1) ||| byteOf buf (off + 2) <<< 16 =
      byteOf buf off + 2 ^ 8 * byteOf buf (off + 1) + 2 ^ 16 * byteOf buf (off + 2) :=
    or_shift_eq_add (by omega)
  rw [get4Bytes, low, mid, or_shift_eq_add (by omega)]
  norm_num

theorem byteOf_splice_apart {buf b : Bytes} {off i : Nat} (apart : i < off ∨ off + b.length ≤ i) :
    byteOf (splice buf off b) i = byteOf buf i := by
  rw [byteOf, getElem?_splice, if_neg (by omega), byteOf]

theorem get4Bytes_splice_apart {buf b : Bytes} {off off' : Nat}
    (apart : off' + 4 ≤ off ∨ off + b.length ≤ off') :
    get4Bytes (splice buf off b) off' = get4Bytes buf off' := by
  simp only [get4Bytes]
  rw [byteOf_splice_apart (by omega), byteOf_splice_apart (by omega), byteOf_splice_apart (by omega),
    byteOf_splice_apart (by omega)]

theorem get8Bytes_splice_apart {buf b : Bytes} {off off' : Nat}
    (apart : off' + 8 ≤ off ∨ off + b.length ≤ off') :
    get8Bytes (splice buf off b) off' = get8Bytes buf off' := by
  simp only [get8Bytes]
  rw [byteOf_splice_apart (by omega), byteOf_splice_apart (by omega), byteOf_splice_apart (by omega),
    byteOf_splice_apart (by omega), byteOf_splice_apart (by omega), byteOf_splice_apart (by omega),
    byteOf_splice_apart (by omega), byteOf_splice_apart (by omega)]

@[simp] theorem length_fourBytes (y : Nat) : (fourBytes y).length = 4 := rfl

@[simp] theorem length_put4Bytes (buf : Bytes) (off y : Nat) :
    (put4Bytes buf off y).length = buf.length := length_splice _ _ _

theorem get4Bytes_put4Bytes_apart {buf : Bytes} {off off' y : Nat}
    (apart : off' + 4 ≤ off ∨ off + 4 ≤ off') :
    get4Bytes (put4Bytes buf off y) off' = get4Bytes buf off' :=
  get4Bytes_splice_apart apart

theorem get8Bytes_put4Bytes_apart {buf : Bytes} {off off' y : Nat}
    (apart : off' + 8 ≤ off ∨ off + 4 ≤ off') :
    get8Bytes (put4Bytes buf off y) off' = get8Bytes buf off' :=
  get8Bytes_splice_apart apart

theorem put4Bytes_put4Bytes (buf : Bytes) (off x y : Nat) :
    put4Bytes (put4Bytes buf off x) off y = put4Bytes buf off y :=
  splice_splice_same (Nat.le_refl _)

theorem put4Bytes_comm {buf : Bytes} {off off' x y : Nat} (apart : off + 4 ≤ off' ∨ off' + 4 ≤ off) :
    put4Bytes (put4Bytes buf off x) off' y = put4Bytes (put4Bytes buf off' y) off x :=
  splice_comm ((apart_iff (by simp) (by simp)).mpr apart)

theorem byte_and_mask (y : Nat) : y &&& 0xff = y % 256 := Nat.and_two_pow_sub_one_eq_mod y 8

theorem fourBytes_eq (y : Nat) :
    fourBytes y = [UInt8.ofNat (y % 256), UInt8.ofNat (y / 256 % 256), UInt8.ofNat (y / 65536 % 256),
      UInt8.ofNat (y / 16777216 % 256)] := by
  simp only [fourBytes, byte_and_mask, Nat.shiftRight_eq_div_pow, Nat.reducePow]

theorem byteOf_splice_inside {buf b : Bytes} {off i : Nat} (lower : off ≤ i) (upper : i < off + b.length)
    (fits : i < buf.length) : byteOf (splice buf off b) i = byteOf b (i - off) := by
  rw [byteOf, getElem?_splice, if_pos ⟨lower, upper, fits⟩, byteOf]

theorem get4Bytes_fourBytes {y : Nat} (small : y < 2 ^ 32) : get4Bytes (fourBytes y) 0 = y := by
  rw [get4Bytes_eq, fourBytes_eq]
  simp only [byteOf, List.getElem?_cons_zero, List.getElem?_cons_succ, Option.getD_some,
    UInt8.toNat_ofNat', Nat.zero_add, Nat.reducePow]
  omega

theorem get4Bytes_put4Bytes {buf : Bytes} {off y : Nat} (fits : off + 4 ≤ buf.length)
    (small : y < 2 ^ 32) : get4Bytes (put4Bytes buf off y) off = y := by
  have inside : ∀ k, k < 4 → byteOf (put4Bytes buf off y) (off + k) = byteOf (fourBytes y) k := by
    intro k hk
    rw [put4Bytes, byteOf_splice_inside (by omega) (by simp; omega) (by omega)]
    congr 1
    omega
  have first := inside 0 (by omega)
  rw [get4Bytes, inside 1 (by omega), inside 2 (by omega), inside 3 (by omega)]
  rw [Nat.add_zero] at first
  rw [first]
  exact get4Bytes_fourBytes small

theorem fourBytes_get4Bytes {buf : Bytes} {off : Nat} (fits : off + 4 ≤ buf.length) :
    fourBytes (get4Bytes buf off) = slice buf off 4 := by
  have split : slice buf off 4 = [buf[off], buf[off + 1], buf[off + 2], buf[off + 3]] := by
    apply List.ext_getElem?
    intro i
    rw [getElem?_slice]
    match i with
    | 0 => simp
    | 1 => simp
    | 2 => simp
    | 3 => simp
    | i + 4 => simp
  have read : ∀ k, (hk : off + k < buf.length) → byteOf buf (off + k) = (buf[off + k]).toNat := by
    intro k hk
    rw [byteOf, List.getElem?_eq_getElem hk, Option.getD_some]
  have b0 := read 0 (by omega)
  have b1 := read 1 (by omega)
  have b2 := read 2 (by omega)
  have b3 := read 3 (by omega)
  have l0 := byteOf_lt buf (off + 0)
  have l1 := byteOf_lt buf (off + 1)
  have l2 := byteOf_lt buf (off + 2)
  have l3 := byteOf_lt buf (off + 3)
  simp only [Nat.add_zero] at b0 l0
  rw [split, fourBytes_eq, get4Bytes_eq]
  -- each base-256 digit of the sum is the byte it came from
  have d0 : (byteOf buf off + 256 * byteOf buf (off + 1) + 65536 * byteOf buf (off + 2) +
      16777216 * byteOf buf (off + 3)) % 256 = byteOf buf off := by omega
  have d1 : (byteOf buf off + 256 * byteOf buf (off + 1) + 65536 * byteOf buf (off + 2) +
      16777216 * byteOf buf (off + 3)) / 256 % 256 = byteOf buf (off + 1) := by omega
  have d2 : (byteOf buf off + 256 * byteOf buf (off + 1) + 65536 * byteOf buf (off + 2) +
      16777216 * byteOf buf (off + 3)) / 65536 % 256 = byteOf buf (off + 2) := by omega
  have d3 : (byteOf buf off + 256 * byteOf buf (off + 1) + 65536 * byteOf buf (off + 2) +
      16777216 * byteOf buf (off + 3)) / 16777216 % 256 = byteOf buf (off + 3) := by omega
  rw [d0, d1, d2, d3, b0, b1, b2, b3]
  simp only [UInt8.ofNat_toNat]

theorem put4Bytes_get4Bytes {buf : Bytes} {off : Nat} (fits : off + 4 ≤ buf.length) :
    put4Bytes buf off (get4Bytes buf off) = buf := by
  rw [put4Bytes, fourBytes_get4Bytes fits, splice_slice]

end Pdx215.Gpt
