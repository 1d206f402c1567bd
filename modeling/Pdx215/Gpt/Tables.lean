import Pdx215.Gpt.Header

/-! The two partition tables of a disk as four values: two headers and two entry arrays. A
disk is such values mounted at their places; writing a header or an array on the disk is
replacing that value. -/
namespace Pdx215.Gpt
open Region

def headerOff (env : Env) (d : Bytes) : GptInstance → Nat
  | .primary => env.blkSize
  | .secondary => d.length - env.blkSize

def header (env : Env) (d : Bytes) (gpt : GptInstance) : Bytes :=
  slice d (headerOff env d gpt) env.blkSize

def entriesStart (env : Env) (d : Bytes) (gpt : GptInstance) : Nat :=
  pentriesStart env.blkSize (header env d gpt)

def entriesSize (env : Env) (d : Bytes) (gpt : GptInstance) : Nat :=
  pentriesArraySize (header env d gpt)

def entries (env : Env) (d : Bytes) (gpt : GptInstance) : Bytes :=
  slice d (entriesStart env d gpt) (entriesSize env d gpt)

/-- Signature, header CRC and entry array CRC are right. -/
structure CompletelyValid (env : Env) (d : Bytes) (gpt : GptInstance) : Prop where
  state : headerState env (header env d gpt) = .ok
  array : partitionCrc (header env d gpt) = (env.crc32 (entries env d gpt)).toNat

/-- The two headers and two arrays lie on the disk, in disjoint regions, and both headers
declare entries of the same number and size. -/
structure LaidOut (env : Env) (d : Bytes) : Prop where
  count : partitionCount (header env d .primary) = partitionCount (header env d .secondary)
  entry : pentrySize (header env d .primary) = pentrySize (header env d .secondary)
  headers_on_disk : 2 * env.blkSize ≤ d.length
  arrays_on_disk : ∀ gpt, entriesStart env d gpt + entriesSize env d gpt ≤ d.length
  headers_apart : Apart (headerOff env d .primary) env.blkSize (headerOff env d .secondary) env.blkSize
  header_array_apart : ∀ gpt gpt', Apart (headerOff env d gpt) env.blkSize
    (entriesStart env d gpt') (entriesSize env d gpt')
  arrays_apart : Apart (entriesStart env d .primary) (entriesSize env d .primary)
    (entriesStart env d .secondary) (entriesSize env d .secondary)

structure WellFormed (env : Env) (d : Bytes) : Prop where
  laid : LaidOut env d
  valid : ∀ gpt, CompletelyValid env d gpt
  header_size : ∀ gpt, headerSize (header env d gpt) ≤ env.blkSize

structure Place where
  blk : Nat
  size : Nat
  start : GptInstance → Nat
  len : Nat

def Place.off (p : Place) : GptInstance → Nat
  | .primary => p.blk
  | .secondary => p.size - p.blk

structure Place.Sound (p : Place) : Prop where
  large : 512 ≤ p.blk
  headers : 2 * p.blk ≤ p.size
  arrays : ∀ gpt, p.start gpt + p.len ≤ p.size
  headers_apart : Apart (p.off .primary) p.blk (p.off .secondary) p.blk
  header_array_apart : ∀ gpt gpt', Apart (p.off gpt) p.blk (p.start gpt') p.len
  arrays_apart : Apart (p.start .primary) p.len (p.start .secondary) p.len

structure Tables where
  hdr : GptInstance → Bytes
  arr : GptInstance → Bytes

namespace Tables

def setHdr (t : Tables) (gpt : GptInstance) (h : Bytes) : Tables :=
  { t with hdr := Function.update t.hdr gpt h }

def setArr (t : Tables) (gpt : GptInstance) (a : Bytes) : Tables :=
  { t with arr := Function.update t.arr gpt a }

@[simp] theorem setHdr_hdr_same (t : Tables) (gpt : GptInstance) (h : Bytes) :
    (t.setHdr gpt h).hdr gpt = h := Function.update_self ..
@[simp] theorem setHdr_arr (t : Tables) (gpt : GptInstance) (h : Bytes) : (t.setHdr gpt h).arr = t.arr := rfl
@[simp] theorem setArr_arr_same (t : Tables) (gpt : GptInstance) (a : Bytes) :
    (t.setArr gpt a).arr gpt = a := Function.update_self ..
@[simp] theorem setArr_hdr (t : Tables) (gpt : GptInstance) (a : Bytes) : (t.setArr gpt a).hdr = t.hdr := rfl

theorem setHdr_hdr_ne {t : Tables} {gpt g : GptInstance} (ne : g ≠ gpt) (h : Bytes) :
    (t.setHdr gpt h).hdr g = t.hdr g := Function.update_of_ne ne ..
theorem setArr_arr_ne {t : Tables} {gpt g : GptInstance} (ne : g ≠ gpt) (a : Bytes) :
    (t.setArr gpt a).arr g = t.arr g := Function.update_of_ne ne ..

@[simp] theorem setHdr_primary (t : Tables) (h : Bytes) :
    (t.setHdr .primary h).hdr .secondary = t.hdr .secondary := rfl
@[simp] theorem setHdr_secondary (t : Tables) (h : Bytes) :
    (t.setHdr .secondary h).hdr .primary = t.hdr .primary := rfl
@[simp] theorem setArr_primary (t : Tables) (a : Bytes) :
    (t.setArr .primary a).arr .secondary = t.arr .secondary := rfl
@[simp] theorem setArr_secondary (t : Tables) (a : Bytes) :
    (t.setArr .secondary a).arr .primary = t.arr .primary := rfl

@[ext] theorem ext {t u : Tables} (hdr : ∀ gpt, t.hdr gpt = u.hdr gpt)
    (arr : ∀ gpt, t.arr gpt = u.arr gpt) : t = u := by
  cases t
  cases u
  simp only [mk.injEq]
  exact ⟨funext hdr, funext arr⟩

end Tables

/-- The values have the sizes of their places, and the headers declare the places. -/
structure Tables.Fits (t : Tables) (p : Place) : Prop where
  hdr : ∀ gpt, (t.hdr gpt).length = p.blk
  arr : ∀ gpt, (t.arr gpt).length = p.len
  start : ∀ gpt, pentriesStart p.blk (t.hdr gpt) = p.start gpt
  len : ∀ gpt, pentriesArraySize (t.hdr gpt) = p.len

theorem Tables.Fits.setHdr {t : Tables} {p : Place} (fits : t.Fits p) {gpt : GptInstance} {h : Bytes}
    (length : h.length = (t.hdr gpt).length) (same : SameLayout h (t.hdr gpt)) :
    (t.setHdr gpt h).Fits p := by
  refine ⟨?_, fits.arr, ?_, ?_⟩ <;> intro g <;> by_cases eq : g = gpt
  · subst eq; rw [Tables.setHdr_hdr_same, length, fits.hdr]
  · rw [Tables.setHdr_hdr_ne eq, fits.hdr]
  · subst eq; rw [Tables.setHdr_hdr_same, same.arrayStart, fits.start]
  · rw [Tables.setHdr_hdr_ne eq, fits.start]
  · subst eq; rw [Tables.setHdr_hdr_same, same.arraySize, fits.len]
  · rw [Tables.setHdr_hdr_ne eq, fits.len]

theorem Tables.Fits.setArr {t : Tables} {p : Place} (fits : t.Fits p) {gpt : GptInstance} {a : Bytes}
    (length : a.length = p.len) : (t.setArr gpt a).Fits p := by
  refine ⟨fits.hdr, ?_, fits.start, fits.len⟩
  intro g
  by_cases eq : g = gpt
  · subst eq; rw [Tables.setArr_arr_same, length]
  · rw [Tables.setArr_arr_ne eq, fits.arr]

theorem Tables.Fits.withState {t : Tables} {p : Place} (fits : t.Fits p) (env : Env)
    (gpt : GptInstance) (state : GptState) :
    (t.setHdr gpt (withState env state (t.hdr gpt))).Fits p :=
  fits.setHdr (length_withState env state _) (sameLayout_withState env state _)

theorem Tables.Fits.withArray {t : Tables} {p : Place} (fits : t.Fits p) (env : Env)
    (gpt : GptInstance) (arr : Bytes) :
    (t.setHdr gpt (withArray env arr (t.hdr gpt))).Fits p :=
  fits.setHdr (length_withArray env arr _) (sameLayout_withArray env arr _)

/-- The disk `d` with the tables written at their places. -/
def mount (p : Place) (d : Bytes) (t : Tables) : Bytes :=
  splice (splice (splice (splice d (p.off .primary) (t.hdr .primary)) (p.off .secondary) (t.hdr .secondary))
    (p.start .primary) (t.arr .primary)) (p.start .secondary) (t.arr .secondary)

@[simp] theorem length_mount (p : Place) (d : Bytes) (t : Tables) : (mount p d t).length = d.length := by
  simp only [mount, length_splice]

section Mount

variable {p : Place} {d : Bytes} {t : Tables}

theorem slice_mount_hdr (sound : p.Sound) (size : d.length = p.size) (fits : t.Fits p) (gpt : GptInstance) :
    slice (mount p d t) (p.off gpt) p.blk = t.hdr gpt := by
  have hdr := fits.hdr
  have arr := fits.arr
  have room := sound.headers
  rw [mount, slice_splice_apart (by rw [arr]; exact (sound.header_array_apart gpt _).symm),
    slice_splice_apart (by rw [arr]; exact (sound.header_array_apart gpt _).symm)]
  cases gpt with
  | primary =>
    rw [slice_splice_apart (by rw [hdr]; exact sound.headers_apart.symm), ← hdr .primary]
    exact slice_splice_same (by rw [hdr, size, Place.off]; omega)
  | secondary =>
    rw [← hdr .secondary]
    exact slice_splice_same (by rw [hdr, length_splice, size, Place.off]; omega)

theorem slice_mount_arr (sound : p.Sound) (size : d.length = p.size) (fits : t.Fits p) (gpt : GptInstance) :
    slice (mount p d t) (p.start gpt) p.len = t.arr gpt := by
  have arr := fits.arr
  have room := sound.arrays
  cases gpt with
  | primary =>
    rw [mount, slice_splice_apart (by rw [arr]; exact sound.arrays_apart.symm), ← arr .primary]
    exact slice_splice_same (by rw [arr, length_splice, length_splice, size]; exact room _)
  | secondary =>
    rw [mount, ← arr .secondary]
    exact slice_splice_same (by rw [arr, length_splice, length_splice, length_splice, size]; exact room _)

theorem splice_mount_hdr (sound : p.Sound) (fits : t.Fits p) (gpt : GptInstance) {h : Bytes}
    (length : h.length = p.blk) : splice (mount p d t) (p.off gpt) h = mount p d (t.setHdr gpt h) := by
  have hdr := fits.hdr
  have arr := fits.arr
  have past : ∀ gpt', Apart (p.start gpt') (t.arr gpt').length (p.off gpt) h.length := by
    intro gpt'
    rw [arr, length]
    exact (sound.header_array_apart gpt gpt').symm
  rw [mount, splice_comm (past .secondary), splice_comm (past .primary), mount]
  cases gpt with
  | primary =>
    have other : Apart (p.off .secondary) (t.hdr .secondary).length (p.off .primary) h.length := by
      rw [hdr, length]
      exact sound.headers_apart.symm
    rw [splice_comm other, splice_splice_same (by rw [hdr, length])]
    simp only [Tables.setHdr_hdr_same, Tables.setHdr_primary, Tables.setHdr_arr]
  | secondary =>
    rw [splice_splice_same (by rw [hdr, length])]
    simp only [Tables.setHdr_hdr_same, Tables.setHdr_secondary, Tables.setHdr_arr]

theorem splice_mount_arr (sound : p.Sound) (fits : t.Fits p) (gpt : GptInstance) {a : Bytes}
    (length : a.length = p.len) : splice (mount p d t) (p.start gpt) a = mount p d (t.setArr gpt a) := by
  have arr := fits.arr
  cases gpt with
  | primary =>
    have other : Apart (p.start .secondary) (t.arr .secondary).length (p.start .primary) a.length := by
      rw [arr, length]
      exact sound.arrays_apart.symm
    rw [mount, splice_comm other, splice_splice_same (by rw [arr, length]), mount]
    simp only [Tables.setArr_arr_same, Tables.setArr_primary, Tables.setArr_hdr]
  | secondary =>
    rw [mount, splice_splice_same (by rw [arr, length]), mount]
    simp only [Tables.setArr_arr_same, Tables.setArr_secondary, Tables.setArr_hdr]

end Mount

section Disk

variable {env : Env} {d : Bytes}

def placeOf (env : Env) (d : Bytes) : Place :=
  ⟨env.blkSize, d.length, entriesStart env d, entriesSize env d .primary⟩

def tablesOf (env : Env) (d : Bytes) : Tables := ⟨header env d, entries env d⟩

theorem placeOf_off (env : Env) (d : Bytes) (gpt : GptInstance) :
    (placeOf env d).off gpt = headerOff env d gpt := by
  cases gpt <;> rfl

theorem LaidOut.entriesSize_eq (laid : LaidOut env d) (gpt : GptInstance) :
    entriesSize env d gpt = (placeOf env d).len := by
  cases gpt with
  | primary => rfl
  | secondary =>
    simp only [placeOf, entriesSize, pentriesArraySize]
    rw [laid.count, laid.entry]

theorem LaidOut.sound (laid : LaidOut env d) : (placeOf env d).Sound := by
  refine ⟨env.blk_large, laid.headers_on_disk, ?_, ?_, ?_, ?_⟩
  · intro gpt
    rw [← laid.entriesSize_eq gpt]
    exact laid.arrays_on_disk gpt
  · simp only [placeOf_off]
    exact laid.headers_apart
  · intro gpt gpt'
    rw [placeOf_off, ← laid.entriesSize_eq gpt']
    exact laid.header_array_apart gpt gpt'
  · have apart := laid.arrays_apart
    rwa [laid.entriesSize_eq .primary, laid.entriesSize_eq .secondary] at apart

theorem LaidOut.fits (laid : LaidOut env d) : (tablesOf env d).Fits (placeOf env d) := by
  have room := laid.headers_on_disk
  refine ⟨?_, ?_, fun _ => rfl, laid.entriesSize_eq⟩
  · intro gpt
    apply length_slice
    cases gpt <;> simp only [headerOff] <;> omega
  · intro gpt
    rw [← laid.entriesSize_eq gpt]
    exact length_slice (laid.arrays_on_disk gpt)

theorem mount_tablesOf (env : Env) (d : Bytes) : mount (placeOf env d) d (tablesOf env d) = d := by
  have array : ∀ gpt, splice d ((placeOf env d).start gpt) ((tablesOf env d).arr gpt) = d :=
    fun gpt => splice_slice d _ _
  have head : ∀ gpt, splice d ((placeOf env d).off gpt) ((tablesOf env d).hdr gpt) = d := by
    intro gpt
    rw [placeOf_off]
    exact splice_slice d _ _
  rw [mount, head, head, array, array]

end Disk

theorem header_mount {env : Env} {p : Place} {d : Bytes} {t : Tables} (sound : p.Sound)
    (blk : p.blk = env.blkSize) (size : d.length = p.size) (fits : t.Fits p) (gpt : GptInstance) :
    header env (mount p d t) gpt = t.hdr gpt := by
  have off : headerOff env (mount p d t) gpt = p.off gpt := by
    cases gpt <;> simp only [headerOff, Place.off, length_mount, size, blk]
  rw [header, off, ← blk, slice_mount_hdr sound size fits]

theorem entries_mount {env : Env} {p : Place} {d : Bytes} {t : Tables} (sound : p.Sound)
    (blk : p.blk = env.blkSize) (size : d.length = p.size) (fits : t.Fits p) (gpt : GptInstance) :
    entries env (mount p d t) gpt = t.arr gpt := by
  rw [entries, entriesStart, entriesSize, header_mount sound blk size fits, ← blk, fits.start, fits.len,
    slice_mount_arr sound size fits]

theorem laidOut_mount {env : Env} {p : Place} {d : Bytes} {t : Tables} (sound : p.Sound)
    (blk : p.blk = env.blkSize) (size : d.length = p.size) (fits : t.Fits p)
    (count : partitionCount (t.hdr .primary) = partitionCount (t.hdr .secondary))
    (entry : pentrySize (t.hdr .primary) = pentrySize (t.hdr .secondary)) : LaidOut env (mount p d t) := by
  have hdr := header_mount sound blk size fits
  have off : ∀ gpt, headerOff env (mount p d t) gpt = p.off gpt := by
    intro gpt
    cases gpt <;> simp only [headerOff, Place.off, length_mount, size, blk]
  have start : ∀ gpt, entriesStart env (mount p d t) gpt = p.start gpt := by
    intro gpt
    rw [entriesStart, hdr, ← blk, fits.start]
  have len : ∀ gpt, entriesSize env (mount p d t) gpt = p.len := by
    intro gpt
    rw [entriesSize, hdr, fits.len]
  refine ⟨?_, ?_, ?_, ?_, ?_, ?_, ?_⟩
  · rw [hdr, hdr, count]
  · rw [hdr, hdr, entry]
  · rw [length_mount, size, ← blk]
    exact sound.headers
  · intro gpt
    rw [start, len, length_mount, size]
    exact sound.arrays gpt
  · rw [off, off, ← blk]
    exact sound.headers_apart
  · intro gpt gpt'
    rw [off, start, len, ← blk]
    exact sound.header_array_apart gpt gpt'
  · rw [start, start, len, len]
    exact sound.arrays_apart

structure Tables.Valid (env : Env) (t : Tables) (gpt : GptInstance) : Prop where
  state : headerState env (t.hdr gpt) = .ok
  array : partitionCrc (t.hdr gpt) = (env.crc32 (t.arr gpt)).toNat

theorem completelyValid_mount {env : Env} {p : Place} {d : Bytes} {t : Tables} (sound : p.Sound)
    (blk : p.blk = env.blkSize) (size : d.length = p.size) (fits : t.Fits p) (gpt : GptInstance) :
    CompletelyValid env (mount p d t) gpt ↔ t.Valid env gpt := by
  constructor
  · rintro ⟨state, array⟩
    rw [header_mount sound blk size fits] at state array
    rw [entries_mount sound blk size fits] at array
    exact ⟨state, array⟩
  · rintro ⟨state, array⟩
    constructor
    · rw [header_mount sound blk size fits, state]
    · rw [header_mount sound blk size fits, entries_mount sound blk size fits, array]

end Pdx215.Gpt
