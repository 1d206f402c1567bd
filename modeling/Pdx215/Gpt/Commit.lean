import Pdx215.Gpt.Disk

/-! `gpt_disk_commit` is atomic: wherever it stops, and whatever a failing write leaves in its own
region, one of the two tables is completely valid, and is entirely the old one or entirely the new. -/
namespace Pdx215.Gpt
open Region Effect

section Load

variable {env : Env} {allowed : Nat → Outcome → Prop} {inv : World → Prop} {n : Nat} {w : World}

def MayFail (allowed : Nat → Outcome → Prop) : Prop := ∃ n left, allowed n (.error left)

def diskPath (env : Env) (partname : Bytes) : Option Bytes :=
  if gptUtilsIsUfsDevice env then
    if env.stat (byNamePath partname) then (env.readlink (byNamePath partname)).map (·.take pathTruncateLoc)
    else none
  else some (cstr "/dev/block/mmcblk0")

theorem wp_getDevPath (whole : NoShort allowed) {partname : Bytes}
    {post : Option Bytes → Nat → World → Prop} (now : inv w) (fails : MayFail allowed → ∀ m, post none m w)
    (gives : ∀ m, post (diskPath env partname) m w) :
    wp (react env) allowed inv (getDevPathFromPartitionName env partname) post n w := by
  refine wp_ite (fun ufs => wp_ite (fun absent => wp_ret now ?_) (fun present => ?_)) (fun emmc => wp_ret now ?_)
  · have ends := gives n
    rw [Bool.not_eq_true', ← Bool.not_eq_true] at absent
    rwa [diskPath, if_pos ufs, if_neg absent] at ends
  · refine wp_request now (outcome_cases whole (fun _ => ?_)
      (fun left failed => wp_ret now (fails ⟨_, left, failed⟩ _)))
    have ends := gives (n + 1)
    rw [Bool.not_eq_true', Bool.not_eq_false] at present
    rw [diskPath, if_pos ufs, if_pos present] at ends
    simp only [react, Outcome.failed, Bool.false_eq_true, if_false]
    cases link : env.readlink (byNamePath partname) with
    | none =>
      rw [link] at ends
      exact wp_ret now ends
    | some link' =>
      rw [link] at ends
      exact wp_ret now ends
  · have ends := gives n
    rwa [diskPath, if_neg emmc] at ends

theorem wp_gptFillHeader (whole : NoShort allowed) {gpt : GptInstance} {buf : Option Bytes}
    {post : Option Bytes → Nat → World → Prop} (now : inv w) (room : 2 * env.blkSize ≤ w.disk.length)
    (sized : ∀ b, buf = some b → b.length = env.blkSize) (absent : buf = none → ∀ m, post none m w)
    (fails : MayFail allowed → ∀ m, post none m w) (reads : ∀ m, post (some (header env w.disk gpt)) m w) :
    wp (react env) allowed inv (gptFillHeader gpt env.blkSize buf) post n w := by
  have fits := headerOff_fits env room gpt
  refine wp_bind (wp_headerOffset whole now (by omega) ?_ (fun _ => ?_))
  · exact fun m left _ _ failed => wp_ret now (fails ⟨m, left, failed⟩ _)
  cases buf with
  | none => exact wp_ret now (absent rfl _)
  | some buf =>
    refine wp_blkRead whole now (fun m left _ _ failed => fails ⟨m, left, failed⟩ _) (fun far => by omega)
      (fun _ _ => ?_)
    rw [readInto_header env room (sized buf rfl)]
    exact reads _

theorem wp_gptGetHeader (whole : NoShort allowed) {partname : Bytes} {gpt : GptInstance}
    {post : Option Bytes → Nat → World → Prop} (now : inv w) (room : 2 * env.blkSize ≤ w.disk.length)
    (fails : MayFail allowed ∨ diskPath env partname = none → ∀ m, post none m w)
    (reads : diskPath env partname ≠ none → ∀ m, post (some (header env w.disk gpt)) m w) :
    wp (react env) allowed inv (gptGetHeader env partname gpt) post n w := by
  have ends : MayFail allowed → ∀ m, wp (react env) allowed inv (.ret none) post m w :=
    fun may m => wp_ret now (fails (.inl may) m)
  refine wp_bind (wp_getDevPath whole now ends (fun m => ?_))
  cases path : diskPath env partname with
  | none => exact wp_ret now (fails (.inr path) m)
  | some devpath =>
    have found : ∀ m, post (some (header env w.disk gpt)) m w := reads (by rw [path]; exact Option.some_ne_none _)
    refine wp_request now (outcome_cases whole (fun _ => ?_) (fun left failed => ends ⟨_, left, failed⟩ _))
    refine wp_request now (outcome_cases whole (fun _ => ?_) (fun left failed => ends ⟨_, left, failed⟩ _))
    simp only [react, Outcome.failed, Bool.false_eq_true, if_false]
    refine wp_bind (wp_malloc whole now (fun m left _ _ failed => ?_) (fun _ => ?_))
    · have none' := fails (.inl ⟨m, left, failed⟩)
      exact wp_gptFillHeader whole now room (fun _ absent => by cases absent) (fun _ => none') (fun _ => none') found
    · refine wp_gptFillHeader whole now room (fun b here => ?_) (fun absent => by cases absent)
        (fun may => fails (.inl may)) found
      cases here
      exact length_heap env _

theorem wp_gptGetPentryArr (whole : NoShort allowed) {gpt : GptInstance}
    {post : Option Bytes → Nat → World → Prop} (now : inv w)
    (inside : entriesStart env w.disk gpt + entriesSize env w.disk gpt ≤ w.disk.length)
    (fails : MayFail allowed → ∀ m, post none m w) (reads : ∀ m, post (some (entries env w.disk gpt)) m w) :
    wp (react env) allowed inv (gptGetPentryArr (header env w.disk gpt)) post n w := by
  have ends : MayFail allowed → ∀ m, wp (react env) allowed inv (.ret none) post m w :=
    fun may m => wp_ret now (fails may m)
  refine wp_request now (outcome_cases whole (fun _ => ?_) (fun left failed => ends ⟨_, left, failed⟩ _))
  simp only [react, Outcome.failed, Bool.false_eq_true, if_false]
  refine wp_bind (wp_calloc whole now (fun m left _ _ failed => ends ⟨m, left, failed⟩ _) (fun _ => ?_))
  refine wp_blkRead whole now (fun m left _ _ failed => fails ⟨m, left, failed⟩ _) (fun far => ?_) (fun _ _ => ?_)
  · have near : entriesStart env w.disk gpt ≤ w.disk.length := by omega
    exact absurd near (Nat.not_le.mpr far)
  · rw [readInto_of_fits (by rwa [List.length_replicate]), List.length_replicate]
    exact reads _

/-- The buffers of an initialised `gpt_disk` are the tables of the disk. -/
structure Loaded (env : Env) (d : Bytes) (disk : GptDisk) : Prop where
  initialized : disk.isInitialized = gptDiskInitMagic
  hdr : disk.hdr = header env d .primary
  hdrBak : disk.hdrBak = header env d .secondary
  pentryArr : disk.pentryArr = entries env d .primary
  pentryArrBak : disk.pentryArrBak = entries env d .secondary
  pentryArrSize : disk.pentryArrSize = entriesSize env d .primary

/-- Loading leaves the disk alone; it succeeds only if it finds the disk, and then it does unless a call fails. -/
structure LoadEnds (env : Env) (allowed : Nat → Outcome → Prop) (dev : Bytes) (w : World) (r : Int × GptDisk)
    (v : World) : Prop where
  same : v = w
  success : r.1 = 0 → Loaded env w.disk r.2 ∧ diskPath env dev ≠ none
  failure : r.1 ≠ 0 → MayFail allowed ∨ diskPath env dev = none

theorem wp_gptDiskGetDiskInfo (whole : NoShort allowed) {dev : Bytes} (laid : LaidOut env w.disk)
    (now : inv w) (disk : GptDisk) :
    wp (react env) allowed inv (gptDiskGetDiskInfo env dev disk)
      (fun r _ v => LoadEnds env allowed dev w r v) n w := by
  have room := laid.headers_on_disk
  have ends : MayFail allowed ∨ diskPath env dev = none → ∀ (disk : GptDisk) m,
      wp (react env) allowed inv (.ret (-1, disk)) (fun r _ v => LoadEnds env allowed dev w r v) m w :=
    fun reason disk m => wp_ret now ⟨rfl, fun zero => absurd zero (show (-1 : Int) ≠ 0 by decide), fun _ => reason⟩
  refine wp_bind (wp_gptGetHeader whole now room (fun reason => ends reason _) (fun found _ => ?_))
  refine wp_bind (wp_gptGetHeader whole now room (fun reason => ends reason _) (fun _ _ => ?_))
  refine wp_bind (wp_getDevPath whole now (fun may => ends (.inl may) _) (fun m => ?_))
  cases path : diskPath env dev with
  | none => exact (found path).elim
  | some devpath =>
    refine wp_request now (outcome_cases whole (fun _ => ?_) (fun left failed => ends (.inl ⟨_, left, failed⟩) _ _))
    refine wp_bind (wp_gptGetPentryArr whole now (laid.arrays_on_disk .primary) (fun may => ends (.inl may) _)
      (fun _ => ?_))
    refine wp_bind (wp_gptGetPentryArr whole now (laid.arrays_on_disk .secondary) (fun may => ends (.inl may) _)
      (fun _ => ?_))
    exact wp_request now (fun _ _ => wp_ret now
      ⟨rfl, fun _ => ⟨⟨rfl, rfl, rfl, rfl, rfl, rfl⟩, found⟩, fun failed => (failed rfl).elim⟩)

theorem loaded_of_exec {dev : Bytes} {blank disk : GptDisk} {io : Nat → Outcome} (laid : LaidOut env w.disk)
    (whole : ∀ n, (io n).Whole)
    (loaded : (exec (react env) io (gptDiskGetDiskInfo env dev blank) 0 w).1 = (0, disk)) :
    (exec (react env) io (gptDiskGetDiskInfo env dev blank) 0 w).2 = w ∧ Loaded env w.disk disk ∧
      diskPath env dev ≠ none := by
  have load : wp (react env) (fun _ => Outcome.Whole) (fun _ => True) (gptDiskGetDiskInfo env dev blank)
      (fun r _ v => LoadEnds env (fun _ => Outcome.Whole) dev w r v) 0 w :=
    wp_gptDiskGetDiskInfo (fun _ _ h => h) laid trivial blank
  obtain ⟨_, ends⟩ := exec_post load whole
  have success := ends.success
  rw [loaded] at success
  exact ⟨ends.same, success rfl⟩

theorem gptDiskGetDiskInfo_succeeds {dev : Bytes} (laid : LaidOut env w.disk) (found : diskPath env dev ≠ none)
    (blank : GptDisk) :
    (exec (react env) (fun _ => .ok) (gptDiskGetDiskInfo env dev blank) 0 w).1.1 = 0 := by
  have load : wp (react env) Fine (fun _ => True) (gptDiskGetDiskInfo env dev blank)
      (fun r _ v => LoadEnds env Fine dev w r v) 0 w :=
    wp_gptDiskGetDiskInfo fine_atomic.noShort laid trivial blank
  obtain ⟨_, ends⟩ := exec_post load (fun _ => rfl)
  by_contra failed
  rcases ends.failure failed with ⟨_, _, error⟩ | absent
  · exact absurd error Outcome.noConfusion
  · exact found absent

end Load

theorem peek_self {env : Env} {buf : Bytes} {size : Nat} (sized : buf.length = size) :
    peek env buf 0 size = buf := by
  rw [peek_of_le (by omega), slice, List.drop_zero, ← sized, List.take_length]

section Write

variable {env : Env} {allowed : Nat → Outcome → Prop} {inv : World → Prop} {n : Nat} {w : World}
  {next : Nat → World → Prop}

/-- A write that has room either leaves something in its region or is done and the code goes on. -/
theorem wp_blkWrite_then (whole : NoShort allowed) {off : Nat} {buf : Bytes}
    (fits : off + buf.length ≤ w.disk.length) (now : inv w)
    (spoils : ∀ left, inv (w.spoil off buf.length left)) (done : inv (w.put off buf))
    (goes : ∀ m, next m (w.put off buf)) :
    wp (react env) allowed inv (do
      if (← blkWrite off buf) ≠ 0 then return -1
      return 0) (fun r m v => r = 0 → next m v) n w := by
  have failed : ∀ m v, inv v → wp (react env) allowed inv (if (-1 : Int) ≠ 0 then .ret (-1) else .ret 0)
      (fun r m v => r = 0 → next m v) m v :=
    fun m v now => wp_ret now (fun zero => absurd zero (show (-1 : Int) ≠ 0 by decide))
  refine wp_bind (wp_blkWrite whole now (fun _ _ _ _ _ => failed _ _ now) ?_ ?_ ?_)
  · exact fun full => (not_noSpace fits full).elim
  · exact fun left _ => ⟨spoils left, failed _ _ (spoils left)⟩
  · exact fun _ _ => ⟨done, wp_ret done (fun _ => goes _)⟩

theorem wp_gptSetHeader (whole : NoShort allowed) {gpt : GptInstance} {hdr : Bytes}
    (sized : hdr.length = env.blkSize) (room : 2 * env.blkSize ≤ w.disk.length) (now : inv w)
    (spoils : ∀ left, inv (w.spoil (headerOff env w.disk gpt) env.blkSize left))
    (done : inv (w.put (headerOff env w.disk gpt) hdr))
    (goes : ∀ m, next m (w.put (headerOff env w.disk gpt) hdr)) :
    wp (react env) allowed inv (gptSetHeader env hdr gpt) (fun r m v => r = 0 → next m v) n w := by
  have fits := headerOff_fits env room gpt
  have large := env.blk_large
  have positive : headerOff env w.disk gpt ≠ 0 := by
    cases gpt <;> simp only [headerOff] <;> omega
  have ends : ∀ m, wp (react env) allowed inv (.ret (-1)) (fun r m v => r = 0 → next m v) m w :=
    fun m => wp_ret now (fun zero => absurd zero (show (-1 : Int) ≠ 0 by decide))
  refine wp_request now (outcome_cases whole (fun _ => ?_) (fun _ _ => ends _))
  simp only [react, Outcome.failed, Bool.false_eq_true, if_false]
  refine wp_bind (wp_headerOffset whole now (by omega) (fun _ _ _ _ _ => ends _) (fun _ => ?_))
  refine wp_ite (fun zero => (positive zero).elim) (fun _ => ?_)
  rw [peek_self sized]
  rw [← sized] at fits spoils
  exact wp_blkWrite_then whole fits now spoils done goes

theorem wp_gptSetPentryArr (whole : NoShort allowed) {hdr arr : Bytes}
    (sized : arr.length = pentriesArraySize hdr)
    (fits : pentriesStart env.blkSize hdr + arr.length ≤ w.disk.length) (now : inv w)
    (spoils : ∀ left, inv (w.spoil (pentriesStart env.blkSize hdr) arr.length left))
    (done : inv (w.put (pentriesStart env.blkSize hdr) arr))
    (goes : ∀ m, next m (w.put (pentriesStart env.blkSize hdr) arr)) :
    wp (react env) allowed inv (gptSetPentryArr env hdr arr) (fun r m v => r = 0 → next m v) n w := by
  refine wp_request now (outcome_cases whole (fun _ => ?_) ?_)
  · simp only [react, Outcome.failed, Bool.false_eq_true, if_false]
    rw [peek_self sized]
    exact wp_blkWrite_then whole fits now spoils done goes
  · exact fun _ _ => wp_ret now (fun zero => absurd zero (show (-1 : Int) ≠ 0 by decide))

theorem wp_orFail {first rest : Io Int}
    (h : wp (react env) allowed inv first
      (fun r m v => r = 0 → wp (react env) allowed inv rest (fun _ _ _ => True) m v) n w) :
    wp (react env) allowed inv (do
      if (← first) ≠ 0 then return -1
      rest) (fun _ _ _ => True) n w :=
  wp_seq h (fun _ _ _ now goes => wp_ite (fun _ => wp_ret now trivial) (fun zero => goes (not_not.mp zero)))

end Write

structure Holds (p : Place) (gpt : GptInstance) (h a : Bytes) (w : World) : Prop where
  length : w.disk.length = p.size
  hdr : slice w.disk (p.off gpt) p.blk = h
  arr : slice w.disk (p.start gpt) p.len = a

namespace Holds

variable {p : Place} {gpt : GptInstance} {h a : Bytes} {w : World} {off len : Nat}

theorem put (holds : Holds p gpt h a w) {b : Bytes} (hdr : Apart off b.length (p.off gpt) p.blk)
    (arr : Apart off b.length (p.start gpt) p.len) : Holds p gpt h a (w.put off b) := by
  refine ⟨?_, ?_, ?_⟩
  · rw [World.put, length_splice, holds.length]
  · rw [World.put, slice_splice_apart hdr, holds.hdr]
  · rw [World.put, slice_splice_apart arr, holds.arr]

theorem spoil (holds : Holds p gpt h a w) (hdr : Apart off len (p.off gpt) p.blk)
    (arr : Apart off len (p.start gpt) p.len) (left : Option Bytes) : Holds p gpt h a (w.spoil off len left) := by
  cases left with
  | none => exact holds
  | some left =>
    have short : (left.take len).length ≤ len := by
      rw [List.length_take]
      omega
    refine ⟨?_, ?_, ?_⟩
    · rw [World.spoil, length_splice, holds.length]
    · rw [World.spoil, slice_splice_apart (hdr.shrink short), holds.hdr]
    · rw [World.spoil, slice_splice_apart (arr.shrink short), holds.arr]

theorem valid (holds : Holds p gpt h a w) {env : Env} (blk : p.blk = env.blkSize)
    (start : pentriesStart p.blk h = p.start gpt) (size : pentriesArraySize h = p.len)
    (ok : headerState env h = .ok) (crc : partitionCrc h = (env.crc32 a).toNat) :
    CompletelyValid env w.disk gpt ∧ entries env w.disk gpt = a := by
  have off : headerOff env w.disk gpt = p.off gpt := by
    cases gpt <;> simp only [headerOff, Place.off, holds.length, blk]
  have hdr : header env w.disk gpt = h := by
    rw [header, off, ← blk, holds.hdr]
  have arr : entries env w.disk gpt = a := by
    rw [entries, entriesStart, entriesSize, hdr, ← blk, start, size, holds.arr]
  refine ⟨⟨?_, ?_⟩, arr⟩
  · rw [hdr, ok]
  · rw [hdr, arr, crc]

theorem put_arr (holds : Holds p gpt h a w) (sound : p.Sound) {b : Bytes} (sized : b.length = p.len) :
    Holds p gpt h b (w.put (p.start gpt) b) := by
  refine ⟨?_, ?_, ?_⟩
  · rw [World.put, length_splice, holds.length]
  · rw [World.put, slice_splice_apart (by rw [sized]; exact (sound.header_array_apart gpt gpt).symm), holds.hdr]
  · rw [World.put, ← sized]
    exact slice_splice_same (by rw [sized, holds.length]; exact sound.arrays gpt)

theorem put_hdr (holds : Holds p gpt h a w) (sound : p.Sound) {b : Bytes} (sized : b.length = p.blk) :
    Holds p gpt b a (w.put (p.off gpt) b) := by
  have headers := sound.headers
  refine ⟨?_, ?_, ?_⟩
  · rw [World.put, length_splice, holds.length]
  · rw [World.put, ← sized]
    apply slice_splice_same
    rw [sized, holds.length]
    cases gpt <;> simp only [Place.off] <;> omega
  · rw [World.put, slice_splice_apart (by rw [sized]; exact sound.header_array_apart gpt gpt), holds.arr]

theorem headerOff (holds : Holds p gpt h a w) {env : Env} (blk : p.blk = env.blkSize) (gpt' : GptInstance) :
    headerOff env w.disk gpt' = p.off gpt' := by
  cases gpt' <;> simp only [Gpt.headerOff, Place.off, holds.length, blk]

end Holds

def GptDisk.tables (disk : GptDisk) : Tables where
  hdr
    | .primary => disk.hdr
    | .secondary => disk.hdrBak
  arr
    | .primary => disk.pentryArr
    | .secondary => disk.pentryArrBak

section Commit

variable {env : Env} {allowed : Nat → Outcome → Prop} {n : Nat} {w : World} {p : Place} {disk : GptDisk}

/-- While one table is written, the other one holds what it held. -/
theorem wp_commitTable (whole : NoShort allowed) (sound : p.Sound) (blk : p.blk = env.blkSize)
    {inv : World → Prop} {gpt other : GptInstance} (ne : gpt ≠ other) {hdr arr h a h' a' : Bytes} {rest : Io Int}
    (hdr_sized : hdr.length = p.blk) (arr_sized : arr.length = p.len)
    (start : pentriesStart p.blk hdr = p.start gpt) (size : pentriesArraySize hdr = p.len)
    (keeps : ∀ v, Holds p other h a v → inv v) (old : Holds p other h a w) (mine : Holds p gpt h' a' w)
    (goes : ∀ m v, Holds p other h a v → Holds p gpt hdr arr v →
      wp (react env) allowed inv rest (fun _ _ _ => True) m v) :
    wp (react env) allowed inv (do
      if (← gptSetHeader env hdr gpt) ≠ 0 then return -1
      if (← gptSetPentryArr env hdr arr) ≠ 0 then return -1
      rest) (fun _ _ _ => True) n w := by
  have headers : Apart (p.off gpt) p.blk (p.off other) p.blk := by
    cases gpt <;> cases other
    · exact (ne rfl).elim
    · exact sound.headers_apart
    · exact sound.headers_apart.symm
    · exact (ne rfl).elim
  have arrays : Apart (p.start gpt) p.len (p.start other) p.len := by
    cases gpt <;> cases other
    · exact (ne rfl).elim
    · exact sound.arrays_apart
    · exact sound.arrays_apart.symm
    · exact (ne rfl).elim
  have room : 2 * env.blkSize ≤ w.disk.length := by
    rw [old.length, ← blk]
    exact sound.headers
  have off := old.headerOff blk gpt
  have kept : Holds p other h a (w.put (p.off gpt) hdr) :=
    old.put (by rw [hdr_sized]; exact headers) (by rw [hdr_sized]; exact sound.header_array_apart gpt other)
  have written := mine.put_hdr sound hdr_sized
  refine wp_orFail (wp_gptSetHeader whole (by rw [hdr_sized, blk]) room (keeps _ old) ?_ ?_ (fun m => ?_))
  · intro left
    rw [off, ← blk]
    exact keeps _ (old.spoil headers (sound.header_array_apart gpt other) left)
  · rw [off]
    exact keeps _ kept
  rw [off]
  rw [blk] at start
  have kept' : Holds p other h a ((w.put (p.off gpt) hdr).put (p.start gpt) arr) :=
    kept.put (by rw [arr_sized]; exact (sound.header_array_apart other gpt).symm) (by rw [arr_sized]; exact arrays)
  refine wp_orFail (wp_gptSetPentryArr whole (by rw [arr_sized, size]) ?_ (keeps _ kept) ?_ ?_ (fun m => ?_))
  · rw [start, arr_sized, kept.length]
    exact sound.arrays gpt
  · intro left
    rw [start, arr_sized]
    exact keeps _ (kept.spoil (sound.header_array_apart other gpt).symm arrays left)
  · rw [start]
    exact keeps _ kept'
  · rw [start]
    exact goes m _ kept' (written.put_arr sound arr_sized)

/-- The secondary table stays until the primary one is new. -/
theorem wp_gptDiskCommit (whole : NoShort allowed) (sound : p.Sound) (blk : p.blk = env.blkSize)
    (fits : disk.tables.Fits p) {h a h' a' : Bytes} (old : Holds p .secondary h a w)
    (first : Holds p .primary h' a' w) :
    wp (react env) allowed (fun v => Holds p .secondary h a v ∨ Holds p .primary disk.hdr disk.pentryArr v)
      (gptDiskCommit env disk) (fun _ _ _ => True) n w := by
  refine wp_ite (fun _ => wp_ret (.inl old) trivial) (fun _ => ?_)
  refine wp_request (.inl old) (outcome_cases whole (fun _ => ?_) (fun _ _ => wp_ret (.inl old) trivial))
  refine wp_commitTable whole sound blk (by decide) (fits.hdr .primary) (fits.arr .primary) (fits.start .primary)
    (fits.len .primary) (fun _ => .inl) old first (fun m v old new => ?_)
  refine wp_commitTable whole sound blk (by decide) (fits.hdr .secondary) (fits.arr .secondary)
    (fits.start .secondary) (fits.len .secondary) (fun _ => .inr) new old (fun m v new _ => ?_)
  exact wp_request (.inr new) (fun _ _ => wp_ret (.inr new) trivial)

end Commit

theorem LaidOut.holds {env : Env} {w : World} (laid : LaidOut env w.disk) (gpt : GptInstance) :
    Holds (placeOf env w.disk) gpt (header env w.disk gpt) (entries env w.disk gpt) w := by
  refine ⟨rfl, ?_, ?_⟩
  · rw [placeOf_off]
    rfl
  · rw [← laid.entriesSize_eq gpt]
    rfl

def GptDisk.edit (disk : GptDisk) (arr arrBak : Bytes) : GptDisk :=
  { disk with pentryArr := arr, pentryArrBak := arrBak }

theorem Loaded.sized_edit {env : Env} {d : Bytes} {disk : GptDisk} (memory : Loaded env d disk) (laid : LaidOut env d)
    {arr arrBak : Bytes} (sized : arr.length = disk.pentryArr.length)
    (sizedBak : arrBak.length = disk.pentryArrBak.length) (gpt : GptInstance) :
    ((disk.edit arr arrBak).tables.arr gpt).length = entriesSize env d .primary := by
  have length : ∀ gpt, (entries env d gpt).length = entriesSize env d .primary := laid.fits.arr
  cases gpt with
  | primary => rw [← length .primary, ← memory.pentryArr, ← sized]; rfl
  | secondary => rw [← length .secondary, ← memory.pentryArrBak, ← sizedBak]; rfl

/-- With one header size for both headers, each gets the CRC of its array and its own CRC. -/
theorem tables_gptDiskUpdateCrc {env : Env} {d : Bytes} {disk : GptDisk} (loaded : Loaded env d disk)
    (size : headerSize (header env d .primary) = headerSize (header env d .secondary)) {arr arrBak : Bytes}
    (lengths : ∀ gpt, ((disk.edit arr arrBak).tables.arr gpt).length = entriesSize env d .primary) :
    (gptDiskUpdateCrc env (disk.edit arr arrBak)).2.tables =
      ⟨fun gpt => withArray env ((disk.edit arr arrBak).tables.arr gpt) (header env d gpt),
        (disk.edit arr arrBak).tables.arr⟩ := by
  have sized : arr.length = entriesSize env d .primary := lengths .primary
  have sizedBak : arrBak.length = entriesSize env d .primary := lengths .secondary
  have started : ¬ (disk.edit arr arrBak).isInitialized ≠ gptDiskInitMagic := not_not.mpr loaded.initialized
  have layout := (sameLayout_partitionCrc (header env d .primary) (env.crc32 arr).toNat).size
  rw [gptDiskUpdateCrc, if_neg started]
  refine Tables.ext ?_ ?_ <;> intro gpt <;> cases gpt
  · simp only [GptDisk.tables, GptDisk.edit, crcOf, loaded.pentryArrSize, peek_self sized, loaded.hdr, layout,
      withArray]
  · simp only [GptDisk.tables, GptDisk.edit, crcOf, loaded.pentryArrSize, peek_self sized, peek_self sizedBak,
      loaded.hdr, loaded.hdrBak, layout, size, withArray]
  · rfl
  · rfl

theorem LaidOut.fits_withArray {env : Env} {d : Bytes} (laid : LaidOut env d) {arr : GptInstance → Bytes}
    (sized : ∀ gpt, (arr gpt).length = entriesSize env d .primary) :
    Tables.Fits ⟨fun gpt => withArray env (arr gpt) (header env d gpt), arr⟩ (placeOf env d) := by
  refine ⟨?_, sized, ?_, ?_⟩ <;> intro gpt
  · rw [length_withArray]
    exact laid.fits.hdr gpt
  · rw [(sameLayout_withArray env (arr gpt) _).arrayStart]
    exact laid.fits.start gpt
  · rw [(sameLayout_withArray env (arr gpt) _).arraySize]
    exact laid.fits.len gpt

/-- Load, edit, recalculate, commit: at every point of the commit there is a completely valid table
whose entries are all old or all new. -/
theorem gptDiskCommit_atomic (env : Env) (w : World) (laid : LaidOut env w.disk)
    (valid : ∀ gpt, CompletelyValid env w.disk gpt)
    (size : headerSize (header env w.disk .primary) = headerSize (header env w.disk .secondary))
    (dev : Bytes) (blank disk : GptDisk) (io : Nat → Outcome) (whole : ∀ n, (io n).Whole)
    (loaded : (exec (react env) io (gptDiskGetDiskInfo env dev blank) 0 w).1 = (0, disk))
    (arr arrBak : Bytes) (sized : arr.length = disk.pentryArr.length)
    (sizedBak : arrBak.length = disk.pentryArrBak.length)
    (outcomes : List Outcome) (complete : ∀ o ∈ outcomes, Outcome.Whole o) :
    ∀ v ∈ states (react env) (gptDiskCommit env (gptDiskUpdateCrc env (disk.edit arr arrBak)).2)
        (exec (react env) io (gptDiskGetDiskInfo env dev blank) 0 w).2 outcomes,
      ∃ gpt, CompletelyValid env v.disk gpt ∧
        (entries env v.disk gpt = entries env w.disk gpt ∨
          entries env v.disk gpt = (disk.edit arr arrBak).tables.arr gpt) := by
  obtain ⟨same, memory, _⟩ := loaded_of_exec laid whole loaded
  have lengths := memory.sized_edit laid sized sizedBak
  have tables := tables_gptDiskUpdateCrc memory size lengths
  have fits : (gptDiskUpdateCrc env (disk.edit arr arrBak)).2.tables.Fits (placeOf env w.disk) := by
    rw [tables]
    exact laid.fits_withArray lengths
  have commit : wp (react env) (fun _ => Outcome.Whole) _ _ _ 0 w :=
    wp_gptDiskCommit (fun _ _ h => h) laid.sound rfl fits (laid.holds .secondary) (laid.holds .primary)
  rw [same]
  intro v reached
  rcases states_inv commit outcomes (fun i o here => complete o (List.mem_of_getElem? here)) v reached with old | new
  · obtain ⟨still, array⟩ := old.valid rfl (laid.fits.start .secondary) (laid.fits.len .secondary)
      (valid .secondary).state (valid .secondary).array
    exact ⟨.secondary, still, .inl array⟩
  · have hdr : (gptDiskUpdateCrc env (disk.edit arr arrBak)).2.hdr = withArray env arr (header env w.disk .primary) :=
      congrArg (fun t => t.hdr .primary) tables
    have large : 92 ≤ (header env w.disk .primary).length := (mounted_tablesOf laid).large .primary
    have ok := (valid .primary).state
    have array : (gptDiskUpdateCrc env (disk.edit arr arrBak)).2.pentryArr = arr :=
      congrArg (fun t => t.arr .primary) tables
    obtain ⟨now, entries⟩ := new.valid rfl (fits.start .primary) (fits.len .primary)
      (by rw [hdr, headerState_withArray arr large (by rw [ok]; decide), ok])
      (by rw [hdr, array, partitionCrc_withArray env arr large])
    exact ⟨.primary, now, .inr (entries.trans array)⟩

def Sample.loaded : GptDisk :=
  (exec (react Sample.env) (fun _ => .ok) (gptDiskGetDiskInfo Sample.env (cstr "xbl") gptDiskAlloc) 0
    Sample.world).1.2

def Sample.edited : Bytes := Sample.entry 3 "abl" ++ Sample.entry 4 "ablbak"

namespace Sample

theorem loads : (exec (react env) (fun _ => .ok) (gptDiskGetDiskInfo env (cstr "xbl") gptDiskAlloc) 0 world).1 =
    (0, loaded) := by
  have found : diskPath env (cstr "xbl") ≠ none := by decide
  have pair : ∀ r : Int × GptDisk, r.1 = 0 → r = (0, r.2) := by
    rintro ⟨_, disk⟩ rfl
    rfl
  rw [loaded]
  exact pair _ (gptDiskGetDiskInfo_succeeds world_wellFormed.laid found gptDiskAlloc)

theorem loaded_memory : Loaded env world.disk loaded := by
  have whole : ∀ n, ((fun _ => .ok : Nat → Outcome) n).Whole := fun _ => trivial
  exact (loaded_of_exec world_wellFormed.laid whole loads).2.1

theorem header_sizes : headerSize (header env world.disk .primary) = headerSize (header env world.disk .secondary) := by
  rw [world_mounted.header, world_mounted.header, (sameLayout _ _ _).size, (sameLayout _ _ _).size,
    (bare_fields _).1, (bare_fields _).1]

theorem edited_sized : edited.length = loaded.pentryArr.length ∧ edited.length = loaded.pentryArrBak.length := by
  rw [loaded_memory.pentryArr, loaded_memory.pentryArrBak, world_mounted.entries, world_mounted.entries]
  simp only [edited, tables, List.length_append, length_entry, and_self]

end Sample

/-- The write of the primary array fails and leaves one byte of something else. -/
theorem gptDiskCommit_atomic_sample :
    (exec (react Sample.env) (fun _ => .ok) (gptDiskGetDiskInfo Sample.env (cstr "xbl") gptDiskAlloc) 0
      Sample.world).1 = (0, Sample.loaded) ∧
    ∀ v ∈ states (react Sample.env)
        (gptDiskCommit Sample.env (gptDiskUpdateCrc Sample.env (Sample.loaded.edit Sample.edited Sample.edited)).2)
        (exec (react Sample.env) (fun _ => .ok) (gptDiskGetDiskInfo Sample.env (cstr "xbl") gptDiskAlloc) 0
          Sample.world).2 (List.replicate 6 .ok ++ [.error (some [255])]),
      ∃ gpt, CompletelyValid Sample.env v.disk gpt ∧
        (entries Sample.env v.disk gpt = entries Sample.env Sample.world.disk gpt ∨
          entries Sample.env v.disk gpt = (Sample.loaded.edit Sample.edited Sample.edited).tables.arr gpt) := by
  refine ⟨Sample.loads, gptDiskCommit_atomic Sample.env Sample.world Sample.world_wellFormed.laid
    Sample.world_wellFormed.valid Sample.header_sizes (cstr "xbl") gptDiskAlloc Sample.loaded (fun _ => .ok)
    (fun _ => trivial) Sample.loads Sample.edited Sample.edited Sample.edited_sized.1 Sample.edited_sized.2 _ ?_⟩
  intro o happened
  rcases List.mem_append.mp happened with ok | failed
  · rw [List.eq_of_mem_replicate ok]
    trivial
  · rw [List.mem_singleton.mp failed]
    trivial

end Pdx215.Gpt
