import Pdx215.Gpt.Transfer
import Pdx215.Gpt.Stages

/-! From a loaded `gpt_disk` over its edited arrays, the recalculated CRCs and the commit to what the rest
of the library finds on the disk. -/
namespace Pdx215.Gpt
open Region Effect

theorem Transfer.written_of_whole {o : Outcome} (whole : o.Whole) (off : Nat) (buf d : Bytes) :
    Transfer.written ⟨o, off, buf⟩ d = splice d off buf := by
  have all : o.count buf.length = buf.length := by
    cases o with
    | ok => rfl
    | short count => exact whole.elim
    | error left => rfl
  rw [written, all, List.take_length]

section Commit

variable {env : Env} {w : World} {p : Place} {disk : GptDisk} {io : Nat → Outcome}

/-- A commit whose transfers complete mounts the tables in memory on the disk. -/
theorem gptDiskCommit_mount (sound : p.Sound) (blk : p.blk = env.blkSize) (size : w.disk.length = p.size)
    (fits : disk.tables.Fits p) (whole : ∀ n, (io n).Whole)
    (success : (exec (react env) io (gptDiskCommit env disk) 0 w).1 = 0) :
    (exec (react env) io (gptDiskCommit env disk) 0 w).2.disk = mount p w.disk disk.tables := by
  have off (gpt : GptInstance) : headerOff env w.disk gpt = p.off gpt := by
    cases gpt <;> simp only [headerOff, Place.off, size, blk]
  have hdr (gpt : GptInstance) : peek env (disk.tables.hdr gpt) 0 env.blkSize = disk.tables.hdr gpt :=
    peek_self (by rw [fits.hdr, blk])
  have arr (gpt : GptInstance) :
      peek env (disk.tables.arr gpt) 0 (pentriesArraySize (disk.tables.hdr gpt)) = disk.tables.arr gpt :=
    peek_self (by rw [fits.arr, fits.len])
  have start (gpt : GptInstance) : pentriesStart env.blkSize (disk.tables.hdr gpt) = p.start gpt := by
    rw [← blk, fits.start]
  have writes : commitWrites env io disk w.disk =
      [⟨io 3, headerOff env w.disk .primary, peek env (disk.tables.hdr .primary) 0 env.blkSize⟩,
        ⟨io 6, pentriesStart env.blkSize (disk.tables.hdr .primary),
          peek env (disk.tables.arr .primary) 0 (pentriesArraySize (disk.tables.hdr .primary))⟩,
        ⟨io 10, headerOff env w.disk .secondary, peek env (disk.tables.hdr .secondary) 0 env.blkSize⟩,
        ⟨io 13, pentriesStart env.blkSize (disk.tables.hdr .secondary),
          peek env (disk.tables.arr .secondary) 0 (pentriesArraySize (disk.tables.hdr .secondary))⟩] := rfl
  have past : Apart (p.start .primary) (disk.tables.arr .primary).length (p.off .secondary)
      (disk.tables.hdr .secondary).length := by
    rw [fits.arr, fits.hdr]
    exact (sound.header_array_apart .secondary .primary).symm
  rw [gptDiskCommit_disk env io disk w success, writes]
  simp only [Transfer.writeAll, List.foldl, Transfer.written_of_whole (whole _), off, hdr, arr, start]
  rw [splice_comm past, mount]

theorem wp_blkWrite_fine {off n : Nat} {buf : Bytes} {post : Int → Nat → World → Prop}
    (fits : off + buf.length ≤ w.disk.length)
    (goes : ∀ m v, v.disk.length = w.disk.length → post 0 m v) :
    wp (react env) Fine (fun _ => True) (blkWrite off buf) post n w := by
  refine wp_blkWrite fine_atomic.noShort trivial FailsTo.fine ?_ ?_ ?_
  · exact fun full => (not_noSpace fits full).elim
  · exact fun left failed => absurd failed Outcome.noConfusion
  · exact fun _ _ => ⟨trivial, goes _ _ (length_splice ..)⟩

theorem wp_gptSetHeader_fine {n : Nat} {gpt : GptInstance} {hdr : Bytes} {post : Int → Nat → World → Prop}
    (room : 2 * env.blkSize ≤ w.disk.length) (goes : ∀ m v, v.disk.length = w.disk.length → post 0 m v) :
    wp (react env) Fine (fun _ => True) (gptSetHeader env hdr gpt) post n w := by
  have fits := headerOff_fits env room gpt
  have large := env.blk_large
  have positive : headerOff env w.disk gpt ≠ 0 := by
    cases gpt <;> simp only [headerOff] <;> omega
  refine wp_request trivial ?_
  rintro o rfl
  simp only [react, Outcome.failed, Bool.false_eq_true, if_false]
  refine wp_bind (wp_headerOffset fine_atomic.noShort trivial (by omega) FailsTo.fine (fun _ => ?_))
  refine wp_ite (fun zero => (positive zero).elim) (fun _ => ?_)
  refine wp_bind (wp_blkWrite_fine (by rwa [length_peek]) (fun m v same => ?_))
  exact wp_ret trivial (goes m v same)

theorem wp_gptSetPentryArr_fine {n : Nat} {hdr arr : Bytes} {post : Int → Nat → World → Prop}
    (fits : pentriesStart env.blkSize hdr + pentriesArraySize hdr ≤ w.disk.length)
    (goes : ∀ m v, v.disk.length = w.disk.length → post 0 m v) :
    wp (react env) Fine (fun _ => True) (gptSetPentryArr env hdr arr) post n w := by
  refine wp_request trivial ?_
  rintro o rfl
  simp only [react, Outcome.failed, Bool.false_eq_true, if_false]
  refine wp_bind (wp_blkWrite_fine (by rwa [length_peek]) (fun m v same => ?_))
  exact wp_ret trivial (goes m v same)

theorem gptDiskCommit_succeeds (initialized : disk.isInitialized = gptDiskInitMagic) (sound : p.Sound)
    (blk : p.blk = env.blkSize) (size : w.disk.length = p.size) (fits : disk.tables.Fits p) :
    (exec (react env) (fun _ => .ok) (gptDiskCommit env disk) 0 w).1 = 0 := by
  have room : 2 * env.blkSize ≤ w.disk.length := by
    rw [size, ← blk]
    exact sound.headers
  have arrays (gpt : GptInstance) : pentriesStart env.blkSize (disk.tables.hdr gpt) +
      pentriesArraySize (disk.tables.hdr gpt) ≤ w.disk.length := by
    rw [← blk, fits.start, fits.len, size]
    exact sound.arrays gpt
  have commit : wp (react env) Fine (fun _ => True) (gptDiskCommit env disk) (fun r _ _ => r = 0) 0 w := by
    refine wp_ite (fun absent => (absent initialized).elim) (fun _ => wp_request trivial ?_)
    rintro o rfl
    refine wp_bind (wp_gptSetHeader_fine room (fun _ v₁ same₁ => ?_))
    refine wp_bind (wp_gptSetPentryArr_fine (by rw [same₁]; exact arrays .primary) (fun _ v₂ same₂ => ?_))
    refine wp_bind (wp_gptSetHeader_fine (by rwa [same₂, same₁]) (fun _ v₃ same₃ => ?_))
    refine wp_bind (wp_gptSetPentryArr_fine (by rw [same₃, same₂, same₁]; exact arrays .secondary) (fun _ v₄ _ => ?_))
    exact wp_request trivial (fun _ _ => wp_ret trivial rfl)
  obtain ⟨_, zero⟩ := exec_post commit (fun _ => rfl)
  exact zero

end Commit

/-- Only the two CRC fields of a header depend on the array. -/
theorem getElem?_withArray (env : Env) (arr h : Bytes) {i : Nat}
    (header : i < headerCrcOffset ∨ headerCrcOffset + 4 ≤ i)
    (array : i < partitionCrcOffset ∨ partitionCrcOffset + 4 ≤ i) : (withArray env arr h)[i]? = h[i]? := by
  rw [withArray, sealHeader_eq, put4Bytes, put4Bytes, getElem?_splice, length_fourBytes, if_neg (by omega),
    getElem?_splice, length_fourBytes, if_neg (by omega)]

theorem headerState_withArray_ok (env : Env) (arr : Bytes) {h : Bytes} (large : 92 ≤ h.length)
    (signature : h.take gptSignature.length = gptSignature) : headerState env (withArray env arr h) = .ok := by
  have size : headerSize h = headerSize (put4Bytes h partitionCrcOffset (env.crc32 arr).toNat) :=
    (sameLayout_partitionCrc h _).size.symm
  rw [withArray, size, headerState_sealHeader env (by simpa using large), put4Bytes,
    take_splice_apart (by rw [length_gptSignature]; decide), if_neg (not_not.mpr signature)]

theorem getElem?_mount_outside {p : Place} {t : Tables} (fits : t.Fits p) (d : Bytes) {i : Nat}
    (outside : ∀ gpt, ¬ Inside i (p.off gpt) p.blk ∧ ¬ Inside i (p.start gpt) p.len) : (mount p d t)[i]? = d[i]? := by
  have first := outside .primary
  have second := outside .secondary
  simp only [Inside] at first second
  rw [mount, getElem?_splice, if_neg (by rw [fits.arr]; omega), getElem?_splice, if_neg (by rw [fits.arr]; omega),
    getElem?_splice, if_neg (by rw [fits.hdr]; omega), getElem?_splice, if_neg (by rw [fits.hdr]; omega)]

/-- The rest of the library accepts a disk that holds new arrays, and finds them there. -/
structure Accepted (env : Env) (dev : Bytes) (arr : GptInstance → Bytes) (before after : World) : Prop where
  state : ∀ gpt, reportedState env after gpt = some .ok
  crc : ∀ gpt, partitionCrc (header env after.disk gpt) = (env.crc32 (entries env after.disk gpt)).toNat
  loads : ∀ blank, (exec (react env) (fun _ => .ok) (gptDiskGetDiskInfo env dev blank) 0 after).1.1 = 0
  arrays : ∀ blank disk io, (∀ n, (io n).Whole) →
    (exec (react env) io (gptDiskGetDiskInfo env dev blank) 0 after).1 = (0, disk) →
      disk.pentryArr = arr .primary ∧ disk.pentryArrBak = arr .secondary
  headers : ∀ gpt i, (i < headerCrcOffset ∨ headerCrcOffset + 4 ≤ i) →
    (i < partitionCrcOffset ∨ partitionCrcOffset + 4 ≤ i) →
      (header env after.disk gpt)[i]? = (header env before.disk gpt)[i]?
  outside : ∀ i, (∀ gpt, ¬ Inside i (headerOff env before.disk gpt) env.blkSize ∧
    ¬ Inside i (entriesStart env before.disk gpt) (entriesSize env before.disk gpt)) →
      after.disk[i]? = before.disk[i]?

/-- Sealed tables for new arrays, mounted where the old ones were, are accepted. -/
theorem accepted_mount {env : Env} {dev : Bytes} {arr : GptInstance → Bytes} {w v : World} (laid : LaidOut env w.disk)
    (signature : ∀ gpt, (header env w.disk gpt).take gptSignature.length = gptSignature)
    (found : diskPath env dev ≠ none) (sized : ∀ gpt, (arr gpt).length = entriesSize env w.disk .primary)
    (mounted : v.disk = mount (placeOf env w.disk) w.disk
      ⟨fun gpt => withArray env (arr gpt) (header env w.disk gpt), arr⟩) :
    Accepted env dev arr w v := by
  have fits := laid.fits_withArray sized
  have large : ∀ gpt, 92 ≤ (header env w.disk gpt).length := (mounted_tablesOf laid).large
  have hdr : ∀ gpt, header env v.disk gpt = withArray env (arr gpt) (header env w.disk gpt) := by
    rw [mounted]
    exact header_mount laid.sound rfl rfl fits
  have array : ∀ gpt, entries env v.disk gpt = arr gpt := by
    rw [mounted]
    exact entries_mount laid.sound rfl rfl fits
  have again : LaidOut env v.disk := by
    rw [mounted]
    refine laidOut_mount laid.sound rfl rfl fits ?_ ?_
    · rw [(sameLayout_withArray env _ _).count, (sameLayout_withArray env _ _).count, laid.count]
    · rw [(sameLayout_withArray env _ _).entry, (sameLayout_withArray env _ _).entry, laid.entry]
  refine ⟨?_, ?_, ?_, ?_, ?_, ?_⟩
  · intro gpt
    rw [reportedState_eq again.headers_on_disk, hdr, headerState_withArray_ok env (arr gpt) (large gpt)
      (signature gpt)]
  · intro gpt
    rw [hdr, array, partitionCrc_withArray env (arr gpt) (large gpt)]
  · exact fun blank => gptDiskGetDiskInfo_succeeds again found blank
  · intro blank disk io whole loaded
    obtain ⟨_, memory, _⟩ := loaded_of_exec again whole loaded
    rw [memory.pentryArr, memory.pentryArrBak, array, array]
    exact ⟨rfl, rfl⟩
  · intro gpt i header array
    rw [hdr, getElem?_withArray env (arr gpt) _ header array]
  · intro i outside
    rw [mounted]
    refine getElem?_mount_outside fits w.disk (fun gpt => ?_)
    rw [placeOf_off, ← laid.entriesSize_eq gpt]
    exact outside gpt

theorem LaidOut.sealed_tablesOf {env : Env} {w : World} (laid : LaidOut env w.disk)
    (valid : ∀ gpt, CompletelyValid env w.disk gpt) :
    (⟨fun gpt => withArray env (entries env w.disk gpt) (header env w.disk gpt), entries env w.disk⟩ : Tables) =
      tablesOf env w.disk := by
  refine Tables.ext (fun gpt => ?_) (fun _ => rfl)
  have state := (valid gpt).state
  exact withArray_of_match ((mounted_tablesOf laid).large gpt) (by rw [state]; decide) (valid gpt).array

/-- Arrays that are loaded, edited, given their CRCs and committed are accepted; without edits a disk that
was right stays as it was. -/
theorem gptDisk_commit_accepted (env : Env) (w : World) (laid : LaidOut env w.disk)
    (signature : ∀ gpt, (header env w.disk gpt).take gptSignature.length = gptSignature)
    (size : headerSize (header env w.disk .primary) = headerSize (header env w.disk .secondary))
    (dev : Bytes) (blank disk : GptDisk) (load : Nat → Outcome) (whole : ∀ n, (load n).Whole)
    (loaded : (exec (react env) load (gptDiskGetDiskInfo env dev blank) 0 w).1 = (0, disk))
    (arr arrBak : Bytes) (sized : arr.length = disk.pentryArr.length)
    (sizedBak : arrBak.length = disk.pentryArrBak.length) (io : Nat → Outcome) (complete : ∀ n, (io n).Whole) :
    let before := (exec (react env) load (gptDiskGetDiskInfo env dev blank) 0 w).2
    let edited := gptDiskUpdateCrc env (disk.edit arr arrBak)
    let committed := exec (react env) io (gptDiskCommit env edited.2) 0 before
    edited.1 = 0 ∧ (exec (react env) (fun _ => .ok) (gptDiskCommit env edited.2) 0 before).1 = 0 ∧
      (committed.1 = 0 → Accepted env dev (disk.edit arr arrBak).tables.arr w committed.2 ∧
        (arr = disk.pentryArr → arrBak = disk.pentryArrBak → (∀ gpt, CompletelyValid env w.disk gpt) →
          committed.2.disk = w.disk)) := by
  obtain ⟨same, memory, found⟩ := loaded_of_exec laid whole loaded
  rw [same]
  intro before edited committed
  have lengths := memory.sized_edit laid sized sizedBak
  have tables := tables_gptDiskUpdateCrc memory size lengths
  have fits : edited.2.tables.Fits (placeOf env w.disk) := by
    rw [tables]
    exact laid.fits_withArray lengths
  have started : ¬ (disk.edit arr arrBak).isInitialized ≠ gptDiskInitMagic := not_not.mpr memory.initialized
  have code : edited.1 = 0 := by
    simp only [edited, gptDiskUpdateCrc, if_neg started]
  have initialized : edited.2.isInitialized = gptDiskInitMagic := by
    simp only [edited, gptDiskUpdateCrc, if_neg started]
    exact memory.initialized
  refine ⟨code, gptDiskCommit_succeeds initialized laid.sound rfl rfl fits, ?_⟩
  intro success
  have mounted := gptDiskCommit_mount laid.sound rfl rfl fits complete success
  rw [tables] at mounted
  refine ⟨accepted_mount laid signature found lengths mounted, ?_⟩
  rintro rfl rfl valid
  have arrays : (disk.edit disk.pentryArr disk.pentryArrBak).tables.arr = entries env w.disk := by
    funext gpt
    cases gpt
    · exact memory.pentryArr
    · exact memory.pentryArrBak
  rw [mounted, arrays, laid.sealed_tablesOf valid, mount_tablesOf]

theorem gptDisk_commit_accepted_sample :
    Accepted Sample.env (cstr "xbl") (Sample.loaded.edit Sample.edited Sample.edited).tables.arr Sample.world
      (exec (react Sample.env) (fun _ => .ok)
        (gptDiskCommit Sample.env (gptDiskUpdateCrc Sample.env (Sample.loaded.edit Sample.edited Sample.edited)).2) 0
        (exec (react Sample.env) (fun _ => .ok) (gptDiskGetDiskInfo Sample.env (cstr "xbl") gptDiskAlloc) 0
          Sample.world).2).2 := by
  have signature (gpt : GptInstance) : (header Sample.env Sample.world.disk gpt).take gptSignature.length =
      gptSignature :=
    (headerState_ok.mp (Sample.world_wellFormed.valid gpt).state).2
  obtain ⟨_, success, accepted⟩ :=
    gptDisk_commit_accepted Sample.env Sample.world Sample.world_wellFormed.laid signature
    Sample.header_sizes (cstr "xbl") gptDiskAlloc Sample.loaded (fun _ => .ok) (fun _ => trivial) Sample.loads
    Sample.edited Sample.edited Sample.edited_sized.1 Sample.edited_sized.2 (fun _ => .ok) (fun _ => trivial)
  exact (accepted success).1

end Pdx215.Gpt
