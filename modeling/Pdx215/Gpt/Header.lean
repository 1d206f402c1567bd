import Pdx215.Gpt.Update

/-! The algebra of header edits. A sealed header stores the CRC of its other bytes; sealing
forgets the old CRC, keeps every other field and is undone by nothing else. -/
namespace Pdx215.Gpt
open Region

theorem length_gptSignature : gptSignature.length = 9 := by decide

@[simp] theorem length_sealHeader (env : Env) (size : Nat) (h : Bytes) :
    (sealHeader env size h).length = h.length := by
  rw [sealHeader, length_put4Bytes, length_put4Bytes]

theorem sealHeader_eq (env : Env) (size : Nat) (h : Bytes) :
    sealHeader env size h = put4Bytes h headerCrcOffset (crcOfHeader env size h) :=
  put4Bytes_put4Bytes _ _ _ _

theorem crcOfHeader_lt (env : Env) (size : Nat) (h : Bytes) : crcOfHeader env size h < 2 ^ 32 :=
  UInt32.toNat_lt _

/-- The stored CRC does not take part in the calculation. -/
theorem crcOfHeader_put4Bytes (env : Env) (size : Nat) (h : Bytes) (x : Nat) :
    crcOfHeader env size (put4Bytes h headerCrcOffset x) = crcOfHeader env size h := by
  rw [crcOfHeader, put4Bytes_put4Bytes, crcOfHeader]

theorem sealHeader_put4Bytes (env : Env) (size : Nat) (h : Bytes) (x : Nat) :
    sealHeader env size (put4Bytes h headerCrcOffset x) = sealHeader env size h := by
  rw [sealHeader_eq, sealHeader_eq, crcOfHeader_put4Bytes, put4Bytes_put4Bytes]

theorem get4Bytes_sealHeader (env : Env) (size : Nat) (h : Bytes) {off : Nat}
    (apart : off + 4 ≤ headerCrcOffset ∨ headerCrcOffset + 4 ≤ off) :
    get4Bytes (sealHeader env size h) off = get4Bytes h off := by
  rw [sealHeader_eq, get4Bytes_put4Bytes_apart apart]

theorem get8Bytes_sealHeader (env : Env) (size : Nat) (h : Bytes) {off : Nat}
    (apart : off + 8 ≤ headerCrcOffset ∨ headerCrcOffset + 4 ≤ off) :
    get8Bytes (sealHeader env size h) off = get8Bytes h off := by
  rw [sealHeader_eq, get8Bytes_put4Bytes_apart apart]

theorem headerCrc_sealHeader (env : Env) (size : Nat) {h : Bytes} (large : 92 ≤ h.length) :
    headerCrc (sealHeader env size h) = crcOfHeader env size h := by
  rw [sealHeader_eq, headerCrc]
  exact get4Bytes_put4Bytes (by simp only [headerCrcOffset]; omega) (crcOfHeader_lt env size h)

theorem take_splice_apart {d b : Bytes} {n off : Nat} (apart : n ≤ off) :
    (splice d off b).take n = d.take n := by
  have apart : Apart off b.length 0 n := (apart_of_le (by omega)).symm
  simpa only [slice, List.drop_zero] using slice_splice_apart (d := d) apart

theorem take_sealHeader (env : Env) (size : Nat) (h : Bytes) :
    (sealHeader env size h).take gptSignature.length = h.take gptSignature.length := by
  rw [sealHeader_eq, put4Bytes, take_splice_apart (by rw [length_gptSignature]; decide)]

/-- The layout of a header: what it says about its own size and about its entry array. -/
structure SameLayout (h h' : Bytes) : Prop where
  size : headerSize h = headerSize h'
  start : get8Bytes h pentriesOffset = get8Bytes h' pentriesOffset
  count : partitionCount h = partitionCount h'
  entry : pentrySize h = pentrySize h'

theorem SameLayout.trans {a b c : Bytes} (first : SameLayout a b) (second : SameLayout b c) :
    SameLayout a c :=
  ⟨first.size.trans second.size, first.start.trans second.start, first.count.trans second.count,
    first.entry.trans second.entry⟩

theorem SameLayout.arraySize {h h' : Bytes} (same : SameLayout h h') :
    pentriesArraySize h = pentriesArraySize h' := by
  rw [pentriesArraySize, same.count, same.entry, pentriesArraySize]

theorem SameLayout.arrayStart {h h' : Bytes} (same : SameLayout h h') (blkSize : Nat) :
    pentriesStart blkSize h = pentriesStart blkSize h' := by
  rw [pentriesStart, same.start, pentriesStart]

theorem sameLayout_sealHeader (env : Env) (size : Nat) (h : Bytes) :
    SameLayout (sealHeader env size h) h :=
  ⟨get4Bytes_sealHeader env size h (by decide), get8Bytes_sealHeader env size h (by decide),
    get4Bytes_sealHeader env size h (by decide), get4Bytes_sealHeader env size h (by decide)⟩

theorem sameLayout_partitionCrc (h : Bytes) (x : Nat) :
    SameLayout (put4Bytes h partitionCrcOffset x) h :=
  ⟨get4Bytes_put4Bytes_apart (by decide), get8Bytes_put4Bytes_apart (by decide),
    get4Bytes_put4Bytes_apart (by decide), get4Bytes_put4Bytes_apart (by decide)⟩

/-- Only the first nine bytes change, and the first field read lies behind them. -/
theorem sameLayout_signature {h b : Bytes} (small : b.length ≤ 9) : SameLayout (splice h 0 b) h := by
  refine ⟨get4Bytes_splice_apart ?_, get8Bytes_splice_apart ?_, get4Bytes_splice_apart ?_,
    get4Bytes_splice_apart ?_⟩ <;>
  simp only [headerSizeOffset, pentriesOffset, partitionCountOffset, pentrySizeOffset] <;> omega

theorem headerState_ne_badCrc {env : Env} {h : Bytes} :
    headerState env h ≠ .badCrc ↔ crcOfHeader env (headerSize h) h = headerCrc h := by
  unfold headerState
  by_cases crc : crcOfHeader env (headerSize h) h = headerCrc h
  · rw [if_neg (not_not.mpr crc)]
    refine ⟨fun _ => crc, fun _ => ?_⟩
    split <;> decide
  · rw [if_pos crc]
    exact ⟨fun impossible => (impossible rfl).elim, fun right => (crc right).elim⟩

theorem headerState_ok {env : Env} {h : Bytes} :
    headerState env h = .ok ↔
      crcOfHeader env (headerSize h) h = headerCrc h ∧ h.take gptSignature.length = gptSignature := by
  unfold headerState
  split
  · rename_i crc
    exact ⟨fun impossible => (by cases impossible), fun right => (crc right.1).elim⟩
  · rename_i crc
    split
    · rename_i signature
      exact ⟨fun impossible => (by cases impossible), fun right => (signature right.2).elim⟩
    · rename_i signature
      exact ⟨fun _ => ⟨not_not.mp crc, not_not.mp signature⟩, fun _ => rfl⟩

theorem headerState_sealHeader (env : Env) {h : Bytes} (large : 92 ≤ h.length) :
    headerState env (sealHeader env (headerSize h) h) =
      if h.take gptSignature.length ≠ gptSignature then .badSignature else .ok := by
  have size := (sameLayout_sealHeader env (headerSize h) h).size
  have crc : crcOfHeader env (headerSize h) (sealHeader env (headerSize h) h) =
      headerCrc (sealHeader env (headerSize h) h) := by
    rw [headerCrc_sealHeader env _ large, sealHeader_eq, crcOfHeader_put4Bytes]
  rw [headerState, size, if_neg (not_not.mpr crc), take_sealHeader]

theorem sealHeader_of_ne_badCrc {env : Env} {h : Bytes} (large : 92 ≤ h.length)
    (right : headerState env h ≠ .badCrc) : sealHeader env (headerSize h) h = h := by
  rw [sealHeader_eq, headerState_ne_badCrc.mp right]
  exact put4Bytes_get4Bytes (by simp only [headerCrcOffset]; omega)

def stateBytes : GptState → Bytes
  | .ok => gptSignature
  | _ => [0]

/-- The header that `gpt_set_state` writes. -/
def withState (env : Env) (state : GptState) (h : Bytes) : Bytes :=
  sealHeader env (headerSize (splice h 0 (stateBytes state))) (splice h 0 (stateBytes state))

/-- The header that `gpt2_set_boot_chain` writes for a given entry array. -/
def withArray (env : Env) (arr h : Bytes) : Bytes :=
  sealHeader env (headerSize h) (put4Bytes h partitionCrcOffset (env.crc32 arr).toNat)

theorem length_stateBytes (state : GptState) : (stateBytes state).length ≤ 9 := by
  cases state <;> decide

@[simp] theorem length_withState (env : Env) (state : GptState) (h : Bytes) :
    (withState env state h).length = h.length := by
  rw [withState, length_sealHeader, length_splice]

@[simp] theorem length_withArray (env : Env) (arr h : Bytes) :
    (withArray env arr h).length = h.length := by
  rw [withArray, length_sealHeader, length_put4Bytes]

theorem sameLayout_withState (env : Env) (state : GptState) (h : Bytes) :
    SameLayout (withState env state h) h :=
  (sameLayout_sealHeader env _ _).trans (sameLayout_signature (length_stateBytes state))

theorem sameLayout_withArray (env : Env) (arr h : Bytes) : SameLayout (withArray env arr h) h :=
  (sameLayout_sealHeader env _ _).trans (sameLayout_partitionCrc h _)

theorem headerState_withState_ok (env : Env) {h : Bytes} (large : 92 ≤ h.length) :
    headerState env (withState env .ok h) = .ok := by
  have same : slice (splice h 0 gptSignature) 0 gptSignature.length = gptSignature :=
    slice_splice_same (by rw [length_gptSignature]; omega)
  have signature : (splice h 0 (stateBytes .ok)).take gptSignature.length = gptSignature := by
    simpa only [stateBytes, slice, List.drop_zero] using same
  rw [withState, headerState_sealHeader env (by simpa using large), if_neg (not_not.mpr signature)]

theorem headerState_withState_bad (env : Env) {h : Bytes} (large : 92 ≤ h.length) :
    headerState env (withState env .badSignature h) = .badSignature := by
  have first : (splice h 0 (stateBytes .badSignature))[0]? = some 0 := by
    rw [getElem?_splice, if_pos (by simp only [stateBytes, List.length_singleton]; omega)]
    rfl
  have signature : (splice h 0 (stateBytes .badSignature)).take gptSignature.length ≠ gptSignature := by
    intro equal
    have zeroth := congrArg (fun l => l[0]?) equal
    rw [length_gptSignature] at zeroth
    simp only [List.getElem?_take, Nat.zero_lt_succ, if_true, first] at zeroth
    exact absurd zeroth (by decide)
  rw [withState, headerState_sealHeader env (by simpa using large), if_pos signature]

theorem headerState_withState (env : Env) {h : Bytes} (large : 92 ≤ h.length) {state : GptState}
    (settable : state ≠ .badCrc) : headerState env (withState env state h) = state := by
  cases state with
  | ok => exact headerState_withState_ok env large
  | badSignature => exact headerState_withState_bad env large
  | badCrc => exact (settable rfl).elim

theorem partitionCrc_withState (env : Env) (state : GptState) (h : Bytes) :
    partitionCrc (withState env state h) = partitionCrc h := by
  have small := length_stateBytes state
  rw [withState, partitionCrc, get4Bytes_sealHeader env _ _ (by decide), partitionCrc]
  exact get4Bytes_splice_apart (by simp only [partitionCrcOffset]; omega)

theorem partitionCrc_withArray (env : Env) (arr : Bytes) {h : Bytes} (large : 92 ≤ h.length) :
    partitionCrc (withArray env arr h) = (env.crc32 arr).toNat := by
  rw [withArray, partitionCrc, get4Bytes_sealHeader env _ _ (by decide)]
  exact get4Bytes_put4Bytes (by simpa only [partitionCrcOffset] using large) (UInt32.toNat_lt _)

/-- Storing an array's CRC keeps the state of a header whose own CRC is right. -/
theorem headerState_withArray {env : Env} (arr : Bytes) {h : Bytes} (large : 92 ≤ h.length)
    (right : headerState env h ≠ .badCrc) :
    headerState env (withArray env arr h) = headerState env h := by
  have size : headerSize h = headerSize (put4Bytes h partitionCrcOffset (env.crc32 arr).toNat) :=
    (sameLayout_partitionCrc h _).size.symm
  rw [withArray, size, headerState_sealHeader env (by simpa using large), put4Bytes,
    take_splice_apart (by rw [length_gptSignature]; decide), headerState,
    if_neg (not_not.mpr (headerState_ne_badCrc.mp right))]

theorem splice_sealHeader (env : Env) (size : Nat) (state : GptState) (h : Bytes) :
    splice (sealHeader env size h) 0 (stateBytes state) =
      put4Bytes (splice h 0 (stateBytes state)) headerCrcOffset (crcOfHeader env size h) := by
  have small := length_stateBytes state
  rw [sealHeader_eq, put4Bytes, put4Bytes]
  exact splice_comm (apart_of_le (by simp only [headerCrcOffset]; omega)).symm

theorem withState_sealHeader (env : Env) (size : Nat) (state : GptState) (h : Bytes) :
    withState env state (sealHeader env size h) = withState env state h := by
  have layout : headerSize (put4Bytes (splice h 0 (stateBytes state)) headerCrcOffset
      (crcOfHeader env size h)) = headerSize (splice h 0 (stateBytes state)) :=
    get4Bytes_put4Bytes_apart (by decide)
  rw [withState, splice_sealHeader, layout, sealHeader_put4Bytes, withState]

/-- Breaking a signature and restoring it gives back a header that was right before. -/
theorem withState_ok_withState_bad {env : Env} {h : Bytes} (large : 92 ≤ h.length)
    (right : headerState env h = .ok) :
    withState env .ok (withState env .badSignature h) = h := by
  have signature := (headerState_ok.mp right).2
  have restored : splice (splice h 0 (stateBytes .badSignature)) 0 (stateBytes .ok) = h := by
    have whole : stateBytes .ok = slice h 0 gptSignature.length := by
      rw [slice, List.drop_zero, signature, stateBytes]
    rw [splice_splice_same (by decide), whole, splice_slice]
  rw [withState.eq_def env .badSignature h, withState_sealHeader, withState, restored]
  exact sealHeader_of_ne_badCrc large (by rw [right]; decide)

theorem withArray_sealHeader (env : Env) (size : Nat) (arr h : Bytes) :
    withArray env arr (sealHeader env size h) = withArray env arr h := by
  have layout := (sameLayout_sealHeader env size h).size
  rw [withArray, layout, sealHeader_eq env size h, put4Bytes_comm (by decide), sealHeader_put4Bytes,
    withArray]

theorem withArray_withArray (env : Env) (arr arr' h : Bytes) :
    withArray env arr (withArray env arr' h) = withArray env arr h := by
  have layout := (sameLayout_partitionCrc h (env.crc32 arr').toNat).size
  rw [withArray.eq_def env arr' h, withArray_sealHeader, withArray, layout, put4Bytes_put4Bytes, withArray]

theorem withArray_withState (env : Env) (state : GptState) (arr h : Bytes) :
    withArray env arr (withState env state h) = withState env state (withArray env arr h) := by
  have small := length_stateBytes state
  have swap : put4Bytes (splice h 0 (stateBytes state)) partitionCrcOffset (env.crc32 arr).toNat =
      splice (put4Bytes h partitionCrcOffset (env.crc32 arr).toNat) 0 (stateBytes state) :=
    splice_comm (apart_of_le (by simp only [partitionCrcOffset]; omega))
  have size : headerSize (splice h 0 (stateBytes state)) =
      headerSize (splice (put4Bytes h partitionCrcOffset (env.crc32 arr).toNat) 0 (stateBytes state)) := by
    rw [← swap]
    exact (sameLayout_partitionCrc _ _).size.symm
  rw [withState.eq_def env state h, withArray_sealHeader, withArray, swap, size,
    withArray.eq_def env arr h, withState_sealHeader, withState]

/-- Storing the CRC that is stored already changes nothing in a right header. -/
theorem withArray_of_match {env : Env} {arr h : Bytes} (large : 92 ≤ h.length)
    (right : headerState env h ≠ .badCrc) (crc : partitionCrc h = (env.crc32 arr).toNat) :
    withArray env arr h = h := by
  rw [withArray, ← crc, partitionCrc,
    put4Bytes_get4Bytes (by simpa only [partitionCrcOffset] using large)]
  exact sealHeader_of_ne_badCrc large right

end Pdx215.Gpt
