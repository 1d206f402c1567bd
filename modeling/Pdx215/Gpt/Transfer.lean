import Pdx215.Gpt.Commit

/-! What is on the device when an operation on the tables reports success, whatever the kernel has
answered: `blk_rw` takes every transfer that is not an error for a complete one. -/
namespace Pdx215.Gpt
open Region Effect

/-- How many of `len` bytes the kernel is ready to transfer. -/
def Outcome.count : Outcome → Nat → Nat
  | .short count, len => min count len
  | _, len => len

structure Transfer where
  outcome : Outcome
  off : Nat
  buf : Bytes

namespace Transfer

/-- The bytes that are transferred; none lies behind the end of the device. -/
def done (t : Transfer) (d : Bytes) : Nat := min (t.outcome.count t.buf.length) (d.length - t.off)

def received (t : Transfer) (d : Bytes) : Bytes :=
  slice d t.off (t.outcome.count t.buf.length) ++ t.buf.drop (slice d t.off (t.outcome.count t.buf.length)).length

def written (t : Transfer) (d : Bytes) : Bytes := splice d t.off (t.buf.take (t.outcome.count t.buf.length))

def writeAll (ts : List Transfer) (d : Bytes) : Bytes := ts.foldl (fun d t => t.written d) d

def OnDevice (t : Transfer) (d : Bytes) : Prop := slice d t.off t.buf.length = t.buf

/-- Buffers agree where their regions overlap, and a byte that no transfer reaches was the same in
its buffer and on the device before. -/
structure Arrive (ts : List Transfer) (d : Bytes) : Prop where
  agree : ∀ s ∈ ts, ∀ t ∈ ts, ∀ i, Inside i s.off s.buf.length → Inside i t.off t.buf.length →
    s.buf[i - s.off]? = t.buf[i - t.off]?
  rest : ∀ t ∈ ts, ∀ i, Inside i t.off t.buf.length → (∀ s ∈ ts, ¬ Inside i s.off (s.done d)) →
    d[i]? = t.buf[i - t.off]?

theorem count_le (o : Outcome) (len : Nat) : o.count len ≤ len := by
  cases o with
  | short count => exact Nat.min_le_right count len
  | ok => exact Nat.le_refl len
  | error left => exact Nat.le_refl len

theorem done_le (t : Transfer) (d : Bytes) : t.done d ≤ t.buf.length :=
  Nat.le_trans (Nat.min_le_left _ _) (count_le t.outcome t.buf.length)

theorem onDevice_iff {t : Transfer} {d : Bytes} :
    t.OnDevice d ↔ ∀ i, Inside i t.off t.buf.length → d[i]? = t.buf[i - t.off]? := by
  constructor
  · rintro whole i ⟨lower, upper⟩
    have same := congrArg (·[i - t.off]?) whole
    simp only [getElem?_slice] at same
    rwa [if_pos (by omega), Nat.add_sub_cancel' lower] at same
  · intro bytes
    apply List.ext_getElem?
    intro i
    rw [getElem?_slice]
    by_cases within : i < t.buf.length
    · rw [if_pos within, bytes (t.off + i) ⟨by omega, by omega⟩, Nat.add_sub_cancel_left]
    · rw [if_neg within, List.getElem?_eq_none (Nat.le_of_not_lt within)]

theorem length_written (t : Transfer) (d : Bytes) : (t.written d).length = d.length := length_splice ..

theorem length_writeAll (ts : List Transfer) (d : Bytes) : (writeAll ts d).length = d.length := by
  induction ts generalizing d with
  | nil => rfl
  | cons t ts ih => exact (ih (t.written d)).trans (length_written t d)

theorem getElem?_written (t : Transfer) (d : Bytes) (i : Nat) :
    (t.written d)[i]? = if t.off ≤ i ∧ i < t.off + t.done d then t.buf[i - t.off]? else d[i]? := by
  have le := count_le t.outcome t.buf.length
  rw [written, getElem?_splice, List.length_take, Nat.min_eq_left le, done]
  by_cases reached : t.off ≤ i ∧ i < t.off + min (t.outcome.count t.buf.length) (d.length - t.off)
  · rw [if_pos reached, if_pos (by omega), List.getElem?_take, if_pos (by omega)]
  · rw [if_neg reached, if_neg (by omega)]

theorem getElem?_received (t : Transfer) (d : Bytes) (i : Nat) :
    (t.received d)[i]? = if i < t.done d then d[t.off + i]? else t.buf[i]? := by
  have got : (slice d t.off (t.outcome.count t.buf.length)).length = t.done d := by
    rw [slice, List.length_take, List.length_drop, done]
  have le : t.done d ≤ t.outcome.count t.buf.length := Nat.min_le_left _ _
  rw [received]
  by_cases reached : i < t.done d
  · rw [if_pos reached, List.getElem?_append_left (by omega), getElem?_slice, if_pos (by omega)]
  · rw [if_neg reached, List.getElem?_append_right (by omega), List.getElem?_drop, got,
      Nat.add_sub_cancel' (Nat.le_of_not_lt reached)]

theorem length_received (t : Transfer) (d : Bytes) : (t.received d).length = t.buf.length := by
  have got : (slice d t.off (t.outcome.count t.buf.length)).length ≤ t.outcome.count t.buf.length := by
    rw [slice, List.length_take]
    exact Nat.min_le_left _ _
  have le := count_le t.outcome t.buf.length
  rw [received, List.length_append, List.length_drop]
  omega

/-- A read gives what is on the device exactly if everything arrives. -/
theorem received_eq_iff (t : Transfer) (d : Bytes) :
    t.received d = slice d t.off t.buf.length ↔ Arrive [t] d := by
  have le := done_le t d
  constructor
  · intro same
    refine ⟨?_, ?_⟩
    · intro s here s' here' i _ _
      rw [List.mem_singleton.mp here, List.mem_singleton.mp here']
    · intro s here i inside unreached
      have missed := unreached t List.mem_cons_self
      rw [List.mem_singleton.mp here] at inside ⊢
      obtain ⟨lower, upper⟩ := inside
      have byte := congrArg (·[i - t.off]?) same
      simp only [getElem?_received, getElem?_slice] at byte
      rw [if_neg (fun before => missed ⟨lower, by omega⟩), if_pos (by omega), Nat.add_sub_cancel' lower] at byte
      exact byte.symm
  · intro all
    apply List.ext_getElem?
    intro i
    rw [getElem?_received, getElem?_slice]
    by_cases reached : i < t.done d
    · rw [if_pos reached, if_pos (by omega)]
    · rw [if_neg reached]
      by_cases within : i < t.buf.length
      · have byte := all.rest t List.mem_cons_self (t.off + i) ⟨by omega, by omega⟩ (fun s here => by
          rw [List.mem_singleton.mp here]
          rintro ⟨_, upper⟩
          omega)
        rw [if_pos within, byte, Nat.add_sub_cancel_left]
      · rw [if_neg within, List.getElem?_eq_none (Nat.le_of_not_lt within)]

/-- A byte of the device is what the last transfer that reaches it carried. -/
theorem getElem?_writeAll (ts : List Transfer) (d : Bytes) (i : Nat) :
    (∃ s ∈ ts, Inside i s.off (s.done d) ∧ (writeAll ts d)[i]? = s.buf[i - s.off]?) ∨
      ((∀ s ∈ ts, ¬ Inside i s.off (s.done d)) ∧ (writeAll ts d)[i]? = d[i]?) := by
  induction ts generalizing d with
  | nil => exact .inr ⟨fun _ none => absurd none List.not_mem_nil, rfl⟩
  | cons t ts ih =>
    have same (s : Transfer) : s.done (t.written d) = s.done d := by rw [done, done, length_written]
    rcases ih (t.written d) with ⟨s, later, reached, byte⟩ | ⟨unreached, byte⟩
    · rw [same] at reached
      exact .inl ⟨s, List.mem_cons_of_mem t later, reached, byte⟩
    · rw [getElem?_written] at byte
      by_cases first : t.off ≤ i ∧ i < t.off + t.done d
      · rw [if_pos first] at byte
        exact .inl ⟨t, List.mem_cons_self, first, byte⟩
      · rw [if_neg first] at byte
        refine .inr ⟨?_, byte⟩
        intro s here
        rcases List.mem_cons.mp here with rfl | later
        · exact first
        · rw [← same]
          exact unreached s later

/-- All buffers are on the device after the writes exactly if everything arrives. -/
theorem writeAll_onDevice_iff (ts : List Transfer) (d : Bytes) :
    (∀ t ∈ ts, t.OnDevice (writeAll ts d)) ↔ Arrive ts d := by
  constructor
  · intro all
    refine ⟨?_, ?_⟩
    · intro s here t there i inside inside'
      rw [← onDevice_iff.mp (all s here) i inside, onDevice_iff.mp (all t there) i inside']
    · intro t here i inside unreached
      rcases getElem?_writeAll ts d i with ⟨s, there, reached, _⟩ | ⟨_, byte⟩
      · exact (unreached s there reached).elim
      · rw [← byte, onDevice_iff.mp (all t here) i inside]
  · intro arrive t here
    refine onDevice_iff.mpr (fun i inside => ?_)
    rcases getElem?_writeAll ts d i with ⟨s, there, ⟨lower, upper⟩, byte⟩ | ⟨unreached, byte⟩
    · have le := done_le s d
      rw [byte, arrive.agree s there t here i ⟨lower, by omega⟩ inside]
    · rw [byte, arrive.rest t here i inside unreached]

end Transfer

def Answers (io : Nat → Outcome) (n : Nat) (o : Outcome) : Prop := o = io n

section Rules

variable {α : Type} {env : Env} {io : Nat → Outcome} {n : Nat} {w : World}

theorem wp_look {op : Op} {f : Rep op → Io α} {post : α → Nat → World → Prop} (keeps : ∀ o, (react env op o w).2 = w)
    (later : ∀ r, r = (react env op (io n) w).1 → wp (react env) (Answers io) (fun _ => True) (f r) post (n + 1) w) :
    wp (react env) (Answers io) (fun _ => True) (Prog.request op >>= f) post n w := by
  refine wp_request trivial ?_
  rintro o rfl
  rw [keeps]
  exact later _ rfl

theorem wp_blkWrite_met {off : Nat} {buf : Bytes} {post : Int → Nat → World → Prop} (fails : ∀ m v, post (-1) m v)
    (goes : ∀ v, v.disk = Transfer.written ⟨io (n + 1), off, buf⟩ w.disk → post 0 (n + 2) v) :
    wp (react env) (Answers io) (fun _ => True) (blkWrite off buf) post n w := by
  refine wp_look (fun _ => rfl) ?_
  rintro (_ | _) _
  · exact wp_ret trivial (fails _ _)
  refine wp_request trivial ?_
  rintro o rfl
  cases met : io (n + 1) with
  | ok =>
    rw [met] at goes
    simp only [react]
    split
    · refine wp_ret trivial (goes _ ?_)
      simp only [World.put, Transfer.written, Outcome.count, List.take_length]
    · exact wp_ret trivial (fails _ _)
  | short count =>
    rw [met] at goes
    simp only [react]
    split
    · refine wp_ret trivial (goes _ ?_)
      simp only [World.put, Transfer.written, Outcome.count, ← List.take_eq_take_min]
    · exact wp_ret trivial (fails _ _)
  | error left =>
    cases left with
    | none => exact wp_ret trivial (fails _ _)
    | some left => exact wp_ret trivial (fails _ _)

theorem wp_blkRead_met {off : Nat} {buf : Bytes} {post : Option Bytes → Nat → World → Prop} (fails : ∀ m, post none m w)
    (goes : post (some (Transfer.received ⟨io (n + 1), off, buf⟩ w.disk)) (n + 2) w) :
    wp (react env) (Answers io) (fun _ => True) (blkRead off buf) post n w := by
  refine wp_look (fun _ => rfl) ?_
  rintro (_ | _) _
  · exact wp_ret trivial (fails _)
  refine wp_request trivial ?_
  rintro o rfl
  cases met : io (n + 1) with
  | ok =>
    rw [met] at goes
    exact wp_ret trivial goes
  | short count =>
    rw [met] at goes
    exact wp_ret trivial goes
  | error left => exact wp_ret trivial (fails _)

theorem wp_blkSszGet_met {f : Option Nat → Io α} {post : α → Nat → World → Prop}
    (fails : wp (react env) (Answers io) (fun _ => True) (f none) post (n + 1) w)
    (goes : wp (react env) (Answers io) (fun _ => True) (f (some env.blkSize)) post (n + 1) w) :
    wp (react env) (Answers io) (fun _ => True) (Sys.blkSszGet >>= f) post n w := by
  refine wp_look (fun _ => rfl) ?_
  rintro r rfl
  simp only [react]
  cases (io n).failed with
  | true => exact fails
  | false => exact goes

theorem wp_headerOffset_met {gpt : GptInstance} {post : Option Nat → Nat → World → Prop} (fails : ∀ m, post none m w)
    (goes : post (some (headerOff env w.disk gpt)) (n + seekCalls gpt) w) :
    wp (react env) (Answers io) (fun _ => True) (headerOffset gpt env.blkSize) post n w := by
  cases gpt with
  | primary => exact wp_ret trivial goes
  | secondary =>
    refine wp_look (fun _ => rfl) ?_
    rintro r rfl
    simp only [react]
    cases (io n).failed with
    | true => exact wp_ret trivial (fails _)
    | false => exact wp_ite (fun _ => wp_ret trivial (fails _)) (fun _ => wp_ret trivial goes)

theorem wp_gptSetHeader_met {hdr : Bytes} {gpt : GptInstance} {post : Int → Nat → World → Prop}
    (fails : ∀ m v, post (-1) m v)
    (goes : ∀ v, v.disk = Transfer.written
      ⟨io (n + 1 + seekCalls gpt + 1), headerOff env w.disk gpt, peek env hdr 0 env.blkSize⟩ w.disk →
        post 0 (n + 1 + seekCalls gpt + 2) v) :
    wp (react env) (Answers io) (fun _ => True) (gptSetHeader env hdr gpt) post n w := by
  refine wp_blkSszGet_met (wp_ret trivial (fails _ _)) ?_
  refine wp_bind (wp_headerOffset_met (fun _ => wp_ret trivial (fails _ _)) ?_)
  refine wp_ite (fun _ => wp_ret trivial (fails _ _)) (fun _ => ?_)
  exact wp_bind (wp_blkWrite_met (fun _ _ => wp_ret trivial (fails _ _)) (fun v put => wp_ret trivial (goes v put)))

theorem wp_gptSetPentryArr_met {hdr arr : Bytes} {post : Int → Nat → World → Prop} (fails : ∀ m v, post (-1) m v)
    (goes : ∀ v, v.disk = Transfer.written
      ⟨io (n + 2), pentriesStart env.blkSize hdr, peek env arr 0 (pentriesArraySize hdr)⟩ w.disk → post 0 (n + 3) v) :
    wp (react env) (Answers io) (fun _ => True) (gptSetPentryArr env hdr arr) post n w := by
  refine wp_blkSszGet_met (wp_ret trivial (fails _ _)) ?_
  exact wp_bind (wp_blkWrite_met (fun _ _ => wp_ret trivial (fails _ _)) (fun v put => wp_ret trivial (goes v put)))

theorem wp_malloc_met {size : Nat} {post : Option Bytes → Nat → World → Prop} (fails : ∀ m, post none m w)
    (goes : post (some ((List.range size).map env.heap)) (n + 1) w) :
    wp (react env) (Answers io) (fun _ => True) (malloc env size) post n w := by
  refine wp_look (fun _ => rfl) ?_
  rintro (_ | _) _
  · exact wp_ret trivial (fails _)
  · exact wp_ret trivial goes

theorem wp_calloc_met {size : Nat} {post : Option Bytes → Nat → World → Prop} (fails : ∀ m, post none m w)
    (goes : post (some (List.replicate size 0)) (n + 1) w) :
    wp (react env) (Answers io) (fun _ => True) (calloc size) post n w := by
  refine wp_look (fun _ => rfl) ?_
  rintro (_ | _) _
  · exact wp_ret trivial (fails _)
  · exact wp_ret trivial goes

end Rules

def commitWrites (env : Env) (io : Nat → Outcome) (disk : GptDisk) (d : Bytes) : List Transfer :=
  [⟨io 3, headerOff env d .primary, peek env disk.hdr 0 env.blkSize⟩,
    ⟨io 6, pentriesStart env.blkSize disk.hdr, peek env disk.pentryArr 0 (pentriesArraySize disk.hdr)⟩,
    ⟨io 10, headerOff env d .secondary, peek env disk.hdrBak 0 env.blkSize⟩,
    ⟨io 13, pentriesStart env.blkSize disk.hdrBak, peek env disk.pentryArrBak 0 (pentriesArraySize disk.hdrBak)⟩]

theorem gptDiskCommit_disk (env : Env) (io : Nat → Outcome) (disk : GptDisk) (w : World)
    (success : (exec (react env) io (gptDiskCommit env disk) 0 w).1 = 0) :
    (exec (react env) io (gptDiskCommit env disk) 0 w).2.disk =
      Transfer.writeAll (commitWrites env io disk w.disk) w.disk := by
  let post : Int → Nat → World → Prop := fun r _ v =>
    r = 0 → v.disk = Transfer.writeAll (commitWrites env io disk w.disk) w.disk
  have ends : ∀ m v, wp (react env) (Answers io) (fun _ => True) (.ret (-1)) post m v :=
    fun _ _ => wp_ret trivial (fun zero => absurd zero (show (-1 : Int) ≠ 0 by decide))
  have commit : wp (react env) (Answers io) (fun _ => True) (gptDiskCommit env disk) post 0 w := by
    refine wp_ite (fun _ => ends _ _) (fun _ => ?_)
    refine wp_look (fun _ => rfl) ?_
    rintro (_ | _) _
    · exact ends _ _
    refine wp_bind (wp_gptSetHeader_met ends (fun v₁ put₁ => ?_))
    refine wp_bind (wp_gptSetPentryArr_met ends (fun v₂ put₂ => ?_))
    refine wp_bind (wp_gptSetHeader_met ends (fun v₃ put₃ => ?_))
    refine wp_bind (wp_gptSetPentryArr_met ends (fun v₄ put₄ => ?_))
    refine wp_look (fun _ => rfl) (fun _ _ => wp_ret trivial (fun _ => ?_))
    have off : headerOff env v₂.disk .secondary = headerOff env w.disk .secondary := by
      rw [headerOff, headerOff, put₂, put₁, Transfer.length_written, Transfer.length_written]
    rw [put₄, put₃, off, put₂, put₁]
    rfl
  obtain ⟨_, done⟩ := exec_post commit (fun _ => rfl)
  exact done success

section Chain

variable (env : Env) (io : Nat → Outcome) (d : Bytes)

/-- The three reads of `gpt2_set_boot_chain`; the secondary header is read over the primary one. -/
def headerRead : Transfer := ⟨io 4, headerOff env d .primary, (List.range env.blkSize).map env.heap⟩

def entriesRead : Transfer :=
  ⟨io 7, pentriesStart env.blkSize ((headerRead env io d).received d),
    List.replicate (pentriesArraySize ((headerRead env io d).received d)) 0⟩

def headerBakRead : Transfer := ⟨io 9, headerOff env d .secondary, (headerRead env io d).received d⟩

def chainWrites (boot : BootChain) : List Transfer :=
  let h2 := (headerBakRead env io d).received d
  let pentries := (chainSwap env boot ((entriesRead env io d).received d)
    (pentrySize ((headerRead env io d).received d))).1
  [⟨io 11, headerOff env d .secondary, withArray env pentries h2⟩, ⟨io 13, pentriesStart env.blkSize h2, pentries⟩]

end Chain

theorem gpt2SetBootChain_disk (env : Env) (io : Nat → Outcome) (boot : BootChain) (w : World)
    (success : (exec (react env) io (gpt2SetBootChain env boot) 0 w).1 = 0) :
    (exec (react env) io (gpt2SetBootChain env boot) 0 w).2.disk =
      Transfer.writeAll (chainWrites env io w.disk boot) w.disk := by
  let post : Int → Nat → World → Prop := fun r _ v =>
    r = 0 → v.disk = Transfer.writeAll (chainWrites env io w.disk boot) w.disk
  have ends : ∀ m v, wp (react env) (Answers io) (fun _ => True) (.ret (-1)) post m v :=
    fun _ _ => wp_ret trivial (fun zero => absurd zero (show (-1 : Int) ≠ 0 by decide))
  have switch : wp (react env) (Answers io) (fun _ => True) (gpt2SetBootChain env boot) post 0 w := by
    refine wp_blkSszGet_met (ends _ _) ?_
    refine wp_bind (wp_malloc_met (fun _ => ends _ _) ?_)
    refine wp_bind (wp_headerOffset_met (fun _ => ends _ _) ?_)
    refine wp_bind (wp_blkRead_met (fun _ => ends _ _) ?_)
    refine wp_bind (wp_calloc_met (fun _ => ends _ _) ?_)
    refine wp_bind (wp_blkRead_met (fun _ => ends _ _) ?_)
    refine wp_ite (fun _ => ends _ _) (fun _ => ?_)
    refine wp_bind (wp_blkRead_met (fun _ => ends _ _) ?_)
    refine wp_ite (fun none => wp_ret trivial (fun zero => (none zero).elim)) (fun _ => ?_)
    refine wp_bind (wp_blkWrite_met (fun _ _ => ends _ _) (fun v₁ put₁ => ?_))
    refine wp_blkWrite_met (fun _ _ zero => absurd zero (show (-1 : Int) ≠ 0 by decide)) (fun v₂ put₂ _ => ?_)
    rw [put₂, put₁]
    rfl
  obtain ⟨_, done⟩ := exec_post switch (fun _ => rfl)
  exact done success

/-- The buffers of `gpt2_set_boot_chain` are what is on the device exactly if its reads arrive. -/
theorem chainReads_iff (env : Env) (io : Nat → Outcome) (d : Bytes) :
    ((headerRead env io d).received d = header env d .primary ∧
      (entriesRead env io d).received d = entries env d .primary ∧
      (headerBakRead env io d).received d = header env d .secondary) ↔
    Transfer.Arrive [headerRead env io d] d ∧ Transfer.Arrive [entriesRead env io d] d ∧
      Transfer.Arrive [headerBakRead env io d] d := by
  have first := (headerRead env io d).received_eq_iff d
  have second := (entriesRead env io d).received_eq_iff d
  have third := (headerBakRead env io d).received_eq_iff d
  have length : ((headerRead env io d).received d).length = env.blkSize := by
    rw [Transfer.length_received]
    exact length_heap env _
  rw [show (headerRead env io d).buf.length = env.blkSize from length_heap env _] at first
  rw [show (headerBakRead env io d).buf.length = env.blkSize from length] at third
  refine Iff.trans (and_congr_right (fun read => and_congr ?_ third)) (and_congr_left' first)
  have region : slice d (entriesRead env io d).off (entriesRead env io d).buf.length = entries env d .primary := by
    rw [entriesRead, read, List.length_replicate]
    rfl
  rw [← region]
  exact second

theorem length_peek (env : Env) (buf : Bytes) (off len : Nat) : (peek env buf off len).length = len := by
  rw [peek, List.length_map, List.length_range]

theorem headerOff_congr (env : Env) {d d' : Bytes} (length : d'.length = d.length) (gpt : GptInstance) :
    headerOff env d' gpt = headerOff env d gpt := by
  cases gpt <;> simp only [headerOff, length]

theorem commitWrites_onDevice_iff (env : Env) (io : Nat → Outcome) (disk : GptDisk) {d d' : Bytes}
    (length : d'.length = d.length) :
    (∀ t ∈ commitWrites env io disk d, t.OnDevice d') ↔
      header env d' .primary = peek env disk.hdr 0 env.blkSize ∧
      slice d' (pentriesStart env.blkSize disk.hdr) (pentriesArraySize disk.hdr) =
        peek env disk.pentryArr 0 (pentriesArraySize disk.hdr) ∧
      header env d' .secondary = peek env disk.hdrBak 0 env.blkSize ∧
      slice d' (pentriesStart env.blkSize disk.hdrBak) (pentriesArraySize disk.hdrBak) =
        peek env disk.pentryArrBak 0 (pentriesArraySize disk.hdrBak) := by
  simp only [commitWrites, List.forall_mem_cons, Transfer.OnDevice, length_peek, header, headerOff_congr env length,
    List.not_mem_nil, false_imp_iff, implies_true, and_true]

theorem chainWrites_onDevice_iff (env : Env) (io : Nat → Outcome) (boot : BootChain) {d d' : Bytes}
    (length : d'.length = d.length) (hdr : (headerRead env io d).received d = header env d .primary)
    (arr : (entriesRead env io d).received d = entries env d .primary)
    (hdrBak : (headerBakRead env io d).received d = header env d .secondary) :
    (∀ t ∈ chainWrites env io d boot, t.OnDevice d') ↔
      header env d' .secondary = withArray env
        (chainSwap env boot (entries env d .primary) (pentrySize (header env d .primary))).1 (header env d .secondary) ∧
      slice d' (entriesStart env d .secondary)
        (chainSwap env boot (entries env d .primary) (pentrySize (header env d .primary))).1.length =
        (chainSwap env boot (entries env d .primary) (pentrySize (header env d .primary))).1 := by
  have sized : (header env d .secondary).length = env.blkSize := by
    rw [← hdrBak, Transfer.length_received]
    rw [show (headerBakRead env io d).buf = (headerRead env io d).received d from rfl, Transfer.length_received]
    exact length_heap env _
  simp only [chainWrites, List.forall_mem_cons, Transfer.OnDevice, hdr, arr, hdrBak, length_withArray, sized,
    List.not_mem_nil, false_imp_iff, implies_true, and_true, entriesStart]
  rw [header.eq_def env d' .secondary, headerOff_congr env length]

/-- Success stands for complete transfers exactly if nothing that a short transfer leaves out makes a
difference. The device is taken as it was before the call. -/
theorem success_means_transferred_iff (env : Env) (io : Nat → Outcome) (w : World) :
    (∀ disk : GptDisk, (exec (react env) io (gptDiskCommit env disk) 0 w).1 = 0 →
      let d := (exec (react env) io (gptDiskCommit env disk) 0 w).2.disk
      ((header env d .primary = peek env disk.hdr 0 env.blkSize ∧
          slice d (pentriesStart env.blkSize disk.hdr) (pentriesArraySize disk.hdr) =
            peek env disk.pentryArr 0 (pentriesArraySize disk.hdr) ∧
          header env d .secondary = peek env disk.hdrBak 0 env.blkSize ∧
          slice d (pentriesStart env.blkSize disk.hdrBak) (pentriesArraySize disk.hdrBak) =
            peek env disk.pentryArrBak 0 (pentriesArraySize disk.hdrBak)) ↔
        Transfer.Arrive (commitWrites env io disk w.disk) w.disk)) ∧
    (∀ boot : BootChain, (exec (react env) io (gpt2SetBootChain env boot) 0 w).1 = 0 →
      let d := (exec (react env) io (gpt2SetBootChain env boot) 0 w).2.disk
      let pentries := (chainSwap env boot (entries env w.disk .primary) (pentrySize (header env w.disk .primary))).1
      (((headerRead env io w.disk).received w.disk = header env w.disk .primary ∧
          (entriesRead env io w.disk).received w.disk = entries env w.disk .primary ∧
          (headerBakRead env io w.disk).received w.disk = header env w.disk .secondary) ∧
          header env d .secondary = withArray env pentries (header env w.disk .secondary) ∧
          slice d (entriesStart env w.disk .secondary) pentries.length = pentries ↔
        (Transfer.Arrive [headerRead env io w.disk] w.disk ∧ Transfer.Arrive [entriesRead env io w.disk] w.disk ∧
          Transfer.Arrive [headerBakRead env io w.disk] w.disk) ∧
          Transfer.Arrive (chainWrites env io w.disk boot) w.disk)) := by
  constructor
  · intro disk success
    have after := gptDiskCommit_disk env io disk w success
    have length := Transfer.length_writeAll (commitWrites env io disk w.disk) w.disk
    have all := Transfer.writeAll_onDevice_iff (commitWrites env io disk w.disk) w.disk
    rw [← after] at length all
    exact (commitWrites_onDevice_iff env io disk length).symm.trans all
  · intro boot success
    have after := gpt2SetBootChain_disk env io boot w success
    have length := Transfer.length_writeAll (chainWrites env io w.disk boot) w.disk
    have all := Transfer.writeAll_onDevice_iff (chainWrites env io w.disk boot) w.disk
    rw [← after] at length all
    refine Iff.trans (and_congr_right (fun read => ?_)) (and_congr_left' (chainReads_iff env io w.disk))
    exact (chainWrites_onDevice_iff env io boot length read.1 read.2.1 read.2.2).symm.trans all

def Sample.committed : GptDisk :=
  (gptDiskUpdateCrc Sample.env (Sample.loaded.edit Sample.edited Sample.edited)).2

def Sample.shortAt (call : Nat) : Nat → Outcome := fun n => if n = call then .short 0 else .ok

/-- The primary array of a commit is not written, the secondary array of a boot chain neither, and
both operations report success. -/
theorem short_write_reports_success :
    (exec (react Sample.env) (Sample.shortAt 6) (gptDiskCommit Sample.env Sample.committed) 0 Sample.world).1 = 0 ∧
    slice (exec (react Sample.env) (Sample.shortAt 6) (gptDiskCommit Sample.env Sample.committed) 0 Sample.world).2.disk
      (pentriesStart Sample.env.blkSize Sample.committed.hdr) (pentriesArraySize Sample.committed.hdr) ≠
      peek Sample.env Sample.committed.pentryArr 0 (pentriesArraySize Sample.committed.hdr) ∧
    (exec (react Sample.env) (Sample.shortAt 13) (gpt2SetBootChain Sample.env .backupBoot) 0 Sample.world).1 = 0 ∧
    slice (exec (react Sample.env) (Sample.shortAt 13) (gpt2SetBootChain Sample.env .backupBoot) 0 Sample.world).2.disk
      (entriesStart Sample.env Sample.world.disk .secondary) 256 ≠
      (chainSwap Sample.env .backupBoot (entries Sample.env Sample.world.disk .primary) 128).1 := by
  decide +kernel

end Pdx215.Gpt
