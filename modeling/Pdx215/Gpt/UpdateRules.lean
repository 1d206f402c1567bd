import Pdx215.Gpt.Tables

/-! One rule for each function of the staged update: what it does to a disk when its system calls
succeed, and that a failing call ends it with the disk as it was. -/
namespace Pdx215.Gpt
open Region Effect

variable {env : Env} {allowed : Nat → Outcome → Prop} {inv : World → Prop} {n : Nat} {w : World}

def NoShort (allowed : Nat → Outcome → Prop) : Prop := ∀ n o, allowed n o → o.Whole

theorem outcome_cases (whole : NoShort allowed) {P : Outcome → Prop} (ok : allowed n .ok → P .ok)
    (error : ∀ left, allowed n (.error left) → P (.error left)) : ∀ o, allowed n o → P o := by
  intro o ho
  cases o with
  | ok => exact ok ho
  | short count => exact (whole n _ ho).elim
  | error left => exact error left ho

/-- What a failed write leaves behind. -/
def World.spoil (w : World) (off len : Nat) : Option Bytes → World
  | none => w
  | some left => { w with disk := splice w.disk off (left.take len) }

/-- A failure of one of the calls from `n` to `n + calls` ends in `post`. -/
def FailsTo {α : Type} (allowed : Nat → Outcome → Prop) (n calls : Nat)
    (post : α → Nat → World → Prop) (a : α) (w : World) : Prop :=
  ∀ m left, n ≤ m → m < n + calls → allowed m (.error left) → post a (m + 1) w

def OkTo (allowed : Nat → Outcome → Prop) (first last : Nat) : Prop :=
  ∀ m, first ≤ m → m < last → allowed m .ok

theorem OkTo.nil (allowed : Nat → Outcome → Prop) (n : Nat) : OkTo allowed n n :=
  fun _ lower upper => absurd upper (Nat.not_lt.mpr lower)

theorem OkTo.append {first middle last : Nat} (before : OkTo allowed first middle)
    (after : OkTo allowed middle last) : OkTo allowed first last := by
  intro m lower upper
  by_cases early : m < middle
  · exact before m lower early
  · exact after m (Nat.le_of_not_lt early) upper

theorem OkTo.one (ok : allowed n .ok) : OkTo allowed n (n + 1) := by
  intro m lower upper
  have here : m = n := by omega
  rw [here]
  exact ok

theorem FailsTo.sub {α : Type} {post : α → Nat → World → Prop} {a : α} {calls k calls' : Nat}
    (h : FailsTo allowed n calls post a w) (inside : k + calls' ≤ calls) :
    FailsTo allowed (n + k) calls' post a w :=
  fun m left lower upper => h m left (by omega) (by omega)

theorem FailsTo.at {α : Type} {post : α → Nat → World → Prop} {a : α} {calls : Nat}
    (h : FailsTo allowed n calls post a w) (k : Nat) (inside : k < calls) (left : Option Bytes)
    (failed : allowed (n + k) (.error left)) : post a (n + k + 1) w :=
  h (n + k) left (by omega) (by omega) failed

/-- A buffer after a read from `off`: what the disk has there, then what it held before. -/
def readInto (d : Bytes) (off : Nat) (buf : Bytes) : Bytes :=
  slice d off buf.length ++ buf.drop (slice d off buf.length).length

theorem readInto_of_fits {d buf : Bytes} {off : Nat} (fits : off + buf.length ≤ d.length) :
    readInto d off buf = slice d off buf.length := by
  rw [readInto, length_slice fits, List.drop_length, List.append_nil]

theorem wp_blkRead (whole : NoShort allowed) {off : Nat} {buf : Bytes}
    {post : Option Bytes → Nat → World → Prop} (now : inv w)
    (fails : FailsTo allowed n 2 post none w) (stray : w.disk.length < off → post none (n + 1) w)
    (reads : OkTo allowed n (n + 2) → off ≤ w.disk.length → post (some (readInto w.disk off buf)) (n + 2) w) :
    wp (react env) allowed inv (blkRead off buf) post n w := by
  refine wp_request now (outcome_cases whole (fun sought => ?_)
    (fun left failed => wp_ret now (fails.at 0 (by decide) left failed)))
  by_cases near : off ≤ w.disk.length
  · simp only [react, Outcome.failed, decide_eq_true near]
    exact wp_request now (outcome_cases whole (fun ok => wp_ret now (reads ((OkTo.one sought).append (.one ok)) near))
      (fun left failed => wp_ret now (fails.at 1 (by decide) left failed)))
  · simp only [react, Outcome.failed, decide_eq_false near]
    exact wp_ret now (stray (by omega))

/-- Where a write of `len` bytes cannot start. -/
def NoSpace (d : Bytes) (off len : Nat) : Prop := d.length < off ∨ (0 < len ∧ d.length ≤ off)

theorem not_noSpace {d : Bytes} {off len : Nat} (fits : off + len ≤ d.length) : ¬ NoSpace d off len := by
  rintro (far | ⟨positive, far⟩) <;> omega

theorem wp_blkWrite (whole : NoShort allowed) {off : Nat} {buf : Bytes}
    {post : Int → Nat → World → Prop} (now : inv w)
    (seekFails : FailsTo allowed n 1 post (-1) w)
    (stray : NoSpace w.disk off buf.length → ∀ m, post (-1) m w)
    (writeFails : ∀ left, allowed (n + 1) (.error left) →
      inv (w.spoil off buf.length left) ∧ post (-1) (n + 2) (w.spoil off buf.length left))
    (writes : OkTo allowed n (n + 2) → ¬ NoSpace w.disk off buf.length →
      inv (w.put off buf) ∧ post 0 (n + 2) (w.put off buf)) :
    wp (react env) allowed inv (blkWrite off buf) post n w := by
  refine wp_request now (outcome_cases whole (fun sought => ?_)
    (fun left failed => wp_ret now (seekFails.at 0 (by decide) left failed)))
  by_cases near : off ≤ w.disk.length
  · simp only [react, Outcome.failed, decide_eq_true near]
    refine wp_request now (outcome_cases whole (fun ok => ?_) ?_)
    · have fine := (OkTo.one sought).append (.one ok)
      by_cases room : buf = [] ∨ off < w.disk.length
      · have space : ¬ NoSpace w.disk off buf.length := by
          rintro (far | ⟨positive, far⟩)
          · omega
          · rcases room with rfl | room
            · cases positive
            · omega
        simp only [react, if_pos room]
        exact wp_ret (writes fine space).1 (writes fine space).2
      · simp only [react, if_neg room]
        refine wp_ret now (stray (.inr ⟨?_, ?_⟩) _)
        · exact List.length_pos_iff.mpr (fun empty => room (.inl empty))
        · exact Nat.le_of_not_lt (fun short => room (.inr short))
    · intro left failed
      have done := writeFails left failed
      cases left with
      | none => exact wp_ret done.1 done.2
      | some left => exact wp_ret done.1 done.2
  · simp only [react, Outcome.failed, decide_eq_false near]
    exact wp_ret now (stray (.inl (by omega)) _)

/-- No transfer is short, and a failed one leaves the disk alone. -/
def AllAtomic (allowed : Nat → Outcome → Prop) : Prop := ∀ n o, allowed n o → o.Atomic

theorem AllAtomic.noShort (atomic : AllAtomic allowed) : NoShort allowed := by
  intro n o ho
  have kind := atomic n o ho
  cases o with
  | ok => trivial
  | short count => exact kind
  | error left => trivial

def Fine (_ : Nat) (o : Outcome) : Prop := o = .ok

theorem fine_atomic : AllAtomic Fine := by
  rintro n o rfl
  trivial

theorem FailsTo.fine {α : Type} {n calls : Nat} {post : α → Nat → World → Prop} {a : α} {w : World} :
    FailsTo Fine n calls post a w := by
  intro m left lower upper failed
  cases failed

theorem wp_blkWrite_atomic (atomic : AllAtomic allowed) {off : Nat} {buf : Bytes}
    {post : Int → Nat → World → Prop} (now : inv w) (fails : FailsTo allowed n 2 post (-1) w)
    (stray : NoSpace w.disk off buf.length → ∀ m, post (-1) m w)
    (writes : OkTo allowed n (n + 2) → ¬ NoSpace w.disk off buf.length →
      inv (w.put off buf) ∧ post 0 (n + 2) (w.put off buf)) :
    wp (react env) allowed inv (blkWrite off buf) post n w := by
  refine wp_blkWrite atomic.noShort now ?_ stray ?_ writes
  · exact fun m left lower upper failed => fails m left lower (by omega) failed
  · intro left failed
    have none : left = none := atomic _ _ failed
    subst none
    exact ⟨now, fails.at 1 (by decide) _ failed⟩

theorem wp_malloc (whole : NoShort allowed) {size : Nat} {post : Option Bytes → Nat → World → Prop}
    (now : inv w) (fails : FailsTo allowed n 1 post none w)
    (gives : OkTo allowed n (n + 1) → post (some ((List.range size).map env.heap)) (n + 1) w) :
    wp (react env) allowed inv (malloc env size) post n w :=
  wp_call now (outcome_cases whole (fun ok => wp_ret now (gives (.one ok)))
    (fun left failed => wp_ret now (fails.at 0 (by decide) left failed)))

theorem wp_calloc (whole : NoShort allowed) {size : Nat} {post : Option Bytes → Nat → World → Prop}
    (now : inv w) (fails : FailsTo allowed n 1 post none w)
    (gives : OkTo allowed n (n + 1) → post (some (List.replicate size 0)) (n + 1) w) :
    wp (react env) allowed inv (calloc size) post n w :=
  wp_call now (outcome_cases whole (fun ok => wp_ret now (gives (.one ok)))
    (fun left failed => wp_ret now (fails.at 0 (by decide) left failed)))

def seekCalls : GptInstance → Nat
  | .primary => 0
  | .secondary => 1

theorem wp_headerOffset (whole : NoShort allowed) {gpt : GptInstance}
    {post : Option Nat → Nat → World → Prop} (now : inv w) (room : env.blkSize ≤ w.disk.length)
    (fails : FailsTo allowed n (seekCalls gpt) post none w)
    (gives : OkTo allowed n (n + seekCalls gpt) → post (some (headerOff env w.disk gpt)) (n + seekCalls gpt) w) :
    wp (react env) allowed inv (headerOffset gpt env.blkSize) post n w := by
  cases gpt with
  | primary => exact wp_ret now (gives (.nil allowed n))
  | secondary =>
    have enough : ¬ w.disk.length < env.blkSize := by omega
    refine wp_request now (outcome_cases whole (fun ok => ?_)
      (fun left failed => wp_ret now (fails.at 0 (by decide) left failed)))
    simp only [react, Outcome.failed, Bool.false_eq_true, if_false, if_neg enough]
    exact wp_ret now (gives (.one ok))

theorem headerOff_fits (env : Env) {d : Bytes} (room : 2 * env.blkSize ≤ d.length) (gpt : GptInstance) :
    headerOff env d gpt + env.blkSize ≤ d.length := by
  cases gpt <;> simp only [headerOff] <;> omega

theorem length_heap (env : Env) (size : Nat) : ((List.range size).map env.heap).length = size := by
  rw [List.length_map, List.length_range]

theorem readInto_header (env : Env) {d buf : Bytes} (room : 2 * env.blkSize ≤ d.length)
    (length : buf.length = env.blkSize) (gpt : GptInstance) :
    readInto d (headerOff env d gpt) buf = header env d gpt := by
  rw [readInto_of_fits (by rw [length]; exact headerOff_fits env room gpt), length, header]

theorem wp_readHeader (whole : NoShort allowed) {gpt : GptInstance}
    {post : Option (Nat × Bytes) → Nat → World → Prop} (now : inv w)
    (room : 2 * env.blkSize ≤ w.disk.length)
    (fails : FailsTo allowed n (4 + seekCalls gpt) post none w)
    (reads : OkTo allowed n (n + (4 + seekCalls gpt)) →
      post (some (headerOff env w.disk gpt, header env w.disk gpt)) (n + (4 + seekCalls gpt)) w) :
    wp (react env) allowed inv (readHeader env gpt) post n w := by
  have fits := headerOff_fits env room gpt
  refine wp_request now (outcome_cases whole (fun ok₁ => ?_)
    (fun left failed => wp_ret now (fails.at 0 (by omega) left failed)))
  simp only [react, Outcome.failed, Bool.false_eq_true, if_false]
  refine wp_bind (wp_malloc whole now ?_ (fun ok₂ => ?_))
  · exact fun m left lower upper failed => wp_ret now (fails m left (by omega) (by omega) failed)
  refine wp_bind (wp_headerOffset whole now (by omega) ?_ (fun ok₃ => ?_))
  · exact fun m left lower upper failed => wp_ret now (fails m left (by omega) (by omega) failed)
  refine wp_bind (wp_blkRead whole now ?_ (fun far => by omega) (fun ok₄ _ => wp_ret now ?_))
  · exact fun m left lower upper failed => wp_ret now (fails m left (by omega) (by omega) failed)
  have calls : n + 1 + 1 + seekCalls gpt + 2 = n + (4 + seekCalls gpt) := by omega
  have ok := (((OkTo.one ok₁).append ok₂).append ok₃).append ok₄
  rw [calls] at ok
  rw [readInto_header env room (length_heap env _), calls]
  exact reads ok

theorem wp_gptGetState (whole : NoShort allowed) {gpt : GptInstance}
    {post : Option GptState → Nat → World → Prop} (now : inv w) (room : 2 * env.blkSize ≤ w.disk.length)
    (fails : FailsTo allowed n (4 + seekCalls gpt) post none w)
    (reads : OkTo allowed n (n + (4 + seekCalls gpt)) →
      post (some (headerState env (header env w.disk gpt))) (n + (4 + seekCalls gpt)) w) :
    wp (react env) allowed inv (gptGetState env gpt) post n w := by
  refine wp_bind (wp_readHeader whole now room ?_ (fun ok => wp_ret now (reads ok)))
  exact fun m left lower upper failed => wp_ret now (fails m left lower upper failed)

def reportedState (env : Env) (w : World) (gpt : GptInstance) : Option GptState :=
  (exec (react env) (fun _ => .ok) (gptGetState env gpt) 0 w).1

theorem reportedState_eq (room : 2 * env.blkSize ≤ w.disk.length) (gpt : GptInstance) :
    reportedState env w gpt = some (headerState env (header env w.disk gpt)) := by
  have spec : wp (react env) (fun _ o => o = .ok) (fun _ => True) (gptGetState env gpt)
      (fun r _ _ => r = some (headerState env (header env w.disk gpt))) 0 w := by
    refine wp_gptGetState ?_ trivial room ?_ (fun _ => rfl)
    · rintro n o rfl
      trivial
    · intro m left lower upper failed
      cases failed
  obtain ⟨m, result⟩ := exec_post spec (fun _ => rfl)
  exact result

def World.setState (env : Env) (w : World) (gpt : GptInstance) (state : GptState) : World :=
  w.put (headerOff env w.disk gpt) (withState env state (header env w.disk gpt))

theorem wp_gptSetState (atomic : AllAtomic allowed) {gpt : GptInstance} {state : GptState}
    {post : Int → Nat → World → Prop} (settable : state ≠ .badCrc) (now : inv w)
    (room : 2 * env.blkSize ≤ w.disk.length)
    (fails : FailsTo allowed n (6 + seekCalls gpt) post (-1) w)
    (later : inv (w.setState env gpt state))
    (writes : OkTo allowed n (n + (6 + seekCalls gpt)) →
      post 0 (n + (6 + seekCalls gpt)) (w.setState env gpt state)) :
    wp (react env) allowed inv (gptSetState env gpt state) post n w := by
  have fits := headerOff_fits env room gpt
  have space : headerOff env w.disk gpt + (withState env state (header env w.disk gpt)).length ≤ w.disk.length := by
    rwa [length_withState, header, length_slice fits]
  have calls : n + (4 + seekCalls gpt) + 2 = n + (6 + seekCalls gpt) := by omega
  have write : OkTo allowed n (n + (4 + seekCalls gpt)) → wp (react env) allowed inv
      (blkWrite (headerOff env w.disk gpt) (withState env state (header env w.disk gpt))) post
      (n + (4 + seekCalls gpt)) w := by
    intro before
    refine wp_blkWrite_atomic atomic now ?_ ?_ ?_
    · exact fun m left lower upper failed => fails m left (by omega) (by omega) failed
    · exact fun stray => (not_noSpace space stray).elim
    · rw [calls]
      exact fun after _ => ⟨later, writes (before.append after)⟩
  refine wp_bind (wp_readHeader atomic.noShort now room ?_ (fun ok => ?_))
  · exact fun m left lower upper failed => wp_ret now (fails m left lower (by omega) failed)
  · cases state with
    | ok => exact write ok
    | badSignature => exact write ok
    | badCrc => exact (settable rfl).elim

/-- The primary array as `gpt2_set_boot_chain` reads it. -/
def chainArray (env : Env) (d : Bytes) : Bytes :=
  readInto d (entriesStart env d .primary) (List.replicate (entriesSize env d .primary) 0)

/-- The array that it gives the secondary table, with the result of looking for pairs. -/
def chainResult (env : Env) (boot : BootChain) (d : Bytes) : Bytes × Int :=
  chainSwap env boot (chainArray env d) (pentrySize (header env d .primary))

/-- The primary array can be read and is the one its header declares. -/
structure ChainSource (env : Env) (d : Bytes) : Prop where
  near : entriesStart env d .primary ≤ d.length
  matches_crc : partitionCrc (header env d .primary) = (env.crc32 (chainArray env d)).toNat

def World.chainHeader (env : Env) (boot : BootChain) (w : World) : World :=
  w.put (headerOff env w.disk .secondary)
    (withArray env (chainResult env boot w.disk).1 (header env w.disk .secondary))

def World.setChain (env : Env) (boot : BootChain) (w : World) : World :=
  (w.chainHeader env boot).put (entriesStart env w.disk .secondary) (chainResult env boot w.disk).1

theorem wp_chainWrite (atomic : AllAtomic allowed) {boot : BootChain}
    {post : Int → Nat → World → Prop} (now : inv w) (room : 2 * env.blkSize ≤ w.disk.length)
    (fails : FailsTo allowed n 2 post (-1) w)
    (alone : (chainResult env boot w.disk).2 ≠ 0 → post (chainResult env boot w.disk).2 n w)
    (later : inv (w.chainHeader env boot))
    (failsLater : FailsTo allowed (n + 2) 2 post (-1) (w.chainHeader env boot))
    (stray : NoSpace w.disk (entriesStart env w.disk .secondary) (chainResult env boot w.disk).1.length →
      ∀ m, post (-1) m (w.chainHeader env boot))
    (writes : OkTo allowed n (n + 4) → (chainResult env boot w.disk).2 = 0 →
      ¬ NoSpace w.disk (entriesStart env w.disk .secondary) (chainResult env boot w.disk).1.length →
      inv (w.setChain env boot) ∧ post 0 (n + 4) (w.setChain env boot)) :
    wp (react env) allowed inv (chainWrite env env.blkSize (headerOff env w.disk .secondary)
      (header env w.disk .secondary) (chainResult env boot w.disk)) post n w := by
  have fits := headerOff_fits env room .secondary
  have space : headerOff env w.disk .secondary +
      (withArray env (chainResult env boot w.disk).1 (header env w.disk .secondary)).length ≤ w.disk.length := by
    rwa [length_withArray, header, length_slice fits]
  refine wp_ite (fun none => wp_ret now (alone none)) (fun pair => ?_)
  have same : ∀ off len, NoSpace (w.chainHeader env boot).disk off len ↔ NoSpace w.disk off len := by
    intro off len
    simp only [NoSpace, World.chainHeader, World.put, length_splice]
  refine wp_bind (wp_blkWrite_atomic atomic now ?_ ?_ (fun ok _ => ⟨later, ?_⟩))
  · exact fun m left lower upper failed => wp_ret now (fails m left lower upper failed)
  · exact fun full => (not_noSpace space full).elim
  · exact wp_blkWrite_atomic atomic later failsLater (fun full => stray ((same _ _).mp full))
      (fun ok' fits => writes (ok.append ok') (not_not.mp pair) (fun full => fits ((same _ _).mpr full)))

theorem wp_gpt2SetBootChain (atomic : AllAtomic allowed) {boot : BootChain}
    {post : Int → Nat → World → Prop} (now : inv w) (room : 2 * env.blkSize ≤ w.disk.length)
    (fails : FailsTo allowed n 12 post (-1) w)
    (refused : ¬ ChainSource env w.disk → ∀ m, post (-1) m w)
    (alone : ChainSource env w.disk → (chainResult env boot w.disk).2 ≠ 0 →
      ∀ m, post (chainResult env boot w.disk).2 m w)
    (later : ChainSource env w.disk → inv (w.chainHeader env boot))
    (failsLater : ChainSource env w.disk → FailsTo allowed (n + 12) 2 post (-1) (w.chainHeader env boot))
    (stray : ChainSource env w.disk →
      NoSpace w.disk (entriesStart env w.disk .secondary) (chainResult env boot w.disk).1.length →
      ∀ m, post (-1) m (w.chainHeader env boot))
    (writes : OkTo allowed n (n + 14) → ChainSource env w.disk → (chainResult env boot w.disk).2 = 0 →
      ¬ NoSpace w.disk (entriesStart env w.disk .secondary) (chainResult env boot w.disk).1.length →
      inv (w.setChain env boot) ∧ post 0 (n + 14) (w.setChain env boot)) :
    wp (react env) allowed inv (gpt2SetBootChain env boot) post n w := by
  have whole := atomic.noShort
  have one : seekCalls .secondary = 1 := rfl
  have fits := headerOff_fits env room .secondary
  have first := readInto_header env room (length_heap env env.blkSize) .primary
  have second : readInto w.disk (headerOff env w.disk .secondary) (header env w.disk .primary) =
      header env w.disk .secondary :=
    readInto_header env room (length_slice (headerOff_fits env room .primary)) .secondary
  have early : ∀ k calls, n ≤ k → k + calls ≤ n + 12 → ∀ m left, k ≤ m → m < k + calls →
      allowed m (.error left) → wp (react env) allowed inv (.ret (-1)) post (m + 1) w :=
    fun k calls first last m left lower upper failed =>
      wp_ret now (fails m left (by omega) (by omega) failed)
  refine wp_request now (outcome_cases whole (fun ok₁ => ?_)
    (early n 1 (by omega) (by omega) n · (by omega) (by omega)))
  simp only [react, Outcome.failed, Bool.false_eq_true, if_false]
  refine wp_bind (wp_malloc whole now (early _ _ (by omega) (by omega)) (fun ok₂ => ?_))
  refine wp_bind (wp_headerOffset whole now (by omega) (early _ _ (by omega) (by omega)) (fun ok₃ => ?_))
  refine wp_bind (wp_blkRead whole now (early _ _ (by omega) (by omega)) (fun far => by omega) (fun ok₄ _ => ?_))
  rw [headerOff] at first
  rw [first]
  refine wp_bind (wp_calloc whole now (early _ _ (by omega) (by omega)) (fun ok₅ => ?_))
  refine wp_bind (wp_blkRead whole now (early _ _ (by omega) (by omega)) ?_ (fun ok₆ near => ?_))
  · exact fun far => wp_ret now (refused (fun source => absurd source.near (Nat.not_le.mpr far)) _)
  refine wp_ite (fun differs => wp_ret now (refused (fun source => differs source.matches_crc) _)) (fun same => ?_)
  have source : ChainSource env w.disk := ⟨near, not_not.mp same⟩
  refine wp_bind (wp_blkRead whole now (early _ _ (by omega) (by omega)) (fun far => by omega) (fun ok₇ _ => ?_))
  have ok : OkTo allowed n (n + 10) :=
    ((((((OkTo.one ok₁).append ok₂).append ok₃).append ok₄).append ok₅).append ok₆).append ok₇
  rw [second, show n + 1 + 1 + seekCalls .secondary + 2 + 1 + 2 + 2 = n + 10 by omega]
  exact wp_chainWrite atomic now room (fails.sub (by omega)) (fun none => alone source none _) (later source)
    (failsLater source) (stray source) (fun ok' => writes (ok.append ok') source)

/-- The target boots from one of two xbl LUNs. -/
def UsesXbl (env : Env) : Prop :=
  gptUtilsIsUfsDevice env = true ∧ env.stat xblPrimary = true ∧ env.stat xblBackup = true

/-- The names that the searches for the generic node and the bsg node come to. -/
def scsiNode (env : Env) (dev : Bytes) : Option Bytes := do
  let link ← env.readlink dev
  let dir ← scsiGenericDir link
  let names ← env.readdir dir
  sgName names

def bsgNode (env : Env) : Option Bytes := do
  let names ← env.readdir (cstr "/dev")
  ufsBsgName names

def LunResolves (env : Env) (chain : BootChain) : Prop :=
  ((xblBootDevice env chain).bind (scsiNode env)).isSome ∧ (bsgNode env).isSome

def World.setLun (w : World) (chain : BootChain) : World := { w with bootLun := bootLunId chain }

theorem wp_getScsiNode (whole : NoShort allowed) {dev : Bytes} {post : Option Bytes → Nat → World → Prop}
    (now : inv w) (fails : FailsTo allowed n 2 post none w)
    (lost : scsiNode env dev = none → ∀ m, post none m w)
    (found : OkTo allowed n (n + 2) → (scsiNode env dev).isSome → ∀ node, post (some node) (n + 2) w) :
    wp (react env) allowed inv (getScsiNodeFromBootdevice dev) post n w := by
  unfold scsiNode at lost found
  refine wp_request now (outcome_cases whole (fun ok => ?_)
    (fun left failed => wp_ret now (fails.at 0 (by decide) left failed)))
  simp only [react, Outcome.failed, Bool.false_eq_true, if_false]
  rcases link : env.readlink dev with _ | path
  · exact wp_ret now (lost (by rw [link]; rfl) _)
  rcases dir : scsiGenericDir path with _ | sys
  · simp only [dir]
    exact wp_ret now (lost (by simp [link, dir]) _)
  simp only [dir]
  refine wp_request now (outcome_cases whole (fun ok' => ?_)
    (fun left failed => wp_ret now (fails.at 1 (by decide) left failed)))
  simp only [react, Outcome.failed, Bool.false_eq_true, if_false]
  rcases list : env.readdir sys with _ | names
  · exact wp_ret now (lost (by simp [link, dir, list]) _)
  rcases name : sgName names with _ | sg
  · simp only [name]
    exact wp_ret now (lost (by simp [link, dir, list, name]) _)
  · simp only [name]
    exact wp_ret now (found ((OkTo.one ok).append (.one ok')) (by simp [link, dir, list, name]) _)

theorem wp_setBootLun (whole : NoShort allowed) {sgDev : Bytes} {chain : BootChain}
    {post : Bool → Nat → World → Prop} (now : inv w) (fails : FailsTo allowed n 3 post false w)
    (lost : bsgNode env = none → ∀ m, post false m w)
    (switches : OkTo allowed n (n + 3) → (bsgNode env).isSome →
      inv (w.setLun chain) ∧ post true (n + 3) (w.setLun chain)) :
    wp (react env) allowed inv (setBootLun sgDev (bootLunId chain)) post n w := by
  unfold bsgNode at lost switches
  refine wp_request now (outcome_cases whole (fun ok₁ => ?_)
    (fun left failed => wp_ret now (fails.at 0 (by decide) left failed)))
  simp only [react, Outcome.failed, Bool.false_eq_true, if_false]
  rcases list : env.readdir (cstr "/dev") with _ | names
  · exact wp_ret now (lost (by rw [list]; rfl) _)
  rcases name : ufsBsgName names with _ | bsg
  · simp only [name]
    exact wp_ret now (lost (by simp [list, name]) _)
  simp only [name]
  refine wp_request now (outcome_cases whole (fun ok₂ => ?_)
    (fun left failed => wp_ret now (fails.at 1 (by decide) left failed)))
  refine wp_call now (outcome_cases whole (fun ok₃ => ?_)
    (fun left failed => wp_ret now (fails.at 2 (by decide) left failed)))
  have done := switches (((OkTo.one ok₁).append (.one ok₂)).append (.one ok₃)) (by simp [list, name])
  exact wp_ret done.1 done.2

theorem wp_switchXbl (whole : NoShort allowed) {chain : BootChain} {post : Int → Nat → World → Prop}
    (now : inv w) (skips : ¬ UsesXbl env → post 0 n w)
    (fails : UsesXbl env → FailsTo allowed n 5 post (-1) w)
    (lost : UsesXbl env → ¬ LunResolves env chain → ∀ m, post (-1) m w)
    (switches : UsesXbl env → OkTo allowed n (n + 5) → LunResolves env chain →
      inv (w.setLun chain) ∧ post 0 (n + 5) (w.setLun chain)) :
    wp (react env) allowed inv (switchXbl env chain) post n w := by
  refine wp_ite (fun other => wp_ret now (skips ?_)) (fun ufs => ?_)
  · rintro ⟨ufs, -⟩
    simp [ufs] at other
  refine wp_ite (fun other => wp_ret now (skips ?_)) (fun both => ?_)
  · rintro ⟨-, first, second⟩
    simp [first, second] at other
  have uses : UsesXbl env := by simpa [UsesXbl] using And.intro ufs both
  obtain ⟨dev, device⟩ : ∃ dev, xblBootDevice env chain = some dev := by
    cases chain <;> simp [xblBootDevice, uses.2.1, uses.2.2]
  have resolves : LunResolves env chain ↔ (scsiNode env dev).isSome ∧ (bsgNode env).isSome := by
    simp only [LunResolves, device, Option.bind_some]
  unfold gptUtilsSetXblBootPartition
  simp only [device, uses.2.1, uses.2.2, Bool.not_true, Bool.or_self, Bool.false_and, Bool.false_eq_true, if_false]
  refine wp_bind (wp_getScsiNode whole now ?_ ?_ (fun ok node sg => ?_))
  · exact fun m left lower upper failed => wp_ret now (fails uses m left lower (by omega) failed)
  · intro none m
    refine wp_ret now (lost uses ?_ m)
    simp [resolves, none]
  refine wp_bind (wp_setBootLun whole now ?_ ?_ (fun ok' bsg => ?_))
  · exact fun m left lower upper failed => wp_ret now (fails uses m left (by omega) (by omega) failed)
  · intro none m
    refine wp_ret now (lost uses ?_ m)
    simp [resolves, none]
  · have done := switches uses (ok.append ok') (resolves.mpr ⟨node, bsg⟩)
    exact ⟨done.1, wp_ret done.1 done.2⟩

/-- Switching the boot LUN before the rest of a stage. -/
theorem wp_afterSwitch (whole : NoShort allowed) {chain : BootChain} {rest : Io Int}
    {post : Int → Nat → World → Prop} (now : inv w)
    (skips : ¬ UsesXbl env → wp (react env) allowed inv rest post n w)
    (fails : UsesXbl env → FailsTo allowed n 5 post (-1) w)
    (lost : UsesXbl env → ¬ LunResolves env chain → ∀ m, post (-1) m w)
    (switches : UsesXbl env → OkTo allowed n (n + 5) → LunResolves env chain →
      wp (react env) allowed inv rest post (n + 5) (w.setLun chain)) :
    wp (react env) allowed inv (do
      let r ← switchXbl env chain
      if r ≠ 0 then return r
      rest) post n w := by
  refine wp_bind (wp_switchXbl whole now skips ?_ ?_ ?_)
  · exact fun uses m left lower upper failed => wp_ret now (fails uses m left lower upper failed)
  · exact fun uses none m => wp_ret now (lost uses none m)
  · exact fun uses ok found => ⟨wp_inv (switches uses ok found), switches uses ok found⟩

/-- The states of the headers in which a stage does its work. -/
def Expected : BootUpdateStage → GptState → GptState → Prop
  | .updateMain, prim, second => prim = .ok ∧ second = .ok
  | .updateBackup, prim, second => prim = .badSignature ∧ second = .ok
  | .updateFinalize, prim, second => prim = .ok ∧ second = .badSignature

theorem dispatchStage_expected (env : Env) {stage : BootUpdateStage} {prim second : GptState}
    (expected : Expected stage prim second) : dispatchStage env stage prim second = performStage env stage := by
  cases stage <;> obtain ⟨rfl, rfl⟩ := expected <;> rfl

def idleAnswer (stage : BootUpdateStage) (prim second : GptState) : Int :=
  if abortsOnCrc prim second ∨ abortsOnSignatures prim second then -1
  else if internalStage prim second = some .updateBackup ∧ stage = .updateMain ∨
    internalStage prim second = some .updateFinalize ∧ stage = .updateBackup then 0
  else -1

theorem dispatchStage_unexpected (env : Env) {stage : BootUpdateStage} {prim second : GptState}
    (unexpected : ¬ Expected stage prim second) :
    dispatchStage env stage prim second = .ret (idleAnswer stage prim second) := by
  cases stage <;> cases prim <;> cases second <;> first
    | rfl
    | exact (unexpected ⟨rfl, rfl⟩).elim

theorem wp_dispatchStage {stage : BootUpdateStage} {prim second : GptState}
    {post : Int → Nat → World → Prop} (now : inv w)
    (stays : ¬ Expected stage prim second → post (idleAnswer stage prim second) n w)
    (performs : Expected stage prim second → wp (react env) allowed inv (performStage env stage) post n w) :
    wp (react env) allowed inv (dispatchStage env stage prim second) post n w := by
  by_cases expected : Expected stage prim second
  · rw [dispatchStage_expected env expected]
    exact performs expected
  · rw [dispatchStage_unexpected env expected]
    exact wp_ret now (stays expected)

theorem wp_prepareOpened (whole : NoShort allowed) {stage : BootUpdateStage}
    {post : Int → Nat → World → Prop} (now : inv w) (room : 2 * env.blkSize ≤ w.disk.length)
    (fails : FailsTo allowed n 9 post 1 w)
    (dispatch : OkTo allowed n (n + 9) → wp (react env) allowed inv (dispatchStage env stage
      (headerState env (header env w.disk .primary)) (headerState env (header env w.disk .secondary))) post (n + 9) w) :
    wp (react env) allowed inv (prepareOpened env stage) post n w := by
  have none : seekCalls .primary = 0 := rfl
  have one : seekCalls .secondary = 1 := rfl
  refine wp_bind (wp_gptGetState whole now room ?_ (fun ok => ?_))
  · exact fun m left lower upper failed => wp_ret now (fails m left lower (by omega) failed)
  refine wp_bind (wp_gptGetState whole now room ?_ (fun ok' => ?_))
  · exact fun m left lower upper failed => wp_ret now (fails m left (by omega) (by omega) failed)
  · exact dispatch (ok.append ok')

theorem wp_preparePartitions (whole : NoShort allowed) {stage : BootUpdateStage} {path : Bytes}
    {post : Int → Nat → World → Prop} (now : inv w) (room : 2 * env.blkSize ≤ w.disk.length)
    (unopened : FailsTo allowed n 1 post (-1) w)
    (fails : FailsTo allowed (n + 1) 9 (fun r m v => post r (m + 1) v) 1 w)
    (dispatch : OkTo allowed n (n + 10) → wp (react env) allowed inv (dispatchStage env stage
      (headerState env (header env w.disk .primary)) (headerState env (header env w.disk .secondary)))
        (fun r m v => post r (m + 1) v) (n + 10) w) :
    wp (react env) allowed inv (preparePartitions env stage (some path)) post n w := by
  refine wp_request now (outcome_cases whole (fun ok => ?_)
    (fun left failed => wp_ret now (unopened.at 0 (by decide) left failed)))
  refine wp_seq (wp_prepareOpened whole now room fails (fun ok' => dispatch ((OkTo.one ok).append ok'))) ?_
  intro r m v still done
  exact wp_request still (fun o _ => wp_ret still done)

end Pdx215.Gpt
