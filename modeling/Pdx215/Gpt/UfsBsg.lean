import Mathlib.Data.Finset.Basic
import Pdx215.Lib.Runs
import Pdx215.Gpt.Mounted

/-! How the boot LUN is set through the UFS bsg node: the query request byte by byte, and the
descriptor that the library keeps in a global variable. `Gpt.setBootLun` is this function with the request
as one step and without the descriptor. -/
namespace Pdx215.Gpt.UfsBsg

def fnameSz : Nat := 64
def eagain : Int := 11
def enodev : Int := 19
def einval : Int := 22

def utpUpiuQueryReq : UInt8 := 0x16
def queryReqFuncStdWrite : UInt8 := 0x81
def queryReqOpWriteDesc : UInt8 := 0x2
def queryReqOpWriteAttr : UInt8 := 0x4
def queryAttrIdnBootLuEn : UInt8 := 0x00

/-! ### The request -/

/- A big endian field is held as the bytes that it has in memory. -/
def htobe32 (x : Nat) : Bytes := (fourBytes x).reverse

def htobe16 (x : UInt16) : Bytes := [(x >>> 8).toUInt8, x.toUInt8]

def dword (b3 b2 b1 b0 : UInt8) : Bytes :=
  htobe32 (b3.toNat <<< 24 ||| b2.toNat <<< 16 ||| b1.toNat <<< 8 ||| b0.toNat)

/-- `struct ufs_bsg_request` with the fields that the code sets. -/
structure Request where
  msgcode : UInt8
  dword0 : Bytes
  dword1 : Bytes
  dword2 : Bytes
  opcode : UInt8
  idn : UInt8
  index : UInt8
  selector : UInt8
  length : Bytes
  value : Bytes

/-- The request in memory. The message code is an `__u32`; nobody sets the two reserved fields. -/
def Request.bytes (req : Request) : Bytes :=
  [req.msgcode, 0, 0, 0] ++ req.dword0 ++ req.dword1 ++ req.dword2 ++
    [req.opcode, req.idn, req.index, req.selector] ++ [0, 0] ++ req.length ++ req.value ++
    List.replicate 8 0

/-- The value is set by the caller. -/
def composeUfsBsgQueryReq (value : Bytes) (func opcode idn index sel : UInt8) (length : UInt16) : Request where
  msgcode := utpUpiuQueryReq
  dword0 := dword utpUpiuQueryReq 0 0 0
  dword1 := dword 0 func 0 0
  dword2 := dword 0 0 (length >>> 8).toUInt8 length.toUInt8
  opcode := opcode
  idn := idn
  index := index
  selector := sel
  length := htobe16 length
  value := value

structure Query where
  func : UInt8
  segment : UInt16
  opcode : UInt8
  idn : UInt8
  index : UInt8
  selector : UInt8
  length : UInt16
  value : Nat
  deriving DecidableEq, Repr

def be16 (hi lo : UInt8) : UInt16 := hi.toUInt16 <<< 8 ||| lo.toUInt16

/-- A request unit has 32 bytes, the first of which names the transaction. -/
def Query.read (upiu : Bytes) : Option Query :=
  let at' (i : Nat) : UInt8 := upiu[i]?.getD 0
  if upiu.length = 32 ∧ at' 0 = utpUpiuQueryReq then
    some
      { func := at' 5
        segment := be16 (at' 10) (at' 11)
        opcode := at' 12
        idn := at' 13
        index := at' 14
        selector := at' 15
        length := be16 (at' 18) (at' 19)
        value := get4Bytes [at' 23, at' 22, at' 21, at' 20] 0 }
  else none

/-- The attributes of a device, by number, index and selector. -/
abbrev Attrs := UInt8 → UInt8 → UInt8 → Nat

def Attrs.write (attrs : Attrs) (idn index sel : UInt8) (value : Nat) : Attrs :=
  fun i j k => if i = idn ∧ j = index ∧ k = sel then value else attrs i j k

/-- What a device does with a request that it accepts. Of the queries only the write of an attribute
changes one. -/
def Attrs.accept (attrs : Attrs) (request : Bytes) : Attrs :=
  match Query.read (request.drop 4) with
  | some q =>
    if q.func = queryReqFuncStdWrite ∧ q.opcode = queryReqOpWriteAttr then attrs.write q.idn q.index q.selector q.value
    else attrs
  | none => attrs

theorem dword_eq (b3 b2 b1 b0 : UInt8) : dword b3 b2 b1 b0 = [b3, b2, b1, b0] := by
  have read : get4Bytes [b0, b1, b2, b3] 0 = b0.toNat ||| b1.toNat <<< 8 ||| b2.toNat <<< 16 ||| b3.toNat <<< 24 := rfl
  have same : b3.toNat <<< 24 ||| b2.toNat <<< 16 ||| b1.toNat <<< 8 ||| b0.toNat = get4Bytes [b0, b1, b2, b3] 0 := by
    rw [read]
    generalize b1.toNat <<< 8 = x1
    generalize b2.toNat <<< 16 = x2
    generalize b3.toNat <<< 24 = x3
    ac_rfl
  rw [dword, same, htobe32, fourBytes_get4Bytes (by simp)]
  rfl

theorem be16_split (x : UInt16) : be16 (x >>> 8).toUInt8 x.toUInt8 = x := by
  have small : x.toNat < 65536 := UInt16.toNat_lt x
  have eight : UInt16.toNat 8 % 16 = 8 := rfl
  apply UInt16.toNat_inj.mp
  rw [be16, UInt16.toNat_or, UInt16.toNat_shiftLeft, UInt8.toNat_toUInt16, UInt8.toNat_toUInt16, UInt16.toNat_toUInt8,
    UInt16.toNat_toUInt8, UInt16.toNat_shiftRight, eight, Nat.shiftRight_eq_div_pow, Nat.shiftLeft_eq,
    Nat.mod_eq_of_lt (by omega), ← Nat.shiftLeft_eq, Nat.or_comm, or_shift_eq_add (by omega)]
  omega

/-- The device reads the query that the code composes, whatever its fields are. -/
theorem read_compose (func opcode idn index sel : UInt8) (length : UInt16) {value : Nat} (small : value < 2 ^ 32) :
    Query.read ((composeUfsBsgQueryReq (htobe32 value) func opcode idn index sel length).bytes.drop 4) =
      some ⟨func, length, opcode, idn, index, sel, length, value⟩ := by
  have whole : (composeUfsBsgQueryReq (htobe32 value) func opcode idn index sel length).bytes.drop 4 =
      [utpUpiuQueryReq, 0, 0, 0, 0, func, 0, 0, 0, 0, (length >>> 8).toUInt8, length.toUInt8, opcode, idn, index, sel,
        0, 0, (length >>> 8).toUInt8, length.toUInt8] ++ htobe32 value ++ List.replicate 8 0 := by
    simp only [Request.bytes, composeUfsBsgQueryReq, dword_eq, htobe16]
    rfl
  obtain ⟨a, b, c, d, split⟩ : ∃ a b c d, fourBytes value = [a, b, c, d] := ⟨_, _, _, _, rfl⟩
  have digits := get4Bytes_fourBytes small
  rw [split] at digits
  rw [whole, htobe32, split]
  simp [Query.read, be16_split, digits]

/-! ### The calls -/

inductive BsgIoctlDir where
  | toDev | fromDev
  deriving DecidableEq, Repr

/-- `struct sg_io_v4` with the fields that differ between requests. -/
structure SgIo where
  request : Bytes
  dinXferLen : Nat
  doutXferLen : Nat

/-- How one `ioctl` ends: its return value, what it leaves in `sg_io.info` and `rsp.result`, and whether the
device has accepted the request. -/
structure SgReply where
  ret : Int
  info : UInt32
  result : UInt32
  accepted : Bool

/-- The process that has loaded the library, with its open descriptors, and the device. -/
structure Process where
  ufsBsgDev : Bytes
  fdUfsBsg : Nat
  files : Finset Nat
  attrs : Attrs

/-- What the kernel answers during one call. -/
structure Answers where
  dev : Option (List Bytes)
  opened : Bytes → Except Int Nat
  reply : SgReply

def getUfsBsgDev (dev : Option (List Bytes)) (p : Process) : Int × Process :=
  match dev with
  | some names =>
    match ufsBsgName names with
    | some name => (0, { p with ufsBsgDev := (cstr "/dev/" ++ name).take (fnameSz - 1) })
    | none => (-enodev, p)
  | none => (-einval, p)

def ufsBsgDevOpen (opened : Bytes → Except Int Nat) (p : Process) : Int × Process :=
  if p.fdUfsBsg = 0 then
    match opened p.ufsBsgDev with
    | .ok fd => (0, { p with fdUfsBsg := fd, files := insert fd p.files })
    | .error errno => (errno, { p with fdUfsBsg := 0 })
  else (0, p)

def ufsBsgDevClose (p : Process) : Process :=
  if p.fdUfsBsg ≠ 0 then { p with files := p.files.erase p.fdUfsBsg, fdUfsBsg := 0 } else p

/- A descriptor that is not open is refused before anything reaches the device. -/
def ioctl (fd : Nat) (sgIo : SgIo) (reply : SgReply) (p : Process) : SgReply × Process :=
  if fd ∈ p.files then
    (reply, if reply.accepted then { p with attrs := p.attrs.accept sgIo.request } else p)
  else (⟨-1, 0, 0, false⟩, p)

def ufsBsgIoctl (fd : Nat) (req : Request) (bufLen : Nat) (dir : BsgIoctlDir) (reply : SgReply) (p : Process) :
    Int × Process :=
  let sgIo : SgIo := match dir with
    | .fromDev => ⟨req.bytes, bufLen, 0⟩
    | .toDev => ⟨req.bytes, 0, bufLen⟩
  let (rsp, p) := ioctl fd sgIo reply p
  (if rsp.info ≠ 0 ∨ rsp.result ≠ 0 then -eagain else rsp.ret, p)

def ufsQueryAttr (fd value : Nat) (func opcode idn index sel : UInt8) (reply : SgReply) (p : Process) : Int × Process :=
  let dir : BsgIoctlDir := if opcode = queryReqOpWriteDesc ∨ opcode = queryReqOpWriteAttr then .toDev else .fromDev
  ufsBsgIoctl fd (composeUfsBsgQueryReq (htobe32 value) func opcode idn index sel 0) 0 dir reply p

/-- `set_boot_lun` of the build with `_BSG_FRAMEWORK_KERNEL_HEADERS`. -/
def setBootLun (lunId : UInt8) (answers : Answers) (p : Process) : Int × Process :=
  let (ret, p) := getUfsBsgDev answers.dev p
  if ret ≠ 0 then (ret, p)
  else
    let (ret, p) := ufsBsgDevOpen answers.opened p
    if ret ≠ 0 then (ret, p)
    else
      let (ret, p) := ufsQueryAttr p.fdUfsBsg lunId.toNat queryReqFuncStdWrite queryReqOpWriteAttr queryAttrIdnBootLuEn
        0 0 answers.reply p
      (ret, ufsBsgDevClose p)

def Process.bootLun (p : Process) : Nat := p.attrs queryAttrIdnBootLuEn 0 0

/-! ### One call -/

def Answers.node (a : Answers) : Option Bytes :=
  (a.dev.bind ufsBsgName).map fun name => (cstr "/dev/" ++ name).take (fnameSz - 1)

def Answers.fd (a : Answers) : Option Nat := a.node.bind fun path => (a.opened path).toOption

def SgReply.code (r : SgReply) : Int := if r.info ≠ 0 ∨ r.result ≠ 0 then -eagain else r.ret

/-- What a kernel answers: a new descriptor is not one of those that are open, an error has a number, and the reply says
whether the device has accepted the request. -/
structure Sane (p : Process) (a : Answers) : Prop where
  fresh : ∀ fd, a.fd = some fd → fd ∉ p.files
  errno : ∀ path e, a.opened path = .error e → e ≠ 0
  honest : a.reply.accepted = true ↔ a.reply.code = 0

section Call

variable {lunId : UInt8} {a : Answers} {p : Process}

theorem accept_writeAttr (attrs : Attrs) (idn index sel : UInt8) {value : Nat} (small : value < 2 ^ 32) :
    attrs.accept (composeUfsBsgQueryReq (htobe32 value) queryReqFuncStdWrite queryReqOpWriteAttr idn index sel 0).bytes =
      attrs.write idn index sel value := by
  rw [Attrs.accept, read_compose _ _ _ _ _ _ small]
  exact if_pos ⟨rfl, rfl⟩

theorem ufsQueryAttr_writeAttr {fd : Nat} (here : fd ∈ p.files) {value : Nat} (small : value < 2 ^ 32)
    (idn index sel : UInt8) (reply : SgReply) :
    ufsQueryAttr fd value queryReqFuncStdWrite queryReqOpWriteAttr idn index sel reply p =
      (reply.code, if reply.accepted then { p with attrs := p.attrs.write idn index sel value } else p) := by
  simp only [ufsQueryAttr, ufsBsgIoctl, ioctl, if_pos here, or_true, if_true, accept_writeAttr _ _ _ _ small, SgReply.code]

theorem ufsBsgDevClose_eq (p : Process) : ufsBsgDevClose p =
    { p with fdUfsBsg := 0, files := if p.fdUfsBsg = 0 then p.files else p.files.erase p.fdUfsBsg } := by
  obtain ⟨dev, fd, files, attrs⟩ := p
  by_cases zero : fd = 0
  · simp [ufsBsgDevClose, zero]
  · simp [ufsBsgDevClose, zero]

theorem setBootLun_unopened (closed : p.fdUfsBsg = 0) (sane : Sane p a) (none : a.fd = none) :
    (setBootLun lunId a p).1 ≠ 0 ∧ ∃ dev, (setBootLun lunId a p).2 = { p with ufsBsgDev := dev } := by
  have absent : -enodev ≠ 0 := by decide
  have unread : -einval ≠ 0 := by decide
  rcases list : a.dev with _ | names
  · simp only [setBootLun, getUfsBsgDev, list, if_pos unread]
    exact ⟨unread, p.ufsBsgDev, rfl⟩
  rcases name : ufsBsgName names with _ | bsg
  · simp only [setBootLun, getUfsBsgDev, list, name, if_pos absent]
    exact ⟨absent, p.ufsBsgDev, rfl⟩
  rcases opened : a.opened ((cstr "/dev/" ++ bsg).take (fnameSz - 1)) with errno | fd
  · have positive := sane.errno _ _ opened
    simp only [setBootLun, getUfsBsgDev, list, name, ufsBsgDevOpen, closed, opened, if_true, if_pos positive, ne_eq,
      not_true_eq_false, if_false]
    exact ⟨positive, _, rfl⟩
  · simp [Answers.fd, Answers.node, list, name, opened, Except.toOption] at none

theorem setBootLun_opened (closed : p.fdUfsBsg = 0) (sane : Sane p a) {fd : Nat} (some : a.fd = some fd) :
    (setBootLun lunId a p).1 = a.reply.code ∧ ∃ dev, (setBootLun lunId a p).2 =
      { p with
        ufsBsgDev := dev
        files := if fd = 0 then insert 0 p.files else p.files
        attrs := if a.reply.accepted then p.attrs.write queryAttrIdnBootLuEn 0 0 lunId.toNat else p.attrs } := by
  have fresh := sane.fresh fd some
  obtain ⟨path, node, opened⟩ := Option.bind_eq_some_iff.mp some
  obtain ⟨bsg, found, rfl⟩ := Option.map_eq_some_iff.mp node
  obtain ⟨names, list, name⟩ := Option.bind_eq_some_iff.mp found
  have ok : a.opened ((cstr "/dev/" ++ bsg).take (fnameSz - 1)) = .ok fd := by
    cases answer : a.opened ((cstr "/dev/" ++ bsg).take (fnameSz - 1)) with
    | error e =>
      rw [answer] at opened
      cases opened
    | ok fd' =>
      rw [answer] at opened
      cases opened
      rfl
  have small : lunId.toNat < 2 ^ 32 := Nat.lt_trans (UInt8.toNat_lt lunId) (by decide)
  have query := @ufsQueryAttr_writeAttr
    { p with ufsBsgDev := (cstr "/dev/" ++ bsg).take (fnameSz - 1), fdUfsBsg := fd, files := insert fd p.files } fd
    (Finset.mem_insert_self fd p.files) _ small queryAttrIdnBootLuEn 0 0 a.reply
  simp only [setBootLun, getUfsBsgDev, list, name, ufsBsgDevOpen, closed, ok, if_true, ne_eq, not_true_eq_false, if_false]
  -- what was opened is closed again, except for the descriptor that stands for a closed node
  have left : (if fd = 0 then insert fd p.files else p.files.erase fd) =
      if fd = 0 then insert 0 p.files else p.files := by
    split
    case isTrue zero => rw [zero]
    case isFalse other => exact Finset.erase_eq_of_notMem fresh
  rw [query, ufsBsgDevClose_eq]
  refine ⟨rfl, (cstr "/dev/" ++ bsg).take (fnameSz - 1), ?_⟩
  cases a.reply.accepted with
  | true => simp [left]
  | false => simp [left]

end Call

/-! ### The model with one step for the request -/

/-- What the coarse model needs to know of the answers. -/
structure Answers.Follow (a : Answers) (env : Env) (io : Nat → Outcome) (n : Nat) : Prop where
  dev : a.dev = if (io n).failed then none else env.readdir (cstr "/dev")
  opened : ∀ path, (a.opened path).toOption.isSome = !(io (n + 1)).failed
  accepted : a.reply.accepted = !(io (n + 2)).failed

theorem Answers.Follow.fd {a : Answers} {env : Env} {io : Nat → Outcome} {n : Nat} (follow : a.Follow env io n) :
    a.fd.isSome = (!(io n).failed && ((env.readdir (cstr "/dev")).bind ufsBsgName).isSome && !(io (n + 1)).failed) := by
  have list := follow.dev
  cases first : (io n).failed with
  | true =>
    rw [first, if_pos rfl] at list
    rw [Answers.fd, Answers.node, list]
    rfl
  | false =>
    rw [first, if_neg Bool.false_ne_true] at list
    rw [Answers.fd, Answers.node, list]
    cases (env.readdir (cstr "/dev")).bind ufsBsgName with
    | none => rfl
    | some name => exact follow.opened _

/-- The coarse model: the LUN is switched exactly if the node is found, opened, and accepts the query. -/
theorem exec_setBootLun (env : Env) (io : Nat → Outcome) (sgDev : Bytes) (id n : Nat) (w : World) :
    Effect.exec (react env) io (Gpt.setBootLun sgDev id) n w =
      if !(io n).failed && ((env.readdir (cstr "/dev")).bind ufsBsgName).isSome && !(io (n + 1)).failed &&
        !(io (n + 2)).failed then (true, { w with bootLun := id }) else (false, w) := by
  simp only [Gpt.setBootLun, Bind.bind, Effect.Prog.bind, Effect.Prog.request, Effect.exec, react]
  cases first : (io n).failed with
  | true => rfl
  | false =>
    rcases list : env.readdir (cstr "/dev") with _ | names
    · rfl
    rcases name : ufsBsgName names with _ | bsg
    · simp [name, Effect.exec, Pure.pure]
    cases second : (io (n + 1)).failed with
    | true => simp [name, second, Effect.exec, react, Pure.pure]
    | false =>
      cases third : (io (n + 2)).failed with
      | true => simp [name, second, third, Effect.exec, react]
      | false => simp [name, second, third, Effect.exec, react]

theorem bootLun_write (attrs : Attrs) (value : Nat) :
    attrs.write queryAttrIdnBootLuEn 0 0 value queryAttrIdnBootLuEn 0 0 = value := if_pos ⟨rfl, rfl, rfl⟩

/-- What the caller and the device see of a call of `set_boot_lun` is what they see of `Gpt.setBootLun`. -/
theorem setBootLun_refines {env : Env} {io : Nat → Outcome} {n : Nat} {w : World} {p : Process} {a : Answers}
    (sgDev : Bytes) (lunId : UInt8) (closed : p.fdUfsBsg = 0) (sane : Sane p a) (follow : a.Follow env io n)
    (same : p.bootLun = w.bootLun) :
    ((setBootLun lunId a p).1 = 0 ↔
      (Effect.exec (react env) io (Gpt.setBootLun sgDev lunId.toNat) n w).1 = true) ∧
    (Effect.exec (react env) io (Gpt.setBootLun sgDev lunId.toNat) n w).2 =
      { w with bootLun := (setBootLun lunId a p).2.bootLun } := by
  have unchanged : w = { w with bootLun := p.bootLun } := by rw [same]
  rw [exec_setBootLun, ← follow.fd, ← follow.accepted]
  rcases found : a.fd with _ | fd
  · obtain ⟨failed, dev, after⟩ := @setBootLun_unopened lunId a p closed sane found
    rw [after]
    exact ⟨⟨fun zero => (failed zero).elim, fun no => by cases no⟩, unchanged⟩
  obtain ⟨code, dev, after⟩ := @setBootLun_opened lunId a p closed sane fd found
  rw [after, code]
  cases accepted : a.reply.accepted with
  | true =>
    have zero := sane.honest.mp accepted
    refine ⟨⟨fun _ => rfl, fun _ => zero⟩, ?_⟩
    simp [Process.bootLun, bootLun_write]
  | false =>
    have failed : a.reply.code ≠ 0 := fun zero => by
      have := sane.honest.mpr zero
      rw [accepted] at this
      cases this
    exact ⟨⟨fun zero => (failed zero).elim, fun no => by cases no⟩, unchanged⟩

def Sample.process (files : Finset Nat) : Process := ⟨[], 0, files, fun _ _ _ => bootLunAId⟩

def Sample.answers (fd : Nat) : Answers where
  dev := Sample.env.readdir (cstr "/dev")
  opened _ := .ok fd
  reply := ⟨0, 0, 0, true⟩

theorem Sample.answers_fd (fd : Nat) : (Sample.answers fd).fd = some fd := rfl

theorem Sample.answers_sane {fd : Nat} {p : Process} (fresh : fd ∉ p.files) : Sane p (Sample.answers fd) where
  fresh := by
    intro fd' same
    rw [Sample.answers_fd] at same
    cases same
    exact fresh
  errno := by
    intro path e none
    cases none
  honest := ⟨fun _ => rfl, fun _ => rfl⟩

theorem setBootLun_refines_backup :
    Sane (Sample.process {0, 1, 2}) (Sample.answers 3) ∧
    (Sample.answers 3).Follow Sample.env (fun _ => .ok) 0 ∧
    (setBootLun 2 (Sample.answers 3) (Sample.process {0, 1, 2})).1 = 0 ∧
    ((setBootLun 2 (Sample.answers 3) (Sample.process {0, 1, 2})).1 = 0 ↔
      (Effect.exec (react Sample.env) (fun _ => .ok) (Gpt.setBootLun (cstr "/dev/sg2") (UInt8.toNat 2)) 0 Sample.world).1 =
        true) ∧
    (Effect.exec (react Sample.env) (fun _ => .ok) (Gpt.setBootLun (cstr "/dev/sg2") (UInt8.toNat 2)) 0 Sample.world).2 =
      { Sample.world with bootLun := (setBootLun 2 (Sample.answers 3) (Sample.process {0, 1, 2})).2.bootLun } := by
  have sane : Sane (Sample.process {0, 1, 2}) (Sample.answers 3) := Sample.answers_sane (by decide)
  have follow : (Sample.answers 3).Follow Sample.env (fun _ => .ok) 0 := ⟨(if_neg Bool.false_ne_true).symm, fun _ => rfl, rfl⟩
  exact ⟨sane, follow, (setBootLun_opened rfl sane (Sample.answers_fd 3)).1,
    setBootLun_refines (cstr "/dev/sg2") 2 rfl sane follow rfl⟩

/-! ### Runs of calls -/

structure Call where
  lunId : UInt8
  answers : Answers

def step (p : Process) (c : Call) : Process := (setBootLun c.lunId c.answers p).2

def successes : Process → List Call → List UInt8
  | _, [] => []
  | p, c :: calls =>
    if (setBootLun c.lunId c.answers p).1 = 0 then c.lunId :: successes (step p c) calls else successes (step p c) calls

/-- Between two calls the node is closed, and what a call leaves open is at most descriptor 0. -/
theorem step_spec {p : Process} {c : Call} (closed : p.fdUfsBsg = 0) (sane : Sane p c.answers) :
    (step p c).fdUfsBsg = 0 ∧
    (step p c).files = (if c.answers.fd = some 0 then insert 0 p.files else p.files) ∧
    (step p c).bootLun = if (setBootLun c.lunId c.answers p).1 = 0 then c.lunId.toNat else p.bootLun := by
  unfold step
  rcases found : c.answers.fd with _ | fd
  · obtain ⟨failed, dev, after⟩ := @setBootLun_unopened c.lunId _ p closed sane found
    rw [after, if_neg failed]
    exact ⟨closed, rfl, rfl⟩
  obtain ⟨code, dev, after⟩ := @setBootLun_opened c.lunId _ p closed sane fd found
  rw [after, code]
  refine ⟨closed, by simp, ?_⟩
  by_cases zero : c.answers.reply.code = 0
  · simp [Process.bootLun, zero, sane.honest.mpr zero, bootLun_write]
  · have refused : ¬ c.answers.reply.accepted = true := fun accepted => zero (sane.honest.mp accepted)
    simp [Process.bootLun, zero, refused]

/-- Over any number of calls: every call starts with the node closed, and the device boots from the LUN of the last call that
returned success. The one descriptor that can stay open is descriptor 0, which the code takes for none; it then stays open for
good, and no later call can get it. -/
theorem setBootLun_run {p : Process} {calls : List Call} (closed : p.fdUfsBsg = 0)
    (sane : Runs.Along step (fun p c => Sane p c.answers) p calls) :
    (calls.foldl step p).fdUfsBsg = 0 ∧
    (calls.foldl step p).files = (if ∃ c ∈ calls, c.answers.fd = some 0 then insert 0 p.files else p.files) ∧
    (calls.foldl step p).bootLun = ((successes p calls).getLast?.map UInt8.toNat).getD p.bootLun := by
  induction calls generalizing p with
  | nil => exact ⟨closed, by simp, rfl⟩
  | cons c calls ih =>
    obtain ⟨here, later⟩ := sane
    obtain ⟨closed', files, lun⟩ := step_spec closed here
    obtain ⟨done, left, last⟩ := ih closed' later
    refine ⟨done, ?_, ?_⟩
    · rw [List.foldl_cons, left, files]
      by_cases zero : c.answers.fd = some 0
      · simp [zero]
      · simp [zero]
    · rw [List.foldl_cons, last, lun, successes]
      split
      case isTrue => simp [List.getLast?_cons]
      case isFalse => rfl

/-- Without standard streams the first call gets descriptor 0 and leaves it open; the second gets another one. -/
theorem setBootLun_run_leaks_zero :
    Runs.Along step (fun p c => Sane p c.answers) (Sample.process ∅) [⟨2, Sample.answers 0⟩, ⟨1, Sample.answers 3⟩] ∧
    ([⟨2, Sample.answers 0⟩, ⟨1, Sample.answers 3⟩].foldl step (Sample.process ∅)).files = {0} ∧
    ([⟨2, Sample.answers 0⟩, ⟨1, Sample.answers 3⟩].foldl step (Sample.process ∅)).bootLun = 1 := by
  have sane₁ : Sane (Sample.process ∅) (Sample.answers 0) := Sample.answers_sane (by decide)
  obtain ⟨closed, files, -⟩ := @step_spec (Sample.process ∅) ⟨2, Sample.answers 0⟩ rfl sane₁
  have sane₂ : Sane (step (Sample.process ∅) ⟨2, Sample.answers 0⟩) (Sample.answers 3) := by
    refine Sample.answers_sane ?_
    rw [files, if_pos (Sample.answers_fd 0)]
    decide
  have sane : Runs.Along step (fun p c => Sane p c.answers) (Sample.process ∅)
      [⟨2, Sample.answers 0⟩, ⟨1, Sample.answers 3⟩] := ⟨sane₁, sane₂, trivial⟩
  obtain ⟨-, left, lun⟩ := setBootLun_run rfl sane
  have first : (setBootLun 2 (Sample.answers 0) (Sample.process ∅)).1 = 0 :=
    (setBootLun_opened rfl sane₁ (Sample.answers_fd 0)).1
  have second : (setBootLun 1 (Sample.answers 3) (step (Sample.process ∅) ⟨2, Sample.answers 0⟩)).1 = 0 :=
    (setBootLun_opened closed sane₂ (Sample.answers_fd 3)).1
  refine ⟨sane, ?_, ?_⟩
  · rw [left, if_pos ⟨_, List.mem_cons_self, Sample.answers_fd 0⟩]
    rfl
  · rw [lun, successes, if_pos first, successes, if_pos second]
    rfl

end Pdx215.Gpt.UfsBsg
