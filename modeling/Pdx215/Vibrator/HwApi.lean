import Mathlib.Data.List.ReduceOption
import Pdx215.Lib.Istream
import Pdx215.Vibrator.Construct

/-! The files of the driver as `HwApiBase` sees them. Each has a stream, which is opened once. A stream fails if the
file is not there, and is cleared after a read and after a write that fails. The last accesses are recorded. -/
namespace Pdx215.Vibrator

open Istream

/-- A file of the driver, under its name. -/
inductive Node where
  | f0Stored
  | f0Offset
  | redcStored
  | qStored
  | activate
  | duration
  | state
  | cpTriggerDuration
  | cpTriggerIndex
  | cpTriggerQueue
  | cpDigScale
  | digScale
  | aspEnable
  | gpio1FallIndex
  | gpio1FallDigScale
  | gpio1RiseIndex
  | gpio1RiseDigScale
  | vibeState
  | numWaves
  | clabEnable
  | availablePwleSegments
  | pwle
  | pwleRampDown
  deriving DecidableEq, Repr

def Node.name : Node → String
  | .f0Stored => "device/f0_stored"
  | .f0Offset => "device/f0_offset"
  | .redcStored => "device/redc_stored"
  | .qStored => "device/q_stored"
  | .activate => "activate"
  | .duration => "duration"
  | .state => "state"
  | .cpTriggerDuration => "device/cp_trigger_duration"
  | .cpTriggerIndex => "device/cp_trigger_index"
  | .cpTriggerQueue => "device/cp_trigger_queue"
  | .cpDigScale => "device/cp_dig_scale"
  | .digScale => "device/dig_scale"
  | .aspEnable => "device/asp_enable"
  | .gpio1FallIndex => "device/gpio1_fall_index"
  | .gpio1FallDigScale => "device/gpio1_fall_dig_scale"
  | .gpio1RiseIndex => "device/gpio1_rise_index"
  | .gpio1RiseDigScale => "device/gpio1_rise_dig_scale"
  | .vibeState => "device/vibe_state"
  | .numWaves => "device/num_waves"
  | .clabEnable => "device/clab_enable"
  | .availablePwleSegments => "device/available_pwle_segments"
  | .pwle => "device/pwle"
  | .pwleRampDown => "device/pwle_ramp_down"

/-- Whether there is a file behind the stream, and whether its failbit or badbit is set. -/
structure FileStream where
  isOpen : Bool
  fail : Bool

/-- `mFunc` is the function that made the record. -/
structure Record where
  mFunc : String
  mValue : String
  mStream : Node

def Record.toString (r : Record) : String := r.mFunc ++ " '" ++ r.mStream.name ++ "' = '" ++ r.mValue ++ "'"

inductive AccessKind where
  | get
  | set
  | poll
  deriving DecidableEq, Repr

/-- An access to a file that has come to its end: a `poll` that gives up waiting does not. -/
structure Access where
  kind : AccessKind
  node : Node
  value : String

/-- `accesses` is all that has been done to the files, which the source does not keep. -/
structure HwApi where
  streams : Node → FileStream
  mRecords : List (Option Record)
  accesses : List Access

namespace HwApi

def recordsSize : Nat := 32

/-- The constructor opens all files. -/
def opened (present : Node → Bool) : HwApi where
  streams := fun n => ⟨present n, !present n⟩
  mRecords := List.replicate recordsSize none
  accesses := []

def has (h : HwApi) (n : Node) : Bool := !(h.streams n).fail

def clear (h : HwApi) (n : Node) : HwApi :=
  { h with streams := Function.update h.streams n { h.streams n with fail := false } }

def record (h : HwApi) (r : Record) : HwApi := { h with mRecords := (h.mRecords ++ [some r]).tail }

def ended (h : HwApi) (a : Access) : HwApi := { h with accesses := h.accesses ++ [a] }

/-- What `set` returns, if the driver takes the value or not. -/
def writes (h : HwApi) (n : Node) (accepted : Bool) : Bool := !(h.streams n).fail && (h.streams n).isOpen && accepted

def set (h : HwApi) (n : Node) (value : String) (accepted : Bool) : Bool × HwApi :=
  let ret := h.writes n accepted
  let h := (if ret then h else h.clear n).ended ⟨.set, n, value⟩
  (ret, h.record ⟨"set", value, n⟩)

/-- The stream at the start of the file. It is empty if the file cannot be read. -/
def text (h : HwApi) (n : Node) (content : String) : Stream :=
  ⟨if (h.streams n).isOpen then content.toList else [], false, (h.streams n).fail⟩

/-- Whether something was read, and what is in the variable then. -/
def get (h : HwApi) (n : Node) (content : String) (old : BitVec 32) : (Bool × BitVec 32) × HwApi :=
  let read := (h.text n content).extract old
  let h := (h.clear n).ended ⟨.get, n, ToString.toString read.1.toNat⟩
  ((!read.2.fail, read.1), h.record ⟨"get", ToString.toString read.1.toNat, n⟩)

def boolText (value : Bool) : String := if value then "1" else "0"

def getBool (h : HwApi) (n : Node) (content : String) (old : Bool) : (Bool × Bool) × HwApi :=
  let read := (h.text n content).extractBool old
  let h := (h.clear n).ended ⟨.get, n, boolText read.1⟩
  ((!read.2.fail, read.1), h.record ⟨"get", boolText read.1, n⟩)

/-- The loop of `poll`, with what it finds in the file each time. The wait after the last time fails. -/
def pollLoop (n : Node) (value : Bool) : HwApi → Bool → List String → Bool × HwApi
  | h, _, [] => (false, h)
  | h, actual, content :: later =>
    let read := h.getBool n content actual
    let h := read.2.ended ⟨.poll, n, boolText value⟩
    if !read.1.1 then (false, h.record ⟨"poll", boolText value, n⟩)
    else if read.1.2 = value then (true, h.record ⟨"poll", boolText value, n⟩)
    else pollLoop n value read.2 read.1.2 later

structure Poll where
  /-- `epoll_ctl` succeeds. -/
  added : Bool
  actual : Bool
  content : String
  later : List String

def poll (h : HwApi) (n : Node) (value : Bool) (p : Poll) : Bool × HwApi :=
  if !p.added then (false, h) else pollLoop n value h p.actual (p.content :: p.later)

/-- The lines of `debug` that show the records. -/
def debugRecords (h : HwApi) : List String := h.mRecords.reduceOption.map fun r => "    " ++ r.toString

end HwApi

/-! ### Accesses -/

def AccessKind.func : AccessKind → String
  | .get => "get"
  | .set => "set"
  | .poll => "poll"

/-- The line in which `debug` should show an access. -/
def Access.line (a : Access) : String :=
  "    " ++ (a.kind.func ++ " '" ++ a.node.name ++ "' = '" ++ a.value ++ "'")

def Access.record (a : Access) : Record := ⟨a.kind.func, a.value, a.node⟩

/-- What an access does to the state: its stream is good afterwards, and there is one more record. -/
def HwApi.touch (h : HwApi) (a : Access) : HwApi := ((h.clear a.node).ended a).record a.record

theorem HwApi.clear_good {h : HwApi} {n : Node} (good : (h.streams n).fail = false) : h.clear n = h := by
  have same : { h.streams n with fail := false } = h.streams n := by rw [← good]
  rw [HwApi.clear, same, Function.update_eq_self]

theorem HwApi.set_eq (h : HwApi) (n : Node) (value : String) (accepted : Bool) :
    h.set n value accepted = (h.writes n accepted, h.touch ⟨.set, n, value⟩) := by
  simp only [HwApi.set, HwApi.touch]
  by_cases ret : h.writes n accepted = true
  · have good : (h.streams n).fail = false := by
      simp only [HwApi.writes, Bool.and_eq_true, Bool.not_eq_true'] at ret
      exact ret.1.1
    rw [if_pos ret, HwApi.clear_good good]
    rfl
  · rw [if_neg ret]
    rfl

theorem HwApi.touch_again {h : HwApi} {a a' : Access} (same : a'.node = a.node) :
    ((h.touch a).ended a').record a'.record = (h.touch a).touch a' := by
  have good : ((h.touch a).streams a'.node).fail = false := by
    simp [HwApi.touch, HwApi.record, HwApi.ended, HwApi.clear, same]
  rw [HwApi.touch.eq_def (h.touch a), HwApi.clear_good good]

/-- Any number of accesses to one file. -/
inductive HwApi.Touches (n : Node) : HwApi → HwApi → Prop where
  | refl (h : HwApi) : Touches n h h
  | step {h h' : HwApi} {a : Access} (here : a.node = n) (later : Touches n (h.touch a) h') : Touches n h h'

theorem HwApi.Touches.inv {P : HwApi → Prop} {n : Node} {h h' : HwApi} (touches : HwApi.Touches n h h')
    (touch : ∀ h a, a.node = n → P h → P (h.touch a)) (now : P h) : P h' := by
  induction touches with
  | refl h => exact now
  | step here later ih => exact ih (touch _ _ here now)

theorem HwApi.get_touch (h : HwApi) (n : Node) (content : String) (old : BitVec 32) :
    ∃ a, a.node = n ∧ (h.get n content old).2 = h.touch a :=
  ⟨⟨.get, n, ToString.toString (h.get n content old).1.2.toNat⟩, rfl, rfl⟩

theorem HwApi.getBool_touch (h : HwApi) (n : Node) (content : String) (old : Bool) :
    ∃ a, a.node = n ∧ (h.getBool n content old).2 = h.touch a :=
  ⟨⟨.get, n, HwApi.boolText (h.getBool n content old).1.2⟩, rfl, rfl⟩

theorem HwApi.touches_pollLoop (n : Node) (value : Bool) (contents : List String) (h : HwApi) (actual : Bool) :
    HwApi.Touches n h (HwApi.pollLoop n value h actual contents).2 := by
  induction contents generalizing h actual with
  | nil => exact .refl h
  | cons content later ih =>
    obtain ⟨a, here, read⟩ := h.getBool_touch n content actual
    have ends : HwApi.Touches n h (((h.getBool n content actual).2.ended ⟨.poll, n, HwApi.boolText value⟩).record
        ⟨"poll", HwApi.boolText value, n⟩) := by
      have again := @HwApi.touch_again h a ⟨.poll, n, HwApi.boolText value⟩ here.symm
      rw [read]
      exact .step here (again ▸ .step rfl (.refl _))
    simp only [HwApi.pollLoop]
    split
    · exact ends
    split
    · exact ends
    · refine .step here ?_
      rw [← read]
      exact ih _ _

theorem HwApi.touches_poll (h : HwApi) (n : Node) (value : Bool) (p : HwApi.Poll) :
    HwApi.Touches n h (h.poll n value p).2 := by
  unfold HwApi.poll
  split
  · exact .refl h
  · exact HwApi.touches_pollLoop n value _ h _

/-! ### What holds after any accesses -/

def HwApi.tried (h : HwApi) (n : Node) : Bool := h.accesses.any fun a => decide (a.node = n)

/-- The streams are good of the files that are there and of those that have been tried, and the records are those of
the latest accesses. -/
structure HwApi.Sound (present : Node → Bool) (h : HwApi) : Prop where
  isOpen : ∀ n, (h.streams n).isOpen = present n
  has : ∀ n, h.has n = (present n || h.tried n)
  records : h.mRecords =
    (List.replicate HwApi.recordsSize none ++ h.accesses.map fun a : Access => some a.record).drop h.accesses.length

theorem HwApi.sound_opened (present : Node → Bool) : (HwApi.opened present).Sound present where
  isOpen := fun _ => rfl
  has := fun n => by simp [HwApi.has, HwApi.tried, HwApi.opened]
  records := by simp [HwApi.opened]

theorem HwApi.Sound.touch {present : Node → Bool} {h : HwApi} (sound : h.Sound present) (a : Access) :
    (h.touch a).Sound present where
  isOpen := by
    intro n
    by_cases here : n = a.node
    · subst here
      simpa [HwApi.touch, HwApi.record, HwApi.ended, HwApi.clear] using sound.isOpen a.node
    · simpa [HwApi.touch, HwApi.record, HwApi.ended, HwApi.clear, here] using sound.isOpen n
  has := by
    intro n
    by_cases here : n = a.node
    · subst here
      simp [HwApi.has, HwApi.tried, HwApi.touch, HwApi.record, HwApi.ended, HwApi.clear]
    · have other : a.node ≠ n := Ne.symm here
      simpa [HwApi.has, HwApi.tried, HwApi.touch, HwApi.record, HwApi.ended, HwApi.clear, here, other] using sound.has n
  records := by
    have short : h.accesses.length ≤
        (List.replicate HwApi.recordsSize none ++ h.accesses.map fun a : Access => some a.record).length := by simp
    simp only [HwApi.touch, HwApi.record, HwApi.ended, HwApi.clear, List.map_append, List.map_cons, List.map_nil,
      List.length_append, List.length_cons, List.length_nil, sound.records]
    rw [← List.append_assoc, ← List.drop_append_of_le_length short, List.tail_drop]

theorem HwApi.Sound.debugRecords {present : Node → Bool} {h : HwApi} (sound : h.Sound present) :
    h.debugRecords = (h.accesses.drop (h.accesses.length - HwApi.recordsSize)).map Access.line := by
  have older (k : Nat) : (List.replicate k (none : Option Record)).reduceOption = [] := by
    induction k with
    | zero => rfl
    | succ k ih => exact ih
  have newer (accesses : List Access) :
      (accesses.map fun a : Access => some a.record).reduceOption = accesses.map Access.record := by
    induction accesses with
    | nil => rfl
    | cons a accesses ih => rw [List.map_cons, List.reduceOption_cons_of_some, ih, List.map_cons]
  rw [HwApi.debugRecords, sound.records, List.drop_append, List.length_replicate, List.reduceOption_append,
    List.drop_replicate, older, List.nil_append, ← List.map_drop, newer, List.map_map]
  rfl

end Pdx215.Vibrator
