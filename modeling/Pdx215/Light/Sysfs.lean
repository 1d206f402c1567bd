import Mathlib.Logic.Function.Basic
import Pdx215.Lib.Total

/-! The files that the light HAL reads and writes. -/
namespace Pdx215.Light

inductive RgbLed where
  | red
  | green
  | blue
  deriving DecidableEq, Repr

/-- The files of a LED in `/sys/class/leds`. -/
inductive LedFile where
  | maxMixBrightness
  | trigger
  | brightness
  | syncBlink
  | delayOff
  | delayOn
  | breath
  deriving DecidableEq, Repr

/-- `lcd`, `lcd2`, `button` and `persistence` are `LCD_FILE`, `LCD_FILE2`, `BUTTON_FILE` and `PERSISTENCE_FILE`. -/
inductive File where
  | led (led : RgbLed) (file : LedFile)
  | lcd
  | lcd2
  | button
  | persistence
  deriving DecidableEq, Repr

inductive Contents where
  | number (value : Int)
  | word (text : String)
  deriving DecidableEq, Repr

/-- What `%d` reads. -/
def Contents.scan : Contents → Option Int
  | number value => some value
  | word _ => none

abbrev Rc := BitVec 32

structure Errno where
  value : BitVec 32
  positive : 0 < value.toInt

def Errno.rc (errno : Errno) : Rc := -errno.value

/-- `faults` is what happens to the next attempts to write a value to a file, one by one: an attempt succeeds, or
`open` or `write` fails. -/
structure Sysfs where
  files : File → Contents
  present : File → Bool
  faults : File → Contents → Nat → Option Errno

/-- The process can end in the middle of a function. -/
abbrev Hal := StateT Sysfs Option

namespace Sysfs

def tried (s : Sysfs) (file : File) (value : Contents) : Sysfs :=
  { s with faults := fun f v k => if f = file ∧ v = value then s.faults f v (k + 1) else s.faults f v k }

def store (s : Sysfs) (file : File) (value : Contents) : Sysfs :=
  { s with files := Function.update s.files file value }

def write (s : Sysfs) (file : File) (value : Contents) : Rc × Sysfs :=
  -- the file is opened, written and closed, and an attempt that fails changes nothing in it
  match s.faults file value 0 with
  | none => (0, (s.tried file value).store file value)
  | some errno => (errno.rc, s.tried file value)

end Sysfs

def writeStr (file : File) (str : String) : Hal Rc := fun s => some (s.write file (.word str))

def writeInt (file : File) (value : Int) : Hal Rc := fun s => some (s.write file (.number value))

/-- If the file cannot be opened `fclose` gets a null pointer, which ends the process. -/
def readInt (file : File) : Hal Int := fun s =>
  if s.present file then some ((s.files file).scan.getD 0xFF, s) else none

def fileExists (file : File) : Hal Bool := fun s => some (s.present file, s)

/-! ### Result codes -/

/-- The functions return 0 or a negative code. -/
def Rc.Code (rc : Rc) : Prop := rc = 0 ∨ rc.toInt < 0

theorem Errno.rc_neg (errno : Errno) : errno.rc.toInt < 0 := by
  have positive := errno.positive
  have other : errno.value ≠ BitVec.intMin 32 := by
    intro least
    rw [least] at positive
    revert positive
    decide
  rw [rc, BitVec.toInt_neg_of_ne_intMin other]
  omega

theorem Rc.ne_zero_of_neg {rc : Rc} (negative : rc.toInt < 0) : rc ≠ 0 := by
  rintro rfl
  revert negative
  decide

theorem Errno.rc_ne_zero (errno : Errno) : errno.rc ≠ 0 := Rc.ne_zero_of_neg errno.rc_neg

theorem Rc.Code.neg_iff {rc : Rc} (code : rc.Code) : rc.toInt < 0 ↔ rc ≠ 0 := by
  constructor
  · exact Rc.ne_zero_of_neg
  · intro other
    rcases code with rfl | negative
    · exact absurd rfl other
    · exact negative

theorem Rc.or_eq_zero_iff {rc rc' : Rc} : rc ||| rc' = 0 ↔ rc = 0 ∧ rc' = 0 := BitVec.or_eq_zero_iff

/-! ### Writing -/

namespace Sysfs

variable (s : Sysfs) (file : File) (value : Contents)

theorem write_rc_eq_zero_iff : (s.write file value).1 = 0 ↔ s.faults file value 0 = none := by
  unfold write
  cases s.faults file value 0 with
  | none => exact ⟨fun _ => rfl, fun _ => rfl⟩
  | some errno => exact ⟨fun zero => absurd zero errno.rc_ne_zero, fun none' => by cases none'⟩

theorem write_code : (s.write file value).1.Code := by
  unfold write
  cases s.faults file value 0 with
  | none => exact .inl rfl
  | some errno => exact .inr errno.rc_neg

theorem write_files (other : File) : (s.write file value).2.files other =
    if other = file ∧ s.faults file value 0 = none then value else s.files other := by
  unfold write
  cases s.faults file value 0 with
  | none => simp [store, tried, Function.update_apply]
  | some errno => simp [tried]

theorem write_files_self :
    (s.write file value).2.files file = if s.faults file value 0 = none then value else s.files file := by
  rw [write_files]
  simp only [true_and]

@[simp] theorem write_present : (s.write file value).2.present = s.present := by
  unfold write
  cases s.faults file value 0 with
  | none => rfl
  | some errno => rfl

theorem write_faults (other : File) (value' : Contents) (k : Nat) : (s.write file value).2.faults other value' k =
    if other = file ∧ value' = value then s.faults other value' (k + 1) else s.faults other value' k := by
  unfold write
  cases s.faults file value 0 with
  | none => rfl
  | some errno => rfl

end Sysfs

end Pdx215.Light
