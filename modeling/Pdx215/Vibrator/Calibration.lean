import Pdx215.Lib.Istream
import Pdx215.Vibrator.Uninitialised

/-! Where `HwCal` has its answers from: two numbers of the TA partition, which `HwCalBase` reads into a buffer on the
stack, keeps as texts and reads from these again, the properties, and defaults. -/
namespace Pdx215.Vibrator

open Istream Fields

/-! ### The TA partition -/

/-- What the two functions of `libmiscta.so` answer for a unit: the first one reports its size. A read that fails may
have stored the beginning of what it was asked for. -/
structure TaUnit where
  sizeError : Int
  size : BitVec 32
  readError : Int
  broken : Nat
  content : Nat → BitVec 8

/-- What `miscta_read_unit` stores when it is told a size. -/
def TaUnit.fill (u : TaUnit) (size : BitVec 32) : List (BitVec 8) :=
  (List.range (if u.readError = 0 then size.toNat else min u.broken size.toNat)).map u.content

/-- It is told the size of the unit and not that of the buffer. -/
def TaUnit.stored (u : TaUnit) : List (BitVec 8) := u.fill u.size

structure MiscTa where
  hasGetUnitSize : Bool
  hasReadUnit : Bool
  unit : Nat → TaUnit

structure Buffer where
  bytes : Nat → BitVec 8

def Buffer.store (b : Buffer) (off : Nat) (content : List (BitVec 8)) : Buffer where
  bytes := fun i => if off ≤ i then content[i - off]?.getD (b.bytes i) else b.bytes i

/-- `dat[i]`, with its lowest byte first. -/
def Buffer.int32 (b : Buffer) (i : Nat) : BitVec 32 :=
  b.bytes (4 * i + 3) ++ b.bytes (4 * i + 2) ++ b.bytes (4 * i + 1) ++ b.bytes (4 * i)

/-- `int32_t dat[6]`. -/
def datSize : Nat := 24

def readUnit (ta : MiscTa) (unit off : Nat) (b : Buffer) : Int × Buffer :=
  if (ta.unit unit).sizeError ≠ 0 then ((ta.unit unit).sizeError, b)
  else ((ta.unit unit).readError, b.store off (ta.unit unit).stored)

/-- The units that are read and where they go, one after the other. -/
def taUnits : List (Nat × Nat) := [(4730, 0), (4731, 8), (4732, 16), (4733, 20)]

def readUnits (ta : MiscTa) : List (Nat × Nat) → Buffer → Int × Buffer
  | [], b => (0, b)
  | (unit, off) :: units, b =>
    let read := readUnit ta unit off b
    if read.1 ≠ 0 then read else readUnits ta units read.2

def cirrusMiscTaRead (ta : MiscTa) (b : Buffer) : Int × Buffer := readUnits ta taUnits b

/-! ### Calibration data -/

def isBlank (c : Char) : Bool := c == ' ' || c == '\t'

def trim (text : String) : String :=
  String.ofList ((text.toList.dropWhile isBlank).reverse.dropWhile isBlank).reverse

/-- `mCalData`. -/
abbrev CalData := String → Option String

/-- The constructor, with the library if it can be loaded. -/
def hwCalBase (ta : Option MiscTa) (b : Buffer) : CalData :=
  match ta with
  | none => fun _ => none
  | some ta =>
    if !ta.hasGetUnitSize then fun _ => none
    else if !ta.hasReadUnit then fun _ => none
    else
      let read := cirrusMiscTaRead ta b
      if read.1 = 0 then
        let calData : CalData := Function.update (fun _ => none) (trim "f0_measured")
          (some (trim (toString (read.2.int32 5).toInt)))
        Function.update calData (trim "redc_measured") (some (trim (toString (read.2.int32 4).toInt)))
      else fun _ => none

/-- The numbers that a text starts with, if it is not longer than they are. -/
def CalData.getPersist (calData : CalData) (key : String) (olds : List (BitVec 32)) : Option (List (BitVec 32)) :=
  match calData key with
  | none => none
  | some text =>
    let read := (Stream.ofString text).extractAll olds
    if read.2.fail || !read.2.eof then none else some read.1

/-- What `GetIntProperty`, `ParseFloat` and `GetBoolProperty` make of the text of a property. -/
structure Properties where
  int : String → Option Int
  float : String → Option Rat
  bool : String → Option Bool

/-- No one assigns it. -/
def mPropertyPrefix : String := ""

def versionDefault : BitVec 32 := 1

def qIndexToFixed : BitVec 32 := 98304

def qIndexOffset : BitVec 32 := 131072

def qDefault : BitVec 32 := 1015808

def vLevelsDefault : List (BitVec 32) := [60, 70, 80, 90, 100, 100]

def vTickDefault : List (BitVec 32) := [10, 70]

def vCtickDefault : List (BitVec 32) := [10, 70]

def vLongDefault : List (BitVec 32) := [10, 70]

structure HwCal where
  mCalData : CalData
  properties : Properties

namespace HwCal

variable (cal : HwCal)

def number (key : String) : Option (BitVec 32) := (cal.mCalData.getPersist key [0]).map fun values => values.headD 0

def levels (key : String) (defaults : List (BitVec 32)) : List (BitVec 32) :=
  (cal.mCalData.getPersist key (List.replicate defaults.length 0)).getD defaults

def getVersion : BitVec 32 := (cal.number "version").getD versionDefault

def getF0 : Option (BitVec 32) := cal.number "f0_measured"

def getRedc : Option (BitVec 32) := cal.number "redc_measured"

def getQ : BitVec 32 :=
  match cal.number "q_measured" with
  | some q => q
  | none =>
    match cal.number "q_index" with
    | some index => index * qIndexToFixed + qIndexOffset
    | none => qDefault

def getVolLevels : List (BitVec 32) := cal.levels "v_levels" vLevelsDefault

def pair (values : List (BitVec 32)) : VolLevels := ⟨values[0]?.getD 0, values[1]?.getD 0⟩

def getTickVolLevels : VolLevels := pair (cal.levels "v_tick" vTickDefault)

def getClickVolLevels : VolLevels := pair (cal.levels "v_click" vCtickDefault)

def getLongVolLevels : VolLevels := pair (cal.levels "v_long" vLongDefault)

def getLongFrequencyShift : Int := (cal.properties.int (mPropertyPrefix ++ "long.frequency.shift")).getD 0

def getDeviceMass : Rat := (cal.properties.float (mPropertyPrefix ++ "device.mass")).getD (21 / 100)

def getLocCoeff : Rat := (cal.properties.float (mPropertyPrefix ++ "loc.coeff")).getD (1 / 2)

def isChirpEnabled : Bool := (cal.properties.bool (mPropertyPrefix ++ "chirp.enabled")).getD false

def setup (hw : Setup) : Setup :=
  { hw with
    f0 := cal.getF0
    redc := cal.getRedc
    longFrequencyShift := cal.getLongFrequencyShift
    calVer := cal.getVersion
    volLevels := fun i => cal.getVolLevels[i]?.getD 0
    tickVolLevels := some cal.getTickVolLevels
    clickVolLevels := some cal.getClickVolLevels
    longVolLevels := some cal.getLongVolLevels
    deviceMass := cal.getDeviceMass
    locCoeff := cal.getLocCoeff
    isChirpEnabled := cal.isChirpEnabled }

end HwCal

/-! ### The buffer -/

def TaUnit.Readable (u : TaUnit) : Prop := u.sizeError = 0 ∧ u.readError = 0

def storeAll (ta : MiscTa) (units : List (Nat × Nat)) (b : Buffer) : Buffer :=
  units.foldl (fun b u => b.store u.2 (ta.unit u.1).stored) b

/-- The unit has something to store at this byte. -/
def Covers (ta : MiscTa) (i : Nat) (u : Nat × Nat) : Prop := u.2 ≤ i ∧ i < u.2 + (ta.unit u.1).stored.length

theorem readUnit_error {ta : MiscTa} {unit off : Nat} {b : Buffer} :
    (readUnit ta unit off b).1 = 0 ↔ (ta.unit unit).Readable := by
  unfold readUnit TaUnit.Readable
  split
  · rename_i unknown
    simp [unknown]
  · rename_i known
    simp [not_not.mp known]

theorem readUnit_of_readable {ta : MiscTa} {unit off : Nat} {b : Buffer} (readable : (ta.unit unit).Readable) :
    readUnit ta unit off b = (0, b.store off (ta.unit unit).stored) := by
  unfold readUnit
  rw [if_neg (not_not.mpr readable.1), readable.2]

theorem readUnits_of_readable {ta : MiscTa} {units : List (Nat × Nat)} (b : Buffer)
    (readable : ∀ u ∈ units, (ta.unit u.1).Readable) : readUnits ta units b = (0, storeAll ta units b) := by
  induction units generalizing b with
  | nil => rfl
  | cons u units ih =>
    obtain ⟨here, later⟩ := List.forall_mem_cons.mp readable
    simp only [readUnits, readUnit_of_readable here, ne_eq, not_true_eq_false, if_false, ih _ later]
    rfl

theorem readUnits_error {ta : MiscTa} {units : List (Nat × Nat)} (b : Buffer) :
    (readUnits ta units b).1 = 0 ↔ ∀ u ∈ units, (ta.unit u.1).Readable := by
  induction units generalizing b with
  | nil => simp [readUnits]
  | cons u units ih =>
    rw [List.forall_mem_cons, ← @readUnit_error ta u.1 u.2 b]
    simp only [readUnits]
    split
    · rename_i failed
      simp [failed]
    · rename_i fine
      rw [ih, not_not.mp fine]
      simp

theorem store_bytes (b : Buffer) {off i : Nat} {content : List (BitVec 8)} (outside : ¬ (off ≤ i ∧ i < off + content.length)) :
    (b.store off content).bytes i = b.bytes i := by
  simp only [Buffer.store]
  split
  · rw [List.getElem?_eq_none (by omega), Option.getD_none]
  · rfl

theorem store_bytes_covered (b : Buffer) {off i : Nat} {content : List (BitVec 8)} (reached : off ≤ i)
    (inside : i < off + content.length) : (b.store off content).bytes i = content.getD (i - off) 0 := by
  have within : i - off < content.length := by omega
  simp only [Buffer.store, if_pos reached, List.getElem?_eq_getElem within, Option.getD_some, List.getD_eq_getElem?_getD]

theorem store_congr {b b' : Buffer} {off i : Nat} {content : List (BitVec 8)} (same : b.bytes i = b'.bytes i) :
    (b.store off content).bytes i = (b'.store off content).bytes i := by
  simp only [Buffer.store, same]

theorem storeAll_congr {ta : MiscTa} {units : List (Nat × Nat)} {b b' : Buffer} {i : Nat}
    (same : b.bytes i = b'.bytes i) : (storeAll ta units b).bytes i = (storeAll ta units b').bytes i := by
  induction units generalizing b b' with
  | nil => exact same
  | cons u units ih => exact ih (store_congr same)

theorem storeAll_uncovered {ta : MiscTa} {units : List (Nat × Nat)} {i : Nat} (b : Buffer)
    (uncovered : ∀ u ∈ units, ¬ Covers ta i u) : (storeAll ta units b).bytes i = b.bytes i := by
  induction units generalizing b with
  | nil => rfl
  | cons u units ih =>
    obtain ⟨here, later⟩ := List.forall_mem_cons.mp uncovered
    exact (ih _ later).trans (store_bytes b here)

/-- What a unit has stored does not depend on what was there before. -/
theorem storeAll_covered {ta : MiscTa} {units : List (Nat × Nat)} {i : Nat} (b b' : Buffer)
    (covered : ∃ u ∈ units, Covers ta i u) : (storeAll ta units b).bytes i = (storeAll ta units b').bytes i := by
  induction units generalizing b b' with
  | nil => simp at covered
  | cons u units ih =>
    simp only [List.mem_cons, exists_eq_or_imp] at covered
    rcases covered with here | later
    · have same : (b.store u.2 (ta.unit u.1).stored).bytes i = (b'.store u.2 (ta.unit u.1).stored).bytes i := by
        rw [store_bytes_covered b here.1 here.2, store_bytes_covered b' here.1 here.2]
      exact @storeAll_congr ta units _ _ i same
    · exact ih _ _ later

def calledFor (ta : MiscTa) : List (Nat × Nat) → List (Nat × Nat)
  | [] => []
  | u :: units =>
    if (ta.unit u.1).sizeError ≠ 0 then []
    else if (ta.unit u.1).readError ≠ 0 then [u]
    else u :: calledFor ta units

theorem forall_calledFor_cons {ta : MiscTa} {u : Nat × Nat} {units : List (Nat × Nat)} {p : Nat × Nat → Prop} :
    (∀ v ∈ calledFor ta (u :: units), p v) ↔
      ((ta.unit u.1).sizeError = 0 → p u) ∧ ((ta.unit u.1).Readable → ∀ v ∈ calledFor ta units, p v) := by
  unfold TaUnit.Readable
  by_cases unknown : (ta.unit u.1).sizeError ≠ 0
  · simp [calledFor, unknown]
  by_cases failed : (ta.unit u.1).readError ≠ 0
  · simp [calledFor, not_not.mp unknown, failed]
  simp [calledFor, not_not.mp unknown, not_not.mp failed]

theorem readUnits_eq (ta : MiscTa) (units : List (Nat × Nat)) (b : Buffer) :
    (readUnits ta units b).2 = storeAll ta (calledFor ta units) b := by
  induction units generalizing b with
  | nil => rfl
  | cons u units ih =>
    by_cases unknown : (ta.unit u.1).sizeError ≠ 0
    · simp [readUnits, readUnit, calledFor, unknown, storeAll]
    by_cases failed : (ta.unit u.1).readError ≠ 0
    · simp [readUnits, readUnit, calledFor, unknown, failed, storeAll]
    have read := @readUnit_of_readable ta u.1 u.2 b ⟨not_not.mp unknown, not_not.mp failed⟩
    simp only [readUnits, read, calledFor, if_neg unknown, if_neg failed, ne_eq, not_true_eq_false, if_false, ih]
    rfl

theorem readUnits_keeps_iff (ta : MiscTa) (units : List (Nat × Nat)) (i : Nat) :
    (∀ b, (readUnits ta units b).2.bytes i = b.bytes i) ↔ ∀ u ∈ calledFor ta units, ¬ Covers ta i u := by
  simp only [readUnits_eq]
  constructor
  · intro keeps u called covers
    -- what is stored cannot be both the zero and the one that were there
    have same := storeAll_covered ⟨fun _ => 0⟩ ⟨fun _ => 1⟩ ⟨u, called, covers⟩
    rw [keeps, keeps] at same
    exact absurd (show (0 : BitVec 8) = 1 from same) (by decide)
  · intro uncovered b
    exact storeAll_uncovered b uncovered

theorem TaUnit.length_stored (u : TaUnit) :
    u.stored.length = if u.readError = 0 then u.size.toNat else min u.broken u.size.toNat := by
  rw [stored, fill, List.length_map, List.length_range]

theorem TaUnit.Readable.length_stored {u : TaUnit} (readable : u.Readable) : u.stored.length = u.size.toNat := by
  rw [TaUnit.length_stored, if_pos readable.2]

theorem calledFor_subset (ta : MiscTa) (units : List (Nat × Nat)) : ∀ u ∈ calledFor ta units, u ∈ units := by
  induction units with
  | nil => exact fun u called => called
  | cons u units ih =>
    rw [forall_calledFor_cons]
    exact ⟨fun _ => List.mem_cons_self, fun _ v called => List.mem_cons_of_mem u (ih v called)⟩

theorem cirrusMiscTaRead_keeps_iff (ta : MiscTa) :
    (∀ b i, datSize ≤ i → (cirrusMiscTaRead ta b).2.bytes i = b.bytes i) ↔
      ∀ u ∈ calledFor ta taUnits, u.2 + (ta.unit u.1).stored.length ≤ datSize := by
  have starts : ∀ u ∈ taUnits, u.2 ≤ datSize := by decide
  have keeps_iff (i : Nat) := readUnits_keeps_iff ta taUnits i
  constructor
  · intro keeps u called
    have apart := (keeps_iff datSize).mp (fun b => keeps b datSize (Nat.le_refl _)) u called
    have start := starts u (calledFor_subset ta taUnits u called)
    unfold Covers at apart
    omega
  · intro fits b i behind
    refine (keeps_iff i).mpr (fun u called covers => ?_) b
    have fit := fits u called
    have reach := covers.2
    omega

/-- The size that the library reports for a unit is passed on and not compared with the room in `dat`. The memory
behind it stays as it is, whatever it holds, exactly if each unit that is reached stores no more than there is room for;
if all of them can be read, if their sizes are at most 24, 16, 8 and 4. -/
theorem cirrusMiscTaRead_within_iff (ta : MiscTa) :
    ((∀ b i, datSize ≤ i → (cirrusMiscTaRead ta b).2.bytes i = b.bytes i) ↔
      ((ta.unit 4730).sizeError = 0 → (ta.unit 4730).stored.length ≤ 24) ∧
      ((ta.unit 4730).Readable → (ta.unit 4731).sizeError = 0 → (ta.unit 4731).stored.length ≤ 16) ∧
      ((ta.unit 4730).Readable → (ta.unit 4731).Readable → (ta.unit 4732).sizeError = 0 →
        (ta.unit 4732).stored.length ≤ 8) ∧
      ((ta.unit 4730).Readable → (ta.unit 4731).Readable → (ta.unit 4732).Readable → (ta.unit 4733).sizeError = 0 →
        (ta.unit 4733).stored.length ≤ 4)) ∧
    ((∀ u ∈ taUnits, (ta.unit u.1).Readable) →
      ((∀ b i, datSize ≤ i → (cirrusMiscTaRead ta b).2.bytes i = b.bytes i) ↔
        (ta.unit 4730).size.toNat ≤ 24 ∧ (ta.unit 4731).size.toNat ≤ 16 ∧ (ta.unit 4732).size.toNat ≤ 8 ∧
          (ta.unit 4733).size.toNat ≤ 4)) := by
  have room (k : Nat) {off n : Nat} (rest : off + k = datSize) : off + n ≤ datSize ↔ n ≤ k := by omega
  rw [cirrusMiscTaRead_keeps_iff, taUnits]
  simp only [forall_calledFor_cons, room 24 (show 0 + 24 = datSize from rfl), room 16 (show 8 + 16 = datSize from rfl),
    room 8 (show 16 + 8 = datSize from rfl), room 4 (show 20 + 4 = datSize from rfl)]
  constructor
  · simp [calledFor, imp_and]
  · intro readable
    have one := readable (4730, 0) (by decide)
    have two := readable (4731, 8) (by decide)
    have three := readable (4732, 16) (by decide)
    have four := readable (4733, 20) (by decide)
    simp [calledFor, one, two, three, one.1, two.1, three.1, four.1, one.length_stored, two.length_stored,
      three.length_stored, four.length_stored]

theorem append_inj {v w : Nat} {x x' : BitVec v} {y y' : BitVec w} (same : x ++ y = x' ++ y') : x = x' ∧ y = y' := by
  have high := congrArg (BitVec.extractLsb' w v) same
  have low := congrArg (BitVec.extractLsb' 0 w) same
  simp only [BitVec.extractLsb'_append_eq_left, BitVec.extractLsb'_append_eq_right] at high low
  exact ⟨high, low⟩

theorem int32_bytes {b b' : Buffer} {j : Nat} (same : b.int32 j = b'.int32 j) {k : Nat} (small : k < 4) :
    b.bytes (4 * j + k) = b'.bytes (4 * j + k) := by
  obtain ⟨upper, byte0⟩ := append_inj same
  obtain ⟨upper, byte1⟩ := append_inj upper
  obtain ⟨byte3, byte2⟩ := append_inj upper
  obtain rfl | rfl | rfl | rfl : k = 0 ∨ k = 1 ∨ k = 2 ∨ k = 3 := by omega
  · exact byte0
  · exact byte1
  · exact byte2
  · exact byte3

theorem int32_congr {b b' : Buffer} {j : Nat} (same : ∀ k < 4, b.bytes (4 * j + k) = b'.bytes (4 * j + k)) :
    b.int32 j = b'.int32 j := by
  have byte0 := same 0 (by decide)
  rw [Nat.add_zero] at byte0
  simp only [Buffer.int32, byte0, same 1 (by decide), same 2 (by decide), same 3 (by decide)]

def word (content : List (BitVec 8)) : BitVec 32 :=
  content.getD 3 0 ++ content.getD 2 0 ++ content.getD 1 0 ++ content.getD 0 0

/-! ### What is kept of the buffer -/

theorem trim_eq {text : String} (plain : ∀ c ∈ text.toList, isBlank c = false) : trim text = text := by
  have keeps {l : List Char} (plain : ∀ c ∈ l, isBlank c = false) : l.dropWhile isBlank = l := by
    cases l with
    | nil => rfl
    | cons c l => exact List.dropWhile_cons_of_neg (by rw [plain c List.mem_cons_self]; decide)
  unfold trim
  rw [keeps plain, keeps (fun c here => plain c (List.mem_reverse.mp here)), List.reverse_reverse, String.ofList_toList]

theorem trim_toString (i : Int) : trim (toString i) = toString i := by
  refine trim_eq fun c here => ?_
  by_contra blank
  simp only [isBlank, Bool.not_eq_false, Bool.or_eq_true, beq_iff_eq] at blank
  rcases blank with rfl | rfl
  · exact not_mem_toString_int (by decide) (by decide) i here
  · exact not_mem_toString_int (by decide) (by decide) i here

/-- A signed number of 32 bits that is printed comes back as the same bits. -/
theorem extract_int32 (x : BitVec 32) (old : BitVec 32) :
    (Stream.ofString (toString x.toInt)).extract old = (x, ⟨[], true, false⟩) := by
  have fits : x.toInt.natAbs < 2 ^ 32 := by
    have lower := @BitVec.le_toInt 32 x
    have upper := @BitVec.toInt_lt 32 x
    omega
  rw [extract_toString fits, BitVec.ofInt_toInt]

theorem number_of_text {cal : HwCal} {key : String} {x : BitVec 32}
    (text : cal.mCalData key = some (trim (toString x.toInt))) : cal.number key = some x := by
  simp only [HwCal.number, CalData.getPersist, text, trim_toString, Stream.extractAll, extract_int32]
  rfl

def Readable (ta : Option MiscTa) : Prop :=
  ∃ lib, ta = some lib ∧ lib.hasGetUnitSize = true ∧ lib.hasReadUnit = true ∧
    ∀ u ∈ taUnits, (lib.unit u.1).Readable

theorem hwCalBase_of_readable {lib : MiscTa} (b : Buffer) (size : lib.hasGetUnitSize = true)
    (read : lib.hasReadUnit = true) (units : ∀ u ∈ taUnits, (lib.unit u.1).Readable) :
    hwCalBase (some lib) b = Function.update
      (Function.update (fun _ => none) "f0_measured" (some (trim (toString ((storeAll lib taUnits b).int32 5).toInt))))
      "redc_measured" (some (trim (toString ((storeAll lib taUnits b).int32 4).toInt))) := by
  have keys : trim "f0_measured" = "f0_measured" ∧ trim "redc_measured" = "redc_measured" := by decide
  simp only [hwCalBase, size, read, cirrusMiscTaRead, readUnits_of_readable b units, keys.1, keys.2]
  rfl

theorem hwCalBase_of_not_readable {ta : Option MiscTa} (b : Buffer) (unreadable : ¬ Readable ta) :
    hwCalBase ta b = fun _ => none := by
  unfold hwCalBase
  cases ta with
  | none => rfl
  | some lib =>
    simp only
    split
    · rfl
    split
    · rfl
    split
    · rename_i size read done
      refine absurd ?_ unreadable
      refine ⟨lib, rfl, by simpa using size, by simpa using read, ?_⟩
      exact (readUnits_error b).mp done
    · rfl

theorem getF0_of_readable {lib : MiscTa} {properties : Properties} (b : Buffer) (size : lib.hasGetUnitSize = true)
    (read : lib.hasReadUnit = true) (units : ∀ u ∈ taUnits, (lib.unit u.1).Readable) :
    (HwCal.mk (hwCalBase (some lib) b) properties).getF0 = some ((storeAll lib taUnits b).int32 5) := by
  refine number_of_text ?_
  simp [hwCalBase_of_readable b size read units]

theorem getRedc_of_readable {lib : MiscTa} {properties : Properties} (b : Buffer) (size : lib.hasGetUnitSize = true)
    (read : lib.hasReadUnit = true) (units : ∀ u ∈ taUnits, (lib.unit u.1).Readable) :
    (HwCal.mk (hwCalBase (some lib) b) properties).getRedc = some ((storeAll lib taUnits b).int32 4) := by
  refine number_of_text ?_
  simp [hwCalBase_of_readable b size read units]

/-- The calibration data does not depend on what was on the stack exactly if, where the units can be read, together
they store all bytes of the two numbers that are kept. -/
theorem hwCalBase_determined_iff (ta : Option MiscTa) :
    (∀ b b', hwCalBase ta b = hwCalBase ta b') ↔
      ∀ lib, ta = some lib → Readable ta → ∀ i, 16 ≤ i → i < 24 → ∃ u ∈ taUnits, Covers lib i u := by
  constructor
  · rintro same lib rfl ⟨_, ⟨⟩, size, read, units⟩ i lower upper
    by_contra uncovered
    push Not at uncovered
    -- the two numbers, read from a buffer of zeros and from one of ones
    have texts := same ⟨fun _ => 0⟩ ⟨fun _ => 1⟩
    have f0 := @getF0_of_readable lib ⟨fun _ => none, fun _ => none, fun _ => none⟩ ⟨fun _ => 0⟩ size read units
    have redc := @getRedc_of_readable lib ⟨fun _ => none, fun _ => none, fun _ => none⟩ ⟨fun _ => 0⟩ size read units
    rw [texts, getF0_of_readable _ size read units] at f0
    rw [texts, getRedc_of_readable _ size read units] at redc
    have bytes : (storeAll lib taUnits ⟨fun _ => 1⟩).bytes i = (storeAll lib taUnits ⟨fun _ => 0⟩).bytes i := by
      by_cases low : i < 20
      · have byte := @int32_bytes _ _ 4 (Option.some.inj redc) (i - 16) (by omega)
        rwa [show 4 * 4 + (i - 16) = i by omega] at byte
      · have byte := @int32_bytes _ _ 5 (Option.some.inj f0) (i - 20) (by omega)
        rwa [show 4 * 5 + (i - 20) = i by omega] at byte
    rw [storeAll_uncovered _ uncovered, storeAll_uncovered _ uncovered] at bytes
    exact absurd (show (1 : BitVec 8) = 0 from bytes) (by decide)
  · intro covered b b'
    by_cases readable : Readable ta
    · obtain ⟨lib, rfl, size, read, units⟩ := id readable
      have int32 {j : Nat} (used : j = 4 ∨ j = 5) :
          (storeAll lib taUnits b).int32 j = (storeAll lib taUnits b').int32 j := by
        refine int32_congr fun k small => storeAll_covered b b' ?_
        exact covered lib rfl readable _ (by omega) (by omega)
      rw [hwCalBase_of_readable b size read units, hwCalBase_of_readable b' size read units, int32 (.inl rfl),
        int32 (.inr rfl)]
    · rw [hwCalBase_of_not_readable b readable, hwCalBase_of_not_readable b' readable]

/-! ### The construction -/

theorem store_int32 (b : Buffer) {j : Nat} {content : List (BitVec 8)} (long : 4 ≤ content.length) :
    (b.store (4 * j) content).int32 j = word content := by
  have byte (k : Nat) (small : k < 4) : (b.store (4 * j) content).bytes (4 * j + k) = content.getD k 0 := by
    rw [store_bytes_covered b (by omega) (by omega), Nat.add_sub_cancel_left]
  have byte0 := byte 0 (by decide)
  rw [Nat.add_zero] at byte0
  simp only [Buffer.int32, word, byte0, byte 1 (by decide), byte 2 (by decide), byte 3 (by decide)]

theorem storeAll_word {ta : MiscTa} (b : Buffer) :
    (4 ≤ (ta.unit 4733).stored.length → (storeAll ta taUnits b).int32 5 = word (ta.unit 4733).stored) ∧
    (4 ≤ (ta.unit 4732).stored.length → (storeAll ta taUnits b).int32 4 = word (ta.unit 4732).stored) := by
  let two := storeAll ta [(4730, 0), (4731, 8)] b
  have split : storeAll ta taUnits b = (two.store 16 (ta.unit 4732).stored).store 20 (ta.unit 4733).stored := rfl
  rw [split]
  refine ⟨fun long => store_int32 (j := 5) _ long, fun long => ?_⟩
  -- the last unit is stored behind this number
  have before : ((two.store 16 (ta.unit 4732).stored).store 20 (ta.unit 4733).stored).int32 4 =
      (two.store 16 (ta.unit 4732).stored).int32 4 :=
    int32_congr fun k small => store_bytes _ (by omega)
  exact before.trans (store_int32 (j := 4) two long)

theorem hwCalBase_other {ta : Option MiscTa} {b : Buffer} {key : String} (f0 : key ≠ "f0_measured")
    (redc : key ≠ "redc_measured") : hwCalBase ta b key = none := by
  by_cases readable : Readable ta
  · obtain ⟨lib, rfl, size, read, units⟩ := readable
    rw [hwCalBase_of_readable b size read units, Function.update_of_ne redc, Function.update_of_ne f0]
  · rw [hwCalBase_of_not_readable b readable]

theorem setup_levels {ta : Option MiscTa} {b : Buffer} {properties : Properties} (hw : Setup) :
    let setup := (HwCal.mk (hwCalBase ta b) properties).setup hw
    setup.calVer = 1 ∧ setup.clickLevels = ⟨50, 100⟩ ∧ setup.volLevels 5 = 100 := by
  have absent {key : String} (f0 : key ≠ "f0_measured") (redc : key ≠ "redc_measured") (olds : List (BitVec 32)) :
      (hwCalBase ta b).getPersist key olds = none := by
    rw [CalData.getPersist, hwCalBase_other f0 redc]
  have version : (HwCal.mk (hwCalBase ta b) properties).getVersion = 1 := by
    simp only [HwCal.getVersion, HwCal.number, absent (show "version" ≠ _ by decide) (by decide)]
    rfl
  have levels : (HwCal.mk (hwCalBase ta b) properties).getVolLevels = vLevelsDefault := by
    simp only [HwCal.getVolLevels, HwCal.levels, absent (show "v_levels" ≠ _ by decide) (by decide)]
    rfl
  refine ⟨version, ?_, ?_⟩
  · simp only [Setup.clickLevels, HwCal.setup, levels]
    decide +kernel
  · simp only [HwCal.setup, levels]
    rfl

section Construction

variable {response : Response} {actuator : Actuator} {hw : Setup} (memory : Object)

/-- What is read before `getCapabilities` is called stays. -/
theorem construct_calibrated :
    let x := construct response actuator hw memory
    let read := memory.calibrated actuator hw
    x.members.mResonantFrequency = read.members.mResonantFrequency ∧
      x.members.mTickEffectVol = read.members.mTickEffectVol ∧
      x.members.mClickEffectVol = read.members.mClickEffectVol ∧
      x.members.mLongEffectVol = read.members.mLongEffectVol := by
  simp only [construct_eq, finish_members, Object.prepared]
  cases hw.found with
  | none => exact ⟨rfl, rfl, rfl, rfl⟩
  | some line => exact ⟨rfl, rfl, rfl, rfl⟩

theorem finish_redc (x : Object) : (x.finish response hw).rest.mRedc = x.rest.mRedc := by
  simp only [Object.finish, Object.generateBandwidthAmplitudeMap]
  split <;> rfl

theorem construct_redc :
    (construct response actuator hw memory).rest.mRedc = (memory.calibrated actuator hw).rest.mRedc := by
  rw [construct_eq, finish_redc, Object.prepared]
  cases hw.found with
  | none => rfl
  | some line => rfl

theorem finish_map_of_redc {x : Object} (unknown : x.rest.mRedc = 0) :
    (x.finish response hw).rest.mBandwidthAmplitudeMap = [] := by
  have none : Object.bandwidthAmplitudes response { x with rest.mGenerateBandwidthAmplitudeMapDone := false }
      hw.deviceMass hw.locCoeff = none := by
    simp [Object.bandwidthAmplitudes, unknown]
  simp only [Object.finish, Object.generateBandwidthAmplitudeMap, none]

theorem construct_map_of_redc (unknown : (memory.calibrated actuator hw).rest.mRedc = 0) :
    (construct response actuator hw memory).rest.mBandwidthAmplitudeMap = [] := by
  rw [construct_eq]
  refine finish_map_of_redc ?_
  rw [Object.prepared]
  cases hw.found with
  | none => exact unknown
  | some line => exact unknown

theorem calibrated_levels (version : hw.calVer = 1) :
    let read := memory.calibrated actuator hw
    read.members.mTickEffectVol = hw.clickLevels ∧ read.members.mClickEffectVol = hw.clickLevels ∧
      read.members.mLongEffectVol = ⟨0, hw.volLevels 5⟩ := by
  simp only [Object.calibrated, Object.readVolLevels, if_pos version]
  exact ⟨rfl, rfl, rfl⟩

theorem calibrated_frequency :
    (memory.calibrated actuator hw).members.mResonantFrequency = (hw.f0.map fun f0 => (f0.toNat : Rat) / 2 ^ 14).getD
      resonantFrequencyDefault := by
  simp only [Object.calibrated, Object.readVolLevels, Object.readDurations]
  split <;> cases known : hw.f0 <;> simp [Object.readCalibration, known]

theorem calibrated_redc : (memory.calibrated actuator hw).rest.mRedc = hw.redc.getD 0 := by
  simp only [Object.calibrated, Object.readVolLevels, Object.readDurations]
  split <;> rfl

end Construction

/-- On every device the levels are the same. The resonant frequency and the resistance are those of the TA partition if
its units can be read, and then the signs that their texts may have do not matter. Otherwise the frequency is the
default and there is no bandwidth map. -/
theorem construct_on_device (response : Response) (actuator : Actuator) (ta : Option MiscTa) (b : Buffer)
    (properties : Properties) (hw : Setup) (memory : Object) :
    let x := construct response actuator ((HwCal.mk (hwCalBase ta b) properties).setup hw) memory
    x.members.mTickEffectVol = ⟨50, 100⟩ ∧ x.members.mClickEffectVol = ⟨50, 100⟩ ∧
    x.members.mLongEffectVol = ⟨0, 100⟩ ∧
    (∀ lib, ta = some lib → Readable ta →
      (4 ≤ (lib.unit 4733).stored.length →
        x.members.mResonantFrequency = (word (lib.unit 4733).stored).toNat / 2 ^ 14) ∧
      (4 ≤ (lib.unit 4732).stored.length → x.rest.mRedc = word (lib.unit 4732).stored)) ∧
    (¬ Readable ta → x.members.mResonantFrequency = 145 ∧ x.rest.mRedc = 0 ∧ x.rest.mBandwidthAmplitudeMap = []) := by
  intro x
  obtain ⟨version, click, long⟩ := @setup_levels ta b properties hw
  obtain ⟨frequency, tickLevels, clickLevels, longLevels⟩ := @construct_calibrated response actuator
    ((HwCal.mk (hwCalBase ta b) properties).setup hw) memory
  obtain ⟨tickRead, clickRead, longRead⟩ := @calibrated_levels actuator _ memory version
  refine ⟨?_, ?_, ?_, ?_, ?_⟩
  · rw [tickLevels, tickRead, click]
  · rw [clickLevels, clickRead, click]
  · rw [longLevels, longRead, long]
  · rintro lib rfl ⟨_, ⟨⟩, size, read, units⟩
    have f0 : ((HwCal.mk (hwCalBase (some lib) b) properties).setup hw).f0 = some _ :=
      getF0_of_readable b size read units
    have redc : ((HwCal.mk (hwCalBase (some lib) b) properties).setup hw).redc = some _ :=
      getRedc_of_readable b size read units
    constructor
    · intro enough
      rw [frequency, calibrated_frequency, f0, (storeAll_word b).1 enough]
      rfl
    · intro enough
      rw [construct_redc, calibrated_redc, redc, (storeAll_word b).2 enough]
      rfl
  · intro unreadable
    have numbers (key : String) : (HwCal.mk (hwCalBase ta b) properties).number key = none := by
      simp only [HwCal.number, CalData.getPersist, hwCalBase_of_not_readable b unreadable]
      rfl
    have f0 : ((HwCal.mk (hwCalBase ta b) properties).setup hw).f0 = none := numbers _
    have redc : ((HwCal.mk (hwCalBase ta b) properties).setup hw).redc = none := numbers _
    have unknown : (memory.calibrated actuator ((HwCal.mk (hwCalBase ta b) properties).setup hw)).rest.mRedc = 0 := by
      rw [calibrated_redc, redc]
      rfl
    refine ⟨?_, ?_, construct_map_of_redc memory unknown⟩
    · rw [frequency, calibrated_frequency, f0]
      rfl
    · rw [construct_redc, unknown]

end Pdx215.Vibrator
