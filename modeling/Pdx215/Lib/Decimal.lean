import Mathlib.Data.Int.Log
import Mathlib.Data.Rat.Floor
import Pdx215.Lib.Fields

/-! Decimal numbers with one significant digit, as a stream prints them with that precision in its default notation:
with a point from 0.0001 on, without it from 1 to 9, and otherwise with an exponent. -/
namespace Decimal

open Fields

/-! ### Rounding -/

/-- Halves go to the even neighbour. -/
def HalfDown (y : Rat) : Prop := Int.fract y < 1 / 2 ∨ Int.fract y = 1 / 2 ∧ ⌊y⌋ % 2 = 0

instance (y : Rat) : Decidable (HalfDown y) := inferInstanceAs (Decidable (_ ∨ _))

def roundHalfEven (y : Rat) : Int := if HalfDown y then ⌊y⌋ else ⌊y⌋ + 1

def exponent (q : Rat) : Int := Int.log 10 q

def mantissa (q : Rat) : Rat := q / 10 ^ exponent q

def nearest (q : Rat) : Rat := roundHalfEven (mantissa q) * 10 ^ exponent q

def RoundsDown (q : Rat) : Prop := HalfDown (mantissa q)

instance (q : Rat) : Decidable (RoundsDown q) := inferInstanceAs (Decidable (HalfDown _))

def next (q : Rat) : Rat := (⌊mantissa q⌋ + 1) * 10 ^ exponent q

theorem ten_zpow_pos (x : Int) : (0 : Rat) < 10 ^ x := zpow_pos (by decide) x

theorem mantissa_mul (q : Rat) : mantissa q * 10 ^ exponent q = q := div_mul_cancel₀ q (ten_zpow_pos _).ne'

theorem nearest_of_roundsDown {q : Rat} (down : RoundsDown q) : nearest q = ⌊mantissa q⌋ * 10 ^ exponent q := by
  have floor : roundHalfEven (mantissa q) = ⌊mantissa q⌋ := if_pos down
  rw [nearest, floor]

theorem nearest_of_not_roundsDown {q : Rat} (up : ¬ RoundsDown q) : nearest q = next q := by
  have above : roundHalfEven (mantissa q) = ⌊mantissa q⌋ + 1 := if_neg up
  rw [nearest, above, next, Int.cast_add, Int.cast_one]

/-- A number within a bound is rounded beyond it only if it is rounded up to a number beyond it. -/
theorem nearest_le_iff {q bound : Rat} (below : q ≤ bound) :
    nearest q ≤ bound ↔ RoundsDown q ∨ next q ≤ bound := by
  by_cases down : RoundsDown q
  · have smaller : nearest q ≤ q := by
      calc nearest q = ⌊mantissa q⌋ * 10 ^ exponent q := nearest_of_roundsDown down
        _ ≤ mantissa q * 10 ^ exponent q := mul_le_mul_of_nonneg_right (Int.floor_le _) (ten_zpow_pos _).le
        _ = q := mantissa_mul q
    exact iff_of_true (smaller.trans below) (.inl down)
  · rw [nearest_of_not_roundsDown down]
    exact (or_iff_right down).symm

theorem mantissa_nonneg {q : Rat} (nonneg : 0 ≤ q) : 0 ≤ mantissa q := div_nonneg nonneg (ten_zpow_pos _).le

theorem mantissa_lt_ten (q : Rat) : mantissa q < 10 := by
  have above : q < 10 ^ (exponent q + 1) := Int.lt_zpow_succ_log_self (by decide) q
  rw [zpow_add_one₀ (by decide), mul_comm] at above
  exact (div_lt_iff₀ (ten_zpow_pos _)).mpr above

theorem roundHalfEven_nonneg {y : Rat} (nonneg : 0 ≤ y) : 0 ≤ roundHalfEven y := by
  have := Int.floor_nonneg.mpr nonneg
  rw [roundHalfEven]
  split <;> omega

theorem roundHalfEven_le_ten {y : Rat} (small : y < 10) : roundHalfEven y ≤ 10 := by
  have : ⌊y⌋ < 10 := Int.floor_lt.mpr small
  rw [roundHalfEven]
  split <;> omega

/-! ### Printing -/

def printDigit (digit : Nat) (exponent : Int) : String :=
  if exponent = 0 then toString digit
  else if -4 ≤ exponent ∧ exponent < 0 then
    "0." ++ String.ofList (List.replicate (-exponent - 1).toNat '0') ++ toString digit
  else
    toString digit ++ (if exponent < 0 then "e-" else "e+") ++ (if exponent.natAbs < 10 then "0" else "") ++
      toString exponent.natAbs

def printUnsigned (q : Rat) : String :=
  let digit := (roundHalfEven (mantissa q)).toNat
  if digit = 10 then printDigit 1 (exponent q + 1) else printDigit digit (exponent q)

def print (q : Rat) : String := if q < 0 then "-" ++ printUnsigned (-q) else printUnsigned q

theorem print_zero : print 0 = "0" := by decide +kernel

theorem comma_not_mem_printDigit (digit : Nat) (exponent : Int) : ',' ∉ (printDigit digit exponent).toList := by
  have digits (n : Nat) := comma_not_mem_toString n
  have zeros (n : Nat) : ',' ∉ List.replicate n '0' := fun here => absurd (List.eq_of_mem_replicate here) (by decide)
  rw [printDigit]
  split
  · exact digits digit
  split
  · simp only [String.toList_append, String.toList_ofList, List.mem_append, not_or]
    exact ⟨⟨by decide, zeros _⟩, digits digit⟩
  · simp only [String.toList_append, List.mem_append, not_or]
    refine ⟨⟨⟨digits digit, ?_⟩, ?_⟩, digits _⟩
    · split <;> decide
    · split <;> decide

theorem comma_not_mem_print (q : Rat) : ',' ∉ (print q).toList := by
  have unsigned (q : Rat) : ',' ∉ (printUnsigned q).toList := by
    simp only [printUnsigned]
    split <;> exact comma_not_mem_printDigit _ _
  rw [print]
  split
  · rw [String.toList_append, List.mem_append, not_or]
    exact ⟨by decide, unsigned _⟩
  · exact unsigned q

/-! ### Reading -/

def readExponent : List Char → Option Int
  | [] => some 0
  | 'e' :: '+' :: digits => if digits.all Char.isDigit then (readNat digits).map fun (n : Nat) => (n : Int) else none
  | 'e' :: '-' :: digits => if digits.all Char.isDigit then (readNat digits).map fun (n : Nat) => -(n : Int) else none
  | _ => none

def scanFraction : List Char → List Char × List Char
  | '.' :: rest => (rest.takeWhile Char.isDigit, rest.dropWhile Char.isDigit)
  | rest => ([], rest)

def readUnsigned (text : List Char) : Option Rat := do
  let whole := text.takeWhile Char.isDigit
  let fraction := scanFraction (text.dropWhile Char.isDigit)
  let n ← if whole = [] then none else readNat (whole ++ fraction.1)
  let x ← readExponent fraction.2
  some (n * 10 ^ (x - fraction.1.length))

def read (text : String) : Option Rat :=
  if text.toList.head? = some '-' then (readUnsigned text.toList.tail).map fun q => -q
  else readUnsigned text.toList

theorem readNat_zero_cons {digits : List Char} {n : Nat} (known : readNat digits = some n) :
    readNat ('0' :: digits) = some n := by
  rw [readNat] at known
  split at known
  · cases known
  · exact known

/-- The digits of an exponent, at least two. -/
theorem readNat_padded (n : Nat) :
    let digits := (if n < 10 then "0" else "").toList ++ (toString n).toList
    (∀ c ∈ digits, c.isDigit = true) ∧ readNat digits = some n := by
  split
  · exact ⟨List.forall_mem_cons.mpr ⟨by decide, isDigit_toString n⟩, readNat_zero_cons (readNat_toString n)⟩
  · exact ⟨isDigit_toString n, readNat_toString n⟩

theorem readUnsigned_exponent {digits rest : List Char} {n : Nat} {x : Int} (all : ∀ c ∈ digits, c.isDigit = true)
    (known : readNat digits = some n) (power : readExponent ('e' :: rest) = some x) :
    readUnsigned (digits ++ 'e' :: rest) = some ((n : Rat) * 10 ^ x) := by
  have stop : ∀ c ∈ ('e' :: rest).head?, c.isDigit = false := by
    rintro c ⟨⟩
    decide
  obtain ⟨whole, behind⟩ := span_stop all stop
  have some : digits ≠ [] := by
    rintro rfl
    cases known
  have fraction : scanFraction ('e' :: rest) = ([], 'e' :: rest) := rfl
  simp only [readUnsigned, whole, behind, fraction, if_neg some, List.append_nil, known, power]
  simp

/-- Without an exponent there are few texts. -/
theorem readUnsigned_fixed : ((List.range 10).all fun digit => (List.range 5).all fun k =>
    readUnsigned (printDigit digit (-k)).toList == some ((digit : Rat) * 10 ^ (-k : Int))) = true := by
  decide +kernel

theorem readUnsigned_printDigit {digit : Nat} (single : digit < 10) (x : Int) :
    readUnsigned (printDigit digit x).toList = some ((digit : Rat) * 10 ^ x) := by
  by_cases fixed : -4 ≤ x ∧ x ≤ 0
  · have all := readUnsigned_fixed
    simp only [List.all_eq_true, List.mem_range, beq_iff_eq] at all
    have here := all digit single (-x).toNat (by omega)
    rwa [Int.toNat_of_nonneg (by omega), neg_neg] at here
  · obtain ⟨padded, power⟩ := readNat_padded x.natAbs
    have zero : x ≠ 0 := by omega
    have out : ¬ (-4 ≤ x ∧ x < 0) := by omega
    rw [printDigit, if_neg zero, if_neg out]
    have text : (toString digit ++ (if x < 0 then "e-" else "e+") ++ (if x.natAbs < 10 then "0" else "") ++
        toString x.natAbs).toList = (toString digit).toList ++ 'e' :: (if x < 0 then '-' else '+') ::
          ((if x.natAbs < 10 then "0" else "").toList ++ (toString x.natAbs).toList) := by
      split <;> simp
    rw [text]
    refine readUnsigned_exponent (isDigit_toString digit) (readNat_toString digit) ?_
    by_cases minus : x < 0
    · have value : -(x.natAbs : Int) = x := by omega
      simp only [if_pos minus, readExponent, if_pos (List.all_eq_true.mpr padded), power, Option.map_some, value]
    · have value : (x.natAbs : Int) = x := by omega
      simp only [if_neg minus, readExponent, if_pos (List.all_eq_true.mpr padded), power, Option.map_some, value]

theorem readUnsigned_printUnsigned {q : Rat} (nonneg : 0 ≤ q) :
    readUnsigned (printUnsigned q).toList = some (nearest q) := by
  have lower := roundHalfEven_nonneg (mantissa_nonneg nonneg)
  have upper := roundHalfEven_le_ten (mantissa_lt_ten q)
  simp only [printUnsigned]
  split
  case isTrue carried =>
    have ten : roundHalfEven (mantissa q) = 10 := by omega
    rw [readUnsigned_printDigit (by decide), nearest, ten, zpow_add_one₀ (by decide : (10 : Rat) ≠ 0)]
    push_cast
    ring_nf
  case isFalse single =>
    rw [readUnsigned_printDigit (by omega), nearest]
    have exact : ((roundHalfEven (mantissa q)).toNat : Int) = roundHalfEven (mantissa q) := Int.toNat_of_nonneg lower
    exact_mod_cast congrArg (fun d : Int => some ((d : Rat) * 10 ^ exponent q)) exact

theorem read_of_readUnsigned {text : String} {q : Rat} (known : readUnsigned text.toList = some q) :
    read text = some q := by
  have unsigned : text.toList.head? ≠ some '-' := by
    intro minus
    obtain ⟨rest, signed⟩ := List.head?_eq_some_iff.mp minus
    rw [signed] at known
    cases known
  rw [read, if_neg unsigned, known]

theorem read_print {q : Rat} (nonneg : 0 ≤ q) : read (print q) = some (nearest q) := by
  rw [print, if_neg (not_lt.mpr nonneg)]
  exact read_of_readUnsigned (readUnsigned_printUnsigned nonneg)

end Decimal
