import Mathlib.Algebra.Ring.Nat
import Pdx215.Lib.Fields

/-! Formatted input of unsigned numbers and truth values from a text stream. A stream that has reached its end or has
failed gives no more input. A number with a minus sign is read as well, and wraps around. -/
namespace Istream

open Fields

structure Stream where
  rest : List Char
  eof : Bool
  fail : Bool
  deriving DecidableEq, Repr

def Stream.ofString (text : String) : Stream := ⟨text.toList, false, false⟩

/-- Blank, tab, newline, vertical tab, form feed and carriage return. -/
def isSpace (c : Char) : Bool := c.val == 32 || decide (9 ≤ c.val) && decide (c.val ≤ 13)

def Stream.skipSpace (s : Stream) : Stream :=
  if s.eof || s.fail then { s with fail := true }
  else if s.rest.dropWhile isSpace = [] then ⟨[], true, true⟩
  else { s with rest := s.rest.dropWhile isSpace }

/-- Whether there is a minus sign, and what is behind the sign. -/
def scanSign : List Char → Bool × List Char
  | '-' :: rest => (true, rest)
  | '+' :: rest => (false, rest)
  | rest => (false, rest)

/-- A value that is made of the sign and the digits. The variable keeps what it has if there is no input. -/
def Stream.scan {α : Type} (convert : Bool → List Char → α × Bool) (s : Stream) (old : α) : α × Stream :=
  let s := s.skipSpace
  if s.fail then (old, s)
  else
    let sign := scanSign s.rest
    let behind := sign.2.dropWhile Char.isDigit
    let read := convert sign.1 (sign.2.takeWhile Char.isDigit)
    (read.1, ⟨behind, decide (behind = []), read.2⟩)

/-- Other numbers than 0 and 1 are true, but fail. -/
def convertBool (negative : Bool) (digits : List Char) : Bool × Bool :=
  match readNat digits with
  | none => (false, true)
  | some n => if n = 0 then (false, false) else (true, decide (n ≠ 1) || negative)

def Stream.extractBool : Stream → Bool → Bool × Stream := Stream.scan convertBool

section Numbers

variable {w : Nat}

def unsigned (negative : Bool) (n : Nat) : BitVec w := if negative then -BitVec.ofNat w n else BitVec.ofNat w n

/-- The number, and whether it is none or too large. -/
def convert (negative : Bool) (digits : List Char) : BitVec w × Bool :=
  match readNat digits with
  | none => (0, true)
  | some n => if 2 ^ w ≤ n then (BitVec.allOnes w, true) else (unsigned negative n, false)

def Stream.extract : Stream → BitVec w → BitVec w × Stream := Stream.scan convert

def Stream.extractAll (s : Stream) : List (BitVec w) → List (BitVec w) × Stream
  | [] => ([], s)
  | old :: olds =>
    let first := s.extract old
    let others := first.2.extractAll olds
    (first.1 :: others.1, others.2)

/-! ### What was printed is read back -/

theorem isSpace_of_isDigit {c : Char} (digit : c.isDigit = true) : isSpace c = false := by
  have digits : c.isDigit = (decide (48 ≤ c.val) && decide (c.val ≤ 57)) := rfl
  rw [digits] at digit
  unfold isSpace
  grind

theorem convert_toString {negative : Bool} {n : Nat} (fits : n < 2 ^ w) :
    (convert negative (toString n).toList : BitVec w × Bool) = (unsigned negative n, false) := by
  unfold convert
  rw [readNat_toString]
  exact if_neg (Nat.not_le.mpr fits)

/-- A text that is a sign, or none, and digits. -/
theorem extract_digits {text : List Char} {negative : Bool} {n : Nat} (old : BitVec w)
    (first : ∀ c ∈ text.head?, isSpace c = false) (some : text ≠ [])
    (sign : scanSign text = (negative, (toString n).toList)) (fits : n < 2 ^ w) :
    (Stream.mk text false false).extract old = (unsigned negative n, ⟨[], true, false⟩) := by
  obtain ⟨skipped, start⟩ := @span_stop isSpace [] text (by simp) first
  obtain ⟨digits, behind⟩ := @span_stop Char.isDigit (toString n).toList [] (isDigit_toString n) (by simp)
  rw [List.nil_append] at start
  rw [List.append_nil] at digits behind
  have ready : (Stream.mk text false false).skipSpace = ⟨text, false, false⟩ := by
    simp only [Stream.skipSpace, start, if_neg some, Bool.or_self, Bool.false_eq_true, if_false]
  simp only [Stream.extract, Stream.scan, ready, sign, digits, behind, convert_toString fits, Bool.false_eq_true, if_false,
    decide_true]

theorem toString_ne_nil (n : Nat) : (toString n).toList ≠ [] := by
  intro empty
  have back := readNat_toString n
  rw [empty] at back
  cases back

theorem scanSign_toString (n : Nat) : scanSign (toString n).toList = (false, (toString n).toList) := by
  cases text : (toString n).toList with
  | nil => exact absurd text (toString_ne_nil n)
  | cons c rest =>
    have digit : c.isDigit = true := isDigit_toString n c (by rw [text]; exact List.mem_cons_self)
    unfold scanSign
    split
    · rename_i same
      cases same
      exact absurd digit (by decide)
    · rename_i same
      cases same
      exact absurd digit (by decide)
    · rfl

/-- A signed number is read as an unsigned one modulo the size of the variable, and nothing is left of the text. -/
theorem extract_toString {i : Int} (fits : i.natAbs < 2 ^ w) (old : BitVec w) :
    (Stream.ofString (toString i)).extract old = (BitVec.ofInt w i, ⟨[], true, false⟩) := by
  unfold Stream.ofString
  cases i with
  | ofNat n =>
    have first : ∀ c ∈ (toString n).toList.head?, isSpace c = false := fun c here =>
      isSpace_of_isDigit (isDigit_toString n c (List.mem_of_mem_head? here))
    have read := extract_digits old first (toString_ne_nil n) (scanSign_toString n) fits
    rw [show toString (Int.ofNat n) = toString n from rfl, read]
    simp [unsigned]
  | negSucc n =>
    have read := @extract_digits w _ true (n + 1) old (by rintro c ⟨⟩; decide) (List.cons_ne_nil '-' _) rfl fits
    rw [toList_toString_negSucc, read]
    have wraps : -BitVec.ofNat w (n + 1) = BitVec.ofInt w (Int.negSucc n) := by
      rw [Int.negSucc_eq, BitVec.ofInt_neg]
      norm_cast
    simp [unsigned, wraps]

end Numbers

end Istream
