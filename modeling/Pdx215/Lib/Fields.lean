import Mathlib.Data.List.Basic

/-! Texts that consist of fields with a name, maybe a number behind it, and a value, such as `WF:4,T0:10`. -/
namespace Fields

structure Field where
  name : String
  number : Option Nat
  value : String
  deriving DecidableEq, Repr

def Field.print (f : Field) : String :=
  f.name ++ (match f.number with
    | some n => toString n
    | none => "") ++ ":" ++ f.value

def extend (text : String) (fields : List Field) : String := fields.foldl (fun text f => text ++ "," ++ f.print) text

def readNat (digits : List Char) : Option Nat := if digits = [] then none else some (Nat.ofDigitChars 10 digits 0)

def readInt (text : String) : Option Int :=
  if text.toList.head? = some '-' then (readNat text.toList.tail).map fun n => -(n : Int)
  else (readNat text.toList).map fun n => (n : Int)

def parseField (text : List Char) : Option Field :=
  match (text.dropWhile Char.isAlpha).dropWhile Char.isDigit with
  | ':' :: value => some
    { name := String.ofList (text.takeWhile Char.isAlpha)
      number := readNat ((text.dropWhile Char.isAlpha).takeWhile Char.isDigit)
      value := String.ofList value }
  | _ => none

def parse (text : String) : Option (List Field) := (text.toList.splitOn ',').mapM parseField

/-- Printed fields can be told apart. -/
structure Field.Plain (f : Field) : Prop where
  name : ∀ c ∈ f.name.toList, c.isAlpha = true
  value : ',' ∉ f.value.toList

/-! ### Numbers -/

theorem toList_toString (n : Nat) : (toString n).toList = Nat.toDigits 10 n := by
  rw [Nat.toString_eq_ofList_toDigits, String.toList_ofList]

theorem readNat_toString (n : Nat) : readNat (toString n).toList = some n := by
  rw [toList_toString, readNat, if_neg Nat.toDigits_ne_nil, Nat.ofDigitChars_ten_toDigits]

theorem isDigit_toString (n : Nat) : ∀ c ∈ (toString n).toList, c.isDigit = true := by
  intro c here
  rw [toList_toString] at here
  exact Nat.isDigit_of_mem_toDigits (by decide) (by decide) here

theorem not_mem_toString {c : Char} (other : c.isDigit = false) (n : Nat) : c ∉ (toString n).toList :=
  fun here => Bool.false_ne_true (other.symm.trans (isDigit_toString n c here))

theorem comma_not_mem_toString (n : Nat) : ',' ∉ (toString n).toList := not_mem_toString (by decide) n

theorem toList_toString_negSucc (n : Nat) : (toString (Int.negSucc n)).toList = '-' :: (toString (n + 1)).toList := by
  rw [show toString (Int.negSucc n) = "-" ++ toString (n + 1) from rfl, String.toList_append]
  rfl

theorem readInt_toString (i : Int) : readInt (toString i) = some i := by
  cases i with
  | ofNat n =>
    have unsigned : (toString (Int.ofNat n)).toList.head? ≠ some '-' :=
      fun signed => absurd (isDigit_toString n '-' (List.mem_of_mem_head? signed)) (by decide)
    rw [readInt, if_neg unsigned, show toString (Int.ofNat n) = toString n from rfl, readNat_toString]
    rfl
  | negSucc n =>
    rw [readInt, toList_toString_negSucc, List.head?_cons, if_pos rfl, List.tail_cons, readNat_toString]
    rfl

theorem not_mem_toString_int {c : Char} (other : c.isDigit = false) (unsigned : c ≠ '-') (i : Int) :
    c ∉ (toString i).toList := by
  cases i with
  | ofNat n => exact not_mem_toString other n
  | negSucc n =>
    rw [toList_toString_negSucc]
    exact List.not_mem_cons_of_ne_of_not_mem unsigned (not_mem_toString other _)

theorem comma_not_mem_toString_int (i : Int) : ',' ∉ (toString i).toList :=
  not_mem_toString_int (by decide) (by decide) i

/-! ### Fields -/

theorem span_stop {p : Char → Bool} {l rest : List Char} (all : ∀ c ∈ l, p c = true)
    (stop : ∀ c ∈ rest.head?, p c = false) : (l ++ rest).takeWhile p = l ∧ (l ++ rest).dropWhile p = rest := by
  rw [List.takeWhile_append_of_pos all, List.dropWhile_append_of_pos all]
  cases rest with
  | nil => simp
  | cons c rest =>
    have stops : ¬ p c = true := by rw [stop c rfl]; decide
    rw [List.takeWhile_cons_of_neg stops, List.dropWhile_cons_of_neg stops, List.append_nil]
    exact ⟨rfl, rfl⟩

theorem isAlpha_of_isDigit {c : Char} (digit : c.isDigit = true) : c.isAlpha = false := by
  have digits : c.isDigit = (decide (48 ≤ c.val) && decide (c.val ≤ 57)) := rfl
  have alpha : c.isAlpha = (decide (65 ≤ c.val ∧ c.val ≤ 90) || decide (97 ≤ c.val) && decide (c.val ≤ 122)) := rfl
  rw [digits] at digit
  rw [alpha]
  grind

def numberChars : Option Nat → List Char
  | some n => (toString n).toList
  | none => []

theorem toList_print (f : Field) :
    f.print.toList = f.name.toList ++ (numberChars f.number ++ ':' :: f.value.toList) := by
  obtain ⟨name, number, value⟩ := f
  cases number <;> simp [Field.print, numberChars]

theorem isDigit_numberChars (number : Option Nat) : ∀ c ∈ numberChars number, c.isDigit = true := by
  cases number with
  | none => exact fun c none => absurd none List.not_mem_nil
  | some n => exact isDigit_toString n

theorem readNat_numberChars (number : Option Nat) : readNat (numberChars number) = number := by
  cases number with
  | none => rfl
  | some n => exact readNat_toString n

theorem parseField_print {f : Field} (plain : f.Plain) : parseField f.print.toList = some f := by
  have digits := isDigit_numberChars f.number
  have colon : ∀ c ∈ (':' :: f.value.toList).head?, c.isDigit = false := by
    rintro c ⟨⟩
    decide
  have behind : ∀ c ∈ (numberChars f.number ++ ':' :: f.value.toList).head?, c.isAlpha = false := by
    intro c first
    cases chars : numberChars f.number with
    | nil =>
      rw [chars] at first
      cases first
      decide
    | cons d ds =>
      rw [chars] at first
      cases first
      exact isAlpha_of_isDigit (digits c (by rw [chars]; exact List.mem_cons_self))
  obtain ⟨name, rest⟩ := span_stop plain.name behind
  obtain ⟨number, value⟩ := span_stop digits colon
  rw [parseField, toList_print, name, rest, number, value, readNat_numberChars]
  simp

theorem comma_not_mem_print {f : Field} (plain : f.Plain) : ',' ∉ f.print.toList := by
  rw [toList_print]
  intro here
  rcases List.mem_append.mp here with name | here
  · exact absurd (plain.name ',' name) (by decide)
  rcases List.mem_append.mp here with number | here
  · exact absurd (isDigit_numberChars f.number ',' number) (by decide)
  rcases List.mem_cons.mp here with colon | value
  · exact absurd colon (by decide)
  · exact plain.value value

/-! ### Texts -/

theorem splitOn_extend (text : String) {fields : List Field} (plain : ∀ f ∈ fields, f.Plain) :
    (extend text fields).toList.splitOn ',' = text.toList.splitOn ',' ++ fields.map (·.print.toList) := by
  induction fields generalizing text with
  | nil => simp [extend]
  | cons f fields ih =>
    obtain ⟨here, later⟩ := List.forall_mem_cons.mp plain
    have step : extend text (f :: fields) = extend (text ++ "," ++ f.print) fields := rfl
    have last : f.print.toList.splitOn ',' = [f.print.toList] :=
      List.splitOn_eq_singleton (comma_not_mem_print here)
    have joined : (text ++ "," ++ f.print).toList = text.toList ++ ',' :: f.print.toList := by simp
    rw [step, ih _ later, joined, List.splitOn_append_cons_self, last, List.map_cons, List.append_assoc]
    rfl

theorem mapM_map_eq_some {α β : Type} {read : β → Option α} {print : α → β} {parts : List α}
    (back : ∀ x ∈ parts, read (print x) = some x) : (parts.map print).mapM read = some parts := by
  induction parts with
  | nil => rfl
  | cons x parts ih =>
    obtain ⟨here, later⟩ := List.forall_mem_cons.mp back
    rw [List.map_cons, List.mapM_cons, here, ih later]
    rfl

/-- The fields that are appended are read back behind those of the text. -/
theorem parse_extend {text : String} {first : List Field} (before : parse text = some first) {fields : List Field}
    (plain : ∀ f ∈ fields, f.Plain) : parse (extend text fields) = some (first ++ fields) := by
  rw [parse] at before
  have back : (fields.map (·.print.toList)).mapM parseField = some fields :=
    mapM_map_eq_some fun f here => parseField_print (plain f here)
  rw [parse, splitOn_extend text plain, List.mapM_append, before, back]
  rfl

end Fields
