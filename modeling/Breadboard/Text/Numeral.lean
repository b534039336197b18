/-! # Decimal numerals of 64-bit integers

A numeral is a run of decimal digits, perhaps after one sign; leading zeros do not matter. `denoted?` gives the
integer that it denotes, `read?` the 64-bit integer, if it is one, and `written` prints without a plus sign or
leading zeros. Main statements: `read?_eq_some_iff` and `read?_written`.
-/

namespace Breadboard.Text.Numeral

/-- One or more decimal digits. -/
def isDigits (text : List Char) : Bool :=
  !text.isEmpty && text.all Char.isDigit

def ofDigits? (text : List Char) : Option Nat :=
  if isDigits text then some (Nat.ofDigitChars 10 text 0) else none

/-- The integer that a numeral denotes, however large. -/
def denoted? : List Char → Option Int
  | '-' :: digits => (ofDigits? digits).map fun n => -(n : Int)
  | '+' :: digits => (ofDigits? digits).map fun n => (n : Int)
  | digits => (ofDigits? digits).map fun n => (n : Int)

/-- The 64-bit integer of this value. -/
def toInt64? (n : Int) : Option Int64 :=
  if Int64.minValue.toInt ≤ n ∧ n ≤ Int64.maxValue.toInt then some (Int64.ofInt n) else none

def read? (text : String) : Option Int64 :=
  (denoted? text.toList).bind toInt64?

def written (n : Int64) : String :=
  n.toInt.repr

/-- An integer has 64 bits exactly when it is the value of some. -/
theorem toInt64?_eq_some_iff {n : Int} {value : Int64} : toInt64? n = some value ↔ value.toInt = n := by
  unfold toInt64?
  split
  next bounds =>
    simp only [Option.some.injEq]
    constructor
    · rintro rfl
      exact Int64.toInt_ofInt_of_le bounds.1 (Int.lt_of_le_sub_one bounds.2)
    · rintro rfl
      exact Int64.ofInt_toInt value
  next outside =>
    simp only [reduceCtorEq, false_iff]
    rintro rfl
    exact outside ⟨Int64.minValue_le_toInt value, Int64.toInt_le value⟩

/-- A text is read as the number that it denotes, if that has 64 bits. -/
theorem read?_eq_some_iff {text : String} {value : Int64} :
    read? text = some value ↔ denoted? text.toList = some value.toInt := by
  simp [read?, Option.bind_eq_some_iff, toInt64?_eq_some_iff]

/-- A natural number is written in digits. -/
theorem isDigits_toDigits (n : Nat) : isDigits (Nat.toDigits 10 n) = true := by
  have nonempty : (Nat.toDigits 10 n).isEmpty = false := by
    cases shape : Nat.toDigits 10 n with
    | nil => exact absurd shape (Nat.toDigits_ne_nil)
    | cons => rfl
  simp only [isDigits, nonempty, Bool.not_false, Bool.true_and, List.all_eq_true]
  exact fun c member => Nat.isDigit_of_mem_toDigits (by decide) (by decide) member

/-- A natural number is read back from its digits. -/
theorem ofDigits?_toDigits (n : Nat) : ofDigits? (Nat.toDigits 10 n) = some n := by
  simp [ofDigits?, isDigits_toDigits, Nat.ofDigitChars_toDigits]

/-- Digits alone denote the number they spell. -/
theorem denoted?_of_isDigits {text : List Char} (digits : isDigits text = true) :
    denoted? text = some (Nat.ofDigitChars 10 text 0 : Int) := by
  cases text with
  | nil => simp [isDigits] at digits
  | cons c rest =>
    have first : c.isDigit = true := by
      simp only [isDigits, List.all_cons, Bool.and_eq_true] at digits
      exact digits.2.1
    unfold denoted?
    split
    next shape => cases shape; exact absurd first (by decide)
    next shape => cases shape; exact absurd first (by decide)
    next => simp [ofDigits?, digits]

/-- An integer is read back from how it is written. -/
theorem denoted?_repr (n : Int) : denoted? n.repr.toList = some n := by
  cases n with
  | ofNat n =>
    change denoted? n.repr.toList = _
    rw [Nat.toList_repr, denoted?_of_isDigits (isDigits_toDigits n), Nat.ofDigitChars_toDigits] <;> simp
  | negSucc n =>
    change denoted? ("-" ++ n.succ.repr).toList = _
    rw [String.toList_append, Nat.toList_repr]
    change (ofDigits? (Nat.toDigits 10 n.succ)).map (fun n => -(n : Int)) = _
    rw [ofDigits?_toDigits]
    rfl

/-- A printed integer reads back as itself. -/
theorem read?_written (n : Int64) : read? (written n) = some n :=
  read?_eq_some_iff.mpr (denoted?_repr n.toInt)

end Breadboard.Text.Numeral
