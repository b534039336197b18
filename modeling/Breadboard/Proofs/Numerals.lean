import Breadboard.Proofs.Location
import Mathlib.Tactic.Ring

/-! # Numerals and the integers they denote

`Numeral.Denotes` says of which integer a text is a numeral: each digit counts by its place, and the integer may be of any
size. A numeral reads as a 64-bit integer exactly where it denotes one (`Numeral.readsExactly`), and each number that a
scanner finds has the text of a numeral.
-/

namespace Breadboard

namespace Text.Numeral

/-- Each digit counts ten times as much as it would one place further back. -/
def placeValue : List Char → Nat
  | [] => 0
  | c :: rest => (c.toNat - '0'.toNat) * 10 ^ rest.length + placeValue rest

/-- The text is a numeral of the integer. -/
inductive Denotes : List Char → Int → Prop where
  | unsigned {digits : List Char} (known : isDigits digits = true) : Denotes digits (placeValue digits)
  | plus {digits : List Char} (known : isDigits digits = true) : Denotes ('+' :: digits) (placeValue digits)
  | minus {digits : List Char} (known : isDigits digits = true) : Denotes ('-' :: digits) (-placeValue digits)

/-- Digits that are taken one by one, from the first, add up to what they count by their places. -/
theorem ofDigitChars_eq (digits : List Char) (before : Nat) :
    Nat.ofDigitChars 10 digits before = before * 10 ^ digits.length + placeValue digits := by
  induction digits generalizing before with
  | nil => simp [placeValue]
  | cons c rest ih =>
    rw [Nat.ofDigitChars_cons, ih, placeValue, List.length_cons, pow_succ]
    ring

private theorem ofDigits?_eq_some_iff {digits : List Char} {n : Nat} :
    ofDigits? digits = some n ↔ isDigits digits = true ∧ n = placeValue digits := by
  rw [ofDigits?, ofDigitChars_eq]
  split
  next known => simp [known, eq_comm]
  next unknown => simp [unknown]

/-- A numeral is given the number that its digits and its sign denote. -/
theorem denoted?_eq_some_iff {chars : List Char} {n : Int} : denoted? chars = some n ↔ Denotes chars n := by
  constructor
  · intro denoted
    unfold denoted? at denoted
    split at denoted
    all_goals
      simp only [Option.map_eq_some_iff, Option.bind_eq_bind, Option.bind_eq_some_iff, Option.pure_def,
        Option.some.injEq] at denoted
      obtain ⟨_, ⟨m, counted, rfl⟩, rfl⟩ := denoted
      obtain ⟨known, rfl⟩ := ofDigits?_eq_some_iff.mp counted
    · exact .minus known
    · exact .plus known
    · exact .unsigned known
  · intro denotes
    cases denotes with
    | unsigned known => rw [denoted?_of_isDigits known, ofDigitChars_eq, Nat.zero_mul, Nat.zero_add]
    | plus known => simp [denoted?, ofDigits?_eq_some_iff.mpr ⟨known, rfl⟩]
    | minus known => simp [denoted?, ofDigits?_eq_some_iff.mpr ⟨known, rfl⟩]

private theorem toInt64?_eq_none_iff {n : Int} : toInt64? n = none ↔ ¬(-2 ^ 63 ≤ n ∧ n ≤ 2 ^ 63 - 1) := by
  have least : Int64.minValue.toInt = -2 ^ 63 := by decide
  have greatest : Int64.maxValue.toInt = 2 ^ 63 - 1 := by decide
  rw [toInt64?, least, greatest]
  split <;> simp_all

/-- The numeral denotes this integer and no other, and it reads as the 64-bit integer of that value, if there is one. -/
structure ReadsExactly (numeral : String) (n : Int) : Prop where
  denotes : Denotes numeral.toList n
  unique : ∀ other, Denotes numeral.toList other → other = n
  read_iff : ∀ value, read? numeral = some value ↔ value.toInt = n
  unread_iff : read? numeral = none ↔ ¬(-2 ^ 63 ≤ n ∧ n ≤ 2 ^ 63 - 1)

/-- A numeral is read as the number that it denotes, or refused where that has no 64 bits. -/
theorem readsExactly {numeral : String} {n : Int} (denotes : Denotes numeral.toList n) : ReadsExactly numeral n where
  denotes := denotes
  unique other others :=
    Option.some.inj ((denoted?_eq_some_iff.mpr others).symm.trans (denoted?_eq_some_iff.mpr denotes))
  read_iff value := by
    rw [read?_eq_some_iff, denoted?_eq_some_iff.mpr denotes, Option.some.injEq, eq_comm]
  unread_iff := by
    rw [read?, denoted?_eq_some_iff.mpr denotes, Option.bind_some, toInt64?_eq_none_iff]

end Text.Numeral

namespace Script

open Text.Numeral (Denotes)

/-- A number has the text of a numeral. -/
theorem Symbol.Spelled.exists_denotes {numeral : String} {chars : List Char}
    (spelled : (Symbol.number numeral).Spelled chars) : ∃ n, Denotes numeral.toList n := by
  cases spelled with
  | digits digits =>
    rw [String.toList_ofList]
    exact ⟨_, .unsigned digits⟩
  | signed known digits =>
    rw [String.toList_ofList]
    rcases known with rfl | rfl
    · exact ⟨_, .minus digits⟩
    · exact ⟨_, .plus digits⟩

/-- A numeral that the scanner finds denotes a number. -/
theorem Scanner.exists_denotes {scanner : Scanner} {numeral : String} {position : Position}
    (found : scanner.found = .ok ⟨.number numeral, position⟩) : ∃ n, Denotes numeral.toList n := by
  have read : scanner.step.reading = .ok (.number numeral) := by
    rw [Step.reading, step, found]
  rw [step_reading] at read
  exact (spelled_lexeme read Symbol.noConfusion).1.exists_denotes

end Script

end Breadboard
