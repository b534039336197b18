import Breadboard.Text.Numeral
import Breadboard.Text.Word
import Mathlib.Data.List.Infix

/-! # Texts in which no note begins

A note begins at the first two slashes in a row and lasts to the end of its line. The statements of a program are made
of fixed words, numerals, names of motors and names of pins. All but the last are bare of the characters in question,
and the name of a pin that is clear of notes stays so wherever a statement mentions it: `IsClear.append_bare` and
`IsBare.append_clear`.
-/

namespace Breadboard

namespace Text

/-- What stands in front of a note, which begins at the first two slashes in a row. -/
def beforeNote? : List Char → Option (List Char)
  | '/' :: '/' :: _ => some []
  | c :: rest => (beforeNote? rest).map (c :: ·)
  | [] => none

private theorem beforeNote?_eq_none_iff {chars : List Char} : beforeNote? chars = none ↔ ¬['/', '/'] <:+: chars := by
  fun_induction beforeNote? chars with
  | case1 rest => simp [List.infix_cons_iff]
  | case2 c rest single ih =>
    have lone : ¬['/', '/'] <+: c :: rest := by
      rintro ⟨tail, shape⟩
      obtain ⟨rfl, rfl⟩ := List.cons_eq_cons.mp shape
      exact single tail rfl rfl
    simp [List.infix_cons_iff, lone, ih]
  | case3 => simp

/-- Characters with no note in them are passed over, unless a slash meets another at their end. -/
theorem beforeNote?_append {front rest : List Char} (free : beforeNote? front = none)
    (apart : front.getLast? ≠ some '/' ∨ rest.head? ≠ some '/') :
    beforeNote? (front ++ rest) = (beforeNote? rest).map (front ++ ·) := by
  fun_induction beforeNote? front with
  | case1 tail => cases free
  | case2 c front single ih =>
    have behind : front.getLast? ≠ some '/' ∨ rest.head? ≠ some '/' := by
      refine apart.imp_left fun unclosed closed => unclosed ?_
      rw [List.getLast?_cons, closed]
      rfl
    rw [List.cons_append, beforeNote?, ih (Option.map_eq_none_iff.mp free) behind, Option.map_map]
    · rfl
    · rintro tail rfl shape
      -- Two slashes here would be the last of the front and the first of the rest.
      cases front with
      | nil => simp_all
      | cons d front => exact single front rfl (by simpa using congrArg List.head? shape)
  | case3 => simp

/-- A text that ends no line and begins no note. -/
def IsClear (text : String) : Prop :=
  '\n' ∉ text.toList ∧ ¬['/', '/'] <:+: text.toList

instance (text : String) : Decidable (IsClear text) :=
  inferInstanceAs (Decidable (_ ∧ _))

/-- A text without the characters of which line ends and notes are made. -/
def IsBare (text : String) : Prop :=
  '\n' ∉ text.toList ∧ '/' ∉ text.toList

instance (text : String) : Decidable (IsBare text) :=
  inferInstanceAs (Decidable (_ ∧ _))

/-- A text of word characters, as the names of motors are. -/
def IsWord (text : String) : Prop :=
  text.toList.all isWordChar = true

instance (text : String) : Decidable (IsWord text) :=
  inferInstanceAs (Decidable (_ = true))

/-- A character that no word has is not in a word. -/
theorem IsWord.notMem {text : String} (word : IsWord text) {c : Char} (other : isWordChar c = false) :
    c ∉ text.toList := by
  intro member
  rw [List.all_eq_true.mp word c member] at other
  cases other

/-- A word is bare. -/
theorem IsWord.isBare {text : String} (word : IsWord text) : IsBare text :=
  ⟨word.notMem (by decide +kernel), word.notMem (by decide +kernel)⟩

/-- Two bare texts are bare together. -/
theorem IsBare.append {front rest : String} (bare : IsBare front) (others : IsBare rest) : IsBare (front ++ rest) := by
  simp [IsBare, bare.1, bare.2, others.1, others.2]

/-- A bare text is clear, for without a slash no note begins. -/
theorem IsBare.isClear {text : String} (bare : IsBare text) : IsClear text :=
  ⟨bare.1, fun inside => bare.2 (inside.subset List.mem_cons_self)⟩

/-- No note begins in a clear text. -/
theorem IsClear.beforeNote?_eq_none {text : String} (clear : IsClear text) : beforeNote? text.toList = none :=
  beforeNote?_eq_none_iff.mpr clear.2

/-- Two clear texts are clear together, unless their slashes meet. -/
theorem IsClear.append {front rest : String} (clear : IsClear front) (others : IsClear rest)
    (apart : front.toList.getLast? ≠ some '/' ∨ rest.toList.head? ≠ some '/') : IsClear (front ++ rest) := by
  constructor
  · rw [String.toList_append, List.mem_append, not_or]
    exact ⟨clear.1, others.1⟩
  · rw [String.toList_append, ← beforeNote?_eq_none_iff,
      beforeNote?_append clear.beforeNote?_eq_none apart, others.beforeNote?_eq_none, Option.map_none]

/-- A bare text can stand behind a clear one. -/
theorem IsClear.append_bare {front rest : String} (clear : IsClear front) (bare : IsBare rest) :
    IsClear (front ++ rest) :=
  clear.append bare.isClear (.inr fun first => bare.2 (List.mem_of_mem_head? first))

/-- A bare text can stand before a clear one. -/
theorem IsBare.append_clear {front rest : String} (bare : IsBare front) (clear : IsClear rest) :
    IsClear (front ++ rest) :=
  bare.isClear.append clear (.inl fun last => bare.2 (List.mem_of_mem_getLast? last))

/-- Behind a clear text a note is found where it begins. -/
theorem IsClear.beforeNote?_noted {text : String} (clear : IsClear text) (note : String) :
    beforeNote? (text ++ " // " ++ note).toList = some (text.toList ++ [' ']) := by
  rw [String.toList_append, String.toList_append, List.append_assoc,
    beforeNote?_append clear.beforeNote?_eq_none (.inr (by simp))]
  simp [beforeNote?]

/-- The decimal digits and the sign of an integer. -/
theorem Numeral.mem_written {n : Int64} {c : Char} (member : c ∈ (Numeral.written n).toList) :
    c = '-' ∨ c.isDigit = true := by
  have digit {n : Nat} {c : Char} (member : c ∈ n.repr.toList) : c.isDigit = true := by
    rw [Nat.toList_repr] at member
    exact Nat.isDigit_of_mem_toDigits (by decide) (by decide) member
  unfold Numeral.written at member
  cases sign : n.toInt with
  | ofNat n =>
    rw [sign] at member
    exact .inr (digit member)
  | negSucc n =>
    rw [sign] at member
    change c ∈ ("-" ++ n.succ.repr).toList at member
    rw [String.toList_append, List.mem_append] at member
    exact member.imp (by simp) digit

/-- A written number is bare. -/
theorem Numeral.isBare_written (n : Int64) : IsBare (Numeral.written n) := by
  constructor <;> intro member <;> rcases mem_written member with sign | digit
  · cases sign
  · cases digit
  · cases sign
  · cases digit

end Text

end Breadboard
