import Breadboard.Part.Basic
import Breadboard.Proofs.Grammar
import Breadboard.Proofs.Lexis

/-! # Writing sketches

A row of items is written with a blank between two of them and a part as the row of a keyword and its items: the
state, the pins and then the number under its key. What is written has the symbols that it is meant to have
(`lexes_rows`), whatever names the pins have.
-/

namespace Breadboard

namespace Script

namespace Item

def written : Item → String
  | word text => text
  | number value => Text.Numeral.written value
  | parameter key argument => s!"{key}={argument}"

/-- All words of the item are identifiers. -/
def Plain : Item → Prop
  | word text => IsIdentifier text.toList
  | number _ => True
  | parameter key (.integer _) => IsIdentifier key.toList
  | parameter key (.word text) => IsIdentifier key.toList ∧ IsIdentifier text.toList

def symbols : Item → List Symbol
  | word text => [.word text]
  | number value => [.number (Text.Numeral.written value)]
  | parameter key (.integer value) => [.word key, .equals, .number (Text.Numeral.written value)]
  | parameter key (.word text) => [.word key, .equals, .word text]

/-- An item is spelled by its symbols. -/
theorem spelled_symbols (item : Item) : item.Spelled item.symbols := by
  cases item with
  | word text => exact .word text
  | number value => exact .number (Text.Numeral.denoted?_repr value.toInt)
  | parameter key argument =>
    cases argument with
    | integer value => exact .parameter key (.integer (Text.Numeral.denoted?_repr value.toInt))
    | word text => exact .parameter key (.word text)

end Item

section Lexing

private theorem spelled_word {text : String} (identifier : IsIdentifier text.toList) :
    (Symbol.word text).Spelled text.toList := by
  have spelled := Symbol.Spelled.word identifier
  rwa [String.ofList_toList] at spelled

/-- A written number spells the number's symbol. -/
theorem spelled_written (value : Int64) :
    (Symbol.number (Text.Numeral.written value)).Spelled (Text.Numeral.written value).toList := by
  unfold Text.Numeral.written
  cases value.toInt with
  | ofNat n =>
    have digits : Text.Numeral.isDigits n.repr.toList = true := by
      rw [Nat.toList_repr]
      exact Text.Numeral.isDigits_toDigits n
    have spelled := Symbol.Spelled.digits digits
    rwa [String.ofList_toList] at spelled
  | negSucc n =>
    have digits : Text.Numeral.isDigits n.succ.repr.toList = true := by
      rw [Nat.toList_repr]
      exact Text.Numeral.isDigits_toDigits n.succ
    have spelled := Symbol.Spelled.signed (.inl rfl) digits
    have text : '-' :: n.succ.repr.toList = (Int.negSucc n).repr.toList := by
      change _ = ("-" ++ n.succ.repr).toList
      rw [String.toList_append]
      rfl
    rwa [text, String.ofList_toList] at spelled

private theorem not_gap_of_isWordChar {c : Char} (wordChar : Text.isWordChar c = true) :
    isSpace c = false ∧ opensComment c = false := by
  constructor
  · refine Bool.eq_false_iff.mpr fun space => ?_
    have known : (c = ' ' ∨ c = '\t') ∨ c = '\r' := by simpa [isSpace] using space
    rcases known with (rfl | rfl) | rfl <;> exact absurd wordChar (by decide)
  · refine Bool.eq_false_iff.mpr fun opens => ?_
    have known : c = '#' ∨ c = ';' := by simpa [opensComment] using opens
    rcases known with rfl | rfl <;> exact absurd wordChar (by decide)

private theorem leadingGap_cons {c : Char} (free : isSpace c = false ∧ opensComment c = false) (rest : List Char) :
    leadingGap (c :: rest) = [] := by
  simp [leadingGap, gapFrom, free.1, free.2]

private theorem leadingGap_word_append {word : List Char} (wordChars : word.all Text.isWordChar = true)
    (nonempty : word ≠ []) (rest : List Char) : leadingGap (word ++ rest) = [] := by
  cases word with
  | nil => exact absurd rfl nonempty
  | cons c word =>
    simp only [List.all_cons, Bool.and_eq_true] at wordChars
    exact leadingGap_cons (not_gap_of_isWordChar wordChars.1) _

/-- No symbol begins with a character that belongs to a gap. -/
theorem leadingGap_of_spelled {symbol : Symbol} {chars rest : List Char} (spelled : symbol.Spelled chars) :
    leadingGap (chars ++ rest) = [] := by
  cases spelled with
  | word identifier =>
    obtain ⟨wordChars, c, first, -⟩ := identifier
    exact leadingGap_word_append wordChars (by rintro rfl; cases first) rest
  | digits digits =>
    refine leadingGap_word_append (isWordChar_of_isDigits digits) ?_ rest
    rintro rfl
    cases digits
  | signed known digits => rcases known with rfl | rfl <;> exact leadingGap_cons (by decide) _
  | directive nonempty wordChars => exact leadingGap_cons (by decide) _
  | equals => exact leadingGap_cons (by decide) _
  | newline => exact leadingGap_cons (by decide) _

/-- A spelled symbol in front of a text that cannot go on with it is lexed by itself. -/
theorem Lexes.spelled {symbol : Symbol} {symbols : List Symbol} {chars rest : List Char}
    (spelled : symbol.Spelled chars) (ends : symbol.EndsBefore rest) (others : Lexes rest symbols) :
    Lexes (chars ++ rest) (symbol :: symbols) := by
  refine .symbol ?_ spelled ends others
  rw [leadingGap_of_spelled spelled, List.nil_append]

private theorem Lexes.equals {symbols : List Symbol} {text : List Char} (lexes : Lexes text symbols) :
    Lexes ('=' :: text) (.equals :: symbols) :=
  .spelled .equals trivial lexes

private theorem Lexes.newline {symbols : List Symbol} {text : List Char} (lexes : Lexes text symbols) :
    Lexes ('\n' :: text) (.newline :: symbols) :=
  .spelled .newline trivial lexes

/-- A blank at the front only makes the gap longer. -/
theorem Lexes.blank {symbols : List Symbol} {text : List Char} (lexes : Lexes text symbols) :
    Lexes (' ' :: text) symbols := by
  have longer (text : List Char) : leadingGap (' ' :: text) = ' ' :: leadingGap text := rfl
  cases lexes with
  | finish gap => exact .finish (by rw [longer, gap])
  | symbol front spelled ends others =>
    refine .symbol ?_ spelled ends others
    rw [longer, List.cons_append, ← front]

/-- An item has its symbols when it is written, if no word character comes right behind it. -/
theorem lexes_item {item : Item} {rest : List Char} {others : List Symbol} (plain : item.Plain)
    (ends : ∀ c ∈ rest.head?, Text.isWordChar c = false) (behind : Lexes rest others) :
    Lexes (item.written.toList ++ rest) (item.symbols ++ others) := by
  cases item with
  | word text => exact .spelled (spelled_word plain) ends behind
  | number value => exact .spelled (spelled_written value) ends behind
  | parameter key argument =>
    have text : (Item.parameter key argument).written.toList = key.toList ++ '=' :: (toString argument).toList := by
      change (key ++ "=" ++ toString argument).toList = _
      simp
    have keyed {symbol : Symbol} (identifier : IsIdentifier key.toList)
        (last : Lexes ((toString argument).toList ++ rest) (symbol :: others)) :
        Lexes ((Item.parameter key argument).written.toList ++ rest) (.word key :: .equals :: symbol :: others) := by
      rw [text, List.append_assoc]
      refine .spelled (spelled_word identifier) ?_ (.equals last)
      intro c first
      cases first
      decide
    cases argument with
    | integer value => exact keyed plain (.spelled (spelled_written value) ends behind)
    | word text => exact keyed plain.1 (.spelled (spelled_word plain.2) ends behind)

/-- A row of items with a blank between two of them. -/
def Item.row (items : List Item) : String :=
  " ".intercalate (items.map written)

/-- A row of items is made of their symbols, whatever stands behind it. -/
theorem lexes_row {items : List Item} {rest : List Char} {others : List Symbol} (plain : ∀ item ∈ items, item.Plain)
    (ends : ∀ c ∈ rest.head?, Text.isWordChar c = false) (behind : Lexes rest others) :
    Lexes ((Item.row items).toList ++ rest) (items.flatMap Item.symbols ++ others) := by
  simp only [Item.row, String.toList_intercalate, List.map_map]
  induction items with
  | nil => exact behind
  | cons item items ih =>
    obtain ⟨first, others⟩ := List.forall_mem_cons.mp plain
    cases items with
    | nil => simpa using lexes_item first ends behind
    | cons next items =>
      rw [List.map_cons, List.map_cons, List.intercalate_cons_cons, List.flatMap_cons]
      simp only [List.append_assoc]
      refine lexes_item first ?_ (.blank (ih others))
      intro c front
      cases front
      decide

/-- Rows with a line end between two of them. -/
theorem lexes_rows {rows : List (List Item)} (plain : ∀ items ∈ rows, ∀ item ∈ items, item.Plain) :
    Lexes ("\n".intercalate (rows.map Item.row)).toList
      ([.newline].intercalate (rows.map fun items => items.flatMap Item.symbols)) := by
  rw [String.toList_intercalate]
  induction rows with
  | nil => exact .finish rfl
  | cons items rows ih =>
    obtain ⟨first, others⟩ := List.forall_mem_cons.mp plain
    cases rows with
    | nil =>
      have alone := lexes_row first (fun _ none => by cases none) (.finish (rfl : leadingGap [] = []))
      simpa using alone
    | cons next rows =>
      simp only [List.map_cons, List.intercalate_cons_cons, List.append_assoc] at ih ⊢
      refine lexes_row first ?_ (.newline (ih others))
      intro c front
      cases front
      decide

end Lexing

end Script

end Breadboard
