import Breadboard.Proofs.Grammar
import Breadboard.Proofs.Passage

/-! # Reading an entry

Each reading of an item succeeds exactly when the symbols that it passes are spelled as the grammar says, and then
the entry has taken up what they mean. The loop over the items carries the list of those that it has read. Main
statement: `Reading.entry_eq_ok_iff`.
-/

namespace Breadboard.Script

namespace Reading

open Entry (addNumber_eq_ok_iff addParameter_eq_ok_iff)

private theorem argument_ofSymbol_eq_ok_iff {symbol : Symbol} {argument : Argument} :
    Argument.ofSymbol symbol = .ok argument ↔ argument.Spelled symbol := by
  constructor
  · intro success
    cases symbol with
    | word text =>
      cases success
      exact .word text
    | number text =>
      simp only [Argument.ofSymbol] at success
      split at success
      next read =>
        cases success
        exact .integer (Text.Numeral.read?_eq_some_iff.mp read)
      next => cases success
    | _ => cases success
  · rintro (denoted | text)
    · simp only [Argument.ofSymbol, Text.Numeral.read?_eq_some_iff.mpr denoted]
    · rfl

private theorem argument_eq_ok_iff {line : Nat} {reader after : Reader} {value : Argument} :
    argument line reader = .ok value after ↔ ∃ symbol, value.Spelled symbol ∧ reader.Passes [symbol] after := by
  simp only [argument, get_bind_eq, check_bind_eq_ok_iff, argument_ofSymbol_eq_ok_iff]
  constructor
  · rintro ⟨_, spelled, success⟩
    have more : reader.atEnd = false := by
      refine decide_eq_false fun ended => ?_
      rw [ended] at spelled
      cases spelled
    obtain ⟨middle, passed, success⟩ := (advance_bind_eq_ok_iff more).mp success
    obtain ⟨rfl, rfl⟩ := pure_eq_ok_iff.mp success
    exact ⟨_, spelled, passed⟩
  · rintro ⟨symbol, spelled, passed⟩
    obtain ⟨rfl, more, -⟩ := Reader.Passes.cons_iff.mp passed
    exact ⟨value, spelled, (advance_bind_eq_ok_iff more).mpr ⟨after, passed, rfl⟩⟩

private theorem afterWord_eq_ok_iff {current next : Entry} {text : String} {reader after : Reader} :
    afterWord current text reader = .ok next after ↔
      (∃ argument symbol, argument.Spelled symbol ∧ reader.Passes [.equals, symbol] after ∧
        current.Takes next (.parameter text argument)) ∨
      reader.current.symbol ≠ .equals ∧ after = reader ∧ current.Takes next (.word text) := by
  rw [afterWord, get_bind_eq]
  by_cases equals : reader.current.symbol = .equals
  · have more : reader.atEnd = false := by rw [Reader.atEnd, equals]; rfl
    rw [if_pos equals, advance_bind_eq_ok_iff more, equals]
    constructor
    · rintro ⟨middle, passed, success⟩
      obtain ⟨argument, last, read, success⟩ := bind_eq_ok_iff.mp success
      obtain ⟨symbol, spelled, front⟩ := argument_eq_ok_iff.mp read
      obtain ⟨taken, rfl⟩ := check_eq_ok_iff.mp success
      refine .inl ⟨argument, symbol, spelled, Reader.Passes.uncons_iff.mpr ⟨middle, passed, front⟩, ?_⟩
      exact addParameter_eq_ok_iff.mp taken
    · rintro (⟨argument, symbol, spelled, passed, taken⟩ | ⟨differ, -⟩)
      · obtain ⟨middle, front, back⟩ := Reader.Passes.uncons_iff.mp passed
        refine ⟨middle, front, bind_eq_ok_iff.mpr ⟨argument, after, ?_, ?_⟩⟩
        · exact argument_eq_ok_iff.mpr ⟨symbol, spelled, back⟩
        · exact check_eq_ok_iff.mpr ⟨addParameter_eq_ok_iff.mpr taken, rfl⟩
      · exact absurd rfl differ
  · rw [if_neg equals, pure_eq_ok_iff]
    constructor
    · rintro ⟨rfl, rfl⟩
      exact .inr ⟨equals, rfl, rfl⟩
    · rintro (⟨argument, symbol, spelled, passed, taken⟩ | ⟨differ, rfl, rfl⟩)
      · exact absurd passed.current equals
      · exact ⟨rfl, rfl⟩

/-- An item is taken up as it is spelled. What follows a bare word is no equals sign. -/
theorem item_eq_ok_iff {current next : Entry} {reader after : Reader} :
    item current reader = .ok next after ↔
      ∃ item piece, Item.Spelled item piece ∧ reader.Passes piece after ∧ current.Takes next item ∧
        ∀ text, item = .word text → after.current.symbol ≠ .equals := by
  constructor
  · intro success
    simp only [item] at success
    split at success
    next text word =>
      have more : reader.atEnd = false := by rw [Reader.atEnd, word]; rfl
      obtain ⟨middle, passed, success⟩ := (advance_bind_eq_ok_iff more).mp success
      rw [word] at passed
      rcases afterWord_eq_ok_iff.mp success with ⟨argument, symbol, spelled, others, taken⟩ | ⟨bare, rfl, taken⟩
      · refine ⟨_, _, .parameter text spelled, ?_, taken, fun _ differ => by cases differ⟩
        exact Reader.Passes.uncons_iff.mpr ⟨middle, passed, others⟩
      · exact ⟨_, _, .word text, passed, taken, fun _ _ => bare⟩
    next text number =>
      have more : reader.atEnd = false := by rw [Reader.atEnd, number]; rfl
      obtain ⟨middle, passed, success⟩ := (advance_bind_eq_ok_iff more).mp success
      rw [number] at passed
      obtain ⟨taken, rfl⟩ := check_eq_ok_iff.mp success
      obtain ⟨value, denoted, taken⟩ := addNumber_eq_ok_iff.mp taken
      exact ⟨_, _, .number denoted, passed, taken, fun _ differ => by cases differ⟩
    next => cases success
  · rintro ⟨_, _, text | ⟨denoted⟩ | ⟨key, spelled⟩, passed, taken, bare⟩
    · obtain ⟨current, more, -⟩ := Reader.Passes.cons_iff.mp passed
      simp only [item, current]
      refine (advance_bind_eq_ok_iff more).mpr ⟨after, by rwa [current], ?_⟩
      exact afterWord_eq_ok_iff.mpr (.inr ⟨bare text rfl, rfl, taken⟩)
    · obtain ⟨current, more, -⟩ := Reader.Passes.cons_iff.mp passed
      simp only [item, current]
      refine (advance_bind_eq_ok_iff more).mpr ⟨after, by rwa [current], ?_⟩
      exact check_eq_ok_iff.mpr ⟨addNumber_eq_ok_iff.mpr ⟨_, denoted, taken⟩, rfl⟩
    · obtain ⟨current, more, -⟩ := Reader.Passes.cons_iff.mp passed
      obtain ⟨middle, front, back⟩ := Reader.Passes.uncons_iff.mp passed
      simp only [item, current]
      refine (advance_bind_eq_ok_iff more).mpr ⟨middle, by rwa [current], ?_⟩
      exact afterWord_eq_ok_iff.mpr (.inl ⟨_, _, spelled, back, taken⟩)

section Items

variable {kind : Part.Kind} {line : Nat}

private theorem atLineEnd_eq_false {item : Item} {piece : List Symbol} {reader after : Reader}
    (spelled : item.Spelled piece) (passed : reader.Passes piece after) : reader.atLineEnd = false := by
  cases spelled <;> simp [Reader.atLineEnd, Reader.atEnd, passed.current]

/-- What stands at the front of a row of items, or behind the last one, is no equals sign. -/
theorem current_ne_equals {items : List Item} {pieces : List (List Symbol)} {reader after : Reader}
    (spelled : List.Forall₂ Item.Spelled items pieces) (passed : reader.Passes pieces.flatten after)
    (ended : after.atLineEnd = true) : reader.current.symbol ≠ .equals := by
  cases spelled with
  | nil =>
    obtain rfl := Reader.Passes.nil_iff.mp passed
    intro equals
    simp [Reader.atLineEnd, Reader.atEnd, equals] at ended
  | cons first others =>
    cases first <;> exact fun equals => by simp [passed.current] at equals

/-- What the loop has read is spelled by items, and with those before them they are consistent. -/
theorem spelled_of_items {items : List Item} {entry : Entry} {reader after : Reader}
    (consistent : Item.Consistent items)
    (success : loop Reader.atLineEnd item item_progresses (.ofItems kind items line) reader = .ok entry after) :
    ∃ more pieces, List.Forall₂ Item.Spelled more pieces ∧ reader.Passes pieces.flatten after ∧
      after.atLineEnd = true ∧ Item.Consistent (items ++ more) ∧ entry = .ofItems kind (items ++ more) line := by
  -- The loop carries an entry and not the items, so these are generalized under the equation between the two.
  generalize start : Entry.ofItems kind items line = current at success
  fun_induction loop Reader.atLineEnd item item_progresses current reader generalizing items with
  | case1 current reader stopped =>
    cases success
    exact ⟨[], [], .nil, .stay _, stopped, by rwa [List.append_nil], by rw [List.append_nil, start]⟩
  | case2 current reader going next middle taken ih =>
    subst start
    obtain ⟨item, piece, spelled, front, takes, -⟩ := item_eq_ok_iff.mp taken
    obtain ⟨consistent, rfl⟩ := (Entry.takes_ofItems_iff consistent).mp takes
    obtain ⟨more, pieces, others, back, ended, all, result⟩ := ih consistent rfl success
    rw [List.append_assoc] at all result
    exact ⟨item :: more, piece :: pieces, .cons spelled others, Reader.Passes.append_iff.mpr ⟨middle, front, back⟩,
      ended, all, result⟩
  | case3 => cases success

/-- Items that are spelled one behind the other, up to the end of the line, are read. -/
theorem items_of_spelled {items more : List Item} {pieces : List (List Symbol)} {reader after : Reader}
    (consistent : Item.Consistent items) (spelled : List.Forall₂ Item.Spelled more pieces)
    (passed : reader.Passes pieces.flatten after) (ended : after.atLineEnd = true)
    (all : Item.Consistent (items ++ more)) :
    loop Reader.atLineEnd item item_progresses (.ofItems kind items line) reader =
      .ok (.ofItems kind (items ++ more) line) after := by
  induction spelled generalizing items reader with
  | nil =>
    obtain rfl := Reader.Passes.nil_iff.mp passed
    rw [loop_of_stop ended, List.append_nil]
  | @cons item piece more pieces first others ih =>
    obtain ⟨middle, front, back⟩ := Reader.Passes.append_iff.mp passed
    have split : items ++ item :: more = (items ++ [item]) ++ more := by simp
    rw [split] at all ⊢
    have taken : (Entry.ofItems kind items line).Takes (.ofItems kind (items ++ [item]) line) item :=
      (Entry.takes_ofItems_iff consistent).mpr ⟨all.of_append, rfl⟩
    have going := atLineEnd_eq_false first front
    rw [loop_of_step going (item_eq_ok_iff.mpr ⟨item, piece, first, front, taken, ?_⟩)]
    · exact ih all.of_append back all
    · exact fun _ _ => current_ne_equals others back ended

end Items

/-- An entry is read when its keyword names a kind and consistent items are spelled up to the end of its line. -/
theorem entry_eq_ok_iff {keyword : String} {line : Nat} {result : Entry} {reader after : Reader} :
    entry keyword line reader = .ok result after ↔
      ∃ kind items pieces, Part.Kind.ofKeyword? keyword = some kind ∧ List.Forall₂ Item.Spelled items pieces ∧
        reader.Passes pieces.flatten after ∧ after.atLineEnd = true ∧ Item.Consistent items ∧
        result = .ofItems kind items line := by
  have none : Item.Consistent [] := ⟨Nat.zero_le _, List.nodup_nil⟩
  rw [entry]
  constructor
  · intro success
    cases known : Part.Kind.ofKeyword? keyword with
    | none =>
      rw [known] at success
      cases success
    | some kind =>
      rw [known] at success
      obtain ⟨items, pieces, spelled, passed, ended, consistent, rfl⟩ := spelled_of_items none success
      exact ⟨kind, items, pieces, rfl, spelled, passed, ended, consistent, rfl⟩
  · rintro ⟨kind, items, pieces, known, spelled, passed, ended, consistent, rfl⟩
    rw [known]
    exact items_of_spelled none spelled passed ended consistent

end Reading

end Breadboard.Script
