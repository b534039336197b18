import Breadboard.Circuit.Basic
import Breadboard.Proofs.Acceptance
import Breadboard.Proofs.Session

/-! # Where the pins of a circuit come from

A part that an entry describes is bound to the pins of the entry and to no others, and these are words of the text.
So every pin of a circuit from a text is an identifier: `Circuit.isIdentifier_of_ofText`.
-/

namespace Breadboard

open Script

/-! ## Parts and their entries -/

namespace Part

private theorem pins_of_bound {kind : Kind} {pins : List Pin} {part : Part} (success : bound kind pins = .ok part) :
    part.pins = pins := by
  rcases pins with _ | ⟨pin, _ | ⟨second, rest⟩⟩
  · cases kind <;> cases success <;> rfl
  · cases kind <;> cases success <;> rfl
  · cases kind <;> cases success
    rfl

private theorem pins_of_withNumber {part changed : Part} {number : Option Int64}
    (success : part.withNumber number = .ok changed) : changed.pins = part.pins := by
  unfold withNumber at success
  split at success
  next => cases success; rfl
  next =>
    split at success
    next set => cases success; exact Change.pins_of_applyTo? (.value _) set
    next => cases success

private theorem pins_of_withStateWord {part changed : Part} {key word : String}
    (success : part.withStateWord key word = .ok changed) : changed.pins = part.pins := by
  unfold withStateWord at success
  split at success
  next state _ =>
    cases success
    cases set : part.withPower? state with
    | some powered => exact Change.pins_of_applyTo? (.power state) set
    | none => rfl
  next => cases success

private theorem pins_of_withBareState {part changed : Part} {word : Option String}
    (success : part.withBareState word = .ok changed) : changed.pins = part.pins := by
  unfold withBareState at success
  split at success
  next => cases success; rfl
  next =>
    split at success
    next => exact pins_of_withStateWord success
    next => cases success; rfl

private theorem pins_of_withParameter {part changed : Part} {key : String} {argument : Argument}
    (success : part.withParameter key argument = .ok changed) : changed.pins = part.pins := by
  unfold withParameter at success
  split at success
  next => cases success
  next value _ =>
    cases success
    cases valued : part.withValue? value with
    | some changed => exact Change.pins_of_applyTo? (.value value) valued
    | none =>
      cases set : part.withInterval? value with
      | some changed => exact Change.pins_of_applyTo? (.interval value) set
      | none => rfl
  next => exact pins_of_withStateWord success
  next => cases success

private theorem pins_of_withParameters {pairs : List (String × Argument)} {part changed : Part}
    (success : pairs.foldlM (fun part pair => part.withParameter pair.1 pair.2) part = .ok changed) :
    changed.pins = part.pins := by
  induction pairs generalizing part with
  | nil => cases success; rfl
  | cons pair rest ih =>
    obtain ⟨next, set, success⟩ := except_bind_eq_ok_iff.mp success
    exact (ih success).trans (pins_of_withParameter set)

/-- Nothing in an entry but its pins binds the part. -/
theorem pins_of_ofEntry {entry : Entry} {part : Part} (success : ofEntry entry = .ok part) :
    part.pins = entry.pins := by
  have read : described entry = .ok part := by
    unfold ofEntry at success
    cases read : described entry with
    | ok part => rw [read] at success; cases success; rfl
    | error fault => rw [read] at success; cases success
  obtain ⟨first, started, read⟩ := except_bind_eq_ok_iff.mp read
  obtain ⟨second, numbered, read⟩ := except_bind_eq_ok_iff.mp read
  obtain ⟨third, stated, read⟩ := except_bind_eq_ok_iff.mp read
  calc
    part.pins = third.pins := pins_of_withParameters read
    _ = second.pins := pins_of_withBareState stated
    _ = first.pins := pins_of_withNumber numbered
    _ = entry.pins := pins_of_bound started

end Part

/-! ## Entries and the words of the text -/

/-- In rows that are related item by item, every item has its counterpart. -/
theorem exists_mem_of_forall₂ {α β : Type} {related : α → β → Prop} {left : List α} {right : List β}
    (all : List.Forall₂ related left right) {item : α} (member : item ∈ left) :
    ∃ other ∈ right, related item other := by
  induction all with
  | nil => cases member
  | @cons head other rest others first _ ih =>
    rcases List.mem_cons.mp member with rfl | later
    · exact ⟨other, List.mem_cons_self, first⟩
    · obtain ⟨found, listed, relates⟩ := ih later
      exact ⟨found, List.mem_cons_of_mem _ listed, relates⟩

namespace Script

private theorem Item.mem_of_mem_pins {kind : Part.Kind} {items : List Item} {pin : Pin}
    (member : pin ∈ pins kind items) : .word pin.name ∈ items := by
  obtain ⟨text, kept, rfl⟩ := List.mem_map.mp member
  obtain ⟨item, listed, word⟩ := List.mem_filterMap.mp (List.mem_of_mem_eraseP kept)
  cases item <;> cases word
  exact listed

/-- A bare word of an entry stands among the symbols of its line. -/
theorem Line.Spelled.mem_word {kind : Part.Kind} {items : List Item} {piece : List Symbol} {text : String}
    (spelled : Line.Spelled (.entry kind items) piece) (member : .word text ∈ items) : .word text ∈ piece := by
  cases spelled with
  | entry known spelled =>
    obtain ⟨symbols, listed, single⟩ := exists_mem_of_forall₂ spelled member
    cases single
    exact List.mem_cons_of_mem _ (List.mem_flatten.mpr ⟨_, listed, List.mem_singleton_self _⟩)

private theorem mem_intercalate {separator piece : List Symbol} {pieces : List (List Symbol)} {symbol : Symbol}
    (listed : piece ∈ pieces) (member : symbol ∈ piece) : symbol ∈ separator.intercalate pieces := by
  induction pieces with
  | nil => cases listed
  | cons head rest ih =>
    rcases eq_or_ne rest [] with rfl | more
    · rwa [List.intercalate_singleton, ← List.mem_singleton.mp listed]
    · rw [List.intercalate_cons_of_ne_nil more, List.mem_append]
      rcases List.mem_cons.mp listed with rfl | later
      · exact .inl (List.mem_append_left _ member)
      · exact .inr (ih later)

/-- The words among the symbols of a text are identifiers. -/
theorem Lexes.isIdentifier {chars : List Char} {symbols : List Symbol} (lexes : Lexes chars symbols) {text : String}
    (member : .word text ∈ symbols) : IsIdentifier text.toList := by
  induction lexes with
  | finish => cases member
  | symbol front spelled ends others ih =>
    rcases List.mem_cons.mp member with rfl | later
    · cases spelled with
      | word identifier => rwa [String.toList_ofList]
    · exact ih later

/-- The pins of a sketch that is read are identifiers. -/
theorem Sketch.isIdentifier_of_ofText {text : String} {sketch : Sketch} (success : ofText text = .ok sketch)
    {entry : Entry} (listed : entry ∈ sketch.entries) {pin : Pin} (member : pin ∈ entry.pins) :
    IsIdentifier pin.name.toList := by
  obtain ⟨symbols, lines, reads, spelled, -, -, rfl⟩ := ofText_eq_ok_iff.mp success
  obtain ⟨kind, items, index, found, rfl⟩ := mem_entries_ofLines.mp listed
  obtain ⟨piece, split, line⟩ := exists_mem_of_forall₂ spelled (List.mem_of_getElem? found)
  have word := line.mem_word (Item.mem_of_mem_pins member)
  have joined : [Symbol.newline].intercalate (symbols.splitOn .newline) = symbols := List.intercalate_splitOn _
  exact (Scanner.reads_iff_lexes.mp reads).isIdentifier (joined ▸ mem_intercalate split word)

end Script

namespace Circuit

/-- An action succeeds on all items exactly when it does on each. -/
theorem mapM_eq_ok_iff {α β ε : Type} {action : α → Except ε β} {items : List α} {results : List β} :
    items.mapM action = .ok results ↔ List.Forall₂ (fun item result => action item = .ok result) items results := by
  induction items generalizing results with
  | nil => cases results <;> simp [pure, Except.pure]
  | cons item items ih =>
    simp only [List.mapM_cons, except_bind_eq_ok_iff, ih]
    constructor
    · rintro ⟨result, first, others, rest, built⟩
      cases built
      exact .cons first rest
    · rintro (_ | ⟨first, rest⟩)
      exact ⟨_, first, _, rest, rfl⟩

/-- A circuit is read from a text exactly when its parts are made of the entries of the sketch. -/
theorem value_ofText_eq_ok_iff {text : String} {circuit : Circuit} :
    (ofText text).value = .ok circuit ↔
      ∃ sketch, Sketch.ofText text = .ok sketch ∧ sketch.entries.mapM Part.ofEntry = .ok circuit.parts := by
  cases read : Sketch.ofText text with
  | error error => simp [ofText, read]
  | ok sketch =>
    simp only [ofText, read, Noted.value_bind, Noted.value_pure, except_mapError_eq_ok_iff, ofSketch]
    cases built : sketch.entries.mapM Part.ofEntry with
    | error error => simp [built]
    | ok parts => cases circuit; simp [built]

/-- The pins of a circuit that is read are identifiers. -/
theorem isIdentifier_of_ofText {text : String} {circuit : Circuit} (success : (ofText text).value = .ok circuit)
    {part : Part} (placed : part ∈ circuit.parts) {pin : Pin} (member : pin ∈ part.pins) :
    IsIdentifier pin.name.toList := by
  obtain ⟨sketch, read, built⟩ := value_ofText_eq_ok_iff.mp success
  obtain ⟨entry, listed, described⟩ := exists_mem_of_forall₂ (mapM_eq_ok_iff.mp built).flip placed
  rw [Part.pins_of_ofEntry described] at member
  exact Sketch.isIdentifier_of_ofText read listed member

end Circuit

end Breadboard
