import Breadboard.Circuit.Basic
import Breadboard.Proofs.Acceptance
import Breadboard.Proofs.Writing
import Mathlib

/-! # Parts written and read back

A part is written on one line: a keyword of its kind, the state of a power controller, the pins, and the number of a
part that has one. A circuit whose pins are identifiers is read back from its lines as it was, also where a pin is
spelled like a keyword, a key or a state: `Part.ofEntry_items` says it of one line and `lexes_script` carries the
rows of symbols through the scanner.
-/

namespace Breadboard

open Script

/-- The word by which a sketch gives the state. -/
def Power.word : Power → String
  | .on => "on"
  | .off => "off"

private theorem Power.ofWord?_word (state : Power) : ofWord? state.word = some state := by
  have small : Text.lowercaseAscii state.word = state.word := by
    refine String.toList_inj.mp ?_
    rw [Text.toList_lowercaseAscii]
    cases state <;> decide
  rw [ofWord?_eq_some_iff, small]
  cases state <;> decide

namespace Part

def power? : Part → Option Power
  | .power _ state => some state
  | _ => none

/-- The number of a part, under the key by which a sketch sets it. -/
def setting? : Part → Option (String × Int64)
  | .light _ level => some ("value", level)
  | .servo _ angle => some ("angle", angle)
  | .stepper _ steps => some ("steps", steps)
  | .wait milliseconds => some ("ms", milliseconds)
  | .blinker _ interval => some ("interval", interval)
  | .button _ | .power .. => none

def items (part : Part) : List Item :=
  part.power?.toList.map (fun state => .word state.word) ++ part.pins.map (fun pin => .word pin.name) ++
    part.setting?.toList.map fun (key, value) => .parameter key (.integer value)

/-- The line of a part under a keyword of its kind. -/
def written (keyword : String) (part : Part) : String :=
  Item.row (.word keyword :: part.items)

private theorem lowercase_of_setting {part : Part} {key : String} {value : Int64}
    (known : part.setting? = some (key, value)) : Text.lowercase key = key := by
  cases part <;> cases known <;> decide

section Items

variable (part : Part)

private theorem words_items : part.items.filterMap Item.word? =
    part.power?.toList.map Power.word ++ part.pins.map Pin.name := by
  simp [items, List.filterMap_map, Function.comp_def, Item.word?]

private theorem numbers_items : part.items.filterMap Item.number? = [] := by
  simp [items, List.filterMap_map, Function.comp_def, Item.number?]

private theorem parameters_items : part.items.filterMap Item.parameter? =
    part.setting?.toList.map fun (key, value) => (key, .integer value) := by
  cases known : part.setting? with
  | none => simp [items, known, List.filterMap_map, Function.comp_def, Item.parameter?]
  | some setting =>
    have small := lowercase_of_setting known
    simp [items, known, small, List.filterMap_map, Function.comp_def, Item.parameter?]

private theorem consistent_items : Item.Consistent part.items := by
  refine ⟨by simp [numbers_items], ?_⟩
  rw [parameters_items]
  cases part.setting? <;> simp

/-- Without a state of its own a part takes every word for a pin. -/
theorem namesState_eq_false {part : Part} (stateless : part.power? = none) (text : String) :
    Item.namesState part.kind text = false := by
  cases part with
  | power pin state => cases stateless
  | _ => rfl

private theorem namesState_word {part : Part} {state : Power} (known : part.power? = some state) :
    Item.namesState part.kind state.word = true := by
  cases part with
  | power pin own => simp [Item.namesState, kind, Power.ofWord?_word]
  | _ => cases known

private theorem state?_items : Item.state? part.kind part.items = part.power?.map Power.word := by
  rw [Item.state?, words_items]
  cases known : part.power? with
  | none => simp [namesState_eq_false known]
  | some state => simp [namesState_word known]

private theorem pins_items : Item.pins part.kind part.items = part.pins := by
  have named : Pin.mk ∘ Pin.name = id := rfl
  rw [Item.pins, words_items]
  cases known : part.power? with
  | none =>
    rw [List.eraseP_of_forall_not fun text _ => by simp [namesState_eq_false known]]
    simp [named]
  | some state => simp [namesState_word known, named]

/-- The entry that a line of a part means describes that part. -/
theorem ofEntry_items (line : Nat) : ofEntry (.ofItems part.kind part.items line) = .ok part := by
  rw [Entry.ofItems, state?_items, pins_items, numbers_items, parameters_items]
  cases part with
  | light pin level => cases pin <;> rfl
  | button pin => cases pin <;> rfl
  | servo pin angle => cases pin <;> rfl
  | stepper coils steps => rfl
  | wait milliseconds => rfl
  | blinker pin interval => cases pin <;> rfl
  | power pin state =>
    have started : bound .power pin.toList = .ok (.power pin .on) := by cases pin <;> rfl
    have stated : (Part.power pin .on).withBareState (some state.word) = .ok (.power pin state) := by
      simp [withBareState, kind, withStateWord, Power.ofWord?_word, withPower?]
    change (described ⟨.power, pin.toList, none, some state.word, .empty, line⟩).mapError _ = _
    rw [described, started]
    change Except.mapError _ (do
      let part ← (Part.power pin .on).withBareState (some state.word)
      Except.ok part) = _
    rw [stated]
    rfl

end Items

end Part

section Plain

private theorem isDigit_eq_false_of_isAlpha {c : Char} (letter : c.isAlpha = true) : c.isDigit = false := by
  simp only [Char.isAlpha, Char.isUpper, Char.isLower, Char.isDigit, Bool.or_eq_true, Bool.and_eq_true,
    decide_eq_true_eq, Bool.and_eq_false_iff, decide_eq_false_iff_not, ge_iff_le, UInt32.le_iff_toNat_le,
    Char.reduceVal, UInt32.reduceToNat] at letter ⊢
  omega

private theorem isIdentifier_of_isAlpha {chars : List Char} (letters : chars.all Char.isAlpha = true)
    (nonempty : chars ≠ []) : IsIdentifier chars := by
  refine ⟨List.all_eq_true.mpr fun c member => ?_, chars.head nonempty, List.head?_eq_some_head nonempty, ?_⟩
  · have letter := List.all_eq_true.mp letters c member
    simp [Text.isWordChar, Char.isAlphanum, letter]
  · exact isDigit_eq_false_of_isAlpha (List.all_eq_true.mp letters _ (List.head_mem nonempty))

private theorem isIdentifier_of_keyword {keyword : String} {kind : Part.Kind}
    (known : Text.lowercaseAscii keyword ∈ kind.keywords) : IsIdentifier keyword.toList := by
  have letters : ∀ kind ∈ Part.Kind.all, ∀ word ∈ kind.keywords,
      word.toList.all Char.isAlpha = true ∧ word.toList ≠ [] := by decide
  obtain ⟨all, nonempty⟩ := letters kind (Part.Kind.mem_all kind) _ known
  rw [Text.toList_lowercaseAscii] at all nonempty
  refine isIdentifier_of_isAlpha (List.all_eq_true.mpr fun c member => ?_) (by simpa using nonempty)
  rw [← Char.isAlpha_toLower_eq_isAlpha]
  exact List.all_eq_true.mp all _ (List.mem_map_of_mem member)

private theorem Part.plain_items {part : Part} (pins : ∀ pin ∈ part.pins, IsIdentifier pin.name.toList) :
    ∀ item ∈ part.items, item.Plain := by
  intro item member
  simp only [items, List.mem_append, List.mem_map, Option.mem_toList] at member
  obtain (⟨state, -, rfl⟩ | ⟨pin, bound, rfl⟩) | ⟨⟨key, value⟩, known, rfl⟩ := member
  · exact isIdentifier_of_isAlpha (by cases state <;> decide) (by cases state <;> decide)
  · exact pins pin bound
  · change IsIdentifier key.toList
    cases part <;> cases known <;> exact isIdentifier_of_isAlpha (by decide) (by decide)

end Plain

namespace Circuit

/-- One line for each part, under the keyword given with it, and blank lines at the end. With one of them the last
part's line ends as the others do. -/
def script (parts : List (String × Part)) (blanks : Nat) : String :=
  "\n".intercalate (parts.map (fun (keyword, part) => part.written keyword) ++ List.replicate blanks "")

/-- The lines of a script, as they are meant. -/
def scriptLines (parts : List (String × Part)) (blanks : Nat) : List Line :=
  parts.map (fun (_, part) => .entry part.kind part.items) ++ List.replicate blanks .empty

/-- The items in the rows of a script, with the keywords. -/
def scriptRows (parts : List (String × Part)) (blanks : Nat) : List (List Item) :=
  parts.map (fun (keyword, part) => .word keyword :: part.items) ++ List.replicate blanks []

variable {parts : List (String × Part)} {blanks : Nat}

/-- The script has a row of items for each part, and rows without any for the blanks. -/
theorem script_eq_rows : script parts blanks = "\n".intercalate ((scriptRows parts blanks).map Item.row) := by
  rw [script, scriptRows, List.map_append, List.map_map, List.map_replicate]
  rfl

private theorem spelled_scriptLines
    (keywords : ∀ entry ∈ parts, Text.lowercaseAscii entry.1 ∈ entry.2.kind.keywords) :
    List.Forall₂ Line.Spelled (scriptLines parts blanks)
      ((scriptRows parts blanks).map fun items => items.flatMap Item.symbols) := by
  have items (items : List Item) : List.Forall₂ Item.Spelled items (items.map Item.symbols) :=
    List.forall₂_map_right_iff.mpr (List.forall₂_same.mpr fun item _ => item.spelled_symbols)
  rw [scriptLines, scriptRows, List.map_append, List.map_map, List.map_replicate]
  refine List.rel_append ?_ ?_
  · refine List.forall₂_map_left_iff.mpr (List.forall₂_map_right_iff.mpr (List.forall₂_same.mpr ?_))
    rintro ⟨keyword, part⟩ member
    have spelled := Line.Spelled.entry (Part.Kind.ofKeyword?_eq_some_iff.mpr (keywords _ member)) (items part.items)
    rwa [← List.flatMap_def] at spelled
  · induction blanks with
    | zero => exact .nil
    | succ blanks ih => exact .cons .empty ih

private theorem mem_scriptLines {line : Line} (member : line ∈ scriptLines parts blanks) :
    line = .empty ∨ ∃ part : Part, line = .entry part.kind part.items := by
  rcases List.mem_append.mp member with placed | blank
  · obtain ⟨⟨keyword, part⟩, -, rfl⟩ := List.mem_map.mp placed
    exact .inr ⟨part, rfl⟩
  · exact .inl (List.eq_of_mem_replicate blank)

private theorem spaces_scriptLines : (scriptLines parts blanks).filterMap Line.space? = [] := by
  refine List.filterMap_eq_nil_iff.mpr fun line member => ?_
  rcases mem_scriptLines member with rfl | ⟨part, rfl⟩ <;> rfl

private theorem consistent_scriptLines : Line.Consistent (scriptLines parts blanks) := by
  refine ⟨by simp [spaces_scriptLines], fun member => ?_⟩
  rcases mem_scriptLines member with blank | ⟨part, placed⟩
  · cases blank
  · cases placed
    exact part.consistent_items

private theorem keepToSpace_scriptLines : Line.KeepToSpace (scriptLines parts blanks) := by
  intro space member
  rw [spaces_scriptLines] at member
  cases member

/-- Blank lines at the end of a script add nothing to its sketch. -/
theorem ofLines_scriptLines : Sketch.ofLines (scriptLines parts blanks) = Sketch.ofLines (scriptLines parts 0) := by
  induction blanks with
  | zero => rfl
  | succ blanks ih =>
    have last : scriptLines parts (blanks + 1) = scriptLines parts blanks ++ [.empty] := by
      simp [scriptLines, List.replicate_succ']
    rw [last, Sketch.ofLines_concat_empty, ih]

/-- The entries of a script describe the parts that it was written from. -/
theorem mapM_ofEntry_scriptLines :
    (Sketch.ofLines (scriptLines parts blanks)).entries.mapM Part.ofEntry = .ok (parts.map Prod.snd) := by
  rw [ofLines_scriptLines]
  induction parts using List.reverseRecOn with
  | nil => rfl
  | append_singleton parts entry ih =>
    have last : scriptLines (parts ++ [entry]) 0 = scriptLines parts 0 ++ [.entry entry.2.kind entry.2.items] := by
      simp [scriptLines]
    rw [last, Sketch.ofLines_concat_entry, Sketch.addEntry, List.mapM_append, ih, List.mapM_cons, List.mapM_nil,
      Part.ofEntry_items, List.map_append]
    rfl

/-- A script is made of the symbols of its items. -/
theorem lexes_script
    (keywords : ∀ entry ∈ parts, Text.lowercaseAscii entry.1 ∈ entry.2.kind.keywords)
    (pins : ∀ entry ∈ parts, ∀ pin ∈ entry.2.pins, IsIdentifier pin.name.toList) :
    Lexes (script parts blanks).toList
      ([.newline].intercalate ((scriptRows parts blanks).map fun items => items.flatMap Item.symbols)) := by
  rw [script_eq_rows]
  refine lexes_rows fun items member item listed => ?_
  rcases List.mem_append.mp member with placed | blank
  · obtain ⟨⟨keyword, part⟩, known, rfl⟩ := List.mem_map.mp placed
    rcases List.mem_cons.mp listed with rfl | own
    · exact isIdentifier_of_keyword (keywords _ known)
    · exact part.plain_items (pins _ known) item own
  · rw [List.eq_of_mem_replicate blank] at listed
    cases listed

/-- The text of no line and that of one blank line are the same. -/
theorem exists_script_eq (parts : List (String × Part)) (blanks : Nat) :
    ∃ others, script parts blanks = script parts others ∧ scriptRows parts others ≠ [] := by
  by_cases nonempty : scriptRows parts blanks = []
  · obtain ⟨none, zero⟩ : parts = [] ∧ blanks = 0 := by simpa [scriptRows] using nonempty
    subst none zero
    exact ⟨1, by simp [script], by simp [scriptRows]⟩
  · exact ⟨blanks, rfl, nonempty⟩

/-- A circuit whose pins are identifiers is read back from its lines as it was. -/
theorem ofText_script (parts : List (String × Part)) (blanks : Nat)
    (keywords : ∀ entry ∈ parts, Text.lowercaseAscii entry.1 ∈ entry.2.kind.keywords)
    (pins : ∀ entry ∈ parts, ∀ pin ∈ entry.2.pins, IsIdentifier pin.name.toList) :
    ∃ sketch, Sketch.ofText (script parts blanks) = .ok sketch ∧
      (ofSketch sketch).value = .ok ⟨parts.map Prod.snd⟩ := by
  obtain ⟨blanks, same, nonempty⟩ := exists_script_eq parts blanks
  rw [same]
  refine ⟨Sketch.ofLines (scriptLines parts blanks), Sketch.ofText_eq_ok_iff.mpr ?_, ?_⟩
  · refine ⟨_, _, Scanner.reads_iff_lexes.mpr (lexes_script keywords pins), ?_, consistent_scriptLines,
      keepToSpace_scriptLines, rfl⟩
    exact forall₂_splitOn_iff.mpr ⟨_, by simpa using nonempty, spelled_scriptLines keywords, rfl⟩
  · rw [ofSketch, mapM_ofEntry_scriptLines]
    rfl

/-- Pins may be called as keywords are, and numbers go up to both ends of their range. -/
theorem ofText_script_reserved_pins :
    ∃ sketch, Sketch.ofText
        "LED on value=-9223372036854775808\npower on off\nStepped led value été _9 steps=9223372036854775807\n" =
        .ok sketch ∧
      (ofSketch sketch).value = .ok ⟨[.light (some ⟨"on"⟩) Int64.minValue, .power (some ⟨"off"⟩) .on,
        .stepper [⟨"led"⟩, ⟨"value"⟩, ⟨"été"⟩, ⟨"_9"⟩] Int64.maxValue]⟩ := by
  have read := ofText_script [("LED", .light (some ⟨"on"⟩) Int64.minValue), ("power", .power (some ⟨"off"⟩) .on),
    ("Stepped", .stepper [⟨"led"⟩, ⟨"value"⟩, ⟨"été"⟩, ⟨"_9"⟩] Int64.maxValue)] 1 (by decide +kernel) (by decide)
  exact read

end Circuit

end Breadboard
