import Breadboard.Proofs.FirstUse
import Breadboard.Script.OfText
import Mathlib.Data.List.Nodup

/-! # The grammar of sketches

A sketch is a row of lines and an entry a row of items. `Item.Spelled` and `Line.Spelled` say which symbols make an
item or a line. `Entry.ofItems` and `Sketch.ofLines` give what is meant, each field read off the whole list at
once, and `Item.Consistent` and `Line.Consistent` the conditions that go beyond the shape. The laws here say what
one more item or one more line changes.
-/

namespace Breadboard.Script

inductive Argument.Spelled : Argument → Symbol → Prop where
  | integer {value : Int64} {text : String} (denoted : Text.Numeral.denoted? text.toList = some value.toInt) :
      Spelled (.integer value) (.number text)
  | word (text : String) : Spelled (.word text) (.word text)

/-- What stands behind the keyword of an entry. -/
inductive Item where
  | word (text : String)
  | number (value : Int64)
  | parameter (key : String) (argument : Argument)
deriving DecidableEq, Repr

/-- No item begins with an equals sign, so a word that one follows is the key of a parameter. -/
inductive Item.Spelled : Item → List Symbol → Prop where
  | word (text : String) : Spelled (.word text) [.word text]
  | number {value : Int64} {text : String} (denoted : Text.Numeral.denoted? text.toList = some value.toInt) :
      Spelled (.number value) [.number text]
  | parameter {argument : Argument} {symbol : Symbol} (key : String) (spelled : argument.Spelled symbol) :
      Spelled (.parameter key argument) [.word key, .equals, symbol]

inductive Line where
  | empty
  /-- The directive `.pins` with its words. -/
  | space (pins : List Pin)
  | entry (kind : Part.Kind) (items : List Item)
deriving DecidableEq, Repr

inductive Line.Spelled : Line → List Symbol → Prop where
  | empty : Spelled .empty []
  | space {directive : String} {pins : List Pin} (known : Text.lowercase directive = ".pins")
      (nonempty : pins ≠ []) : Spelled (.space pins) (.directive directive :: pins.map fun pin => .word pin.name)
  | entry {keyword : String} {kind : Part.Kind} {items : List Item} {pieces : List (List Symbol)}
      (known : Part.Kind.ofKeyword? keyword = some kind) (spelled : List.Forall₂ Item.Spelled items pieces) :
      Spelled (.entry kind items) (.word keyword :: pieces.flatten)

private theorem Argument.Spelled.ne_newline {argument : Argument} {symbol : Symbol}
    (spelled : argument.Spelled symbol) : symbol ≠ .newline := by
  cases spelled <;> exact Symbol.noConfusion

/-- An item is spelled inside its line. -/
theorem Item.Spelled.newline_notMem {item : Item} {piece : List Symbol} (spelled : item.Spelled piece) :
    .newline ∉ piece := by
  cases spelled with
  | word text => simp
  | number denoted => simp
  | parameter key spelled => simpa using spelled.ne_newline.symm

/-- A line is spelled without a newline. -/
theorem Line.Spelled.newline_notMem {line : Line} {piece : List Symbol} (spelled : line.Spelled piece) :
    .newline ∉ piece := by
  cases spelled with
  | empty => simp
  | space known nonempty => simp
  | @entry keyword kind items pieces known spelled =>
    simp only [List.mem_cons, reduceCtorEq, false_or]
    induction spelled with
    | nil => simp
    | cons first others ih =>
      rw [List.flatten_cons, List.mem_append, not_or]
      exact ⟨first.newline_notMem, ih⟩

namespace Item

def word? : Item → Option String
  | word text => some text
  | _ => none

def number? : Item → Option Int64
  | number value => some value
  | _ => none

/-- The key of a parameter, in small letters, and its argument. -/
def parameter? : Item → Option (String × Argument)
  | parameter key argument => some (Text.lowercase key, argument)
  | _ => none

/-- In an entry of this kind the word can be the state. -/
def namesState (kind : Part.Kind) (text : String) : Bool :=
  kind = .power && (Power.ofWord? text).isSome

/-- The state is the first word that can be it. -/
def state? (kind : Part.Kind) (items : List Item) : Option String :=
  (items.filterMap word?).find? (namesState kind)

/-- All words but the state are pins. -/
def pins (kind : Part.Kind) (items : List Item) : List Pin :=
  ((items.filterMap word?).eraseP (namesState kind)).map Pin.mk

/-- An entry has at most one bare number, and each parameter once. -/
structure Consistent (items : List Item) : Prop where
  numbers : (items.filterMap number?).length ≤ 1
  keys : ((items.filterMap parameter?).map Prod.fst).Nodup

end Item

def Entry.ofItems (kind : Part.Kind) (items : List Item) (line : Nat) : Entry where
  kind := kind
  pins := Item.pins kind items
  value := (items.filterMap Item.number?).head?
  state := Item.state? kind items
  parameters := .ofList (items.filterMap Item.parameter?)
  line := line

namespace Line

def space? : Line → Option (List Pin)
  | space pins => some pins
  | _ => none

/-- The entry of the line with this number. -/
def entry? (number : Nat) : Line → Option Entry
  | entry kind items => some (.ofItems kind items number)
  | _ => none

/-- One line at most declares the pin space, and the items of each entry are consistent. -/
structure Consistent (lines : List Line) : Prop where
  spaces : (lines.filterMap space?).length ≤ 1
  items : ∀ {kind items}, entry kind items ∈ lines → Item.Consistent items

/-- Where a line declares the pin space, before or after an entry, each pin of the entry belongs to it. -/
def KeepToSpace (lines : List Line) : Prop :=
  ∀ {space}, space ∈ lines.filterMap space? → ∀ {kind items}, entry kind items ∈ lines →
    ∀ pin ∈ Item.pins kind items, pin ∈ space

end Line

def Sketch.ofLines (lines : List Line) : Sketch where
  space := (lines.filterMap Line.space?).head?.map List.eraseDups
  entries := lines.zipIdx.filterMap fun (line, index) => line.entry? (index + 1)

namespace Parameters

private theorem contains_iff_find? {parameters : Parameters} {key : String} :
    parameters.contains key = true ↔ (parameters.find? key).isSome = true := by
  simp [contains, find?]

/-- Parameters are collected from the first on, each set behind the ones before it. -/
theorem ofList_concat (pairs : List (String × Argument)) (pair : String × Argument) :
    ofList (pairs ++ [pair]) = (ofList pairs).insert pair.1 pair.2 :=
  List.foldl_append

private theorem contains_ofList {pairs : List (String × Argument)} {key : String} :
    (ofList pairs).contains key = true ↔ key ∈ pairs.map Prod.fst := by
  rw [contains_iff_find?]
  induction pairs using List.reverseRecOn with
  | nil => simp [ofList, empty, find?]
  | append_singleton pairs pair ih =>
    rw [ofList_concat, find?_insert, List.map_append, List.mem_append, ← ih]
    by_cases same : pair.1 = key
    · simp [same]
    · simp [same, Ne.symm same]

end Parameters

section OneMoreItem

variable {kind : Part.Kind} {items : List Item} {line : Nat}

/-- Items that are consistent are so up to each of them. -/
theorem Item.Consistent.of_append {more : List Item} (consistent : Item.Consistent (items ++ more)) :
    Item.Consistent items := by
  obtain ⟨numbers, keys⟩ := consistent
  simp only [List.filterMap_append, List.length_append, List.map_append] at numbers keys
  exact ⟨Nat.le_trans (Nat.le_add_right _ _) numbers, (List.nodup_append.mp keys).1⟩

/-- A further word is the state if it can be and no word before it is. -/
theorem Item.state?_concat_word (text : String) :
    state? kind (items ++ [.word text]) =
      if state? kind items = none ∧ namesState kind text = true then some text else state? kind items := by
  have split : state? kind (items ++ [.word text]) = (state? kind items).or ([text].find? (namesState kind)) := by
    simp only [state?, List.filterMap_append, List.find?_append]
    rfl
  rw [split]
  cases state? kind items with
  | some state => simp
  | none => cases names : namesState kind text <;> simp [names]

private theorem Item.pins_concat_word (text : String) :
    pins kind (items ++ [.word text]) =
      if state? kind items = none ∧ namesState kind text = true then pins kind items
      else pins kind items ++ [⟨text⟩] := by
  have words : (items ++ [Item.word text]).filterMap word? = items.filterMap word? ++ [text] := List.filterMap_append
  simp only [pins, words, List.eraseP_append]
  cases found : state? kind items with
  | some state =>
    have taken : (items.filterMap word?).any (namesState kind) = true :=
      List.any_eq_true.mpr ⟨state, List.mem_of_find?_eq_some found, List.find?_some found⟩
    simp [taken]
  | none =>
    have others := List.find?_eq_none.mp found
    have free : (items.filterMap word?).any (namesState kind) = false :=
      Bool.eq_false_iff.mpr fun taken => by
        obtain ⟨text, member, names⟩ := List.any_eq_true.mp taken
        exact others text member names
    rw [List.eraseP_of_forall_not others]
    cases names : namesState kind text <;> simp [free, names]

private theorem Entry.addWord_ofItems (text : String) :
    (Entry.ofItems kind items line).addWord text = .ofItems kind (items ++ [.word text]) line := by
  have asked : (kind = .power ∧ Item.state? kind items = none ∧ (Power.ofWord? text).isSome = true) ↔
      Item.state? kind items = none ∧ Item.namesState kind text = true := by
    simp only [Item.namesState, Bool.and_eq_true, decide_eq_true_eq]
    exact and_left_comm
  simp only [ofItems, addWord, asked, Item.state?_concat_word, Item.pins_concat_word, List.filterMap_append]
  split <;> simp [List.filterMap_cons, Item.number?, Item.parameter?]

private theorem Entry.addNumber_ofItems (unused : items.filterMap Item.number? = []) (value : Int64) :
    { Entry.ofItems kind items line with value := some value } = .ofItems kind (items ++ [.number value]) line := by
  simp [ofItems, Item.pins, Item.state?, unused, List.filterMap_cons, Item.word?, Item.number?, Item.parameter?]

private theorem Entry.addParameter_ofItems (key : String) (argument : Argument) :
    { Entry.ofItems kind items line with
      parameters := (Parameters.ofList (items.filterMap Item.parameter?)).insert (Text.lowercase key) argument } =
      .ofItems kind (items ++ [.parameter key argument]) line := by
  simp [ofItems, Item.pins, Item.state?, Parameters.ofList_concat, List.filterMap_cons, Item.word?, Item.number?,
    Item.parameter?]

/-- What an entry is after one more item, if it can take it. -/
def Entry.Takes (entry next : Entry) : Item → Prop
  | .word text => next = entry.addWord text
  | .number value => entry.value = none ∧ next = { entry with value := some value }
  | .parameter key argument =>
    entry.parameters.contains (Text.lowercase key) = false ∧
      next = { entry with parameters := entry.parameters.insert (Text.lowercase key) argument }

/-- A number is added exactly when it denotes one of 64 bits, which the entry takes. -/
theorem Entry.addNumber_eq_ok_iff {entry next : Entry} {text : String} :
    entry.addNumber text = .ok next ↔
      ∃ value : Int64, Text.Numeral.denoted? text.toList = some value.toInt ∧ entry.Takes next (.number value) := by
  simp only [addNumber, Takes, ← Text.Numeral.read?_eq_some_iff]
  cases entry.value with
  | some value => simp
  | none => cases Text.Numeral.read? text <;> simp [eq_comm]

/-- A parameter is added exactly when the entry takes it. -/
theorem Entry.addParameter_eq_ok_iff {entry next : Entry} {key : String} {argument : Argument} :
    entry.addParameter (Text.lowercase key) argument = .ok next ↔ entry.Takes next (.parameter key argument) := by
  rw [addParameter, Takes]
  cases entry.parameters.contains (Text.lowercase key) <;> simp [eq_comm]

/-- An entry of consistent items takes one more exactly when they are consistent with it. -/
theorem Entry.takes_ofItems_iff {item : Item} {next : Entry} (consistent : Item.Consistent items) :
    (Entry.ofItems kind items line).Takes next item ↔
      Item.Consistent (items ++ [item]) ∧ next = .ofItems kind (items ++ [item]) line := by
  obtain ⟨numbers, keys⟩ := consistent
  cases item with
  | word text =>
    have still : Item.Consistent (items ++ [.word text]) :=
      ⟨by simpa [List.filterMap_cons, Item.number?] using numbers,
        by simpa [List.filterMap_cons, Item.parameter?] using keys⟩
    simp only [Takes, addWord_ofItems, still, true_and]
  | number value =>
    have free : (Entry.ofItems kind items line).value = none ↔ Item.Consistent (items ++ [.number value]) := by
      rw [ofItems, List.head?_eq_none_iff, ← List.length_eq_zero_iff]
      constructor
      · intro none
        exact ⟨by simp [Item.number?, none], by simpa [List.filterMap_cons, Item.parameter?] using keys⟩
      · rintro ⟨numbers, -⟩
        simpa [List.filterMap_cons, Item.number?] using numbers
    rw [← free]
    exact and_congr_right fun none => by rw [addNumber_ofItems (List.head?_eq_none_iff.mp none)]
  | parameter key argument =>
    have known : ((items ++ [Item.parameter key argument]).filterMap Item.parameter?).map Prod.fst =
        ((items.filterMap Item.parameter?).map Prod.fst).concat (Text.lowercase key) := by
      simp [Item.parameter?]
    have free : (Entry.ofItems kind items line).parameters.contains (Text.lowercase key) = false ↔
        Item.Consistent (items ++ [.parameter key argument]) := by
      rw [ofItems, Bool.eq_false_iff, Ne, Parameters.contains_ofList]
      constructor
      · intro fresh
        refine ⟨by simpa [List.filterMap_cons, Item.number?] using numbers, ?_⟩
        rw [known]
        exact (List.nodup_concat _ _).mpr ⟨fresh, keys⟩
      · rintro ⟨-, keys⟩
        rw [known] at keys
        exact ((List.nodup_concat _ _).mp keys).1
    rw [← free, ← addParameter_ofItems]
    rfl

end OneMoreItem

section OneMoreLine

variable {lines : List Line}

/-- Lines that are consistent are so up to each of them. -/
theorem Line.Consistent.of_append {more : List Line} (consistent : Line.Consistent (lines ++ more)) :
    Line.Consistent lines := by
  obtain ⟨spaces, items⟩ := consistent
  rw [List.filterMap_append, List.length_append] at spaces
  exact ⟨Nat.le_trans (Nat.le_add_right _ _) spaces, fun member => items (List.mem_append_left _ member)⟩

/-- An empty line adds nothing to a sketch. -/
theorem Sketch.ofLines_concat_empty : ofLines (lines ++ [.empty]) = ofLines lines := by
  simp [ofLines, List.zipIdx_append, Line.space?, Line.entry?]

/-- A line with an entry adds it, under the number of that line. -/
theorem Sketch.ofLines_concat_entry (kind : Part.Kind) (items : List Item) :
    ofLines (lines ++ [.entry kind items]) =
      (ofLines lines).addEntry (.ofItems kind items (lines.length + 1)) := by
  simp [ofLines, addEntry, List.zipIdx_append, Line.space?, Line.entry?]

/-- A sketch has no space exactly when no line declares one. -/
theorem Sketch.space_ofLines_eq_none_iff :
    (ofLines lines).space = none ↔ lines.filterMap Line.space? = [] := by
  rw [ofLines, Option.map_eq_none_iff, List.head?_eq_none_iff]

private theorem Sketch.ofLines_concat_space (undeclared : (ofLines lines).space = none) (pins : List Pin) :
    ofLines (lines ++ [.space pins]) = { ofLines lines with space := some pins.eraseDups } := by
  have first : (lines ++ [Line.space pins]).filterMap Line.space? = [pins] := by
    rw [List.filterMap_append, space_ofLines_eq_none_iff.mp undeclared]
    rfl
  rw [ofLines, first]
  simp [ofLines, List.zipIdx_append, Line.entry?]

/-- What a sketch is after one more line, if it can take it. -/
def Sketch.Takes (sketch next : Sketch) (number : Nat) : Line → Prop
  | .empty => next = sketch
  | .space pins => sketch.space = none ∧ next = { sketch with space := some pins.eraseDups }
  | .entry kind items => Item.Consistent items ∧ next = sketch.addEntry (.ofItems kind items number)

/-- A sketch of consistent lines takes one more exactly when they are consistent with it. -/
theorem Sketch.takes_ofLines_iff {line : Line} {next : Sketch} (consistent : Line.Consistent lines) :
    (ofLines lines).Takes next (lines.length + 1) line ↔
      Line.Consistent (lines ++ [line]) ∧ next = ofLines (lines ++ [line]) := by
  obtain ⟨spaces, items⟩ := consistent
  cases line with
  | empty =>
    have still : Line.Consistent (lines ++ [.empty]) :=
      ⟨by simpa [List.filterMap_cons, Line.space?] using spaces, fun member => items (by simpa using member)⟩
    simp only [Takes, ofLines_concat_empty, still, true_and]
  | space pins =>
    have free : (ofLines lines).space = none ↔ Line.Consistent (lines ++ [.space pins]) := by
      rw [space_ofLines_eq_none_iff, ← List.length_eq_zero_iff]
      constructor
      · intro none
        exact ⟨by simp [Line.space?, none], fun member => items (by simpa using member)⟩
      · rintro ⟨spaces, -⟩
        simpa [Line.space?] using spaces
    rw [← free]
    exact and_congr_right fun none => by rw [ofLines_concat_space none]
  | entry kind entryItems =>
    have free : Item.Consistent entryItems ↔ Line.Consistent (lines ++ [.entry kind entryItems]) := by
      constructor
      · intro consistent
        refine ⟨by simpa [List.filterMap_cons, Line.space?] using spaces, fun member => ?_⟩
        rcases List.mem_append.mp member with earlier | last
        · exact items earlier
        · cases List.mem_singleton.mp last
          exact consistent
      · rintro ⟨-, items⟩
        exact items (List.mem_append_right _ List.mem_cons_self)
    rw [← free, ofLines_concat_entry]
    rfl

end OneMoreLine

/-- The entries of a sketch are those of its lines, each with the number of its line. -/
theorem Sketch.mem_entries_ofLines {lines : List Line} {entry : Entry} :
    entry ∈ (ofLines lines).entries ↔
      ∃ kind items index, lines[index]? = some (.entry kind items) ∧ entry = .ofItems kind items (index + 1) := by
  simp only [ofLines, List.mem_filterMap, Prod.exists, List.mk_mem_zipIdx_iff_getElem?]
  constructor
  · rintro ⟨line, index, found, read⟩
    cases line with
    | entry kind items => exact ⟨kind, items, index, found, (Option.some.inj read).symm⟩
    | empty => cases read
    | space pins => cases read
  · rintro ⟨kind, items, index, found, rfl⟩
    exact ⟨_, index, found, rfl⟩

/-- An entry has no stray pin exactly when all of its pins are in the space. -/
theorem Sketch.strayPin?_eq_none_iff {space : List Pin} {entry : Entry} :
    strayPin? space entry = none ↔ ∀ pin ∈ entry.pins, pin ∈ space := by
  simp [strayPin?]

/-- The search for a pin outside the declared space finds none exactly when there is none. -/
theorem Sketch.firstStray?_ofLines_eq_none_iff {lines : List Line} (consistent : Line.Consistent lines) :
    (ofLines lines).firstStray? = none ↔ Line.KeepToSpace lines := by
  cases declared : lines.filterMap Line.space? with
  | nil =>
    have undeclared := space_ofLines_eq_none_iff.mpr declared
    simp [firstStray?, undeclared, Line.KeepToSpace, declared]
  | cons pins others =>
    have single : others = [] := by
      have := consistent.spaces
      rw [declared, List.length_cons] at this
      exact List.eq_nil_of_length_eq_zero (by omega)
    have space : (ofLines lines).space = some pins.eraseDups := by rw [ofLines, declared]; rfl
    simp only [firstStray?, space, Option.bind_some, List.findSome?_eq_none_iff, strayPin?_eq_none_iff,
      List.mem_eraseDups]
    constructor
    · intro known space member kind items line
      rw [declared, single, List.mem_singleton] at member
      obtain ⟨index, found⟩ := List.mem_iff_getElem?.mp line
      rw [member]
      exact known _ (mem_entries_ofLines.mpr ⟨kind, items, index, found, rfl⟩)
    · intro keeps entry member
      obtain ⟨kind, items, index, found, rfl⟩ := mem_entries_ofLines.mp member
      exact keeps (by simp [declared]) (List.mem_of_getElem? found)

end Breadboard.Script
