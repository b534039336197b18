import Breadboard.Proofs.Rows
import Mathlib.Data.List.DropRight

/-! # Source text without its notes

A program is the same with and without notes: whoever takes them out of the annotated text, with the blanks in front of
them and the lines on which nothing else stands, is left with the plain text.
-/

namespace Breadboard

/-! ## Taking notes out -/

namespace Text

/-- The blanks with which lines are laid out. -/
def isPadding (c : Char) : Bool :=
  c = ' ' || c = '\t'

/-- A line up to its note and without the blanks before it, or none if nothing but blanks is left. A line with no note
stays as it is. -/
def uncommentedLine? (line : List Char) : Option (List Char) :=
  match beforeNote? line with
  | none => some line
  | some front =>
    let kept := front.rdropWhile isPadding
    if kept = [] then none else some kept

/-- A text without its notes, line by line. -/
def uncommented (text : String) : String :=
  .ofList (['\n'].intercalate ((text.toList.splitOn '\n').filterMap uncommentedLine?))

private theorem uncommentedLine?_of_clear {text : String} (clear : IsClear text) :
    uncommentedLine? text.toList = some text.toList := by
  rw [uncommentedLine?, clear.beforeNote?_eq_none]

/-- A note goes with the blank before it, and a statement that ends in a semicolon stays. -/
theorem uncommentedLine?_noted {text : String} (clear : IsClear text) (closed : text.toList.getLast? = some ';')
    (note : String) : uncommentedLine? (text ++ " // " ++ note).toList = some text.toList := by
  obtain ⟨front, shape⟩ := List.getLast?_eq_some_iff.mp closed
  have kept : (text.toList ++ [' ']).rdropWhile isPadding = text.toList := by
    rw [List.rdropWhile_concat_pos _ _ _ rfl, shape, List.rdropWhile_concat_neg _ _ _ (by decide)]
  have nonempty : text.toList ≠ [] := by simp [shape]
  rw [uncommentedLine?, clear.beforeNote?_noted]
  simp only [kept, nonempty, if_false]

/-- Blanks and tabs are bare. -/
theorem isBare_of_isPadding {indentation : String} (blank : ∀ c ∈ indentation.toList, isPadding c = true) :
    IsBare indentation := by
  constructor <;> intro member <;> cases blank _ member

/-- A note that stands alone goes with its line. -/
theorem uncommentedLine?_remark {indentation : String} (blank : ∀ c ∈ indentation.toList, isPadding c = true)
    (note : String) : uncommentedLine? (indentation ++ "// " ++ note).toList = none := by
  have bare := isBare_of_isPadding blank
  have cut : beforeNote? (indentation ++ "// " ++ note).toList = some indentation.toList := by
    rw [String.toList_append, String.toList_append, List.append_assoc,
      beforeNote?_append bare.isClear.beforeNote?_eq_none (.inl fun last => bare.2 (List.mem_of_mem_getLast? last))]
    simp [beforeNote?]
  have kept : indentation.toList.rdropWhile isPadding = [] := List.rdropWhile_eq_nil_iff.mpr blank
  rw [uncommentedLine?, cut]
  simp only [kept, if_true]

end Text

/-! ## Rows -/

section Rows

variable {indent : String} (blank : ∀ c ∈ indent.toList, Text.isPadding c = true)
include blank

private theorem isPadding_of_mem_indentation (depth : Nat) :
    ∀ c ∈ (indentation indent depth).toList, Text.isPadding c = true :=
  fun c member => blank c (mem_indentation member)

/-- Without its note the line of a row is the line that it has where no notes are wanted. -/
theorem Row.uncommentedLine?_line? {row : Row} (legible : row.Legible) :
    ((row.line? ⟨true, indent⟩).bind fun line => Text.uncommentedLine? line.toList) =
      (row.line? ⟨false, indent⟩).map String.toList := by
  cases row with
  | statement depth text note? =>
    obtain ⟨clear, -, noted⟩ := legible
    have indented := (Text.isBare_of_isPadding (isPadding_of_mem_indentation blank depth)).append_clear clear
    cases note? with
    | none => simpa [line?] using Text.uncommentedLine?_of_clear indented
    | some note =>
      have closed : (indentation indent depth ++ text).toList.getLast? = some ';' := by
        rw [String.toList_append, List.getLast?_append, (noted note rfl).2, Option.some_or]
      have cut := Text.uncommentedLine?_noted indented closed note
      simpa [line?, String.append_assoc] using cut
  | remark depth note =>
    simpa [line?] using Text.uncommentedLine?_remark (isPadding_of_mem_indentation blank depth) note

private theorem Row.filterMap_uncommentedLine? {rows : List Row} (legible : ∀ row ∈ rows, row.Legible) :
    (rows.filterMap (Row.line? ⟨true, indent⟩)).filterMap (fun line => Text.uncommentedLine? line.toList) =
      (rows.filterMap (Row.line? ⟨false, indent⟩)).map String.toList := by
  rw [List.filterMap_filterMap, List.map_filterMap]
  exact List.filterMap_congr fun row listed => uncommentedLine?_line? blank (legible row listed)

end Rows

/-- No note hides a statement: what is printed without notes is printed with them, each statement at the front of its
line. -/
theorem Row.sublistForall₂_line? (indent : String) (rows : List Row) :
    List.SublistForall₂ (fun bare noted => noted = bare ∨ ∃ note, noted = bare ++ " // " ++ note)
      (rows.filterMap (Row.line? ⟨false, indent⟩)) (rows.filterMap (Row.line? ⟨true, indent⟩)) := by
  induction rows with
  | nil => exact .nil
  | cons row rest ih =>
    cases row with
    | statement depth text note? =>
      refine .cons ?_ ih
      cases note? with
      | none => exact .inl rfl
      | some note => exact .inr ⟨note, by simp [String.append_assoc]⟩
    | remark depth note => exact .cons_right ih

/-! ## Circuits -/

/-- The same statements with and without notes. -/
structure Sections.Annotates (noted bare : Sections) : Prop where
  declarations : noted.declarations = bare.declarations
  setup : List.Forall₂ (fun noted bare => ∃ note, noted = bare ++ " // " ++ note) noted.setup bare.setup
  loop : List.SublistForall₂ (fun bare noted => noted = bare ∨ ∃ note, noted = bare ++ " // " ++ note)
    bare.loop noted.loop

private theorem Program.annotates_sections (indent : String) (program : Program) :
    (program.sections ⟨true, indent⟩).Annotates (program.sections ⟨false, indent⟩) := by
  constructor
  case declarations => rfl
  case setup =>
    refine List.forall₂_map_left_iff.mpr (List.forall₂_map_right_iff.mpr (List.forall₂_same.mpr fun step _ => ?_))
    have noted (statement note : String) : Style.line ⟨true, indent⟩ statement note =
        Style.line ⟨false, indent⟩ statement note ++ " // " ++ note := by
      simp [Style.line, String.append_assoc]
    cases step <;> exact ⟨_, noted _ _⟩
  case loop =>
    have lines := Row.sublistForall₂_line? indent (program.loop.flatMap Command.rows)
    rwa [Command.filterMap_flatMap_rows, Command.filterMap_flatMap_rows] at lines

namespace Circuit

/-- The annotated text of a circuit without its notes is the plain text, and all that the notes are added to is
the same in both. -/
theorem uncommented_compile {circuit : Circuit} {indent : String} (clear : circuit.ClearPins)
    (blank : ∀ c ∈ indent.toList, Text.isPadding c = true) :
    Text.uncommented (circuit.compile ⟨true, indent⟩).value = (circuit.compile ⟨false, indent⟩).value ∧
      (circuit.sections ⟨true, indent⟩).value.Annotates (circuit.sections ⟨false, indent⟩).value := by
  refine ⟨?_, circuit.program.annotates_sections indent⟩
  have unbroken : '\n' ∉ (Style.mk true indent).indent.toList := (Text.isBare_of_isPadding blank).1
  have lines := Row.filterMap_uncommentedLine? blank (legible_rows clear)
  rw [← String.ofList_toList (s := (circuit.compile ⟨false, indent⟩).value), toList_compile, ← lines, Text.uncommented,
    splitOn_compile clear unbroken, List.filterMap_append, List.filterMap_map]
  rfl

/-- A pin that ends in a slash, one that begins with one, and a button that says nothing but remarks. -/
theorem uncommented_compile_lone_slashes :
    let circuit : Circuit := ⟨[.button (some ⟨"A/"⟩), .light (some ⟨"/B"⟩) 1, .stepper [⟨"/"⟩, ⟨"/"⟩, ⟨"C"⟩, ⟨"/ "⟩] 5]⟩
    circuit.ClearPins ∧ (∀ c ∈ "\t ".toList, Text.isPadding c = true) ∧
      Text.uncommented (circuit.compile ⟨true, "\t "⟩).value = (circuit.compile ⟨false, "\t "⟩).value ∧
      (circuit.sections ⟨true, "\t "⟩).value.Annotates (circuit.sections ⟨false, "\t "⟩).value := by
  intro circuit
  have clear : circuit.ClearPins := by decide
  have blank : ∀ c ∈ "\t ".toList, Text.isPadding c = true := by simp [Text.isPadding]
  exact ⟨clear, blank, uncommented_compile clear blank⟩

end Circuit

end Breadboard
