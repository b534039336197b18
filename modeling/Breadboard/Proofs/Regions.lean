import Breadboard.Proofs.Notes
import Breadboard.Proofs.Recovery

/-! # Regions of a source text

What an accepted sketch names its pins cannot break the program that is made of it: each entry of a section is one
line, the lines stand in the fixed layout, and brackets pair up. So the sections can be read off the text alone by
`Sections.ofText`, although a button without indentation closes a brace at the margin as `setup` does.
-/

namespace Breadboard

/-! ## Brackets -/

inductive Bracket where
  | round
  | curly
deriving DecidableEq, Repr

namespace Bracket

def opening : Bracket → Char
  | round => '('
  | curly => '\x7b'

def closing : Bracket → Char
  | round => ')'
  | curly => '\x7d'

/-- How many more of these brackets a text opens than it closes. -/
def surplus (bracket : Bracket) (text : String) : Int :=
  text.toList.count bracket.opening - text.toList.count bracket.closing

variable (bracket : Bracket)

private theorem surplus_append (front rest : String) :
    bracket.surplus (front ++ rest) = bracket.surplus front + bracket.surplus rest := by
  simp only [surplus, String.toList_append, List.count_append]
  omega

private theorem surplus_join (texts : List String) :
    bracket.surplus (String.join texts) = (texts.map bracket.surplus).sum := by
  induction texts with
  | nil => cases bracket <;> rfl
  | cons text rest ih => rw [String.join_cons, surplus_append, ih, List.map_cons, List.sum_cons]

private theorem surplus_eq_zero {text : String} (free : ∀ c ∈ text.toList, c ≠ bracket.opening ∧ c ≠ bracket.closing) :
    bracket.surplus text = 0 := by
  have opened : bracket.opening ∉ text.toList := fun member => (free _ member).1 rfl
  have closed : bracket.closing ∉ text.toList := fun member => (free _ member).2 rfl
  simp [surplus, List.count_eq_zero.mpr opened, List.count_eq_zero.mpr closed]

private theorem surplus_word {text : String} (word : Text.IsWord text) : bracket.surplus text = 0 := by
  have marks : Text.isWordChar bracket.opening = false ∧ Text.isWordChar bracket.closing = false := by
    cases bracket <;> decide +kernel
  refine bracket.surplus_eq_zero fun c member => ⟨?_, ?_⟩
  · rintro rfl
    exact word.notMem marks.1 member
  · rintro rfl
    exact word.notMem marks.2 member

private theorem surplus_padding {text : String} (blank : ∀ c ∈ text.toList, Text.isPadding c = true) :
    bracket.surplus text = 0 := by
  refine bracket.surplus_eq_zero fun c member => ?_
  constructor <;> rintro rfl <;> cases bracket <;> cases blank _ member

private theorem surplus_written (n : Int64) : bracket.surplus (Text.Numeral.written n) = 0 := by
  refine bracket.surplus_eq_zero fun c member => ?_
  rcases Text.Numeral.mem_written member with rfl | digit
  · cases bracket <;> decide
  · constructor <;> rintro rfl <;> cases bracket <;> cases digit

end Bracket

section Surplus

variable (bracket : Bracket) (style : Style)

private theorem surplus_line (statement note : String) (blank : ∀ c ∈ style.indent.toList, Text.isPadding c = true) :
    bracket.surplus (style.line statement note) =
      bracket.surplus statement + if style.annotate then bracket.surplus note else 0 := by
  have indented : bracket.surplus style.indent = 0 := bracket.surplus_padding blank
  have slashes : bracket.surplus " // " = 0 := by cases bracket <;> decide
  have nothing : bracket.surplus "" = 0 := by cases bracket <;> decide
  unfold Style.line
  split <;> simp only [Bracket.surplus_append, indented, slashes, nothing] <;> omega

private theorem surplus_noteLine {indentation note : String} (indented : bracket.surplus indentation = 0)
    (noted : bracket.surplus note = 0) : ((style.noteLine indentation note).map bracket.surplus).sum = 0 := by
  have slashes : bracket.surplus "// " = 0 := by cases bracket <;> decide
  unfold Style.noteLine
  split
  · simp only [List.map_singleton, List.sum_singleton, Bracket.surplus_append, indented, slashes, noted, add_zero]
  · rfl

private theorem surplus_declaration {declaration : Declaration} (words : ∀ word ∈ declaration.words, Text.IsWord word) :
    bracket.surplus declaration.text = 0 := by
  cases declaration with
  | servo name =>
    have motor := bracket.surplus_word (words name List.mem_cons_self)
    simp only [Declaration.text, Bracket.surplus_append, motor]
    cases bracket <;> decide
  | stepper name coils =>
    simp only [Declaration.words, Declaration.name, Declaration.pins, Coils.pins, List.map_cons, List.map_nil,
      List.forall_mem_cons] at words
    obtain ⟨motor, first, second, third, fourth, -⟩ := words
    have listed : bracket.surplus (", ".intercalate (coils.pins.map Pin.name)) = 0 := by
      change bracket.surplus (coils.first.name ++ ", " ++ coils.second.name ++ ", " ++ coils.third.name ++ ", " ++
        coils.fourth.name) = 0
      simp only [Bracket.surplus_append, Bracket.surplus_word, first, second, third, fourth]
      cases bracket <;> decide
    simp only [Declaration.text, Bracket.surplus_append, listed, bracket.surplus_word motor]
    cases bracket <;> decide

private theorem surplus_setupStep {step : SetupStep} (words : ∀ word ∈ step.words, Text.IsWord word)
    (blank : ∀ c ∈ style.indent.toList, Text.isPadding c = true) : bracket.surplus (step.line style) = 0 := by
  cases step with
  | configure pin mode kind =>
    have named := bracket.surplus_word (words pin.name (by simp [SetupStep.words, SetupStep.pins]))
    simp only [SetupStep.line, surplus_line bracket style _ _ blank, Bracket.surplus_append, named]
    cases bracket <;> cases mode <;> cases kind <;> cases style.annotate <;> decide
  | attach name pin =>
    have motor := bracket.surplus_word (words name (by simp [SetupStep.words, SetupStep.motor?]))
    have named := bracket.surplus_word (words pin.name (by simp [SetupStep.words, SetupStep.pins]))
    simp only [SetupStep.line, surplus_line bracket style _ _ blank, Bracket.surplus_append, motor, named]
    cases bracket <;> cases style.annotate <;> decide
  | setSpeed name =>
    have motor := bracket.surplus_word (words name (by simp [SetupStep.words, SetupStep.motor?]))
    simp only [SetupStep.line, surplus_line bracket style _ _ blank, Bracket.surplus_append, motor]
    cases bracket <;> cases style.annotate <;> decide

private theorem surplus_write {pin : Pin} (named : Text.IsWord pin.name) (lit : Bool) {note : String}
    (noted : bracket.surplus note = 0) (blank : ∀ c ∈ style.indent.toList, Text.isPadding c = true) :
    bracket.surplus (style.line (writeStatement pin (if lit then "HIGH" else "LOW")) note) = 0 := by
  simp only [writeStatement, surplus_line bracket style _ _ blank, Bracket.surplus_append,
    bracket.surplus_word named, noted]
  cases bracket <;> cases lit <;> cases style.annotate <;> decide

/-- A call with one number, of which the front opens a parenthesis. -/
theorem surplus_call {front note : String} (number : Int64) (opened : bracket.surplus front = bracket.surplus "(")
    (noted : bracket.surplus note = 0) (blank : ∀ c ∈ style.indent.toList, Text.isPadding c = true) :
    bracket.surplus (style.line (front ++ Text.Numeral.written number ++ ");") note) = 0 := by
  simp only [surplus_line bracket style _ _ blank, Bracket.surplus_append, bracket.surplus_written, opened, noted]
  cases bracket <;> cases style.annotate <;> decide

private theorem surplus_counted {front unit : String} (number : Int64) (frontBare : bracket.surplus front = 0)
    (unitBare : bracket.surplus unit = 0) :
    bracket.surplus (front ++ Text.Numeral.written number ++ unit) = 0 := by
  simp only [Bracket.surplus_append, bracket.surplus_written, frontBare, unitBare, add_zero]

/-- A button opens a brace on its first line and closes it on its last. -/
theorem surplus_command {command : Command} (words : ∀ word ∈ command.words, Text.IsWord word)
    (blank : ∀ c ∈ style.indent.toList, Text.isPadding c = true) :
    ((command.lines style).map bracket.surplus).sum = 0 := by
  cases command with
  | light pin lit =>
    have named := words pin.name (by simp [Command.words, Command.pins, Command.pin?])
    rw [Command.lines, List.map_singleton, List.sum_singleton]
    exact surplus_write bracket style named lit (by cases bracket <;> cases lit <;> decide) blank
  | poll pin =>
    have named := bracket.surplus_word (words pin.name (by simp [Command.words, Command.pins, Command.pin?]))
    have indented := bracket.surplus_padding blank
    have twice : bracket.surplus (style.indent ++ style.indent) = 0 := by
      rw [Bracket.surplus_append, indented, add_zero]
    simp only [Command.lines, List.map_append, List.sum_append, List.map_singleton, List.sum_singleton]
    rw [surplus_noteLine bracket style twice (by cases bracket <;> decide),
      surplus_noteLine bracket style twice (by cases bracket <;> decide)]
    simp only [Bracket.surplus_append, indented, named]
    cases bracket <;> decide
  | turn name angle =>
    have motor := bracket.surplus_word (words name (by simp [Command.words, Command.motor?]))
    rw [Command.lines, List.map_singleton, List.sum_singleton]
    refine surplus_call bracket style angle ?_ (surplus_counted bracket angle ?_ ?_) blank
    · rw [Bracket.surplus_append, motor]
      cases bracket <;> decide
    · cases bracket <;> decide
    · cases bracket <;> decide
  | advance name steps =>
    have motor := bracket.surplus_word (words name (by simp [Command.words, Command.motor?]))
    rw [Command.lines, List.map_singleton, List.sum_singleton]
    refine surplus_call bracket style steps ?_ (surplus_counted bracket steps ?_ ?_) blank
    · rw [Bracket.surplus_append, motor]
      cases bracket <;> decide
    · cases bracket <;> decide
    · cases bracket <;> decide
  | wait milliseconds =>
    rw [Command.lines, List.map_singleton, List.sum_singleton]
    refine surplus_call bracket style milliseconds ?_ (surplus_counted bracket milliseconds ?_ ?_) blank
    all_goals cases bracket <;> decide
  | blink pin interval =>
    have named := words pin.name (by simp [Command.words, Command.pins, Command.pin?])
    have noted : bracket.surplus ("Wait for " ++ Text.Numeral.written interval ++ " ms") = 0 :=
      surplus_counted bracket interval (by cases bracket <;> decide) (by cases bracket <;> decide)
    have opened : bracket.surplus "delay(" = bracket.surplus "(" := by cases bracket <;> decide
    have pause := surplus_call bracket style interval opened noted blank
    have on : bracket.surplus ("Turn " ++ Part.Kind.blinker.name ++ " on") = 0 := by cases bracket <;> decide
    have off : bracket.surplus ("Turn " ++ Part.Kind.blinker.name ++ " off") = 0 := by cases bracket <;> decide
    have lit := surplus_write bracket style named true on blank
    have dark := surplus_write bracket style named false off blank
    simp only [Command.lines, delayStatement, List.map_cons, List.sum_cons, List.map_nil, List.sum_nil, pause]
    simp only [if_true, Bool.false_eq_true, if_false] at lit dark
    rw [lit, dark]
    rfl
  | power pin state =>
    have named := words pin.name (by simp [Command.words, Command.pins, Command.pin?])
    rw [Command.lines, List.map_singleton, List.sum_singleton]
    cases state
    · exact surplus_write bracket style named true (by cases bracket <;> decide) blank
    · exact surplus_write bracket style named false (by cases bracket <;> decide) blank

private theorem surplus_function {name note : String} {body : List String} (named : bracket.surplus name = 0)
    (noted : bracket.surplus note = 0) (blank : ∀ c ∈ style.indent.toList, Text.isPadding c = true)
    (balanced : (body.map bracket.surplus).sum = 0) :
    ((Sections.function style name note body).map bracket.surplus).sum = 0 := by
  simp only [Sections.function, List.map_append, List.sum_append, List.map_singleton, List.sum_singleton,
    surplus_noteLine bracket style (bracket.surplus_padding blank) noted, balanced, Bracket.surplus_append,
    named]
  cases bracket <;> decide

/-- A text is as balanced as its sections are. -/
theorem surplus_text {sections : Sections} (blank : ∀ c ∈ style.indent.toList, Text.isPadding c = true)
    (declared : (sections.declarations.map bracket.surplus).sum = 0)
    (setup : (sections.setup.map bracket.surplus).sum = 0) (loop : (sections.loop.map bracket.surplus).sum = 0) :
    bracket.surplus (sections.text style) = 0 := by
  have ended (line : String) : bracket.surplus (line ++ "\n") = bracket.surplus line := by
    have newline : bracket.surplus "\n" = 0 := by cases bracket <;> decide
    rw [Bracket.surplus_append, newline, add_zero]
  have header : (libraryIncludes.map bracket.surplus).sum = 0 := by cases bracket <;> decide
  have empty : ([""].map bracket.surplus).sum = 0 := by cases bracket <;> decide
  have separator : ((if sections.declarations.isEmpty then [] else [""]).map bracket.surplus).sum = 0 := by
    split
    · rfl
    · exact empty
  have setupNote : bracket.surplus "Setup code for initializing components" = 0 := by cases bracket <;> decide
  have loopNote : bracket.surplus "The main loop runs over and over again" = 0 := by cases bracket <;> decide
  have setupName : bracket.surplus "setup" = 0 := by cases bracket <;> decide
  have loopName : bracket.surplus "loop" = 0 := by cases bracket <;> decide
  have setupFunction := surplus_function bracket style setupName setupNote blank setup
  have loopFunction := surplus_function bracket style loopName loopNote blank loop
  calc bracket.surplus (sections.text style)
    _ = ((sections.lines style).map bracket.surplus).sum := by
      rw [Sections.text, Bracket.surplus_join, List.map_map]
      exact congrArg List.sum (List.map_congr_left fun line _ => ended line)
    _ = 0 := by
      simp only [Sections.lines, List.map_append, List.sum_append, header, empty, declared, separator, setupFunction,
        loopFunction, add_zero]

/-- The brackets of a printed program are balanced. -/
theorem surplus_sections {program : Program} (worded : program.Worded)
    (blank : ∀ c ∈ style.indent.toList, Text.isPadding c = true) :
    bracket.surplus ((program.sections style).text style) = 0 := by
  have zero {lines : List String} (each : ∀ line ∈ lines, bracket.surplus line = 0) :
      (lines.map bracket.surplus).sum = 0 := List.sum_eq_zero (List.forall_mem_map.mpr each)
  refine surplus_text bracket style blank (zero ?_) (zero ?_) ?_
  · exact List.forall_mem_map.mpr fun declaration listed =>
      surplus_declaration bracket (worded.declarations declaration listed)
  · exact List.forall_mem_map.mpr fun step listed =>
      surplus_setupStep bracket style (worded.setup step listed) blank
  · rw [Program.sections, List.map_flatMap, List.flatMap_def, List.sum_flatten]
    refine List.sum_eq_zero (List.forall_mem_map.mpr (List.forall_mem_map.mpr fun command listed => ?_))
    exact surplus_command bracket style (worded.loop command listed) blank

end Surplus

/-! ## Sections read off the text -/

/-- The lines of a function's body behind the remark that opens it, if there is one. -/
def behindRemark (note : String) : List String → List String
  | [] => []
  | first :: rest => if first.toList.dropWhile Text.isPadding = ("// " ++ note).toList then rest else first :: rest

namespace Sections

/-- The sections of a source text, found by its lines alone. The first brace that stands by itself ends `setup`; the
lines of `loop` are all between its head and the last brace. -/
def ofText (text : String) : Sections :=
  let lines := (text.toList.splitOn '\n').map String.ofList
  let front := (lines.takeWhile (· ≠ "void setup() \x7b")).drop 3
  let inside := (lines.dropWhile (· ≠ "void setup() \x7b")).tail
  let behind := (inside.dropWhile (· ≠ "\x7d")).drop 3
  ⟨front.takeWhile (· ≠ ""), behindRemark "Setup code for initializing components" (inside.takeWhile (· ≠ "\x7d")),
    behindRemark "The main loop runs over and over again" behind.dropLast.dropLast⟩

/-- The lines of a source text, each section in its place. -/
def layout (style : Style) (sections : Sections) : List String :=
  ["#include <Servo.h>", "#include <Stepper.h>", ""] ++
    (sections.declarations ++ if sections.declarations.isEmpty then [] else [""]) ++
    ["void setup() \x7b"] ++ style.noteLine style.indent "Setup code for initializing components" ++ sections.setup ++
    ["\x7d", "", "void loop() \x7b"] ++ style.noteLine style.indent "The main loop runs over and over again" ++
    sections.loop ++ ["\x7d", ""]

end Sections

section Found

/-- A line that does not stand in front is found where it is. -/
theorem takeWhile_dropWhile_ne {front : List String} {line : String} (absent : line ∉ front) (rest : List String) :
    (front ++ line :: rest).takeWhile (· ≠ line) = front ∧
      (front ++ line :: rest).dropWhile (· ≠ line) = line :: rest := by
  have passed : ∀ other ∈ front, decide (other ≠ line) = true := fun other member =>
    decide_eq_true (ne_of_mem_of_not_mem member absent)
  rw [List.takeWhile_append_of_pos passed, List.dropWhile_append_of_pos passed]
  simp

private theorem Declaration.head?_text (declaration : Declaration) : declaration.text.toList.head? = some 'S' := by
  cases declaration <;> simp [text]

private theorem SetupStep.parenthesis_mem_line (style : Style) (step : SetupStep) : '(' ∈ (step.line style).toList := by
  cases step <;> simp [line, Style.line]

/-- What a command has to say begins with a statement. -/
theorem Command.parenthesis_mem_lines (style : Style) (command : Command) :
    ∃ first rest, command.lines style = first :: rest ∧ '(' ∈ first.toList := by
  have noted {statement : String} (called : '(' ∈ statement.toList) (note : String) :
      '(' ∈ (style.line statement note).toList := by
    simp [Style.line, called]
  cases command with
  | poll pin => exact ⟨_, _, rfl, by simp⟩
  | turn name angle => exact ⟨_, _, rfl, noted (by simp) _⟩
  | advance name steps => exact ⟨_, _, rfl, noted (by simp) _⟩
  | wait milliseconds => exact ⟨_, _, rfl, noted (by simp [delayStatement]) _⟩
  | _ => exact ⟨_, _, rfl, noted (by simp [writeStatement]) _⟩

private theorem parenthesis_mem_loop (style : Style) (commands : List Command) :
    ∀ first ∈ (commands.flatMap (Command.lines style)).head?, '(' ∈ first.toList := by
  intro first here
  cases commands with
  | nil => cases here
  | cons command rest =>
    obtain ⟨line, others, lines, called⟩ := command.parenthesis_mem_lines style
    rw [List.flatMap_cons, lines] at here
    cases here
    exact called

/-- A remark is told from a statement by its lack of parentheses. -/
theorem behindRemark_noteLine {style : Style} {note : String} {body : List String}
    (blank : ∀ c ∈ style.indent.toList, Text.isPadding c = true) (plain : '(' ∉ ("// " ++ note).toList)
    (called : ∀ first ∈ body.head?, '(' ∈ first.toList) :
    behindRemark note (style.noteLine style.indent note ++ body) = body := by
  unfold Style.noteLine
  split
  · have dropped : (style.indent ++ "// " ++ note).toList.dropWhile Text.isPadding = ("// " ++ note).toList := by
      rw [String.append_assoc, String.toList_append, List.dropWhile_append_of_pos blank]
      simp [Text.isPadding]
    simp only [List.singleton_append, behindRemark, dropped, if_true]
  · cases body with
    | nil => rfl
    | cons first rest =>
      refine if_neg fun same => plain ?_
      have split := List.takeWhile_append_dropWhile (p := Text.isPadding) (l := first.toList)
      have member := called first rfl
      rw [← split, List.mem_append] at member
      rcases member with padding | kept
      · exact absurd (List.mem_takeWhile_imp padding) (by decide)
      · exact same ▸ kept

private theorem absent_of_starts {lines : List String} (starts : ∀ line ∈ lines, line.toList.head? = some 'S')
    {other : String} (apart : other.toList.head? ≠ some 'S') : other ∉ lines :=
  fun member => apart (starts other member)

/-- The first brace that stands by itself behind the head of `setup` closes it, and all sections are found. -/
theorem Sections.found {style : Style} {sections : Sections} {text : String}
    (split : text.toList.splitOn '\n' = (sections.layout style).map String.toList)
    (blank : ∀ c ∈ style.indent.toList, Text.isPadding c = true)
    (declared : ∀ line ∈ sections.declarations, line.toList.head? = some 'S')
    (prepared : ∀ line ∈ sections.setup, '(' ∈ line.toList)
    (looped : ∀ first ∈ sections.loop.head?, '(' ∈ first.toList) :
    (((text.toList.splitOn '\n').map String.ofList).dropWhile (· ≠ "void setup() \x7b")).tail.takeWhile (· ≠ "\x7d") =
        style.noteLine style.indent "Setup code for initializing components" ++ sections.setup ∧
      Sections.ofText text = sections := by
  let separated := sections.declarations ++ if sections.declarations.isEmpty then [] else [""]
  let body := style.noteLine style.indent "Setup code for initializing components" ++ sections.setup
  let rest := style.noteLine style.indent "The main loop runs over and over again" ++ sections.loop ++ ["\x7d", ""]
  have lines : (text.toList.splitOn '\n').map String.ofList =
      (["#include <Servo.h>", "#include <Stepper.h>", ""] ++ separated) ++ "void setup() \x7b" ::
        (body ++ "\x7d" :: "" :: "void loop() \x7b" :: rest) := by
    rw [split, List.map_map]
    simp [Function.comp_def, layout, separated, body, rest]
  have head : "void setup() \x7b" ∉ ["#include <Servo.h>", "#include <Stepper.h>", ""] ++ separated := by
    have included : "void setup() \x7b" ∉ ["#include <Servo.h>", "#include <Stepper.h>", ""] := by decide
    have declaration := absent_of_starts declared (by decide : "void setup() \x7b".toList.head? ≠ some 'S')
    have separator : "void setup() \x7b" ∉ if sections.declarations.isEmpty then [] else [""] := by split <;> decide
    simp only [separated, List.mem_append, not_or]
    exact ⟨included, declaration, separator⟩
  have closing : "\x7d" ∉ body := by
    simp only [body, List.mem_append, not_or]
    constructor
    · unfold Style.noteLine
      split
      · rw [List.mem_singleton]
        intro same
        have slash : '/' ∈ "\x7d".toList := by simp [same]
        exact absurd slash (by decide)
      · exact List.not_mem_nil
    · exact fun member => absurd (prepared _ member) (by decide)
  obtain ⟨taken, dropped⟩ := takeWhile_dropWhile_ne head (body ++ "\x7d" :: "" :: "void loop() \x7b" :: rest)
  obtain ⟨setupTaken, setupDropped⟩ := takeWhile_dropWhile_ne closing ("" :: "void loop() \x7b" :: rest)
  have declarations : separated.takeWhile (· ≠ "") = sections.declarations := by
    have absent := absent_of_starts declared (by decide : "".toList.head? ≠ some 'S')
    cases none : sections.declarations.isEmpty
    · simp only [separated, none, Bool.false_eq_true, if_false]
      exact (takeWhile_dropWhile_ne absent []).1
    · simp [separated, List.isEmpty_iff.mp none]
  have inLoop : rest.dropLast.dropLast =
      style.noteLine style.indent "The main loop runs over and over again" ++ sections.loop := by
    have last : rest = style.noteLine style.indent "The main loop runs over and over again" ++ sections.loop ++
        ["\x7d"] ++ [""] := by simp [rest]
    rw [last, List.dropLast_concat, List.dropLast_concat]
  have setup : behindRemark "Setup code for initializing components" body = sections.setup :=
    behindRemark_noteLine blank (by decide) fun first here => prepared first (List.mem_of_mem_head? here)
  have loop : behindRemark "The main loop runs over and over again"
      (style.noteLine style.indent "The main loop runs over and over again" ++ sections.loop) = sections.loop :=
    behindRemark_noteLine blank (by decide) looped
  refine ⟨by rw [lines, dropped, List.tail_cons, setupTaken], ?_⟩
  simp only [ofText, lines, taken, dropped, List.tail_cons, setupTaken, setupDropped]
  have front : (["#include <Servo.h>", "#include <Stepper.h>", ""] ++ separated).drop 3 = separated := rfl
  have behind : ("\x7d" :: "" :: "void loop() \x7b" :: rest).drop 3 = rest := rfl
  rw [front, behind, declarations, inLoop, setup, loop]

end Found

namespace Circuit

/-- The source text of a circuit in some style keeps to its layout, whatever the names of the pins. -/
structure Regular (circuit : Circuit) (style : Style) : Prop where
  pins : ∀ part ∈ circuit.parts, ∀ pin ∈ part.pins, ∀ c ∈ pin.name.toList, Text.isWordChar c = true
  entries : ∀ line ∈ (circuit.sections style).value.declarations ++ (circuit.sections style).value.setup ++
    (circuit.sections style).value.loop, '\n' ∉ line.toList
  lines : (circuit.compile style).value.toList.splitOn '\n' =
    ((circuit.sections style).value.layout style).map String.toList
  /-- The first brace on a line of its own behind the head of `setup` ends it. -/
  setup : ((((circuit.compile style).value.toList.splitOn '\n').map String.ofList).dropWhile
      (· ≠ "void setup() \x7b")).tail.takeWhile (· ≠ "\x7d") =
    style.noteLine style.indent "Setup code for initializing components" ++ (circuit.sections style).value.setup
  found : Sections.ofText (circuit.compile style).value = (circuit.sections style).value
  balanced : ∀ bracket : Bracket, (circuit.compile style).value.toList.count bracket.opening =
    (circuit.compile style).value.toList.count bracket.closing

variable {circuit : Circuit} {style : Style}

/-- The lines of the printed text are those of its layout. -/
theorem splitOn_compile_layout (identifiers : circuit.IdentifierPins)
    (blank : ∀ c ∈ style.indent.toList, Text.isPadding c = true) :
    (circuit.compile style).value.toList.splitOn '\n' =
      ((circuit.sections style).value.layout style).map String.toList := by
  rw [splitOn_compile identifiers.clearPins (Text.isBare_of_isPadding blank).1, Program.filterMap_rows]
  simp [Sections.layout, Sections.lines, Sections.function, sections, libraryIncludes]

/-- A program that is read from a text is printed in regular regions. -/
theorem regular_of_ofText {text : String} (read : (ofText text).value = .ok circuit)
    (blank : ∀ c ∈ style.indent.toList, Text.isPadding c = true) : circuit.Regular style := by
  have identifiers : circuit.IdentifierPins := fun _ placed _ member => isIdentifier_of_ofText read placed member
  have split := splitOn_compile_layout identifiers blank
  have found := Sections.found split blank
    (List.forall_mem_map.mpr fun declaration _ => declaration.head?_text)
    (List.forall_mem_map.mpr fun step _ => step.parenthesis_mem_line style) (parenthesis_mem_loop style _)
  constructor
  case pins => exact fun part placed pin member => List.all_eq_true.mp (identifiers.isWord placed member)
  case entries =>
    intro line listed
    refine newline_notMem_lines identifiers.clearPins (Text.isBare_of_isPadding blank).1 line ?_
    rw [Program.filterMap_rows]
    simp only [List.mem_append] at listed
    simp only [Sections.lines, Sections.function, List.mem_append]
    rcases listed with (declaration | step) | command
    · exact .inl (.inl (.inl (.inr (.inl declaration))))
    · exact .inl (.inl (.inr (.inl (.inr step))))
    · exact .inr (.inl (.inr command))
  case lines => exact split
  case setup => exact found.1
  case found => exact found.2
  case balanced =>
    intro bracket
    have balanced : bracket.surplus (circuit.compile style).value = 0 :=
      surplus_sections bracket style identifiers.worded blank
    rw [Bracket.surplus] at balanced
    omega

/-- Without indentation the button closes its brace at the margin, as the functions do. -/
theorem regular_of_ofText_margin_brace :
    let circuit : Circuit := ⟨[.button (some ⟨"D1"⟩), .stepper [⟨"été"⟩, ⟨"A"⟩, ⟨"_"⟩, ⟨"C9"⟩] (-5)]⟩
    (ofText "button D1\nstepper été A _ C9 -5 # (\n").value = .ok circuit ∧
      (∀ c ∈ "".toList, Text.isPadding c = true) ∧ circuit.Regular ⟨true, ""⟩ := by
  intro circuit
  have read : (ofText "button D1\nstepper été A _ C9 -5 # (\n").value = .ok circuit := by decide +kernel
  have blank : ∀ c ∈ "".toList, Text.isPadding c = true := by simp
  exact ⟨read, blank, regular_of_ofText read blank⟩

end Circuit

end Breadboard
