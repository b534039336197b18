import Breadboard.Proofs.Blankness
import Breadboard.Proofs.ClearText

/-! # Rows of a source text

The rows of a program say what its source text is made of with no regard to style: statements with their notes, and
remarks, which are notes that stand alone. A style turns rows into lines, and `Program.filterMap_rows` says that the
lines of a program are its rows in that style. By `Circuit.legible_rows` a statement begins no note and ends no line,
so that both can be found again in the text.
-/

namespace Breadboard

/-! ## Rows and lines -/

/-- What one line of a source text says, whatever its style. -/
inductive Row where
  | statement (depth : Nat) (text : String) (note? : Option String)
  | remark (depth : Nat) (note : String)
deriving DecidableEq, Repr

/-- The indentation of a statement that stands inside of so many others. -/
def indentation (indent : String) (depth : Nat) : String :=
  String.join (List.replicate depth indent)

/-- The line of a row. A remark has none where notes are not wanted. -/
def Row.line? (style : Style) : Row → Option String
  | .statement depth text note? =>
    some (indentation style.indent depth ++ text ++ if style.annotate then note?.elim "" (" // " ++ ·) else "")
  | .remark depth note => if style.annotate then some (indentation style.indent depth ++ "// " ++ note) else none

def SetupStep.row : SetupStep → Row
  | .configure pin mode kind =>
    .statement 1 ("pinMode(" ++ pin.name ++ ", " ++ toString mode ++ ");") (some ("Setup " ++ kind.name ++ " pin"))
  | .attach name pin =>
    .statement 1 (name ++ ".attach(" ++ pin.name ++ ");") (some ("Attach " ++ Part.Kind.servo.name ++ " to pin"))
  | .setSpeed name =>
    .statement 1 (name ++ ".setSpeed(" ++ turnsPerMinute.repr ++ ");")
      (some ("Set " ++ Part.Kind.stepper.name ++ " speed"))

def delayRow (milliseconds : Int64) (unit : String) : Row :=
  .statement 1 (delayStatement milliseconds) (some ("Wait for " ++ Text.Numeral.written milliseconds ++ unit))

/-- A call that hands a number to a motor. -/
def driveRow (name method : String) (number : Int64) (before unit : String) : Row :=
  .statement 1 (name ++ method ++ Text.Numeral.written number ++ ");")
    (some (before ++ Text.Numeral.written number ++ unit))

def Command.rows : Command → List Row
  | .light pin lit =>
    [.statement 1 (writeStatement pin (if lit then "HIGH" else "LOW"))
      (some ("Turn " ++ Part.Kind.light.name ++ (if lit then " on" else " off")))]
  | .poll pin =>
    [.statement 1 ("if (digitalRead(" ++ pin.name ++ ") == LOW) \x7b") none,
      .remark 2 (Part.Kind.button.name ++ " pressed"), .remark 2 "Add your magic code here", .statement 1 "\x7d" none]
  | .turn name angle => [driveRow name ".write(" angle ("Move " ++ Part.Kind.servo.name ++ " to ") " degrees"]
  | .advance name steps => [driveRow name ".step(" steps ("Move " ++ Part.Kind.stepper.name ++ " by ") " steps"]
  | .wait milliseconds => [delayRow milliseconds " milliseconds"]
  | .blink pin interval =>
    [.statement 1 (writeStatement pin "HIGH") (some ("Turn " ++ Part.Kind.blinker.name ++ " on")),
      delayRow interval " ms",
      .statement 1 (writeStatement pin "LOW") (some ("Turn " ++ Part.Kind.blinker.name ++ " off")),
      delayRow interval " ms"]
  | .power pin state =>
    [.statement 1 (writeStatement pin state.level) (some ("Set " ++ Part.Kind.power.name ++ " to " ++ state.level))]

namespace Row

/-- A statement outside of the functions, or one that opens or closes one. -/
def outer (text : String) : Row :=
  .statement 0 text none

/-- A function of the program with its body, which opens with a remark. -/
def function (name note : String) (body : List Row) : List Row :=
  [outer ("void " ++ name ++ "() \x7b"), .remark 1 note] ++ body ++ [outer "\x7d"]

end Row

/-- All rows of a program's source text. -/
def Program.rows (program : Program) : List Row :=
  (libraryIncludes ++ [""]).map Row.outer ++
    ((program.declarations.map Declaration.text ++ if program.declarations.isEmpty then [] else [""]).map Row.outer ++
      (Row.function "setup" "Setup code for initializing components" (program.setup.map SetupStep.row) ++
        (Row.outer "" ::
          Row.function "loop" "The main loop runs over and over again" (program.loop.flatMap Command.rows))))

section Lines

variable (style : Style)

@[simp] theorem indentation_zero (indent : String) : indentation indent 0 = "" := rfl

/-- One level is one indentation. -/
@[simp] theorem indentation_one (indent : String) : indentation indent 1 = indent := by
  simp [indentation]

private theorem indentation_two (indent : String) : indentation indent 2 = indent ++ indent := by
  simp [indentation]

/-- Indentation is made of the characters of one indentation alone. -/
theorem mem_indentation {indent : String} {depth : Nat} {c : Char} (member : c ∈ (indentation indent depth).toList) :
    c ∈ indent.toList := by
  rw [indentation, String.toList_join, List.mem_flatMap] at member
  obtain ⟨piece, copied, member⟩ := member
  exact List.eq_of_mem_replicate copied ▸ member

@[simp] theorem Row.line?_outer (text : String) : (Row.outer text).line? style = some text := by
  simp [outer, line?]

private theorem Row.line?_noted (text note : String) :
    (Row.statement 1 text (some note)).line? style = some (style.line text note) := by
  simp [line?, Style.line]

private theorem Row.filterMap_outer (texts : List String) :
    (texts.map Row.outer).filterMap (Row.line? style) = texts := by
  simp [List.filterMap_map]

private theorem SetupStep.line?_row (step : SetupStep) : step.row.line? style = some (step.line style) := by
  cases step <;> exact Row.line?_noted style _ _

private theorem Command.filterMap_rows (command : Command) :
    command.rows.filterMap (Row.line? style) = command.lines style := by
  cases command with
  | poll pin =>
    simp only [rows, lines, Style.noteLine]
    cases wanted : style.annotate <;>
      simp [Row.line?, wanted, indentation_two, String.append_assoc]
  | _ => simp only [rows, delayRow, driveRow, List.filterMap_cons, Row.line?_noted, lines, List.filterMap_nil]

private theorem Row.filterMap_function (name note : String) (body : List Row) :
    (Row.function name note body).filterMap (Row.line? style) =
      Sections.function style name note (body.filterMap (Row.line? style)) := by
  rw [function, List.filterMap_append, List.filterMap_append]
  cases wanted : style.annotate <;>
    simp [Sections.function, Style.noteLine, line?, outer, wanted]

/-- The lines of commands are those of their rows. -/
theorem Command.filterMap_flatMap_rows (commands : List Command) :
    (commands.flatMap Command.rows).filterMap (Row.line? style) = commands.flatMap (Command.lines style) := by
  rw [List.filterMap_flatMap]
  exact List.flatMap_congr fun command _ => filterMap_rows style command

/-- The lines of a program are its rows in the style that is asked for. -/
theorem Program.filterMap_rows (program : Program) :
    program.rows.filterMap (Row.line? style) = (program.sections style).lines style := by
  have setup : (program.setup.map SetupStep.row).filterMap (Row.line? style) =
      program.setup.map (SetupStep.line style) := by
    rw [List.filterMap_map, ← List.filterMap_eq_map]
    exact List.filterMap_congr fun step _ => SetupStep.line?_row style step
  rw [rows, List.filterMap_append, List.filterMap_append, List.filterMap_append, List.filterMap_cons,
    Row.filterMap_outer, Row.filterMap_outer, Row.filterMap_function, Row.filterMap_function, setup,
    Command.filterMap_flatMap_rows, Row.line?_outer]
  simp [Sections.lines, sections]

end Lines

/-! ## Rows that can be found again -/

/-- A row whose statement can be told from its indentation and its note. -/
def Row.Legible : Row → Prop
  | .statement _ text note? => Text.IsClear text ∧ text.toList.head? ≠ some ' ' ∧
      ∀ note ∈ note?, '\n' ∉ note.toList ∧ text.toList.getLast? = some ';'
  | .remark _ note => '\n' ∉ note.toList

namespace Row

private theorem legible_outer {text : String} (clear : Text.IsClear text) (start : text.toList.head? ≠ some ' ') :
    (outer text).Legible :=
  ⟨clear, start, fun _ noted => by cases noted⟩

/-- Statements with notes are calls, which end in a parenthesis and a semicolon. -/
theorem legible_call {depth : Nat} {call note : String} (clear : Text.IsClear call)
    (start : (call ++ ");").toList.head? ≠ some ' ') (bare : Text.IsBare note) :
    (statement depth (call ++ ");") (some note)).Legible := by
  refine ⟨clear.append_bare (by decide), start, fun _ noted => ?_⟩
  cases noted
  exact ⟨bare.isClear.1, by simp⟩

end Row

private theorem Part.Kind.isBare_name (kind : Part.Kind) : Text.IsBare kind.name := by
  cases kind <;> decide

private theorem PinMode.isBare (mode : PinMode) : Text.IsBare (toString mode) := by
  cases mode <;> decide

private theorem Power.isBare_level (state : Power) : Text.IsBare state.level := by
  cases state <;> decide

/-- A call on a motor begins with its name. -/
theorem Text.IsWord.head?_append_ne {name call : String} (word : Text.IsWord name)
    (start : call.toList.head? ≠ some ' ') : (name ++ call).toList.head? ≠ some ' ' := by
  rw [String.toList_append, List.head?_append]
  cases first : name.toList.head? with
  | none => exact start
  | some c =>
    rintro ⟨⟩
    exact word.notMem (by decide +kernel) (List.mem_of_mem_head? first)

private theorem legible_write {pin : Pin} {level note : String} (clear : Text.IsClear pin.name)
    (bare : Text.IsBare level)
    (noteBare : Text.IsBare note) : (Row.statement 1 (writeStatement pin level) (some note)).Legible :=
  Row.legible_call
    (((Text.IsBare.append_clear (by decide) clear).append_bare (by decide)).append_bare bare) (by simp) noteBare

private theorem legible_delayRow {milliseconds : Int64} {unit : String} (bare : Text.IsBare unit) :
    (delayRow milliseconds unit).Legible :=
  Row.legible_call (Text.IsBare.append (by decide) (Text.Numeral.isBare_written _)).isClear (by simp)
    ((Text.IsBare.append (by decide) (Text.Numeral.isBare_written _)).append bare)

private theorem legible_driveRow {name method before unit : String} {number : Int64} (word : Text.IsWord name)
    (start : (method ++ (Text.Numeral.written number ++ ");")).toList.head? ≠ some ' ')
    (methodBare : Text.IsBare method) (beforeBare : Text.IsBare before) (unitBare : Text.IsBare unit) :
    (driveRow name method number before unit).Legible := by
  have numeral := Text.Numeral.isBare_written number
  refine Row.legible_call ((word.isBare.append methodBare).append numeral).isClear ?_
    ((beforeBare.append numeral).append unitBare)
  rw [String.append_assoc, String.append_assoc]
  exact word.head?_append_ne start

private theorem Declaration.legible_row {declaration : Declaration} (word : Text.IsWord declaration.name)
    (clear : ∀ pin ∈ declaration.pins, Text.IsClear pin.name) : (Row.outer declaration.text).Legible := by
  cases declaration with
  | servo name =>
    exact Row.legible_outer ((Text.IsBare.append (by decide) word.isBare).append (by decide)).isClear (by simp [text])
  | stepper name coils =>
    have opening : Text.IsBare ("Stepper " ++ name ++ "(" ++ stepsPerTurn.repr ++ ", ") :=
      (((Text.IsBare.append (by decide) word.isBare).append (by decide)).append (by decide)).append (by decide)
    have parted {front rest : String} (clear : Text.IsClear front) (others : Text.IsClear rest) :
        Text.IsClear (front ++ ", " ++ rest) :=
      (clear.append_bare (by decide)).append others (.inl (by simp))
    simp only [pins, Coils.pins, List.forall_mem_cons] at clear
    obtain ⟨first, second, third, fourth, -⟩ := clear
    have coilNames : Text.IsClear (", ".intercalate (coils.pins.map Pin.name)) :=
      parted (parted (parted first second) third) fourth
    exact Row.legible_outer ((opening.append_clear coilNames).append_bare (by decide)) (by simp [text])

private theorem SetupStep.legible_row {step : SetupStep} (word : ∀ name ∈ step.motor?, Text.IsWord name)
    (clear : ∀ pin ∈ step.pins, Text.IsClear pin.name) : step.row.Legible := by
  cases step with
  | configure pin mode kind =>
    have named := clear pin List.mem_cons_self
    exact Row.legible_call
      (((Text.IsBare.append_clear (by decide) named).append_bare (by decide)).append_bare mode.isBare) (by simp)
      ((Text.IsBare.append (by decide) kind.isBare_name).append (by decide))
  | attach name pin =>
    have motor := word name rfl
    have named := clear pin List.mem_cons_self
    refine Row.legible_call ((motor.isBare.append (by decide)).append_clear named) ?_ (by decide)
    rw [String.append_assoc, String.append_assoc]
    exact motor.head?_append_ne (by simp)
  | setSpeed name =>
    have motor := word name rfl
    refine Row.legible_call ((motor.isBare.append (by decide)).append (by decide)).isClear ?_ (by decide)
    rw [String.append_assoc, String.append_assoc]
    exact motor.head?_append_ne (by simp)

private theorem Command.legible_rows {command : Command} (word : ∀ name ∈ command.motor?, Text.IsWord name)
    (clear : ∀ pin ∈ command.pins, Text.IsClear pin.name) : ∀ row ∈ command.rows, row.Legible := by
  cases command with
  | light pin lit =>
    have named := clear pin List.mem_cons_self
    cases lit <;> exact List.forall_mem_singleton.mpr (legible_write named (by decide) (by decide))
  | poll pin =>
    have opening : Text.IsClear ("if (digitalRead(" ++ pin.name ++ ") == LOW) \x7b") :=
      (Text.IsBare.append_clear (by decide) (clear pin List.mem_cons_self)).append_bare (by decide)
    simp only [rows, List.forall_mem_cons]
    refine ⟨⟨opening, by simp, by simp⟩, ?_, ?_, ⟨Text.IsBare.isClear (by decide), by decide, by simp⟩, by simp⟩
    · exact (by decide : '\n' ∉ (Part.Kind.button.name ++ " pressed").toList)
    · exact (by decide : '\n' ∉ "Add your magic code here".toList)
  | turn name angle =>
    exact List.forall_mem_singleton.mpr
      (legible_driveRow (word name rfl) (by simp) (by decide) (by decide) (by decide))
  | advance name steps =>
    exact List.forall_mem_singleton.mpr
      (legible_driveRow (word name rfl) (by simp) (by decide) (by decide) (by decide))
  | wait milliseconds => exact List.forall_mem_singleton.mpr (legible_delayRow (by decide))
  | blink pin interval =>
    have named := clear pin List.mem_cons_self
    have pause : (delayRow interval " ms").Legible := legible_delayRow (by decide)
    simp only [rows, List.forall_mem_cons]
    exact ⟨legible_write named (by decide) (by decide), pause, legible_write named (by decide) (by decide), pause,
      by simp⟩
  | power pin state =>
    have named := clear pin List.mem_cons_self
    exact List.forall_mem_singleton.mpr
      (legible_write named state.isBare_level (Text.IsBare.append (by decide) state.isBare_level))

private theorem Row.legible_function {name note : String} {body : List Row} (nameBare : Text.IsBare name)
    (noteBare : Text.IsBare note) (legible : ∀ row ∈ body, row.Legible) :
    ∀ row ∈ Row.function name note body, row.Legible := by
  have opening : (outer ("void " ++ name ++ "() \x7b")).Legible :=
    legible_outer ((Text.IsBare.append (by decide) nameBare).append (by decide)).isClear (by simp)
  have closing : (outer "\x7d").Legible := legible_outer (Text.IsBare.isClear (by decide)) (by decide)
  simp only [function, List.forall_mem_append, List.forall_mem_cons]
  exact ⟨⟨⟨opening, noteBare.isClear.1, by simp⟩, legible⟩, closing, by simp⟩

/-- A program has legible rows if its statements have. -/
theorem Program.legible_rows {program : Program}
    (declarations : ∀ declaration ∈ program.declarations, (Row.outer declaration.text).Legible)
    (setup : ∀ step ∈ program.setup, step.row.Legible)
    (loop : ∀ command ∈ program.loop, ∀ row ∈ command.rows, row.Legible) : ∀ row ∈ program.rows, row.Legible := by
  have fixed {text : String} (bare : Text.IsBare text) (start : text.toList.head? ≠ some ' ') :
      (Row.outer text).Legible := Row.legible_outer bare.isClear start
  have includes : ∀ text ∈ libraryIncludes ++ [""], (Row.outer text).Legible := by
    simp only [libraryIncludes, List.forall_mem_append, List.forall_mem_cons]
    exact ⟨⟨fixed (by decide) (by decide), fixed (by decide) (by decide), by simp⟩,
      fixed (by decide) (by decide), by simp⟩
  have declared : ∀ text ∈ program.declarations.map Declaration.text ++
      if program.declarations.isEmpty then [] else [""], (Row.outer text).Legible := by
    refine List.forall_mem_append.mpr ⟨List.forall_mem_map.mpr declarations, ?_⟩
    split
    · simp
    · exact List.forall_mem_singleton.mpr (fixed (by decide) (by decide))
  refine List.forall_mem_append.mpr ⟨List.forall_mem_map.mpr includes, List.forall_mem_append.mpr
    ⟨List.forall_mem_map.mpr declared, List.forall_mem_append.mpr ⟨?_, List.forall_mem_cons.mpr
      ⟨fixed (by decide) (by decide), ?_⟩⟩⟩⟩
  · exact Row.legible_function (by decide) (by decide) (List.forall_mem_map.mpr setup)
  · exact Row.legible_function (by decide) (by decide) (List.forall_mem_flatMap.mpr loop)

/-! ## Rows of a circuit -/

namespace Circuit

variable {circuit : Circuit}

/-- No pin of the circuit ends the line or begins a note where its name is written. -/
def ClearPins (circuit : Circuit) : Prop :=
  ∀ part ∈ circuit.parts, ∀ pin ∈ part.pins, Text.IsClear pin.name

instance (circuit : Circuit) : Decidable circuit.ClearPins :=
  inferInstanceAs (Decidable (∀ part ∈ circuit.parts, ∀ pin ∈ part.pins, Text.IsClear pin.name))

/-- Where no pin holds a note, all rows of the program can be read back. -/
theorem legible_rows (clear : circuit.ClearPins) : ∀ row ∈ circuit.program.rows, row.Legible := by
  have bound {pin : Pin} : circuit.Wires pin → Text.IsClear pin.name :=
    fun ⟨part, placed, _, member⟩ => clear part placed pin member
  refine Program.legible_rows (fun declaration listed => ?_) (fun step listed => ?_) (fun command listed => ?_)
  · exact declaration.legible_row (isWord_of_declaration listed) fun _ mentioned =>
      bound (wires_of_declaration listed mentioned)
  · exact step.legible_row (fun _ motor => isWord_of_setupStep listed motor) fun _ mentioned =>
      bound (wires_of_setupStep listed mentioned)
  · exact command.legible_rows (fun _ motor => isWord_of_command listed motor) fun _ mentioned =>
      bound (wires_of_command listed mentioned)

end Circuit

/-! ## Lines of a text -/

/-- A line end closes every line, so nothing stands behind the last one. -/
theorem Sections.toList_text (style : Style) (sections : Sections) :
    (sections.text style).toList = ['\n'].intercalate ((sections.lines style).map String.toList ++ [[]]) := by
  rw [text, String.toList_join, List.flatMap_map]
  induction sections.lines style with
  | nil => rfl
  | cons line rest ih =>
    have apart : ['\n'].intercalate ((line :: rest).map String.toList ++ [[]]) =
        line.toList ++ ['\n'] ++ ['\n'].intercalate (rest.map String.toList ++ [[]]) := by
      cases rest <;> exact List.intercalate_cons_cons
    rw [apart, ← ih, List.flatMap_cons, String.toList_append]
    rfl

private theorem Row.newline_notMem {style : Style} {row : Row} {line : String} (legible : row.Legible)
    (indented : '\n' ∉ style.indent.toList) (prints : row.line? style = some line) : '\n' ∉ line.toList := by
  have unbroken (depth : Nat) : '\n' ∉ (indentation style.indent depth).toList :=
    fun member => indented (mem_indentation member)
  cases row with
  | statement depth text note? =>
    cases prints
    obtain ⟨clear, -, noted⟩ := legible
    have ending : '\n' ∉ (if style.annotate then note?.elim "" (" // " ++ ·) else "").toList := by
      split
      · cases note? with
        | none => decide
        | some note => simp [(noted note rfl).1]
      · decide
    simp only [String.toList_append, List.mem_append, not_or]
    exact ⟨⟨unbroken depth, clear.1⟩, ending⟩
  | remark depth note =>
    obtain ⟨-, printed⟩ := Option.ite_none_right_eq_some.mp prints
    cases printed
    simp only [String.toList_append, List.mem_append, not_or]
    exact ⟨⟨unbroken depth, by decide⟩, legible⟩

namespace Circuit

variable {circuit : Circuit}

/-- The printed text has a line for each row that is shown, and ends its last line. -/
theorem toList_compile (style : Style) (circuit : Circuit) :
    (circuit.compile style).value.toList =
      ['\n'].intercalate ((circuit.program.rows.filterMap (Row.line? style)).map String.toList ++ [[]]) := by
  rw [Program.filterMap_rows, ← Sections.toList_text]
  rfl

/-- No printed line is broken. -/
theorem newline_notMem_lines {style : Style} (clear : circuit.ClearPins) (indented : '\n' ∉ style.indent.toList) :
    ∀ line ∈ circuit.program.rows.filterMap (Row.line? style), '\n' ∉ line.toList := by
  intro line listed
  obtain ⟨row, member, prints⟩ := List.mem_filterMap.mp listed
  exact Row.newline_notMem (legible_rows clear row member) indented prints

/-- The printed text falls into the lines of its rows, and an empty one behind the last newline. -/
theorem splitOn_compile {style : Style} (clear : circuit.ClearPins) (indented : '\n' ∉ style.indent.toList) :
    (circuit.compile style).value.toList.splitOn '\n' =
      (circuit.program.rows.filterMap (Row.line? style)).map String.toList ++ [[]] := by
  rw [toList_compile, List.splitOn_intercalate '\n' _ (by simp)]
  simp only [List.forall_mem_append, List.forall_mem_map, List.forall_mem_singleton]
  exact ⟨newline_notMem_lines clear indented, List.not_mem_nil⟩

end Circuit

end Breadboard
