import Breadboard.Proofs.Contribution

/-! # Pins by other names

The compiler tells pins apart and prints their names, and it knows nothing else of them. So where pins are given other
names, each its own, a circuit has the same program about the renamed pins: the same statements in the same order, the
same motors under the same numbers, the same parts that are the first to use theirs. In the source text the new names
stand where the old ones stood. What is the same whatever the names are is put down in a `Draft`, whose lines have gaps
for the names of pins.
-/

namespace Breadboard

variable (respell : Pin → Pin)

/-! ## Respelled circuits -/

def Coils.respelled (coils : Coils) : Coils :=
  ⟨respell coils.first, respell coils.second, respell coils.third, respell coils.fourth⟩

/-- The part with every pin under its new name. -/
def Part.respelled : Part → Part
  | .light pin level => .light (pin.map respell) level
  | .button pin => .button (pin.map respell)
  | .servo pin angle => .servo (pin.map respell) angle
  | .stepper coils steps => .stepper (coils.map respell) steps
  | .wait milliseconds => .wait milliseconds
  | .blinker pin interval => .blinker (pin.map respell) interval
  | .power pin state => .power (pin.map respell) state

def Circuit.respelled (circuit : Circuit) : Circuit :=
  ⟨circuit.parts.map (Part.respelled respell)⟩

def Task.respelled : Task → Task
  | .light pin lit => .light (respell pin) lit
  | .poll pin => .poll (respell pin)
  | .turn pin angle => .turn (respell pin) angle
  | .advance coils steps => .advance (coils.respelled respell) steps
  | .wait milliseconds => .wait milliseconds
  | .blink pin interval => .blink (respell pin) interval
  | .power pin state => .power (respell pin) state

def Hardware.respelled : Hardware → Hardware
  | .actuator pin => .actuator (respell pin)
  | .stepMotor coils => .stepMotor (coils.respelled respell)
  | .digital pin => .digital (respell pin)

/-! ## Respelled programs -/

def Declaration.respelled : Declaration → Declaration
  | .servo name => .servo name
  | .stepper name coils => .stepper name (coils.respelled respell)

def SetupStep.respelled : SetupStep → SetupStep
  | .configure pin mode kind => .configure (respell pin) mode kind
  | .attach name pin => .attach name (respell pin)
  | .setSpeed name => .setSpeed name

def Command.respelled : Command → Command
  | .light pin lit => .light (respell pin) lit
  | .poll pin => .poll (respell pin)
  | .blink pin interval => .blink (respell pin) interval
  | .power pin state => .power (respell pin) state
  | command => command

/-- The program with every pin under its new name, and all else as it is. -/
def Program.respelled (program : Program) : Program where
  declarations := program.declarations.map (Declaration.respelled respell)
  setup := program.setup.map (SetupStep.respelled respell)
  loop := program.loop.map (Command.respelled respell)

/-! ## Tasks -/

private theorem Coils.ofPins?_map (pins : List Pin) :
    ofPins? (pins.map respell) = (ofPins? pins).map (respelled respell) := by
  match pins with
  | [] | [_] | [_, _] | [_, _, _] | [_, _, _, _] | _ :: _ :: _ :: _ :: _ :: _ => rfl

private theorem Part.task?_respelled (part : Part) :
    (part.respelled respell).task? = part.task?.map (Task.respelled respell) := by
  cases part with
  | stepper coils steps =>
    simp only [respelled, task?, Coils.ofPins?_map, Option.map_map]
    rfl
  | wait milliseconds => rfl
  | light pin | button pin | servo pin | blinker pin | power pin => cases pin <;> rfl

private theorem Circuit.tasks_respelled (circuit : Circuit) :
    (circuit.respelled respell).tasks = circuit.tasks.map (Task.respelled respell) := by
  simp only [tasks, respelled, List.filterMap_map, List.map_filterMap, Function.comp_def, Part.task?_respelled]

namespace Task

variable (task : Task)

private theorem actuator?_respelled : (task.respelled respell).actuator? = task.actuator?.map respell := by
  cases task <;> rfl

private theorem stepMotor?_respelled :
    (task.respelled respell).stepMotor? = task.stepMotor?.map (Coils.respelled respell) := by
  cases task <;> rfl

private theorem hardware?_respelled :
    (task.respelled respell).hardware? = task.hardware?.map (Hardware.respelled respell) := by
  cases task <;> rfl

end Task

/-! ## Names -/

/-- The names go with the motors, whatever the names of their pins. -/
structure Naming.Follows (naming after : Naming) : Prop where
  actuator : ∀ pin, after.actuator (respell pin) = naming.actuator pin
  stepMotor : ∀ coils : Coils, after.stepMotor (coils.respelled respell) = naming.stepMotor coils

namespace Task

variable {respell} {naming after : Naming} (follows : naming.Follows respell after) (task : Task)
include follows

private theorem declaration?_respelled :
    (task.respelled respell).declaration? after = (task.declaration? naming).map (Declaration.respelled respell) := by
  cases task with
  | turn pin angle => exact congrArg (fun name => some (Declaration.servo name)) (follows.actuator pin)
  | advance coils steps => exact congrArg (fun name => some (Declaration.stepper name _)) (follows.stepMotor coils)
  | _ => rfl

private theorem setupStep?_respelled :
    (task.respelled respell).setupStep? after = (task.setupStep? naming).map (SetupStep.respelled respell) := by
  cases task with
  | turn pin angle => exact congrArg (fun name => some (SetupStep.attach name _)) (follows.actuator pin)
  | advance coils steps => exact congrArg (fun name => some (SetupStep.setSpeed name)) (follows.stepMotor coils)
  | _ => rfl

private theorem command_respelled :
    (task.respelled respell).command after = (task.command naming).respelled respell := by
  cases task with
  | turn pin angle => exact congrArg (Command.turn · angle) (follows.actuator pin)
  | advance coils steps => exact congrArg (Command.advance · steps) (follows.stepMotor coils)
  | _ => rfl

end Task

section Distinct

variable {respell} (distinct : Function.Injective respell)
include distinct

private theorem Coils.respelled_injective : Function.Injective (respelled respell) := by
  rintro ⟨⟩ ⟨⟩ same
  simpa [respelled, distinct.eq_iff] using same

private theorem Hardware.respelled_injective : Function.Injective (respelled respell) := by
  intro hardware other same
  cases hardware <;> cases other <;>
    simp_all [respelled, distinct.eq_iff, (Coils.respelled_injective distinct).eq_iff]

private theorem Naming.ofTasks_respelled (tasks : List Task) :
    (ofTasks tasks).Follows respell (ofTasks (tasks.map (Task.respelled respell))) := by
  have actuators : (tasks.map (Task.respelled respell)).filterMap Task.actuator? =
      (tasks.filterMap Task.actuator?).map respell := by
    simp only [List.filterMap_map, List.map_filterMap, Function.comp_def, Task.actuator?_respelled]
  have stepMotors : (tasks.map (Task.respelled respell)).filterMap Task.stepMotor? =
      (tasks.filterMap Task.stepMotor?).map (Coils.respelled respell) := by
    simp only [List.filterMap_map, List.map_filterMap, Function.comp_def, Task.stepMotor?_respelled]
  constructor
  case actuator =>
    intro pin
    simp only [ofTasks, actuators, eraseDups_map distinct, idxOf_map distinct]
  case stepMotor =>
    intro coils
    have distinct' := Coils.respelled_injective distinct
    simp only [ofTasks, stepMotors, eraseDups_map distinct', idxOf_map distinct']

/-! ## Programs -/

/-- The outline of respelled tasks is the respelled outline. -/
theorem Program.outline_respelled (tasks : List Task) :
    outline (tasks.map (Task.respelled respell)) = (outline tasks).respelled respell := by
  have follows := Naming.ofTasks_respelled distinct tasks
  have firsts : firstUsers Task.hardware? (tasks.map (Task.respelled respell)) =
      (firstUsers Task.hardware? tasks).map (Task.respelled respell) := by
    rw [firstUsers_of_map]
    simp only [Task.hardware?_respelled, firstUsers_map (Hardware.respelled_injective distinct)]
  ext1
  · simp only [outline, named, respelled, firsts, List.filterMap_map, List.map_filterMap, Function.comp_def,
      Task.declaration?_respelled follows]
  · simp only [outline, named, respelled, firsts, List.filterMap_map, List.map_filterMap, Function.comp_def,
      Task.setupStep?_respelled follows]
  · simp only [outline, named, respelled, List.map_map, Function.comp_def, Task.command_respelled follows]

/-- The program of a respelled circuit is the respelled program. -/
theorem Circuit.program_respelled (circuit : Circuit) :
    (circuit.respelled respell).program = circuit.program.respelled respell := by
  rw [program_eq_outline, program_eq_outline, tasks_respelled, Program.outline_respelled distinct]

end Distinct

/-! ## Lines with gaps -/

/-- A piece of a line: a text that is the same whatever the names of pins are, or a gap for one of them. -/
inductive Piece where
  | fixed (text : String)
  | gap (pin : Pin)
deriving DecidableEq, Repr

def Piece.spelled : Piece → String
  | .fixed text => text
  | .gap pin => (respell pin).name

/-- The line with names in its gaps. -/
def Piece.line (pieces : List Piece) : String :=
  String.join (pieces.map (Piece.spelled respell))

/-- A statement that names one pin, with its note if notes are wanted. -/
def Style.draft (style : Style) (before : String) (pin : Pin) (behind note : String) : List Piece :=
  [.fixed (style.indent ++ before), .gap pin, .fixed (behind ++ if style.annotate then " // " ++ note else "")]

def Declaration.draft : Declaration → List Piece
  | .servo name => [.fixed (Declaration.servo name).text]
  | .stepper name coils =>
    [.fixed ("Stepper " ++ name ++ "(" ++ stepsPerTurn.repr ++ ", "), .gap coils.first, .fixed ", ", .gap coils.second,
      .fixed ", ", .gap coils.third, .fixed ", ", .gap coils.fourth, .fixed ");"]

def SetupStep.draft (style : Style) : SetupStep → List Piece
  | .configure pin mode kind =>
    style.draft "pinMode(" pin (", " ++ toString mode ++ ");") ("Setup " ++ kind.name ++ " pin")
  | .attach name pin =>
    style.draft (name ++ ".attach(") pin ");" ("Attach " ++ Part.Kind.servo.name ++ " to pin")
  | .setSpeed name => [.fixed ((SetupStep.setSpeed name).line style)]

/-- The statement that drives a pin to a level. -/
def Style.writing (style : Style) (pin : Pin) (level note : String) : List Piece :=
  style.draft "digitalWrite(" pin (", " ++ level ++ ");") note

def Command.drafts (style : Style) : Command → List (List Piece)
  | .light pin lit =>
    [style.writing pin (if lit then "HIGH" else "LOW")
      ("Turn " ++ Part.Kind.light.name ++ (if lit then " on" else " off"))]
  | .poll pin =>
    [[.fixed (style.indent ++ "if (digitalRead("), .gap pin, .fixed ") == LOW) \x7b"]] ++
      (style.noteLine (style.indent ++ style.indent) (Part.Kind.button.name ++ " pressed") ++
        style.noteLine (style.indent ++ style.indent) "Add your magic code here" ++
        [style.indent ++ "\x7d"]).map fun line => [.fixed line]
  | .blink pin interval =>
    let pause := style.line (delayStatement interval) ("Wait for " ++ Text.Numeral.written interval ++ " ms")
    [style.writing pin "HIGH" ("Turn " ++ Part.Kind.blinker.name ++ " on"), [.fixed pause],
      style.writing pin "LOW" ("Turn " ++ Part.Kind.blinker.name ++ " off"), [.fixed pause]]
  | .power pin state => [style.writing pin state.level ("Set " ++ Part.Kind.power.name ++ " to " ++ state.level)]
  | command => (command.lines style).map fun line => [.fixed line]

/-- The lines of a program, section by section, with gaps for the names of its pins. -/
structure Draft where
  declarations : List (List Piece)
  setup : List (List Piece)
  loop : List (List Piece)
deriving DecidableEq, Repr

def Program.draft (style : Style) (program : Program) : Draft :=
  ⟨program.declarations.map Declaration.draft, program.setup.map (SetupStep.draft style),
    program.loop.flatMap (Command.drafts style)⟩

def Draft.spelled (draft : Draft) : Sections :=
  ⟨draft.declarations.map (Piece.line respell), draft.setup.map (Piece.line respell),
    draft.loop.map (Piece.line respell)⟩

/-! ## The lines of a respelled program -/

namespace Piece

private theorem line_fixed (text : String) : line respell [.fixed text] = text := by
  simp [line, spelled]

private theorem map_line_fixed (lines : List String) :
    (lines.map fun text => [fixed text]).map (line respell) = lines := by
  simp only [List.map_map, Function.comp_def, line_fixed, List.map_id']

private theorem line_gap (before : String) (pin : Pin) (behind : String) :
    line respell [.fixed before, .gap pin, .fixed behind] = before ++ (respell pin).name ++ behind := by
  simp [line, spelled, String.append_assoc]

end Piece

namespace Style

variable (style : Style)

private theorem line_draft (before : String) (pin : Pin) (behind note : String) :
    Piece.line respell (style.draft before pin behind note) =
      style.line (before ++ (respell pin).name ++ behind) note := by
  simp only [draft, Piece.line_gap, line, String.append_assoc]

private theorem line_writing (pin : Pin) (level note : String) :
    Piece.line respell (style.writing pin level note) = style.line (writeStatement (respell pin) level) note := by
  rw [writing, line_draft, ← String.append_assoc, ← String.append_assoc]
  rfl

end Style

private theorem Declaration.text_respelled (declaration : Declaration) :
    (declaration.respelled respell).text = Piece.line respell declaration.draft := by
  cases declaration with
  | servo name => exact (Piece.line_fixed respell _).symm
  | stepper name coils =>
    simp [respelled, text, draft, Coils.respelled, Coils.pins, Piece.line, Piece.spelled, String.append_assoc]

private theorem SetupStep.line_respelled (style : Style) (step : SetupStep) :
    (step.respelled respell).line style = Piece.line respell (step.draft style) := by
  cases step with
  | configure pin mode kind => simp only [respelled, line, draft, Style.line_draft, String.append_assoc]
  | attach name pin => simp only [respelled, line, draft, Style.line_draft, String.append_assoc]
  | setSpeed name => exact (Piece.line_fixed respell _).symm

private theorem Command.lines_respelled (style : Style) (command : Command) :
    (command.respelled respell).lines style = (command.drafts style).map (Piece.line respell) := by
  cases command with
  | light pin lit => simp only [respelled, lines, drafts, List.map_cons, List.map_nil, Style.line_writing]
  | poll pin =>
    simp only [respelled, lines, drafts, List.map_append, List.map_cons, List.map_nil, Piece.line_gap,
      Piece.map_line_fixed, Piece.line_fixed, List.append_assoc]
  | blink pin interval =>
    simp only [respelled, lines, drafts, List.map_cons, List.map_nil, Style.line_writing, Piece.line_fixed]
  | power pin state => simp only [respelled, lines, drafts, List.map_cons, List.map_nil, Style.line_writing]
  | turn | advance | wait => exact (Piece.map_line_fixed respell _).symm

/-- The lines of a respelled program are the lines of its draft, with the pins spelled anew. -/
theorem Program.sections_respelled (style : Style) (program : Program) :
    (program.respelled respell).sections style = (program.draft style).spelled respell := by
  simp only [sections, respelled, draft, Draft.spelled, List.map_map, List.flatMap_map, List.map_flatMap,
    Function.comp_def, Declaration.text_respelled, SetupStep.line_respelled, Command.lines_respelled]

/-! ## Programs of respelled circuits -/

private theorem Part.respelled_id (part : Part) : part.respelled id = part := by
  cases part <;> simp [respelled]

namespace Circuit

variable (circuit : Circuit)

private theorem respelled_id : circuit.respelled id = circuit := by
  have same : Part.respelled id = id := funext Part.respelled_id
  rw [respelled, same, List.map_id]

private theorem front_respelled (count : Nat) :
    (circuit.respelled respell).front count = (circuit.front count).respelled respell :=
  congrArg Circuit.mk List.map_take.symm

/-- The lines that the part at a position adds, with gaps for the names of pins. -/
def addition (style : Style) (position : Nat) : Draft :=
  let before := (circuit.front position).program.draft style
  let after := (circuit.front (position + 1)).program.draft style
  ⟨after.declarations.drop before.declarations.length, after.setup.drop before.setup.length,
    after.loop.drop before.loop.length⟩

/-- What the source texts of a circuit and of the respelled one have in common. -/
structure Respelling (style : Style) (after : Circuit) : Prop where
  /-- The same statements stand in the same order, about the same motors and the renamed pins. -/
  program_eq : after.program = circuit.program.respelled respell
  /-- The motors keep their numbers. -/
  follows : circuit.naming.Follows respell after.naming
  /-- The same lines have the old names in their gaps, or the new ones. -/
  sections_eq : (circuit.sections style).value = (circuit.program.draft style).spelled id
  sections_after : (after.sections style).value = (circuit.program.draft style).spelled respell
  /-- The part at a position adds the same lines, if any, to each section. -/
  contribution_eq : ∀ position, circuit.contribution style position = (circuit.addition style position).spelled id
  contribution_after : ∀ position,
    after.contribution style position = (circuit.addition style position).spelled respell

section Distinct

variable {respell} (distinct : Function.Injective respell)
include distinct

private theorem sections_respelled (style : Style) :
    ((circuit.respelled respell).sections style).value = (circuit.program.draft style).spelled respell := by
  rw [← Program.sections_respelled, ← program_respelled distinct]
  rfl

private theorem contribution_respelled (style : Style) (position : Nat) :
    (circuit.respelled respell).contribution style position = (circuit.addition style position).spelled respell := by
  simp only [contribution, front_respelled, sections_respelled _ distinct, addition, Draft.spelled, List.length_map,
    List.map_drop]

/-- The compiler knows pins by their names only, and only as far as it tells them apart: where all pins get names of
their own, the source text is the same with the new names for the old ones. -/
theorem respelling_of_injective (style : Style) : circuit.Respelling respell style (circuit.respelled respell) := by
  have own := circuit.sections_respelled Function.injective_id style
  have adds := circuit.contribution_respelled Function.injective_id style
  rw [respelled_id] at own adds
  constructor
  case program_eq => exact circuit.program_respelled distinct
  case follows =>
    rw [naming, naming, tasks_respelled]
    exact Naming.ofTasks_respelled distinct circuit.tasks
  case sections_eq => exact own
  case sections_after => exact circuit.sections_respelled distinct style
  case contribution_eq => exact adds
  case contribution_after => exact circuit.contribution_respelled distinct style

end Distinct

/-- Names that would come in another order, on a pin and a motor that parts share. -/
theorem respelling_of_injective_reversed :
    Respelling (fun pin => ⟨String.ofList pin.name.toList.reverse⟩)
        ⟨[.servo (some ⟨"D10"⟩) 90, .light (some ⟨"D21"⟩) 1, .servo (some ⟨"D2"⟩) 0, .servo (some ⟨"D10"⟩) 45,
          .button (some ⟨"D21"⟩)]⟩ .standard
        ⟨[.servo (some ⟨"01D"⟩) 90, .light (some ⟨"12D"⟩) 1, .servo (some ⟨"2D"⟩) 0, .servo (some ⟨"01D"⟩) 45,
          .button (some ⟨"12D"⟩)]⟩ := by
  have distinct : Function.Injective fun pin : Pin => (⟨String.ofList pin.name.toList.reverse⟩ : Pin) := by
    rintro ⟨name⟩ ⟨other⟩ same
    simpa [String.toList_inj] using congrArg (fun pin => pin.name.toList) same
  exact respelling_of_injective _ distinct .standard

end Circuit

end Breadboard
