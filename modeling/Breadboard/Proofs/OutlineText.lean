import Breadboard.Program.Text
import Breadboard.Proofs.Outline

/-! # Source text without wiring

The sections of the source text read off the parts of a circuit: which parts are live, which of them is the first to
use a motor or a pin, how the motors are numbered, and what each part has to say, line by line. The text that the
wiring gives for a circuit is this one.
-/

namespace Breadboard

/-- What a live part shares with others: a motor of some sort with its pins, or a digital pin. -/
inductive Role where
  | rotary
  | stepped
  | digital
deriving DecidableEq, Repr

structure Binding where
  role : Role
  pins : List Pin
deriving DecidableEq, Repr

namespace Part

/-- A part is live once all it needs is bound: its one pin, or four coil pins and no more. -/
def isLive : Part → Bool
  | .wait _ => true
  | .stepper coils _ => coils.length = 4
  | part => part.pin?.isSome

def role? : Part → Option Role
  | .servo .. => some .rotary
  | .stepper .. => some .stepped
  | .light .. | .button .. | .blinker .. | .power .. => some .digital
  | .wait _ => none

def binding? (part : Part) : Option Binding :=
  if part.isLive then part.role?.map fun role => ⟨role, part.pins⟩ else none

end Part

/-- A statement with its indentation and, where they are wanted, its note. -/
def Style.noted (style : Style) (statement note : String) : String :=
  if style.annotate then s!"{style.indent}{statement} // {note}" else s!"{style.indent}{statement}"

namespace Circuit

variable (style : Style) (circuit : Circuit)

/-- The distinct bindings of the live parts in some role, in order of first occurrence. -/
def bindings (role : Role) : List (List Pin) :=
  (((circuit.parts.filterMap Part.binding?).filter fun binding => binding.role = role).map Binding.pins).eraseDups

/-- The place of a part's binding among those in its role, counted from one. -/
def rank (role : Role) (part : Part) : Nat :=
  (circuit.bindings role).idxOf part.pins + 1

def declarationLine? (part : Part) : Option String :=
  match part with
  | .servo .. => some s!"Servo actuator{circuit.rank .rotary part};"
  | .stepper coils _ =>
    some (s!"Stepper stepMotor{circuit.rank .stepped part}(200, " ++ ", ".intercalate (coils.map Pin.name) ++ ");")
  | _ => none

/-- What the first user of a binding has to say in `setup`. -/
def setupLine? (part : Part) : Option String :=
  match part with
  | .light (some pin) _ => some (style.noted s!"pinMode({pin}, OUTPUT);" "Setup Magic Light pin")
  | .button (some pin) => some (style.noted s!"pinMode({pin}, INPUT_PULLUP);" "Setup Clicky Switch pin")
  | .servo (some pin) _ =>
    some (style.noted s!"actuator{circuit.rank .rotary part}.attach({pin});" "Attach Robotic Arm to pin")
  | .stepper .. =>
    some (style.noted s!"stepMotor{circuit.rank .stepped part}.setSpeed(60);" "Set Step-by-Step Motor speed")
  | .blinker (some pin) _ => some (style.noted s!"pinMode({pin}, OUTPUT);" "Setup Blinky Switch pin")
  | .power (some pin) _ => some (style.noted s!"pinMode({pin}, OUTPUT);" "Setup Power Controller pin")
  | _ => none

/-- What a live part has to say in `loop`. -/
def loopLines (part : Part) : List String :=
  match part with
  | .light (some pin) level =>
    if level = 0 then [style.noted s!"digitalWrite({pin}, LOW);" "Turn Magic Light off"]
    else [style.noted s!"digitalWrite({pin}, HIGH);" "Turn Magic Light on"]
  | .button (some pin) =>
    [s!"{style.indent}if (digitalRead({pin}) == LOW) \x7b"] ++
      (if style.annotate then
        [s!"{style.indent}{style.indent}// Clicky Switch pressed",
          s!"{style.indent}{style.indent}// Add your magic code here"]
      else []) ++ [s!"{style.indent}\x7d"]
  | .servo _ angle =>
    [style.noted s!"actuator{circuit.rank .rotary part}.write({angle.toInt});"
      s!"Move Robotic Arm to {angle.toInt} degrees"]
  | .stepper _ steps =>
    [style.noted s!"stepMotor{circuit.rank .stepped part}.step({steps.toInt});"
      s!"Move Step-by-Step Motor by {steps.toInt} steps"]
  | .wait milliseconds =>
    [style.noted s!"delay({milliseconds.toInt});" s!"Wait for {milliseconds.toInt} milliseconds"]
  | .blinker (some pin) interval =>
    [style.noted s!"digitalWrite({pin}, HIGH);" "Turn Blinky Switch on",
      style.noted s!"delay({interval.toInt});" s!"Wait for {interval.toInt} ms",
      style.noted s!"digitalWrite({pin}, LOW);" "Turn Blinky Switch off",
      style.noted s!"delay({interval.toInt});" s!"Wait for {interval.toInt} ms"]
  | .power (some pin) .on => [style.noted s!"digitalWrite({pin}, HIGH);" "Set Power Controller to HIGH"]
  | .power (some pin) .off => [style.noted s!"digitalWrite({pin}, LOW);" "Set Power Controller to LOW"]
  | _ => []

/-- The sections of the source text, without any state that one part hands to the next. -/
def outline : Sections where
  declarations := (firstUsers Part.binding? circuit.parts).filterMap circuit.declarationLine?
  setup := (firstUsers Part.binding? circuit.parts).filterMap (circuit.setupLine? style)
  loop := (circuit.parts.filter Part.isLive).flatMap (circuit.loopLines style)

end Circuit

/-! ## Parts and their tasks -/

def Hardware.binding : Hardware → Binding
  | .actuator pin => ⟨.rotary, [pin]⟩
  | .stepMotor coils => ⟨.stepped, coils.pins⟩
  | .digital pin => ⟨.digital, [pin]⟩

/-- Hardware is told apart by its pins. -/
theorem Hardware.binding_injective : Function.Injective Hardware.binding := by
  intro hardware other same
  cases hardware <;> cases other <;> simp_all [binding, Coils.pins_injective.eq_iff]

namespace Part

/-- A part is live exactly when it has a task. -/
theorem isLive_eq (part : Part) : part.isLive = part.task?.isSome := by
  cases part with
  | stepper coils steps =>
    by_cases complete : coils.length = 4
    · obtain ⟨coils, rfl⟩ := Coils.exists_pins_eq complete
      simp [isLive, task?, Coils.ofPins?_pins, Coils.length_pins]
    · simp [isLive, task?, Coils.ofPins?_eq_none complete, complete]
  | _ => simp [isLive, task?, pin?]

/-- A part that does a task is live. -/
theorem Does.isLive {part : Part} {task : Task} (does : part.Does task) : part.isLive = true := by
  rw [isLive_eq, task?_eq_some_iff.mpr does, Option.isSome_some]

private theorem binding?_eq (part : Part) : part.binding? = (part.task?.bind Task.hardware?).map Hardware.binding := by
  cases live : part.task? with
  | none => simp [binding?, isLive_eq, live]
  | some task =>
    have does := task?_eq_some_iff.mp live
    rw [binding?, if_pos does.isLive]
    cases does <;> rfl

end Part

/-! ## Ranks and names -/

namespace Circuit

variable {circuit : Circuit}

private theorem filterMap_binding? (circuit : Circuit) :
    circuit.parts.filterMap Part.binding? = (circuit.tasks.filterMap Task.hardware?).map Hardware.binding := by
  rw [tasks, List.filterMap_filterMap, List.map_filterMap]
  exact congrArg (List.filterMap · circuit.parts) (funext Part.binding?_eq)

/-- The servos are bound to their pins in the order of their first use. -/
theorem bindings_rotary (circuit : Circuit) :
    circuit.bindings .rotary = (circuit.tasks.filterMap Task.actuator?).eraseDups.map fun pin => [pin] := by
  have injective : Function.Injective fun pin : Pin => [pin] := fun _ _ same => List.singleton_inj.mp same
  rw [← eraseDups_map injective, bindings, filterMap_binding?]
  apply congrArg List.eraseDups
  induction circuit.tasks with
  | nil => rfl
  | cons task rest ih => cases task <;> simpa [List.filterMap_cons, Task.hardware?, Task.actuator?, Hardware.binding] using ih

/-- The step motors are bound to their coils in the order of their first use. -/
theorem bindings_stepped (circuit : Circuit) :
    circuit.bindings .stepped = (circuit.tasks.filterMap Task.stepMotor?).eraseDups.map Coils.pins := by
  rw [← eraseDups_map Coils.pins_injective, bindings, filterMap_binding?]
  apply congrArg List.eraseDups
  induction circuit.tasks with
  | nil => rfl
  | cons task rest ih => cases task <;> simpa [List.filterMap_cons, Task.hardware?, Task.stepMotor?, Hardware.binding] using ih

/-- The names of a program number its motors by rank. -/
theorem actuator_ofTasks (circuit : Circuit) (pin : Pin) (angle : Int64) :
    (Naming.ofTasks circuit.tasks).actuator pin = s!"actuator{circuit.rank .rotary (.servo (some pin) angle)}" := by
  have injective : Function.Injective fun pin : Pin => [pin] := fun _ _ same => List.singleton_inj.mp same
  rw [rank, bindings_rotary]
  simp only [Part.pins, Part.pin?, Option.toList_some, idxOf_map injective]
  rfl

private theorem stepMotor_ofTasks (circuit : Circuit) (coils : Coils) (steps : Int64) :
    (Naming.ofTasks circuit.tasks).stepMotor coils = s!"stepMotor{circuit.rank .stepped (.stepper coils.pins steps)}" := by
  rw [rank, bindings_stepped]
  simp only [Part.pins, idxOf_map Coils.pins_injective]
  rfl

end Circuit

/-! ## Lines

The two sides join the same pieces at other places, so their texts are regrouped before they are compared. -/

private theorem Style.line_eq_noted (style : Style) (statement note : String) :
    style.line statement note = style.noted statement note := by
  unfold line noted
  split
  · exact String.append_assoc.symm
  · exact String.append_empty

namespace Circuit

variable (style : Style) (circuit : Circuit)

private theorem declarationLine?_eq {part : Part} {task : Task} (does : part.Does task) :
    circuit.declarationLine? part = (task.declaration? (.ofTasks circuit.tasks)).map Declaration.text := by
  cases does with
  | servo pin angle =>
    have name := actuator_ofTasks circuit pin angle
    exact congrArg (fun name => some ("Servo " ++ name ++ ";")) name.symm
  | stepper coils steps =>
    have opening : "Stepper " ++ (Naming.ofTasks circuit.tasks).stepMotor coils ++ "(" ++ stepsPerTurn.repr ++ ", " =
        s!"Stepper stepMotor{circuit.rank .stepped (.stepper coils.pins steps)}(200, " := by
      rw [stepMotor_ofTasks circuit coils steps, String.append_assoc, String.append_assoc]
      rfl
    exact congrArg (fun text => some (text ++ ", ".intercalate (coils.pins.map Pin.name) ++ ");")) opening.symm
  | _ => rfl

private theorem setupLine?_eq {part : Part} {task : Task} (does : part.Does task) :
    circuit.setupLine? style part = (task.setupStep? (.ofTasks circuit.tasks)).map (SetupStep.line style) := by
  have mode (pin : Pin) (mode : String) :
      "pinMode(" ++ pin.name ++ ", " ++ mode ++ ");" = "pinMode(" ++ pin.name ++ (", " ++ mode ++ ");") := by
    simp only [String.append_assoc]
  have speed (name : String) : name ++ ".setSpeed(" ++ turnsPerMinute.repr ++ ");" = name ++ ".setSpeed(60);" := by
    rw [String.append_assoc, String.append_assoc]
    rfl
  unfold setupLine?
  cases does with
  | wait milliseconds => rfl
  | servo pin angle =>
    simp only [Task.setupStep?, Option.map_some, SetupStep.line, Style.line_eq_noted,
      actuator_ofTasks circuit pin angle]
    rfl
  | stepper coils steps =>
    simp only [Task.setupStep?, Option.map_some, SetupStep.line, Style.line_eq_noted, speed,
      stepMotor_ofTasks circuit coils steps]
    rfl
  | _ =>
    simp only [Task.setupStep?, Option.map_some, SetupStep.line, Style.line_eq_noted, mode]
    rfl

private theorem loopLines_eq {part : Part} {task : Task} (does : part.Does task) :
    circuit.loopLines style part = (task.command (.ofTasks circuit.tasks)).lines style := by
  have written (pin : Pin) (level : String) :
      writeStatement pin level = "digitalWrite(" ++ pin.name ++ (", " ++ level ++ ");") := by
    change "digitalWrite(" ++ pin.name ++ ", " ++ level ++ ");" = _
    simp only [String.append_assoc]
  unfold loopLines
  cases does with
  | light pin level =>
    by_cases dark : level = 0 <;>
      simp only [Task.command, Command.lines, Style.line_eq_noted, dark, ne_eq, not_true_eq_false,
        not_false_eq_true, decide_false, decide_true, Bool.false_eq_true, if_true, if_false, written] <;>
      rfl
  | button pin =>
    have pressed (indent : String) :
        indent ++ "// " ++ (Part.Kind.button.name ++ " pressed") = indent ++ "// Clicky Switch pressed" := by
      rw [String.append_assoc]
      rfl
    have magic (indent : String) :
        indent ++ "// " ++ "Add your magic code here" = indent ++ "// Add your magic code here" := by
      rw [String.append_assoc]
      rfl
    simp only [Task.command, Command.lines, Style.noteLine, pressed, magic]
    cases style.annotate <;> rfl
  | servo pin angle =>
    simp only [Task.command, Command.lines, Style.line_eq_noted, actuator_ofTasks circuit pin angle]
    rfl
  | stepper coils steps =>
    simp only [Task.command, Command.lines, Style.line_eq_noted, stepMotor_ofTasks circuit coils steps]
    rfl
  | wait milliseconds =>
    simp only [Task.command, Command.lines, Style.line_eq_noted]
    rfl
  | blinker pin interval =>
    simp only [Task.command, Command.lines, Style.line_eq_noted, written]
    rfl
  | power pin state =>
    cases state <;>
      simp only [Task.command, Command.lines, Style.line_eq_noted, Power.level, written] <;>
      rfl

end Circuit

/-! ## Sections -/

namespace Circuit

/-- The first users among the parts and among their tasks are the same. -/
theorem firstUsers_tasks (circuit : Circuit) :
    firstUsers Task.hardware? circuit.tasks = (firstUsers Part.binding? circuit.parts).filterMap Part.task? := by
  rw [tasks, firstUsers_filterMap, ← firstUsers_map Hardware.binding_injective, ← funext Part.binding?_eq]

/-- Lines that agree on every live part agree on the first users. -/
theorem filterMap_firstUsers_tasks {α : Type} (circuit : Circuit) {ofPart? : Part → Option String}
    {ofTask? : Task → Option α} {text : α → String}
    (same : ∀ ⦃part task⦄, part.Does task → ofPart? part = (ofTask? task).map text) :
    ((firstUsers Task.hardware? circuit.tasks).filterMap ofTask?).map text =
      (firstUsers Part.binding? circuit.parts).filterMap ofPart? := by
  rw [firstUsers_tasks, List.filterMap_filterMap, List.map_filterMap]
  apply List.filterMap_congr
  intro part member
  have bound := isSome_of_mem_firstUsers member
  rw [Part.binding?_eq] at bound
  cases live : part.task? with
  | none => simp [live] at bound
  | some task => simp [same (Part.task?_eq_some_iff.mp live)]

private theorem flatMap_tasks (style : Style) (circuit : Circuit) (parts : List Part) :
    ((parts.filterMap Part.task?).map (Task.command (.ofTasks circuit.tasks))).flatMap (Command.lines style) =
      (parts.filter Part.isLive).flatMap (circuit.loopLines style) := by
  induction parts with
  | nil => rfl
  | cons part rest ih =>
    cases live : part.task? with
    | none => simpa [Part.isLive_eq, live] using ih
    | some task =>
      have does := Part.task?_eq_some_iff.mp live
      rw [List.filterMap_cons_some live, List.filter_cons_of_pos does.isLive, List.map_cons, List.flatMap_cons,
        List.flatMap_cons, ih, loopLines_eq style circuit does]

/-- The text of a circuit is its outline: what a part has to say depends on no table that parts before it filled. -/
theorem sections_eq_outline (style : Style) (circuit : Circuit) :
    (circuit.sections style).value = circuit.outline style ∧
      (circuit.compile style).value = (circuit.outline style).text style := by
  have same : circuit.program.sections style = circuit.outline style := by
    rw [program_eq_outline, Program.sections, outline, ← flatMap_tasks,
      ← filterMap_firstUsers_tasks circuit fun _ _ => declarationLine?_eq circuit,
      ← filterMap_firstUsers_tasks circuit fun _ _ => setupLine?_eq style circuit]
    rfl
  exact ⟨same, congrArg (Sections.text style) same⟩

end Circuit

end Breadboard
