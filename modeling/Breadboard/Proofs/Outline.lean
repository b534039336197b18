import Breadboard.Program.OfCircuit
import Breadboard.Proofs.FirstUse

/-! # Programs without wiring

A program is outlined from its tasks alone: the first user of each piece of hardware sets it up, each motor is
named after its rank among the motors of its kind, and the loop holds one command for each task. `ofTasks_eq_outline`
says that tasks handed one by one through a wiring give this very program. The invariant is `Wiring.Records`: a
wiring holds the distinct bindings of the tasks behind it, in order of first use.
-/

namespace Breadboard

/-- What is set up once, before the loop, for all tasks that use it. -/
inductive Hardware where
  | actuator (pin : Pin)
  | stepMotor (coils : Coils)
  | digital (pin : Pin)
deriving DecidableEq, Repr

namespace Task

/-- The servo pin that a task turns. -/
def actuator? : Task → Option Pin
  | .turn pin _ => some pin
  | _ => none

def stepMotor? : Task → Option Coils
  | .advance coils _ => some coils
  | _ => none

/-- The pin that a task reads or writes. -/
def digital? : Task → Option Pin
  | .light pin _ | .poll pin | .blink pin _ | .power pin _ => some pin
  | _ => none

def hardware? : Task → Option Hardware
  | .turn pin _ => some (.actuator pin)
  | .advance coils _ => some (.stepMotor coils)
  | .light pin _ | .poll pin | .blink pin _ | .power pin _ => some (.digital pin)
  | .wait _ => none

/-- A task uses an actuator exactly when it turns one. -/
theorem hardware?_eq_actuator {task : Task} {pin : Pin} :
    task.hardware? = some (.actuator pin) ↔ task.actuator? = some pin := by
  cases task <;> simp [hardware?, actuator?]

/-- A task uses a step motor exactly when it advances one. -/
theorem hardware?_eq_stepMotor {task : Task} {coils : Coils} :
    task.hardware? = some (.stepMotor coils) ↔ task.stepMotor? = some coils := by
  cases task <;> simp [hardware?, stepMotor?]

/-- A task uses a pin by itself exactly when it reads or writes one. -/
theorem hardware?_eq_digital {task : Task} {pin : Pin} :
    task.hardware? = some (.digital pin) ↔ task.digital? = some pin := by
  cases task <;> simp [hardware?, digital?]

end Task

/-- The names of the motors of a program. -/
structure Naming where
  actuator : Pin → String
  stepMotor : Coils → String

/-- Motors of a kind are numbered from one in the order of their first use. -/
def Naming.ofTasks (tasks : List Task) : Naming where
  actuator pin := Wiring.actuatorStem ++ ((tasks.filterMap Task.actuator?).eraseDups.idxOf pin + 1).repr
  stepMotor coils := Wiring.stepMotorStem ++ ((tasks.filterMap Task.stepMotor?).eraseDups.idxOf coils + 1).repr

namespace Task

variable (naming : Naming)

def declaration? : Task → Option Declaration
  | .turn pin _ => some (.servo (naming.actuator pin))
  | .advance coils _ => some (.stepper (naming.stepMotor coils) coils)
  | _ => none

/-- How a task sets its hardware up if it is the first to use it. -/
def setupStep? : Task → Option SetupStep
  | .light pin _ => some (.configure pin .output .light)
  | .poll pin => some (.configure pin .inputPullup .button)
  | .turn pin _ => some (.attach (naming.actuator pin) pin)
  | .advance coils _ => some (.setSpeed (naming.stepMotor coils))
  | .wait _ => none
  | .blink pin _ => some (.configure pin .output .blinker)
  | .power pin _ => some (.configure pin .output .power)

def command : Task → Command
  | .light pin lit => .light pin lit
  | .poll pin => .poll pin
  | .turn pin angle => .turn (naming.actuator pin) angle
  | .advance coils steps => .advance (naming.stepMotor coils) steps
  | .wait milliseconds => .wait milliseconds
  | .blink pin interval => .blink pin interval
  | .power pin state => .power pin state

end Task

namespace Program

/-- The program of tasks whose motors have names already. -/
def named (naming : Naming) (tasks : List Task) : Program where
  declarations := (firstUsers Task.hardware? tasks).filterMap (Task.declaration? naming)
  setup := (firstUsers Task.hardware? tasks).filterMap (Task.setupStep? naming)
  loop := tasks.map (Task.command naming)

def outline (tasks : List Task) : Program :=
  named (.ofTasks tasks) tasks

end Program

namespace Wiring

/-- The wiring holds what these tasks use, each binding once and in order of first use. -/
structure Records (wiring : Wiring) (tasks : List Task) : Prop where
  actuatorStem : wiring.actuators.stem = Wiring.actuatorStem
  stepMotorStem : wiring.stepMotors.stem = Wiring.stepMotorStem
  actuators : wiring.actuators.keys = (tasks.filterMap Task.actuator?).eraseDups
  stepMotors : wiring.stepMotors.keys = (tasks.filterMap Task.stepMotor?).eraseDups
  configured : wiring.configured = (tasks.filterMap Task.digital?).eraseDups

private theorem records_empty : empty.Records [] :=
  ⟨rfl, rfl, rfl, rfl, rfl⟩

private theorem actuators_contribute (wiring : Wiring) (task : Task) :
    (task.contribute wiring).2.actuators.stem = wiring.actuators.stem ∧
      (task.contribute wiring).2.actuators.keys = appendNew wiring.actuators.keys task.actuator? := by
  cases task <;> simp [Task.contribute, Task.contributeOnPin, configure, Task.actuator?, appendNew] <;>
    split <;> simp

private theorem stepMotors_contribute (wiring : Wiring) (task : Task) :
    (task.contribute wiring).2.stepMotors.stem = wiring.stepMotors.stem ∧
      (task.contribute wiring).2.stepMotors.keys = appendNew wiring.stepMotors.keys task.stepMotor? := by
  cases task <;> simp [Task.contribute, Task.contributeOnPin, configure, Task.stepMotor?, appendNew] <;>
    split <;> simp

private theorem configured_contribute (wiring : Wiring) (task : Task) :
    (task.contribute wiring).2.configured = appendNew wiring.configured task.digital? := by
  cases task <;> simp [Task.contribute, Task.contributeOnPin, configure, Task.digital?, appendNew] <;>
    split <;> simp

/-- Whatever a task uses, the wiring holds it afterwards and nothing else is new. -/
theorem Records.contribute {wiring : Wiring} {before : List Task} (records : wiring.Records before) (task : Task) :
    (task.contribute wiring).2.Records (before ++ [task]) where
  actuatorStem := (actuators_contribute wiring task).1.trans records.actuatorStem
  stepMotorStem := (stepMotors_contribute wiring task).1.trans records.stepMotorStem
  actuators := by rw [(actuators_contribute wiring task).2, records.actuators, eraseDups_filterMap_concat]
  stepMotors := by rw [(stepMotors_contribute wiring task).2, records.stepMotors, eraseDups_filterMap_concat]
  configured := by rw [configured_contribute, records.configured, eraseDups_filterMap_concat]

/-- A wiring names a servo as it is named in the end, whatever tasks are still to come. -/
theorem Records.actuator_name {wiring : Wiring} {before : List Task} (records : wiring.Records before) {task : Task}
    {pin : Pin} (turns : task.actuator? = some pin) (rest : List Task) :
    (wiring.actuators.assign pin).name = (Naming.ofTasks (before ++ task :: rest)).actuator pin := by
  simp only [Numbering.assign, Numbering.number, records.actuatorStem, records.actuators, Naming.ofTasks,
    List.filterMap_append, List.filterMap_cons, turns, idxOf_eraseDups_append_cons]

private theorem Records.stepMotor_name {wiring : Wiring} {before : List Task} (records : wiring.Records before)
    {task : Task} {coils : Coils} (advances : task.stepMotor? = some coils) (rest : List Task) :
    (wiring.stepMotors.assign coils).name = (Naming.ofTasks (before ++ task :: rest)).stepMotor coils := by
  simp only [Numbering.assign, Numbering.number, records.stepMotorStem, records.stepMotors, Naming.ofTasks,
    List.filterMap_append, List.filterMap_cons, advances, idxOf_eraseDups_append_cons]

private theorem Records.mem_actuators {wiring : Wiring} {before : List Task} (records : wiring.Records before)
    {pin : Pin} : pin ∈ wiring.actuators.keys ↔ some (.actuator pin) ∈ before.map Task.hardware? := by
  simp [records.actuators, List.mem_eraseDups, Task.hardware?_eq_actuator]

private theorem Records.mem_stepMotors {wiring : Wiring} {before : List Task} (records : wiring.Records before)
    {coils : Coils} : coils ∈ wiring.stepMotors.keys ↔ some (.stepMotor coils) ∈ before.map Task.hardware? := by
  simp [records.stepMotors, List.mem_eraseDups, Task.hardware?_eq_stepMotor]

private theorem Records.mem_configured {wiring : Wiring} {before : List Task} (records : wiring.Records before)
    {pin : Pin} : pin ∈ wiring.configured ↔ some (.digital pin) ∈ before.map Task.hardware? := by
  simp [records.configured, List.mem_eraseDups, Task.hardware?_eq_digital]

end Wiring

namespace Task

/-- The task uses hardware, and no task before it uses the same. -/
def isFirstUser (before : List Task) (task : Task) : Bool :=
  task.hardware?.isSome && task.hardware? ∉ before.map hardware?

/-- What a task adds to a program whose motors have names already. -/
def addition (naming : Naming) (before : List Task) (task : Task) : Program where
  declarations := if task.isFirstUser before then (task.declaration? naming).toList else []
  setup := if task.isFirstUser before then (task.setupStep? naming).toList else []
  loop := [task.command naming]

/-- The wiring lets a task add what it adds by the names that all tasks together settle. -/
theorem contribute_eq_addition {wiring : Wiring} {before : List Task} (records : wiring.Records before)
    (task : Task) (rest : List Task) :
    (task.contribute wiring).1 = task.addition (.ofTasks (before ++ task :: rest)) before := by
  have digital (pin : Pin) (mode : PinMode) (kind : Part.Kind) (command : Command) :
      (contributeOnPin wiring pin mode kind command).1 =
        ⟨[], if some (.digital pin) ∉ before.map hardware? then [.configure pin mode kind] else [], [command]⟩ := by
    simp only [contributeOnPin, Wiring.configure, ← records.mem_configured]
    split <;> simp_all
  cases task with
  | light pin lit => simp [contribute, digital, addition, isFirstUser, hardware?, declaration?, setupStep?, command]
  | poll pin => simp [contribute, digital, addition, isFirstUser, hardware?, declaration?, setupStep?, command]
  | blink pin interval =>
    simp [contribute, digital, addition, isFirstUser, hardware?, declaration?, setupStep?, command]
  | power pin state =>
    simp [contribute, digital, addition, isFirstUser, hardware?, declaration?, setupStep?, command]
  | wait milliseconds => rfl
  | turn pin angle =>
    have name := records.actuator_name (rfl : (Task.turn pin angle).actuator? = some pin) rest
    have isNew : (wiring.actuators.assign pin).isNew = (Task.turn pin angle).isFirstUser before := by
      simp [Numbering.assign, isFirstUser, hardware?, records.mem_actuators]
    simp only [contribute, name, isNew, addition, declaration?, setupStep?, command, Option.toList_some]
  | advance coils steps =>
    have name := records.stepMotor_name (rfl : (Task.advance coils steps).stepMotor? = some coils) rest
    have isNew : (wiring.stepMotors.assign coils).isNew = (Task.advance coils steps).isFirstUser before := by
      simp [Numbering.assign, isFirstUser, hardware?, records.mem_stepMotors]
    simp only [contribute, name, isNew, addition, declaration?, setupStep?, command, Option.toList_some]

end Task

attribute [ext] Program

namespace Program

/-- Programs are joined in any grouping. -/
theorem append_assoc (first second third : Program) : first ++ second ++ third = first ++ (second ++ third) := by
  ext1 <;> simp

private theorem append_empty (program : Program) : program ++ empty = program := by
  ext1 <;> simp [empty]

private theorem named_concat (naming : Naming) (before : List Task) (task : Task) :
    named naming (before ++ [task]) = named naming before ++ task.addition naming before := by
  have firsts : firstUsers Task.hardware? (before ++ [task]) =
      firstUsers Task.hardware? before ++ if task.isFirstUser before then [task] else [] :=
    firstUsers_concat Task.hardware? before task
  ext1
  · simp only [named, declarations_append, Task.addition, firsts, List.filterMap_append]
    cases found : task.declaration? naming <;> split <;> simp [found]
  · simp only [named, setup_append, Task.addition, firsts, List.filterMap_append]
    cases found : task.setupStep? naming <;> split <;> simp [found]
  · simp only [named, loop_append, Task.addition, List.map_append, List.map_cons, List.map_nil]

/-- Tasks that follow others add to the program what those have left out. -/
theorem named_append_ofTasks {wiring : Wiring} {before : List Task} (records : wiring.Records before)
    (rest : List Task) :
    named (.ofTasks (before ++ rest)) before ++ ofTasks wiring rest = outline (before ++ rest) := by
  induction rest generalizing wiring before with
  | nil => rw [ofTasks, append_empty, outline, List.append_nil]
  | cons task rest ih =>
    have later := ih (records.contribute task)
    rw [List.append_assoc, List.singleton_append, named_concat, append_assoc] at later
    rw [ofTasks, Task.contribute_eq_addition records task rest, later]

/-- The program that is built task by task is the outline of the tasks. -/
theorem ofTasks_eq_outline (tasks : List Task) : ofTasks .empty tasks = outline tasks := by
  have whole := named_append_ofTasks Wiring.records_empty tasks
  rw [List.nil_append] at whole
  rw [← whole]
  rfl

end Program

namespace Coils

/-- Coils have four pins. -/
theorem length_pins (coils : Coils) : coils.pins.length = 4 := rfl

/-- Coils are found again from their pins. -/
theorem ofPins?_pins (coils : Coils) : ofPins? coils.pins = some coils :=
  ofPins?_eq_some_iff.mpr rfl

/-- Coils are their pins. -/
theorem pins_injective : Function.Injective pins := by
  intro coils other same
  exact Option.some.inj ((ofPins?_pins coils).symm.trans (ofPins?_eq_some_iff.mpr same))

/-- Any four pins are those of some coils. -/
theorem exists_pins_eq {pins : List Pin} (complete : pins.length = 4) : ∃ coils : Coils, coils.pins = pins := by
  obtain ⟨first, second, third, fourth, rfl⟩ := List.length_eq_four.mp complete
  exact ⟨⟨first, second, third, fourth⟩, rfl⟩

/-- Other than four pins make no coils. -/
theorem ofPins?_eq_none {pins : List Pin} (incomplete : pins.length ≠ 4) : ofPins? pins = none := by
  cases found : ofPins? pins with
  | none => rfl
  | some coils =>
    rw [ofPins?_eq_some_iff.mp found] at incomplete
    exact absurd coils.length_pins incomplete

end Coils

namespace Part

/-- A part that is wired up, and what it does then. -/
inductive Does : Part → Task → Prop where
  | light (pin : Pin) (level : Int64) : Does (.light (some pin) level) (.light pin (level ≠ 0))
  | button (pin : Pin) : Does (.button (some pin)) (.poll pin)
  | servo (pin : Pin) (angle : Int64) : Does (.servo (some pin) angle) (.turn pin angle)
  | stepper (coils : Coils) (steps : Int64) : Does (.stepper coils.pins steps) (.advance coils steps)
  | wait (milliseconds : Int64) : Does (.wait milliseconds) (.wait milliseconds)
  | blinker (pin : Pin) (interval : Int64) : Does (.blinker (some pin) interval) (.blink pin interval)
  | power (pin : Pin) (state : Power) : Does (.power (some pin) state) (.power pin state)

/-- A part has a task exactly when it does it. -/
theorem task?_eq_some_iff {part : Part} {task : Task} : part.task? = some task ↔ part.Does task := by
  constructor
  · intro found
    cases part with
    | stepper coils steps =>
      obtain ⟨complete, split, rfl⟩ := Option.map_eq_some_iff.mp found
      rw [Coils.ofPins?_eq_some_iff.mp split]
      exact .stepper complete steps
    | wait milliseconds => cases found; exact .wait milliseconds
    | light pin level => obtain ⟨pin, rfl, rfl⟩ := Option.map_eq_some_iff.mp found; exact .light pin level
    | button pin => obtain ⟨pin, rfl, rfl⟩ := Option.map_eq_some_iff.mp found; exact .button pin
    | servo pin angle => obtain ⟨pin, rfl, rfl⟩ := Option.map_eq_some_iff.mp found; exact .servo pin angle
    | blinker pin interval => obtain ⟨pin, rfl, rfl⟩ := Option.map_eq_some_iff.mp found; exact .blinker pin interval
    | power pin state => obtain ⟨pin, rfl, rfl⟩ := Option.map_eq_some_iff.mp found; exact .power pin state
  · intro does
    cases does with
    | stepper coils steps => simp [task?, Coils.ofPins?_pins]
    | _ => rfl

end Part

/-- The program of a circuit needs no wiring: it can be read off the circuit's tasks. -/
theorem Circuit.program_eq_outline (circuit : Circuit) : circuit.program = .outline circuit.tasks :=
  Program.ofTasks_eq_outline circuit.tasks

end Breadboard
