import Breadboard.Proofs.Scope

/-! # Hardware in a program

A program has a line for each piece of hardware that its parts use: a motor in use is declared and made ready, and a
pin is configured for the first part on it. Two programs with a motor in common may number it differently;
`Circuit.renameTo` takes the name in the one to the name in the other, and the commands of a part agree up to it.
-/

namespace Breadboard

/-- The mode in which parts of a kind use their pin. -/
def Part.Kind.pinMode : Part.Kind → PinMode
  | .button => .inputPullup
  | _ => .output

namespace Part

/-- The motor or the pin that a part uses once it is wired up. -/
def hardware? (part : Part) : Option Hardware :=
  part.task?.bind Task.hardware?

/-- The step that configures a pin for a part. -/
def configuring (pin : Pin) (part : Part) : SetupStep :=
  .configure pin part.kind.pinMode part.kind

/-- A part that uses a pin by itself has that pin alone. -/
theorem pins_of_digital {part : Part} {pin : Pin} (uses : part.hardware? = some (.digital pin)) :
    part.pins = [pin] := by
  obtain ⟨task, live, uses⟩ := Option.bind_eq_some_iff.mp uses
  cases task?_eq_some_iff.mp live <;> cases uses <;> rfl

end Part

namespace Hardware

def actuator? : Hardware → Option Pin
  | .actuator pin => some pin
  | _ => none

def stepMotor? : Hardware → Option Coils
  | .stepMotor coils => some coils
  | _ => none

end Hardware

namespace Circuit

variable {circuit : Circuit}

/-! ## Lines of the hardware in use -/

/-- The hardware of a circuit is that of its parts, each piece once. -/
theorem hardware_eq (circuit : Circuit) : circuit.hardware = (circuit.parts.filterMap Part.hardware?).eraseDups := by
  rw [hardware, tasks, List.filterMap_filterMap]
  rfl

/-- A circuit has the hardware that one of its parts uses. -/
theorem mem_hardware_iff {hardware : Hardware} :
    hardware ∈ circuit.hardware ↔ ∃ part ∈ circuit.parts, part.hardware? = some hardware := by
  rw [hardware_eq, List.mem_eraseDups, List.mem_filterMap]

private theorem filterMap_tasks {κ : Type} {ofTask? : Task → Option κ} (ofHardware? : Hardware → Option κ)
    (same : ∀ task, ofTask? task = task.hardware?.bind ofHardware?) (circuit : Circuit) :
    circuit.tasks.filterMap ofTask? = circuit.parts.filterMap fun part => part.hardware?.bind ofHardware? := by
  rw [tasks, List.filterMap_filterMap]
  refine List.filterMap_congr fun part _ => ?_
  rw [Part.hardware?, Option.bind_assoc]
  exact congrArg part.task?.bind (funext same)

/-- The names of a program depend on the hardware of the parts only. -/
theorem naming_eq (circuit : Circuit) : circuit.naming =
    { actuator pin := Wiring.actuatorStem ++ ((circuit.parts.filterMap fun part =>
        part.hardware?.bind Hardware.actuator?).eraseDups.idxOf pin + 1).repr
      stepMotor coils := Wiring.stepMotorStem ++ ((circuit.parts.filterMap fun part =>
        part.hardware?.bind Hardware.stepMotor?).eraseDups.idxOf coils + 1).repr } := by
  rw [naming, Naming.ofTasks, filterMap_tasks Hardware.actuator? (fun task => by cases task <;> rfl),
    filterMap_tasks Hardware.stepMotor? (fun task => by cases task <;> rfl)]

/-- A motor is declared exactly when it is in use. -/
theorem declared_iff {hardware : Hardware} {declaration : Declaration}
    (declares : hardware.declaration? circuit.naming = some declaration) :
    declaration ∈ circuit.program.declarations ↔ hardware ∈ circuit.hardware := by
  rw [declarations_eq, List.mem_filterMap]
  refine ⟨fun ⟨other, used, same⟩ => ?_, fun used => ⟨hardware, used, declares⟩⟩
  have name (bearer : Hardware) (bears : bearer.declaration? circuit.naming = some declaration) :
      bearer.name? circuit.naming = some declaration.name := by
    cases bearer <;> cases bears <;> rfl
  rwa [← eq_of_name?_eq used (name other same) (name hardware declares)]

/-- So it is with the step that makes a motor ready. -/
theorem readied_iff {hardware : Hardware} {step : SetupStep}
    (readies : hardware.readying? circuit.naming = some step) :
    step ∈ circuit.program.setup ↔ hardware ∈ circuit.hardware := by
  have name (bearer : Hardware) (bears : bearer.readying? circuit.naming = some step) :
      bearer.name? circuit.naming = step.motor? ∧ step.motor?.isSome := by
    cases bearer <;> cases bears <;> exact ⟨rfl, rfl⟩
  obtain ⟨own, motor⟩ := name hardware readies
  obtain ⟨bears, drives⟩ := Option.isSome_iff_exists.mp motor
  have listed : step ∈ circuit.program.setup ↔
      step ∈ circuit.hardware.filterMap (Hardware.readying? circuit.naming) := by
    rw [← readying_eq, List.mem_filter, and_iff_left motor]
  rw [listed, List.mem_filterMap]
  refine ⟨fun ⟨other, used, same⟩ => ?_, fun used => ⟨hardware, used, readies⟩⟩
  rwa [← eq_of_name?_eq used ((name other same).1.trans drives) (own.trans drives)]

/-- The setup configures the pins that the parts use by themselves. -/
theorem configures_iff {pin : Pin} :
    (∃ step ∈ circuit.program.setup, step.configured? = some pin) ↔ .digital pin ∈ circuit.hardware := by
  have digital (hardware : Hardware) : hardware.digital? = some pin ↔ hardware = .digital pin := by
    cases hardware <;> simp [Hardware.digital?]
  rw [← List.mem_filterMap, configured_eq]
  simp only [List.mem_filterMap, digital, exists_eq_right]

/-- What a part does in `setup` if it is the first to use its hardware. -/
def setupStep? (circuit : Circuit) (part : Part) : Option SetupStep :=
  part.task?.bind (Task.setupStep? circuit.naming)

/-- The setup has a step for the first user of each piece of hardware. -/
theorem setup_eq (circuit : Circuit) :
    circuit.program.setup = (firstUsers Part.hardware? circuit.parts).filterMap circuit.setupStep? := by
  rw [program_eq_outline]
  change (firstUsers Task.hardware? (circuit.parts.filterMap Part.task?)).filterMap (Task.setupStep? circuit.naming) = _
  rw [firstUsers_filterMap, List.filterMap_filterMap]
  rfl

/-- A part that uses a pin by itself configures it, to the mode of its kind. -/
theorem setupStep?_of_digital {part : Part} {pin : Pin} (uses : part.hardware? = some (.digital pin)) :
    circuit.setupStep? part = some (part.configuring pin) := by
  obtain ⟨task, live, uses⟩ := Option.bind_eq_some_iff.mp uses
  rw [setupStep?, live]
  cases Part.task?_eq_some_iff.mp live <;> cases uses <;> rfl

/-- A step that configures a pin comes from a part that uses that pin by itself. -/
theorem digital_of_setupStep? {part : Part} {step : SetupStep} {pin : Pin} (does : circuit.setupStep? part = some step)
    (configures : step.configured? = some pin) : part.hardware? = some (.digital pin) := by
  obtain ⟨task, live, does⟩ := Option.bind_eq_some_iff.mp does
  rw [Part.hardware?, live]
  cases task <;> cases does <;> cases configures <;> rfl

private theorem filter_setupStep? (circuit : Circuit) (pin : Pin) (part : Part) :
    (circuit.setupStep? part).filter (fun step => step.configured? = some pin) =
      (Option.guard (fun part => part.hardware? = some (.digital pin)) part).map (Part.configuring pin) := by
  by_cases uses : part.hardware? = some (.digital pin)
  · simp [setupStep?_of_digital uses, uses, Part.configuring, SetupStep.configured?]
  · rw [Option.guard, if_neg (by simpa using uses), Option.map_none, Option.filter_eq_none_iff]
    intro step does configures
    exact uses (digital_of_setupStep? does (of_decide_eq_true configures))

/-- The parts that read or write a pin. -/
def usersOf (circuit : Circuit) (pin : Pin) : List Part :=
  circuit.parts.filter fun part => part.hardware? = some (.digital pin)

/-- A pin is configured for the first of its users, and only then. -/
theorem configuring_eq (circuit : Circuit) (pin : Pin) :
    circuit.program.setup.filter (fun step => step.configured? = some pin) =
      ((circuit.usersOf pin).head?.map (Part.configuring pin)).toList := by
  rw [setup_eq, List.filter_filterMap, funext (filter_setupStep? circuit pin), ← List.map_filterMap,
    List.filterMap_eq_filter, filter_firstUsers, usersOf, List.head?_filter, Option.toList_map]

/-- The users of a pin are the parts that use it by themselves. -/
theorem mem_usersOf {part : Part} {pin : Pin} :
    part ∈ circuit.usersOf pin ↔ part ∈ circuit.parts ∧ part.hardware? = some (.digital pin) := by
  rw [usersOf, List.mem_filter, decide_eq_true_iff]

end Circuit

/-! ## Names of the same motor in two programs -/

/-- The command with the name of its motor replaced. -/
def Command.renamed (rename : String → String) : Command → Command
  | .turn name angle => .turn (rename name) angle
  | .advance name steps => .advance (rename name) steps
  | command => command

namespace Circuit

/-- The name that the motor called `name` in `circuit` has in `after`. -/
def renameTo (circuit after : Circuit) (name : String) : String :=
  match circuit.hardware.find? fun hardware => hardware.name? circuit.naming = some name with
  | some hardware => (hardware.name? after.naming).getD name
  | none => name

/-- The renaming between two circuits takes the name of each motor in the one to its name in the other. -/
theorem name?_renameTo {circuit : Circuit} (after : Circuit) {hardware : Hardware} {name : String}
    (used : hardware ∈ circuit.hardware) (named : hardware.name? circuit.naming = some name) :
    hardware.name? after.naming = some (circuit.renameTo after name) := by
  unfold renameTo
  split
  next other found =>
    -- No other hardware in use bears the name.
    have bears : other.name? circuit.naming = some name := by simpa using List.find?_some found
    rw [eq_of_name?_eq (List.mem_of_find?_eq_some found) bears named]
    cases hardware with
    | digital pin => cases named
    | _ => rfl
  next missing => exact absurd named (by simpa using List.find?_eq_none.mp missing hardware used)

/-- A part does the same in another circuit, with the names that are given there. -/
theorem command?_renamed {circuit : Circuit} (after : Circuit) {part : Part} (placed : part ∈ circuit.parts) :
    after.command? part = (circuit.command? part).map (Command.renamed (circuit.renameTo after)) := by
  unfold command?
  cases live : part.task? with
  | none => rfl
  | some task =>
    have does := Part.task?_eq_some_iff.mp live
    cases does with
    | servo pin angle =>
      have same := name?_renameTo after (mem_hardware_of_does placed (.servo pin angle) rfl) rfl
      exact congrArg (fun name => some (Command.turn name angle)) (Option.some.inj same)
    | stepper coils steps =>
      have same := name?_renameTo after (mem_hardware_of_does placed (.stepper coils steps) rfl) rfl
      exact congrArg (fun name => some (Command.advance name steps)) (Option.some.inj same)
    | _ => rfl

/-- A program of some parts of a circuit has the commands of the circuit for them, with its own names for the motors. -/
theorem loop_renamed {circuit after : Circuit} (kept : after.parts ⊆ circuit.parts) :
    after.program.loop = (after.parts.filterMap circuit.command?).map (Command.renamed (circuit.renameTo after)) := by
  rw [loop_eq, List.map_filterMap]
  exact List.filterMap_congr fun part placed => command?_renamed after (kept placed)

end Circuit

end Breadboard
