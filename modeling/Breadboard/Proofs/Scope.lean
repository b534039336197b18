import Breadboard.Program.Text
import Breadboard.Proofs.Outline
import Mathlib

/-! # Scope of names and pins

Every name in the loop of a program is declared once, made ready once and driven by parts of one kind on the same
pins only; every pin that the loop reads or writes has its mode set once. The three sections agree because each of
them goes back to the same list, the distinct hardware of the tasks in order of first use, and because a name
determines the motor that bears it.
-/

namespace Breadboard

def Declaration.name : Declaration → String
  | .servo name | .stepper name _ => name

namespace SetupStep

/-- The motor that a step makes ready. -/
def motor? : SetupStep → Option String
  | .attach name _ | .setSpeed name => some name
  | .configure .. => none

/-- The pin whose mode a step sets. -/
def configured? : SetupStep → Option Pin
  | .configure pin _ _ => some pin
  | .attach .. | .setSpeed _ => none

/-- A step makes the motor of a declaration ready. -/
inductive Readies : SetupStep → Declaration → Prop where
  | attach (name : String) (pin : Pin) : Readies (.attach name pin) (.servo name)
  | setSpeed (name : String) (coils : Coils) : Readies (.setSpeed name) (.stepper name coils)

end SetupStep

namespace Command

/-- The motor that a command drives. -/
def motor? : Command → Option String
  | .turn name _ | .advance name _ => some name
  | _ => none

/-- The pin that a command reads or writes. -/
def pin? : Command → Option Pin
  | .light pin _ | .poll pin | .blink pin _ | .power pin _ => some pin
  | _ => none

end Command

namespace Circuit

/-- The command of a part in the program of its circuit. -/
def command? (circuit : Circuit) (part : Part) : Option Command :=
  part.task?.map (Task.command (.ofTasks circuit.tasks))

/-- What holds of the names and pins of a circuit's program. -/
structure WellScoped (circuit : Circuit) : Prop where
  /-- The loop holds the commands of the parts, in order. -/
  loop_eq : circuit.program.loop = circuit.parts.filterMap circuit.command?
  declared_nodup : (circuit.program.declarations.map Declaration.name).Nodup
  readied : List.Forall₂ SetupStep.Readies (circuit.program.setup.filter fun step => step.motor?.isSome)
    circuit.program.declarations
  servo_bound : ∀ pin angle, .servo (some pin) angle ∈ circuit.parts →
    ∃ name, circuit.command? (.servo (some pin) angle) = some (.turn name angle) ∧
      circuit.program.declarations.filter (fun declaration => declaration.name = name) = [.servo name] ∧
      circuit.program.setup.filter (fun step => step.motor? = some name) = [.attach name pin]
  stepper_bound : ∀ pins steps, .stepper pins steps ∈ circuit.parts → pins.length = 4 →
    ∃ name coils, circuit.command? (.stepper pins steps) = some (.advance name steps) ∧ coils.pins = pins ∧
      circuit.program.declarations.filter (fun declaration => declaration.name = name) = [.stepper name coils] ∧
      circuit.program.setup.filter (fun step => step.motor? = some name) = [.setSpeed name]
  pin_bound : ∀ part command pin, circuit.command? part = some command → command.pin? = some pin → part.pins = [pin]
  same_motor : ∀ first ∈ circuit.parts, ∀ second ∈ circuit.parts, ∀ name,
    (circuit.command? first).bind Command.motor? = some name →
      ((circuit.command? second).bind Command.motor? = some name ↔
        second.kind = first.kind ∧ second.pins = first.pins)
  declared_driven : ∀ declaration ∈ circuit.program.declarations,
    ∃ command ∈ circuit.program.loop, command.motor? = some declaration.name
  configured_nodup : (circuit.program.setup.filterMap SetupStep.configured?).Nodup
  configured_iff : ∀ pin, pin ∈ circuit.program.setup.filterMap SetupStep.configured? ↔
    ∃ command ∈ circuit.program.loop, command.pin? = some pin

end Circuit

/-! ## Names tell motors apart -/

namespace Naming

/-- No two actuators have one name. -/
theorem actuator_inj {tasks : List Task} {pin other : Pin} (used : pin ∈ tasks.filterMap Task.actuator?) :
    (ofTasks tasks).actuator pin = (ofTasks tasks).actuator other ↔ pin = other := by
  constructor
  · intro same
    have ranks := Nat.repr_inj.mp (String.append_right_inj _ |>.mp same)
    exact (List.idxOf_inj (List.mem_eraseDups.mpr used)).mp (Nat.succ.inj ranks)
  · rintro rfl
    rfl

/-- No two step motors have one name. -/
theorem stepMotor_inj {tasks : List Task} {coils other : Coils} (used : coils ∈ tasks.filterMap Task.stepMotor?) :
    (ofTasks tasks).stepMotor coils = (ofTasks tasks).stepMotor other ↔ coils = other := by
  constructor
  · intro same
    have ranks := Nat.repr_inj.mp (String.append_right_inj _ |>.mp same)
    exact (List.idxOf_inj (List.mem_eraseDups.mpr used)).mp (Nat.succ.inj ranks)
  · rintro rfl
    rfl

/-- The stems keep servos and steppers apart. -/
theorem actuator_ne_stepMotor (tasks : List Task) (pin : Pin) (coils : Coils) :
    (ofTasks tasks).actuator pin ≠ (ofTasks tasks).stepMotor coils :=
  Wiring.actuatorStem_append_ne _ _

end Naming

/-! ## Sections as images of the hardware -/

namespace Hardware

def digital? : Hardware → Option Pin
  | .digital pin => some pin
  | _ => none

variable (naming : Naming)

def name? : Hardware → Option String
  | .actuator pin => some (naming.actuator pin)
  | .stepMotor coils => some (naming.stepMotor coils)
  | .digital _ => none

def declaration? : Hardware → Option Declaration
  | .actuator pin => some (.servo (naming.actuator pin))
  | .stepMotor coils => some (.stepper (naming.stepMotor coils) coils)
  | .digital _ => none

/-- The step that makes a motor ready. -/
def readying? : Hardware → Option SetupStep
  | .actuator pin => some (.attach (naming.actuator pin) pin)
  | .stepMotor coils => some (.setSpeed (naming.stepMotor coils))
  | .digital _ => none

end Hardware

namespace Circuit

variable (circuit : Circuit)

/-- The distinct hardware of a circuit, in order of first use. -/
def hardware : List Hardware :=
  (circuit.tasks.filterMap Task.hardware?).eraseDups

def naming : Naming :=
  .ofTasks circuit.tasks

/-- A circuit has the hardware that one of its tasks uses. -/
theorem mem_hardware {circuit : Circuit} {hardware : Hardware} :
    hardware ∈ circuit.hardware ↔ ∃ task ∈ circuit.tasks, task.hardware? = some hardware := by
  rw [Circuit.hardware, List.mem_eraseDups, List.mem_filterMap]

/-- What the first users do for their hardware only is done once for each piece of hardware. -/
theorem filterMap_firstUsers_hardware {α : Type} {ofTask? : Task → Option α} {ofHardware? : Hardware → Option α}
    (same : ∀ task, ofTask? task = task.hardware?.bind ofHardware?) :
    (firstUsers Task.hardware? circuit.tasks).filterMap ofTask? = circuit.hardware.filterMap ofHardware? := by
  rw [hardware, ← filterMap_firstUsers, List.filterMap_filterMap]
  exact congrArg (List.filterMap · _) (funext same)

/-- The declarations are those of the hardware, in the order of its first use. -/
theorem declarations_eq :
    circuit.program.declarations = circuit.hardware.filterMap (Hardware.declaration? circuit.naming) := by
  rw [program_eq_outline]
  apply filterMap_firstUsers_hardware
  intro task
  cases task <;> rfl

/-- The steps that ready a motor are those of the hardware, in the order of its first use. -/
theorem readying_eq : circuit.program.setup.filter (fun step => step.motor?.isSome) =
    circuit.hardware.filterMap (Hardware.readying? circuit.naming) := by
  rw [program_eq_outline, Program.outline, Program.named, List.filter_filterMap]
  apply filterMap_firstUsers_hardware
  intro task
  cases task <;> rfl

/-- The pins that are configured are those that parts use by themselves, in the order of their first use. -/
theorem configured_eq :
    circuit.program.setup.filterMap SetupStep.configured? = circuit.hardware.filterMap Hardware.digital? := by
  rw [program_eq_outline, Program.outline, Program.named, List.filterMap_filterMap]
  apply filterMap_firstUsers_hardware
  intro task
  cases task <;> rfl

/-- The declared names are those of the motors. -/
theorem declared_eq : circuit.program.declarations.map Declaration.name =
    circuit.hardware.filterMap (Hardware.name? circuit.naming) := by
  rw [declarations_eq, List.map_filterMap]
  apply congrArg (List.filterMap · _)
  funext hardware
  cases hardware <;> rfl

/-- The motors that are readied are those of the hardware. -/
theorem motors_eq : circuit.program.setup.filterMap SetupStep.motor? =
    circuit.hardware.filterMap (Hardware.name? circuit.naming) := by
  rw [program_eq_outline, Program.outline, Program.named, List.filterMap_filterMap]
  apply filterMap_firstUsers_hardware
  intro task
  cases task <;> rfl

/-- A name determines the hardware that bears it. -/
theorem eq_of_name?_eq {circuit : Circuit} {hardware other : Hardware} {name : String}
    (used : hardware ∈ circuit.hardware) (named : hardware.name? circuit.naming = some name)
    (same : other.name? circuit.naming = some name) : hardware = other := by
  obtain ⟨task, member, uses⟩ := mem_hardware.mp used
  cases hardware with
  | actuator pin =>
    have turned : pin ∈ circuit.tasks.filterMap Task.actuator? :=
      List.mem_filterMap.mpr ⟨task, member, Task.hardware?_eq_actuator.mp uses⟩
    cases other with
    | actuator other => rw [(Naming.actuator_inj turned).mp (Option.some.inj (named.trans same.symm))]
    | stepMotor coils => exact absurd (Option.some.inj (named.trans same.symm)) (Naming.actuator_ne_stepMotor _ _ _)
    | digital other => cases same
  | stepMotor coils =>
    have advanced : coils ∈ circuit.tasks.filterMap Task.stepMotor? :=
      List.mem_filterMap.mpr ⟨task, member, Task.hardware?_eq_stepMotor.mp uses⟩
    cases other with
    | actuator pin => exact absurd (Option.some.inj (same.trans named.symm)) (Naming.actuator_ne_stepMotor _ _ _)
    | stepMotor other => rw [(Naming.stepMotor_inj advanced).mp (Option.some.inj (named.trans same.symm))]
    | digital other => cases same
  | digital pin => cases named

/-- No two motors have one name. -/
theorem names_nodup : (circuit.hardware.filterMap (Hardware.name? circuit.naming)).Nodup := by
  apply List.pairwise_filterMap.mpr
  apply (nodup_eraseDups _).imp_of_mem
  rintro hardware other used _ differ name named _ named' rfl
  exact differ (eq_of_name?_eq used named named')

/-- What a part's task uses belongs to the circuit. -/
theorem mem_hardware_of_does {circuit : Circuit} {part : Part} {task : Task} {hardware : Hardware}
    (member : part ∈ circuit.parts) (does : part.Does task) (uses : task.hardware? = some hardware) :
    hardware ∈ circuit.hardware :=
  mem_hardware.mpr ⟨task, List.mem_filterMap.mpr ⟨part, member, Part.task?_eq_some_iff.mpr does⟩, uses⟩

/-- The declaration of a motor in use is the only one of its name. -/
theorem declaration_unique {circuit : Circuit} {hardware : Hardware} (used : hardware ∈ circuit.hardware)
    {declaration : Declaration} (declares : hardware.declaration? circuit.naming = some declaration) :
    circuit.program.declarations.filter (fun other => other.name = declaration.name) = [declaration] := by
  have distinct : (circuit.program.declarations.filterMap fun other => some other.name).Nodup := by
    rw [List.filterMap_eq_map', declared_eq]
    exact names_nodup circuit
  have member : declaration ∈ circuit.program.declarations := by
    rw [declarations_eq]
    exact List.mem_filterMap.mpr ⟨hardware, used, declares⟩
  simpa using filter_eq_singleton distinct member rfl

/-- So is the step that makes it ready. -/
theorem readying_unique {circuit : Circuit} {hardware : Hardware} (used : hardware ∈ circuit.hardware)
    {step : SetupStep} (readies : hardware.readying? circuit.naming = some step) {name : String}
    (motor : step.motor? = some name) :
    circuit.program.setup.filter (fun other => other.motor? = some name) = [step] := by
  have distinct : (circuit.program.setup.filterMap SetupStep.motor?).Nodup := by
    rw [motors_eq]
    exact names_nodup circuit
  have member : step ∈ circuit.program.setup.filter fun step => step.motor?.isSome := by
    rw [readying_eq]
    exact List.mem_filterMap.mpr ⟨hardware, used, readies⟩
  exact filter_eq_singleton distinct (List.mem_filter.mp member).1 motor

end Circuit

/-! ## Commands and their motors -/

namespace Part

/-- An actuator is used by the servos on its pin. -/
theorem actuator_iff {part : Part} {pin : Pin} :
    part.task?.bind Task.hardware? = some (.actuator pin) ↔ part.kind = .servo ∧ part.pins = [pin] := by
  constructor
  · intro uses
    obtain ⟨task, live, uses⟩ := Option.bind_eq_some_iff.mp uses
    have does := task?_eq_some_iff.mp live
    cases does <;> cases uses
    exact ⟨rfl, rfl⟩
  · rintro ⟨kind, pins⟩
    cases part <;> cases kind
    next bound angle =>
      obtain rfl : bound = some pin := Option.toList_eq_singleton_iff.mp pins
      rfl

/-- A step motor is used by the steppers on its coils. -/
theorem stepMotor_iff {part : Part} {coils : Coils} :
    part.task?.bind Task.hardware? = some (.stepMotor coils) ↔ part.kind = .stepper ∧ part.pins = coils.pins := by
  constructor
  · intro uses
    obtain ⟨task, live, uses⟩ := Option.bind_eq_some_iff.mp uses
    have does := task?_eq_some_iff.mp live
    cases does <;> cases uses
    exact ⟨rfl, rfl⟩
  · rintro ⟨kind, pins⟩
    cases part <;> cases kind
    next bound steps =>
      obtain rfl : bound = coils.pins := pins
      rfl

end Part

namespace Circuit

/-- The motor in a part's command is the one that its task uses. -/
theorem motor?_command? (circuit : Circuit) (part : Part) :
    (circuit.command? part).bind Command.motor? =
      (part.task?.bind Task.hardware?).bind (Hardware.name? circuit.naming) := by
  unfold command?
  cases part.task? with
  | none => rfl
  | some task => cases task <;> rfl

/-- The loop has the commands of the parts, in their order. -/
theorem loop_eq (circuit : Circuit) : circuit.program.loop = circuit.parts.filterMap circuit.command? := by
  rw [program_eq_outline]
  exact List.map_filterMap

/-- Parts drive the same motor exactly when they are of the same kind and bound alike. -/
theorem same_motor_iff {circuit : Circuit} {first : Part} (member : first ∈ circuit.parts) {name : String}
    (drives : (circuit.command? first).bind Command.motor? = some name) (second : Part) :
    (circuit.command? second).bind Command.motor? = some name ↔
      second.kind = first.kind ∧ second.pins = first.pins := by
  rw [motor?_command?] at drives ⊢
  obtain ⟨hardware, uses, named⟩ := Option.bind_eq_some_iff.mp drives
  obtain ⟨task, live, used⟩ := Option.bind_eq_some_iff.mp uses
  have known := mem_hardware_of_does member (Part.task?_eq_some_iff.mp live) used
  have shared : (second.task?.bind Task.hardware?).bind (Hardware.name? circuit.naming) = some name ↔
      second.task?.bind Task.hardware? = some hardware := by
    constructor
    · intro same
      obtain ⟨other, otherUses, otherNamed⟩ := Option.bind_eq_some_iff.mp same
      rw [otherUses, eq_of_name?_eq known named otherNamed]
    · intro same
      rw [same, Option.bind_some, named]
  rw [shared]
  cases hardware with
  | actuator pin =>
    obtain ⟨kind, pins⟩ := Part.actuator_iff.mp uses
    rw [kind, pins, Part.actuator_iff]
  | stepMotor coils =>
    obtain ⟨kind, pins⟩ := Part.stepMotor_iff.mp uses
    rw [kind, pins, Part.stepMotor_iff]
  | digital pin => cases named

/-- The command of a task in use stands in the loop. -/
theorem mem_loop {circuit : Circuit} {command : Command} :
    command ∈ circuit.program.loop ↔ ∃ task ∈ circuit.tasks, task.command circuit.naming = command := by
  rw [program_eq_outline]
  exact List.mem_map

/-- Every motor that is declared is driven. -/
theorem declared_driven {circuit : Circuit} {declaration : Declaration}
    (declared : declaration ∈ circuit.program.declarations) :
    ∃ command ∈ circuit.program.loop, command.motor? = some declaration.name := by
  rw [declarations_eq] at declared
  obtain ⟨hardware, used, declares⟩ := List.mem_filterMap.mp declared
  obtain ⟨task, member, uses⟩ := mem_hardware.mp used
  refine ⟨task.command circuit.naming, mem_loop.mpr ⟨task, member, rfl⟩, ?_⟩
  cases task <;> cases uses <;> cases declares <;> rfl

/-- Exactly the pins that the loop reads or writes are configured. -/
theorem configured_iff {circuit : Circuit} {pin : Pin} :
    pin ∈ circuit.program.setup.filterMap SetupStep.configured? ↔
      ∃ command ∈ circuit.program.loop, command.pin? = some pin := by
  have digital (hardware : Hardware) : hardware.digital? = some pin ↔ hardware = .digital pin := by
    cases hardware <;> simp [Hardware.digital?]
  have commanded (task : Task) : (task.command circuit.naming).pin? = task.digital? := by
    cases task <;> rfl
  simp only [configured_eq, List.mem_filterMap, digital, exists_eq_right, mem_hardware, Task.hardware?_eq_digital,
    mem_loop, exists_exists_and_eq_and, commanded]

/-- No pin is configured twice. -/
theorem configured_nodup (circuit : Circuit) : (circuit.program.setup.filterMap SetupStep.configured?).Nodup := by
  rw [configured_eq]
  apply List.Nodup.filterMap _ (nodup_eraseDups _)
  intro hardware other pin digital same
  cases hardware <;> cases other <;> simp_all [Hardware.digital?]

/-- The motors are readied one by one in the order of their declarations. -/
theorem readied (circuit : Circuit) :
    List.Forall₂ SetupStep.Readies (circuit.program.setup.filter fun step => step.motor?.isSome)
      circuit.program.declarations := by
  rw [readying_eq, declarations_eq]
  induction circuit.hardware with
  | nil => exact .nil
  | cons hardware rest ih =>
    cases hardware with
    | actuator pin => exact .cons (.attach _ pin) ih
    | stepMotor coils => exact .cons (.setSpeed _ coils) ih
    | digital pin => exact ih

/-- Every program declares what it drives, readies what it declares, and configures what it reads and writes. -/
theorem scopedStatements (circuit : Circuit) : circuit.WellScoped := by
  constructor
  case loop_eq => exact circuit.loop_eq
  case declared_nodup =>
    rw [declared_eq]
    exact circuit.names_nodup
  case readied => exact circuit.readied
  case servo_bound =>
    intro pin angle member
    have used := mem_hardware_of_does member (.servo pin angle) rfl
    exact ⟨circuit.naming.actuator pin, rfl, declaration_unique used rfl, readying_unique used rfl rfl⟩
  case stepper_bound =>
    intro pins steps member complete
    obtain ⟨coils, rfl⟩ := Coils.exists_pins_eq complete
    have used := mem_hardware_of_does member (.stepper coils steps) rfl
    exact ⟨circuit.naming.stepMotor coils, coils, rfl, rfl, declaration_unique used rfl, readying_unique used rfl rfl⟩
  case pin_bound =>
    intro part command pin commands uses
    obtain ⟨task, live, rfl⟩ := Option.map_eq_some_iff.mp commands
    have does := Part.task?_eq_some_iff.mp live
    cases does <;> cases uses <;> rfl
  case same_motor => exact fun _ member second _ _ drives => same_motor_iff member drives second
  case declared_driven => exact fun _ declared => declared_driven declared
  case configured_nodup => exact circuit.configured_nodup
  case configured_iff => exact fun _ => configured_iff

end Circuit

end Breadboard
