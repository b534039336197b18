import Breadboard.Proofs.LineReading

/-! # Printed lines of a circuit

The lines of a program are picked as its statements are: by the name that they declare or begin with, or by the pin
whose mode they set. The loop is cut into blocks, one for each part, and two circuits with a part in common print the
same block for it up to the name of its motor.

Main statement: `wellScoped`, of the statements of a program and of its lines.
-/

namespace Breadboard

/-! ## Names of motors -/

/-- The parts that drive a motor. -/
def Part.IsMotor (part : Part) : Prop :=
  part.kind = .servo ∨ part.kind = .stepper

instance (part : Part) : Decidable part.IsMotor :=
  inferInstanceAs (Decidable (_ ∨ _))

namespace Circuit

variable {circuit : Circuit}

private theorem isWord_of_name? {hardware : Hardware} {name : String}
    (named : hardware.name? circuit.naming = some name) : Text.IsWord name := by
  have numbered (stem : String) (rank : Nat) (word : Text.IsWord stem) : Text.IsWord (stem ++ rank.repr) := by
    rw [Text.IsWord, String.toList_append, List.all_append, Bool.and_eq_true, Nat.toList_repr]
    refine ⟨word, List.all_eq_true.mpr fun c digit => ?_⟩
    exact Text.isWordChar_of_isDigit (Nat.isDigit_of_mem_toDigits (by decide) (by decide) digit)
  cases hardware with
  | actuator pin =>
    cases named
    exact numbered _ _ (by decide +kernel)
  | stepMotor coils =>
    cases named
    exact numbered _ _ (by decide +kernel)
  | digital pin => cases named

/-- A motor is called by no word that begins unlike the two stems. -/
theorem ne_of_name? {hardware : Hardware} {name word : String} (named : hardware.name? circuit.naming = some name)
    (unlike : word.toList.head?.any (· ∈ ['a', 's']) = false) : name ≠ word := by
  rintro rfl
  cases hardware with
  | actuator pin =>
    cases named
    simp [Circuit.naming, Naming.ofTasks, Wiring.actuatorStem] at unlike
  | stepMotor coils =>
    cases named
    simp [Circuit.naming, Naming.ofTasks, Wiring.stepMotorStem] at unlike
  | digital pin => cases named

private theorem ne_pinMode {hardware : Hardware} {name : String} (named : hardware.name? circuit.naming = some name) :
    name ≠ "pinMode" :=
  ne_of_name? named (by decide)

private theorem exists_name?_of_declaration {declaration : Declaration}
    (listed : declaration ∈ circuit.program.declarations) :
    ∃ hardware : Hardware, hardware.name? circuit.naming = some declaration.name := by
  have named := List.mem_map_of_mem listed (f := Declaration.name)
  rw [declared_eq] at named
  obtain ⟨hardware, -, named⟩ := List.mem_filterMap.mp named
  exact ⟨hardware, named⟩

private theorem exists_name?_of_setupStep {step : SetupStep} (listed : step ∈ circuit.program.setup) {name : String}
    (motor : step.motor? = some name) : ∃ hardware : Hardware, hardware.name? circuit.naming = some name := by
  have named := List.mem_filterMap.mpr ⟨step, listed, motor⟩
  rw [motors_eq] at named
  obtain ⟨hardware, -, named⟩ := List.mem_filterMap.mp named
  exact ⟨hardware, named⟩

private theorem exists_name?_of_command? {part : Part} {command : Command}
    (commands : circuit.command? part = some command) {name : String} (motor : command.motor? = some name) :
    ∃ hardware : Hardware, hardware.name? circuit.naming = some name := by
  have named := motor?_command? circuit part
  rw [commands, Option.bind_some, motor] at named
  obtain ⟨hardware, -, named⟩ := Option.bind_eq_some_iff.mp named.symm
  exact ⟨hardware, named⟩

private theorem exists_name?_of_command {command : Command} (listed : command ∈ circuit.program.loop) {name : String}
    (motor : command.motor? = some name) : ∃ hardware : Hardware, hardware.name? circuit.naming = some name := by
  rw [loop_eq] at listed
  obtain ⟨part, -, commands⟩ := List.mem_filterMap.mp listed
  exact exists_name?_of_command? commands motor

/-- A motor is declared under a word. -/
theorem isWord_of_declaration {declaration : Declaration} (listed : declaration ∈ circuit.program.declarations) :
    Text.IsWord declaration.name :=
  let ⟨_, named⟩ := exists_name?_of_declaration listed
  isWord_of_name? named

/-- A motor is set up under a word. -/
theorem isWord_of_setupStep {step : SetupStep} (listed : step ∈ circuit.program.setup) {name : String}
    (motor : step.motor? = some name) : Text.IsWord name :=
  let ⟨_, named⟩ := exists_name?_of_setupStep listed motor
  isWord_of_name? named

/-- A motor is driven under a word. -/
theorem isWord_of_command {command : Command} (listed : command ∈ circuit.program.loop) {name : String}
    (motor : command.motor? = some name) : Text.IsWord name :=
  let ⟨_, named⟩ := exists_name?_of_command listed motor
  isWord_of_name? named

/-! ## Declarations and setup -/

/-- A step on a pin is that of a part on it. -/
theorem exists_configuring {step : SetupStep} {pin : Pin} (listed : step ∈ circuit.program.setup)
    (configures : step.configured? = some pin) :
    ∃ part ∈ circuit.parts, part.hardware? = some (.digital pin) ∧ step = part.configuring pin := by
  rw [setup_eq] at listed
  obtain ⟨part, first, does⟩ := List.mem_filterMap.mp listed
  have uses := digital_of_setupStep? does configures
  rw [setupStep?_of_digital uses] at does
  exact ⟨part, mem_of_mem_firstUsers first, uses, (Option.some.inj does).symm⟩

private theorem subject_setupStep (style : Style) {step : SetupStep} (listed : step ∈ circuit.program.setup) :
    style.subject (step.line style) = step.motor?.getD "pinMode" :=
  step.subject_line style fun _ motor => isWord_of_setupStep listed motor

/-- A line begins with the name of a motor exactly when its step makes the motor ready. -/
theorem subject_eq_iff (style : Style) {step : SetupStep} (listed : step ∈ circuit.program.setup) {name : String}
    (motor : name ≠ "pinMode") : style.subject (step.line style) = name ↔ step.motor? = some name := by
  rw [subject_setupStep style listed]
  cases step.motor? with
  | none => simpa using motor.symm
  | some other => simp

/-- It is one of those that set the mode of a pin exactly when its step does. -/
theorem mem_configuring_iff {style : Style} {step : SetupStep} (listed : step ∈ circuit.program.setup) {pin : Pin} :
    step.line style ∈ style.configuring pin ↔ step.configured? = some pin := by
  cases configures : step.configured? with
  | some other =>
    obtain ⟨part, -, -, rfl⟩ := exists_configuring listed configures
    rw [Part.configuring, Style.configure_mem_configuring, Option.some_inj]
  | none =>
    -- The line begins with the name of a motor, not with the word of a mode.
    obtain ⟨name, motor⟩ : ∃ name, step.motor? = some name := by
      cases step <;> first | exact ⟨_, rfl⟩ | cases configures
    obtain ⟨hardware, named⟩ := exists_name?_of_setupStep listed motor
    refine iff_of_false (fun sets => ?_) (by simp)
    obtain ⟨kind, -, same⟩ := List.mem_map.mp sets
    have subject := SetupStep.subject_line (.configure pin kind.pinMode kind) style (by simp [SetupStep.motor?])
    rw [SetupStep.line, same, subject_setupStep style listed, motor] at subject
    exact ne_pinMode named subject

section Sections

variable (style : Style) (circuit)

/-- The declarations of a name are picked by their lines. -/
theorem filter_declared (name : String) :
    (circuit.sections style).value.declarations.filter (fun line => declaredName line = name) =
      (circuit.program.declarations.filter fun declaration => declaration.name = name).map Declaration.text := by
  change (circuit.program.declarations.map Declaration.text).filter _ = _
  rw [List.filter_map]
  refine congrArg (List.map _) (List.filter_congr fun declaration listed => ?_)
  simp only [Function.comp_apply, Declaration.declaredName_text (isWord_of_declaration listed)]

/-- The names in the printed declarations are those of the motors. -/
theorem map_declaredName : (circuit.sections style).value.declarations.map declaredName =
    circuit.program.declarations.map Declaration.name := by
  change (circuit.program.declarations.map Declaration.text).map declaredName = _
  rw [List.map_map]
  exact List.map_congr_left fun _ listed => Declaration.declaredName_text (isWord_of_declaration listed)

private theorem filter_setup_lines {picks : String → Bool} {chooses : SetupStep → Bool}
    (same : ∀ step ∈ circuit.program.setup, picks (step.line style) = chooses step) :
    (circuit.sections style).value.setup.filter picks =
      (circuit.program.setup.filter chooses).map (SetupStep.line style) := by
  change (circuit.program.setup.map (SetupStep.line style)).filter picks = _
  rw [List.filter_map]
  exact congrArg (List.map _) (List.filter_congr same)

/-- The steps that make a motor ready are picked by their lines, -/
theorem filter_subject {name : String} (motor : name ≠ "pinMode") :
    (circuit.sections style).value.setup.filter (fun line => style.subject line = name) =
      (circuit.program.setup.filter fun step => step.motor? = some name).map (SetupStep.line style) :=
  filter_setup_lines circuit style fun _ listed => decide_eq_decide.mpr (subject_eq_iff style listed motor)

/-- those that set the mode of a pin, -/
theorem filter_configuring (pin : Pin) :
    (circuit.sections style).value.setup.filter (fun line => line ∈ style.configuring pin) =
      (circuit.program.setup.filter fun step => step.configured? = some pin).map (SetupStep.line style) :=
  filter_setup_lines circuit style fun _ listed => decide_eq_decide.mpr (mem_configuring_iff listed)

/-- and those that set the mode of any pin. -/
theorem filter_pinMode :
    (circuit.sections style).value.setup.filter (fun line => style.subject line = "pinMode") =
      (circuit.program.setup.filter fun step => step.configured?.isSome).map (SetupStep.line style) := by
  refine filter_setup_lines circuit style fun step listed => ?_
  cases motor : step.motor? with
  | none =>
    have configures : step.configured?.isSome := by cases step <;> first | rfl | cases motor
    simp [subject_setupStep style listed, motor, configures]
  | some name =>
    have free : step.configured?.isSome = false := by cases step <;> first | rfl | cases motor
    obtain ⟨hardware, named⟩ := exists_name?_of_setupStep listed motor
    simp [subject_setupStep style listed, motor, free, ne_pinMode named]

/-- The names of motors at the front of the lines. -/
theorem filter_map_subject : ((circuit.sections style).value.setup.map style.subject).filter (· ≠ "pinMode") =
    circuit.program.setup.filterMap SetupStep.motor? := by
  change ((circuit.program.setup.map (SetupStep.line style)).map style.subject).filter _ = _
  rw [List.map_map, ← List.filterMap_eq_filter, List.filterMap_map]
  refine List.filterMap_congr fun step listed => ?_
  rw [Function.comp_apply, Function.comp_apply, subject_setupStep style listed]
  cases motor : step.motor? with
  | none => rfl
  | some name =>
    obtain ⟨hardware, named⟩ := exists_name?_of_setupStep listed motor
    simp [Option.guard, ne_pinMode named]

end Sections

/-- A motor is declared exactly when the line that declares it is printed. -/
theorem text_mem_iff {style : Style} {hardware : Hardware} {declaration : Declaration}
    (declares : hardware.declaration? circuit.naming = some declaration) :
    declaration.text ∈ (circuit.sections style).value.declarations ↔ declaration ∈ circuit.program.declarations := by
  refine ⟨fun printed => ?_, fun listed => List.mem_map_of_mem listed⟩
  obtain ⟨other, listed, same⟩ := List.mem_map.mp printed
  have named : hardware.name? circuit.naming = some declaration.name := by
    cases hardware <;> cases declares <;> rfl
  have names := congrArg declaredName same
  rw [Declaration.declaredName_text (isWord_of_declaration listed),
    Declaration.declaredName_text (isWord_of_name? named)] at names
  have member := List.mem_map_of_mem listed (f := Declaration.name)
  rw [declared_eq, List.mem_filterMap] at member
  obtain ⟨bearer, used, bears⟩ := member
  rw [names] at bears
  rw [declared_iff declares, ← eq_of_name?_eq used bears named]
  exact used

/-- So it is with the line of the step that makes it ready. -/
theorem line_mem_iff {style : Style} {hardware : Hardware} {step : SetupStep}
    (readies : hardware.readying? circuit.naming = some step) :
    step.line style ∈ (circuit.sections style).value.setup ↔ step ∈ circuit.program.setup := by
  refine ⟨fun printed => ?_, fun listed => List.mem_map_of_mem listed⟩
  obtain ⟨other, listed, same⟩ := List.mem_map.mp printed
  obtain ⟨name, named, motor⟩ : ∃ name, hardware.name? circuit.naming = some name ∧ step.motor? = some name := by
    cases hardware <;> cases readies <;> exact ⟨_, rfl, rfl⟩
  have subject := step.subject_line style fun _ drives =>
    Option.some.inj (motor.symm.trans drives) ▸ isWord_of_name? named
  rw [← same, motor, Option.getD_some,
    subject_eq_iff style listed (ne_pinMode named)] at subject
  have member := List.mem_filterMap.mpr ⟨other, listed, subject⟩
  rw [motors_eq, List.mem_filterMap] at member
  obtain ⟨bearer, used, bears⟩ := member
  rw [readied_iff readies, ← eq_of_name?_eq used bears named]
  exact used

/-- The mode of a pin is set by a line exactly when some part reads or writes the pin. -/
theorem configuring_mem_iff {style : Style} {pin : Pin} :
    (∃ line ∈ (circuit.sections style).value.setup, line ∈ style.configuring pin) ↔
      ∃ step ∈ circuit.program.setup, step.configured? = some pin := by
  constructor
  · rintro ⟨line, printed, sets⟩
    obtain ⟨step, listed, rfl⟩ := List.mem_map.mp printed
    exact ⟨step, listed, (mem_configuring_iff listed).mp sets⟩
  · rintro ⟨step, listed, configures⟩
    exact ⟨_, List.mem_map_of_mem listed, (mem_configuring_iff listed).mpr configures⟩

/-! ## Blocks of the loop -/

/-- The lines of a part in the loop. -/
def block (style : Style) (circuit : Circuit) (part : Part) : List String :=
  (circuit.command? part).toList.flatMap (Command.lines style)

private theorem block_eq_lines {part : Part} {command : Command} (commands : circuit.command? part = some command)
    (style : Style) : circuit.block style part = command.lines style := by
  rw [block, commands, Option.toList_some, List.flatMap_singleton]

/-- The lines of some parts' commands, part by part. -/
theorem flatMap_commands (style : Style) (circuit : Circuit) (parts : List Part) :
    (parts.filterMap circuit.command?).flatMap (Command.lines style) = parts.flatMap (circuit.block style) := by
  rw [List.filterMap_eq_flatMap_toList, List.flatMap_assoc]
  rfl

/-- The lines of the loop, part by part. -/
theorem loop_lines (style : Style) (circuit : Circuit) :
    (circuit.sections style).value.loop = circuit.parts.flatMap (circuit.block style) := by
  change circuit.program.loop.flatMap (Command.lines style) = _
  rw [loop_eq, flatMap_commands]

private theorem isMotor_iff {part : Part} {command : Command} (commands : circuit.command? part = some command) :
    part.IsMotor ↔ command.motor?.isSome := by
  obtain ⟨task, live, rfl⟩ := Option.map_eq_some_iff.mp commands
  cases Part.task?_eq_some_iff.mp live <;> simp [Part.IsMotor, Part.kind, Task.command, Command.motor?]

/-- The line of a motor begins with its name. -/
theorem exists_block {part : Part} {name : String} (drives : (circuit.command? part).bind Command.motor? = some name)
    (style : Style) : ∃ line, circuit.block style part = [line] ∧ style.subject line = name := by
  obtain ⟨command, commands, motor⟩ := Option.bind_eq_some_iff.mp drives
  obtain ⟨hardware, named⟩ := exists_name?_of_command? commands motor
  obtain ⟨call, note, ends, only, -⟩ := Command.exists_call motor style
  refine ⟨style.line (name ++ call) note, ?_, style.subject_line (isWord_of_name? named) ends note⟩
  rw [block_eq_lines commands, only]

/-- A line of a motor begins with the name by which the part drives it. -/
theorem subject_of_block {style : Style} {part : Part} (drives : part.IsMotor) {line : String}
    (listed : line ∈ circuit.block style part) :
    ∃ name, (circuit.command? part).bind Command.motor? = some name ∧ style.subject line = name := by
  obtain ⟨command, commands, -⟩ := List.mem_flatMap.mp listed
  rw [Option.mem_toList] at commands
  obtain ⟨name, motor⟩ := Option.isSome_iff_exists.mp ((isMotor_iff commands).mp drives)
  have drives : (circuit.command? part).bind Command.motor? = some name := by rw [commands, Option.bind_some, motor]
  obtain ⟨only, block, subject⟩ := exists_block drives style
  rw [block, List.mem_singleton] at listed
  exact ⟨name, drives, listed ▸ subject⟩

/-- The block of a part in another circuit differs by the name that its line begins with, if it drives a motor. -/
theorem block_renamed (style : Style) (after : Circuit) {part : Part} (placed : part ∈ circuit.parts) :
    after.block style part =
      if part.IsMotor then (circuit.block style part).map (style.withSubject (circuit.renameTo after))
      else circuit.block style part := by
  rw [block, block, command?_renamed after placed]
  cases commands : circuit.command? part with
  | none => simp
  | some command =>
    simp only [isMotor_iff commands, Option.map_some, Option.toList_some, List.flatMap_singleton]
    cases motor : command.motor? with
    | none =>
      rw [if_neg (by simp)]
      cases command <;> first | rfl | cases motor
    | some name =>
      have listed : command ∈ circuit.program.loop := by
        rw [loop_eq]
        exact List.mem_filterMap.mpr ⟨part, placed, commands⟩
      obtain ⟨call, note, ends, only, renames⟩ := Command.exists_call motor style
      rw [if_pos (by simp), only, renames, List.map_singleton,
        style.withSubject_line (isWord_of_command listed motor) ends]

/-- Some line of the loop writes or reads a pin exactly when some command does. -/
theorem touching_mem_iff {style : Style} {pin : Pin} :
    (∃ line ∈ (circuit.sections style).value.loop, line ∈ style.touching pin) ↔
      ∃ command ∈ circuit.program.loop, command.pin? = some pin := by
  constructor
  · rintro ⟨line, printed, touches⟩
    obtain ⟨command, listed, printed⟩ := List.mem_flatMap.mp printed
    refine ⟨command, listed, Command.pin?_of_touching (fun name motor => ?_) printed touches⟩
    obtain ⟨hardware, named⟩ := exists_name?_of_command listed motor
    exact ⟨isWord_of_name? named, ne_of_name? named (by decide), ne_of_name? named (by decide)⟩
  · rintro ⟨command, listed, uses⟩
    obtain ⟨line, printed, touches⟩ := Command.exists_touching style uses
    exact ⟨line, List.mem_flatMap.mpr ⟨command, listed, printed⟩, touches⟩

end Circuit

/-! ## Scope of the lines -/

namespace Circuit

/-- What the lines of a circuit's program say of its names and pins. -/
structure ScopedLines (style : Style) (circuit : Circuit) (sections : Sections) : Prop where
  /-- The loop holds the lines of the parts, in order. -/
  loop_eq : sections.loop = circuit.parts.flatMap (circuit.block style)
  declared_nodup : (sections.declarations.map declaredName).Nodup
  readied : (sections.setup.map style.subject).filter (· ≠ "pinMode") = sections.declarations.map declaredName
  servo_bound : ∀ pin angle, .servo (some pin) angle ∈ circuit.parts →
    ∃ name, circuit.block style (.servo (some pin) angle) = (Command.turn name angle).lines style ∧
      sections.declarations.filter (fun line => declaredName line = name) = [(Declaration.servo name).text] ∧
      sections.setup.filter (fun line => style.subject line = name) = [(SetupStep.attach name pin).line style]
  stepper_bound : ∀ pins steps, .stepper pins steps ∈ circuit.parts → pins.length = 4 →
    ∃ name coils, circuit.block style (.stepper pins steps) = (Command.advance name steps).lines style ∧
      coils.pins = pins ∧
      sections.declarations.filter (fun line => declaredName line = name) = [(Declaration.stepper name coils).text] ∧
      sections.setup.filter (fun line => style.subject line = name) = [(SetupStep.setSpeed name).line style]
  same_motor : ∀ first ∈ circuit.parts, ∀ second ∈ circuit.parts, first.IsMotor → second.IsMotor →
    ∀ line ∈ circuit.block style first, ∀ other ∈ circuit.block style second,
      (style.subject other = style.subject line ↔ second.kind = first.kind ∧ second.pins = first.pins)
  declared_driven : ∀ declared ∈ sections.declarations, ∃ part ∈ circuit.parts, part.IsMotor ∧
    ∃ line ∈ circuit.block style part, style.subject line = declaredName declared
  /-- The mode of a pin is set in one line at most. -/
  configured_once : ∀ pin, (sections.setup.filter fun line => line ∈ style.configuring pin).length ≤ 1
  configured_iff : ∀ pin, (∃ line ∈ sections.setup, line ∈ style.configuring pin) ↔
    ∃ line ∈ sections.loop, line ∈ style.touching pin

/-- Whatever is said of the statements by which motors are bound, the lines say it too. -/
theorem scopedLines (style : Style) (circuit : Circuit) : circuit.ScopedLines style (circuit.sections style).value := by
  have statements := circuit.scopedStatements
  constructor
  case loop_eq => exact circuit.loop_lines style
  case declared_nodup =>
    rw [map_declaredName]
    exact statements.declared_nodup
  case readied => rw [filter_map_subject, map_declaredName, declared_eq, motors_eq]
  case servo_bound =>
    intro pin angle placed
    obtain ⟨name, commands, declared, readied⟩ := statements.servo_bound pin angle placed
    obtain ⟨hardware, named⟩ := exists_name?_of_command? commands rfl
    refine ⟨name, block_eq_lines commands style, ?_, ?_⟩
    · rw [filter_declared, declared, List.map_singleton]
    · rw [filter_subject _ _ (ne_pinMode named), readied, List.map_singleton]
  case stepper_bound =>
    intro pins steps placed complete
    obtain ⟨name, coils, commands, bound, declared, readied⟩ := statements.stepper_bound pins steps placed complete
    obtain ⟨hardware, named⟩ := exists_name?_of_command? commands rfl
    refine ⟨name, coils, block_eq_lines commands style, bound, ?_, ?_⟩
    · rw [filter_declared, declared, List.map_singleton]
    · rw [filter_subject _ _ (ne_pinMode named), readied, List.map_singleton]
  case same_motor =>
    intro first placed second placed' drives drives' line listed other listed'
    obtain ⟨name, motor, subject⟩ := subject_of_block drives listed
    obtain ⟨name', motor', subject'⟩ := subject_of_block drives' listed'
    rw [subject, subject', ← statements.same_motor first placed second placed' name motor, motor', Option.some_inj]
  case declared_driven =>
    intro declared printed
    obtain ⟨declaration, listed, rfl⟩ := List.mem_map.mp printed
    obtain ⟨command, commands, motor⟩ := statements.declared_driven declaration listed
    rw [statements.loop_eq] at commands
    obtain ⟨part, placed, commands⟩ := List.mem_filterMap.mp commands
    have drives : (circuit.command? part).bind Command.motor? = some declaration.name := by
      rw [commands, Option.bind_some, motor]
    obtain ⟨line, only, subject⟩ := exists_block drives style
    refine ⟨part, placed, (isMotor_iff commands).mpr (by simp [motor]), line, by simp [only], ?_⟩
    rw [subject, Declaration.declaredName_text (isWord_of_declaration listed)]
  case configured_once =>
    intro pin
    rw [filter_configuring, List.length_map, configuring_eq]
    cases (circuit.usersOf pin).head? <;> simp
  case configured_iff =>
    intro pin
    rw [configuring_mem_iff, touching_mem_iff, ← statements.configured_iff, List.mem_filterMap]

/-- Names and pins of every program are well scoped, in its statements and in the lines that are printed of them. -/
theorem wellScoped (style : Style) (circuit : Circuit) :
    circuit.WellScoped ∧ (circuit.sections style).value = circuit.program.sections style ∧
      circuit.ScopedLines style (circuit.sections style).value :=
  ⟨circuit.scopedStatements, rfl, circuit.scopedLines style⟩

end Circuit

end Breadboard
