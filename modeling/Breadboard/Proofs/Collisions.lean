import Breadboard.Proofs.Blankness
import Breadboard.Proofs.OutlineText

/-! # Names of motors and pins

The motors of a program are named by a stem and their number. No two motors share a name, but a pin may be called like
a motor, since the names of pins are copied from the text as they stand. It is called so exactly when its name is one
of those that the motors of the circuit get: `Circuit.Reserves`. Where no pin is, a name in the program stands for one
motor or one pin. The printed lines declare the same names, and have the same pins written in them.

Main statement: `namesThings`.
-/

namespace Breadboard

/-- Some statement of the program has the name of the pin in its text. -/
def Program.Mentions (program : Program) (pin : Pin) : Prop :=
  (∃ declaration ∈ program.declarations, pin ∈ declaration.pins) ∨ (∃ step ∈ program.setup, pin ∈ step.pins) ∨
    ∃ command ∈ program.loop, pin ∈ command.pins

/-- What a name in a program can stand for. -/
inductive Thing where
  | motor (kind : Part.Kind) (pins : List Pin)
  | pin (pin : Pin)
deriving DecidableEq, Repr

namespace Circuit

variable {circuit : Circuit}

/-- A name stands for the motor of a part that is driven by it, and for the pin that bears it. -/
inductive Denotes (circuit : Circuit) (name : String) : Thing → Prop where
  | motor {part : Part} (placed : part ∈ circuit.parts)
      (drives : (circuit.command? part).bind Command.motor? = some name) :
      Denotes circuit name (.motor part.kind part.pins)
  | pin {pin : Pin} (mentioned : circuit.program.Mentions pin) (called : pin.name = name) :
      Denotes circuit name (.pin pin)

/-- The name is among those that number the motors of the circuit from one. -/
def Reserves (circuit : Circuit) (name : String) : Prop :=
  (∃ n, 1 ≤ n ∧ n ≤ (circuit.bindings .rotary).length ∧ name = "actuator" ++ n.repr) ∨
    ∃ n, 1 ≤ n ∧ n ≤ (circuit.bindings .stepped).length ∧ name = "stepMotor" ++ n.repr

private theorem exists_numbered_iff {κ : Type} [DecidableEq κ] {keys : List κ} (nodup : keys.Nodup)
    (stem name : String) : (∃ key ∈ keys, stem ++ (keys.idxOf key + 1).repr = name) ↔
      ∃ n, 1 ≤ n ∧ n ≤ keys.length ∧ name = stem ++ n.repr := by
  constructor
  · rintro ⟨key, known, rfl⟩
    exact ⟨keys.idxOf key + 1, Nat.le_add_left 1 _, List.idxOf_lt_length_iff.mpr known, rfl⟩
  · rintro ⟨n, positive, bound, rfl⟩
    obtain ⟨index, rfl⟩ := Nat.exists_eq_add_of_le' positive
    refine ⟨keys[index], List.getElem_mem bound, ?_⟩
    rw [nodup.idxOf_getElem]

private theorem actuator_mem_hardware_iff {pin : Pin} :
    .actuator pin ∈ circuit.hardware ↔ pin ∈ (circuit.tasks.filterMap Task.actuator?).eraseDups := by
  simp only [mem_hardware, Task.hardware?_eq_actuator, List.mem_eraseDups, List.mem_filterMap]

private theorem stepMotor_mem_hardware_iff {coils : Coils} :
    .stepMotor coils ∈ circuit.hardware ↔ coils ∈ (circuit.tasks.filterMap Task.stepMotor?).eraseDups := by
  simp only [mem_hardware, Task.hardware?_eq_stepMotor, List.mem_eraseDups, List.mem_filterMap]

private theorem declared_iff_name? {name : String} :
    (∃ declaration ∈ circuit.program.declarations, declaration.name = name) ↔
      ∃ hardware ∈ circuit.hardware, hardware.name? circuit.naming = some name := by
  rw [← List.mem_filterMap, ← declared_eq, List.mem_map]

/-- The declared names are those that number the motors. -/
theorem declared_iff_reserves {name : String} :
    (∃ declaration ∈ circuit.program.declarations, declaration.name = name) ↔ circuit.Reserves name := by
  rw [declared_iff_name?, Reserves, bindings_rotary, bindings_stepped, List.length_map, List.length_map,
    ← exists_numbered_iff (nodup_eraseDups _), ← exists_numbered_iff (nodup_eraseDups _)]
  constructor
  · rintro ⟨hardware, used, named⟩
    cases hardware with
    | actuator pin => exact .inl ⟨pin, actuator_mem_hardware_iff.mp used, Option.some.inj named⟩
    | stepMotor coils => exact .inr ⟨coils, stepMotor_mem_hardware_iff.mp used, Option.some.inj named⟩
    | digital pin => cases named
  · rintro (⟨pin, used, named⟩ | ⟨coils, used, named⟩)
    · exact ⟨.actuator pin, actuator_mem_hardware_iff.mpr used, congrArg some named⟩
    · exact ⟨.stepMotor coils, stepMotor_mem_hardware_iff.mpr used, congrArg some named⟩

/-- So are the names by which the parts drive their motors. -/
theorem driven_iff_reserves {name : String} :
    (∃ part ∈ circuit.parts, (circuit.command? part).bind Command.motor? = some name) ↔ circuit.Reserves name := by
  rw [← declared_iff_reserves, declared_iff_name?]
  constructor
  · rintro ⟨part, placed, drives⟩
    rw [motor?_command?] at drives
    obtain ⟨hardware, uses, named⟩ := Option.bind_eq_some_iff.mp drives
    exact ⟨hardware, mem_hardware_iff.mpr ⟨part, placed, uses⟩, named⟩
  · rintro ⟨hardware, used, named⟩
    obtain ⟨part, placed, uses⟩ := mem_hardware_iff.mp used
    refine ⟨part, placed, ?_⟩
    rw [motor?_command?]
    exact Option.bind_eq_some_iff.mpr ⟨hardware, uses, named⟩

/-- What the names in a program stand for. -/
structure NamesThings (circuit : Circuit) : Prop where
  declared_nodup : (circuit.program.declarations.map Declaration.name).Nodup
  declared_iff : ∀ name, (∃ declaration ∈ circuit.program.declarations, declaration.name = name) ↔
    circuit.Reserves name
  /-- No declared name is that of a pin exactly when no pin of the program is called like a motor of the circuit. -/
  apart_iff : (∀ declaration ∈ circuit.program.declarations, ∀ pin : Pin, circuit.program.Mentions pin →
      declaration.name ≠ pin.name) ↔
    ∀ pin : Pin, circuit.program.Mentions pin → ¬circuit.Reserves pin.name
  /-- It is then, too, that no two things share a name. -/
  unambiguous_iff : (∀ name first second, circuit.Denotes name first → circuit.Denotes name second → first = second) ↔
    ∀ pin : Pin, circuit.program.Mentions pin → ¬circuit.Reserves pin.name

/-- The declared names are the reserved ones, apart from those of the pins exactly when no pin is called like one. -/
theorem namedStatements (circuit : Circuit) : circuit.NamesThings := by
  constructor
  case declared_nodup =>
    rw [declared_eq]
    exact circuit.names_nodup
  case declared_iff => exact fun name => declared_iff_reserves
  case apart_iff =>
    constructor
    · intro apart pin mentioned reserved
      obtain ⟨declaration, listed, same⟩ := declared_iff_reserves.mpr reserved
      exact apart declaration listed pin mentioned same
    · intro free declaration listed pin mentioned same
      exact free pin mentioned (declared_iff_reserves.mp ⟨declaration, listed, same⟩)
  case unambiguous_iff =>
    constructor
    · intro unambiguous pin mentioned reserved
      obtain ⟨part, placed, drives⟩ := driven_iff_reserves.mpr reserved
      cases unambiguous pin.name _ _ (.motor placed drives) (.pin mentioned rfl)
    -- A motor and a pin of one name would be a pin with a reserved name.
    · rintro free name _ _ (⟨placed, drives⟩ | ⟨mentioned, rfl⟩) (⟨placed', drives'⟩ | ⟨mentioned', called⟩)
      · obtain ⟨kind, pins⟩ := (same_motor_iff placed drives _).mp drives'
        rw [kind, pins]
      · exact absurd (driven_iff_reserves.mp ⟨_, placed, drives⟩) (called ▸ free _ mentioned')
      · exact absurd (driven_iff_reserves.mp ⟨_, placed', drives'⟩) (free _ mentioned)
      · exact congrArg Thing.pin (congrArg Pin.mk called.symm)

/-- What the names in its lines stand for. -/
structure NamedLines (style : Style) (circuit : Circuit) (sections : Sections) : Prop where
  declared_nodup : (sections.declarations.map declaredName).Nodup
  declared_iff : ∀ name, name ∈ sections.declarations.map declaredName ↔ circuit.Reserves name
  /-- The pins of live parts, and no others, are written in the lines. -/
  carried : ∀ pin, circuit.Wires pin → ∃ line ∈ sections.statements, ∃ pins, style.Carries line pins ∧ pin ∈ pins
  wired : ∀ line ∈ sections.statements, ∃ pins, style.Carries line pins ∧ ∀ pin ∈ pins, circuit.Wires pin
  apart_iff : (∀ name ∈ sections.declarations.map declaredName, ∀ pin, circuit.Wires pin → name ≠ pin.name) ↔
    ∀ pin, circuit.Wires pin → ¬circuit.Reserves pin.name

/-- Whatever a live part is bound to is mentioned by its own command, or where its motor is declared or attached. -/
theorem mentions_of_wires {pin : Pin} (wired : circuit.Wires pin) : circuit.program.Mentions pin := by
  obtain ⟨part, placed, live, member⟩ := wired
  rw [Part.isLive_eq] at live
  obtain ⟨task, live⟩ := Option.isSome_iff_exists.mp live
  have commands : task.command circuit.naming ∈ circuit.program.loop :=
    mem_loop.mpr ⟨task, List.mem_filterMap.mpr ⟨part, placed, live⟩, rfl⟩
  have does := Part.task?_eq_some_iff.mp live
  cases does with
  | servo own angle =>
    have used := mem_hardware_of_does placed (.servo own angle) rfl
    exact .inr (.inl ⟨.attach (circuit.naming.actuator own) own, (readied_iff rfl).mpr used, member⟩)
  | stepper coils steps =>
    have used := mem_hardware_of_does placed (.stepper coils steps) rfl
    exact .inl ⟨.stepper (circuit.naming.stepMotor coils) coils, (declared_iff rfl).mpr used, member⟩
  | wait milliseconds => cases member
  | _ => exact .inr (.inr ⟨_, commands, member⟩)

private theorem exists_carries_of_mentions (style : Style) {pin : Pin} (mentioned : circuit.program.Mentions pin) :
    ∃ line ∈ (circuit.sections style).value.statements, ∃ pins, style.Carries line pins ∧ pin ∈ pins := by
  rcases mentioned with ⟨declaration, listed, member⟩ | ⟨step, listed, member⟩ | ⟨command, listed, member⟩
  · exact ⟨_, List.mem_append_left _ (List.mem_append_left _ (List.mem_map_of_mem listed)), _,
      declaration.carries style (isWord_of_declaration listed), member⟩
  · exact ⟨_, List.mem_append_left _ (List.mem_append_right _ (List.mem_map_of_mem listed)), _,
      step.carries style fun _ motor => isWord_of_setupStep listed motor, member⟩
  · obtain ⟨line, printed, carries⟩ := (command.carries style fun _ motor => isWord_of_command listed motor).1
    exact ⟨line, List.mem_append_right _ (List.mem_flatMap.mpr ⟨_, listed, printed⟩), _, carries, member⟩

/-- The lines name what their statements name: the reserved names are declared, and the wired pins are written. -/
theorem namedLines (style : Style) (circuit : Circuit) : circuit.NamedLines style (circuit.sections style).value := by
  have declared {name : String} : name ∈ (circuit.sections style).value.declarations.map declaredName ↔
      circuit.Reserves name := by
    rw [map_declaredName, List.mem_map, declared_iff_reserves]
  constructor
  case declared_nodup =>
    rw [map_declaredName]
    exact circuit.namedStatements.declared_nodup
  case declared_iff => exact fun name => declared
  case carried => exact fun pin wired => exists_carries_of_mentions style (mentions_of_wires wired)
  case wired => exact fun line printed => exists_carries style circuit printed
  case apart_iff =>
    constructor
    · exact fun apart pin wired reserved => apart pin.name (declared.mpr reserved) pin wired rfl
    · exact fun free name listed pin wired same => free pin wired (same ▸ declared.mp listed)

/-- Motors never share a name, and a motor and a pin do only where a pin is called like one of the motors. So it is with
the statements of a program and with the lines that are printed of them. -/
theorem namesThings (style : Style) (circuit : Circuit) :
    circuit.NamesThings ∧ (circuit.compile style).value = (circuit.program.sections style).text style ∧
      circuit.NamedLines style (circuit.sections style).value :=
  ⟨circuit.namedStatements, rfl, circuit.namedLines style⟩

/-- A servo on a pin that is called like the first servo. -/
theorem declares_name_of_pin :
    ∃ circuit, (ofText "servo actuator1\n").value = .ok circuit ∧
      (circuit.sections .plain).value =
        ⟨["Servo actuator1;"], ["  actuator1.attach(actuator1);"], ["  actuator1.write(90);"]⟩ ∧
      ∃ declaration ∈ circuit.program.declarations, ∃ pin : Pin,
        circuit.program.Mentions pin ∧ declaration.name = pin.name := by
  have program : (Circuit.mk [.servo (some ⟨"actuator1"⟩) 90]).program =
      ⟨[.servo "actuator1"], [.attach "actuator1" ⟨"actuator1"⟩], [.turn "actuator1" 90]⟩ := by decide +kernel
  refine ⟨⟨[.servo (some ⟨"actuator1"⟩) 90]⟩, by decide +kernel, by decide +kernel, ?_⟩
  rw [program]
  exact ⟨_, List.mem_singleton_self _, ⟨"actuator1"⟩,
    .inr (.inl ⟨_, List.mem_singleton_self _, List.mem_singleton_self _⟩), rfl⟩

end Circuit

end Breadboard
