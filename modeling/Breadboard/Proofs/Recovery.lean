import Breadboard.Proofs.OutlineText
import Breadboard.Proofs.RowReading

/-! # Circuits read off their text

The annotated text of a circuit whose pins are identifiers shows its live parts, in order and with all that is set on
them, but for the level of a light, of which it shows only whether it is zero. The text gives the program, and the
program the tasks: the name of a motor leads to the one statement that attaches or declares it. `Circuit.shown` says
what of a circuit its tasks hold.
-/

namespace Breadboard

/-! ## Tasks and the parts that show -/

/-- A part as far as its text shows it. -/
def Part.shown : Part → Part
  | .light pin level => .light pin (if level = 0 then 0 else 1)
  | part => part

/-- The live parts of a circuit as far as the text shows them. -/
def Circuit.shown (circuit : Circuit) : List Part :=
  (circuit.parts.filter Part.isLive).map Part.shown

/-- The part that a task shows. -/
def Task.part : Task → Part
  | .light pin lit => .light (some pin) (if lit then 1 else 0)
  | .poll pin => .button (some pin)
  | .turn pin angle => .servo (some pin) angle
  | .advance coils steps => .stepper coils.pins steps
  | .wait milliseconds => .wait milliseconds
  | .blink pin interval => .blinker (some pin) interval
  | .power pin state => .power (some pin) state

private theorem Task.task?_part (task : Task) : task.part.task? = some task := by
  cases task with
  | light pin lit => cases lit <;> rfl
  | advance coils steps => exact Part.task?_eq_some_iff.mpr (.stepper coils steps)
  | _ => rfl

/-- A part is found again from its task. -/
theorem Task.part_injective : Function.Injective Task.part := by
  intro task other same
  exact Option.some.inj (task.task?_part.symm.trans (same ▸ other.task?_part))

private theorem Part.Does.shown_eq {part : Part} {task : Task} (does : part.Does task) : part.shown = task.part := by
  cases does with
  | light pin level => by_cases dark : level = 0 <;> simp [Part.shown, Task.part, dark]
  | _ => rfl

private theorem Circuit.shown_eq (circuit : Circuit) : circuit.shown = circuit.tasks.map Task.part := by
  rw [shown, tasks]
  induction circuit.parts with
  | nil => rfl
  | cons part rest ih =>
    cases live : part.task? with
    | none => simpa [Part.isLive_eq, live] using ih
    | some task =>
      have does := Part.task?_eq_some_iff.mp live
      rw [List.filterMap_cons_some live, List.filter_cons_of_pos does.isLive, List.map_cons, List.map_cons, ih,
        does.shown_eq]

/-- Circuits show the same exactly when they have the same tasks. -/
theorem Circuit.shown_eq_iff {first second : Circuit} : first.shown = second.shown ↔ first.tasks = second.tasks := by
  rw [shown_eq, shown_eq]
  exact (List.map_injective_iff.mpr Task.part_injective).eq_iff

/-- The parts that do not show lack their one pin, or have not four coils. -/
theorem Part.isLive_eq_false_iff (part : Part) : part.isLive = false ↔
    (part.kind.hasSinglePin = true ∧ part.pin? = none) ∨ (part.kind = .stepper ∧ part.pins.length ≠ 4) := by
  cases part <;> simp [isLive, kind, Kind.hasSinglePin, pin?, pins]

/-! ## Programs and their tasks -/

/-- The task behind a command. Motors are looked up by their names. -/
def Program.task? (program : Program) : Command → Option Task
  | .light pin lit => some (.light pin lit)
  | .poll pin => some (.poll pin)
  | .turn name angle =>
    match program.setup.filter fun step => step.motor? = some name with
    | [.attach _ pin] => some (.turn pin angle)
    | _ => none
  | .advance name steps =>
    match program.declarations.filter fun declaration => declaration.name = name with
    | [.stepper _ coils] => some (.advance coils steps)
    | _ => none
  | .wait milliseconds => some (.wait milliseconds)
  | .blink pin interval => some (.blink pin interval)
  | .power pin state => some (.power pin state)

namespace Circuit

private theorem task?_command {circuit : Circuit} {task : Task} (member : task ∈ circuit.tasks) :
    circuit.program.task? (task.command circuit.naming) = some task := by
  cases task with
  | turn pin angle =>
    have used : .actuator pin ∈ circuit.hardware := mem_hardware.mpr ⟨_, member, rfl⟩
    have attached := readying_unique used rfl rfl
    simp only [Task.command, Program.task?, attached]
  | advance coils steps =>
    have used : .stepMotor coils ∈ circuit.hardware := mem_hardware.mpr ⟨_, member, rfl⟩
    have declared : circuit.program.declarations.filter
        (fun declaration => declaration.name = circuit.naming.stepMotor coils) = [.stepper _ coils] :=
      declaration_unique used rfl
    simp only [Task.command, Program.task?, declared]
  | _ => rfl

/-- The tasks of a circuit can be read off its program. -/
theorem tasks_eq_filterMap (circuit : Circuit) :
    circuit.tasks = circuit.program.loop.filterMap circuit.program.task? := by
  have loop : circuit.program.loop = circuit.tasks.map (Task.command circuit.naming) := by
    rw [program_eq_outline]
    rfl
  rw [loop, List.filterMap_map]
  calc circuit.tasks = circuit.tasks.filterMap some := List.filterMap_some.symm
    _ = _ := List.filterMap_congr fun task member => (task?_command member).symm

/-! ## Texts and circuits -/

/-- Every pin of the circuit is an identifier. -/
def IdentifierPins (circuit : Circuit) : Prop :=
  ∀ part ∈ circuit.parts, ∀ pin ∈ part.pins, Script.IsIdentifier pin.name.toList

instance (circuit : Circuit) : Decidable circuit.IdentifierPins :=
  inferInstanceAs (Decidable (∀ part ∈ circuit.parts, ∀ pin ∈ part.pins, Script.IsIdentifier pin.name.toList))

variable {circuit : Circuit}

/-- An identifier is a word. -/
theorem IdentifierPins.isWord (identifiers : circuit.IdentifierPins) {part : Part} (placed : part ∈ circuit.parts)
    {pin : Pin} (member : pin ∈ part.pins) : Text.IsWord pin.name :=
  (identifiers part placed pin member).1

/-- Identifiers hold no note. -/
theorem IdentifierPins.clearPins (identifiers : circuit.IdentifierPins) : circuit.ClearPins :=
  fun _ placed _ member => (identifiers.isWord placed member).isBare.isClear

/-- Where the pins are identifiers, the program has words for all of its names. -/
theorem IdentifierPins.worded (identifiers : circuit.IdentifierPins) : circuit.program.Worded := by
  have bound {pin : Pin} : circuit.Wires pin → Text.IsWord pin.name :=
    fun ⟨_, placed, _, member⟩ => identifiers.isWord placed member
  constructor
  case declarations =>
    intro declaration listed
    simp only [Declaration.words, List.forall_mem_cons, List.forall_mem_map]
    exact ⟨isWord_of_declaration listed, fun pin mentioned => bound (wires_of_declaration listed mentioned)⟩
  case setup =>
    intro step listed
    simp only [SetupStep.words, List.forall_mem_append, List.forall_mem_map, Option.mem_toList]
    exact ⟨fun name motor => isWord_of_setupStep listed motor, fun pin mentioned =>
      bound (wires_of_setupStep listed mentioned)⟩
  case loop =>
    intro command listed
    simp only [Command.words, List.forall_mem_append, List.forall_mem_map, Option.mem_toList]
    exact ⟨fun name motor => isWord_of_command listed motor, fun pin mentioned =>
      bound (wires_of_command listed mentioned)⟩

/-- Where the pins are identifiers, the printed text determines the program. -/
theorem program_eq_of_compile_eq {first second : Circuit} (firstPins : first.IdentifierPins)
    (secondPins : second.IdentifierPins) (same : (first.compile .standard).value = (second.compile .standard).value) :
    first.program = second.program :=
  Program.eq_of_rows_eq firstPins.worded secondPins.worded
    (rows_eq_of_compile_eq firstPins.clearPins secondPins.clearPins same)

/-- Two circuits have the same annotated text exactly when they show the same parts. -/
theorem compile_eq_iff_shown_eq {first second : Circuit} (firstPins : first.IdentifierPins)
    (secondPins : second.IdentifierPins) :
    ((first.compile .standard).value = (second.compile .standard).value ↔ first.shown = second.shown) ∧
      (∀ part : Part, part.isLive = false ↔
        (part.kind.hasSinglePin = true ∧ part.pin? = none) ∨ (part.kind = .stepper ∧ part.pins.length ≠ 4)) ∧
      ∀ text circuit, (ofText text).value = .ok circuit → circuit.IdentifierPins := by
  refine ⟨?_, Part.isLive_eq_false_iff, fun _ _ read _ placed _ member => isIdentifier_of_ofText read placed member⟩
  rw [shown_eq_iff]
  constructor
  · intro same
    rw [tasks_eq_filterMap first, tasks_eq_filterMap second, program_eq_of_compile_eq firstPins secondPins same]
  · intro same
    change (first.program.sections .standard).text .standard = (second.program.sections .standard).text .standard
    rw [program, program, same]

/-- Two brightnesses of one light are written alike, whatever is not wired up beside it. The order of coils shows. -/
theorem compile_eq_iff_shown_eq_dimmed :
    let bright : Circuit := ⟨[.light (some ⟨"D1"⟩) 5, .servo none 90, .stepper [⟨"été"⟩, ⟨"B"⟩, ⟨"C"⟩, ⟨"D1"⟩] 7]⟩
    let dim : Circuit := ⟨[.light (some ⟨"D1"⟩) (-2), .stepper [⟨"été"⟩, ⟨"B"⟩, ⟨"C"⟩, ⟨"D1"⟩] 7, .stepper [⟨"B"⟩] 7]⟩
    let crossed : Circuit := ⟨[.light (some ⟨"D1"⟩) 5, .stepper [⟨"B"⟩, ⟨"été"⟩, ⟨"C"⟩, ⟨"D1"⟩] 7]⟩
    bright.IdentifierPins ∧ dim.IdentifierPins ∧ crossed.IdentifierPins ∧
      (bright.compile .standard).value = (dim.compile .standard).value ∧
      (bright.compile .standard).value ≠ (crossed.compile .standard).value := by
  intro bright dim crossed
  have brightPins : bright.IdentifierPins := by decide +kernel
  have dimPins : dim.IdentifierPins := by decide +kernel
  have crossedPins : crossed.IdentifierPins := by decide +kernel
  have alike := (compile_eq_iff_shown_eq brightPins dimPins).1.mpr (by decide)
  have apart := mt (compile_eq_iff_shown_eq brightPins crossedPins).1.mp (by decide)
  exact ⟨brightPins, dimPins, crossedPins, alike, apart⟩

end Circuit

end Breadboard
