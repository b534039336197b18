import Breadboard.Proofs.Contribution
import Breadboard.Proofs.Session

/-! # Allocation of hardware

Which motors are declared, how they are named and what is set up goes by the kinds of the parts and by their pins; the
numbers and states that are set on parts have no say in it. A task without them is bare, and circuits of the same
wiring have the same bare tasks. All that such circuits may differ in is the blocks of parts that are set differently,
and each of these blocks has as many lines in the one as in the other.
-/

namespace Breadboard

/-! ## Bare tasks -/

namespace Task

/-- The task without the number or the state that comes with it. -/
def bare : Task → Task
  | .light pin _ => .light pin false
  | .poll pin => .poll pin
  | .turn pin _ => .turn pin 0
  | .advance coils _ => .advance coils 0
  | .wait _ => .wait 0
  | .blink pin _ => .blink pin 0
  | .power pin _ => .power pin .off

variable (task : Task) (naming : Naming)

/-- A task uses the same hardware whatever its values are. -/
@[simp] theorem hardware?_bare : task.bare.hardware? = task.hardware? := by
  cases task <;> rfl

@[simp] theorem actuator?_bare : task.bare.actuator? = task.actuator? := by
  cases task <;> rfl

@[simp] theorem stepMotor?_bare : task.bare.stepMotor? = task.stepMotor? := by
  cases task <;> rfl

@[simp] theorem declaration?_bare : task.bare.declaration? naming = task.declaration? naming := by
  cases task <;> rfl

@[simp] theorem setupStep?_bare : task.bare.setupStep? naming = task.setupStep? naming := by
  cases task <;> rfl

private theorem length_lines_bare (style : Style) :
    ((task.bare.command naming).lines style).length = ((task.command naming).lines style).length := by
  cases task <;> simp only [bare, command, Command.lines, List.length_cons]

end Task

private theorem Naming.ofTasks_bare (tasks : List Task) :
    Naming.ofTasks (tasks.map Task.bare) = Naming.ofTasks tasks := by
  simp only [ofTasks, List.filterMap_map, Function.comp_def, Task.actuator?_bare, Task.stepMotor?_bare]

/-- Bare tasks need the same declarations and the same setup. -/
theorem Program.outline_bare (tasks : List Task) :
    (outline (tasks.map Task.bare)).declarations = (outline tasks).declarations ∧
      (outline (tasks.map Task.bare)).setup = (outline tasks).setup := by
  simp only [outline, named, Naming.ofTasks_bare, firstUsers_of_map, List.filterMap_map, Function.comp_def,
    Task.hardware?_bare, Task.declaration?_bare, Task.setupStep?_bare, and_self]

/-! ## The text of the loop -/

namespace Sections

/-- Lines as they stand in a text, each with a newline at its end. -/
def written (lines : List String) : String :=
  String.join (lines.map fun line => line ++ "\n")

private theorem written_append (first second : List String) :
    written (first ++ second) = written first ++ written second := by
  simp [written]

/-- The loop stands behind the same text whatever its lines are, and before the closing brace. -/
theorem exists_text_eq (style : Style) (declarations setup : List String) :
    ∃ above, ∀ loop, (Sections.mk declarations setup loop).text style = above ++ written loop ++ written ["\x7d"] := by
  refine ⟨written ((Sections.mk declarations setup []).lines style).dropLast, fun loop => ?_⟩
  rw [← written_append, ← written_append]
  refine congrArg written ?_
  simp only [Sections.lines, Sections.function, List.append_nil, ← List.append_assoc, List.dropLast_concat]

end Sections

/-- Blocks that differ at one position differ there only. -/
theorem exists_flatMap_eq_append {blocks blocks' : Nat → List String} {positions : List Nat}
    (distinct : positions.Nodup) {position : Nat} (listed : position ∈ positions)
    (same : ∀ other, other ≠ position → blocks' other = blocks other) :
    ∃ before behind, positions.flatMap blocks = before ++ blocks position ++ behind ∧
      positions.flatMap blocks' = before ++ blocks' position ++ behind := by
  obtain ⟨front, back, rfl⟩ := List.append_of_mem listed
  obtain ⟨-, own, apart⟩ := List.nodup_append.mp distinct
  have before : front.flatMap blocks' = front.flatMap blocks :=
    List.flatMap_congr fun other member => same other (apart other member position List.mem_cons_self)
  have behind : back.flatMap blocks' = back.flatMap blocks :=
    List.flatMap_congr fun other member => same other fun here => (List.nodup_cons.mp own).1 (here ▸ member)
  refine ⟨front.flatMap blocks, back.flatMap blocks, ?_, ?_⟩
  · rw [List.flatMap_append, List.flatMap_cons, List.append_assoc]
  · rw [List.flatMap_append, List.flatMap_cons, before, behind, List.append_assoc]

/-! ## Circuits of the same wiring -/

namespace Part

def bareTask? (part : Part) : Option Task :=
  part.task?.map Task.bare

/-- The kind of a part and its pins settle what it does, up to numbers and states. -/
theorem bareTask?_congr {part second : Part} (kind : second.kind = part.kind) (pins : second.pins = part.pins) :
    second.bareTask? = part.bareTask? := by
  have toList {pin other : Option Pin} (same : pin.toList = other.toList) : pin = other := by
    cases pin <;> cases other <;> simp_all
  cases part <;> cases second <;> cases kind
  case stepper coils steps coils' steps' =>
    cases pins
    simp only [bareTask?, task?, Option.map_map, Function.comp_def, Task.bare]
  case wait => rfl
  all_goals
    cases toList pins
    simp only [bareTask?, task?, Option.map_map, Function.comp_def, Task.bare]

end Part

namespace Circuit

open Sections (written written_append)

/-- The parts at each position are of the same kind and have the same pins. -/
def SameWiring (circuit other : Circuit) : Prop :=
  List.Forall₂ (fun part second => second.kind = part.kind ∧ second.pins = part.pins) circuit.parts other.parts

variable {circuit other : Circuit}

private theorem SameWiring.bareTasks_eq (same : circuit.SameWiring other) :
    other.parts.map Part.bareTask? = circuit.parts.map Part.bareTask? := by
  obtain ⟨parts⟩ := circuit
  obtain ⟨others⟩ := other
  change List.Forall₂ _ parts others at same
  induction same with
  | nil => rfl
  | cons alike _ ih => exact congrArg₂ List.cons (Part.bareTask?_congr alike.1 alike.2) ih

private theorem SameWiring.tasks_eq (same : circuit.SameWiring other) :
    other.tasks.map Task.bare = circuit.tasks.map Task.bare := by
  have bare (circuit : Circuit) : circuit.tasks.map Task.bare = (circuit.parts.map Part.bareTask?).filterMap id := by
    rw [tasks, List.map_filterMap, List.filterMap_map]
    rfl
  rw [bare, bare, same.bareTasks_eq]

/-- Motors are named by the wiring alone. -/
theorem SameWiring.naming_eq (same : circuit.SameWiring other) : other.naming = circuit.naming := by
  rw [naming, naming, ← Naming.ofTasks_bare, same.tasks_eq, Naming.ofTasks_bare]

private theorem SameWiring.command?_eq (same : circuit.SameWiring other) : other.command? = circuit.command? :=
  funext fun part => congrArg (fun naming => part.task?.map (Task.command naming)) same.naming_eq

/-- Circuits that differ in values only declare and set up the same. -/
theorem SameWiring.outline_eq (same : circuit.SameWiring other) :
    other.program.declarations = circuit.program.declarations ∧ other.program.setup = circuit.program.setup := by
  have bare (circuit : Circuit) := Program.outline_bare circuit.tasks
  simp only [program_eq_outline, ← (bare _).1, ← (bare _).2, same.tasks_eq, and_self]

/-! ## Blocks -/

/-- The block of a part is as long as that of its bare task. -/
theorem length_block (style : Style) (circuit : Circuit) (position : Nat) :
    (circuit.contribution style position).loop.length = (circuit.parts[position]?.bind Part.bareTask?).elim 0
      fun task => ((task.command circuit.naming).lines style).length := by
  rw [contribution_loop]
  cases circuit.parts[position]? with
  | none => rfl
  | some part =>
    rw [Option.bind_some, Option.bind_some, command?, Part.bareTask?]
    cases part.task? with
    | none => rfl
    | some task =>
      rw [Option.map_some, Option.map_some, Option.toList_some, List.flatMap_singleton]
      exact (Task.length_lines_bare task circuit.naming style).symm

/-- What the source texts of circuits of the same wiring share. -/
structure SharesAllocation (style : Style) (circuit other : Circuit) : Prop where
  declarations_eq : (other.sections style).value.declarations = (circuit.sections style).value.declarations
  setup_eq : (other.sections style).value.setup = (circuit.sections style).value.setup
  loop_length : (other.sections style).value.loop.length = (circuit.sections style).value.loop.length
  /-- The blocks of the loop begin and end at the same lines. -/
  block_length : ∀ position,
    (other.contribution style position).loop.length = (circuit.contribution style position).loop.length
  block_eq : ∀ position : Nat, other.parts[position]? = circuit.parts[position]? →
    (other.contribution style position).loop = (circuit.contribution style position).loop

private theorem SameWiring.size_eq (same : circuit.SameWiring other) : other.size = circuit.size :=
  (List.Forall₂.length_eq same).symm

/-- Circuits that differ in values only print the same declarations and setup, and blocks of the same lengths. -/
theorem SameWiring.sharesAllocation (same : circuit.SameWiring other) (style : Style) :
    circuit.SharesAllocation style other := by
  have lengths (position : Nat) :
      (other.contribution style position).loop.length = (circuit.contribution style position).loop.length := by
    have bare := congrArg (fun tasks => tasks[position]?.bind id) same.bareTasks_eq
    simp only [List.getElem?_map, Option.bind_map, Function.id_comp] at bare
    rw [length_block, length_block, same.naming_eq, bare]
  constructor
  case declarations_eq => exact congrArg (List.map Declaration.text) same.outline_eq.1
  case setup_eq => exact congrArg (List.map (SetupStep.line style)) same.outline_eq.2
  case loop_length =>
    simp only [sections_eq_contributions, List.length_flatMap, lengths, same.size_eq]
  case block_length => exact lengths
  case block_eq =>
    intro position alike
    rw [contribution_loop, contribution_loop, same.command?_eq, alike]

/-! ## Parts that are set differently -/

/-- Where the parts are the same but for one, so are the source texts but for its block. -/
theorem SameWiring.exists_compile_eq (same : circuit.SameWiring other) (style : Style) {position : Nat}
    (inside : position < circuit.size)
    (elsewhere : ∀ away : Nat, away ≠ position → other.parts[away]? = circuit.parts[away]?) :
    ∃ above below,
      (circuit.compile style).value = above ++ written (circuit.contribution style position).loop ++ below ∧
        (other.compile style).value = above ++ written (other.contribution style position).loop ++ below := by
  have shares := same.sharesAllocation style
  obtain ⟨above, text⟩ := Sections.exists_text_eq style (circuit.sections style).value.declarations
    (circuit.sections style).value.setup
  obtain ⟨before, behind, loop, loop'⟩ := exists_flatMap_eq_append List.nodup_range (List.mem_range.mpr inside)
    fun away differ => shares.block_eq away (elsewhere away differ)
  have whole {sections : Sections} {block : List String}
      (declarations : sections.declarations = (circuit.sections style).value.declarations)
      (setup : sections.setup = (circuit.sections style).value.setup)
      (loop : sections.loop = before ++ block ++ behind) :
      sections.text style = above ++ written before ++ written block ++ (written behind ++ written ["\x7d"]) := by
    rw [← declarations, ← setup] at text
    rw [text sections.loop, loop]
    simp only [written_append, String.append_assoc]
  rw [← same.size_eq] at loop'
  have own := congrArg Sections.loop (circuit.sections_eq_contributions style)
  have others := congrArg Sections.loop (other.sections_eq_contributions style)
  exact ⟨_, _, whole rfl rfl (own.trans loop), whole shares.declarations_eq shares.setup_eq (others.trans loop')⟩

/-- A change of a number or a state leaves the wiring as it is. -/
theorem sameWiring_of_change {after : Circuit} {position : Nat} {setting : Change}
    (unwired : setting.target ∈ [.value, .interval, .power])
    (success : (Edit.change position setting).apply circuit = .ok after) :
    circuit.SameWiring after ∧ ∀ other, other ≠ position → after.parts[other]? = circuit.parts[other]? := by
  cases Edit.apply_eq_ok_iff.mp success with
  | @change _ _ part changed found filled applied =>
    have wires : setting.wires part.pins = part.pins := by
      cases setting with
      | value | interval | power => rfl
      | bind | unbind | coils => simp [Change.target] at unwired
    have alike : changed.kind = part.kind ∧ changed.pins = part.pins :=
      ⟨Change.kind_of_applyTo? applied, (Change.pins_of_applyTo? _ applied).trans wires⟩
    obtain ⟨inside, rfl⟩ := List.getElem?_eq_some_iff.mp found
    refine ⟨List.forall₂_iff_get.mpr ⟨List.length_set.symm, fun other _ _ => ?_⟩,
      fun other away => List.getElem?_set_ne (Ne.symm away)⟩
    simp only [List.get_eq_getElem, List.getElem_set]
    split
    next here =>
      subst here
      exact alike
    next => exact ⟨rfl, rfl⟩

/-- Numbers and states are printed in the blocks of their parts and have no effect on anything else in the source text:
what is declared, named and set up goes by kinds and pins. -/
theorem values_allocate_nothing (style : Style) :
    (∀ circuit : Circuit, (circuit.sections style).value.loop =
        (List.range circuit.size).flatMap fun position => (circuit.contribution style position).loop) ∧
      (∀ circuit other : Circuit, circuit.SameWiring other → circuit.SharesAllocation style other) ∧
      ∀ (circuit after : Circuit) (position : Nat) (setting : Change),
        setting.target ∈ [.value, .interval, .power] → (Edit.change position setting).apply circuit = .ok after →
          ∃ above below,
            (circuit.compile style).value = above ++ written (circuit.contribution style position).loop ++ below ∧
              (after.compile style).value = above ++ written (after.contribution style position).loop ++ below := by
  refine ⟨fun circuit => congrArg Sections.loop (circuit.sections_eq_contributions style),
    fun circuit other same => same.sharesAllocation style, ?_⟩
  intro circuit after position setting unwired success
  obtain ⟨same, elsewhere⟩ := sameWiring_of_change unwired success
  have inside : position < circuit.size := by
    cases Edit.apply_eq_ok_iff.mp success with
    | change found filled applied => exact (List.getElem?_eq_some_iff.mp found).1
  exact same.exists_compile_eq style inside elsewhere

/-- The second of two parts on one servo is set, and a light goes on. -/
theorem values_allocate_nothing_shared :
    SharesAllocation .standard ⟨[.servo (some ⟨"D5"⟩) 90, .light (some ⟨"D1"⟩) 0, .servo (some ⟨"D5"⟩) 90]⟩
        ⟨[.servo (some ⟨"D5"⟩) 90, .light (some ⟨"D1"⟩) 1, .servo (some ⟨"D5"⟩) (-7)]⟩ ∧
      ∃ above below,
        (compile .plain ⟨[.servo (some ⟨"D5"⟩) 90, .light (some ⟨"D1"⟩) 0, .servo (some ⟨"D5"⟩) 90]⟩).value =
            above ++ "  actuator1.write(90);\n" ++ below ∧
          (compile .plain ⟨[.servo (some ⟨"D5"⟩) 90, .light (some ⟨"D1"⟩) 0, .servo (some ⟨"D5"⟩) (-7)]⟩).value =
            above ++ "  actuator1.write(-7);\n" ++ below := by
  have same : SameWiring ⟨[.servo (some ⟨"D5"⟩) 90, .light (some ⟨"D1"⟩) 0, .servo (some ⟨"D5"⟩) 90]⟩
      ⟨[.servo (some ⟨"D5"⟩) 90, .light (some ⟨"D1"⟩) 1, .servo (some ⟨"D5"⟩) (-7)]⟩ :=
    .cons ⟨rfl, rfl⟩ (.cons ⟨rfl, rfl⟩ (.cons ⟨rfl, rfl⟩ .nil))
  refine ⟨(values_allocate_nothing .standard).2.1 _ _ same, ?_⟩
  exact (values_allocate_nothing .plain).2.2 _ _ 2 (.value (-7)) (by decide) rfl

end Circuit

end Breadboard
