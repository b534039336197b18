import Breadboard.Proofs.Hardware

/-! # What each part adds

The sections of a program grow from part to part, and no line that stands there once is changed by a later part. So
each part has a contribution of its own, by which the sections of the parts before it are lengthened, and a section is
made of the contributions in the order of the parts. In the loop the contribution is the block of the part's command.
-/

namespace Breadboard

/-- Later tasks add their lines behind those of the earlier ones. -/
theorem Program.exists_ofTasks_append (wiring : Wiring) (first second : List Task) :
    ∃ added, ofTasks wiring (first ++ second) = ofTasks wiring first ++ added := by
  induction first generalizing wiring with
  | nil => exact ⟨_, rfl⟩
  | cons task rest ih =>
    obtain ⟨added, later⟩ := ih (task.contribute wiring).2
    exact ⟨added, by rw [List.cons_append, ofTasks, ofTasks, later, append_assoc]⟩

namespace Naming

variable {before : List Task}

/-- A motor that has its number keeps it. -/
theorem actuator_append {pin : Pin} (used : pin ∈ before.filterMap Task.actuator?) (rest : List Task) :
    (ofTasks (before ++ rest)).actuator pin = (ofTasks before).actuator pin := by
  simp only [ofTasks, List.filterMap_append, List.eraseDups_append,
    List.idxOf_append_of_mem (List.mem_eraseDups.mpr used)]

private theorem stepMotor_append {coils : Coils} (used : coils ∈ before.filterMap Task.stepMotor?) (rest : List Task) :
    (ofTasks (before ++ rest)).stepMotor coils = (ofTasks before).stepMotor coils := by
  simp only [ofTasks, List.filterMap_append, List.eraseDups_append,
    List.idxOf_append_of_mem (List.mem_eraseDups.mpr used)]

private theorem command_append {task : Task} (member : task ∈ before) (rest : List Task) :
    task.command (ofTasks (before ++ rest)) = task.command (ofTasks before) := by
  cases task with
  | turn pin angle =>
    have used : pin ∈ before.filterMap Task.actuator? := List.mem_filterMap.mpr ⟨_, member, rfl⟩
    exact congrArg (Command.turn · angle) (actuator_append used rest)
  | advance coils steps =>
    have used : coils ∈ before.filterMap Task.stepMotor? := List.mem_filterMap.mpr ⟨_, member, rfl⟩
    exact congrArg (Command.advance · steps) (stepMotor_append used rest)
  | _ => rfl

end Naming

namespace Circuit

/-- The first so many parts of a circuit. -/
def front (circuit : Circuit) (count : Nat) : Circuit :=
  ⟨circuit.parts.take count⟩

/-- The lines by which the part at a position lengthens the sections of the parts before it. -/
def contribution (style : Style) (circuit : Circuit) (position : Nat) : Sections :=
  let before := ((circuit.front position).sections style).value
  let after := ((circuit.front (position + 1)).sections style).value
  ⟨after.declarations.drop before.declarations.length, after.setup.drop before.setup.length,
    after.loop.drop before.loop.length⟩

variable (style : Style) (circuit : Circuit)

private theorem front_size : circuit.front circuit.size = circuit :=
  congrArg Circuit.mk (List.take_length)

/-- The tasks of a circuit are those of its first parts, and then those of the others. -/
theorem tasks_eq_append (count : Nat) :
    circuit.tasks = (circuit.front count).tasks ++ (circuit.parts.drop count).filterMap Part.task? := by
  rw [tasks, tasks, front, ← List.filterMap_append, List.take_append_drop]

/-- One part more adds its task, if it has one. -/
theorem tasks_front_succ (position : Nat) : (circuit.front (position + 1)).tasks =
    (circuit.front position).tasks ++ (circuit.parts[position]?.bind Part.task?).toList := by
  rw [tasks, tasks, front, front, List.take_add_one, List.filterMap_append]
  cases circuit.parts[position]? with
  | none => rfl
  | some part => cases live : part.task? <;> simp [live]

private theorem exists_program_front_succ (position : Nat) :
    ∃ added, (circuit.front (position + 1)).program = (circuit.front position).program ++ added := by
  rw [program, program, tasks_front_succ]
  exact Program.exists_ofTasks_append _ _ _

/-- A part adds its contribution to the sections of those before it. -/
theorem sections_front_succ (position : Nat) :
    ((circuit.front (position + 1)).sections style).value.declarations =
        ((circuit.front position).sections style).value.declarations ++
          (circuit.contribution style position).declarations ∧
      ((circuit.front (position + 1)).sections style).value.setup =
        ((circuit.front position).sections style).value.setup ++ (circuit.contribution style position).setup ∧
      ((circuit.front (position + 1)).sections style).value.loop =
        ((circuit.front position).sections style).value.loop ++ (circuit.contribution style position).loop := by
  obtain ⟨added, longer⟩ := circuit.exists_program_front_succ position
  have split : ((circuit.front (position + 1)).sections style).value =
      ((circuit.front position).program ++ added).sections style := congrArg (Program.sections style) longer
  refine ⟨?_, ?_, ?_⟩ <;> refine (List.prefix_iff_eq_append.mp ?_).symm <;> rw [split]
  · exact ⟨_, List.map_append.symm⟩
  · exact ⟨_, List.map_append.symm⟩
  · exact ⟨_, List.flatMap_append.symm⟩

/-- What grows step by step is made of the steps. -/
theorem eq_flatMap_range (grown added : Nat → List String) (start : grown 0 = [])
    (step : ∀ count, grown (count + 1) = grown count ++ added count) (count : Nat) :
    grown count = (List.range count).flatMap added := by
  induction count with
  | zero => exact start
  | succ count ih => rw [step, ih, List.range_succ, List.flatMap_append, List.flatMap_singleton]

/-- The sections hold the contributions of the parts, in their order, and nothing else. -/
theorem sections_eq_contributions : (circuit.sections style).value =
    ⟨(List.range circuit.size).flatMap fun position => (circuit.contribution style position).declarations,
      (List.range circuit.size).flatMap fun position => (circuit.contribution style position).setup,
      (List.range circuit.size).flatMap fun position => (circuit.contribution style position).loop⟩ := by
  have step := circuit.sections_front_succ style
  have declarations := eq_flatMap_range (fun count => ((circuit.front count).sections style).value.declarations) _ rfl
    (fun position => (step position).1) circuit.size
  have setup := eq_flatMap_range (fun count => ((circuit.front count).sections style).value.setup) _ rfl
    (fun position => (step position).2.1) circuit.size
  have loop := eq_flatMap_range (fun count => ((circuit.front count).sections style).value.loop) _ rfl
    (fun position => (step position).2.2) circuit.size
  simp only [front_size] at declarations setup loop
  rw [← declarations, ← setup, ← loop]

/-! ## Blocks of the loop -/

private theorem command?_front {count : Nat} {part : Part} (placed : part ∈ circuit.parts.take count) :
    (circuit.front count).command? part = circuit.command? part := by
  unfold command?
  cases live : part.task? with
  | none => rfl
  | some task =>
    have member : task ∈ (circuit.front count).tasks := List.mem_filterMap.mpr ⟨part, placed, live⟩
    rw [circuit.tasks_eq_append count, Option.map_some, Option.map_some, Naming.command_append member]

/-- The commands of the first parts are the same in the whole circuit. -/
theorem loop_front (count : Nat) :
    (circuit.front count).program.loop = (circuit.parts.take count).filterMap circuit.command? := by
  rw [loop_eq]
  exact List.filterMap_congr fun part placed => circuit.command?_front placed

/-- In the loop a part adds the lines of its command. -/
theorem contribution_loop (position : Nat) : (circuit.contribution style position).loop =
    (circuit.parts[position]?.bind circuit.command?).toList.flatMap (Command.lines style) := by
  have commands : (circuit.front (position + 1)).program.loop =
      (circuit.front position).program.loop ++ (circuit.parts[position]?.bind circuit.command?).toList := by
    rw [loop_front, loop_front, List.take_add_one, List.filterMap_append]
    cases circuit.parts[position]? with
    | none => rfl
    | some part => cases found : circuit.command? part <;> simp [found]
  have lines := (circuit.sections_front_succ style position).2.2
  change (circuit.front (position + 1)).program.loop.flatMap _ =
    (circuit.front position).program.loop.flatMap _ ++ _ at lines
  rw [commands, List.flatMap_append] at lines
  exact (List.append_cancel_left lines).symm

end Circuit

end Breadboard
