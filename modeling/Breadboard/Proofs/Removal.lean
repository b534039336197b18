import Breadboard.Proofs.OutlineText
import Breadboard.Proofs.PrintedLines
import Breadboard.Proofs.Session

/-! # Removal of a part

What a program loses when a part is removed from its circuit, and what it keeps: the loop loses the command of that
part, hardware that no other part uses is not set up any more, and the motors that are left are numbered anew. Nothing
but the command goes when the part is not the first to use its hardware, and not even that when it is skipped. Each
of this is said of the statements of the program first, and then of its lines, part by part.

Main statement: `remove_correct`.
-/

namespace Breadboard

namespace Circuit

/-- A part at some other position uses the hardware. -/
def UsedElsewhere (circuit : Circuit) (position : Nat) (hardware : Hardware) : Prop :=
  ∃ other part, other ≠ position ∧ circuit.parts[other]? = some part ∧ part.hardware? = some hardware

/-- The commands of the parts before a position. -/
def commandsBefore (circuit : Circuit) (position : Nat) : List Command :=
  (circuit.parts.take position).filterMap circuit.command?

/-- The commands of the parts behind a position. -/
def commandsBehind (circuit : Circuit) (position : Nat) : List Command :=
  (circuit.parts.drop (position + 1)).filterMap circuit.command?

/-- How the program of a circuit changes when the part at a position is removed. -/
structure Removal (circuit : Circuit) (position : Nat) (removed : Part) (after : Circuit) : Prop where
  loop_eq : circuit.program.loop =
    circuit.commandsBefore position ++ (circuit.command? removed).toList ++ circuit.commandsBehind position
  loop_after : after.program.loop =
    (circuit.commandsBefore position ++ circuit.commandsBehind position).map (Command.renamed (circuit.renameTo after))
  /-- A motor gets the name that its rank in the program afterwards gives it. -/
  renamed : ∀ hardware ∈ circuit.hardware, ∀ name, hardware.name? circuit.naming = some name →
    hardware.name? after.naming = some (circuit.renameTo after name)
  declared_iff : ∀ hardware declaration, hardware.declaration? after.naming = some declaration →
    (declaration ∈ after.program.declarations ↔ circuit.UsedElsewhere position hardware)
  readied_iff : ∀ hardware step, hardware.readying? after.naming = some step →
    (step ∈ after.program.setup ↔ circuit.UsedElsewhere position hardware)
  configured_iff : ∀ pin, (∃ step ∈ after.program.setup, step.configured? = some pin) ↔
    circuit.UsedElsewhere position (.digital pin)
  /-- A pin is configured for the first part that is still on it. -/
  configuring_eq : ∀ pin, after.program.setup.filter (fun step => step.configured? = some pin) =
    ((after.usersOf pin).head?.map (Part.configuring pin)).toList
  skipped : removed.isLive = false → ∀ style, (after.compile style).value = (circuit.compile style).value
  /-- Where an earlier part uses the same hardware, nothing is set up or named anew. -/
  known : (∀ hardware, removed.hardware? = some hardware →
      ∃ earlier ∈ circuit.parts.take position, earlier.hardware? = some hardware) →
    after.program = ⟨circuit.program.declarations, circuit.program.setup,
      circuit.commandsBefore position ++ circuit.commandsBehind position⟩

/-- How the lines of the program change with it. -/
structure RemovalLines (style : Style) (circuit : Circuit) (position : Nat) (removed : Part) (after : Circuit)
    (lines afterLines : Sections) : Prop where
  loop_eq : lines.loop = (circuit.parts.take position).flatMap (circuit.block style) ++ circuit.block style removed ++
    (circuit.parts.drop (position + 1)).flatMap (circuit.block style)
  loop_after : afterLines.loop =
    (circuit.parts.take position ++ circuit.parts.drop (position + 1)).flatMap (after.block style)
  /-- The lines of a part are the same, but for the name of its motor. -/
  blocks : ∀ part ∈ circuit.parts, after.block style part =
    if part.IsMotor then (circuit.block style part).map (style.withSubject (circuit.renameTo after))
    else circuit.block style part
  declared_iff : ∀ hardware declaration, hardware.declaration? after.naming = some declaration →
    (declaration.text ∈ afterLines.declarations ↔ circuit.UsedElsewhere position hardware)
  readied_iff : ∀ hardware step, hardware.readying? after.naming = some step →
    (step.line style ∈ afterLines.setup ↔ circuit.UsedElsewhere position hardware)
  configured_iff : ∀ pin, (∃ line ∈ afterLines.setup, line ∈ style.configuring pin) ↔
    circuit.UsedElsewhere position (.digital pin)
  configuring_eq : ∀ pin, afterLines.setup.filter (fun line => line ∈ style.configuring pin) =
    ((after.usersOf pin).head?.map fun user => (user.configuring pin).line style).toList
  known : (∀ hardware, removed.hardware? = some hardware →
      ∃ earlier ∈ circuit.parts.take position, earlier.hardware? = some hardware) →
    afterLines = ⟨lines.declarations, lines.setup, (circuit.parts.take position).flatMap (circuit.block style) ++
      (circuit.parts.drop (position + 1)).flatMap (circuit.block style)⟩

/-! ## Hardware that an earlier part uses -/

section Known

variable {circuit after : Circuit} {before behind : List Part} {removed : Part}
  (whole : circuit.parts = before ++ removed :: behind) (rest : after.parts = before ++ behind)
  (known : ∀ hardware, removed.hardware? = some hardware → ∃ earlier ∈ before, earlier.hardware? = some hardware)

include whole rest known

private theorem firstUsers_after : firstUsers Part.hardware? after.parts = firstUsers Part.hardware? circuit.parts := by
  rw [whole, rest, firstUsers_of_known known]

/-- Where an earlier part uses the same hardware, a removal leaves the hardware as it was. -/
theorem hardware_after : after.hardware = circuit.hardware := by
  rw [hardware_eq, hardware_eq, ← filterMap_firstUsers, ← filterMap_firstUsers, firstUsers_after whole rest known]

/-- What is read off the hardware is known where the hardware is. -/
theorem eraseDups_after {κ : Type} [DecidableEq κ] (key? : Hardware → Option κ) :
    (after.parts.filterMap fun part => part.hardware?.bind key?).eraseDups =
      (circuit.parts.filterMap fun part => part.hardware?.bind key?).eraseDups := by
  rw [← filterMap_firstUsers, ← filterMap_firstUsers, whole, rest, firstUsers_of_known]
  intro key keyed
  obtain ⟨hardware, uses, keyed⟩ := Option.bind_eq_some_iff.mp keyed
  obtain ⟨earlier, member, same⟩ := known hardware uses
  exact ⟨earlier, member, Option.bind_eq_some_iff.mpr ⟨hardware, same, keyed⟩⟩

private theorem naming_after : after.naming = circuit.naming := by
  simp only [naming_eq, eraseDups_after whole rest known]

/-- Where an earlier part uses the same hardware, a removal takes the part's command out, and nothing else. -/
theorem program_after : after.program = ⟨circuit.program.declarations, circuit.program.setup,
    (before ++ behind).filterMap circuit.command?⟩ := by
  have naming := naming_after whole rest known
  have steps : after.setupStep? = circuit.setupStep? :=
    funext fun part => congrArg (fun naming => part.task?.bind (Task.setupStep? naming)) naming
  have commands : after.command? = circuit.command? :=
    funext fun part => congrArg (fun naming => part.task?.map (Task.command naming)) naming
  ext1
  · rw [declarations_eq, declarations_eq, naming, hardware_after whole rest known]
  · rw [setup_eq, setup_eq, steps, firstUsers_after whole rest known]
  · rw [loop_eq, rest, commands]

end Known

/-! ## The removal of any part -/

private theorem mem_hardware_eraseIdx_iff {circuit : Circuit} {position : Nat} {hardware : Hardware} :
    hardware ∈ (Circuit.mk (circuit.parts.eraseIdx position)).hardware ↔ circuit.UsedElsewhere position hardware := by
  simp only [mem_hardware_iff, List.mem_eraseIdx_iff_getElem?, UsedElsewhere]
  grind

/-- Removing a part takes its command away, and of its hardware what no other part uses. -/
theorem removal {circuit : Circuit} {position : Nat} {removed : Part}
    (found : circuit.parts[position]? = some removed) :
    circuit.Removal position removed ⟨circuit.parts.eraseIdx position⟩ := by
  obtain ⟨inside, rfl⟩ := List.getElem?_eq_some_iff.mp found
  have whole : circuit.parts =
      circuit.parts.take position ++ circuit.parts[position] :: circuit.parts.drop (position + 1) := by simp
  have rest : (Circuit.mk (circuit.parts.eraseIdx position)).parts =
      circuit.parts.take position ++ circuit.parts.drop (position + 1) := List.eraseIdx_eq_take_drop_succ _ _
  have loop : circuit.program.loop = circuit.commandsBefore position ++
      (circuit.command? circuit.parts[position]).toList ++ circuit.commandsBehind position := by
    rw [loop_eq, commandsBefore, commandsBehind, List.append_assoc]
    conv_lhs => rw [whole, List.filterMap_append, List.filterMap_cons]
    cases circuit.command? circuit.parts[position] <;> rfl
  constructor
  case loop_eq => exact loop
  case loop_after =>
    rw [commandsBefore, commandsBehind, ← List.filterMap_append, ← rest]
    exact loop_renamed (List.eraseIdx_sublist _ _).subset
  case renamed => exact fun hardware used name named => name?_renameTo _ used named
  case declared_iff => exact fun _ _ declares => (Circuit.declared_iff declares).trans mem_hardware_eraseIdx_iff
  case readied_iff => exact fun _ _ readies => (Circuit.readied_iff readies).trans mem_hardware_eraseIdx_iff
  case configured_iff => exact fun pin => configures_iff.trans mem_hardware_eraseIdx_iff
  case configuring_eq => exact fun pin => configuring_eq _ pin
  case skipped =>
    intro dead style
    have idle : circuit.parts[position].task? = none := by simpa [Part.isLive_eq] using dead
    have unknown : circuit.parts[position].hardware? = none := by rw [Part.hardware?, idle, Option.bind_none]
    have silent : circuit.command? circuit.parts[position] = none := by rw [command?, idle, Option.map_none]
    have same : (Circuit.mk (circuit.parts.eraseIdx position)).program = circuit.program := by
      rw [program_after whole rest fun hardware uses => by simp [unknown] at uses]
      rw [silent, Option.toList_none, List.append_nil, commandsBefore, commandsBehind, ← List.filterMap_append] at loop
      rw [← loop]
    exact congrArg (fun program => (program.sections style).text style) same
  case known =>
    intro known
    rw [program_after whole rest known, List.filterMap_append]
    rfl

/-- The lines change as the statements do when a part is removed. -/
theorem Removal.lines {circuit after : Circuit} {position : Nat} {removed : Part}
    (removal : circuit.Removal position removed after)
    (rest : after.parts = circuit.parts.take position ++ circuit.parts.drop (position + 1)) (style : Style) :
    RemovalLines style circuit position removed after (circuit.sections style).value (after.sections style).value := by
  constructor
  case loop_eq =>
    change circuit.program.loop.flatMap (Command.lines style) = _
    rw [removal.loop_eq, List.flatMap_append, List.flatMap_append, commandsBefore, commandsBehind, flatMap_commands,
      flatMap_commands]
    rfl
  case loop_after => rw [after.loop_lines style, rest]
  case blocks => exact fun part placed => block_renamed style after placed
  case declared_iff =>
    exact fun hardware declaration declares =>
      (text_mem_iff declares).trans (removal.declared_iff hardware declaration declares)
  case readied_iff =>
    exact fun hardware step readies => (line_mem_iff readies).trans (removal.readied_iff hardware step readies)
  case configured_iff => exact fun pin => configuring_mem_iff.trans (removal.configured_iff pin)
  case configuring_eq =>
    intro pin
    rw [filter_configuring, removal.configuring_eq pin]
    cases (after.usersOf pin).head? <;> rfl
  case known =>
    intro known
    change after.program.sections style = _
    rw [removal.known known, Program.sections, List.flatMap_append, commandsBefore, commandsBehind, flatMap_commands,
      flatMap_commands]
    rfl

/-- Every part can be removed. The source text loses the lines of its command, whatever no other part uses is not set
up, and all other lines stay, with the motors numbered by their first use in what is left. -/
theorem remove_correct {circuit : Circuit} {position : Nat} (inside : position < circuit.size) (style : Style) :
    ∃ removed after, circuit.parts[position]? = some removed ∧ (Edit.remove position).apply circuit = .ok after ∧
      circuit.Removal position removed after ∧
      (circuit.sections style).value = circuit.program.sections style ∧
      (after.sections style).value = after.program.sections style ∧
      RemovalLines style circuit position removed after (circuit.sections style).value (after.sections style).value :=
  have found := List.getElem?_eq_getElem inside
  ⟨_, _, found, Edit.apply_eq_ok_iff.mpr (.remove inside), removal found, rfl, rfl,
    (removal found).lines (List.eraseIdx_eq_take_drop_succ _ _) style⟩

/-- The second servo takes the number of the first. -/
theorem remove_correct_renumbers :
    Removal ⟨[.servo (some ⟨"D2"⟩) 90, .button (some ⟨"D1"⟩), .servo (some ⟨"D3"⟩) 0]⟩ 0 (.servo (some ⟨"D2"⟩) 90)
      ⟨[.button (some ⟨"D1"⟩), .servo (some ⟨"D3"⟩) 0]⟩ ∧
    RemovalLines .plain ⟨[.servo (some ⟨"D2"⟩) 90, .button (some ⟨"D1"⟩), .servo (some ⟨"D3"⟩) 0]⟩ 0
      (.servo (some ⟨"D2"⟩) 90) ⟨[.button (some ⟨"D1"⟩), .servo (some ⟨"D3"⟩) 0]⟩
      ⟨["Servo actuator1;", "Servo actuator2;"],
        ["  actuator1.attach(D2);", "  pinMode(D1, INPUT_PULLUP);", "  actuator2.attach(D3);"],
        ["  actuator1.write(90);", "  if (digitalRead(D1) == LOW) \x7b", "  \x7d", "  actuator2.write(0);"]⟩
      ⟨["Servo actuator1;"], ["  pinMode(D1, INPUT_PULLUP);", "  actuator1.attach(D3);"],
        ["  if (digitalRead(D1) == LOW) \x7b", "  \x7d", "  actuator1.write(0);"]⟩ ∧
    renameTo ⟨[.servo (some ⟨"D2"⟩) 90, .button (some ⟨"D1"⟩), .servo (some ⟨"D3"⟩) 0]⟩
      ⟨[.button (some ⟨"D1"⟩), .servo (some ⟨"D3"⟩) 0]⟩ "actuator2" = "actuator1" := by
  obtain ⟨removed, after, found, applied, removal, -, -, lines⟩ := @remove_correct
    ⟨[.servo (some ⟨"D2"⟩) 90, .button (some ⟨"D1"⟩), .servo (some ⟨"D3"⟩) 0]⟩ 0 (by decide) .plain
  cases found
  cases applied
  exact ⟨removal, lines, by decide⟩

end Circuit

end Breadboard
