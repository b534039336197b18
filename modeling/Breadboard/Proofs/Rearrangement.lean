import Breadboard.Proofs.PrintedLines
import Breadboard.Proofs.Session

/-! # Rearrangement of the parts

The same parts in another order use the same hardware. So the program keeps the number of its lines, its motors and
its configured pins, and each part keeps its command; only the order of the lines, the numbers in the names and the
modes of pins that are both read and written go by the order of the parts. The lines are permuted as the statements
are, and a part prints the same block of lines up to the name of its motor.

Main statement: `rearrange_correct`.
-/

namespace Breadboard

namespace Command

private theorem length_lines_renamed (style : Style) (rename : String → String) (command : Command) :
    ((command.renamed rename).lines style).length = (command.lines style).length := by
  cases command <;> rfl

private theorem length_flatMap_renamed (style : Style) (rename : String → String) (commands : List Command) :
    ((commands.map (renamed rename)).flatMap (lines style)).length = (commands.flatMap (lines style)).length := by
  simp only [List.length_flatMap, List.map_map, Function.comp_def, length_lines_renamed]

end Command

namespace Circuit

/-- The circuit after some moves, of which those out of bounds do nothing. -/
def moved (circuit : Circuit) (moves : List (Nat × Nat)) : Circuit :=
  moves.foldl (fun circuit (source, target) => circuit.edited (.move source target)) circuit

private theorem perm_moved (circuit : Circuit) (moves : List (Nat × Nat)) :
    (circuit.moved moves).parts.Perm circuit.parts := by
  induction moves generalizing circuit with
  | nil => exact .refl _
  | cons move rest ih =>
    have first : (circuit.edited (.move move.1 move.2)).parts.Perm circuit.parts :=
      edited_induction (.refl _) fun _ makes => makes.perm_of_move
    exact (ih _).trans first

/-- Every pin that a button reads is left to buttons. -/
def ReadApart (circuit : Circuit) : Prop :=
  ∀ pin, .button (some pin) ∈ circuit.parts →
    ∀ part ∈ circuit.parts, part.hardware? = some (.digital pin) → part.kind = .button

/-- What a program has in common with that of the same parts in another order, and how its lines are ordered. -/
structure Rearrangement (style : Style) (circuit after : Circuit) : Prop where
  declarations_length :
    (after.sections style).value.declarations.length = (circuit.sections style).value.declarations.length
  setup_length : (after.sections style).value.setup.length = (circuit.sections style).value.setup.length
  loop_length : (after.sections style).value.loop.length = (circuit.sections style).value.loop.length
  /-- The same motors are declared, under the names that each of the two programs has for them. -/
  declared_iff : ∀ (hardware : Hardware) old new, hardware.declaration? circuit.naming = some old →
    hardware.declaration? after.naming = some new →
      (new ∈ after.program.declarations ↔ old ∈ circuit.program.declarations)
  readied_iff : ∀ (hardware : Hardware) old new, hardware.readying? circuit.naming = some old →
    hardware.readying? after.naming = some new → (new ∈ after.program.setup ↔ old ∈ circuit.program.setup)
  configured_iff : ∀ pin, (∃ step ∈ after.program.setup, step.configured? = some pin) ↔
    ∃ step ∈ circuit.program.setup, step.configured? = some pin
  /-- The same motor has the name that its rank in the new order gives it. -/
  renamed : ∀ hardware ∈ circuit.hardware, ∀ name, hardware.name? circuit.naming = some name →
    hardware.name? after.naming = some (circuit.renameTo after name)
  loop_eq : circuit.program.loop = circuit.parts.filterMap circuit.command?
  /-- The commands stand in the new order, each with the new name of its motor. -/
  loop_after : after.program.loop =
    (after.parts.filterMap circuit.command?).map (Command.renamed (circuit.renameTo after))
  /-- The lines of all hardware stand in the order of its first use. -/
  declarations_eq : after.program.declarations = (firstUsers Part.hardware? after.parts).filterMap fun part =>
    part.hardware?.bind (Hardware.declaration? after.naming)
  setup_eq : after.program.setup = (firstUsers Part.hardware? after.parts).filterMap after.setupStep?
  /-- A pin is configured for its first user in the new order. -/
  configuring_eq : ∀ pin, after.program.setup.filter (fun step => step.configured? = some pin) =
    ((after.usersOf pin).head?.map (Part.configuring pin)).toList
  modes : circuit.ReadApart → style.annotate = false →
    ((after.program.setup.filter fun step => step.configured?.isSome).map (SetupStep.line style)).Perm
      ((circuit.program.setup.filter fun step => step.configured?.isSome).map (SetupStep.line style))

/-- What their lines have in common, and how they are ordered. -/
structure RearrangementLines (style : Style) (circuit after : Circuit) (lines afterLines : Sections) : Prop where
  loop_eq : lines.loop = circuit.parts.flatMap (circuit.block style)
  loop_after : afterLines.loop = after.parts.flatMap (after.block style)
  /-- The lines of a part are the same, but for the name of its motor. -/
  blocks : ∀ part ∈ circuit.parts, after.block style part =
    if part.IsMotor then (circuit.block style part).map (style.withSubject (circuit.renameTo after))
    else circuit.block style part
  declared_iff : ∀ (hardware : Hardware) old new, hardware.declaration? circuit.naming = some old →
    hardware.declaration? after.naming = some new →
      (new.text ∈ afterLines.declarations ↔ old.text ∈ lines.declarations)
  readied_iff : ∀ (hardware : Hardware) old new, hardware.readying? circuit.naming = some old →
    hardware.readying? after.naming = some new →
      (new.line style ∈ afterLines.setup ↔ old.line style ∈ lines.setup)
  configured_iff : ∀ pin, (∃ line ∈ afterLines.setup, line ∈ style.configuring pin) ↔
    ∃ line ∈ lines.setup, line ∈ style.configuring pin
  declarations_eq : afterLines.declarations = (firstUsers Part.hardware? after.parts).filterMap fun part =>
    (part.hardware?.bind (Hardware.declaration? after.naming)).map Declaration.text
  setup_eq : afterLines.setup = (firstUsers Part.hardware? after.parts).filterMap fun part =>
    (after.setupStep? part).map (SetupStep.line style)
  configuring_eq : ∀ pin, afterLines.setup.filter (fun line => line ∈ style.configuring pin) =
    ((after.usersOf pin).head?.map fun user => (user.configuring pin).line style).toList
  modes : circuit.ReadApart → style.annotate = false →
    (afterLines.setup.filter fun line => style.subject line = "pinMode").Perm
      (lines.setup.filter fun line => style.subject line = "pinMode")

/-! ## Counting lines -/

private theorem length_setup (circuit : Circuit) : circuit.program.setup.length = circuit.hardware.length := by
  have steps : ∀ part ∈ firstUsers Part.hardware? circuit.parts, (circuit.setupStep? part).isSome := by
    intro part member
    obtain ⟨hardware, uses⟩ := Option.isSome_iff_exists.mp (isSome_of_mem_firstUsers member)
    obtain ⟨task, live, uses⟩ := Option.bind_eq_some_iff.mp uses
    rw [setupStep?, live]
    cases task <;> cases uses <;> rfl
  rw [setup_eq, List.filterMap_length_eq_length.mpr steps, hardware_eq, ← filterMap_firstUsers,
    List.filterMap_length_eq_length.mpr fun part member => isSome_of_mem_firstUsers member]

private theorem length_declarations (circuit : Circuit) :
    circuit.program.declarations.length = circuit.hardware.countP fun hardware => hardware.digital?.isNone := by
  rw [declarations_eq, List.length_filterMap_eq_countP]
  exact List.countP_congr fun hardware _ => by cases hardware <;> simp [Hardware.declaration?, Hardware.digital?]

/-! ## Modes of pins that are read apart -/

/-- The mode of a pin whatever the order of the parts on it. -/
def modeOn (circuit : Circuit) (pin : Pin) : PinMode :=
  if .button (some pin) ∈ circuit.parts then .inputPullup else .output

private theorem ReadApart.pinMode_eq {circuit : Circuit} (apart : circuit.ReadApart) {part : Part} {pin : Pin}
    (placed : part ∈ circuit.parts) (uses : part.hardware? = some (.digital pin)) :
    part.kind.pinMode = circuit.modeOn pin := by
  unfold modeOn
  split
  next read => rw [apart pin read part placed uses]; rfl
  next unread =>
    cases part with
    | button bound =>
      have same : bound = some pin := Option.toList_eq_singleton_iff.mp (Part.pins_of_digital uses)
      exact absurd (same ▸ placed) unread
    | _ => rfl

/-- Where notes are left out, the line that configures a pin tells the pin and its mode only. -/
theorem ReadApart.configuring_lines {circuit : Circuit} (apart : circuit.ReadApart) {style : Style}
    (plain : style.annotate = false) :
    (circuit.program.setup.filter fun step => step.configured?.isSome).map (SetupStep.line style) =
      (circuit.hardware.filterMap Hardware.digital?).map fun pin =>
        (SetupStep.configure pin (circuit.modeOn pin) .light).line style := by
  have line : ∀ step ∈ circuit.program.setup, ∀ pin, step.configured? = some pin →
      step.line style = (SetupStep.configure pin (circuit.modeOn pin) .light).line style := by
    intro step member pin configures
    -- The step comes from the first user of the pin, whose kind the line does not tell.
    have listed : step ∈ circuit.program.setup.filter fun step => step.configured? = some pin :=
      List.mem_filter.mpr ⟨member, decide_eq_true configures⟩
    rw [configuring_eq, Option.mem_toList, Option.map_eq_some_iff] at listed
    obtain ⟨part, first, rfl⟩ := listed
    obtain ⟨placed, uses⟩ := mem_usersOf.mp (List.mem_of_mem_head? first)
    rw [Part.configuring, apart.pinMode_eq placed uses]
    simp only [SetupStep.line, Style.line, plain, Bool.false_eq_true, if_false]
  rw [← configured_eq, List.map_filterMap, ← List.filterMap_eq_map', List.filterMap_filter]
  refine List.filterMap_congr fun step member => ?_
  cases configures : step.configured? with
  | none => rfl
  | some pin => simp [line step member pin configures]

/-! ## Programs of rearranged circuits -/

section Arranged

variable {circuit after : Circuit} (arranged : after.parts.Perm circuit.parts)

include arranged

/-- A rearrangement has the same hardware, in another order. -/
theorem perm_hardware : after.hardware.Perm circuit.hardware := by
  refine (List.perm_ext_iff_of_nodup (nodup_eraseDups _) (nodup_eraseDups _)).mpr fun hardware => ?_
  change hardware ∈ after.hardware ↔ hardware ∈ circuit.hardware
  simp only [mem_hardware_iff, arranged.mem_iff]

private theorem length_loop_arranged (style : Style) :
    (after.program.loop.flatMap (Command.lines style)).length =
      (circuit.program.loop.flatMap (Command.lines style)).length := by
  rw [loop_renamed arranged.subset, Command.length_flatMap_renamed, loop_eq]
  exact ((arranged.filterMap circuit.command?).flatMap_right _).length_eq

/-- A rearrangement declares, readies and configures the same, and each part does the same under the new names. -/
theorem rearrangement (style : Style) : circuit.Rearrangement style after := by
  have hardware := perm_hardware arranged
  constructor
  case declarations_length =>
    change (after.program.declarations.map _).length = (circuit.program.declarations.map _).length
    rw [List.length_map, List.length_map, length_declarations, length_declarations, hardware.countP_eq]
  case setup_length =>
    change (after.program.setup.map _).length = (circuit.program.setup.map _).length
    rw [List.length_map, List.length_map, length_setup, length_setup, hardware.length_eq]
  case loop_length => exact length_loop_arranged arranged style
  case declared_iff =>
    intro motor old new declares declares'
    rw [Circuit.declared_iff declares, Circuit.declared_iff declares', hardware.mem_iff]
  case readied_iff =>
    intro motor old new readies readies'
    rw [Circuit.readied_iff readies, Circuit.readied_iff readies', hardware.mem_iff]
  case configured_iff =>
    intro pin
    rw [configures_iff, configures_iff, hardware.mem_iff]
  case renamed => exact fun motor used name named => name?_renameTo after used named
  case loop_eq => exact circuit.loop_eq
  case loop_after => exact loop_renamed arranged.subset
  case declarations_eq =>
    rw [Circuit.declarations_eq, hardware_eq, ← filterMap_firstUsers, List.filterMap_filterMap]
  case setup_eq => exact after.setup_eq
  case configuring_eq => exact after.configuring_eq
  case modes =>
    intro apart plain
    have apart' : after.ReadApart := by
      intro pin read part placed
      exact apart pin (arranged.mem_iff.mp read) part (arranged.mem_iff.mp placed)
    have modes : after.modeOn = circuit.modeOn := by
      funext pin
      simp only [modeOn, arranged.mem_iff]
    rw [apart'.configuring_lines plain, apart.configuring_lines plain, modes]
    exact (hardware.filterMap _).map _

end Arranged

/-- The lines of a rearrangement are related to those of the circuit as its statements are. -/
theorem Rearrangement.lines {circuit after : Circuit} {style : Style} (same : Rearrangement style circuit after) :
    RearrangementLines style circuit after (circuit.sections style).value (after.sections style).value := by
  constructor
  case loop_eq => exact circuit.loop_lines style
  case loop_after => exact after.loop_lines style
  case blocks => exact fun part placed => block_renamed style after placed
  case declared_iff =>
    intro hardware old new declares declares'
    rw [text_mem_iff declares, text_mem_iff declares', same.declared_iff hardware old new declares declares']
  case readied_iff =>
    intro hardware old new readies readies'
    rw [line_mem_iff readies, line_mem_iff readies', same.readied_iff hardware old new readies readies']
  case configured_iff =>
    intro pin
    rw [configuring_mem_iff, configuring_mem_iff, same.configured_iff]
  case declarations_eq =>
    change after.program.declarations.map Declaration.text = _
    rw [same.declarations_eq, List.map_filterMap]
  case setup_eq =>
    change after.program.setup.map (SetupStep.line style) = _
    rw [same.setup_eq, List.map_filterMap]
  case configuring_eq =>
    intro pin
    rw [filter_configuring, same.configuring_eq pin]
    cases (after.usersOf pin).head? <;> rfl
  case modes =>
    intro apart plain
    rw [filter_pinMode, filter_pinMode]
    exact same.modes apart plain

/-- Whatever the order of the parts, by moves or otherwise, the source text says the same up to the numbers in names,
the order of its lines and the modes of pins that buttons share with other parts. -/
theorem rearrange_correct {circuit after : Circuit}
    (arranged : after.parts.Perm circuit.parts ∨ ∃ moves, circuit.moved moves = after) (style : Style) :
    circuit.Rearrangement style after ∧
      (circuit.sections style).value = circuit.program.sections style ∧
      (after.sections style).value = after.program.sections style ∧
      RearrangementLines style circuit after (circuit.sections style).value (after.sections style).value := by
  have same : circuit.Rearrangement style after := by
    rcases arranged with permuted | ⟨moves, rfl⟩
    · exact rearrangement permuted style
    · exact rearrangement (circuit.perm_moved moves) style
  exact ⟨same, rfl, rfl, same.lines⟩

/-- A servo that is moved behind another takes its number. -/
theorem rearrange_correct_renumbers :
    Rearrangement .plain ⟨[.servo (some ⟨"D2"⟩) 90, .button (some ⟨"D1"⟩), .servo (some ⟨"D3"⟩) 0]⟩
      ⟨[.button (some ⟨"D1"⟩), .servo (some ⟨"D3"⟩) 0, .servo (some ⟨"D2"⟩) 90]⟩ ∧
    RearrangementLines .plain ⟨[.servo (some ⟨"D2"⟩) 90, .button (some ⟨"D1"⟩), .servo (some ⟨"D3"⟩) 0]⟩
      ⟨[.button (some ⟨"D1"⟩), .servo (some ⟨"D3"⟩) 0, .servo (some ⟨"D2"⟩) 90]⟩
      ⟨["Servo actuator1;", "Servo actuator2;"],
        ["  actuator1.attach(D2);", "  pinMode(D1, INPUT_PULLUP);", "  actuator2.attach(D3);"],
        ["  actuator1.write(90);", "  if (digitalRead(D1) == LOW) \x7b", "  \x7d", "  actuator2.write(0);"]⟩
      ⟨["Servo actuator1;", "Servo actuator2;"],
        ["  pinMode(D1, INPUT_PULLUP);", "  actuator1.attach(D3);", "  actuator2.attach(D2);"],
        ["  if (digitalRead(D1) == LOW) \x7b", "  \x7d", "  actuator1.write(0);", "  actuator2.write(90);"]⟩ ∧
    renameTo ⟨[.servo (some ⟨"D2"⟩) 90, .button (some ⟨"D1"⟩), .servo (some ⟨"D3"⟩) 0]⟩
      ⟨[.button (some ⟨"D1"⟩), .servo (some ⟨"D3"⟩) 0, .servo (some ⟨"D2"⟩) 90]⟩ "actuator1" = "actuator2" :=
  have same := rearrange_correct (.inr ⟨[(0, 2), (7, 0)], rfl⟩) .plain
  ⟨same.1, same.2.2.2, by decide⟩

end Circuit

end Breadboard
