import Breadboard.Editor
import Breadboard.Proofs.Contribution
import Breadboard.Proofs.Session

/-! # What the log tells

Operations tell of their work in a log, each line with its level. `Operation.Tells` says which lines an operation leaves
there: one for a change that is made, none for one that fails, and for a program one for each part that it says nothing
of. That a part adds nothing to a program is seen at the lines of the program (`Circuit.contribution_eq_empty_iff`).

Main statement: `Operation.log_tells`.
-/

namespace Breadboard

/-- The line that a notice is in the log. -/
def Notice.entry (notice : Notice) : Level × String :=
  (notice.level, notice.message)

/-- Something that is asked of the library. Each operation is given the circuit that it works on, be it one that an
operation before it made or any other. -/
inductive Operation where
  | parse (text : String)
  | build (sketch : Script.Sketch)
  /-- Opens an editor on a text. -/
  | load (text : String)
  | edit (circuit : Circuit) (edit : Edit)
  | act (editor : Editor) (action : Editor.Action)
  | compile (style : Style) (circuit : Circuit)

inductive Answer where
  | parsed (result : Except Script.Error Script.Sketch)
  | built (result : Except Part.EntryError Circuit)
  | loaded (result : Except SourceError Editor)
  | edited (result : Except EditError Circuit)
  | acted (result : Except Editor.Refusal Editor)
  | compiled (text : String)

namespace Operation

def perform : Operation → Noted Answer
  | .parse text => return .parsed (Script.Sketch.ofText text)
  | .build sketch => return .built (← Circuit.ofSketch sketch)
  | .load text => return .loaded (← Editor.ofText text)
  | .edit circuit step => return .edited (← step.perform circuit)
  | .act editor action => return .acted (← editor.act action)
  | .compile style circuit => return .compiled (← circuit.compile style)

def performAll : List Operation → Noted (List Answer)
  | [] => return []
  | operation :: rest => return (← operation.perform) :: (← performAll rest)

/-- The lines of the log after some operations, from the first on. -/
def log (operations : List Operation) : List (Level × String) :=
  (performAll operations).notices.map Notice.entry

end Operation

/-! ## What is to be told -/

/-- What a change sets, as the log calls it. -/
def Change.word : Change → String
  | .bind _ | .unbind => "pin"
  | .coils _ => "pins"
  | .value _ => "value"
  | .interval _ => "interval"
  | .power _ => "state"

/-- The line about an edit, with positions in the circuit before it. -/
inductive Edit.Tells (circuit : Circuit) : Edit → Level × String → Prop where
  | add (kind : Part.Kind) :
      Tells circuit (.add kind) (.debug, s!"add {kind.name} at position {circuit.parts.length}")
  | remove {position : Nat} {part : Part} (found : circuit.parts[position]? = some part) :
      Tells circuit (.remove position) (.debug, s!"remove {part.kind.name} from position {position}")
  | move {source target : Nat} {part : Part} (found : circuit.parts[source]? = some part) :
      Tells circuit (.move source target)
        (.debug, s!"move {part.kind.name} from position {source} to {target}")
  | change {position : Nat} {setting : Change} {part : Part} (found : circuit.parts[position]? = some part) :
      Tells circuit (.change position setting)
        (.debug, s!"set {setting.word} of {part.kind.name} at position {position}")

namespace Circuit

/-- The positions, in ascending order, whose parts add no line to any section of the program. -/
def silentPositions (style : Style) (circuit : Circuit) : List Nat :=
  (List.range circuit.parts.length).filter fun position => circuit.contribution style position = ⟨[], [], []⟩

/-- The line about a part that the program says nothing of. -/
inductive TellsSkipped (circuit : Circuit) (position : Nat) : Level × String → Prop where
  | stepper {coils : List Pin} {steps : Int64} (found : circuit.parts[position]? = some (.stepper coils steps)) :
      TellsSkipped circuit position
        (.trace, s!"skipping stepper at position {position} with {coils.length} of 4 pins")
  | unbound {part : Part} (found : circuit.parts[position]? = some part) (other : part.kind ≠ .stepper) :
      TellsSkipped circuit position (.trace, s!"skipping unbound {part.kind.name} at position {position}")

end Circuit

/-- The lines that an operation leaves in the log. -/
inductive Operation.Tells : Operation → List (Level × String) → Prop where
  | parse (text : String) : Tells (.parse text) []
  | built {sketch : Script.Sketch} {circuit : Circuit} (success : (Circuit.ofSketch sketch).value = .ok circuit) :
      Tells (.build sketch) [(.debug, s!"built circuit with {circuit.parts.length} components")]
  | notBuilt {sketch : Script.Sketch} {error : Part.EntryError}
      (failure : (Circuit.ofSketch sketch).value = .error error) : Tells (.build sketch) []
  | loaded {text : String} {sketch : Script.Sketch} {lines : List (Level × String)}
      (read : Script.Sketch.ofText text = .ok sketch) (tells : Tells (.build sketch) lines) : Tells (.load text) lines
  | notASketch {text : String} {error : Script.Error} (failure : Script.Sketch.ofText text = .error error) :
      Tells (.load text) []
  | edited {circuit after : Circuit} {edit : Edit} {line : Level × String} (success : edit.apply circuit = .ok after)
      (tells : edit.Tells circuit line) : Tells (.edit circuit edit) [line]
  | refused {circuit : Circuit} {edit : Edit} {error : EditError} (failure : edit.apply circuit = .error error) :
      Tells (.edit circuit edit) []
  | acted {editor : Editor} {action : Editor.Action} {edit : Edit} {lines : List (Level × String)}
      (read : action.read = .ok edit) (tells : Tells (.edit editor.circuit edit) lines) :
      Tells (.act editor action) lines
  | unreadable {editor : Editor} {action : Editor.Action} {refusal : Editor.Refusal}
      (failure : action.read = .error refusal) : Tells (.act editor action) []
  | compiled {style : Style} {circuit : Circuit} {skipped : List (Level × String)} {sections : Sections}
      (drawn : (circuit.sections style).value = sections)
      (written : (circuit.compile style).value = sections.text style)
      (tells : List.Forall₂ circuit.TellsSkipped (circuit.silentPositions style) skipped) :
      Tells (.compile style circuit) (skipped ++ [(.debug,
        s!"compiled {circuit.parts.length} components: {sections.declarations.length} declarations, {
          sections.setup.length} setup lines, {sections.loop.length} loop lines")])

/-! ## Edits -/

private theorem Change.toString_target (setting : Change) : toString setting.target = setting.word := by
  cases setting <;> rfl

/-- An edit that succeeds tells one thing. -/
theorem Edit.Makes.tells {circuit after : Circuit} {edit : Edit} (makes : edit.Makes circuit after) :
    ∃ line, (edit.notices circuit).map Notice.entry = [line] ∧ edit.Tells circuit line := by
  cases makes with
  | add kind => exact ⟨_, rfl, .add kind⟩
  | remove inside =>
    have found := List.getElem?_eq_getElem inside
    exact ⟨_, by rw [notices, found]; rfl, .remove found⟩
  | move found inside => exact ⟨_, by rw [notices, found]; rfl, .move found⟩
  | @change position setting part changed found filled applied =>
    refine ⟨_, ?_, .change found⟩
    rw [notices, found, ← Change.toString_target]
    rfl

/-! ## Parts that add nothing -/

/-- What is picked from a list stands for the items that are kept, if none is picked from the others. -/
theorem forall₂_filter_filterMap {α β : Type} {Tells : α → β → Prop} {keep : α → Bool} {pick : α → Option β}
    {items : List α} (kept : ∀ item ∈ items, keep item = true → ∃ line, pick item = some line ∧ Tells item line)
    (left : ∀ item ∈ items, keep item = false → pick item = none) :
    List.Forall₂ Tells (items.filter keep) (items.filterMap pick) := by
  induction items with
  | nil => exact .nil
  | cons item rest ih =>
    have later := ih (fun other member => kept other (List.mem_cons_of_mem item member))
      fun other member => left other (List.mem_cons_of_mem item member)
    cases chosen : keep item with
    | true =>
      obtain ⟨line, picked, tells⟩ := kept item List.mem_cons_self chosen
      rw [List.filter_cons_of_pos chosen, List.filterMap_cons_some picked]
      exact .cons tells later
    | false =>
      rw [List.filter_cons_of_neg (by simp [chosen]), List.filterMap_cons_none (left item List.mem_cons_self chosen)]
      exact later

private theorem Command.lines_ne_nil (style : Style) (command : Command) : command.lines style ≠ [] := by
  cases command <;> simp [lines]

namespace Circuit

variable (style : Style) (circuit : Circuit)

/-- The parts that add nothing to a program are those without a task. -/
theorem contribution_eq_empty_iff (position : Nat) :
    circuit.contribution style position = ⟨[], [], []⟩ ↔ circuit.parts[position]?.bind Part.task? = none := by
  constructor
  · intro empty
    have loop := circuit.contribution_loop style position
    rw [empty] at loop
    cases placed : circuit.parts[position]? with
    | none => rfl
    | some part =>
      cases live : part.task? with
      | none => rw [Option.bind_some, live]
      | some task => simp [placed, command?, live, Command.lines_ne_nil] at loop
  · intro idle
    have same : (circuit.front (position + 1)).program = (circuit.front position).program := by
      rw [program, program, tasks_front_succ, idle, Option.toList_none, List.append_nil]
    simp [contribution, sections, same]

private theorem skipNotices_eq : circuit.skipNotices =
    (List.range circuit.parts.length).filterMap fun position =>
      circuit.parts[position]?.bind (skipNotice? position) := by
  obtain ⟨parts⟩ := circuit
  rw [skipNotices]
  induction parts using List.reverseRecOn with
  | nil => rfl
  | append_singleton parts part ih =>
    have others : (List.range parts.length).filterMap (fun position =>
        (parts ++ [part])[position]?.bind (skipNotice? position)) =
        (List.range parts.length).filterMap fun position => parts[position]?.bind (skipNotice? position) :=
      List.filterMap_congr fun position member => by
        rw [List.getElem?_append_left (List.mem_range.mp member)]
    simp only [List.zipIdx_append, List.filterMap_append, ih, List.length_append, List.length_singleton,
      List.range_succ, others]
    simp [List.filterMap_cons]

variable {circuit}

/-- A part without a task is told of. -/
theorem exists_skipNotice? {position : Nat} {part : Part} (found : circuit.parts[position]? = some part)
    (idle : part.task? = none) :
    ∃ notice, skipNotice? position part = some notice ∧ circuit.TellsSkipped position notice.entry := by
  cases part with
  | stepper coils steps => exact ⟨.skippedStepper position coils.length, by simp [skipNotice?, idle], .stepper found⟩
  | wait milliseconds => cases idle
  | light | button | servo | blinker | power =>
    exact ⟨.skippedUnbound _ position, by simp [skipNotice?, idle], .unbound found nofun⟩

private theorem skipNotice?_of_task {part : Part} {task : Task} (live : part.task? = some task) (position : Nat) :
    skipNotice? position part = none := by
  simp [skipNotice?, live]

/-- The parts that add nothing are told of, each once, and no others. -/
theorem skipNotices_tell (style : Style) (circuit : Circuit) :
    List.Forall₂ circuit.TellsSkipped (circuit.silentPositions style) (circuit.skipNotices.map Notice.entry) := by
  rw [skipNotices_eq, List.map_filterMap, silentPositions]
  apply forall₂_filter_filterMap
  · intro position inside silent
    have found := List.getElem?_eq_getElem (List.mem_range.mp inside)
    have idle := (circuit.contribution_eq_empty_iff style position).mp (of_decide_eq_true silent)
    rw [found, Option.bind_some] at idle
    obtain ⟨notice, told, tells⟩ := exists_skipNotice? found idle
    exact ⟨_, by rw [found, Option.bind_some, told, Option.map_some], tells⟩
  · intro position inside heard
    have found := List.getElem?_eq_getElem (List.mem_range.mp inside)
    have live := mt (circuit.contribution_eq_empty_iff style position).mpr (of_decide_eq_false heard)
    rw [found, Option.bind_some] at live
    obtain ⟨task, live⟩ := Option.ne_none_iff_exists'.mp live
    rw [found, Option.bind_some, skipNotice?_of_task live, Option.map_none]

end Circuit

/-! ## The log -/

namespace Operation

private theorem build_tells (sketch : Script.Sketch) :
    Tells (.build sketch) ((Circuit.ofSketch sketch).notices.map Notice.entry) := by
  cases described : sketch.entries.mapM Part.ofEntry with
  | ok parts =>
    have success : Circuit.ofSketch sketch = ⟨.ok ⟨parts⟩, [.built parts.length]⟩ := by
      rw [Circuit.ofSketch, described]
      rfl
    rw [success]
    exact .built (congrArg Noted.value success)
  | error error =>
    have failure : Circuit.ofSketch sketch = ⟨.error error, []⟩ := by
      rw [Circuit.ofSketch, described]
      rfl
    rw [failure]
    exact .notBuilt (congrArg Noted.value failure)

private theorem edit_tells (circuit : Circuit) (step : Edit) :
    Tells (.edit circuit step) ((step.perform circuit).notices.map Notice.entry) := by
  rw [Edit.perform]
  cases applied : step.apply circuit with
  | ok after =>
    obtain ⟨line, told, tells⟩ := (Edit.apply_eq_ok_iff.mp applied).tells
    rw [told]
    exact .edited applied tells
  | error error => exact .refused applied

private theorem load_tells (text : String) : Tells (.load text) ((Editor.ofText text).notices.map Notice.entry) := by
  rw [Editor.ofText, Circuit.ofText]
  cases read : Script.Sketch.ofText text with
  | ok sketch => simpa using Tells.loaded read (build_tells sketch)
  | error error => exact .notASketch read

private theorem act_tells (editor : Editor) (action : Editor.Action) :
    Tells (.act editor action) ((editor.act action).notices.map Notice.entry) := by
  rw [Editor.act]
  cases read : action.read with
  | ok step =>
    have tells := Tells.acted read (edit_tells editor.circuit step)
    cases made : step.perform editor.circuit with
    | mk result notices =>
      cases result <;> simpa [made] using tells
  | error refusal => exact .unreadable read

private theorem compile_tells (style : Style) (circuit : Circuit) :
    Tells (.compile style circuit) ((circuit.compile style).notices.map Notice.entry) := by
  have told : (circuit.compile style).notices.map Notice.entry =
      circuit.skipNotices.map Notice.entry ++ [Notice.entry (.compiled circuit.size
        (circuit.sections style).value.declarations.length (circuit.sections style).value.setup.length
        (circuit.sections style).value.loop.length)] := by
    rw [Circuit.compile, Noted.notices_bind, List.map_append]
    rfl
  rw [told]
  exact .compiled rfl rfl (circuit.skipNotices_tell style)

/-- One operation leaves the lines in the log that tell of it. -/
theorem perform_tells (operation : Operation) : operation.Tells (operation.perform.notices.map Notice.entry) := by
  cases operation with
  | parse text => exact .parse text
  | build sketch => simpa [perform] using build_tells sketch
  | load text => simpa [perform] using load_tells text
  | edit circuit step => simpa [perform] using edit_tells circuit step
  | act editor action => simpa [perform] using act_tells editor action
  | compile style circuit => simpa [perform] using compile_tells style circuit

private theorem log_cons (operation : Operation) (rest : List Operation) :
    log (operation :: rest) = operation.perform.notices.map Notice.entry ++ log rest := by
  simp [log, performAll]

/-- The log of any operations is made of what each of them tells, in their order. -/
theorem log_tells (operations : List Operation) :
    ∃ lines, List.Forall₂ Tells operations lines ∧ log operations = lines.flatten := by
  induction operations with
  | nil => exact ⟨[], .nil, rfl⟩
  | cons operation rest ih =>
    obtain ⟨lines, tells, whole⟩ := ih
    exact ⟨_ :: lines, .cons operation.perform_tells tells, by rw [log_cons, whole, List.flatten_cons]⟩

end Operation

end Breadboard
