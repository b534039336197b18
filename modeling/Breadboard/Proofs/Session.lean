import Breadboard.Editor
import Mathlib.Data.List.Perm.Basic

/-! # Sessions

A session starts from the empty circuit or from a text and edits what it holds, edit by edit; an edit that fails
leaves the circuit as it is. `Edit.apply_eq_ok_iff` says once what each edit makes of the parts, and
`Change.pins_of_applyTo?` what a change does to the pins of its part. The sessions of an editor go through the same
circuits: `Editor.Reached.circuit`.
-/

namespace Breadboard

namespace Change

/-- The pins of a part after the change. -/
def wires : Change → List Pin → List Pin
  | .bind pin, _ => pin.bound?.toList
  | .unbind, _ => []
  | .coils pins, _ => pins
  | .value _, pins | .interval _, pins | .power _, pins => pins

/-- No change makes a part one of another kind. -/
theorem kind_of_applyTo? {setting : Change} {part changed : Part} (success : setting.applyTo? part = some changed) :
    changed.kind = part.kind := by
  cases setting <;> cases part <;> cases success <;> rfl

/-- A change of the pins sets them, and any other leaves them. -/
theorem pins_of_applyTo? (setting : Change) {part changed : Part} (success : setting.applyTo? part = some changed) :
    changed.pins = setting.wires part.pins := by
  cases setting <;> cases part <;> cases success <;> rfl

end Change

/-- What an edit that succeeds makes of a circuit. -/
inductive Edit.Makes (circuit : Circuit) : Edit → Circuit → Prop where
  | add (kind : Part.Kind) : Makes circuit (.add kind) ⟨circuit.parts ++ [.fresh kind]⟩
  | remove {position : Nat} (inside : position < circuit.size) :
      Makes circuit (.remove position) ⟨circuit.parts.eraseIdx position⟩
  | move {source target : Nat} {part : Part} (found : circuit.parts[source]? = some part)
      (inside : target < circuit.size) :
      Makes circuit (.move source target) ⟨(circuit.parts.eraseIdx source).insertIdx target part⟩
  | change {position : Nat} {setting : Change} {part changed : Part} (found : circuit.parts[position]? = some part)
      (filled : setting.firstBlank? = none) (applied : setting.applyTo? part = some changed) :
      Makes circuit (.change position setting) ⟨circuit.parts.set position changed⟩

namespace Edit

variable {circuit after : Circuit}

/-- There is a part up to the last position. -/
theorem exists_partAt_iff {position : Nat} :
    (∃ part, circuit.partAt position = .ok part) ↔ position < circuit.size := by
  simp only [Circuit.partAt_eq_ok_iff, List.getElem?_eq_some_iff, Circuit.size]
  constructor
  · rintro ⟨part, inside, -⟩
    exact inside
  · intro inside
    exact ⟨_, inside, rfl⟩

/-- A part is changed exactly when it is there, no pin is blank, and its kind has the attribute. -/
theorem changed_eq_ok_iff {position : Nat} {setting : Change} {result : Part} :
    changed circuit position setting = .ok result ↔
      ∃ part, circuit.parts[position]? = some part ∧ setting.firstBlank? = none ∧
        setting.applyTo? part = some result := by
  rw [changed, except_bind_eq_ok_iff]
  refine exists_congr fun part => and_congr Circuit.partAt_eq_ok_iff ?_
  cases setting.firstBlank? <;> cases setting.applyTo? part <;> simp

/-- An edit succeeds exactly when it makes the circuit that it gives. -/
theorem apply_eq_ok_iff {edit : Edit} : edit.apply circuit = .ok after ↔ edit.Makes circuit after := by
  constructor
  · intro success
    cases edit with
    | add kind =>
      cases success
      exact .add kind
    | remove position =>
      obtain ⟨part, located, success⟩ := except_bind_eq_ok_iff.mp success
      cases success
      exact .remove (exists_partAt_iff.mp ⟨part, located⟩)
    | move source target =>
      obtain ⟨part, located, success⟩ := except_bind_eq_ok_iff.mp success
      obtain ⟨other, inside, success⟩ := except_bind_eq_ok_iff.mp success
      cases success
      exact .move (Circuit.partAt_eq_ok_iff.mp located) (exists_partAt_iff.mp ⟨other, inside⟩)
    | change position setting =>
      obtain ⟨result, made, success⟩ := except_bind_eq_ok_iff.mp success
      cases success
      obtain ⟨part, found, filled, applied⟩ := changed_eq_ok_iff.mp made
      exact .change found filled applied
  · intro makes
    cases makes with
    | add kind => rfl
    | remove inside =>
      obtain ⟨part, located⟩ := exists_partAt_iff.mpr inside
      exact except_bind_eq_ok_iff.mpr ⟨part, located, rfl⟩
    | move found inside =>
      obtain ⟨other, located⟩ := exists_partAt_iff.mpr inside
      exact except_bind_eq_ok_iff.mpr
        ⟨_, Circuit.partAt_eq_ok_iff.mpr found, except_bind_eq_ok_iff.mpr ⟨other, located, rfl⟩⟩
    | change found filled applied =>
      exact except_bind_eq_ok_iff.mpr ⟨_, changed_eq_ok_iff.mpr ⟨_, found, filled, applied⟩, rfl⟩

/-- A move puts the same parts in another order. -/
theorem Makes.perm_of_move {source target : Nat} (makes : (Edit.move source target).Makes circuit after) :
    after.parts.Perm circuit.parts := by
  cases makes with
  | move found inside =>
    obtain ⟨located, rfl⟩ := List.getElem?_eq_some_iff.mp found
    have fits : target ≤ (circuit.parts.eraseIdx source).length := by
      rw [List.length_eraseIdx_of_lt located]
      exact Nat.le_sub_one_of_lt inside
    exact (List.perm_insertIdx _ _ fits).trans (List.getElem_cons_eraseIdx_perm located)

end Edit

/-! ## Circuits that sessions reach -/

namespace Circuit

/-- The circuit after an edit. One that fails leaves it as it is. -/
def edited (circuit : Circuit) (edit : Edit) : Circuit :=
  match edit.apply circuit with
  | .ok after => after
  | .error _ => circuit

/-- A circuit that a session of edits comes to. -/
inductive Reached : Circuit → Prop where
  | empty : Reached .empty
  | ofText {text : String} {circuit : Circuit} (success : (ofText text).value = .ok circuit) : Reached circuit
  | edited {circuit : Circuit} (reached : Reached circuit) (edit : Edit) : Reached (circuit.edited edit)

/-- What the edits that succeed keep, all edits keep. -/
theorem edited_induction {motive : Circuit → Prop} {circuit : Circuit} {edit : Edit} (start : motive circuit)
    (step : ∀ after, edit.Makes circuit after → motive after) : motive (circuit.edited edit) := by
  unfold edited
  split
  next after success => exact step after (Edit.apply_eq_ok_iff.mp success)
  next => exact start

end Circuit

namespace Editor

/-- The editor after an action. One that fails leaves it as it is. -/
def acted (editor : Editor) (action : Action) : Editor :=
  match (editor.act action).value with
  | .ok after => after
  | .error _ => editor

/-- An editor that a session of actions comes to. -/
inductive Reached : Editor → Prop where
  | empty : Reached .empty
  | ofText {text : String} {editor : Editor} (success : (ofText text).value = .ok editor) : Reached editor
  | acted {editor : Editor} (reached : Reached editor) (action : Action) : Reached (editor.acted action)

/-- An action that can be read does to the held circuit what its edit does, and any other leaves it. -/
theorem circuit_acted (editor : Editor) (action : Action) :
    (editor.acted action).circuit =
      match action.read with
      | .ok edit => editor.circuit.edited edit
      | .error _ => editor.circuit := by
  unfold acted act
  cases action.read with
  | error refusal => rfl
  | ok edit =>
    simp only [Noted.value_bind, Edit.perform, Circuit.edited]
    cases edit.apply editor.circuit <;> rfl

/-- The circuit of an editor that can be reached can be reached itself. -/
theorem Reached.circuit {editor : Editor} (reached : editor.Reached) : editor.circuit.Reached := by
  induction reached with
  | empty => exact .empty
  | @ofText text editor success =>
    cases read : (Circuit.ofText text).value with
    | error error => simp [Editor.ofText, read, Except.map] at success
    | ok circuit =>
      simp only [Editor.ofText, Noted.value_bind, Noted.value_pure, read, Except.map, Except.ok.injEq] at success
      subst success
      exact .ofText read
  | acted reached action ih =>
    rw [circuit_acted]
    split
    · exact ih.edited _
    · exact ih

end Editor

end Breadboard
