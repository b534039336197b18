import Breadboard.Program.Text
import Breadboard.Proofs.Blankness
import Breadboard.Proofs.Outcome

/-! # Circuits built by edits

Whatever parts a circuit holds, edits can build it from the empty one: each part is added as its kind starts, and then
its attributes are set, one change for each. Nothing but a blank pin stands in the way, so every circuit that a text
describes can be built like this. The parts placed before are left alone, for all changes address the last position.
-/

namespace Breadboard

/-! ## One part -/

namespace Part

/-- The changes that make the part of a fresh one of its kind. Where no pin is bound there is none to bind. -/
def settings : Part → List Change
  | .light pin level => pin.toList.map .bind ++ [.value level]
  | .button pin => pin.toList.map .bind
  | .servo pin angle => pin.toList.map .bind ++ [.value angle]
  | .stepper coils steps => [.coils coils, .value steps]
  | .wait milliseconds => [.value milliseconds]
  | .blinker pin interval => pin.toList.map .bind ++ [.interval interval]
  | .power pin state => pin.toList.map .bind ++ [.power state]

/-- The edits that place the part, given the position behind the last. -/
def placing (position : Nat) (part : Part) : List Edit :=
  .add part.kind :: part.settings.map (.change position)

variable {part : Part} (visible : ∀ pin ∈ part.pins, pin.isBlank = false)
include visible

private theorem settings_filled : ∀ setting ∈ part.settings, setting.firstBlank? = none := by
  intro setting member
  refine Change.firstBlank?_eq_none_iff.mpr ?_
  rintro coils rfl
  have own : coils = part.pins := by
    cases part <;> simp_all [settings, pins]
  exact own ▸ visible

private theorem settings_applied :
    part.settings.foldlM (fun part setting => setting.applyTo? part) (fresh part.kind) = some part := by
  -- A part with a single pin is bound first, if it is bound at all.
  have bound (pin : Option Pin) (single : part.pins = pin.toList) : pin.toList.map Change.bind = [] ∧ pin = none ∨
      ∃ name, pin.toList.map Change.bind = [.bind name] ∧ name.bound? = pin := by
    cases pin with
    | none => exact .inl ⟨rfl, rfl⟩
    | some name => exact .inr ⟨name, rfl, if_neg (by simp [visible name (single ▸ List.mem_singleton_self name)])⟩
  cases part with
  | stepper coils steps => rfl
  | wait milliseconds => rfl
  | light pin level | button pin | servo pin level | blinker pin level | power pin level =>
    rcases bound pin rfl with ⟨none, rfl⟩ | ⟨name, one, rfl⟩
    · rfl
    · rw [settings, one]
      rfl

end Part

/-! ## Edits one after the other -/

namespace Circuit

/-- The edits that build a circuit of these parts, one part after the other. -/
def building (parts : List Part) : List Edit :=
  parts.zipIdx.flatMap fun (part, position) => part.placing position

/-- The circuit after all of the edits, or the error of the first that fails. -/
def editedAll (circuit : Circuit) (edits : List Edit) : Except EditError Circuit :=
  edits.foldlM (fun circuit edit => edit.apply circuit) circuit

private theorem editedAll_cons {circuit after : Circuit} {edit : Edit} (success : edit.apply circuit = .ok after)
    (rest : List Edit) : circuit.editedAll (edit :: rest) = after.editedAll rest := by
  rw [editedAll, List.foldlM_cons, success]
  rfl

private theorem editedAll_append {circuit after : Circuit} {edits : List Edit}
    (success : circuit.editedAll edits = .ok after)
    (rest : List Edit) : circuit.editedAll (edits ++ rest) = after.editedAll rest := by
  rw [editedAll, List.foldlM_append]
  change (circuit.editedAll edits >>= _) = _
  rw [success]
  rfl

/-- Changes of one part leave all others as they are. -/
theorem editedAll_changes {settings : List Change} (filled : ∀ setting ∈ settings, setting.firstBlank? = none)
    {parts : List Part} {position : Nat} {part changed : Part} (found : parts[position]? = some part)
    (applied : settings.foldlM (fun part setting => setting.applyTo? part) part = some changed) :
    (Circuit.mk parts).editedAll (settings.map (.change position)) = .ok ⟨parts.set position changed⟩ := by
  induction settings generalizing parts part with
  | nil =>
    cases applied
    obtain ⟨inside, rfl⟩ := List.getElem?_eq_some_iff.mp found
    rw [List.set_getElem_self inside]
    rfl
  | cons setting rest ih =>
    rw [List.foldlM_cons] at applied
    obtain ⟨next, first, applied⟩ := Option.bind_eq_some_iff.mp applied
    obtain ⟨own, others⟩ := List.forall_mem_cons.mp filled
    have inside := (List.getElem?_eq_some_iff.mp found).1
    rw [List.map_cons, editedAll_cons (Edit.apply_eq_ok_iff.mpr (.change found own first)),
      ih others (List.getElem?_set_self inside) applied, List.set_set]

private theorem editedAll_placing (parts : List Part) {part : Part} (visible : ∀ pin ∈ part.pins, pin.isBlank = false) :
    (Circuit.mk parts).editedAll (part.placing parts.length) = .ok ⟨parts ++ [part]⟩ := by
  have changes := editedAll_changes (Part.settings_filled visible)
    (List.getElem?_concat_length (l := parts)) (Part.settings_applied visible)
  rw [Part.placing, editedAll_cons (Edit.apply_eq_ok_iff.mpr (.add part.kind)), changes,
    List.set_append_right _ _ (Nat.le_refl _), Nat.sub_self, List.set_cons_zero]

/-- A part more at the end is built behind the others. -/
theorem building_concat (parts : List Part) (part : Part) :
    building (parts ++ [part]) = building parts ++ part.placing parts.length := by
  simp [building, List.zipIdx_append]

/-- Where no pin is blank the edits succeed and build the very parts. -/
theorem editedAll_building {parts : List Part} (visible : ∀ part ∈ parts, ∀ pin ∈ part.pins, pin.isBlank = false) :
    Circuit.empty.editedAll (building parts) = .ok ⟨parts⟩ := by
  induction parts using List.reverseRecOn with
  | nil => rfl
  | append_singleton parts part ih =>
    rw [building_concat, editedAll_append (ih fun earlier placed => visible earlier (List.mem_append_left _ placed)),
      editedAll_placing parts (visible part (by simp))]

/-- Edits build every circuit without blank pins from the empty one, and so they build every circuit that a text
describes, with the program and the pins of that one. -/
theorem built_by_edits :
    (∀ circuit : Circuit, circuit.NoneBlank → Circuit.empty.editedAll (building circuit.parts) = .ok circuit) ∧
      ∀ text circuit, (ofText text).value = .ok circuit →
        ∃ built, Circuit.empty.editedAll (building circuit.parts) = .ok built ∧ (ofText text).value = .ok built ∧
          (∀ style, (built.compile style).value = (circuit.compile style).value) ∧
          built.claimedPins = circuit.claimedPins ∧
          ∀ kind space, built.freePins kind space = circuit.freePins kind space := by
  refine ⟨fun circuit visible => editedAll_building visible, fun text circuit read => ?_⟩
  have visible : circuit.NoneBlank := (Reached.ofText read).noneBlank
  exact ⟨circuit, editedAll_building visible, read, fun _ => rfl, rfl, fun _ _ => rfl⟩

/-- A servo that is not bound, and coils that are no complete set. -/
theorem built_by_edits_unfinished :
    (Circuit.mk [.servo none (-1), .stepper [⟨"été"⟩] 200, .power (some ⟨"D1"⟩) .off]).NoneBlank ∧
      building [.servo none (-1), .stepper [⟨"été"⟩] 200, .power (some ⟨"D1"⟩) .off] =
        [.add .servo, .change 0 (.value (-1)), .add .stepper, .change 1 (.coils [⟨"été"⟩]), .change 1 (.value 200),
          .add .power, .change 2 (.bind ⟨"D1"⟩), .change 2 (.power .off)] ∧
      Circuit.empty.editedAll (building [.servo none (-1), .stepper [⟨"été"⟩] 200, .power (some ⟨"D1"⟩) .off]) =
        .ok ⟨[.servo none (-1), .stepper [⟨"été"⟩] 200, .power (some ⟨"D1"⟩) .off]⟩ ∧
      ∃ built, (ofText "servo angle=-1\nSTEPPED été\npower off D1").value = .ok built ∧
        Circuit.empty.editedAll (building built.parts) = .ok built := by
  have visible : (Circuit.mk [.servo none (-1), .stepper [⟨"été"⟩] 200, .power (some ⟨"D1"⟩) .off]).NoneBlank := by
    unfold NoneBlank
    decide
  have read : (ofText "servo angle=-1\nSTEPPED été\npower off D1").value.toOption =
      some ⟨[.servo none (-1), .stepper [⟨"été"⟩] 200, .power (some ⟨"D1"⟩) .off]⟩ := by decide +kernel
  refine ⟨visible, rfl, built_by_edits.1 _ visible, ?_⟩
  cases result : (ofText "servo angle=-1\nSTEPPED été\npower off D1").value with
  | error error => rw [result] at read; cases read
  | ok circuit =>
    obtain ⟨built, builds, same, -⟩ := built_by_edits.2 _ circuit result
    cases result.symm.trans same
    exact ⟨circuit, rfl, builds⟩

end Circuit

end Breadboard
