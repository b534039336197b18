import Breadboard.Proofs.Attributes

/-! # Outcomes of edits

`Edit.Outcome` says what each edit comes to without saying how: where it fails and with which error, and otherwise
what the parts are afterwards. A position outside the circuit is the first cause of failure, a blank coil pin the
second, an attribute that the kind does not carry the third. Main statement: `Edit.perform_eq_iff`.
-/

namespace Breadboard

namespace Circuit

/-- One part of a circuit is altered by a change, and all others are left as they are. -/
structure AltersAt (circuit : Circuit) (position : Nat) (setting : Change) (after : Circuit) : Prop where
  size_eq : after.size = circuit.size
  kinds_eq : after.parts.map Part.kind = circuit.parts.map Part.kind
  elsewhere : ∀ other, other ≠ position → after.parts[other]? = circuit.parts[other]?
  altered : ∀ part changed, circuit.parts[position]? = some part → after.parts[position]? = some changed →
    setting.Alters part changed

/-- The same parts with the one at `source` put at `target`, and all others in their order. -/
structure Relocates (circuit : Circuit) (source target : Nat) (after : Circuit) : Prop where
  perm : after.parts.Perm circuit.parts
  placed : after.parts[target]? = circuit.parts[source]?
  others_eq : after.parts.eraseIdx target = circuit.parts.eraseIdx source

end Circuit

namespace Change

/-- The change lists coil pins, and the one at the index is the first of them that is blank. -/
def BlankFirstAt (setting : Change) (index : Nat) : Prop :=
  ∃ pins pin, setting = .coils pins ∧ pins[index]? = some pin ∧ pin.isBlank = true ∧
    ∀ earlier < index, ∀ other, pins[earlier]? = some other → other.isBlank = false

/-- The change lists no blank coil pin. -/
def Filled (setting : Change) : Prop :=
  ∀ pins, setting = .coils pins → ∀ pin ∈ pins, pin.isBlank = false

private theorem firstBlank?_eq_some_iff {setting : Change} {index : Nat} :
    setting.firstBlank? = some index ↔ setting.BlankFirstAt index := by
  cases setting with
  | coils pins =>
    simp only [firstBlank?, List.findIdx?_eq_some_iff_getElem, BlankFirstAt, coils.injEq, List.getElem?_eq_some_iff]
    constructor
    · rintro ⟨inside, blank, first⟩
      refine ⟨pins, _, rfl, ⟨inside, rfl⟩, blank, ?_⟩
      rintro earlier less other ⟨-, rfl⟩
      simpa using first earlier less
    · rintro ⟨_, _, rfl, ⟨inside, rfl⟩, blank, first⟩
      exact ⟨inside, blank, fun earlier less => by simp [first earlier less _ ⟨Nat.lt_trans less inside, rfl⟩]⟩
  | _ => simp [firstBlank?, BlankFirstAt]

/-- A change has no first blank pin exactly when none of its pins is blank. -/
theorem firstBlank?_eq_none_iff {setting : Change} : setting.firstBlank? = none ↔ setting.Filled := by
  cases setting <;> simp [firstBlank?, Filled]

end Change

namespace Edit

/-- What an edit of a circuit comes to. -/
inductive Outcome (circuit : Circuit) : Edit → Except EditError Circuit → Prop where
  | added (kind : Part.Kind) : Outcome circuit (.add kind) (.ok ⟨circuit.parts ++ [.fresh kind]⟩)
  | removed {position : Nat} (inside : position < circuit.size) :
      Outcome circuit (.remove position) (.ok ⟨circuit.parts.take position ++ circuit.parts.drop (position + 1)⟩)
  | removedOutside {position : Nat} (outside : circuit.size ≤ position) :
      Outcome circuit (.remove position) (.error (.outOfBounds position circuit.size))
  | moved {source target : Nat} {after : Circuit} (inside : source < circuit.size) (inside' : target < circuit.size)
      (relocates : circuit.Relocates source target after) : Outcome circuit (.move source target) (.ok after)
  | movedFromOutside {source target : Nat} (outside : circuit.size ≤ source) :
      Outcome circuit (.move source target) (.error (.outOfBounds source circuit.size))
  | movedToOutside {source target : Nat} (inside : source < circuit.size) (outside : circuit.size ≤ target) :
      Outcome circuit (.move source target) (.error (.outOfBounds target circuit.size))
  | changed {position : Nat} {setting : Change} {part : Part} {after : Circuit}
      (found : circuit.parts[position]? = some part) (filled : setting.Filled)
      (carried : setting.target ∈ part.kind.attributes) (alters : circuit.AltersAt position setting after) :
      Outcome circuit (.change position setting) (.ok after)
  | changedOutside {position : Nat} {setting : Change} (outside : circuit.size ≤ position) :
      Outcome circuit (.change position setting) (.error (.outOfBounds position circuit.size))
  | blankCoil {position index : Nat} {setting : Change} (inside : position < circuit.size)
      (blank : setting.BlankFirstAt index) :
      Outcome circuit (.change position setting) (.error (.blankCoil position index))
  | notCarried {position : Nat} {setting : Change} {part : Part} (found : circuit.parts[position]? = some part)
      (filled : setting.Filled) (lacking : setting.target ∉ part.kind.attributes) :
      Outcome circuit (.change position setting) (.error (.notApplicable position part.kind setting.target))

variable {circuit after : Circuit}

/-- The notices aside, an edit performed is the edit applied. -/
theorem value_perform (edit : Edit) (circuit : Circuit) : (edit.perform circuit).value = edit.apply circuit := by
  unfold perform
  split <;> simp_all

/-! ## Moves -/

/-- Parts stand as after a move exactly when the one at the source is taken out and put in at the target. -/
theorem relocates_iff {source target : Nat} {part : Part} (found : circuit.parts[source]? = some part)
    (inside : target < circuit.size) :
    circuit.Relocates source target after ↔ after = ⟨(circuit.parts.eraseIdx source).insertIdx target part⟩ := by
  obtain ⟨located, rfl⟩ := List.getElem?_eq_some_iff.mp found
  constructor
  · intro relocates
    obtain ⟨arrived, same⟩ := List.getElem?_eq_some_iff.mp (relocates.placed.trans found)
    have whole := List.insertIdx_eraseIdx_getElem arrived
    rw [relocates.others_eq, same] at whole
    exact congrArg Circuit.mk whole.symm
  · rintro rfl
    constructor
    case perm => exact (Makes.move found inside).perm_of_move
    case placed =>
      have fits : target ≤ (circuit.parts.eraseIdx source).length := by
        rw [List.length_eraseIdx_of_lt located]
        exact Nat.le_sub_one_of_lt inside
      rw [List.getElem?_insertIdx_self, if_pos fits, found]
    case others_eq => exact List.eraseIdx_insertIdx_self _

/-! ## Changes -/

private theorem altersAt_iff {position : Nat} {setting : Change} {part changed : Part}
    (found : circuit.parts[position]? = some part) (alters : setting.Alters part changed) :
    circuit.AltersAt position setting after ↔ after = ⟨circuit.parts.set position changed⟩ := by
  obtain ⟨inside, rfl⟩ := List.getElem?_eq_some_iff.mp found
  constructor
  · intro altersAt
    have reached : position < after.parts.length := Nat.lt_of_lt_of_eq inside altersAt.size_eq.symm
    have same := (altersAt.altered _ _ found (List.getElem?_eq_getElem reached)).unique alters
    refine congrArg Circuit.mk (List.ext_getElem? fun other => ?_)
    by_cases here : other = position
    · rw [here, List.getElem?_set_self inside, ← same, List.getElem?_eq_getElem reached]
    · rw [List.getElem?_set_ne (Ne.symm here), altersAt.elsewhere other here]
  · rintro rfl
    constructor
    case size_eq => exact List.length_set
    case kinds_eq =>
      have listed : position < (circuit.parts.map Part.kind).length := by
        rwa [List.length_map]
      rw [List.map_set, alters.kind_eq, ← List.getElem_map Part.kind (h := listed)]
      exact List.set_getElem_self listed
    case elsewhere => exact fun other away => List.getElem?_set_ne (Ne.symm away)
    case altered =>
      intro own next here there
      rw [List.getElem?_set_self inside] at there
      cases found.symm.trans here
      cases there
      exact alters

/-! ## All edits -/

/-- Behind the last part there is none, and the error tells the position and the size. -/
theorem partAt_of_outside {position : Nat} (outside : circuit.size ≤ position) :
    circuit.partAt position = .error (.outOfBounds position circuit.size) :=
  Circuit.partAt_eq_error_iff.mpr ⟨outside, rfl⟩

/-- Up to the last part there is one. -/
theorem partAt_of_inside {position : Nat} (inside : position < circuit.size) :
    circuit.partAt position = .ok circuit.parts[position] :=
  Circuit.partAt_eq_ok_iff.mpr (List.getElem?_eq_getElem inside)

private theorem Outcome.apply_eq {edit : Edit} {result : Except EditError Circuit}
    (outcome : Outcome circuit edit result) : edit.apply circuit = result := by
  cases outcome with
  | added kind => rfl
  | @removed position inside =>
    rw [← List.eraseIdx_eq_take_drop_succ]
    exact apply_eq_ok_iff.mpr (.remove inside)
  | removedOutside outside =>
    rw [apply, partAt_of_outside outside]
    rfl
  | moved inside inside' relocates =>
    have found := List.getElem?_eq_getElem inside
    rw [(relocates_iff found inside').mp relocates]
    exact apply_eq_ok_iff.mpr (.move found inside')
  | movedFromOutside outside =>
    rw [apply, partAt_of_outside outside]
    rfl
  | movedToOutside inside outside =>
    rw [apply, partAt_of_inside inside, partAt_of_outside outside]
    rfl
  | changed found filled carried alters =>
    obtain ⟨changed, success⟩ := Option.isSome_iff_exists.mp (Change.isSome_applyTo?_iff.mpr carried)
    rw [(altersAt_iff found (.of_applyTo? success)).mp alters]
    exact apply_eq_ok_iff.mpr (.change found (Change.firstBlank?_eq_none_iff.mpr filled) success)
  | changedOutside outside =>
    rw [apply, Edit.changed, partAt_of_outside outside]
    rfl
  | blankCoil inside blank =>
    rw [apply, Edit.changed, partAt_of_inside inside, Change.firstBlank?_eq_some_iff.mpr blank]
    rfl
  | notCarried found filled lacking =>
    simp only [apply, Edit.changed, Circuit.partAt_eq_ok_iff.mpr found, Change.firstBlank?_eq_none_iff.mpr filled,
      Change.applyTo?_eq_none_iff.mpr lacking, bind, Except.bind]

/-- Every edit comes to something. -/
theorem exists_outcome (circuit : Circuit) (edit : Edit) : ∃ result, Outcome circuit edit result := by
  cases edit with
  | add kind => exact ⟨_, .added kind⟩
  | remove position =>
    rcases Nat.lt_or_ge position circuit.size with inside | outside
    · exact ⟨_, .removed inside⟩
    · exact ⟨_, .removedOutside outside⟩
  | move source target =>
    rcases Nat.lt_or_ge source circuit.size with inside | outside
    · rcases Nat.lt_or_ge target circuit.size with inside' | outside'
      · have relocates := (relocates_iff (List.getElem?_eq_getElem inside) inside').mpr rfl
        exact ⟨_, .moved inside inside' relocates⟩
      · exact ⟨_, .movedToOutside inside outside'⟩
    · exact ⟨_, .movedFromOutside outside⟩
  | change position setting =>
    rcases Nat.lt_or_ge position circuit.size with inside | outside
    · have found := List.getElem?_eq_getElem inside
      cases first : setting.firstBlank? with
      | some index => exact ⟨_, .blankCoil inside (Change.firstBlank?_eq_some_iff.mp first)⟩
      | none =>
        have filled := Change.firstBlank?_eq_none_iff.mp first
        cases made : setting.applyTo? circuit.parts[position] with
        | some changed =>
          obtain ⟨carried, alters⟩ := Change.applyTo?_eq_some_iff.mp made
          exact ⟨_, .changed found filled carried ((altersAt_iff found alters).mpr rfl)⟩
        | none => exact ⟨_, .notCarried found filled (Change.applyTo?_eq_none_iff.mp made)⟩
    · exact ⟨_, .changedOutside outside⟩

private theorem apply_eq_iff {edit : Edit} {result : Except EditError Circuit} :
    edit.apply circuit = result ↔ Outcome circuit edit result := by
  constructor
  · rintro rfl
    obtain ⟨result, outcome⟩ := exists_outcome circuit edit
    rwa [outcome.apply_eq]
  · exact Outcome.apply_eq

/-- Every edit comes to its one outcome, and binding to a pin with a blank name comes to what unbinding does. -/
theorem perform_eq_iff (circuit : Circuit) :
    (∀ edit result, (Edit.perform edit circuit).value = result ↔ Outcome circuit edit result) ∧
      ∀ position pin, pin.isBlank = true → (Edit.perform (.change position (.bind pin)) circuit).value =
        (Edit.perform (.change position .unbind) circuit).value := by
  refine ⟨fun edit result => ?_, fun position pin blank => ?_⟩
  · rw [value_perform]
    exact apply_eq_iff
  · have unbound : pin.bound? = none := if_pos blank
    simp only [value_perform, apply, Edit.changed, Change.applyTo?, Change.firstBlank?, Change.target, unbound]

/-- A blank coil counts before the kind of the part, and a tab for a name unbinds. -/
theorem perform_eq_iff_blank_names :
    Outcome ⟨[.wait 5, .light (some ⟨"D1"⟩) 0]⟩ (.change 1 (.coils [⟨"D0"⟩, ⟨"\u00A0"⟩])) (.error (.blankCoil 1 1)) ∧
      (Edit.perform (.change 1 (.bind ⟨"\t"⟩)) ⟨[.wait 5, .light (some ⟨"D1"⟩) 0]⟩).value =
        .ok ⟨[.wait 5, .light none 0]⟩ := by
  obtain ⟨outcomes, blanks⟩ := perform_eq_iff ⟨[.wait 5, .light (some ⟨"D1"⟩) 0]⟩
  exact ⟨(outcomes _ _).mp (by rfl), (blanks 1 ⟨"\t"⟩ (by decide)).trans (by rfl)⟩

end Edit

end Breadboard
