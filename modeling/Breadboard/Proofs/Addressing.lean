import Breadboard.Proofs.Outcome

/-! # Edits follow the parts

A position is how an edit names a part, and moves and removals take parts to other positions: `Edit.displaced` and
`Edit.lowered` say where to. A change does the same to a part before the part is taken elsewhere and afterwards, and
where it fails it fails alike, but for the position that the error tells. Changes of different attributes, or of
different parts, do not get in each other's way.
-/

namespace Breadboard

/-! ## Where parts go -/

namespace Edit

/-- Where the part at a position stands after the one at `source` has moved to `target`. -/
def displaced (source target position : Nat) : Nat :=
  if position = source then target
  else if source < position ∧ position ≤ target then position - 1
  else if target ≤ position ∧ position < source then position + 1
  else position

/-- Where the part at a position stands after the one at `gone` has been removed. -/
def lowered (gone position : Nat) : Nat :=
  if gone < position then position - 1 else position

/-- Where the part at a position stands after another has been put in at `place`. -/
def raised (place position : Nat) : Nat :=
  if position < place then position else position + 1

variable {source target position : Nat}

private theorem displaced_lt {size : Nat} (inside : source < size) (inside' : target < size)
    (placed : position < size) : displaced source target position < size := by
  unfold displaced
  split_ifs <;> omega

/-- Moving a part back puts all others back too. -/
theorem displaced_displaced (source target position : Nat) :
    displaced target source (displaced source target position) = position := by
  unfold displaced
  split_ifs <;> omega

/-- A move sends different positions to different ones. -/
theorem displaced_inj {other : Nat} :
    displaced source target position = displaced source target other ↔ position = other := by
  refine ⟨fun same => ?_, fun same => by rw [same]⟩
  rw [← displaced_displaced source target position, same, displaced_displaced]

private theorem displaced_eq_raised (away : position ≠ source) :
    displaced source target position = raised target (lowered source position) := by
  unfold displaced raised lowered
  split_ifs <;> omega

end Edit

section Lists

variable {α : Type} {items : List α} {item : α}

private theorem getElem?_lowered {gone position : Nat} (kept : position ≠ gone) :
    (items.eraseIdx gone)[Edit.lowered gone position]? = items[position]? := by
  unfold Edit.lowered
  split
  next behind =>
    obtain ⟨before, rfl⟩ := Nat.exists_eq_add_of_lt behind
    exact List.getElem?_eraseIdx_of_ge (by omega)
  next before => exact List.getElem?_eraseIdx_of_lt (by omega)

private theorem getElem?_raised (place position : Nat) :
    (items.insertIdx place item)[Edit.raised place position]? = items[position]? := by
  unfold Edit.raised
  split
  next before => exact List.getElem?_insertIdx_of_lt before
  next behind => exact List.getElem?_insertIdx_of_gt (by omega)

/-- After a move every part stands at its displaced position. -/
theorem getElem?_displaced {source target : Nat} (found : items[source]? = some item) (inside : target < items.length)
    (position : Nat) :
    ((items.eraseIdx source).insertIdx target item)[Edit.displaced source target position]? = items[position]? := by
  have fits : target ≤ (items.eraseIdx source).length := by
    rw [List.length_eraseIdx]
    split <;> omega
  by_cases own : position = source
  · rw [own, Edit.displaced, if_pos rfl, List.getElem?_insertIdx_self, if_pos fits, found]
  · rw [Edit.displaced_eq_raised own, getElem?_raised, getElem?_lowered own]

/-- A part may be replaced before the move or afterwards, where it stands then. -/
theorem set_displaced {source target position : Nat} (inside : source < items.length) (inside' : target < items.length)
    (own : source < (items.set position item).length) :
    ((items.set position item).eraseIdx source).insertIdx target (items.set position item)[source] =
      ((items.eraseIdx source).insertIdx target items[source]).set (Edit.displaced source target position) item := by
  have reached : target < (items.set position item).length := by rwa [List.length_set]
  refine List.ext_getElem? fun index => ?_
  -- Every index is where some earlier one has gone.
  obtain ⟨earlier, rfl⟩ : ∃ earlier, Edit.displaced source target earlier = index :=
    ⟨_, Edit.displaced_displaced target source index⟩
  rw [getElem?_displaced (List.getElem?_eq_getElem own) reached]
  have unset := getElem?_displaced (List.getElem?_eq_getElem inside) inside' earlier
  by_cases here : position = earlier
  · subst here
    rw [List.getElem?_set_self', List.getElem?_set_self', unset]
  · rw [List.getElem?_set_ne here, List.getElem?_set_ne (mt Edit.displaced_inj.mp here), unset]

private theorem set_lowered {gone position : Nat} (kept : position ≠ gone) :
    (items.set position item).eraseIdx gone = (items.eraseIdx gone).set (Edit.lowered gone position) item := by
  unfold Edit.lowered
  split
  next behind => exact List.eraseIdx_set_lt behind
  next before => exact List.eraseIdx_set_gt (by omega)

end Lists

/-! ## Changes before and after -/

/-- The same error, told of another position. -/
def EditError.toldOf (position : Nat) : EditError → EditError
  | .outOfBounds _ size => .outOfBounds position size
  | .notApplicable _ kind target => .notApplicable position kind target
  | .blankCoil _ index => .blankCoil position index

namespace Circuit

/-- Two edits, one after the other. -/
def editedTwice (circuit : Circuit) (first second : Edit) : Except EditError Circuit :=
  first.apply circuit >>= fun after => second.apply after

private theorem editedTwice_eq_ok_iff {circuit : Circuit} {first second : Edit} {after : Circuit} :
    circuit.editedTwice first second = .ok after ↔
      ∃ mid, first.apply circuit = .ok mid ∧ second.apply mid = .ok after :=
  except_bind_eq_ok_iff

end Circuit

namespace Edit

variable {circuit other : Circuit} {position place : Nat} {part : Part}

/-- What a change makes of a part has nothing to do with where the part stands. -/
theorem changed_elsewhere (found : circuit.parts[position]? = some part) (same : other.parts[place]? = some part)
    (setting : Change) :
    changed other place setting = (changed circuit position setting).mapError (.toldOf place) := by
  rw [changed, changed, Circuit.partAt_eq_ok_iff.mpr found, Circuit.partAt_eq_ok_iff.mpr same]
  simp only [bind, Except.bind]
  cases setting.firstBlank? <;> cases setting.applyTo? part <;> rfl

/-- An edit that takes a part to another place, whatever the part is, takes it there changed or unchanged. -/
theorem change_elsewhere {edit : Edit} (found : circuit.parts[position]? = some part)
    (same : other.parts[place]? = some part)
    (takes : ∀ changed, edit.apply ⟨circuit.parts.set position changed⟩ = .ok ⟨other.parts.set place changed⟩)
    (setting : Change) :
    (Edit.change place setting).apply other =
      (circuit.editedTwice (.change position setting) edit).mapError (.toldOf place) := by
  rw [Circuit.editedTwice, apply, apply, changed_elsewhere found same]
  cases changed circuit position setting with
  | error error => rfl
  | ok changed =>
    change _ = (edit.apply ⟨circuit.parts.set position changed⟩).mapError _
    rw [takes]
    rfl

end Edit

/-! ## Changes that do not meet -/

namespace Change

variable {setting second : Change} {part changed changed' : Part}

/-- Changes of different attributes make the same part in either order. -/
theorem applyTo?_comm (apart : setting.target ≠ second.target) (applied : setting.applyTo? part = some changed)
    (applied' : second.applyTo? part = some changed') :
    ∃ both, second.applyTo? changed = some both ∧ setting.applyTo? changed' = some both := by
  have alters := Alters.of_applyTo? applied
  have alters' := Alters.of_applyTo? applied'
  have carried := (applyTo?_eq_some_iff.mp applied).1
  have carried' := (applyTo?_eq_some_iff.mp applied').1
  obtain ⟨both, then'⟩ := Option.isSome_iff_exists.mp (isSome_applyTo?_iff.mpr (alters.kind_eq ▸ carried'))
  obtain ⟨again, then''⟩ := Option.isSome_iff_exists.mp (isSome_applyTo?_iff.mpr (alters'.kind_eq ▸ carried))
  have after := Alters.of_applyTo? then'
  have after' := Alters.of_applyTo? then''
  have same : both = again := by
    refine Part.ext_get? (by rw [after.kind_eq, after'.kind_eq, alters.kind_eq, alters'.kind_eq]) fun slot _ => ?_
    by_cases first : slot = setting.target
    · rw [first, after.others_eq _ apart, alters.target_eq, after'.target_eq]
    · by_cases last : slot = second.target
      · rw [last, after.target_eq, after'.others_eq _ (Ne.symm apart), alters'.target_eq]
      · rw [after.others_eq _ last, after'.others_eq _ first, alters.others_eq _ first, alters'.others_eq _ last]
  exact ⟨both, then', same ▸ then''⟩

end Change

namespace Edit

variable {circuit mid mid' : Circuit} {position place : Nat} {setting second : Change}

/-- A change succeeds with one list of parts, the one with its own part replaced. -/
theorem change_eq_ok_iff {after : Circuit} :
    (Edit.change position setting).apply circuit = .ok after ↔
      ∃ part changed, circuit.parts[position]? = some part ∧ setting.firstBlank? = none ∧
        setting.applyTo? part = some changed ∧ ⟨circuit.parts.set position changed⟩ = after := by
  rw [apply_eq_ok_iff]
  constructor
  · intro makes
    cases makes with
    | change found filled applied => exact ⟨_, _, found, filled, applied, rfl⟩
  · rintro ⟨part, changed, found, filled, applied, rfl⟩
    exact .change found filled applied

/-- Two changes that both succeed make the same circuit in either order, unless they set one attribute of one part. -/
theorem change_comm (apart : position ≠ place ∨ setting.target ≠ second.target)
    (success : (Edit.change position setting).apply circuit = .ok mid)
    (success' : (Edit.change place second).apply circuit = .ok mid') :
    ∃ both, (Edit.change place second).apply mid = .ok both ∧ (Edit.change position setting).apply mid' = .ok both := by
  obtain ⟨part, changed, found, filled, applied, rfl⟩ := change_eq_ok_iff.mp success
  obtain ⟨part', changed', found', filled', applied', rfl⟩ := change_eq_ok_iff.mp success'
  simp only [change_eq_ok_iff]
  by_cases here : position = place
  · subst here
    cases found.symm.trans found'
    obtain ⟨both, next, next'⟩ := Change.applyTo?_comm (apart.neg_resolve_left rfl) applied applied'
    have inside := (List.getElem?_eq_some_iff.mp found).1
    exact ⟨⟨circuit.parts.set position both⟩,
      ⟨changed, both, List.getElem?_set_self inside, filled', next, by rw [List.set_set]⟩,
      ⟨changed', both, List.getElem?_set_self inside, filled, next', by rw [List.set_set]⟩⟩
  · refine ⟨⟨(circuit.parts.set position changed).set place changed'⟩,
      ⟨part', changed', ?_, filled', applied', rfl⟩, ⟨part, changed, ?_, filled, applied, ?_⟩⟩
    · rwa [List.getElem?_set_ne here]
    · rwa [List.getElem?_set_ne (Ne.symm here)]
    · rw [List.set_comm _ _ here]

/-- Whether a change succeeds does not depend on a change before it. -/
theorem change_before (success : (Edit.change position setting).apply circuit = .ok mid)
    (success' : ∃ both, (Edit.change place second).apply mid = .ok both) :
    ∃ mid', (Edit.change place second).apply circuit = .ok mid' := by
  obtain ⟨part, changed, found, filled, applied, rfl⟩ := change_eq_ok_iff.mp success
  obtain ⟨both, success'⟩ := success'
  obtain ⟨part', changed', found', filled', applied', -⟩ := change_eq_ok_iff.mp success'
  by_cases here : position = place
  · subst here
    have inside := (List.getElem?_eq_some_iff.mp found).1
    rw [List.getElem?_set_self inside] at found'
    cases found'
    have carried := (Change.applyTo?_eq_some_iff.mp applied').1
    rw [Change.kind_of_applyTo? applied] at carried
    obtain ⟨result, made⟩ := Option.isSome_iff_exists.mp (Change.isSome_applyTo?_iff.mpr carried)
    exact ⟨_, change_eq_ok_iff.mpr ⟨part, result, found, filled', made, rfl⟩⟩
  · rw [List.getElem?_set_ne here] at found'
    exact ⟨_, change_eq_ok_iff.mpr ⟨part', changed', found', filled', applied', rfl⟩⟩

end Edit

/-! ## Circuits -/

namespace Circuit

open Edit

/-- Edits find the parts that they are meant for, wherever in the circuit these have gone. -/
structure FollowsParts (circuit : Circuit) : Prop where
  /-- A move permutes the positions, and a change of a part comes to the same on either side of it. -/
  moved : ∀ source target, source < circuit.size → target < circuit.size →
    ∃ arranged, (Edit.move source target).apply circuit = .ok arranged ∧ arranged.size = circuit.size ∧
      ∀ position, position < circuit.size →
        displaced source target position < circuit.size ∧
        displaced target source (displaced source target position) = position ∧
        arranged.parts[displaced source target position]? = circuit.parts[position]? ∧
        ∀ setting, (Edit.change (displaced source target position) setting).apply arranged =
          (circuit.editedTwice (.change position setting) (.move source target)).mapError
            (.toldOf (displaced source target position))
  /-- So it is with the removal of another part, behind which all positions are one less. -/
  removed : ∀ gone, gone < circuit.size →
    ∃ rest, (Edit.remove gone).apply circuit = .ok rest ∧ rest.size + 1 = circuit.size ∧
      ∀ position, position < circuit.size → position ≠ gone →
        rest.parts[lowered gone position]? = circuit.parts[position]? ∧
        ∀ setting, (Edit.change (lowered gone position) setting).apply rest =
          (circuit.editedTwice (.change position setting) (.remove gone)).mapError (.toldOf (lowered gone position))
  moved_back : ∀ source target, source < circuit.size → target < circuit.size →
    circuit.editedTwice (.move source target) (.move target source) = .ok circuit
  added_removed : ∀ kind, ∃ larger, (Edit.add kind).apply circuit = .ok larger ∧ larger.size = circuit.size + 1 ∧
    (Edit.remove (larger.size - 1)).apply larger = .ok circuit
  /-- Changes of different parts or different attributes commute: whichever is the first, they end in the same circuit,
  and they succeed one after the other if each succeeds by itself. -/
  changes_commute : ∀ position place setting second, position ≠ place ∨ setting.target ≠ second.target →
    (∀ both, circuit.editedTwice (.change position setting) (.change place second) = .ok both ↔
      circuit.editedTwice (.change place second) (.change position setting) = .ok both) ∧
    ∀ mid mid', (Edit.change position setting).apply circuit = .ok mid →
      (Edit.change place second).apply circuit = .ok mid' →
        ∃ both, circuit.editedTwice (.change position setting) (.change place second) = .ok both

variable {circuit : Circuit}

/-- A change at the place that a part was moved to does what the change before the move does. -/
theorem change_moved {source target position : Nat} (inside : source < circuit.size) (inside' : target < circuit.size)
    (placed : position < circuit.size) (setting : Change) :
    (Edit.change (displaced source target position) setting).apply
        ⟨(circuit.parts.eraseIdx source).insertIdx target circuit.parts[source]⟩ =
      (circuit.editedTwice (.change position setting) (.move source target)).mapError
        (.toldOf (displaced source target position)) := by
  have stands := List.getElem?_eq_getElem placed
  have arrived : (Circuit.mk ((circuit.parts.eraseIdx source).insertIdx target circuit.parts[source])).parts[
      displaced source target position]? = some circuit.parts[position] :=
    (getElem?_displaced (List.getElem?_eq_getElem inside) inside' position).trans stands
  refine change_elsewhere stands arrived (fun changed => ?_) setting
  have own : source < (circuit.parts.set position changed).length := by rwa [List.length_set]
  have reached : target < (circuit.parts.set position changed).length := by rwa [List.length_set]
  rw [apply_eq_ok_iff.mpr (.move (List.getElem?_eq_getElem own) reached), set_displaced inside inside' own]

/-- A change behind a removal, at the lowered position, does what the change before it does. -/
theorem change_removed {gone position : Nat} (inside : gone < circuit.size) (placed : position < circuit.size)
    (kept : position ≠ gone) (setting : Change) :
    (Edit.change (lowered gone position) setting).apply ⟨circuit.parts.eraseIdx gone⟩ =
      (circuit.editedTwice (.change position setting) (.remove gone)).mapError (.toldOf (lowered gone position)) := by
  have stands := List.getElem?_eq_getElem placed
  refine change_elsewhere stands ((getElem?_lowered kept).trans stands) (fun changed => ?_) setting
  have reached : gone < (circuit.parts.set position changed).length := by rwa [List.length_set]
  rw [apply_eq_ok_iff.mpr (.remove reached), set_lowered kept]

/-- A part that is moved, and moved back, leaves the circuit as it was. -/
theorem move_back {source target : Nat} (inside : source < circuit.size) (inside' : target < circuit.size) :
    circuit.editedTwice (.move source target) (.move target source) = .ok circuit := by
  have found := List.getElem?_eq_getElem inside
  have makes := Makes.move found inside'
  have landed := ((relocates_iff found inside').mpr rfl).placed
  have room := Nat.lt_of_lt_of_eq inside makes.perm_of_move.length_eq.symm
  have back := apply_eq_ok_iff.mpr (Makes.move (landed.trans found) room)
  rw [List.eraseIdx_insertIdx_self, List.insertIdx_eraseIdx_getElem inside] at back
  exact editedTwice_eq_ok_iff.mpr ⟨_, apply_eq_ok_iff.mpr makes, back⟩

/-- Removing the part that was just added leaves the circuit as it was. -/
theorem remove_added (circuit : Circuit) (kind : Part.Kind) :
    (Edit.remove circuit.size).apply ⟨circuit.parts ++ [.fresh kind]⟩ = .ok circuit := by
  have last : circuit.size < (circuit.parts ++ [Part.fresh kind]).length := by
    rw [List.length_append]
    exact Nat.lt_succ_self _
  have gone : (circuit.parts ++ [Part.fresh kind]).eraseIdx circuit.size = circuit.parts := by
    rw [Circuit.size, List.eraseIdx_append_of_length_le (Nat.le_refl _), Nat.sub_self]
    exact List.append_nil _
  have back := apply_eq_ok_iff.mpr (Makes.remove last)
  rwa [gone] at back

/-- If two changes succeed one after the other, then in the other order too. -/
theorem editedTwice_comm {position place : Nat} {setting second : Change} {both : Circuit}
    (apart : position ≠ place ∨ setting.target ≠ second.target)
    (success : circuit.editedTwice (.change position setting) (.change place second) = .ok both) :
    circuit.editedTwice (.change place second) (.change position setting) = .ok both := by
  obtain ⟨mid, first, last⟩ := editedTwice_eq_ok_iff.mp success
  obtain ⟨mid', alone⟩ := change_before first ⟨both, last⟩
  obtain ⟨same, again, final⟩ := change_comm apart first alone
  cases last.symm.trans again
  exact editedTwice_eq_ok_iff.mpr ⟨mid', alone, final⟩

/-- Edits are addressed to parts and not to places: every circuit lets them follow the parts. -/
theorem edits_follow_parts (circuit : Circuit) : circuit.FollowsParts := by
  constructor
  case moved =>
    intro source target inside inside'
    have makes := Makes.move (List.getElem?_eq_getElem inside) inside'
    refine ⟨_, apply_eq_ok_iff.mpr makes, makes.perm_of_move.length_eq, fun position placed => ?_⟩
    exact ⟨displaced_lt inside inside' placed, displaced_displaced _ _ _,
      getElem?_displaced (List.getElem?_eq_getElem inside) inside' position, change_moved inside inside' placed⟩
  case removed =>
    intro gone inside
    refine ⟨_, apply_eq_ok_iff.mpr (.remove inside), List.length_eraseIdx_add_one inside, ?_⟩
    intro position placed kept
    exact ⟨getElem?_lowered kept, change_removed inside placed kept⟩
  case moved_back => exact fun _ _ inside inside' => move_back inside inside'
  case added_removed => exact fun kind => ⟨_, rfl, List.length_append, by
    rw [Circuit.size, List.length_append]
    exact circuit.remove_added kind⟩
  case changes_commute =>
    intro position place setting second apart
    refine ⟨fun both => ⟨editedTwice_comm apart, editedTwice_comm ?_⟩, fun mid mid' success success' => ?_⟩
    · exact apart.imp Ne.symm Ne.symm
    · obtain ⟨both, last, -⟩ := change_comm apart success success'
      exact ⟨both, editedTwice_eq_ok_iff.mpr ⟨mid, success, last⟩⟩

/-- The wait that gives way to the light is told of by its new position. -/
theorem edits_follow_parts_given_way :
    (Edit.change 2 .unbind).apply ⟨[.light none 0, .servo none 90, .wait 3]⟩ = .error (.notApplicable 2 .wait .pin) ∧
      ∃ arranged, (Edit.move 0 2).apply ⟨[.light none 0, .servo none 90, .wait 3]⟩ = .ok arranged ∧
        (Edit.change 1 .unbind).apply arranged = .error (.notApplicable 1 .wait .pin) := by
  obtain ⟨arranged, success, -, follows⟩ :=
    (edits_follow_parts ⟨[.light none 0, .servo none 90, .wait 3]⟩).moved 0 2 (by decide) (by decide)
  exact ⟨rfl, arranged, success, (follows 2 (by decide)).2.2.2 .unbind⟩

end Circuit

end Breadboard
