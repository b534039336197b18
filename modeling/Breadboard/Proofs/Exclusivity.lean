import Breadboard.Circuit.Claims
import Breadboard.Proofs.PrintedLines
import Breadboard.Proofs.Session

/-! # Exclusive pins

A circuit is exclusive when no two of its parts claim the same pin. Whoever binds parts to free pins only, and power
controllers to any, keeps it so: an edit rewires one part at most, and the pins that this part gets are its own or
free. The order of the parts plays no role, nor does it for the modes of the pins, since a pin of an exclusive circuit
has one part on it beside power controllers. The lines of `setup` that set the mode of a pin are known by the pin, so
they come to the same as its statements.

Main statement: `exclusive_of_selected`.
-/

namespace Breadboard

/-- Two parts do not both claim some pin. -/
def Part.Apart (part other : Part) : Prop :=
  part.claimsPins = true → other.claimsPins = true → ∀ pin ∈ part.pins, pin ∉ other.pins

private theorem Part.Apart.symm {part other : Part} (apart : part.Apart other) : other.Apart part :=
  fun claims others pin member shared => apart others claims pin shared member

private theorem Change.claimsPins_of_applyTo? {setting : Change} {part changed : Part}
    (applied : setting.applyTo? part = some changed) : changed.claimsPins = part.claimsPins := by
  simp only [Part.claimsPins, kind_of_applyTo? applied]

namespace Circuit

/-- No pin is claimed at two positions. -/
def Exclusive (circuit : Circuit) : Prop :=
  ∀ (position other : Nat) (part second : Part), position ≠ other → circuit.parts[position]? = some part →
    circuit.parts[other]? = some second → part.Apart second

/-- A circuit is exclusive exactly when its parts are pairwise apart. -/
theorem exclusive_iff {circuit : Circuit} : circuit.Exclusive ↔ circuit.parts.Pairwise Part.Apart := by
  rw [List.pairwise_iff_getElem]
  constructor
  · intro exclusive position other inside inside' less
    exact exclusive position other _ _ (by omega) (List.getElem?_eq_getElem inside) (List.getElem?_eq_getElem inside')
  · intro pairwise position other part second differ found found'
    obtain ⟨inside, rfl⟩ := List.getElem?_eq_some_iff.mp found
    obtain ⟨inside', rfl⟩ := List.getElem?_eq_some_iff.mp found'
    rcases Nat.lt_or_gt_of_ne differ with less | greater
    · exact pairwise position other inside inside' less
    · exact (pairwise other position inside' inside greater).symm

/-- Pins stay exclusive in every order of the parts. -/
theorem Exclusive.perm {circuit after : Circuit} (exclusive : circuit.Exclusive)
    (arranged : after.parts.Perm circuit.parts) : after.Exclusive :=
  exclusive_iff.mpr ((exclusive_iff.mp exclusive).perm arranged.symm Part.Apart.symm)

end Circuit

/-! ## Selecting free pins -/

/-- The edit binds a part to free pins of a space only, if it binds one at all. A power controller takes any pin, and a
stepper may keep pins that it has. -/
def Edit.Selects (circuit : Circuit) (space : List Pin) : Edit → Prop
  | .change position (.bind pin) => ∀ part, circuit.parts[position]? = some part →
      part.kind = .power ∨ pin.isBlank = true ∨ pin ∈ circuit.freePins part.kind space
  | .change position (.coils pins) => ∀ part, circuit.parts[position]? = some part →
      ∀ pin ∈ pins, pin ∈ circuit.freePins .stepper space ∨ pin ∈ part.pins
  | _ => True

namespace Circuit

variable {circuit after : Circuit} {space : List Pin}

private theorem not_mem_claimedPins_of_mem_freePins {kind : Part.Kind} {pin : Pin} (exclusive : kind ≠ .power)
    (free : pin ∈ circuit.freePins kind space) : pin ∉ circuit.claimedPins := by
  rw [freePins, if_neg exclusive] at free
  simpa using (List.mem_filter.mp free).2

/-- Whatever pin a claiming part gets, it has it already or no part claims it. -/
theorem kept_or_free {position : Nat} {setting : Change} {part : Part}
    (selects : (Edit.change position setting).Selects circuit space) (found : circuit.parts[position]? = some part)
    (claims : part.claimsPins = true) {pin : Pin} (wired : pin ∈ setting.wires part.pins) :
    pin ∈ part.pins ∨ pin ∉ circuit.claimedPins := by
  have exclusive : part.kind ≠ .power := of_decide_eq_true claims
  cases setting with
  | bind name =>
    rcases selects part found with power | blank | free
    · exact absurd power exclusive
    · simp [Change.wires, Pin.bound?, blank] at wired
    · have same : pin = name := by
        simp only [Change.wires, Pin.bound?] at wired
        split at wired <;> simp_all
      subst same
      exact .inr (not_mem_claimedPins_of_mem_freePins exclusive free)
  | unbind => cases wired
  | coils pins =>
    rcases selects part found pin wired with free | kept
    · exact .inr (not_mem_claimedPins_of_mem_freePins (by decide) free)
    · exact .inl kept
  | value number => exact .inl wired
  | interval number => exact .inl wired
  | power state => exact .inl wired

/-- One edit that selects free pins keeps the pins exclusive. -/
theorem Exclusive.makes {edit : Edit} (exclusive : circuit.Exclusive) (selects : edit.Selects circuit space)
    (makes : edit.Makes circuit after) : after.Exclusive := by
  have pairwise := exclusive_iff.mp exclusive
  cases makes with
  | add kind =>
    refine exclusive_iff.mpr (List.pairwise_append.mpr ⟨pairwise, List.pairwise_singleton _ _, ?_⟩)
    intro part _ fresh last _ _ pin _
    simp [List.mem_singleton.mp last]
  | remove inside => exact exclusive_iff.mpr (pairwise.sublist (List.eraseIdx_sublist _ _))
  | move found inside => exact exclusive.perm (Edit.Makes.move found inside).perm_of_move
  | @change position setting part changed found filled applied =>
    obtain ⟨inside, rfl⟩ := List.getElem?_eq_some_iff.mp found
    -- Apartness is symmetric, so the changed part may be put in front of the others.
    have around := pairwise.perm (List.getElem_cons_eraseIdx_perm inside).symm Part.Apart.symm
    obtain ⟨others, rest⟩ := List.pairwise_cons.mp around
    refine exclusive_iff.mpr (List.Pairwise.perm (l := changed :: circuit.parts.eraseIdx position) ?_
      (List.set_perm_cons_eraseIdx inside changed).symm Part.Apart.symm)
    refine List.pairwise_cons.mpr ⟨fun other member claims otherClaims pin wired shared => ?_, rest⟩
    rw [Change.claimsPins_of_applyTo? applied] at claims
    rw [Change.pins_of_applyTo? _ applied] at wired
    rcases kept_or_free selects found claims wired with kept | free
    · exact others other member claims otherClaims pin kept shared
    · exact free (mem_claimedPins.mpr ⟨other, List.mem_of_mem_eraseIdx member, otherClaims, shared⟩)

/-- A circuit that edits from the empty one come to, each of them selecting free pins of some space. -/
inductive Selected : Circuit → Prop where
  | empty : Selected .empty
  | edited {circuit : Circuit} (selected : Selected circuit) (edit : Edit) (space : List Pin)
      (selects : edit.Selects circuit space) : Selected (circuit.edited edit)

/-- Edits that select free pins, from the empty circuit on, make exclusive circuits. -/
theorem Selected.exclusive {circuit : Circuit} (selected : circuit.Selected) : circuit.Exclusive := by
  induction selected with
  | empty => exact exclusive_iff.mpr .nil
  | edited selected edit space selects ih => exact edited_induction ih fun _ makes => ih.makes selects makes

/-! ## Modes of exclusive pins -/

/-- A pin that no power controller is bound to has one user at most, and in every order of the parts it is
configured for that user. -/
def OwnModes (circuit : Circuit) : Prop :=
  ∀ pin, (∀ part ∈ circuit.parts, part.kind = .power → pin ∉ part.pins) →
    (circuit.usersOf pin).length ≤ 1 ∧
      ∀ arranged : Circuit, arranged.parts.Perm circuit.parts →
        arranged.program.setup.filter (fun step => step.configured? = some pin) =
          (circuit.usersOf pin).map (Part.configuring pin)

private theorem Exclusive.length_usersOf {pin : Pin} (exclusive : circuit.Exclusive)
    (unpowered : ∀ part ∈ circuit.parts, part.kind = .power → pin ∉ part.pins) :
    (circuit.usersOf pin).length ≤ 1 := by
  have apart : (circuit.usersOf pin).Pairwise Part.Apart := (exclusive_iff.mp exclusive).sublist List.filter_sublist
  have owns : ∀ part ∈ circuit.usersOf pin, part.claimsPins = true ∧ pin ∈ part.pins := by
    intro part member
    obtain ⟨placed, uses⟩ := mem_usersOf.mp member
    have bound : pin ∈ part.pins := by simp [Part.pins_of_digital uses]
    exact ⟨decide_eq_true fun power => unpowered part placed power bound, bound⟩
  rcases users : circuit.usersOf pin with _ | ⟨first, _ | ⟨second, rest⟩⟩
  · exact Nat.zero_le 1
  · exact Nat.le_refl 1
  · rw [users] at apart owns
    obtain ⟨claims, bound⟩ := owns first (by simp)
    obtain ⟨claims', bound'⟩ := owns second (by simp)
    exact absurd bound' ((List.pairwise_cons.mp apart).1 second (by simp) claims claims' pin bound)

/-- Where pins are exclusive, one that no power controller is bound to is configured for its one user. -/
theorem Exclusive.ownModes (exclusive : circuit.Exclusive) : circuit.OwnModes := by
  intro pin unpowered
  have single := exclusive.length_usersOf unpowered
  refine ⟨single, fun arranged order => ?_⟩
  have same : (arranged.usersOf pin).Perm (circuit.usersOf pin) := order.filter _
  rw [configuring_eq]
  rcases users : circuit.usersOf pin with _ | ⟨user, _ | ⟨second, rest⟩⟩
  · rw [users] at same
    rw [same.eq_nil]
    rfl
  · rw [users] at same
    rw [List.perm_singleton.mp same]
    rfl
  · simp [users] at single

/-- So it is with the lines of `setup`: those that set the mode of the pin are one line for its one user. -/
def OwnModeLines (circuit : Circuit) (style : Style) : Prop :=
  ∀ pin, (∀ part ∈ circuit.parts, part.kind = .power → pin ∉ part.pins) →
    (circuit.usersOf pin).length ≤ 1 ∧
      ∀ arranged : Circuit, arranged.parts.Perm circuit.parts →
        (arranged.sections style).value.setup.filter (fun line => line ∈ style.configuring pin) =
          (circuit.usersOf pin).map fun user => (user.configuring pin).line style

/-- The lines of `setup` set the modes that its statements set. -/
theorem OwnModes.lines (modes : circuit.OwnModes) (style : Style) : circuit.OwnModeLines style := by
  intro pin unpowered
  obtain ⟨single, own⟩ := modes pin unpowered
  refine ⟨single, fun arranged order => ?_⟩
  rw [filter_configuring, own arranged order, List.map_map]
  rfl

/-- Edits that select free pins keep pins exclusive, and a circuit made by such edits gives each pin without power
controllers the mode of its one user, in every order of the parts: in the statements of its program and in their
lines. -/
theorem exclusive_of_selected (style : Style) :
    (∀ (circuit after : Circuit) (space : List Pin) (edit : Edit), circuit.Exclusive → edit.Selects circuit space →
      edit.apply circuit = .ok after → after.Exclusive) ∧
    (∀ circuit : Circuit, circuit.Selected →
      circuit.Exclusive ∧ circuit.OwnModes ∧ circuit.OwnModeLines style) ∧
    ∀ circuit : Circuit, (circuit.sections style).value.setup = circuit.program.setup.map (SetupStep.line style) :=
  ⟨fun _ _ _ _ exclusive selects success => exclusive.makes selects (Edit.apply_eq_ok_iff.mp success),
    fun _ selected => ⟨selected.exclusive, selected.exclusive.ownModes, selected.exclusive.ownModes.lines style⟩,
    fun _ => rfl⟩

/-- A stepper may take the pin of a power controller, and the order does not change the mode of the button. -/
theorem exclusive_of_selected_shared_power :
    (Circuit.mk [.power (some ⟨"D1"⟩) .on, .stepper [⟨"D1"⟩, ⟨"D2"⟩, ⟨"D3"⟩, ⟨"D4"⟩] 200,
      .button (some ⟨"D0"⟩)]).Exclusive ∧
      (Circuit.mk [.button (some ⟨"D0"⟩), .power (some ⟨"D1"⟩) .on,
        .stepper [⟨"D1"⟩, ⟨"D2"⟩, ⟨"D3"⟩, ⟨"D4"⟩] 200]).program.setup.filter
          (fun step => step.configured? = some ⟨"D0"⟩) = [.configure ⟨"D0"⟩ .inputPullup .button] ∧
      ((Circuit.mk [.button (some ⟨"D0"⟩), .power (some ⟨"D1"⟩) .on,
        .stepper [⟨"D1"⟩, ⟨"D2"⟩, ⟨"D3"⟩, ⟨"D4"⟩] 200]).sections .standard).value.setup.filter
          (fun line => line ∈ Style.standard.configuring ⟨"D0"⟩) =
        ["  pinMode(D0, INPUT_PULLUP); // Setup Clicky Switch pin"] := by
  have button := (Selected.empty.edited (.add .button) [] trivial).edited (.change 0 (.bind ⟨"D0"⟩)) Pin.reference
    (by rintro part ⟨⟩; exact .inr (.inr (by decide)))
  have power := (button.edited (.add .power) [] trivial).edited (.change 1 (.bind ⟨"D1"⟩)) []
    (by rintro part ⟨⟩; exact .inl rfl)
  have stepper := (power.edited (.add .stepper) [] trivial).edited
    (.change 2 (.coils [⟨"D1"⟩, ⟨"D2"⟩, ⟨"D3"⟩, ⟨"D4"⟩])) Pin.reference
    (by rintro part ⟨⟩ pin member; exact .inl (by revert pin; decide))
  have moved : Selected ⟨[.power (some ⟨"D1"⟩) .on, .stepper [⟨"D1"⟩, ⟨"D2"⟩, ⟨"D3"⟩, ⟨"D4"⟩] 200,
    .button (some ⟨"D0"⟩)]⟩ := stepper.edited (.move 0 2) [] trivial
  obtain ⟨exclusive, modes, lines⟩ := (exclusive_of_selected .standard).2.1 _ moved
  exact ⟨exclusive, (modes ⟨"D0"⟩ (by decide)).2 _ (by decide), (lines ⟨"D0"⟩ (by decide)).2 _ (by decide)⟩

end Circuit

end Breadboard
