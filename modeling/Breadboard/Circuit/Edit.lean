import Breadboard.Circuit.Basic

/-! # Edits

An edit makes one change to a circuit: it adds, removes or moves a part, or sets one attribute of the part at a
position. Positions count from zero. `Edit.apply` gives the new circuit or the error, and `Edit.perform` adds
the notice; an edit that fails gives none.
-/

namespace Breadboard

/-- A change to one attribute of a part. -/
inductive Change where
  /-- Binds the single pin; a pin with a blank name unbinds it. -/
  | bind (pin : Pin)
  | unbind
  | coils (pins : List Pin)
  | value (number : Int64)
  | interval (number : Int64)
  | power (state : Power)
deriving DecidableEq, Repr

namespace Change

/-- The attribute that the change sets. -/
def target : Change → Part.Attribute
  | .bind _ | .unbind => .pin
  | .coils _ => .coils
  | .value _ => .value
  | .interval _ => .interval
  | .power _ => .power

/-- The changed part, unless its kind has no such attribute. -/
def applyTo? : Change → Part → Option Part
  | .bind pin, part => part.withPin? pin.bound?
  | .unbind, part => part.withPin? none
  | .coils pins, part => part.withCoils? pins
  | .value number, part => part.withValue? number
  | .interval number, part => part.withInterval? number
  | .power state, part => part.withPower? state

/-- The index of the first blank pin in a list of coil pins. -/
def firstBlank? : Change → Option Nat
  | .coils pins => pins.findIdx? Pin.isBlank
  | _ => none

end Change

inductive Edit where
  | add (kind : Part.Kind)
  | remove (position : Nat)
  /-- Takes the part at `source` out and puts it back so that it stands at `target`. -/
  | move (source target : Nat)
  | change (position : Nat) (setting : Change)
deriving DecidableEq, Repr

inductive EditError where
  | outOfBounds (position size : Nat)
  | notApplicable (position : Nat) (kind : Part.Kind) (target : Part.Attribute)
  | blankCoil (position index : Nat)
deriving DecidableEq, Repr

def EditError.message : EditError → String
  | .outOfBounds position size => s!"Position {position} is out of bounds for a circuit of {size} components"
  | .notApplicable position kind target => s!"{kind} at position {position} has no '{target}' attribute"
  | .blankCoil position index => s!"Pin list for position {position} has a blank entry at index {index}"

namespace Circuit

def partAt (circuit : Circuit) (position : Nat) : Except EditError Part :=
  match circuit.parts[position]? with
  | some part => .ok part
  | none => .error (.outOfBounds position circuit.size)

/-- A part is handed over exactly when the position has one, and it is that one. -/
theorem partAt_eq_ok_iff {circuit : Circuit} {position : Nat} {part : Part} :
    circuit.partAt position = .ok part ↔ circuit.parts[position]? = some part := by
  unfold partAt
  split <;> simp_all

/-- The one error of asking for a part is a position behind the last one. -/
theorem partAt_eq_error_iff {circuit : Circuit} {position : Nat} {error : EditError} :
    circuit.partAt position = .error error ↔
      circuit.size ≤ position ∧ error = .outOfBounds position circuit.size := by
  unfold partAt
  split
  next found =>
    have := (List.getElem?_eq_some_iff.mp found).1
    simp only [reduceCtorEq, false_iff, not_and]
    intro outside
    exact absurd this (Nat.not_lt.mpr outside)
  next missing =>
    have := List.getElem?_eq_none_iff.mp missing
    simp only [Except.error.injEq, size]
    grind

end Circuit

namespace Edit

/-- The part at a position with one attribute changed. -/
def changed (circuit : Circuit) (position : Nat) (change : Change) : Except EditError Part := do
  let part ← circuit.partAt position
  match change.firstBlank?, change.applyTo? part with
  | some index, _ => .error (.blankCoil position index)
  | none, some changed => .ok changed
  | none, none => .error (.notApplicable position part.kind change.target)

def apply (circuit : Circuit) : Edit → Except EditError Circuit
  | .add kind => .ok ⟨circuit.parts ++ [.fresh kind]⟩
  | .remove position => do
    let _ ← circuit.partAt position
    return ⟨circuit.parts.eraseIdx position⟩
  | .move source target => do
    let part ← circuit.partAt source
    let _ ← circuit.partAt target
    return ⟨(circuit.parts.eraseIdx source).insertIdx target part⟩
  | .change position setting => do
    let part ← changed circuit position setting
    return ⟨circuit.parts.set position part⟩

/-- What is told about an edit of `circuit` that succeeds. -/
def notices (circuit : Circuit) : Edit → List Notice
  | .add kind => [.added kind circuit.size]
  | .remove position => circuit.parts[position]?.toList.map fun part => .removed part.kind position
  | .move source target => circuit.parts[source]?.toList.map fun part => .moved part.kind source target
  | .change position setting =>
    circuit.parts[position]?.toList.map fun part => .changed setting.target part.kind position

def perform (edit : Edit) (circuit : Circuit) : Noted (Except EditError Circuit) :=
  match edit.apply circuit with
  | .ok after => ⟨.ok after, edit.notices circuit⟩
  | .error error => ⟨.error error, []⟩

end Edit

end Breadboard
