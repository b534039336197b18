import Breadboard.Circuit.Basic

/-! # Claimed and free pins

The pins that parts of a circuit claim, and the pins of a space that are left for another part. Power
controllers claim nothing and may be bound to any pin.
-/

namespace Breadboard.Circuit

/-- The claimed pins in ascending order, each once. -/
def claimedPins (circuit : Circuit) : List Pin :=
  Pin.listing ((circuit.parts.filter Part.claimsPins).flatMap Part.pins)

/-- The pins of a space that a part of the kind may be bound to, in the order of the space. -/
def freePins (circuit : Circuit) (kind : Part.Kind) (space : List Pin) : List Pin :=
  if kind = .power then space
  else
    let claimed := circuit.claimedPins
    space.filter fun pin => pin ∉ claimed

/-- A pin is claimed exactly when a part of a kind that claims its pins has it. -/
theorem mem_claimedPins {circuit : Circuit} {pin : Pin} :
    pin ∈ circuit.claimedPins ↔ ∃ part ∈ circuit.parts, part.claimsPins ∧ pin ∈ part.pins := by
  simp [claimedPins, and_assoc]

end Breadboard.Circuit
