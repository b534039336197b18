import Breadboard.Pin

/-! # Names for shared hardware

A motor is declared once however many parts drive it, and a pin is configured once. `Numbering` gives each
binding a name made of a stem and a number that counts bindings from one in the order of their first use;
`Wiring` holds the numberings of one program and its configured pins. What `assign` does to the bindings that are known
is said by `keys_assign`.
-/

namespace Breadboard

/-- The four pins that drive a stepper, in wiring order. -/
structure Coils where
  first : Pin
  second : Pin
  third : Pin
  fourth : Pin
deriving DecidableEq, Repr

namespace Coils

/-- The coils of a complete binding, which has four pins and no more. -/
def ofPins? : List Pin → Option Coils
  | [first, second, third, fourth] => some ⟨first, second, third, fourth⟩
  | _ => none

def pins (coils : Coils) : List Pin :=
  [coils.first, coils.second, coils.third, coils.fourth]

/-- Four pins make coils, in the order in which they stand. -/
theorem ofPins?_eq_some_iff {pins : List Pin} {coils : Coils} : ofPins? pins = some coils ↔ pins = coils.pins := by
  constructor
  · intro complete
    unfold ofPins? at complete
    split at complete
    · cases complete
      rfl
    · cases complete
  · rintro rfl
    rfl

end Coils

/-- The bindings that have a name, each once, in the order in which they got it. -/
structure Numbering (κ : Type) where
  stem : String
  keys : List κ
  nodup : keys.Nodup
deriving DecidableEq, Repr

/-- A name that was asked for: whether it is new, and the numbering that knows it. -/
structure Assigned (κ : Type) where
  name : String
  isNew : Bool
  after : Numbering κ

namespace Numbering

variable {κ : Type}

def empty (stem : String) : Numbering κ := ⟨stem, [], List.nodup_nil⟩

def size (numbering : Numbering κ) : Nat :=
  numbering.keys.length

def isEmpty (numbering : Numbering κ) : Bool :=
  numbering.keys.isEmpty

/-- Gives the next number to a binding that has none. -/
def append (numbering : Numbering κ) (key : κ) (isNew : key ∉ numbering.keys) : Numbering κ where
  stem := numbering.stem
  keys := numbering.keys ++ [key]
  nodup := List.nodup_append.mpr ⟨numbering.nodup, by simp, by grind⟩

variable [DecidableEq κ]

/-- The number of a binding. An unknown one gets the number behind the last. -/
def number (numbering : Numbering κ) (key : κ) : Nat :=
  numbering.keys.idxOf key + 1

/-- The name of a binding, which is numbered now if it is unknown. -/
def assign (numbering : Numbering κ) (key : κ) : Assigned κ :=
  ⟨numbering.stem ++ (numbering.number key).repr, key ∉ numbering.keys,
    if known : key ∈ numbering.keys then numbering else numbering.append key known⟩

/-- Asking for a name leaves the stem of the names as it is. -/
@[simp] theorem stem_assign (numbering : Numbering κ) (key : κ) :
    (numbering.assign key).after.stem = numbering.stem := by
  simp only [assign]
  split <;> rfl

/-- Asking for a name adds the key behind the others, if it is new. -/
@[simp] theorem keys_assign (numbering : Numbering κ) (key : κ) :
    (numbering.assign key).after.keys =
      if key ∈ numbering.keys then numbering.keys else numbering.keys ++ [key] := by
  simp only [assign]
  split <;> rfl

end Numbering

/-- The names and configured pins of one program. -/
structure Wiring where
  actuators : Numbering Pin
  stepMotors : Numbering Coils
  configured : List Pin
deriving DecidableEq, Repr

namespace Wiring

def actuatorStem : String := "actuator"

def stepMotorStem : String := "stepMotor"

/-- What the two stems begin is told apart by its first letter. -/
theorem actuatorStem_append_ne (ending other : String) : actuatorStem ++ ending ≠ stepMotorStem ++ other := by
  intro same
  have chars := congrArg String.toList same
  simp [actuatorStem, stepMotorStem] at chars

def empty : Wiring :=
  ⟨.empty actuatorStem, .empty stepMotorStem, []⟩

/-- Whether a pin is still to be configured; afterwards it is not. -/
def configure (wiring : Wiring) (pin : Pin) : Bool × Wiring :=
  if pin ∈ wiring.configured then (false, wiring)
  else (true, { wiring with configured := wiring.configured ++ [pin] })

end Wiring

end Breadboard
