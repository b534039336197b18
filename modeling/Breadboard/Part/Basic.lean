import Breadboard.Part.Kind
import Breadboard.Part.Power
import Breadboard.Pin

/-! # Parts

One placed part of a circuit. Each kind carries only the attributes that it uses: most are bound to one pin or
none, a stepper to a list of coil pins, a wait to nothing. Numbers are 64-bit integers and are kept as given,
whatever range would make sense for the hardware.

The functions `withPin?` to `withPower?` set one attribute and answer `none` for a kind that does not have it.
-/

namespace Breadboard

inductive Part where
  /-- Lit when `level` is not zero. -/
  | light (pin : Option Pin) (level : Int64)
  /-- Reads low while it is pressed. -/
  | button (pin : Option Pin)
  /-- Turns to an angle in degrees. -/
  | servo (pin : Option Pin) (angle : Int64)
  /-- Advances by `steps` in each pass of the loop, driven through its coils in wiring order. -/
  | stepper (coils : List Pin) (steps : Int64)
  | wait (milliseconds : Int64)
  /-- On for `interval` milliseconds, then off for as long. -/
  | blinker (pin : Option Pin) (interval : Int64)
  | power (pin : Option Pin) (state : Power)
deriving DecidableEq, Repr

namespace Part

/-- What can be set on a placed part. -/
inductive Attribute where
  | pin
  | coils
  | value
  | interval
  | power
deriving DecidableEq, Repr

instance : ToString Attribute where
  toString
    | .pin => "pin"
    | .coils => "pins"
    | .value => "value"
    | .interval => "interval"
    | .power => "state"

def kind : Part → Kind
  | .light .. => .light
  | .button .. => .button
  | .servo .. => .servo
  | .stepper .. => .stepper
  | .wait .. => .wait
  | .blinker .. => .blinker
  | .power .. => .power

/-- A part as it is placed first: unbound, with the attributes that its kind starts from. -/
def fresh : Kind → Part
  | .light => .light none 0
  | .button => .button none
  | .servo => .servo none 90
  | .stepper => .stepper [] 200
  | .wait => .wait 0
  | .blinker => .blinker none 1000
  | .power => .power none .on

/-- The pin of a part that is bound to a single one. -/
def pin? : Part → Option Pin
  | .light pin _ | .button pin | .servo pin _ | .blinker pin _ | .power pin _ => pin
  | .stepper .. | .wait _ => none

/-- Every pin that a part refers to, in wiring order. -/
def pins : Part → List Pin
  | .stepper coils _ => coils
  | part => part.pin?.toList

/-- The pins of the part are not free for others. Only power controllers share. -/
def claimsPins (part : Part) : Bool :=
  part.kind ≠ .power

/-- Binds or unbinds the single pin. -/
def withPin? (pin : Option Pin) : Part → Option Part
  | .light _ level => some (.light pin level)
  | .button _ => some (.button pin)
  | .servo _ angle => some (.servo pin angle)
  | .blinker _ interval => some (.blinker pin interval)
  | .power _ state => some (.power pin state)
  | .stepper .. | .wait _ => none

def withCoils? (coils : List Pin) : Part → Option Part
  | .stepper _ steps => some (.stepper coils steps)
  | _ => none

/-- Sets the level, the angle, the steps or the milliseconds. -/
def withValue? (value : Int64) : Part → Option Part
  | .light pin _ => some (.light pin value)
  | .servo pin _ => some (.servo pin value)
  | .stepper coils _ => some (.stepper coils value)
  | .wait _ => some (.wait value)
  | .button .. | .blinker .. | .power .. => none

def withInterval? (interval : Int64) : Part → Option Part
  | .blinker pin _ => some (.blinker pin interval)
  | _ => none

def withPower? (state : Power) : Part → Option Part
  | .power pin _ => some (.power pin state)
  | _ => none

@[simp] theorem kind_fresh (kind : Kind) : (fresh kind).kind = kind := by
  cases kind <;> rfl

/-- No pin is bound in a part that was just added. -/
@[simp] theorem pins_fresh (kind : Kind) : (fresh kind).pins = [] := by
  cases kind <;> rfl

end Part

end Breadboard
