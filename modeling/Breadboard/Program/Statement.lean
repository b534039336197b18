import Breadboard.Part.Basic
import Breadboard.Program.Wiring

/-! # Statements of a program

A program has declarations, a setup that runs once, and a loop that runs over and over. A `Task` is what a part
contributes to the loop before its motor has a name; a `Command` is the same with the name. Parts that are not
wired up yet have no task, and a program says nothing of them.
-/

namespace Breadboard

inductive Task where
  | light (pin : Pin) (lit : Bool)
  | poll (pin : Pin)
  | turn (pin : Pin) (angle : Int64)
  | advance (coils : Coils) (steps : Int64)
  | wait (milliseconds : Int64)
  | blink (pin : Pin) (interval : Int64)
  | power (pin : Pin) (state : Power)
deriving DecidableEq, Repr

/-- What a part does in the loop. A part with a single pin needs it bound, a stepper needs all four coils. -/
def Part.task? : Part → Option Task
  | .light pin level => pin.map fun pin => .light pin (level ≠ 0)
  | .button pin => pin.map .poll
  | .servo pin angle => pin.map fun pin => .turn pin angle
  | .stepper coils steps => (Coils.ofPins? coils).map fun coils => .advance coils steps
  | .wait milliseconds => some (.wait milliseconds)
  | .blinker pin interval => pin.map fun pin => .blink pin interval
  | .power pin state => pin.map fun pin => .power pin state

inductive PinMode where
  | output
  | inputPullup
deriving DecidableEq, Repr

instance : ToString PinMode where
  toString
    | .output => "OUTPUT"
    | .inputPullup => "INPUT_PULLUP"

inductive Declaration where
  | servo (name : String)
  | stepper (name : String) (coils : Coils)
deriving DecidableEq, Repr

inductive SetupStep where
  /-- Configures a pin for the kind of part that uses it first. -/
  | configure (pin : Pin) (mode : PinMode) (kind : Part.Kind)
  | attach (name : String) (pin : Pin)
  | setSpeed (name : String)
deriving DecidableEq, Repr

inductive Command where
  | light (pin : Pin) (lit : Bool)
  | poll (pin : Pin)
  | turn (name : String) (angle : Int64)
  | advance (name : String) (steps : Int64)
  | wait (milliseconds : Int64)
  | blink (pin : Pin) (interval : Int64)
  | power (pin : Pin) (state : Power)
deriving DecidableEq, Repr

structure Program where
  declarations : List Declaration
  setup : List SetupStep
  loop : List Command
deriving DecidableEq, Repr

namespace Program

def empty : Program := ⟨[], [], []⟩

/-- One program after the other, section by section. -/
def append (first second : Program) : Program :=
  ⟨first.declarations ++ second.declarations, first.setup ++ second.setup, first.loop ++ second.loop⟩

instance : Append Program := ⟨append⟩

@[simp] theorem declarations_append (first second : Program) :
    (first ++ second).declarations = first.declarations ++ second.declarations := rfl

@[simp] theorem setup_append (first second : Program) :
    (first ++ second).setup = first.setup ++ second.setup := rfl

@[simp] theorem loop_append (first second : Program) : (first ++ second).loop = first.loop ++ second.loop := rfl

end Program

end Breadboard
