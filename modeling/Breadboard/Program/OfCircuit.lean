import Breadboard.Circuit.Basic
import Breadboard.Program.Statement

/-! # Programs of circuits

The tasks of a circuit are taken in order. Each adds its command to the loop, and whatever it needs that no task
before it has asked for: the declaration and the setup of a motor, or the mode of a pin.
-/

namespace Breadboard

namespace Task

/-- A command on a pin, which is configured unless some task before has done it. -/
def contributeOnPin (wiring : Wiring) (pin : Pin) (mode : PinMode) (kind : Part.Kind) (command : Command) :
    Program × Wiring :=
  let (isFirst, wiring) := wiring.configure pin
  (⟨[], if isFirst then [.configure pin mode kind] else [], [command]⟩, wiring)

/-- What a task adds to the program, and the wiring afterwards. -/
def contribute (wiring : Wiring) : Task → Program × Wiring
  | .light pin lit => contributeOnPin wiring pin .output .light (.light pin lit)
  | .poll pin => contributeOnPin wiring pin .inputPullup .button (.poll pin)
  | .turn pin angle =>
    let actuator := wiring.actuators.assign pin
    (⟨if actuator.isNew then [.servo actuator.name] else [],
      if actuator.isNew then [.attach actuator.name pin] else [],
      [.turn actuator.name angle]⟩,
      { wiring with actuators := actuator.after })
  | .advance coils steps =>
    let motor := wiring.stepMotors.assign coils
    (⟨if motor.isNew then [.stepper motor.name coils] else [],
      if motor.isNew then [.setSpeed motor.name] else [],
      [.advance motor.name steps]⟩,
      { wiring with stepMotors := motor.after })
  | .wait milliseconds => (⟨[], [], [.wait milliseconds]⟩, wiring)
  | .blink pin interval => contributeOnPin wiring pin .output .blinker (.blink pin interval)
  | .power pin state => contributeOnPin wiring pin .output .power (.power pin state)

end Task

/-- The program of a list of tasks, given the wiring before it. -/
def Program.ofTasks (wiring : Wiring) : List Task → Program
  | [] => .empty
  | task :: rest => (task.contribute wiring).1 ++ ofTasks (task.contribute wiring).2 rest

namespace Circuit

def tasks (circuit : Circuit) : List Task :=
  circuit.parts.filterMap Part.task?

def program (circuit : Circuit) : Program :=
  .ofTasks .empty circuit.tasks

/-- What is told about a part that has no task. -/
def skipNotice? (position : Nat) (part : Part) : Option Notice :=
  match part.task?, part with
  | some _, _ => none
  | none, .stepper coils _ => some (.skippedStepper position coils.length)
  | none, part => some (.skippedUnbound part.kind position)

def skipNotices (circuit : Circuit) : List Notice :=
  circuit.parts.zipIdx.filterMap fun (part, position) => skipNotice? position part

end Circuit

end Breadboard
