import Breadboard.Part.Kind
import Breadboard.Part.Power
import Breadboard.Script.Error
import Breadboard.Script.Parameters

/-! # Entries

An entry is one line of a sketch that places a part: the kind, the pins in the order written, at most one bare
number, at most one bare state word, and named parameters. `addWord`, `addNumber` and `addParameter` take up one
item of the line each.
-/

namespace Breadboard.Script

structure Entry where
  kind : Part.Kind
  pins : List Pin
  value : Option Int64
  /-- The word for the state of a power controller, as written. -/
  state : Option String
  parameters : Parameters
  line : Nat
deriving DecidableEq, Repr

namespace Entry

/-- The entry of a line that holds nothing but a keyword. -/
def bare (kind : Part.Kind) (line : Nat) : Entry :=
  ⟨kind, [], none, none, .empty, line⟩

/-- A bare word is the state of a power controller that has none yet, if it names a state, and else a pin. -/
def addWord (entry : Entry) (text : String) : Entry :=
  if entry.kind = .power ∧ entry.state = none ∧ (Power.ofWord? text).isSome then
    { entry with state := some text }
  else { entry with pins := entry.pins ++ [⟨text⟩] }

def addNumber (entry : Entry) (text : String) : Except GrammarFault Entry :=
  if entry.value.isSome then .error (.secondValue text)
  else
    match Text.Numeral.read? text with
    | some value => .ok { entry with value := some value }
    | none => .error (.numberOutOfRange text)

def addParameter (entry : Entry) (key : String) (argument : Argument) : Except GrammarFault Entry :=
  if entry.parameters.contains key then .error (.parameterTwice key)
  else .ok { entry with parameters := entry.parameters.insert key argument }

end Entry

end Breadboard.Script
