import Breadboard.Program.OfCircuit
import Breadboard.Text.Numeral

/-! # The text of a program

A program is written as source text in three sections: declarations, `setup` and `loop`. A style says how far
statements are indented and whether each carries a note for human readers. The notes are the only difference
that `Style.annotate` makes.
-/

namespace Breadboard

structure Style where
  annotate : Bool
  indent : String
deriving DecidableEq, Repr

namespace Style

/-- Notes, and an indentation of two spaces. -/
def standard : Style := ⟨true, "  "⟩

/-- No notes, and an indentation of two spaces. -/
def plain : Style := ⟨false, "  "⟩

/-- One indented statement, with its note if notes are wanted. -/
def line (style : Style) (statement note : String) : String :=
  style.indent ++ statement ++ if style.annotate then " // " ++ note else ""

/-- A line that is nothing but a note. -/
def noteLine (style : Style) (indent note : String) : List String :=
  if style.annotate then [indent ++ "// " ++ note] else []

end Style

/-- The headers of the motor libraries, included whether they are used or not. -/
def libraryIncludes : List String :=
  ["#include <Servo.h>", "#include <Stepper.h>"]

/-- The steps of a whole turn, the same for every stepper. -/
def stepsPerTurn : Nat := 200

/-- The speed of every stepper, in turns per minute. -/
def turnsPerMinute : Nat := 60

def Declaration.text : Declaration → String
  | .servo name => "Servo " ++ name ++ ";"
  | .stepper name coils =>
    "Stepper " ++ name ++ "(" ++ stepsPerTurn.repr ++ ", " ++
      ", ".intercalate (coils.pins.map Pin.name) ++ ");"

def SetupStep.line (style : Style) : SetupStep → String
  | .configure pin mode kind =>
    style.line ("pinMode(" ++ pin.name ++ ", " ++ toString mode ++ ");") ("Setup " ++ kind.name ++ " pin")
  | .attach name pin =>
    style.line (name ++ ".attach(" ++ pin.name ++ ");") ("Attach " ++ Part.Kind.servo.name ++ " to pin")
  | .setSpeed name =>
    style.line (name ++ ".setSpeed(" ++ turnsPerMinute.repr ++ ");") ("Set " ++ Part.Kind.stepper.name ++ " speed")

/-- The statement that drives a pin to a level. -/
def writeStatement (pin : Pin) (level : String) : String :=
  "digitalWrite(" ++ pin.name ++ ", " ++ level ++ ");"

def delayStatement (milliseconds : Int64) : String :=
  "delay(" ++ Text.Numeral.written milliseconds ++ ");"

def Command.lines (style : Style) : Command → List String
  | .light pin lit =>
    [style.line (writeStatement pin (if lit then "HIGH" else "LOW"))
      ("Turn " ++ Part.Kind.light.name ++ (if lit then " on" else " off"))]
  | .poll pin =>
    [style.indent ++ "if (digitalRead(" ++ pin.name ++ ") == LOW) \x7b"] ++
      style.noteLine (style.indent ++ style.indent) (Part.Kind.button.name ++ " pressed") ++
      style.noteLine (style.indent ++ style.indent) "Add your magic code here" ++
      [style.indent ++ "\x7d"]
  | .turn name angle =>
    [style.line (name ++ ".write(" ++ Text.Numeral.written angle ++ ");")
      ("Move " ++ Part.Kind.servo.name ++ " to " ++ Text.Numeral.written angle ++ " degrees")]
  | .advance name steps =>
    [style.line (name ++ ".step(" ++ Text.Numeral.written steps ++ ");")
      ("Move " ++ Part.Kind.stepper.name ++ " by " ++ Text.Numeral.written steps ++ " steps")]
  | .wait milliseconds =>
    [style.line (delayStatement milliseconds)
      ("Wait for " ++ Text.Numeral.written milliseconds ++ " milliseconds")]
  | .blink pin interval =>
    let pause := style.line (delayStatement interval) ("Wait for " ++ Text.Numeral.written interval ++ " ms")
    [style.line (writeStatement pin "HIGH") ("Turn " ++ Part.Kind.blinker.name ++ " on"), pause,
      style.line (writeStatement pin "LOW") ("Turn " ++ Part.Kind.blinker.name ++ " off"), pause]
  | .power pin state =>
    [style.line (writeStatement pin state.level) ("Set " ++ Part.Kind.power.name ++ " to " ++ state.level)]

/-- The lines of a program, section by section. -/
structure Sections where
  declarations : List String
  setup : List String
  loop : List String
deriving DecidableEq, Repr

def Program.sections (style : Style) (program : Program) : Sections :=
  ⟨program.declarations.map Declaration.text, program.setup.map (SetupStep.line style),
    program.loop.flatMap (Command.lines style)⟩

namespace Sections

/-- A function of the program with its body, which opens with a note. -/
def function (style : Style) (name note : String) (body : List String) : List String :=
  ["void " ++ name ++ "() \x7b"] ++ style.noteLine style.indent note ++ body ++ ["\x7d"]

/-- All lines of the source text. An empty line stands between its parts. -/
def lines (style : Style) (sections : Sections) : List String :=
  libraryIncludes ++ [""] ++
    (sections.declarations ++ if sections.declarations.isEmpty then [] else [""]) ++
    function style "setup" "Setup code for initializing components" sections.setup ++ [""] ++
    function style "loop" "The main loop runs over and over again" sections.loop

/-- The source text, in which every line ends with a newline. -/
def text (style : Style) (sections : Sections) : String :=
  String.join ((sections.lines style).map fun line => line ++ "\n")

end Sections

namespace Circuit

/-- The sections of the source text, with a notice for each part that is skipped. -/
def sections (style : Style) (circuit : Circuit) : Noted Sections :=
  ⟨circuit.program.sections style, circuit.skipNotices⟩

/-- The source text, with a notice of the size of each section behind those of the skipped parts. -/
def compile (style : Style) (circuit : Circuit) : Noted String := do
  let sections ← circuit.sections style
  Noted.note (.compiled circuit.size sections.declarations.length sections.setup.length sections.loop.length)
  return sections.text style

end Circuit

end Breadboard
