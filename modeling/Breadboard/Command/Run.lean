import Breadboard.Circuit.Claims
import Breadboard.Command.Failure
import Breadboard.Journal
import Breadboard.Program.Text
import Breadboard.Text.Lines

/-! # Running the command

The command reads a sketch file and prints its program, writes the program to a file, or prints a report of the
claimed and free pins. What it does with files is given to it as `Files`, so the same definition runs on the
files of the machine and on a directory in memory. How a log words its notices is given to it as well: the command
settles only which of them are logged.

`prepare` holds every decision between reading and writing: on a failure nothing is printed and no file is
touched.
-/

namespace Breadboard.Command

/-- What a run is asked for. -/
structure Options where
  input : String
  output : Option String
  annotate : Bool
  reportPins : Bool
  verbose : Bool
deriving DecidableEq, Repr

/-- The least level of the notices that are logged: warnings, and with `verbose` all but traces. -/
def Options.leastLogged (options : Options) : Level :=
  if options.verbose then .debug else .warn

/-- What a log writes of the notices at a level and above. -/
abbrev Logger := Level → List Notice → String

/-- How files are read and written. -/
structure Files (m : Type → Type) where
  read : String → m (Except FileFault ByteArray)
  write : String → String → m (Except FileFault Unit)

/-- What a run leaves: the exit code, the standard output and the standard error. -/
structure Outcome where
  code : Nat
  output : String
  errors : String
deriving DecidableEq, Repr

def Outcome.errorLines (outcome : Outcome) : List String :=
  Text.lines outcome.errors

/-- Where the result of a run goes. -/
inductive Delivery where
  | print (text : String)
  | write (path text : String)
deriving DecidableEq, Repr

def pinLine (label : String) (pins : List Pin) : String :=
  label ++ ": " ++ " ".intercalate (pins.map Pin.name) ++ "\n"

/-- The claimed pins and the pins of the space that are free, with a warning for each claimed pin outside it. -/
def pinReport (circuit : Circuit) (space : List Pin) : Noted String :=
  ⟨pinLine "used" circuit.claimedPins ++ pinLine "free" (circuit.freePins .light space),
    (circuit.claimedPins.filter fun pin => pin ∉ space).map .strayPin⟩

/-- What is delivered for a circuit that was read from the input. -/
def deliver (options : Options) (circuit : Circuit) (space : List Pin) : Noted Delivery := do
  Noted.note (.loaded circuit.size options.input)
  if options.reportPins then
    return .print (← pinReport circuit space)
  else
    let text ← circuit.compile { Style.standard with annotate := options.annotate }
    return match options.output with
      | some path => .write path text
      | none => .print text

/-- What is delivered for the content of the input. -/
def prepare (options : Options) (content : Except FileFault ByteArray) : Noted (Except Failure Delivery) :=
  match content with
  | .error fault => return .error (.read options.input fault)
  | .ok bytes =>
    match String.fromUTF8? bytes with
    | none => return .error (.read options.input .notText)
    | some text =>
      match Script.Sketch.ofText text with
      | .error error => return .error (.source (.script error))
      | .ok sketch => do
        match ← Circuit.ofSketch sketch with
        | .error error => return .error (.source (.entry error))
        | .ok circuit => return .ok (← deliver options circuit (sketch.space.getD Pin.reference))

def failed (log : Logger) (options : Options) (notices : List Notice) (failure : Failure) : Outcome :=
  ⟨1, "", log options.leastLogged notices ++ "Error: " ++ failure.detail ++ "\n"⟩

variable {m : Type → Type} [Monad m]

def run (log : Logger) (files : Files m) (options : Options) : m Outcome := do
  let ⟨result, notices⟩ := prepare options (← files.read options.input)
  match result with
  | .error failure => return failed log options notices failure
  | .ok (.print text) => return ⟨0, text, log options.leastLogged notices⟩
  | .ok (.write path text) =>
    match ← files.write path text with
    | .ok () => return ⟨0, "", log options.leastLogged (notices ++ [.wrote path])⟩
    | .error fault => return failed log options notices (.write path fault)

end Breadboard.Command
