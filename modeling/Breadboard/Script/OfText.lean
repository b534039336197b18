import Breadboard.Script.Reading
import Breadboard.Script.Sketch

/-! # Sketches from text

Lines are read one after the other: an empty line, the directive `.pins` with the pins of the pin space, or an
entry. A bare word of an entry is a pin, except for the state of a power controller, and the key of a parameter
when an equals sign follows. When all lines are read, the pins of the entries are checked against the pin space,
wherever it was declared.

The reader is one token ahead: what is wrong with the next token is reported before what is wrong with the
current one, wherever the rule for the current one can only be checked after moving on.
-/

namespace Breadboard.Script

/-- The argument that a token gives to a parameter. -/
def Argument.ofSymbol : Symbol → Except GrammarFault Argument
  | .number text =>
    match Text.Numeral.read? text with
    | some value => .ok (.integer value)
    | none => .error (.numberOutOfRange text)
  | .word text => .ok (.word text)
  | _ => .error .missingArgument

namespace Reading

/-- The right-hand side of a parameter. -/
def argument (line : Nat) : Reading Argument := do
  let argument ← check line (Argument.ofSymbol (← get).current.symbol)
  advance
  return argument

/-- What a word in an entry begins: a parameter if an equals sign follows, which is the current token then. -/
def afterWord (entry : Entry) (text : String) : Reading Entry := do
  if (← get).current.symbol = .equals then
    advance
    check entry.line (entry.addParameter (Text.lowercase text) (← argument entry.line))
  else return entry.addWord text

def item (entry : Entry) : Reading Entry := fun reader =>
  match reader.current.symbol with
  | .word text => (do advance; afterWord entry text) reader
  | .number text => (do advance; check entry.line (entry.addNumber text)) reader
  | other => .error (.grammar (.unexpectedToken other.text) entry.line) reader

def pinName (line : Nat) (pins : List Pin) : Reading (List Pin) := fun reader =>
  match reader.current.symbol with
  | .word text => (do advance; return if Pin.mk text ∈ pins then pins else pins ++ [Pin.mk text]) reader
  | other => .error (.grammar (.notAPinName other.text) line) reader

private theorem shrinks_argument (line : Nat) : Shrinks (argument line) :=
  shrinks_get.bind fun _ => (shrinks_check _ _).bind fun _ => shrinks_advance.bind fun _ => shrinks_pure _

private theorem shrinks_afterWord (entry : Entry) (text : String) : Shrinks (afterWord entry text) := by
  refine shrinks_get.bind fun reader => ?_
  split
  · exact shrinks_advance.bind fun _ => (shrinks_argument _).bind fun _ => shrinks_check _ _
  · exact shrinks_pure _

/-- Reading an item moves on. -/
theorem item_progresses : Progresses Reader.atLineEnd item := by
  intro entry reader next after inside success
  have more := not_atEnd_of_not_atLineEnd inside
  simp only [item] at success
  split at success
  · exact advance_bind_lt (shrinks_afterWord _ _) more success
  · exact advance_bind_lt (shrinks_check _ _) more success
  · cases success

/-- Reading the name of a pin moves on. -/
theorem pinName_progresses (line : Nat) : Progresses Reader.atLineEnd (pinName line) := by
  intro pins reader next after inside success
  simp only [pinName] at success
  split at success
  · refine advance_bind_lt ?_ (not_atEnd_of_not_atLineEnd inside) success
    exact shrinks_pure _
  · cases success

/-- The line of a directive, behind its first token. -/
def directive (sketch : Sketch) (text : String) (line : Nat) : Reading Sketch := do
  check line (sketch.admitDirective text)
  let pins ← loop Reader.atLineEnd (pinName line) (pinName_progresses line) []
  check line (sketch.declare pins)

/-- The line of an entry, behind its keyword. -/
def entry (keyword : String) (line : Nat) : Reading Entry :=
  match Part.Kind.ofKeyword? keyword with
  | some kind => loop Reader.atLineEnd item item_progresses (.bare kind line)
  | none => throw (.unknownKind keyword line)

def lineBody (sketch : Sketch) : Reading Sketch := fun reader =>
  let line := reader.current.position.line
  match reader.current.symbol with
  | .newline => .ok sketch reader
  | .directive text => (do advance; directive sketch text line) reader
  | .word text => (do advance; return sketch.addEntry (← entry text line)) reader
  | other => .error (.grammar (.unexpectedToken other.text) line) reader

/-- Moves past a line end, if the reader is at one. -/
def lineEnd : Reading Unit := do
  if (← get).current.symbol = .newline then advance

def line (sketch : Sketch) : Reading Sketch := do
  let sketch ← lineBody sketch
  lineEnd
  return sketch

/-- Reading a directive never goes back. -/
theorem shrinks_directive (sketch : Sketch) (text : String) (line : Nat) :
    Shrinks (directive sketch text line) :=
  (shrinks_check _ _).bind fun _ => (shrinks_loop _ _).bind fun _ => shrinks_check _ _

/-- Reading an entry never goes back. -/
theorem shrinks_entry (keyword : String) (line : Nat) : Shrinks (entry keyword line) := by
  unfold entry
  split
  · exact shrinks_loop _ _
  · exact shrinks_throw _

private theorem shrinks_lineEnd : Shrinks lineEnd := by
  refine shrinks_get.bind fun reader => ?_
  split
  · exact shrinks_advance
  · exact shrinks_pure _

/-- Reading a line moves on. -/
theorem line_progresses : Progresses Reader.atEnd line := by
  intro sketch reader next after more success
  obtain ⟨sketch, middle, body, success⟩ := bind_eq_ok success
  obtain ⟨_, last, ended, success⟩ := bind_eq_ok success
  cases success
  simp only [lineBody] at body
  split at body
  next found =>
    cases body
    refine advance_lt more ?_
    change (if reader.current.symbol = .newline then advance else pure ()) reader = .ok _ after at ended
    rwa [if_pos found] at ended
  · exact Nat.lt_of_le_of_lt (shrinks_lineEnd ended) (advance_bind_lt (shrinks_directive _ _ _) more body)
  · exact Nat.lt_of_le_of_lt (shrinks_lineEnd ended)
      (advance_bind_lt ((shrinks_entry _ _).bind fun _ => shrinks_pure _) more body)
  · cases body

/-- All lines from the current token on, checked against their pin space. -/
def sketch : Reading Sketch := do
  let sketch ← loop Reader.atEnd line line_progresses .empty
  match sketch.firstStray? with
  | none => return sketch
  | some (pin, line) => throw (.unknownPin pin line)

/-- What a number of readings of a sketch give, each from where the one before it ended or failed. -/
def sketches (reader : Reader) : Nat → List (Except Error Sketch)
  | 0 => []
  | count + 1 =>
    match sketch reader with
    | .ok found after => .ok found :: sketches after count
    | .error error after => .error error :: sketches after count

end Reading

def Sketch.ofText (text : String) : Except Error Sketch :=
  match Reader.start text with
  | .error error => .error (.scan error)
  | .ok reader =>
    match Reading.sketch reader with
    | .ok sketch _ => .ok sketch
    | .error error _ => .error error

end Breadboard.Script
