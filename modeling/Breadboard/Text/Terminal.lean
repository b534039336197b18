/-! # Text without terminal control

A terminal takes some characters as commands: single controls, and sequences that an escape character opens.
`visible` leaves out both, so that a text reads the same in a file as on a terminal. Of the controls it keeps
those that break a line or a column.

A break inside an escape or control sequence is kept too, and so is what follows it: the sequence is suspended,
and goes on at the next character that is left out.
-/

namespace Breadboard.Text

def isBreak (c : Char) : Bool :=
  c == '\n' || c == '\r' || c == '\t' || c == '\x0c'

/-- A break, or no control. -/
def isPlain (c : Char) : Bool :=
  isBreak c || (' ' ≤ c && c ≠ '\x7f')

def isBetween (c first last : Char) : Bool :=
  first ≤ c && c ≤ last

/-- The open sequence of a text, as far as it decides where the sequence ends. -/
inductive ControlSequence where
  /-- Behind the escape character. -/
  | escape
  /-- Behind an escape character and some characters before the final one. -/
  | longEscape
  /-- Before the final character of a control sequence. -/
  | control
  /-- At the head of a device control string. -/
  | device
  | deviceParameter
  | deviceIntermediate
  /-- In a string that is addressed to a device or an application. -/
  | string
  /-- In a command to the operating system. -/
  | command
deriving DecidableEq, Repr

namespace ControlSequence

/-- A string ends at the byte `9C`, on its own or within the encoding of a character. -/
def endsString (c : Char) : Bool :=
  (String.utf8EncodeChar c).contains 0x9c

/-- The sequence behind a character, unless it ends there. -/
def after? (c : Char) : ControlSequence → Option ControlSequence
  | .escape =>
    if c = '[' then some .control
    else if c = ']' then some .command
    else if c = 'P' then some .device
    else if c = 'X' ∨ c = '^' ∨ c = '_' then some .string
    else if isBetween c '0' '~' then none
    else if isBetween c ' ' '/' then some .longEscape
    else some .escape
  | .longEscape => if isBetween c '0' '~' then none else some .longEscape
  | .control => if isBetween c '@' '~' then none else some .control
  | .device =>
    if isBetween c ' ' '/' then some .deviceIntermediate
    else if isBetween c '0' '?' then some .deviceParameter
    else if isBetween c '@' '~' then some .string
    else some .device
  | .deviceParameter =>
    if isBetween c ' ' '/' then some .deviceIntermediate
    else if isBetween c '<' '~' then some .string
    else some .deviceParameter
  | .deviceIntermediate => if isBetween c '0' '~' then some .string else some .deviceIntermediate
  | .string => if endsString c then none else some .string
  | .command => if c = '\x07' then none else some .command

/-- A break inside is kept, and suspends the sequence. -/
def yieldsToBreak : ControlSequence → Bool
  | .escape | .longEscape | .control => true
  | _ => false

end ControlSequence

/-- Where a reader of terminal text stands. -/
structure TerminalState where
  /-- The last character was kept, so an open sequence is suspended. -/
  isShowing : Bool
  sequence : Option ControlSequence
deriving DecidableEq, Repr

namespace TerminalState

def start : TerminalState := ⟨true, none⟩

/-- Whether a character is kept. -/
def shows (state : TerminalState) (c : Char) : Bool :=
  isPlain c && (state.isShowing ||
    match state.sequence with
    | none => true
    | some sequence => isBreak c && sequence.yieldsToBreak)

/-- The open sequence behind a character that is left out. The escape character opens a new one in any case, and
the characters for cancel and substitute close any. -/
def leftOut (state : TerminalState) (c : Char) : Option ControlSequence :=
  if c = '\x1b' then some .escape
  else if c = '\x18' ∨ c = '\x1a' then none
  else state.sequence.bind (ControlSequence.after? c)

/-- The state behind a character. A suspended sequence is forgotten at a character beyond ASCII. -/
def after (state : TerminalState) (c : Char) : TerminalState :=
  if state.shows c then ⟨true, if c.toNat < 0x80 then state.sequence else none⟩
  else ⟨false, state.leftOut c⟩

end TerminalState

def visibleFrom (state : TerminalState) : List Char → List Char
  | [] => []
  | c :: rest => if state.shows c then c :: visibleFrom (state.after c) rest else visibleFrom (state.after c) rest

def visible (text : String) : String :=
  String.ofList (visibleFrom .start text.toList)

end Breadboard.Text
