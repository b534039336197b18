/-! # Tokens of a sketch

A sketch text is a sequence of words, numbers, directives, equals signs and line ends. Each token carries the
place of its first character; a place that holds no token carries the reason.
-/

namespace Breadboard.Script

/-- A line and a column, both counted from one. -/
structure Position where
  line : Nat
  column : Nat
deriving DecidableEq, Repr

namespace Position

def start : Position := ⟨1, 1⟩

/-- The place behind `c`, which stands at this place. -/
def after (position : Position) (c : Char) : Position :=
  if c = '\n' then ⟨position.line + 1, 1⟩ else ⟨position.line, position.column + 1⟩

/-- The place behind a text that begins at this place. -/
def afterText (position : Position) (text : List Char) : Position :=
  text.foldl after position

end Position

inductive Symbol where
  | word (text : String)
  /-- Decimal digits, perhaps after a sign. -/
  | number (text : String)
  /-- A word after a dot; the dot belongs to the text. -/
  | directive (text : String)
  | equals
  | newline
  | endOfText
deriving DecidableEq, Repr

/-- The characters that a symbol was read from. -/
def Symbol.text : Symbol → String
  | .word text | .number text | .directive text => text
  | .equals => "="
  | .newline => "\n"
  | .endOfText => ""

structure Token where
  symbol : Symbol
  position : Position
deriving DecidableEq, Repr

/-- Why a text does not begin with a token. -/
inductive Fault where
  | bareDot
  | bareSign (sign : Char)
  /-- A word that begins with a digit and holds something else. -/
  | malformedNumber (text : String)
  | unexpectedCharacter (c : Char)
deriving DecidableEq, Repr

def Fault.message : Fault → String
  | .bareDot => "expected directive name after '.'"
  | .bareSign sign => s!"expected digits after '{sign}'"
  | .malformedNumber text => s!"malformed number '{text}'"
  | .unexpectedCharacter c => s!"unexpected character '{c}'"

structure ScanError where
  fault : Fault
  position : Position
deriving DecidableEq, Repr

def ScanError.message (error : ScanError) : String :=
  s!"Lexer error at line {error.position.line}, column {error.position.column}: {error.fault.message}"

end Breadboard.Script
