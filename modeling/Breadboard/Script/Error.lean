import Breadboard.Pin
import Breadboard.Script.Token
import Breadboard.Text.Quoted

/-! # Errors of a sketch text

Why a text is no sketch, with the line. The wording of each cause is in `GrammarFault.message` and
`Error.message`.
-/

namespace Breadboard.Script

inductive GrammarFault where
  | unexpectedToken (text : String)
  | pinSpaceTwice
  | notAPinName (text : String)
  | emptyPinSpace
  | unknownDirective (text : String)
  | parameterTwice (key : String)
  | secondValue (text : String)
  /-- A numeral that denotes no 64-bit integer. -/
  | numberOutOfRange (text : String)
  | missingArgument
deriving DecidableEq, Repr

def GrammarFault.message : GrammarFault → String
  | .unexpectedToken text => s!"unexpected token: {Text.quoted text}"
  | .pinSpaceTwice => "pin space declared twice"
  | .notAPinName text => s!"expected pin name, got {Text.quoted text}"
  | .emptyPinSpace => ".pins needs at least one pin"
  | .unknownDirective text => s!"unknown directive: {text}"
  | .parameterTwice key => s!"parameter '{key}' given twice"
  | .secondValue text => s!"unexpected second value '{text}'"
  | .numberOutOfRange text => s!"invalid number: {text}"
  | .missingArgument => "expected parameter value"

inductive Error where
  | scan (error : ScanError)
  | grammar (fault : GrammarFault) (line : Nat)
  | unknownKind (keyword : String) (line : Nat)
  /-- A pin that is used but missing from the declared pin space. -/
  | unknownPin (pin : Pin) (line : Nat)
deriving DecidableEq, Repr

def Error.message : Error → String
  | .scan error => error.message
  | .grammar fault line => s!"Parse error at line {line}: {fault.message}"
  | .unknownKind keyword line => s!"Unknown component kind '{keyword}' at line {line}"
  | .unknownPin pin line => s!"Pin '{pin}' at line {line} is not in the declared pin space"

end Breadboard.Script
