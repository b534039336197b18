import Breadboard.Circuit.Basic
import Breadboard.Text.Quoted
import Breadboard.Text.Record

/-! # Failures of the command

A run fails because the sketch file cannot be read, because its text gives no circuit, or because the output
cannot be written. `Failure.detail` writes the cause as a record with all its fields.
-/

namespace Breadboard.Command

/-- Why a file cannot be read or written. -/
inductive FileFault where
  | notFound
  | permissionDenied
  | notADirectory
  | isADirectory
  | nameTooLong
  /-- The content is not UTF-8. -/
  | notText
  | other (code : Nat) (message : String)
deriving DecidableEq, Repr

def systemRecord (code : Nat) (kind message : String) : String :=
  Text.record "Os" [("code", toString code), ("kind", kind), ("message", Text.quoted message)]

def FileFault.detail : FileFault → String
  | .notFound => systemRecord 2 "NotFound" "No such file or directory"
  | .permissionDenied => systemRecord 13 "PermissionDenied" "Permission denied"
  | .notADirectory => systemRecord 20 "NotADirectory" "Not a directory"
  | .isADirectory => systemRecord 21 "IsADirectory" "Is a directory"
  | .nameTooLong => systemRecord 36 "InvalidFilename" "File name too long"
  | .notText =>
    Text.record "Error" [("kind", "InvalidData"), ("message", Text.quoted "stream did not contain valid UTF-8")]
  | .other code message => systemRecord code "Uncategorized" message

inductive Failure where
  | read (path : String) (fault : FileFault)
  | source (error : SourceError)
  | write (path : String) (fault : FileFault)
deriving DecidableEq, Repr

/-- The tag of a kind in a record. -/
def kindTag : Part.Kind → String
  | .light => "Light"
  | .button => "Button"
  | .servo => "RotaryActuator"
  | .stepper => "SteppedActuator"
  | .wait => "Wait"
  | .blinker => "Blinker"
  | .power => "PowerSwitch"

def scriptDetail : Script.Error → String
  | .scan error =>
    Text.record "LexerError" [("line", toString error.position.line), ("column", toString error.position.column),
      ("message", Text.quoted error.fault.message)]
  | .grammar fault line =>
    Text.record "ParseError" [("line", toString line), ("message", Text.quoted fault.message)]
  | .unknownKind keyword line =>
    Text.record "UnknownComponentKind" [("keyword", Text.quoted keyword), ("line", toString line)]
  | .unknownPin pin line => Text.record "UnknownPin" [("pin", Text.quoted pin.name), ("line", toString line)]

def entryDetail (error : Part.EntryError) : String :=
  Text.record "InvalidParameter" [("kind", kindTag error.kind), ("param", Text.quoted error.fault.parameter),
    ("line", toString error.line), ("message", Text.quoted error.fault.message)]

def Failure.detail : Failure → String
  | .read path fault => Text.record "FileReadError" [("path", Text.quoted path), ("source", fault.detail)]
  | .source (.script error) => scriptDetail error
  | .source (.entry error) => entryDetail error
  | .write path fault => Text.record "OutputError" [("path", Text.quoted path), ("source", fault.detail)]

end Breadboard.Command
