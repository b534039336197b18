import Breadboard.Command.Execute

/-! # The program

Runs the command on the files of the machine.
-/

namespace Breadboard.Command

def FileFault.ofError : IO.Error → FileFault
  | .noFileOrDirectory .. => .notFound
  | .permissionDenied .. => .permissionDenied
  | .inappropriateType _ code message =>
    if code = 20 then .notADirectory else if code = 21 then .isADirectory else .other code.toNat message
  | .invalidArgument _ code message => if code = 36 then .nameTooLong else .other code.toNat message
  | error => .other 0 error.toString

def machineFiles : Files IO where
  read path := do
    try return .ok (← IO.FS.readBinFile path)
    catch error => return .error (.ofError error)
  write path text := do
    try
      IO.FS.writeFile path text
      return .ok ()
    catch error => return .error (.ofError error)

end Breadboard.Command

def main (arguments : List String) : IO UInt32 := do
  let outcome ← Breadboard.Command.execute Breadboard.Command.machineFiles arguments
  IO.print outcome.output
  IO.eprint outcome.errors
  return outcome.code.toUInt32
