import Breadboard.Command.Arguments
import Breadboard.Command.Log

/-! # The whole command

From its arguments on, the command answers with its version, with what is wrong with the arguments, or with a run whose
notices go to the log.
-/

namespace Breadboard.Command

def versionText : String :=
  "circuit_sketch 0.1.0\n"

variable {m : Type → Type} [Monad m]

def execute (files : Files m) (arguments : List String) : m Outcome :=
  match Invocation.ofArguments arguments with
  | .ok (.compile options) => run logText files options
  | .ok .version => return ⟨0, versionText, ""⟩
  | .error error => return ⟨2, "", "error: " ++ error.message ++ "\n"⟩

end Breadboard.Command
