import Breadboard.Journal
import Breadboard.Text.Terminal

/-! # The log of a run

A notice is written to the standard error with its level. The lines of its message behind the first are indented,
so that none of them looks like another notice, and it can hold nothing that controls a terminal.
-/

namespace Breadboard.Command

/-- The indentation of the later lines of a message. -/
def logIndent : List Char :=
  [' ', ' ', ' ', ' ']

def indentLater (text : String) : String :=
  String.ofList (text.toList.flatMap fun c => if c = '\n' then c :: logIndent else [c])

def logEntry (notice : Notice) : String :=
  Text.visible (indentLater notice.line ++ "\n")

def logText (least : Level) (notices : List Notice) : String :=
  String.join ((notices.filter fun notice => least.rank ≤ notice.level.rank).map logEntry)

end Breadboard.Command
