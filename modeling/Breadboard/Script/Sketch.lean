import Breadboard.Script.Entry
import Breadboard.Text.Lowercase

/-! # Sketches

A sketch lists entries, and one of its lines may declare the pin space, the pins that the entries may use. The
declaration counts for all entries, those before it too.
-/

namespace Breadboard.Script

structure Sketch where
  /-- The declared pins, each once, in the order of their first mention. -/
  space : Option (List Pin)
  entries : List Entry
deriving DecidableEq, Repr

namespace Sketch

def empty : Sketch := ⟨none, []⟩

/-- The one directive is `.pins`, in any case, and it stands once. -/
def admitDirective (sketch : Sketch) (text : String) : Except GrammarFault Unit :=
  if Text.lowercase text ≠ ".pins" then .error (.unknownDirective text)
  else if sketch.space.isSome then .error .pinSpaceTwice
  else .ok ()

def declare (sketch : Sketch) (pins : List Pin) : Except GrammarFault Sketch :=
  if pins.isEmpty then .error .emptyPinSpace else .ok { sketch with space := some pins }

def addEntry (sketch : Sketch) (entry : Entry) : Sketch :=
  { sketch with entries := sketch.entries ++ [entry] }

/-- The first pin of an entry, if it uses one that the pin space lacks, with the line of the entry. -/
def strayPin? (space : List Pin) (entry : Entry) : Option (Pin × Nat) :=
  (entry.pins.find? fun pin => pin ∉ space).map fun pin => (pin, entry.line)

/-- The first use of a pin outside the declared pin space. Without a declaration every pin is allowed. -/
def firstStray? (sketch : Sketch) : Option (Pin × Nat) :=
  sketch.space.bind fun space => sketch.entries.findSome? (strayPin? space)

end Sketch

end Breadboard.Script
