import Breadboard.Journal
import Breadboard.Part.OfEntry
import Breadboard.Script.OfText

/-! # Circuits

A circuit is a list of parts in the order in which the generated program runs them. It comes from a sketch text
or from edits of another circuit; both leave the circuit they start from as it was.
-/

namespace Breadboard

structure Circuit where
  parts : List Part
deriving DecidableEq, Repr

/-- Why a text gives no circuit. -/
inductive SourceError where
  | script (error : Script.Error)
  | entry (error : Part.EntryError)
deriving DecidableEq, Repr

def SourceError.message : SourceError → String
  | .script error => error.message
  | .entry error => error.message

namespace Circuit

def empty : Circuit := ⟨[]⟩

def size (circuit : Circuit) : Nat :=
  circuit.parts.length

/-- One part for each entry. The first entry that describes none is the error. -/
def ofSketch (sketch : Script.Sketch) : Noted (Except Part.EntryError Circuit) :=
  match sketch.entries.mapM Part.ofEntry with
  | .ok parts => do
    Noted.note (.built parts.length)
    return .ok ⟨parts⟩
  | .error error => return .error error

def ofText (text : String) : Noted (Except SourceError Circuit) :=
  match Script.Sketch.ofText text with
  | .ok sketch => do return (← ofSketch sketch).mapError .entry
  | .error error => return .error (.script error)

end Circuit

end Breadboard
