import Breadboard.Circuit.Edit
import Breadboard.Circuit.Claims
import Breadboard.Program.Text

/-! # The editor

An editor holds a circuit and changes it by actions whose kinds and power states are still words. An action is
read as an edit first and then performed; one that fails in either leaves the held circuit as it is.
-/

namespace Breadboard

structure Editor where
  circuit : Circuit
deriving DecidableEq, Repr

namespace Editor

inductive Action where
  | add (keyword : String)
  | remove (position : Nat)
  | move (source target : Nat)
  | bind (position : Nat) (name : String)
  | wire (position : Nat) (names : List String)
  | setValue (position : Nat) (value : Int64)
  | setInterval (position : Nat) (interval : Int64)
  | setPower (position : Nat) (word : String)
deriving DecidableEq, Repr

inductive Refusal where
  | unknownKind (keyword : String)
  | notAState (word : String)
  | edit (error : EditError)
deriving DecidableEq, Repr

def Refusal.message : Refusal → String
  | .unknownKind keyword => s!"WASM error: unknown component kind '{keyword}'"
  | .notAState word => Power.notAState word
  | .edit error => error.message

def readKind (keyword : String) : Except Refusal Part.Kind :=
  match Part.Kind.ofKeyword? keyword with
  | some kind => .ok kind
  | none => .error (.unknownKind keyword)

/-- The edit that an action asks for. -/
def Action.read : Action → Except Refusal Edit
  | .add keyword => (readKind keyword).map .add
  | .remove position => .ok (.remove position)
  | .move source target => .ok (.move source target)
  | .bind position name => .ok (.change position (.bind ⟨name⟩))
  | .wire position names => .ok (.change position (.coils (names.map Pin.mk)))
  | .setValue position value => .ok (.change position (.value value))
  | .setInterval position interval => .ok (.change position (.interval interval))
  | .setPower position word =>
    match Power.ofWord? word with
    | some state => .ok (.change position (.power state))
    | none => .error (.notAState word)

def empty : Editor := ⟨.empty⟩

def ofText (text : String) : Noted (Except SourceError Editor) := do
  return (← Circuit.ofText text).map Editor.mk

/-- The editor after an action that succeeds. -/
def act (editor : Editor) (action : Action) : Noted (Except Refusal Editor) :=
  match action.read with
  | .error refusal => return .error refusal
  | .ok edit => do
    match ← edit.perform editor.circuit with
    | .ok circuit => return .ok ⟨circuit⟩
    | .error error => return .error (.edit error)

def length (editor : Editor) : Nat :=
  editor.circuit.size

def code (editor : Editor) : Noted String :=
  editor.circuit.compile .standard

def claimedPins (editor : Editor) : List Pin :=
  editor.circuit.claimedPins

/-- The pins of the reference board that a part may be bound to. -/
def freePins (editor : Editor) (keyword : String) : Except Refusal (List Pin) :=
  (readKind keyword).map fun kind => editor.circuit.freePins kind Pin.reference

end Editor

end Breadboard
