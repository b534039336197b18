import Breadboard.Part.Basic
import Breadboard.Script.Entry

/-! # Parts from entries

An entry describes a part that starts from the attributes of its kind. Its pins come first, then the bare number
and the bare state word, and last the parameters in the order of their keys. Where an attribute is set twice,
the later setting in this order counts; the first item that does not fit is the error.
-/

namespace Breadboard

/-- A sequence gives a result exactly when both of its steps do. -/
theorem except_bind_eq_ok_iff {ε α β : Type} {first : Except ε α} {next : α → Except ε β} {result : β} :
    (first >>= next) = .ok result ↔ ∃ value, first = .ok value ∧ next value = .ok result := by
  cases first <;> simp [bind, Except.bind]

/-- Changing the error changes no result. -/
theorem except_mapError_eq_ok_iff {ε δ α : Type} {outcome : Except ε α} {change : ε → δ} {result : α} :
    outcome.mapError change = .ok result ↔ outcome = .ok result := by
  cases outcome with
  | error error => exact ⟨nofun, nofun⟩
  | ok value =>
    constructor <;> intro same <;> exact congrArg Except.ok (Except.ok.inj same)

namespace Part

/-- What a parameter takes. -/
inductive Expectation where
  | integer
  | power
deriving DecidableEq, Repr

instance : ToString Expectation where
  toString
    | .integer => "integer"
    | .power => "on/off"

/-- The parameters that set the number of a part. -/
def Kind.numberKeys : Kind → List String
  | .light => ["value"]
  | .servo => ["angle", "value"]
  | .stepper => ["steps", "value"]
  | .wait => ["ms", "value"]
  | .blinker => ["interval"]
  | .button | .power => []

/-- What a parameter of a kind takes, if the kind has it. -/
def Kind.expects? (kind : Kind) (key : String) : Option Expectation :=
  if key ∈ kind.numberKeys then some .integer
  else if kind = .power ∧ key = "state" then some .power
  else none

inductive EntryFault where
  | pinOfWait (pin : Pin)
  | secondPin (pin : Pin)
  | valueNotTaken (value : Int64)
  /-- A word that names no power state, given for the parameter. -/
  | notAState (key word : String)
  | unknownParameter (key : String)
  | wrongArgument (key : String) (expected : Expectation) (argument : Script.Argument)
deriving DecidableEq, Repr

namespace EntryFault

/-- The item of the entry that is at fault. -/
def parameter : EntryFault → String
  | .pinOfWait pin | .secondPin pin => pin.name
  | .valueNotTaken value => Text.Numeral.written value
  | .notAState key _ | .unknownParameter key | .wrongArgument key _ _ => key

def message : EntryFault → String
  | .pinOfWait _ => "a wait takes no pin"
  | .secondPin _ => "only one pin may be bound"
  | .valueNotTaken _ => "this component takes no value"
  | .notAState _ word => Power.notAState word
  | .unknownParameter _ => "unknown parameter"
  | .wrongArgument _ expected argument => s!"expected {expected}, got '{argument}'"

end EntryFault

structure EntryError where
  kind : Kind
  line : Nat
  fault : EntryFault
deriving DecidableEq, Repr

def EntryError.message (error : EntryError) : String :=
  s!"Invalid parameter '{error.fault.parameter}' for {error.kind} at line {error.line}: {error.fault.message}"

/-- A fresh part of the kind, bound to the pins of an entry. -/
def bound (kind : Kind) (pins : List Pin) : Except EntryFault Part :=
  match kind, pins with
  | .stepper, pins => .ok (((fresh .stepper).withCoils? pins).getD (fresh .stepper))
  | .wait, pin :: _ => .error (.pinOfWait pin)
  | _, _ :: second :: _ => .error (.secondPin second)
  | kind, [pin] => .ok (((fresh kind).withPin? (some pin)).getD (fresh kind))
  | kind, [] => .ok (fresh kind)

/-- Sets the value from the bare number of an entry. -/
def withNumber (part : Part) : Option Int64 → Except EntryFault Part
  | none => .ok part
  | some value =>
    match part.withValue? value with
    | some changed => .ok changed
    | none => .error (.valueNotTaken value)

/-- Sets the power state that the word `word` names for `key`. -/
def withStateWord (part : Part) (key word : String) : Except EntryFault Part :=
  match Power.ofWord? word with
  | some state => .ok ((part.withPower? state).getD part)
  | none => .error (.notAState key word)

/-- Sets the power state from the bare state word of an entry; only power controllers heed it. -/
def withBareState (part : Part) : Option String → Except EntryFault Part
  | none => .ok part
  | some word => if part.kind = .power then part.withStateWord "state" word else .ok part

def withParameter (part : Part) (key : String) (argument : Script.Argument) : Except EntryFault Part :=
  match part.kind.expects? key, argument with
  | none, _ => .error (.unknownParameter key)
  | some .integer, .integer value => .ok ((part.withValue? value <|> part.withInterval? value).getD part)
  | some .power, .word text => part.withStateWord key text
  | some expected, argument => .error (.wrongArgument key expected argument)

/-- The part that the items of an entry describe. -/
def described (entry : Script.Entry) : Except EntryFault Part := do
  let part ← bound entry.kind entry.pins
  let part ← part.withNumber entry.value
  let part ← part.withBareState entry.state
  entry.parameters.toList.foldlM (fun part pair => part.withParameter pair.1 pair.2) part

def ofEntry (entry : Script.Entry) : Except EntryError Part :=
  (described entry).mapError fun fault => ⟨entry.kind, entry.line, fault⟩

end Part

end Breadboard
