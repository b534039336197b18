import Breadboard.Part.Basic

/-! # Notices

What the library tells about its work beside its results. A notice is data; `Notice.message` words it and
`Notice.level` says how much it matters. `Noted` pairs a result with the notices given on the way, in order.
-/

namespace Breadboard

inductive Level where
  | trace
  | debug
  | info
  | warn
deriving DecidableEq, Repr

namespace Level

instance : ToString Level where
  toString
    | .trace => "TRACE"
    | .debug => "DEBUG"
    | .info => "INFO"
    | .warn => "WARN"

def rank : Level → Nat
  | .trace => 0
  | .debug => 1
  | .info => 2
  | .warn => 3

end Level

inductive Notice where
  | built (size : Nat)
  | added (kind : Part.Kind) (position : Nat)
  | removed (kind : Part.Kind) (position : Nat)
  | moved (kind : Part.Kind) (source target : Nat)
  | changed (target : Part.Attribute) (kind : Part.Kind) (position : Nat)
  | skippedUnbound (kind : Part.Kind) (position : Nat)
  /-- A stepper that has not the four coil pins it is driven through. -/
  | skippedStepper (position coils : Nat)
  | compiled (size declarations setup loop : Nat)
  | loaded (size : Nat) (path : String)
  | wrote (path : String)
  | strayPin (pin : Pin)
deriving DecidableEq, Repr

namespace Notice

def level : Notice → Level
  | .skippedUnbound .. | .skippedStepper .. => .trace
  | .built .. | .added .. | .removed .. | .moved .. | .changed .. | .compiled .. => .debug
  | .loaded .. | .wrote .. => .info
  | .strayPin .. => .warn

def message : Notice → String
  | .built size => s!"built circuit with {size} components"
  | .added kind position => s!"add {kind} at position {position}"
  | .removed kind position => s!"remove {kind} from position {position}"
  | .moved kind source target => s!"move {kind} from position {source} to {target}"
  | .changed target kind position => s!"set {target} of {kind} at position {position}"
  | .skippedUnbound kind position => s!"skipping unbound {kind} at position {position}"
  | .skippedStepper position coils => s!"skipping stepper at position {position} with {coils} of 4 pins"
  | .compiled size declarations setup loop =>
    s!"compiled {size} components: {declarations} declarations, {setup} setup lines, {loop} loop lines"
  | .loaded size path => s!"loaded {size} components from {path}"
  | .wrote path => s!"wrote {path}"
  | .strayPin pin => s!"pin {pin} is outside the pin space"

/-- The notice as a line of a log. -/
def line (notice : Notice) : String :=
  s!"{notice.level} {notice.message}"

end Notice

/-- A result, and the notices given before it. -/
structure Noted (α : Type) where
  value : α
  notices : List Notice
deriving Repr

namespace Noted

instance : Monad Noted where
  pure value := ⟨value, []⟩
  bind noted next := ⟨(next noted.value).value, noted.notices ++ (next noted.value).notices⟩

def note (notice : Notice) : Noted Unit :=
  ⟨(), [notice]⟩

@[simp] theorem value_pure {α : Type} (value : α) : (pure value : Noted α).value = value := rfl

@[simp] theorem notices_pure {α : Type} (value : α) : (pure value : Noted α).notices = [] := rfl

@[simp] theorem value_bind {α β : Type} (noted : Noted α) (next : α → Noted β) :
    (noted >>= next).value = (next noted.value).value := rfl

/-- The notices of a sequence stand in the order in which its steps leave them. -/
@[simp] theorem notices_bind {α β : Type} (noted : Noted α) (next : α → Noted β) :
    (noted >>= next).notices = noted.notices ++ (next noted.value).notices := rfl

end Noted

end Breadboard
