import Breadboard.Text.Lowercase

/-! # Kinds of parts

The seven kinds of parts that a circuit can hold, with their words: the name and the description shown to people,
and the keywords that sketches and editors use. Each kind answers to its first keyword and to some others, in
any mixture of capital and small letters A to Z; `ofKeyword?_eq_some_iff` says that no keyword is shared.
-/

namespace Breadboard

inductive Part.Kind where
  | light
  | button
  | servo
  | stepper
  | wait
  | blinker
  | power
deriving DecidableEq, Repr

namespace Part.Kind

/-- The kinds in the order of the editor's palette. -/
def all : List Kind :=
  [.light, .button, .servo, .stepper, .wait, .blinker, .power]

def name : Kind → String
  | .light => "Magic Light"
  | .button => "Clicky Switch"
  | .servo => "Robotic Arm"
  | .stepper => "Step-by-Step Motor"
  | .wait => "Wait Time"
  | .blinker => "Blinky Switch"
  | .power => "Power Controller"

instance : ToString Kind := ⟨name⟩

def description : Kind → String
  | .light =>
    "A tiny light that glows when electricity flows through it. It shows when something is working!"
  | .button =>
    "A button you can press to make things happen in your circuit. It's like magic!"
  | .servo =>
    "A motor that can turn to exact positions. It's like a robot arm that can point in different directions!"
  | .stepper =>
    "A motor that moves in tiny, precise steps. It's great for making things move very accurately!"
  | .wait =>
    "This tells your circuit to take a short break before doing the next thing. Like counting to 10 before you go!"
  | .blinker =>
    "This makes things turn on and off repeatedly. It's how you make lights blink!"
  | .power =>
    "This lets you turn things on or off in your circuit. It's like a light switch for your components!"

/-- The word by which a kind is written, in small letters. -/
def keyword : Kind → String
  | .light => "led"
  | .button => "button"
  | .servo => "servo"
  | .stepper => "stepper"
  | .wait => "delay"
  | .blinker => "toggle"
  | .power => "control"

/-- The other words by which a kind is read. -/
def aliases : Kind → List String
  | .light => ["light"]
  | .button => []
  | .servo => ["rotary"]
  | .stepper => ["stepped"]
  | .wait => ["wait"]
  | .blinker => ["blink", "blinker"]
  | .power => ["power"]

def keywords (kind : Kind) : List String :=
  kind.keyword :: kind.aliases

/-- The kind with this keyword, whatever the case of its letters A to Z. -/
def ofKeyword? (word : String) : Option Kind :=
  all.find? fun kind => kind.keywords.contains (Text.lowercaseAscii word)

/-- Parts of this kind are bound to a single pin. -/
def hasSinglePin : Kind → Bool
  | .stepper | .wait => false
  | _ => true

/-- The list of the kinds leaves none out. -/
theorem mem_all (kind : Kind) : kind ∈ all := by
  cases kind <;> decide

/-- No keyword names two kinds. -/
theorem keywords_disjoint {kind other : Kind} {word : String} (own : word ∈ kind.keywords)
    (shared : word ∈ other.keywords) : kind = other := by
  have apart : ∀ kind ∈ all, ∀ other ∈ all, kind ≠ other → ∀ word ∈ kind.keywords, word ∉ other.keywords := by
    decide
  exact Decidable.byContradiction fun differ =>
    apart kind (mem_all kind) other (mem_all other) differ word own shared

/-- A word names a kind exactly when it is one of the kind's keywords, whatever the case of its letters. -/
theorem ofKeyword?_eq_some_iff {word : String} {kind : Kind} :
    ofKeyword? word = some kind ↔ Text.lowercaseAscii word ∈ kind.keywords := by
  constructor
  · intro found
    simpa using List.find?_some found
  · intro member
    cases found : ofKeyword? word with
    | some other =>
      have shared : Text.lowercaseAscii word ∈ other.keywords := by simpa using List.find?_some found
      rw [keywords_disjoint member shared]
    | none =>
      have missing := List.find?_eq_none.mp found kind (mem_all kind)
      exact absurd (by simpa using member) missing

end Part.Kind

end Breadboard
