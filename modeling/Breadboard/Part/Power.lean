import Breadboard.Text.Lowercase

/-! # Power states

The level at which a power controller holds its pin. Each state answers to two words, in any mixture of capital
and small letters A to Z.
-/

namespace Breadboard

inductive Power where
  | on
  | off
deriving DecidableEq, Repr

namespace Power

instance : ToString Power where
  toString
    | .on => "ON"
    | .off => "OFF"

/-- The digital level that holds the state. -/
def level : Power → String
  | .on => "HIGH"
  | .off => "LOW"

def words : Power → List String
  | .on => ["on", "high"]
  | .off => ["off", "low"]

def ofWord? (word : String) : Option Power :=
  [on, off].find? fun state => state.words.contains (Text.lowercaseAscii word)

/-- What is said of a word that names no state. -/
def notAState (word : String) : String :=
  s!"expected on/off, got '{word}'"

/-- No word names both states. -/
theorem words_disjoint {state other : Power} {word : String} (own : word ∈ state.words)
    (shared : word ∈ other.words) : state = other := by
  have apart : ∀ word ∈ words .on, word ∉ words .off := by decide
  cases state <;> cases other
  · rfl
  · exact absurd shared (apart word own)
  · exact absurd own (apart word shared)
  · rfl

/-- A word names a state exactly when it is one of the state's words, whatever the case of its letters. -/
theorem ofWord?_eq_some_iff {word : String} {state : Power} :
    ofWord? word = some state ↔ Text.lowercaseAscii word ∈ state.words := by
  constructor
  · intro found
    simpa using List.find?_some found
  · intro member
    cases found : ofWord? word with
    | some other => rw [words_disjoint member (by simpa using List.find?_some found)]
    | none =>
      have missing := List.find?_eq_none.mp found state (by cases state <;> simp)
      exact absurd (by simpa using member) missing

end Power

end Breadboard
