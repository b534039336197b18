import Breadboard.Text.Numeral

/-! # Named parameters

The parameters of an entry, such as `interval=250`, each key once and in the order of the keys' code points. The
order belongs to the type, so an entry has one form however its parameters were written.
-/

namespace Breadboard.Script

/-- What stands behind the equals sign of a parameter. -/
inductive Argument where
  | integer (value : Int64)
  | word (text : String)
deriving DecidableEq, Repr

instance : ToString Argument where
  toString
    | .integer value => Text.Numeral.written value
    | .word text => text

structure Parameters where
  toList : List (String × Argument)
  ascending : toList.Pairwise fun earlier later => earlier.1 < later.1
deriving DecidableEq, Repr

namespace Parameters

def empty : Parameters := ⟨[], List.Pairwise.nil⟩

def find? (parameters : Parameters) (key : String) : Option Argument :=
  (parameters.toList.find? fun entry => entry.1 = key).map Prod.snd

def contains (parameters : Parameters) (key : String) : Bool :=
  parameters.toList.any fun entry => entry.1 = key

def insertPair (key : String) (argument : Argument) : List (String × Argument) → List (String × Argument)
  | [] => [(key, argument)]
  | head :: rest =>
    if key < head.1 then (key, argument) :: head :: rest
    else if key = head.1 then (key, argument) :: rest
    else head :: insertPair key argument rest

private theorem mem_of_mem_insertPair {key : String} {argument : Argument} {pairs : List (String × Argument)}
    {pair : String × Argument} (member : pair ∈ insertPair key argument pairs) :
    pair = (key, argument) ∨ pair ∈ pairs := by
  induction pairs with
  | nil => simpa [insertPair] using member
  | cons head rest ih =>
    simp only [insertPair] at member
    split at member
    · simpa using member
    · split at member
      · rcases List.mem_cons.mp member with here | later
        · exact .inl here
        · exact .inr (List.mem_cons_of_mem _ later)
      · rcases List.mem_cons.mp member with rfl | later
        · exact .inr List.mem_cons_self
        · exact (ih later).imp_right (List.mem_cons_of_mem _)

/-- Setting a parameter keeps the keys in order, each once. -/
theorem insertPair_ascending {key : String} {argument : Argument} {pairs : List (String × Argument)}
    (ascending : pairs.Pairwise fun earlier later => earlier.1 < later.1) :
    (insertPair key argument pairs).Pairwise fun earlier later => earlier.1 < later.1 := by
  induction pairs with
  | nil => simp [insertPair]
  | cons head rest ih =>
    obtain ⟨above, tail⟩ := List.pairwise_cons.mp ascending
    simp only [insertPair]
    split
    next less =>
      refine List.pairwise_cons.mpr ⟨fun pair member => ?_, ascending⟩
      rcases List.mem_cons.mp member with rfl | later
      · exact less
      · exact String.lt_trans less (above pair later)
    next notLess =>
      split
      next same => exact List.pairwise_cons.mpr ⟨fun pair member => same ▸ above pair member, tail⟩
      next differ =>
        refine List.pairwise_cons.mpr ⟨fun pair member => ?_, ih tail⟩
        rcases mem_of_mem_insertPair member with rfl | later
        · rcases Std.lt_trichotomy key head.1 with less | same | greater
          · exact absurd less notLess
          · exact absurd same differ
          · exact greater
        · exact above pair later

/-- Gives a key its argument, in place of any that it had. -/
def insert (parameters : Parameters) (key : String) (argument : Argument) : Parameters :=
  ⟨insertPair key argument parameters.toList, insertPair_ascending parameters.ascending⟩

/-- The last argument of a repeated key counts. -/
def ofList (pairs : List (String × Argument)) : Parameters :=
  pairs.foldl (fun parameters pair => parameters.insert pair.1 pair.2) empty

/-- In a list of parameters, setting one sets what its key finds, and leaves the other keys alone. -/
theorem find?_insertPair (key : String) (argument : Argument) (pairs : List (String × Argument)) (other : String) :
    ((insertPair key argument pairs).find? fun entry => entry.1 = other).map Prod.snd =
      if key = other then some argument
      else (pairs.find? fun entry => entry.1 = other).map Prod.snd := by
  induction pairs with
  | nil => simp [insertPair, List.find?_cons]; split <;> simp_all
  | cons head rest ih =>
    simp only [insertPair]
    split
    next less =>
      by_cases same : key = other
      · simp [same]
      · simp [List.find?_cons, same]
    next notLess =>
      split
      next equal =>
        by_cases same : key = other
        · simp [same]
        · have : head.1 ≠ other := fun found => same (equal.trans found)
          simp [same, this]
      next differ =>
        by_cases found : head.1 = other
        · have : key ≠ other := fun same => differ (same.trans found.symm)
          simp [found, this]
        · simp only [List.find?_cons, found, decide_false]
          exact ih

/-- Setting a parameter sets what its key finds, and leaves the other keys alone. -/
theorem find?_insert (parameters : Parameters) (key : String) (argument : Argument) (other : String) :
    (parameters.insert key argument).find? other =
      if key = other then some argument else parameters.find? other :=
  find?_insertPair key argument parameters.toList other

end Parameters

end Breadboard.Script
