/-! # Sets of code points as ascending ranges

The classes of characters that a sketch depends on are tables of closed ranges. `Ranges.contains` reads a
table from the front and stops at the first range that reaches the code point; `contains_iff` says that for
an ascending table this is membership in some range.
-/

namespace Breadboard.Text

/-- Closed ranges of code points, each given by its first and last member. -/
abbrev Ranges := List (Nat × Nat)

namespace Ranges

/-- Each range ends before the next one begins. -/
def Ascending (table : Ranges) : Prop :=
  table.Pairwise fun earlier later => earlier.2 < later.1

instance (table : Ranges) : Decidable table.Ascending :=
  inferInstanceAs (Decidable (List.Pairwise _ _))

def contains : Ranges → Nat → Bool
  | [], _ => false
  | (first, last) :: rest, code => if code ≤ last then first ≤ code else contains rest code

/-- A table in order holds a code exactly when one of its ranges does. -/
theorem contains_iff {table : Ranges} (ascending : table.Ascending) (code : Nat) :
    table.contains code = true ↔ ∃ range ∈ table, range.1 ≤ code ∧ code ≤ range.2 := by
  induction table with
  | nil => simp [contains]
  | cons head rest ih =>
    obtain ⟨first, last⟩ := head
    obtain ⟨before, ascending⟩ := List.pairwise_cons.mp ascending
    simp only [contains]
    split
    next reaches =>
      constructor
      · intro inside
        exact ⟨(first, last), List.mem_cons_self, by simpa using inside, reaches⟩
      · rintro ⟨range, member, low, high⟩
        rcases List.mem_cons.mp member with rfl | later
        · simpa using low
        · have := before range later
          dsimp only at this
          omega
    next passed =>
      rw [ih ascending]
      constructor
      · rintro ⟨range, member, bounds⟩
        exact ⟨range, List.mem_cons_of_mem _ member, bounds⟩
      · rintro ⟨range, member, low, high⟩
        rcases List.mem_cons.mp member with rfl | later
        · exact absurd high passed
        · exact ⟨range, later, low, high⟩

end Ranges

end Breadboard.Text
