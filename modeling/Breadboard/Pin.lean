import Breadboard.Text.Blank

/-! # Pins

A pin is a digital line of the board, known by its name alone. Names are compared and printed as they stand and
never read as numbers, so `D10` comes before `D9`. A name that shows nothing stands for no pin at all.

`Pin.listing` puts pins in ascending order without repetitions; `mem_listing` and `listing_ascending` are its
two laws.
-/

namespace Breadboard

structure Pin where
  name : String
deriving DecidableEq, Repr

namespace Pin

instance : ToString Pin := ⟨Pin.name⟩

/-- Pins are ordered by the code points of their names. -/
instance : LT Pin := ⟨fun pin other => pin.name < other.name⟩

instance (pin other : Pin) : Decidable (pin < other) :=
  inferInstanceAs (Decidable (pin.name < other.name))

/-- No pin comes before itself. -/
theorem lt_irrefl (pin : Pin) : ¬pin < pin :=
  String.lt_irrefl pin.name

/-- The order of the pins is transitive. -/
theorem lt_trans {first second third : Pin} (left : first < second) (right : second < third) : first < third :=
  String.lt_trans left right

/-- Of two pins, one comes before the other. -/
theorem lt_of_not_lt_of_ne {pin other : Pin} (notLess : ¬pin < other) (differ : pin ≠ other) : other < pin := by
  rcases Std.lt_trichotomy pin.name other.name with less | same | greater
  · exact absurd less notLess
  · exact absurd (by cases pin; cases other; exact congrArg Pin.mk same) differ
  · exact greater

def isBlank (pin : Pin) : Bool :=
  Text.isBlank pin.name

/-- The pin to bind, unless the name is blank. -/
def bound? (pin : Pin) : Option Pin :=
  if pin.isBlank then none else some pin

/-- The nine pins `D0` to `D8` of the reference board. -/
def reference : List Pin :=
  (List.range 9).map fun n => ⟨s!"D{n}"⟩

/-- Adds a pin to an ascending list that may hold it already. -/
def insertAscending (pin : Pin) : List Pin → List Pin
  | [] => [pin]
  | head :: rest =>
    if pin < head then pin :: head :: rest
    else if pin = head then head :: rest
    else head :: insertAscending pin rest

/-- The given pins in ascending order, each once. -/
def listing (pins : List Pin) : List Pin :=
  pins.foldr insertAscending []

/-- Inserting a pin adds it, and loses none. -/
theorem mem_insertAscending {pin other : Pin} {pins : List Pin} :
    other ∈ insertAscending pin pins ↔ other = pin ∨ other ∈ pins := by
  induction pins with
  | nil => simp [insertAscending]
  | cons head rest ih =>
    simp only [insertAscending]
    split
    · simp
    · split
      next same => subst same; simp
      next => simp only [List.mem_cons, ih]; grind

/-- A listing has the pins that it lists, and no others. -/
@[simp] theorem mem_listing {pin : Pin} {pins : List Pin} : pin ∈ listing pins ↔ pin ∈ pins := by
  induction pins with
  | nil => simp [listing]
  | cons head rest ih => simpa [listing, mem_insertAscending] using or_congr_right ih

/-- Inserting a pin keeps the order, and adds no pin a second time. -/
theorem insertAscending_ascending {pin : Pin} {pins : List Pin} (ascending : pins.Pairwise (· < ·)) :
    (insertAscending pin pins).Pairwise (· < ·) := by
  induction pins with
  | nil => simp [insertAscending]
  | cons head rest ih =>
    obtain ⟨above, tail⟩ := List.pairwise_cons.mp ascending
    simp only [insertAscending]
    split
    next less =>
      refine List.pairwise_cons.mpr ⟨fun other member => ?_, ascending⟩
      rcases List.mem_cons.mp member with rfl | later
      · exact less
      · exact lt_trans less (above other later)
    next notLess =>
      split
      next => exact ascending
      next differ =>
        refine List.pairwise_cons.mpr ⟨fun other member => ?_, ih tail⟩
        rcases mem_insertAscending.mp member with rfl | later
        · exact lt_of_not_lt_of_ne notLess differ
        · exact above other later

/-- A listing has its pins in ascending order, each once. -/
theorem listing_ascending (pins : List Pin) : (listing pins).Pairwise (· < ·) := by
  induction pins with
  | nil => exact List.Pairwise.nil
  | cons _ _ ih => exact insertAscending_ascending ih

end Pin

end Breadboard
