import Breadboard.Proofs.Session

/-! # Attributes of parts

Which attributes the parts of a kind carry, and what they are set to. A part is its kind and the values of its
attributes (`Part.ext_get?`), so a change is known by what becomes of each of them: `Change.applyTo?_eq_some_iff`.
-/

namespace Breadboard

namespace Part

/-- What an attribute is set to. -/
inductive AttributeValue where
  | pin (pin : Option Pin)
  | coils (pins : List Pin)
  | number (number : Int64)
  | power (state : Power)
deriving DecidableEq, Repr

/-- The attributes that parts of a kind carry. -/
def Kind.attributes : Kind → List Attribute
  | .light => [.pin, .value]
  | .button => [.pin]
  | .servo => [.pin, .value]
  | .stepper => [.coils, .value]
  | .wait => [.value]
  | .blinker => [.pin, .interval]
  | .power => [.pin, .power]

/-- The value of an attribute, if the part carries it. -/
def get? : Part → Attribute → Option AttributeValue
  | .light pin _, .pin | .button pin, .pin | .servo pin _, .pin | .blinker pin _, .pin | .power pin _, .pin =>
    some (.pin pin)
  | .stepper coils _, .coils => some (.coils coils)
  | .light _ number, .value | .servo _ number, .value | .stepper _ number, .value | .wait number, .value =>
    some (.number number)
  | .blinker _ interval, .interval => some (.number interval)
  | .power _ state, .power => some (.power state)
  | _, _ => none

/-- Parts of a kind that agree on all attributes are the same. -/
theorem ext_get? {part other : Part} (kind : part.kind = other.kind)
    (same : ∀ slot ∈ part.kind.attributes, part.get? slot = other.get? slot) : part = other := by
  cases part <;> cases other <;> cases kind <;> simpa [Part.kind, Kind.attributes, get?] using same

end Part

namespace Change

/-- What the attribute is set to. A pin with a blank name stands for none. -/
def newValue : Change → Part.AttributeValue
  | .bind pin => .pin (if pin.isBlank then none else some pin)
  | .unbind => .pin none
  | .coils pins => .coils pins
  | .value number | .interval number => .number number
  | .power state => .power state

/-- The change makes one part of another: it gives one attribute its new value and leaves the others alone. -/
structure Alters (setting : Change) (part changed : Part) : Prop where
  kind_eq : changed.kind = part.kind
  target_eq : changed.get? setting.target = some setting.newValue
  others_eq : ∀ slot, slot ≠ setting.target → changed.get? slot = part.get? slot

/-- A change can be made exactly where the kind has the attribute. -/
theorem isSome_applyTo?_iff {setting : Change} {part : Part} :
    (setting.applyTo? part).isSome ↔ setting.target ∈ part.kind.attributes := by
  cases setting <;> cases part <;>
    simp [applyTo?, target, Part.withPin?, Part.withCoils?, Part.withValue?, Part.withInterval?, Part.withPower?,
      Part.kind, Part.Kind.attributes]

/-- A change that is made alters its attribute, and nothing else of the part. -/
theorem Alters.of_applyTo? {setting : Change} {part changed : Part} (success : setting.applyTo? part = some changed) :
    setting.Alters part changed := by
  constructor
  case kind_eq => exact kind_of_applyTo? success
  case target_eq => cases setting <;> cases part <;> cases success <;> rfl
  case others_eq =>
    intro slot other
    cases setting <;> cases part <;> cases success <;> cases slot <;> simp_all [Part.get?, target]

/-- A change leaves no choice of what it makes. -/
theorem Alters.unique {setting : Change} {part changed second : Part} (alters : setting.Alters part changed)
    (alters' : setting.Alters part second) : changed = second := by
  refine Part.ext_get? (alters.kind_eq.trans alters'.kind_eq.symm) fun slot _ => ?_
  by_cases target : slot = setting.target
  · rw [target, alters.target_eq, alters'.target_eq]
  · rw [alters.others_eq slot target, alters'.others_eq slot target]

/-- A change is made exactly where the kind has the attribute, and it alters that alone. -/
theorem applyTo?_eq_some_iff {setting : Change} {part changed : Part} :
    setting.applyTo? part = some changed ↔
      setting.target ∈ part.kind.attributes ∧ setting.Alters part changed := by
  constructor
  · intro success
    exact ⟨isSome_applyTo?_iff.mp (Option.isSome_of_eq_some success), .of_applyTo? success⟩
  · rintro ⟨carried, alters⟩
    obtain ⟨made, success⟩ := Option.isSome_iff_exists.mp (isSome_applyTo?_iff.mpr carried)
    rw [success, (Alters.of_applyTo? success).unique alters]

/-- A change is refused exactly where the kind lacks the attribute. -/
theorem applyTo?_eq_none_iff {setting : Change} {part : Part} :
    setting.applyTo? part = none ↔ setting.target ∉ part.kind.attributes := by
  rw [← isSome_applyTo?_iff, Option.not_isSome_iff_eq_none]

end Change

end Breadboard
