import Breadboard.Part.OfEntry

/-! # What an entry describes

An entry describes a part when each of its items fits the kind, and then the part has the pins of the entry, the last
number that is given for it and the last state: `Part.described_eq_ok_iff`. The proof follows the part through the
settings: at each point it is `Part.made` from what has been given so far.
-/

namespace Breadboard

open Script

namespace Script

def Argument.integer? : Argument → Option Int64
  | .integer value => some value
  | .word _ => none

def Argument.power? : Argument → Option Power
  | .word text => Power.ofWord? text
  | .integer _ => none

/-- The number that an entry gives: that of its last parameter with one, or else the bare one. -/
def Entry.number? (entry : Entry) : Option Int64 :=
  (entry.parameters.toList.filterMap fun pair => pair.2.integer?).getLast? <|> entry.value

/-- The state that an entry gives: that of its last parameter with one, or else that of its bare state word. -/
def Entry.power? (entry : Entry) : Option Power :=
  (entry.parameters.toList.filterMap fun pair => pair.2.power?).getLast? <|> entry.state.bind Power.ofWord?

end Script

namespace Part

/-- The part with these pins, and with the number and the state of its kind's start where none is given. -/
def made (kind : Kind) (pins : List Pin) (number : Option Int64) (state : Option Power) : Part :=
  match kind with
  | .light => .light pins.head? (number.getD 0)
  | .button => .button pins.head?
  | .servo => .servo pins.head? (number.getD 90)
  | .stepper => .stepper pins (number.getD 200)
  | .wait => .wait (number.getD 0)
  | .blinker => .blinker pins.head? (number.getD 1000)
  | .power => .power pins.head? (state.getD .on)

def Kind.TakesPins : Kind → List Pin → Prop
  | .stepper, _ => True
  | .wait, pins => pins = []
  | _, pins => pins.length ≤ 1

/-- A bare number of an entry sets something. -/
def Kind.takesValue : Kind → Bool
  | .light | .servo | .stepper | .wait => true
  | .button | .blinker | .power => false

/-- The kind has the parameter, and the argument is what it takes. -/
def Kind.Takes (kind : Kind) (key : String) (argument : Argument) : Prop :=
  match kind.expects? key with
  | some .integer => argument.integer?.isSome = true
  | some .power => argument.power?.isSome = true
  | none => False

/-- Each item of the entry fits its kind. -/
structure Fits (entry : Entry) : Prop where
  pins : entry.kind.TakesPins entry.pins
  value : entry.value.isSome = true → entry.kind.takesValue = true
  state : entry.kind = .power → ∀ text ∈ entry.state, (Power.ofWord? text).isSome = true
  parameters : ∀ pair ∈ entry.parameters.toList, entry.kind.Takes pair.1 pair.2

section Settings

variable {kind : Kind} {pins : List Pin} {number : Option Int64} {state : Option Power} {part : Part}

/-- Pins are bound exactly when the kind takes them. -/
theorem bound_eq_ok_iff : bound kind pins = .ok part ↔ kind.TakesPins pins ∧ part = made kind pins none none := by
  rw [eq_comm (a := part)]
  rcases pins with _ | ⟨pin, _ | ⟨second, rest⟩⟩ <;> cases kind <;>
    simp [bound, Kind.TakesPins, made, fresh, withPin?, withCoils?]

/-- A bare number sets the one that the part keeps, and needs a kind that keeps one. -/
theorem withNumber_made :
    (made kind pins none none).withNumber number = .ok part ↔
      (number.isSome = true → kind.takesValue = true) ∧ part = made kind pins number none := by
  rw [eq_comm (a := part)]
  cases number with
  | none => simp [withNumber]
  | some value => cases kind <;> simp [withNumber, made, withValue?, Kind.takesValue]

/-- A bare word sets the state of a power supply, and must name one there. -/
theorem withBareState_made {word : Option String} :
    (made kind pins number none).withBareState word = .ok part ↔
      (kind = .power → ∀ text ∈ word, (Power.ofWord? text).isSome = true) ∧
        part = made kind pins number (word.bind Power.ofWord?) := by
  rw [eq_comm (a := part)]
  cases word with
  | none => simp [withBareState]
  | some text =>
    cases kind with
    | power =>
      cases named : Power.ofWord? text <;>
        simp [withBareState, withStateWord, made, Part.kind, withPower?, named]
    | _ => simp [withBareState, made, Part.kind]

/-- A power supply alone has a parameter for a state. -/
theorem Kind.eq_power_of_expects? {kind : Kind} {key : String} (expected : kind.expects? key = some .power) :
    kind = .power ∧ key = "state" := by
  simp only [expects?] at expected
  split at expected
  next => cases expected
  next =>
    split at expected
    next found => exact found
    next => cases expected

/-- A kind with a number among its parameters keeps one. -/
theorem made_of_expects? {key : String} (expected : kind.expects? key = some .integer) (value : Int64) :
    ((made kind pins number state).withValue? value <|> (made kind pins number state).withInterval? value) =
      some (made kind pins (some value) state) := by
  cases kind with
  | button | power => simp [Kind.expects?, Kind.numberKeys] at expected
  | _ => rfl

private theorem withParameter_made {key : String} {argument : Argument} :
    (made kind pins number state).withParameter key argument = .ok part ↔
      kind.Takes key argument ∧
        part = made kind pins (argument.integer? <|> number) (argument.power? <|> state) := by
  have kept : (made kind pins number state).kind = kind := by cases kind <;> rfl
  simp only [withParameter, Kind.Takes, kept, eq_comm (a := part)]
  cases expected : kind.expects? key with
  | none => simp
  | some expectation =>
    cases expectation with
    | integer =>
      cases argument with
      | word text => simp [Argument.integer?]
      | integer value => simp [Argument.integer?, Argument.power?, made_of_expects? expected]
    | power =>
      obtain ⟨rfl, rfl⟩ := Kind.eq_power_of_expects? expected
      cases argument with
      | integer value => simp [Argument.power?]
      | word text =>
        cases named : Power.ofWord? text <;>
          simp [withStateWord, made, withPower?, Argument.power?, named]

private theorem getLast?_filterMap_cons {α β : Type} (setting? : α → Option β) (item : α) (items : List α)
    (start : Option β) :
    (((item :: items).filterMap setting?).getLast? <|> start) =
      ((items.filterMap setting?).getLast? <|> (setting? item <|> start)) := by
  cases found : setting? item with
  | none => simp [found]
  | some value =>
    simp only [List.filterMap_cons, found, List.getLast?_cons]
    cases (items.filterMap setting?).getLast? <;> rfl

/-- The parameters set the number and the state one after the other, and the last one counts. -/
theorem withParameters_made {pairs : List (String × Argument)} :
    pairs.foldlM (fun part pair => part.withParameter pair.1 pair.2) (made kind pins number state) = .ok part ↔
      (∀ pair ∈ pairs, kind.Takes pair.1 pair.2) ∧
        part = made kind pins ((pairs.filterMap fun pair => pair.2.integer?).getLast? <|> number)
          ((pairs.filterMap fun pair => pair.2.power?).getLast? <|> state) := by
  induction pairs generalizing number state with
  | nil => simp [pure, Except.pure, eq_comm (a := part)]
  | cons pair pairs ih =>
    simp only [List.foldlM_cons, except_bind_eq_ok_iff, withParameter_made, getLast?_filterMap_cons,
      List.forall_mem_cons]
    constructor
    · rintro ⟨_, ⟨takes, rfl⟩, others⟩
      obtain ⟨all, rfl⟩ := ih.mp others
      exact ⟨⟨takes, all⟩, rfl⟩
    · rintro ⟨⟨takes, all⟩, rfl⟩
      exact ⟨_, ⟨takes, rfl⟩, ih.mpr ⟨all, rfl⟩⟩

end Settings

/-- An entry describes a part exactly when its items fit the kind, and it is the part with what they give. -/
theorem described_eq_ok_iff {entry : Entry} {part : Part} :
    described entry = .ok part ↔ Fits entry ∧ part = made entry.kind entry.pins entry.number? entry.power? := by
  simp only [described, except_bind_eq_ok_iff, bound_eq_ok_iff]
  constructor
  · rintro ⟨_, ⟨takesPins, rfl⟩, _, numbered, _, stated, set⟩
    obtain ⟨takesValue, rfl⟩ := withNumber_made.mp numbered
    obtain ⟨takesState, rfl⟩ := withBareState_made.mp stated
    obtain ⟨takes, rfl⟩ := withParameters_made.mp set
    exact ⟨⟨takesPins, takesValue, takesState, takes⟩, rfl⟩
  · rintro ⟨⟨takesPins, takesValue, takesState, takes⟩, rfl⟩
    exact ⟨_, ⟨takesPins, rfl⟩, _, withNumber_made.mpr ⟨takesValue, rfl⟩, _,
      withBareState_made.mpr ⟨takesState, rfl⟩, withParameters_made.mpr ⟨takes, rfl⟩⟩

/-- A part is made of an entry exactly when the entry describes it. -/
theorem ofEntry_eq_ok_iff {entry : Entry} {part : Part} : ofEntry entry = .ok part ↔ described entry = .ok part :=
  except_mapError_eq_ok_iff

end Part

end Breadboard
