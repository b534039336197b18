import Breadboard.Proofs.Description

/-! # The table of parameters

Which items an entry of a kind may have is a table (`Kind.Lists`, `Tabulated`), and so is the part that they make
(`ofTable`): its number is looked for under `value`, then under a key that only its kind has, and then among the bare
items. An entry describes a part exactly when it keeps to the table, though the part is built from the parameters one
after the other: they come in the order of their keys, and no key of a kind stands behind `value`.

An entry that leaves the table has a first fault, `FirstFault`: the pins are looked at first, then the bare number, the
bare state word and the parameters. Main statement: `ofEntry_tabulated`.
-/

namespace Breadboard

open Script

/-! ## Parameters by their keys -/

namespace Script.Parameters

/-- Pairs stand in the order of their keys, each key once. -/
def Ascending (pairs : List (String × Argument)) : Prop :=
  pairs.Pairwise fun earlier later => earlier.1 < later.1

/-- Among parameters in order, each key has at most one argument, and it is the one that is found. -/
theorem Ascending.mem_iff_find? {pairs : List (String × Argument)} (ascending : Ascending pairs) {key : String}
    {argument : Argument} :
    (key, argument) ∈ pairs ↔ (pairs.find? fun pair => pair.1 = key).map Prod.snd = some argument := by
  induction pairs with
  | nil => simp
  | cons head rest ih =>
    obtain ⟨above, others⟩ := List.pairwise_cons.mp ascending
    by_cases here : head.1 = key
    · have absent : (key, argument) ∉ rest := fun later => by
        have less : head.1 < key := above _ later
        exact String.lt_irrefl key (here ▸ less)
      simp [absent, here, Prod.ext_iff, eq_comm]
    · have differ : (key, argument) ≠ head := fun same => here (same ▸ rfl)
      simp [differ, here, ih others]

private theorem Ascending.nodup {pairs : List (String × Argument)} (ascending : Ascending pairs) : pairs.Nodup := by
  refine ascending.imp ?_
  rintro pair _ less rfl
  exact String.lt_irrefl pair.1 less

/-- Pairs in the order of their keys are known by what they hold. -/
theorem Ascending.ext {pairs others : List (String × Argument)} (ascending : Ascending pairs)
    (ascending' : Ascending others) (same : ∀ pair, pair ∈ pairs ↔ pair ∈ others) : pairs = others :=
  List.Perm.eq_of_pairwise (fun _ _ _ _ less greater => absurd less (String.lt_asymm greater)) ascending ascending'
    ((List.perm_ext_iff_of_nodup ascending.nodup ascending'.nodup).mpr same)

/-- What stands under some keys. -/
def under (parameters : Parameters) (keys : List String) : List (String × Argument) :=
  keys.filterMap fun key => (parameters.find? key).map fun argument => (key, argument)

private theorem mem_under {parameters : Parameters} {keys : List String} {key : String} {argument : Argument} :
    (key, argument) ∈ parameters.under keys ↔ key ∈ keys ∧ parameters.find? key = some argument := by
  simp [under]

private theorem under_ascending (parameters : Parameters) {keys : List String} (ascending : keys.Pairwise (· < ·)) :
    Ascending (parameters.under keys) := by
  refine ascending.filterMap _ fun key other less pair found second found' => ?_
  obtain ⟨_, _, rfl⟩ := Option.map_eq_some_iff.mp found
  obtain ⟨_, _, rfl⟩ := Option.map_eq_some_iff.mp found'
  exact less

/-- Where only some keys occur, the parameters are what stands under these. -/
theorem toList_eq_under (parameters : Parameters) {keys : List String} (ascending : keys.Pairwise (· < ·))
    (known : ∀ pair ∈ parameters.toList, pair.1 ∈ keys) : parameters.toList = parameters.under keys := by
  refine Ascending.ext parameters.ascending (parameters.under_ascending ascending) ?_
  rintro ⟨key, argument⟩
  have listed : (key, argument) ∈ parameters.toList ↔ parameters.find? key = some argument :=
    Ascending.mem_iff_find? parameters.ascending
  rw [mem_under, ← listed]
  exact ⟨fun member => ⟨known _ member, member⟩, And.right⟩

/-- What the parameters set last stands under the last of these keys that sets anything. -/
theorem getLast?_settings {α : Type} (parameters : Parameters) (setting? : Argument → Option α) {keys : List String}
    (ascending : keys.Pairwise (· < ·)) (known : ∀ pair ∈ parameters.toList, pair.1 ∈ keys) :
    (parameters.toList.filterMap fun pair => setting? pair.2).getLast? =
      keys.reverse.findSome? fun key => (parameters.find? key).bind setting? := by
  rw [parameters.toList_eq_under ascending known, under, List.filterMap_filterMap, List.getLast?_filterMap]
  congr 1
  funext key
  cases parameters.find? key <;> rfl

end Script.Parameters

/-! ## The table -/

namespace Part

/-- The kinds of parts that have a value, which a bare number sets too. -/
def Kind.valued : List Kind :=
  [.light, .servo, .stepper, .wait]

/-- The parameters that entries of a kind can have. -/
inductive Kind.Lists : Kind → String → Argument → Prop where
  | value {kind : Kind} (valued : kind ∈ Kind.valued) (number : Int64) :
      Lists kind "value" (.integer number)
  | angle (number : Int64) : Lists .servo "angle" (.integer number)
  | steps (number : Int64) : Lists .stepper "steps" (.integer number)
  | milliseconds (number : Int64) : Lists .wait "ms" (.integer number)
  | interval (number : Int64) : Lists .blinker "interval" (.integer number)
  | state {word : String} {state : Power} (names : Text.lowercaseAscii word ∈ state.words) :
      Lists .power "state" (.word word)

/-- A stepper takes any pins, a wait none, and every other part one at most. -/
def PinsFit (entry : Entry) : Prop :=
  entry.kind = .stepper ∨ entry.kind = .wait ∧ entry.pins = [] ∨ entry.kind ≠ .wait ∧ entry.pins.length ≤ 1

def ValueFits (entry : Entry) : Prop :=
  entry.value = none ∨ entry.kind ∈ Kind.valued

/-- A bare state word names a state; only power controllers heed it. -/
def StateFits (entry : Entry) : Prop :=
  entry.kind = .power → ∀ word, entry.state = some word → ∃ state : Power, Text.lowercaseAscii word ∈ state.words

/-- The entry keeps to the table. -/
structure Tabulated (entry : Entry) : Prop where
  pins : PinsFit entry
  value : ValueFits entry
  state : StateFits entry
  parameters : ∀ pair ∈ entry.parameters.toList, entry.kind.Lists pair.1 pair.2

/-- The integer that stands under a key. -/
def integerUnder? (entry : Entry) (key : String) : Option Int64 :=
  (entry.parameters.find? key).bind Argument.integer?

/-- The power state that stands under a key. -/
def powerUnder? (entry : Entry) (key : String) : Option Power :=
  (entry.parameters.find? key).bind Argument.power?

/-- The part that the table makes of an entry. -/
def ofTable (entry : Entry) : Part :=
  match entry.kind with
  | .light => .light entry.pins.head? ((integerUnder? entry "value" <|> entry.value).getD 0)
  | .button => .button entry.pins.head?
  | .servo =>
    .servo entry.pins.head? ((integerUnder? entry "value" <|> integerUnder? entry "angle" <|> entry.value).getD 90)
  | .stepper =>
    .stepper entry.pins ((integerUnder? entry "value" <|> integerUnder? entry "steps" <|> entry.value).getD 200)
  | .wait => .wait ((integerUnder? entry "value" <|> integerUnder? entry "ms" <|> entry.value).getD 0)
  | .blinker => .blinker entry.pins.head? ((integerUnder? entry "interval").getD 1000)
  | .power =>
    .power entry.pins.head? ((powerUnder? entry "state" <|> entry.state.bind Power.ofWord?).getD .on)

private theorem Kind.expects?_eq_integer_iff {kind : Kind} {key : String} :
    kind.expects? key = some .integer ↔ key ∈ kind.numberKeys := by
  unfold expects?
  split
  next member => simp [member]
  next absent => split <;> simp [absent]

private theorem Kind.expects?_eq_power_iff {kind : Kind} {key : String} :
    kind.expects? key = some .power ↔ kind = .power ∧ key = "state" := by
  refine ⟨Kind.eq_power_of_expects?, ?_⟩
  rintro ⟨rfl, rfl⟩
  rfl

private theorem Kind.lists_integer_iff {kind : Kind} {key : String} {number : Int64} :
    kind.Lists key (.integer number) ↔ key ∈ kind.numberKeys := by
  constructor
  · intro lists
    cases lists with
    | value valued => cases kind <;> simp_all [numberKeys, Kind.valued]
    | _ => simp [numberKeys]
  · intro member
    cases kind <;> simp only [numberKeys, List.mem_cons, List.not_mem_nil, or_false] at member
    case light => exact member ▸ .value (by decide) number
    case servo =>
      rcases member with rfl | rfl
      · exact .angle number
      · exact .value (by decide) number
    case stepper =>
      rcases member with rfl | rfl
      · exact .steps number
      · exact .value (by decide) number
    case wait =>
      rcases member with rfl | rfl
      · exact .milliseconds number
      · exact .value (by decide) number
    case blinker => exact member ▸ .interval number

private theorem isSome_ofWord?_iff {word : String} :
    (Power.ofWord? word).isSome = true ↔ ∃ state : Power, Text.lowercaseAscii word ∈ state.words := by
  simp [Option.isSome_iff_exists, Power.ofWord?_eq_some_iff]

private theorem ofWord?_eq_none_iff {word : String} :
    Power.ofWord? word = none ↔ ∀ state : Power, Text.lowercaseAscii word ∉ state.words := by
  rw [← Option.not_isSome_iff_eq_none, isSome_ofWord?_iff, not_exists]

private theorem Kind.lists_word_iff {kind : Kind} {key word : String} :
    kind.Lists key (.word word) ↔ (kind = .power ∧ key = "state") ∧ (Power.ofWord? word).isSome = true := by
  rw [isSome_ofWord?_iff]
  constructor
  · rintro (_ | _ | _ | _ | _ | ⟨names⟩)
    exact ⟨⟨rfl, rfl⟩, _, names⟩
  · rintro ⟨⟨rfl, rfl⟩, state, names⟩
    exact .state names

/-- A kind takes the parameters that the table lists for it. -/
theorem Kind.takes_iff_lists {kind : Kind} {key : String} {argument : Argument} :
    kind.Takes key argument ↔ kind.Lists key argument := by
  cases argument with
  | integer number =>
    rw [lists_integer_iff, ← expects?_eq_integer_iff, Takes]
    cases kind.expects? key with
    | none => simp
    | some expectation => cases expectation <;> simp [Argument.integer?, Argument.power?]
  | word text =>
    rw [lists_word_iff, ← expects?_eq_power_iff, Takes]
    cases kind.expects? key with
    | none => simp
    | some expectation => cases expectation <;> simp [Argument.integer?, Argument.power?]

/-- A kind takes the pins that the table allows. -/
theorem takesPins_iff {entry : Entry} : entry.kind.TakesPins entry.pins ↔ PinsFit entry := by
  unfold PinsFit
  cases entry.kind <;> simp [Kind.TakesPins]

private theorem Kind.takesValue_iff {kind : Kind} :
    kind.takesValue = true ↔ kind ∈ valued := by
  cases kind <;> simp [takesValue, valued]

/-- A bare number sets something exactly where the table allows one. -/
theorem takesValue_iff {entry : Entry} :
    (entry.value.isSome = true → entry.kind.takesValue = true) ↔ ValueFits entry := by
  rw [ValueFits, ← Kind.takesValue_iff]
  cases entry.value <;> simp

/-- A bare word names a state exactly where the table asks for one. -/
theorem takesState_iff {entry : Entry} :
    (entry.kind = .power → ∀ word ∈ entry.state, (Power.ofWord? word).isSome = true) ↔ StateFits entry := by
  simp only [StateFits, isSome_ofWord?_iff, Option.mem_def]

/-- An entry keeps to the table exactly when each of its items fits its kind. -/
theorem tabulated_iff_fits {entry : Entry} : Tabulated entry ↔ Fits entry := by
  constructor
  · rintro ⟨pins, value, state, parameters⟩
    exact ⟨takesPins_iff.mpr pins, takesValue_iff.mpr value, takesState_iff.mpr state,
      fun pair member => Kind.takes_iff_lists.mpr (parameters pair member)⟩
  · rintro ⟨pins, value, state, parameters⟩
    exact ⟨takesPins_iff.mp pins, takesValue_iff.mp value, takesState_iff.mp state,
      fun pair member => Kind.takes_iff_lists.mp (parameters pair member)⟩

/-- No key of a kind stands behind `value`. -/
theorem Kind.numberKeys_ascending (kind : Kind) : kind.numberKeys.Pairwise (· < ·) := by
  cases kind <;> decide

private theorem mem_numberKeys_of_tabulated {entry : Entry} (tabulated : Tabulated entry)
    (numbered : entry.kind ≠ .power) : ∀ pair ∈ entry.parameters.toList, pair.1 ∈ entry.kind.numberKeys := by
  rintro ⟨key, argument⟩ member
  have lists := tabulated.parameters _ member
  cases argument with
  | integer number => exact Kind.lists_integer_iff.mp lists
  | word text => exact absurd (Kind.lists_word_iff.mp lists).1.1 numbered

private theorem key_eq_state_of_tabulated {entry : Entry} (tabulated : Tabulated entry) (power : entry.kind = .power) :
    ∀ pair ∈ entry.parameters.toList, pair.1 ∈ ["state"] := by
  rintro ⟨key, argument⟩ member
  have lists := tabulated.parameters _ member
  rw [power] at lists
  cases lists with
  | value valued => simp [Kind.valued] at valued
  | state names => simp

private theorem findSome?_cons_orElse {α β : Type} (found? : α → Option β) (item : α) (items : List α) :
    (item :: items).findSome? found? = (found? item <|> items.findSome? found?) := by
  rw [List.findSome?_cons]
  cases found? item <;> rfl

/-- What the settings make of an entry, one after the other, is what the table makes of it. -/
theorem made_eq_ofTable {entry : Entry} (tabulated : Tabulated entry) :
    made entry.kind entry.pins entry.number? entry.power? = ofTable entry := by
  by_cases power : entry.kind = .power
  · have state : entry.power? = (powerUnder? entry "state" <|> entry.state.bind Power.ofWord?) := by
      rw [Entry.power?, entry.parameters.getLast?_settings Argument.power? (List.pairwise_singleton _ _)
        (key_eq_state_of_tabulated tabulated power)]
      simp [powerUnder?, findSome?_cons_orElse]
    simp only [made, ofTable, power, state]
  · have number : entry.number? = (entry.kind.numberKeys.reverse.findSome? (integerUnder? entry) <|> entry.value) := by
      rw [Entry.number?, entry.parameters.getLast?_settings Argument.integer? entry.kind.numberKeys_ascending
        (mem_numberKeys_of_tabulated tabulated power)]
      rfl
    cases kind : entry.kind with
    | power => exact absurd kind power
    | button => simp only [made, ofTable, kind]
    | blinker =>
      have bare : entry.value = none := by simpa [ValueFits, kind, Kind.valued] using tabulated.value
      simp [made, ofTable, kind, number, bare, Kind.numberKeys, findSome?_cons_orElse]
    | _ => simp [made, ofTable, kind, number, Kind.numberKeys, findSome?_cons_orElse]

/-! ## The first fault -/

/-- What is wrong with a parameter that is not in the table. -/
inductive Kind.Rejects (kind : Kind) : String → Argument → EntryFault → Prop where
  | unknown {key : String} (argument : Argument) (unlisted : ∀ other, ¬kind.Lists key other) :
      Rejects kind key argument (.unknownParameter key)
  | notAnInteger {key : String} {number : Int64} (listed : kind.Lists key (.integer number)) (word : String) :
      Rejects kind key (.word word) (.wrongArgument key .integer (.word word))
  | notAWord {key word : String} (listed : kind.Lists key (.word word)) (number : Int64) :
      Rejects kind key (.integer number) (.wrongArgument key .power (.integer number))
  | notAState {key other word : String} (listed : kind.Lists key (.word other))
      (unnamed : ∀ state : Power, Text.lowercaseAscii word ∉ state.words) :
      Rejects kind key (.word word) (.notAState key word)

/-- The item of an entry that leaves the table first, and how. -/
inductive FirstFault (entry : Entry) : EntryFault → Prop where
  | pinOfWait {pin : Pin} {rest : List Pin} (kind : entry.kind = .wait) (pins : entry.pins = pin :: rest) :
      FirstFault entry (.pinOfWait pin)
  | secondPin {first second : Pin} {rest : List Pin} (kind : entry.kind ∉ [.stepper, .wait])
      (pins : entry.pins = first :: second :: rest) : FirstFault entry (.secondPin second)
  | value {number : Int64} (pins : PinsFit entry) (kind : entry.kind ∉ Kind.valued)
      (given : entry.value = some number) : FirstFault entry (.valueNotTaken number)
  | state {word : String} (pins : PinsFit entry) (value : ValueFits entry) (kind : entry.kind = .power)
      (given : entry.state = some word) (unnamed : ∀ state : Power, Text.lowercaseAscii word ∉ state.words) :
      FirstFault entry (.notAState "state" word)
  | parameter {front back : List (String × Argument)} {pair : String × Argument} {fault : EntryFault}
      (pins : PinsFit entry) (value : ValueFits entry) (state : StateFits entry)
      (split : entry.parameters.toList = front ++ pair :: back)
      (listed : ∀ earlier ∈ front, entry.kind.Lists earlier.1 earlier.2)
      (rejects : entry.kind.Rejects pair.1 pair.2 fault) : FirstFault entry fault

private theorem Kind.exists_rejects {kind : Kind} {key : String} {argument : Argument}
    (unlisted : ¬kind.Lists key argument) : ∃ fault, kind.Rejects key argument fault := by
  by_cases known : ∃ other, kind.Lists key other
  · obtain ⟨other, listed⟩ := known
    cases argument with
    | integer number =>
      cases other with
      | integer other => exact absurd (lists_integer_iff.mpr (lists_integer_iff.mp listed)) unlisted
      | word other => exact ⟨_, .notAWord listed number⟩
    | word word =>
      cases other with
      | integer other => exact ⟨_, .notAnInteger listed word⟩
      | word other =>
        refine ⟨_, .notAState listed fun state names => unlisted ?_⟩
        obtain ⟨⟨rfl, rfl⟩, -⟩ := lists_word_iff.mp listed
        exact .state names
  · exact ⟨_, .unknown argument (not_exists.mp known)⟩

private theorem withParameter_of_rejects {kind : Kind} {pins : List Pin} {number : Option Int64} {state : Option Power}
    {key : String} {argument : Argument} {fault : EntryFault} (rejects : kind.Rejects key argument fault) :
    (made kind pins number state).withParameter key argument = .error fault := by
  have kept : (made kind pins number state).kind = kind := by cases kind <;> rfl
  cases rejects with
  | unknown argument unlisted =>
    have expected : kind.expects? key = none := by
      cases expected : kind.expects? key with
      | none => rfl
      | some expectation =>
        cases expectation with
        | integer =>
          have known := Kind.expects?_eq_integer_iff.mp expected
          exact absurd (Kind.lists_integer_iff.mpr known) (unlisted (.integer 0))
        | power =>
          have power := Kind.expects?_eq_power_iff.mp expected
          exact absurd (Kind.lists_word_iff.mpr ⟨power, by decide +kernel⟩) (unlisted (.word "on"))
    simp only [withParameter, kept, expected]
  | notAnInteger listed word =>
    simp only [withParameter, kept, Kind.expects?_eq_integer_iff.mpr (Kind.lists_integer_iff.mp listed)]
  | notAWord listed number =>
    simp only [withParameter, kept, Kind.expects?_eq_power_iff.mpr (Kind.lists_word_iff.mp listed).1]
  | @notAState other word listed unnamed =>
    simp only [withParameter, kept, Kind.expects?_eq_power_iff.mpr (Kind.lists_word_iff.mp listed).1, withStateWord,
      ofWord?_eq_none_iff.mpr unnamed]

private theorem exists_first_of_not_forall {α : Type} {holds : α → Prop} {items : List α}
    (fails : ¬∀ item ∈ items, holds item) :
    ∃ front item back, items = front ++ item :: back ∧ (∀ earlier ∈ front, holds earlier) ∧ ¬holds item := by
  induction items with
  | nil => simp at fails
  | cons head rest ih =>
    by_cases first : holds head
    · have later : ¬∀ item ∈ rest, holds item := fun all => fails (List.forall_mem_cons.mpr ⟨first, all⟩)
      obtain ⟨front, item, back, rfl, before, broken⟩ := ih later
      exact ⟨head :: front, item, back, rfl, List.forall_mem_cons.mpr ⟨first, before⟩, broken⟩
    · exact ⟨[], head, rest, rfl, by simp, first⟩

/-- An entry that leaves the table does so at some item first. -/
theorem exists_firstFault {entry : Entry} (leaves : ¬Tabulated entry) : ∃ fault, FirstFault entry fault := by
  by_cases pins : PinsFit entry
  · by_cases value : ValueFits entry
    · by_cases state : StateFits entry
      · have unlisted : ¬∀ pair ∈ entry.parameters.toList, entry.kind.Lists pair.1 pair.2 :=
          fun parameters => leaves ⟨pins, value, state, parameters⟩
        obtain ⟨front, pair, back, split, listed, unlisted⟩ := exists_first_of_not_forall unlisted
        obtain ⟨fault, rejects⟩ := Kind.exists_rejects unlisted
        exact ⟨fault, .parameter pins value state split listed rejects⟩
      · simp only [StateFits, Classical.not_forall, not_exists] at state
        obtain ⟨power, word, given, unnamed⟩ := state
        exact ⟨_, .state pins value power given unnamed⟩
    · rw [ValueFits, not_or] at value
      obtain ⟨number, given⟩ := Option.ne_none_iff_exists'.mp value.1
      exact ⟨_, .value pins value.2 given⟩
  · rw [PinsFit, not_or, not_or] at pins
    obtain ⟨stepper, wait, single⟩ := pins
    by_cases kind : entry.kind = .wait
    · obtain ⟨pin, rest, shape⟩ := List.exists_cons_of_ne_nil fun none => wait ⟨kind, none⟩
      exact ⟨_, .pinOfWait kind shape⟩
    · rcases shape : entry.pins with _ | ⟨first, _ | ⟨second, rest⟩⟩
      · exact absurd ⟨kind, by simp [shape]⟩ single
      · exact absurd ⟨kind, by simp [shape]⟩ single
      · exact ⟨_, .secondPin (by simp [stepper, kind]) shape⟩

/-! Each stage that an entry passes leaves the description to the stages behind it. -/

section Stages

variable {entry : Entry} (pins : PinsFit entry)

include pins

private theorem described_of_pins : described entry = (do
    let part ← (made entry.kind entry.pins none none).withNumber entry.value
    let part ← part.withBareState entry.state
    entry.parameters.toList.foldlM (fun part pair => part.withParameter pair.1 pair.2) part) := by
  have passed : bound entry.kind entry.pins = .ok (made entry.kind entry.pins none none) :=
    bound_eq_ok_iff.mpr ⟨takesPins_iff.mpr pins, rfl⟩
  rw [described, passed]
  rfl

private theorem described_of_value (value : ValueFits entry) : described entry = (do
    let part ← (made entry.kind entry.pins entry.value none).withBareState entry.state
    entry.parameters.toList.foldlM (fun part pair => part.withParameter pair.1 pair.2) part) := by
  rw [described_of_pins pins, withNumber_made.mpr ⟨takesValue_iff.mpr value, rfl⟩]
  rfl

private theorem described_of_state (value : ValueFits entry) (state : StateFits entry) : described entry =
    entry.parameters.toList.foldlM (fun part pair => part.withParameter pair.1 pair.2)
      (made entry.kind entry.pins entry.value (entry.state.bind Power.ofWord?)) := by
  rw [described_of_value pins value, withBareState_made.mpr ⟨takesState_iff.mpr state, rfl⟩]
  rfl

end Stages

/-- The first fault of an entry, in the order of its items, is the one that is told. -/
theorem FirstFault.described_eq {entry : Entry} {fault : EntryFault} (first : FirstFault entry fault) :
    described entry = .error fault := by
  cases first with
  | pinOfWait kind pins =>
    rw [described, kind, pins]
    rfl
  | secondPin kind pins =>
    rw [described, pins]
    cases shape : entry.kind with
    | stepper | wait => simp [shape] at kind
    | _ => rfl
  | @value number pins kind given =>
    have refused : (made entry.kind entry.pins none none).withValue? number = none := by
      cases shape : entry.kind <;> simp [shape, Kind.valued] at kind <;> rfl
    rw [described_of_pins pins, given, withNumber, refused]
    rfl
  | @state word pins value kind given unnamed =>
    have power : (made entry.kind entry.pins entry.value none).kind = .power := by rw [kind]; rfl
    rw [described_of_value pins value, given, withBareState, if_pos power, withStateWord,
      ofWord?_eq_none_iff.mpr unnamed]
    rfl
  | @parameter front back pair _ pins value state split listed rejects =>
    rw [described_of_state pins value state, split, List.foldlM_append,
      withParameters_made.mpr ⟨fun pair member => Kind.takes_iff_lists.mpr (listed pair member), rfl⟩]
    change ((pair :: back).foldlM (fun part pair => part.withParameter pair.1 pair.2) (made _ _ _ _) :
      Except EntryFault Part) = _
    rw [List.foldlM_cons, withParameter_of_rejects rejects]
    rfl

/-- Making a part tells the fault in the entry's description, with its kind and its line. -/
theorem ofEntry_eq_error_iff {entry : Entry} {error : EntryError} :
    ofEntry entry = .error error ↔
      ∃ fault, described entry = .error fault ∧ error = ⟨entry.kind, entry.line, fault⟩ := by
  unfold ofEntry
  cases described entry with
  | ok part => exact ⟨nofun, fun ⟨_, failed, _⟩ => nomatch failed⟩
  | error fault =>
    constructor
    · intro failed
      exact ⟨fault, rfl, (Except.error.inj failed).symm⟩
    · rintro ⟨_, same, rfl⟩
      cases same
      rfl

/-- An entry describes a part exactly when it keeps to the table of its kind, and then the part that the table makes
of it. Otherwise its first fault is told, with the kind and the line. -/
theorem ofEntry_tabulated (entry : Entry) :
    (∀ part, ofEntry entry = .ok part ↔ Tabulated entry ∧ part = ofTable entry) ∧
      ∀ error, ofEntry entry = .error error ↔
        ∃ fault, FirstFault entry fault ∧ error = ⟨entry.kind, entry.line, fault⟩ := by
  have success (part : Part) : ofEntry entry = .ok part ↔ Tabulated entry ∧ part = ofTable entry := by
    rw [ofEntry_eq_ok_iff, described_eq_ok_iff, ← tabulated_iff_fits]
    exact and_congr_right fun tabulated => by rw [made_eq_ofTable tabulated]
  refine ⟨success, fun error => ?_⟩
  rw [ofEntry_eq_error_iff]
  constructor
  · rintro ⟨fault, failed, rfl⟩
    have leaves : ¬Tabulated entry := fun tabulated => by
      have read := ofEntry_eq_ok_iff.mp ((success _).mpr ⟨tabulated, rfl⟩)
      rw [failed] at read
      cases read
    obtain ⟨first, faulty⟩ := exists_firstFault leaves
    rw [faulty.described_eq] at failed
    cases failed
    exact ⟨fault, faulty, rfl⟩
  · rintro ⟨fault, faulty, rfl⟩
    exact ⟨fault, faulty.described_eq, rfl⟩

/-- Whatever the order in which they are written, `value` counts for more than `angle`, and both for more than a bare
number. -/
example : ofEntry ⟨.servo, [⟨"D5"⟩], some 1, some "off", .ofList [("value", .integer 30), ("angle", .integer 20)], 4⟩ =
    .ok (.servo (some ⟨"D5"⟩) 30) := by
  rfl

end Part

end Breadboard
