import Breadboard.Proofs.Description
import Breadboard.Proofs.LetterCase
import Breadboard.Proofs.Provenance
import Mathlib.Logic.Relation

/-! # Other words for the same part

The items of an entry mean the same with their keys and their state in other letters, in another order, as long as the
bare words keep theirs, and with the one number given in another way. `Item.Rewords` is one such change. Main
statement: `Item.Rewords.describes`.
-/

namespace Breadboard

open Script

namespace Script

/-! ## Parameters in any order -/

namespace Parameters

private theorem insertPair_perm {key : String} {argument : Argument} {pairs : List (String × Argument)}
    (fresh : key ∉ pairs.map Prod.fst) : (insertPair key argument pairs).Perm ((key, argument) :: pairs) := by
  induction pairs with
  | nil => exact .refl _
  | cons head rest ih =>
    rw [List.map_cons, List.mem_cons, not_or] at fresh
    obtain ⟨differ, fresh⟩ := fresh
    simp only [insertPair, differ, if_false]
    split
    next => exact .refl _
    next => exact ((ih fresh).cons head).trans (.swap _ _ _)

/-- Parameters with different keys are all there. -/
theorem toList_ofList_perm {pairs : List (String × Argument)} (keys : (pairs.map Prod.fst).Nodup) :
    (ofList pairs).toList.Perm pairs := by
  induction pairs using List.reverseRecOn with
  | nil => exact .refl _
  | append_singleton pairs pair ih =>
    rw [List.map_append] at keys
    obtain ⟨keys, -, apart⟩ := List.nodup_append.mp keys
    have there := ih keys
    have fresh : pair.1 ∉ (ofList pairs).toList.map Prod.fst := by
      rw [(there.map Prod.fst).mem_iff]
      exact fun member => apart _ member _ (List.mem_singleton_self _) rfl
    rw [ofList_concat]
    exact (insertPair_perm fresh).trans ((there.cons pair).trans (List.perm_append_singleton pair pairs).symm)

private theorem ofList_eq_of_perm {pairs others : List (String × Argument)} (keys : (pairs.map Prod.fst).Nodup)
    (perm : pairs.Perm others) : ofList others = ofList pairs := by
  have same : (ofList others).toList.Perm (ofList pairs).toList :=
    (toList_ofList_perm ((perm.map Prod.fst).nodup_iff.mp keys)).trans
      (perm.symm.trans (toList_ofList_perm keys).symm)
  have equal : (ofList others).toList = (ofList pairs).toList :=
    List.Perm.eq_of_pairwise (fun _ _ _ _ less greater => absurd less (String.lt_asymm greater))
      (ofList others).ascending (ofList pairs).ascending same
  cases left : ofList others
  cases right : ofList pairs
  rw [left, right] at equal
  cases equal
  rfl

end Parameters

/-! ## One change of an entry -/

namespace Item

/-- The number that the item gives to an entry of the kind. -/
def integer? (kind : Part.Kind) : Item → Option Int64
  | .number value => if kind.takesValue then some value else none
  | .parameter key (.integer value) => if Text.lowercase key ∈ kind.numberKeys then some value else none
  | _ => none

/-- One change of the items of an entry: the case of a key, the case of a word that is read as a state, the order of
the items but not of the bare words, and the way in which the one number of the entry is given. -/
inductive Rewords (kind : Part.Kind) : List Item → List Item → Prop where
  | key {front back : List Item} {key other : String} {argument : Argument}
      (same : Text.lowercaseAscii other = Text.lowercaseAscii key) :
      Rewords kind (front ++ .parameter key argument :: back) (front ++ .parameter other argument :: back)
  | state {front back : List Item} {word other : String} (names : namesState kind word = true)
      (first : ∀ text, .word text ∈ front → namesState kind text = false)
      (same : Text.lowercaseAscii other = Text.lowercaseAscii word) :
      Rewords kind (front ++ .word word :: back) (front ++ .word other :: back)
  | stateArgument {front back : List Item} {key word other : String} (power : kind = .power)
      (named : Text.lowercase key = "state") (same : Text.lowercaseAscii other = Text.lowercaseAscii word) :
      Rewords kind (front ++ .parameter key (.word word) :: back) (front ++ .parameter key (.word other) :: back)
  | order {items others : List Item} (perm : items.Perm others)
      (words : others.filterMap word? = items.filterMap word?) : Rewords kind items others
  | number {front back : List Item} {item other : Item} {value : Int64} (given : item.integer? kind = some value)
      (same : other.integer? kind = some value) (once : ∀ item ∈ front ++ back, item.integer? kind = none) :
      Rewords kind (front ++ item :: back) (front ++ other :: back)

variable {kind : Part.Kind} {items others : List Item} {part : Part} {line : Nat}

/-- The items are consistent, and as an entry they describe the part. -/
structure Describes (kind : Part.Kind) (items : List Item) (line : Nat) (part : Part) : Prop where
  consistent : Consistent items
  described : Part.described (.ofItems kind items line) = .ok part

/-- Items with the same words, numbers and parameters describe the same part. -/
theorem Describes.of_eq (describes : Describes kind items line part)
    (words : others.filterMap word? = items.filterMap word?)
    (numbers : others.filterMap number? = items.filterMap number?)
    (keys : ((others.filterMap parameter?).map Prod.fst).Nodup)
    (parameters : Parameters.ofList (others.filterMap parameter?) = .ofList (items.filterMap parameter?)) :
    Describes kind others line part := by
  obtain ⟨consistent, described⟩ := describes
  refine ⟨⟨numbers ▸ consistent.numbers, keys⟩, ?_⟩
  rw [← described, Entry.ofItems, Entry.ofItems, pins, pins, state?, state?, words, numbers, parameters]

/-- What is read off the items item by item sees of a changed item only what is read off it. -/
theorem filterMap_changed {α : Type} {read? : Item → Option α} {front back : List Item} {item other : Item}
    (same : read? other = read? item) :
    (front ++ other :: back).filterMap read? = (front ++ item :: back).filterMap read? := by
  rw [List.filterMap_append, List.filterMap_cons, same, List.filterMap_append, List.filterMap_cons]

private theorem parameter?_of_lowercaseAscii_eq {key other : String} {argument : Argument}
    (same : Text.lowercaseAscii other = Text.lowercaseAscii key) :
    parameter? (.parameter other argument) = parameter? (.parameter key argument) := by
  simp only [parameter?, Text.lowercase_eq_of_lowercaseAscii_eq same]

private theorem eq_of_perm_of_length_le_one {α : Type} {left right : List α} (perm : left.Perm right)
    (short : left.length ≤ 1) : right = left := by
  match left, short with
  | [], _ => exact perm.symm.eq_nil
  | [_], _ => exact perm.symm.eq_singleton

/-- The items may stand in another order, as long as the words among them keep theirs. -/
theorem Describes.of_perm (describes : Describes kind items line part) (perm : items.Perm others)
    (words : others.filterMap word? = items.filterMap word?) : Describes kind others line part := by
  obtain ⟨numbers, keys⟩ := describes.consistent
  refine describes.of_eq words ?_ ?_ ?_
  · exact eq_of_perm_of_length_le_one (perm.filterMap number?) numbers
  · exact ((perm.filterMap parameter?).map Prod.fst).nodup_iff.mp keys
  · exact Parameters.ofList_eq_of_perm keys (perm.filterMap parameter?)

def Fits (kind : Part.Kind) : Item → Prop
  | .word _ => True
  | .number _ => kind.takesValue = true
  | .parameter key argument => kind.Takes (Text.lowercase key) argument

private theorem state?_isSome {text : String} (found : text ∈ state? kind items) :
    (Power.ofWord? text).isSome = true := by
  have names := List.find?_some found
  simp only [namesState, Bool.and_eq_true] at names
  exact names.2

private theorem mem_parameters_iff (consistent : Consistent items) {pair : String × Argument} :
    pair ∈ (Entry.ofItems kind items line).parameters.toList ↔
      ∃ key argument, .parameter key argument ∈ items ∧ pair = (Text.lowercase key, argument) := by
  refine (Parameters.toList_ofList_perm consistent.keys).mem_iff.trans (List.mem_filterMap.trans ?_)
  constructor
  · rintro ⟨item, member, found⟩
    cases item <;> cases found
    exact ⟨_, _, member, rfl⟩
  · rintro ⟨key, argument, member, rfl⟩
    exact ⟨_, member, rfl⟩

private theorem fits_ofItems_iff (consistent : Consistent items) :
    Part.Fits (.ofItems kind items line) ↔ kind.TakesPins (pins kind items) ∧ ∀ item ∈ items, item.Fits kind := by
  constructor
  · rintro ⟨pins, value, -, parameters⟩
    refine ⟨pins, fun item member => ?_⟩
    cases item with
    | word text => trivial
    | number number =>
      have listed : number ∈ items.filterMap number? := List.mem_filterMap.mpr ⟨_, member, rfl⟩
      exact value (List.isSome_head?.mpr (List.ne_nil_of_mem listed))
    | parameter key argument => exact parameters _ ((mem_parameters_iff consistent).mpr ⟨key, argument, member, rfl⟩)
  · rintro ⟨pins, fits⟩
    refine ⟨pins, fun given => ?_, fun _ text found => state?_isSome found, fun pair member => ?_⟩
    · obtain ⟨item, member, found⟩ := List.mem_filterMap.mp (List.head_mem (List.isSome_head?.mp given))
      cases item <;> cases found
      exact fits _ member
    · obtain ⟨key, argument, listed, rfl⟩ := (mem_parameters_iff consistent).mp member
      exact fits _ listed

/-- Items describe a part when they are consistent and each of them fits. -/
theorem describes_iff : Describes kind items line part ↔
    Consistent items ∧ kind.TakesPins (pins kind items) ∧ (∀ item ∈ items, item.Fits kind) ∧
      part = .made kind (pins kind items) (Entry.ofItems kind items line).number?
        (Entry.ofItems kind items line).power? := by
  constructor
  · rintro ⟨consistent, described⟩
    obtain ⟨fits, made⟩ := Part.described_eq_ok_iff.mp described
    obtain ⟨takes, fits⟩ := (fits_ofItems_iff consistent).mp fits
    exact ⟨consistent, takes, fits, made⟩
  · rintro ⟨consistent, takes, fits, made⟩
    exact ⟨consistent, Part.described_eq_ok_iff.mpr ⟨(fits_ofItems_iff consistent).mpr ⟨takes, fits⟩, made⟩⟩

/-! ### The state -/

private theorem words_append_cons (front back : List Item) (text : String) :
    (front ++ .word text :: back).filterMap word? = front.filterMap word? ++ text :: back.filterMap word? := by
  rw [List.filterMap_append, List.filterMap_cons]
  rfl

/-- The first word that can be the state is the state, and the others are the pins. -/
theorem state?_append_cons {front : List Item} (back : List Item) {word : String}
    (names : namesState kind word = true) (first : ∀ text, .word text ∈ front → namesState kind text = false) :
    state? kind (front ++ .word word :: back) = some word ∧
      pins kind (front ++ .word word :: back) = (front.filterMap word? ++ back.filterMap word?).map Pin.mk := by
  have others : ∀ text ∈ front.filterMap word?, ¬namesState kind text = true := by
    intro text member
    obtain ⟨item, listed, found⟩ := List.mem_filterMap.mp member
    cases item <;> cases found
    simp [first text listed]
  rw [state?, pins, words_append_cons]
  constructor
  · rw [List.find?_append, List.find?_eq_none.mpr others]
    simp [names]
  · rw [List.eraseP_append_right _ others, List.eraseP_cons_of_pos names]

private theorem Describes.of_state {front back : List Item} {word other : String}
    (describes : Describes kind (front ++ .word word :: back) line part) (names : namesState kind word = true)
    (first : ∀ text, .word text ∈ front → namesState kind text = false)
    (same : Text.lowercaseAscii other = Text.lowercaseAscii word) :
    Describes kind (front ++ .word other :: back) line part := by
  have state : Power.ofWord? other = Power.ofWord? word := by simp only [Power.ofWord?, same]
  have otherNames : namesState kind other = true := by rwa [namesState, state]
  obtain ⟨found, pinned⟩ := state?_append_cons back names first
  obtain ⟨otherFound, otherPinned⟩ := state?_append_cons back otherNames first
  have numbered : (front ++ .word other :: back).filterMap number? =
      (front ++ .word word :: back).filterMap number? := filterMap_changed rfl
  have parameters : (front ++ .word other :: back).filterMap parameter? =
      (front ++ .word word :: back).filterMap parameter? := filterMap_changed rfl
  obtain ⟨⟨numbers, keys⟩, takes, fits, made⟩ := describes_iff.mp describes
  refine describes_iff.mpr ⟨⟨numbered ▸ numbers, parameters ▸ keys⟩, ?_, ?_, ?_⟩
  · rw [otherPinned, ← pinned]
    exact takes
  · simp only [List.forall_mem_append, List.forall_mem_cons] at fits ⊢
    exact ⟨fits.1, trivial, fits.2.2⟩
  · rw [made, otherPinned, pinned]
    simp only [Entry.number?, Entry.power?, Entry.ofItems, numbered, parameters, otherFound, found, Option.bind_some,
      state]

/-- A power controller has one parameter, so beside the one for the state there is no other. -/
theorem parameters_of_power {front back : List Item} {key : String} {argument : Argument}
    (consistent : Consistent (front ++ .parameter key argument :: back))
    (fits : ∀ item ∈ front ++ .parameter key argument :: back, item.Fits .power) :
    front.filterMap parameter? = [] ∧ back.filterMap parameter? = [] := by
  have keys := consistent.keys
  have named : ∀ name ∈ ((front ++ .parameter key argument :: back).filterMap parameter?).map Prod.fst,
      name = "state" := by
    intro name member
    obtain ⟨pair, paired, rfl⟩ := List.mem_map.mp member
    obtain ⟨item, listed, found⟩ := List.mem_filterMap.mp paired
    cases item <;> cases found
    have takes := fits _ listed
    by_contra other
    simp [Fits, Part.Kind.Takes, Part.Kind.expects?, Part.Kind.numberKeys, other] at takes
  rw [List.eq_replicate_of_mem named, List.nodup_replicate] at keys
  simp only [List.filterMap_append, List.filterMap_cons, parameter?, List.length_map, List.length_append,
    List.length_cons] at keys
  exact ⟨List.eq_nil_of_length_eq_zero (by omega), List.eq_nil_of_length_eq_zero (by omega)⟩

private theorem Describes.of_stateArgument {front back : List Item} {key word other : String}
    (describes : Describes .power (front ++ .parameter key (.word word) :: back) line part)
    (named : Text.lowercase key = "state") (same : Text.lowercaseAscii other = Text.lowercaseAscii word) :
    Describes .power (front ++ .parameter key (.word other) :: back) line part := by
  have state : Power.ofWord? other = Power.ofWord? word := by simp only [Power.ofWord?, same]
  obtain ⟨⟨numbers, keys⟩, takes, fits, made⟩ := describes_iff.mp describes
  obtain ⟨before, behind⟩ := parameters_of_power ⟨numbers, keys⟩ fits
  have single (text : String) : (front ++ .parameter key (.word text) :: back).filterMap parameter? =
      [(Text.lowercase key, .word text)] := by
    simp only [List.filterMap_append, List.filterMap_cons, parameter?, before, behind, List.nil_append]
  have words : (front ++ .parameter key (.word other) :: back).filterMap word? =
      (front ++ .parameter key (.word word) :: back).filterMap word? := filterMap_changed rfl
  have numbered : (front ++ .parameter key (.word other) :: back).filterMap number? =
      (front ++ .parameter key (.word word) :: back).filterMap number? := filterMap_changed rfl
  have pinned : pins .power (front ++ .parameter key (.word other) :: back) =
      pins .power (front ++ .parameter key (.word word) :: back) := by rw [pins, pins, words]
  refine describes_iff.mpr ⟨⟨numbered ▸ numbers, by simp [single]⟩, pinned ▸ takes, ?_, ?_⟩
  · simp only [List.forall_mem_append, List.forall_mem_cons] at fits ⊢
    refine ⟨fits.1, ?_, fits.2.2⟩
    have expected : Part.Kind.power.expects? "state" = some .power := rfl
    simpa only [Fits, Part.Kind.Takes, named, expected, Argument.power?, state] using fits.2.1
  · have settings (text : String) : (Parameters.ofList [(Text.lowercase key, Argument.word text)]).toList =
        [(Text.lowercase key, .word text)] := rfl
    rw [made, pinned]
    simp only [Entry.number?, Entry.power?, Entry.ofItems, state?, words, numbered, single, settings,
      List.filterMap_cons, Argument.integer?, Argument.power?, state]

/-! ### The number -/

/-- A parameter that fits gives a number if its argument is one. -/
theorem integer?_of_fits {key : String} {argument : Argument} (fits : Fits kind (.parameter key argument)) :
    integer? kind (.parameter key argument) = argument.integer? := by
  cases argument with
  | word text => rfl
  | integer value =>
    by_cases known : Text.lowercase key ∈ kind.numberKeys
    · simp [integer?, known, Argument.integer?]
    · simp only [Fits, Part.Kind.Takes, Part.Kind.expects?, known, if_false] at fits
      split at fits
      next found => split at found <;> cases found
      next => cases fits
      next => cases fits

private theorem fits_of_integer? {item : Item} {value : Int64} (given : item.integer? kind = some value) :
    item.Fits kind ∧ item.word? = none := by
  cases item with
  | word text => cases given
  | number number =>
    refine ⟨?_, rfl⟩
    by_contra other
    simp [integer?, Bool.eq_false_iff.mpr other] at given
  | parameter key argument =>
    refine ⟨?_, rfl⟩
    cases argument with
    | word text => cases given
    | integer number =>
      by_cases known : Text.lowercase key ∈ kind.numberKeys
      · simp [Fits, Part.Kind.Takes, Part.Kind.expects?, known, Argument.integer?]
      · simp [integer?, known] at given

/-- A kind that takes a number keeps no state. -/
theorem made_of_integer? {item : Item} {value : Int64} (given : item.integer? kind = some value) (pins : List Pin)
    (number : Option Int64) (state other : Option Power) :
    Part.made kind pins number other = Part.made kind pins number state := by
  cases kind with
  | power =>
    cases item with
    | word text => cases given
    | number number => simp [integer?, Part.Kind.takesValue] at given
    | parameter key argument => cases argument <;> simp [integer?, Part.Kind.numberKeys] at given
  | _ => rfl

private theorem numbers_of_once {rest : List Item} (fits : ∀ item ∈ rest, item.Fits kind)
    (once : ∀ item ∈ rest, item.integer? kind = none) :
    rest.filterMap number? = [] ∧
      (rest.filterMap parameter?).filterMap (fun pair => pair.2.integer?) = [] := by
  constructor
  · refine List.filterMap_eq_nil_iff.mpr fun item member => ?_
    cases item with
    | number value =>
      have none := once _ member
      have takes : kind.takesValue = true := fits _ member
      simp [integer?, takes] at none
    | _ => rfl
  · refine List.filterMap_eq_nil_iff.mpr fun pair member => ?_
    obtain ⟨item, listed, found⟩ := List.mem_filterMap.mp member
    cases item <;> cases found
    exact (integer?_of_fits (fits _ listed)).symm.trans (once _ listed)

private theorem number?_of_integer? {front back : List Item} {item : Item} {value : Int64}
    (consistent : Consistent (front ++ item :: back)) (fits : ∀ each ∈ front ++ item :: back, each.Fits kind)
    (given : item.integer? kind = some value) (once : ∀ other ∈ front ++ back, other.integer? kind = none) :
    (Entry.ofItems kind (front ++ item :: back) line).number? = some value := by
  simp only [List.forall_mem_append, List.forall_mem_cons] at fits once
  obtain ⟨numbersBefore, settingsBefore⟩ := numbers_of_once fits.1 once.1
  obtain ⟨numbersBehind, settingsBehind⟩ := numbers_of_once fits.2.2 once.2
  have perm := (Parameters.toList_ofList_perm consistent.keys).filterMap fun pair => pair.2.integer?
  cases item with
  | word text => cases given
  | number number =>
    have same : number = value := by
      simp only [integer?] at given
      split at given <;> cases given
      rfl
    simp only [List.filterMap_append, List.filterMap_cons, parameter?, settingsBefore, settingsBehind,
      List.nil_append] at perm
    simp only [Entry.number?, Entry.ofItems, List.filterMap_append, List.filterMap_cons, parameter?, number?,
      numbersBefore, numbersBehind, same]
    rw [perm.eq_nil]
    rfl
  | parameter key argument =>
    have single : argument.integer? = some value := (integer?_of_fits fits.2.1).symm.trans given
    simp only [List.filterMap_append, List.filterMap_cons, parameter?, settingsBefore, settingsBehind, single,
      List.nil_append] at perm
    simp only [Entry.number?, Entry.ofItems, List.filterMap_append, List.filterMap_cons, parameter?]
    rw [perm.eq_singleton]
    rfl

/-- The parameter with the number has a key that no other item of the entry has. -/
theorem consistent_of_integer? {front back : List Item} {item other : Item} {value : Int64}
    (consistent : Consistent (front ++ item :: back)) (fits : ∀ each ∈ front ++ item :: back, each.Fits kind)
    (same : other.integer? kind = some value) (once : ∀ other ∈ front ++ back, other.integer? kind = none) :
    Consistent (front ++ other :: back) := by
  have perm : (front ++ other :: back).Perm (other :: (front ++ back)) := List.perm_middle
  have fewer : (front ++ back).Sublist (front ++ item :: back) := (List.sublist_cons_self item back).append_left front
  have keys : (((front ++ back).filterMap parameter?).map Prod.fst).Nodup :=
    consistent.keys.sublist ((fewer.filterMap parameter?).map Prod.fst)
  have restFits : ∀ each ∈ front ++ back, each.Fits kind := fun each member => fits each (fewer.subset member)
  obtain ⟨numbers, -⟩ := numbers_of_once restFits once
  refine ⟨?_, ?_⟩
  · rw [(perm.filterMap number?).length_eq, List.filterMap_cons]
    split <;> simp [numbers]
  · rw [((perm.filterMap parameter?).map Prod.fst).nodup_iff]
    cases other with
    | word text => cases same
    | number number => simpa only [List.filterMap_cons, parameter?] using keys
    | parameter key argument =>
      simp only [List.filterMap_cons, parameter?, List.map_cons, List.nodup_cons]
      refine ⟨fun member => ?_, keys⟩
      have known : Text.lowercase key ∈ kind.numberKeys := by
        by_contra unknown
        cases argument <;> simp [integer?, unknown] at same
      obtain ⟨pair, paired, shared⟩ := List.mem_map.mp member
      obtain ⟨twin, listed, found⟩ := List.mem_filterMap.mp paired
      cases twin <;> cases found
      have shared : Text.lowercase _ = Text.lowercase key := shared
      have takes := restFits _ listed
      have none := (integer?_of_fits takes).symm.trans (once _ listed)
      simp [Fits, Part.Kind.Takes, shared, Part.Kind.expects?, known, none] at takes

private theorem Describes.of_number {front back : List Item} {item other : Item} {value : Int64}
    (describes : Describes kind (front ++ item :: back) line part) (given : item.integer? kind = some value)
    (same : other.integer? kind = some value) (once : ∀ other ∈ front ++ back, other.integer? kind = none) :
    Describes kind (front ++ other :: back) line part := by
  obtain ⟨consistent, takes, fits, made⟩ := describes_iff.mp describes
  have words : (front ++ other :: back).filterMap word? = (front ++ item :: back).filterMap word? :=
    filterMap_changed ((fits_of_integer? same).2.trans (fits_of_integer? given).2.symm)
  have pinned : pins kind (front ++ other :: back) = pins kind (front ++ item :: back) := by rw [pins, pins, words]
  have otherFits : ∀ each ∈ front ++ other :: back, each.Fits kind := by
    simp only [List.forall_mem_append, List.forall_mem_cons] at fits ⊢
    exact ⟨fits.1, (fits_of_integer? same).1, fits.2.2⟩
  have otherConsistent := consistent_of_integer? consistent fits same once
  refine describes_iff.mpr ⟨otherConsistent, pinned ▸ takes, otherFits, ?_⟩
  rw [made, pinned, number?_of_integer? consistent fits given once,
    number?_of_integer? otherConsistent otherFits same once]
  exact made_of_integer? given _ _ _ _

/-- A change of the items leaves the part as it was. -/
theorem Rewords.describes (rewords : Rewords kind items others) (describes : Describes kind items line part) :
    Describes kind others line part := by
  cases rewords with
  | @key front back key other argument same =>
    have settings : (front ++ .parameter other argument :: back).filterMap parameter? =
        (front ++ .parameter key argument :: back).filterMap parameter? :=
      filterMap_changed (parameter?_of_lowercaseAscii_eq same)
    exact describes.of_eq (filterMap_changed rfl) (filterMap_changed rfl) (settings ▸ describes.consistent.keys)
      (by rw [settings])
  | state names first same => exact describes.of_state names first same
  | stateArgument power named same =>
    subst power
    exact describes.of_stateArgument named same
  | order perm words => exact describes.of_perm perm words
  | number given same once => exact describes.of_number given same once

/-- Items that are reworded, however often, describe the same part. -/
theorem Describes.of_reworded (describes : Describes kind items line part)
    (reworded : Relation.ReflTransGen (Rewords kind) items others) : Describes kind others line part := by
  induction reworded with
  | refl => exact describes
  | tail _ last ih => exact last.describes ih

/-- A part has the pins that its items give. -/
theorem Describes.pins_eq (describes : Describes kind items line part) : part.pins = pins kind items :=
  Part.pins_of_ofEntry (Part.ofEntry_eq_ok_iff.mpr describes.described)

end Item

end Script

end Breadboard
