import Breadboard.Proofs.Delivery

/-! # The pin report

A text may declare its pin space. Then its parts are bound to declared pins only, so that the pins in use and the free
ones share the declared pins out between them and nothing is to be warned of. Without a declaration the pins of the
reference board are shared out, and what is used beside them is warned of. Power controllers use up no pin, and a
stepper uses up all that it has, though it may lack some.

Main statement: `run_reports`.
-/

namespace Breadboard

/-! ## Declared pins -/

namespace Script

/-- A line of the text declares the pin space by these words. -/
def Declares (text : String) (pins : List Pin) : Prop :=
  ∃ symbols lines, (Scanner.start text).Reads symbols ∧
    List.Forall₂ Line.Spelled lines (symbols.splitOn .newline) ∧ .space pins ∈ lines

private theorem Line.Spelled.eq_space {pins : List Pin} {line : Line} {piece : List Symbol}
    (spelled : (Line.space pins).Spelled piece) (again : line.Spelled piece) : line = .space pins := by
  cases spelled with
  | space known nonempty =>
    generalize same : pins.map (fun pin => Symbol.word pin.name) = words at again
    cases again with
    | @space _ others =>
      have injective : Function.Injective fun pin : Pin => Symbol.word pin.name := by
        rintro ⟨name⟩ ⟨other⟩ equal
        cases equal
        rfl
      rw [List.map_injective_iff.mpr injective same]

/-- A sketch that is read from a text holds what its lines mean, whichever way these are found. -/
theorem Sketch.exists_lines {text : String} {sketch : Sketch} (read : ofText text = .ok sketch) :
    ∃ lines, Line.Consistent lines ∧ Line.KeepToSpace lines ∧ sketch = ofLines lines ∧
      ∀ pins, Declares text pins ↔ .space pins ∈ lines := by
  obtain ⟨symbols, lines, reads, spelled, consistent, keeps, rfl⟩ := ofText_eq_ok_iff.mp read
  refine ⟨lines, consistent, keeps, rfl, fun pins => ⟨?_, fun member => ⟨symbols, lines, reads, spelled, member⟩⟩⟩
  -- The other reading has the same symbols, and those of a directive spell one line only.
  rintro ⟨others, twins, again, twinSpelled, member⟩
  cases reads.unique again
  obtain ⟨piece, split, declares⟩ := exists_mem_of_forall₂ twinSpelled member
  obtain ⟨line, listed, same⟩ := exists_mem_of_forall₂ spelled.flip split
  rwa [← declares.eq_space same]

private theorem Sketch.space_of_declares {text : String} {sketch : Sketch} (read : ofText text = .ok sketch)
    {pins : List Pin} (declares : Declares text pins) :
    sketch.space = some pins.eraseDups ∧ ∀ entry ∈ sketch.entries, ∀ pin ∈ entry.pins, pin ∈ pins := by
  obtain ⟨lines, consistent, keeps, rfl, declared⟩ := exists_lines read
  have listed : pins ∈ lines.filterMap Line.space? :=
    List.mem_filterMap.mpr ⟨.space pins, (declared pins).mp declares, rfl⟩
  constructor
  · obtain ⟨only, single⟩ := List.length_eq_one_iff.mp
      (Nat.le_antisymm consistent.spaces (List.length_pos_of_mem listed))
    have same : pins = only := List.mem_singleton.mp (single ▸ listed)
    rw [ofLines, single, same]
    rfl
  · intro entry member
    obtain ⟨kind, items, index, found, rfl⟩ := mem_entries_ofLines.mp member
    exact keeps listed (List.mem_of_getElem? found)

private theorem Sketch.space_of_undeclared {text : String} {sketch : Sketch} (read : ofText text = .ok sketch)
    (undeclared : ∀ pins, ¬Declares text pins) : sketch.space = none := by
  obtain ⟨lines, consistent, keeps, rfl, declared⟩ := exists_lines read
  refine space_ofLines_eq_none_iff.mpr (List.filterMap_eq_nil_iff.mpr fun line listed => ?_)
  cases line with
  | space pins => exact absurd ((declared pins).mpr listed) (undeclared pins)
  | empty => rfl
  | entry kind items => rfl

end Script

/-- The parts of a circuit from a text are bound to its declared pins only. -/
theorem Circuit.mem_of_declares {text : String} {circuit : Circuit} (built : (ofText text).value = .ok circuit)
    {pins : List Pin} (declares : Script.Declares text pins) {part : Part} (placed : part ∈ circuit.parts) {pin : Pin}
    (bound : pin ∈ part.pins) : pin ∈ pins := by
  obtain ⟨sketch, read, described⟩ := value_ofText_eq_ok_iff.mp built
  obtain ⟨entry, listed, describes⟩ := exists_mem_of_forall₂ (mapM_eq_ok_iff.mp described).flip placed
  rw [Part.pins_of_ofEntry describes] at bound
  exact (Script.Sketch.space_of_declares read declares).2 entry listed pin bound

namespace Command

open Script

/-! ## Reports -/

section Reports

variable {σ : Type} (log : Logger) (files : Files (StateM σ)) (options : Options) (state : σ)

/-- What a report says of a circuit: the pins in use, the free ones, and those outside the pin space. -/
structure PinListing where
  used : List Pin
  free : List Pin
  strays : List Pin

/-- The notices that a run gives before it writes anything. -/
def noticesAt : List Notice :=
  (prepare options (contentAt files options.input state)).notices

/-- The run succeeds, prints the listing, logs its notices and warns of the pins outside the pin space and of nothing
else. -/
structure PinListing.PrintedBy (listing : PinListing) : Prop where
  ran : (run log files options).run state =
    (⟨0, pinLine "used" listing.used ++ pinLine "free" listing.free,
      log options.leastLogged (noticesAt files options state)⟩, state)
  warnings : (noticesAt files options state).filter (fun notice => notice.level = .warn) =
    listing.strays.map .strayPin

/-- The used pins are those of the parts that do not share theirs, in ascending order. -/
structure PinListing.Uses (listing : PinListing) (circuit : Circuit) : Prop where
  ascending : listing.used.Pairwise (· < ·)
  mem_used : ∀ {pin}, pin ∈ listing.used ↔ ∃ part ∈ circuit.parts, part.kind ≠ .power ∧ pin ∈ part.pins

/-- The used and the free pins share the declared pins out. -/
structure PinListing.Partitions (listing : PinListing) (circuit : Circuit) (declared : List Pin) : Prop where
  quiet : listing.strays = []
  ordered : listing.free.Sublist declared.eraseDups
  used_nodup : listing.used.Nodup
  free_nodup : listing.free.Nodup
  disjoint : listing.used.Disjoint listing.free
  covers : ∀ {pin}, pin ∈ listing.used ∨ pin ∈ listing.free ↔ pin ∈ declared
  /-- A pin on which there are power controllers only is free. -/
  powered : ∀ {pin}, (∃ part ∈ circuit.parts, pin ∈ part.pins) →
    (∀ part ∈ circuit.parts, pin ∈ part.pins → part.kind = .power) → pin ∈ listing.free
  /-- The coils of a stepper are used, also where there are not four of them. -/
  coils : ∀ {coils steps}, .stepper coils steps ∈ circuit.parts → ∀ pin ∈ coils, pin ∈ listing.used

/-- The pins of the reference board are shared out, and other pins in use are strays. -/
structure PinListing.KeepsToBoard (listing : PinListing) (board : List Pin) : Prop where
  strays : listing.strays = listing.used.filter fun pin => pin ∉ board
  free : listing.free = board.filter fun pin => pin ∉ listing.used

variable {log files options state}

/-- A report warns of the claimed pins outside the space, in their order, and of nothing else. -/
theorem warnings_of_report {content : Except FileFault ByteArray} {circuit : Circuit} {space : List Pin}
    (loads : Loads content circuit space) (asked : options.reportPins = true) :
    (prepare options content).notices.filter (fun notice => notice.level = .warn) =
      (circuit.claimedPins.filter fun pin => pin ∉ space).map .strayPin := by
  cases loads with
  | @text text sketch circuit read built =>
    have told : (Circuit.ofSketch sketch).notices = [.built circuit.size] := by
      unfold Circuit.ofSketch at built ⊢
      split at built
      next => cases built; rfl
      next => cases built
    have listed (strays : List Pin) : (strays.map Notice.strayPin).filter (fun notice => notice.level = .warn) =
        strays.map .strayPin := by
      rw [List.filter_map]
      exact congrArg (List.map Notice.strayPin) (List.filter_eq_self.mpr fun pin _ => rfl)
    have delivered : (deliver options circuit (sketch.space.getD Pin.reference)).notices =
        .loaded circuit.size options.input ::
          (circuit.claimedPins.filter fun pin => pin ∉ sketch.space.getD Pin.reference).map .strayPin := by
      simp [deliver, asked, pinReport, Noted.note]
    simp only [prepare, fromUTF8?_eq_some_iff.mpr rfl, read, Noted.notices_bind, told, built, Noted.notices_pure,
      delivered, List.append_nil]
    exact listed _

/-- What the report of a circuit lists. -/
def PinListing.of (circuit : Circuit) (space : List Pin) : PinListing where
  used := circuit.claimedPins
  free := circuit.freePins .light space
  strays := circuit.claimedPins.filter fun pin => pin ∉ space

/-- The used pins of a report are those that parts claim. -/
theorem PinListing.uses_of (circuit : Circuit) (space : List Pin) : (PinListing.of circuit space).Uses circuit where
  ascending := Pin.listing_ascending _
  mem_used := by
    intro pin
    simp only [PinListing.of, Circuit.mem_claimedPins, Part.claimsPins, decide_eq_true_eq]

/-- Where every pin is declared, the used and the free pins of a report make up the declared ones. -/
theorem PinListing.partitions_of {circuit : Circuit} {declared : List Pin}
    (bound : ∀ part ∈ circuit.parts, ∀ pin ∈ part.pins, pin ∈ declared) :
    (PinListing.of circuit declared.eraseDups).Partitions circuit declared := by
  have uses := PinListing.uses_of circuit declared.eraseDups
  have known {pin : Pin} (used : pin ∈ (PinListing.of circuit declared.eraseDups).used) : pin ∈ declared := by
    obtain ⟨part, placed, -, member⟩ := uses.mem_used.mp used
    exact bound part placed pin member
  have mem_free {pin : Pin} : pin ∈ (PinListing.of circuit declared.eraseDups).free ↔
      pin ∈ declared ∧ pin ∉ (PinListing.of circuit declared.eraseDups).used := by
    simp [PinListing.of, Circuit.freePins]
  constructor
  case quiet => exact List.filter_eq_nil_iff.mpr fun pin used => by simpa using known used
  case ordered => exact List.filter_sublist
  case used_nodup =>
    refine uses.ascending.imp ?_
    rintro pin _ less rfl
    exact Pin.lt_irrefl pin less
  case free_nodup => exact (nodup_eraseDups declared).filter _
  case disjoint => exact fun pin used free => (mem_free.mp free).2 used
  case covers =>
    intro pin
    constructor
    · rintro (used | free)
      · exact known used
      · exact (mem_free.mp free).1
    · intro member
      exact (Classical.em _).imp_right fun unused => mem_free.mpr ⟨member, unused⟩
  case powered =>
    rintro pin ⟨part, placed, member⟩ powers
    refine mem_free.mpr ⟨bound part placed pin member, fun used => ?_⟩
    obtain ⟨other, listed, notPower, shared⟩ := uses.mem_used.mp used
    exact notPower (powers other listed shared)
  case coils =>
    intro coils steps placed pin member
    exact uses.mem_used.mpr ⟨.stepper coils steps, placed, nofun, member⟩

/-- A run that is asked for the pins reports on the declared pins of its text, or on the reference board if the text
declares none. -/
theorem run_reports (reads : ReadsOnly files) (asked : options.reportPins = true) {text : String} {circuit : Circuit}
    (content : contentAt files options.input state = .ok text.toUTF8)
    (built : (Circuit.ofText text).value = .ok circuit) :
    ∃ listing : PinListing, listing.PrintedBy log files options state ∧ listing.Uses circuit ∧
      (∀ declared, Declares text declared → listing.Partitions circuit declared) ∧
      ((∀ declared, ¬Declares text declared) →
        listing.KeepsToBoard (["D0", "D1", "D2", "D3", "D4", "D5", "D6", "D7", "D8"].map Pin.mk)) := by
  obtain ⟨sketch, read, loads⟩ := exists_loads built
  rw [← content] at loads
  refine ⟨.of circuit _, ⟨run_of_report reads loads asked, warnings_of_report loads asked⟩, PinListing.uses_of _ _,
    fun declared declares => ?_, fun undeclared => ?_⟩
  · rw [(Sketch.space_of_declares read declares).1]
    exact PinListing.partitions_of fun part placed pin bound => Circuit.mem_of_declares built declares placed bound
  · rw [Sketch.space_of_undeclared read undeclared]
    exact ⟨rfl, rfl⟩

end Reports

/-- A declared pin on which there is a power controller only, and a stepper with one coil. -/
theorem run_reports_one_coil :
    Declares ".pins D3 D2 D1\ncontrol D2\nstepper D1" [⟨"D3"⟩, ⟨"D2"⟩, ⟨"D1"⟩] ∧
      ∃ listing : PinListing,
        listing.PrintedBy logText Directory.access ⟨"board.sketch", none, true, true, false⟩
          ⟨[("board.sketch", ".pins D3 D2 D1\ncontrol D2\nstepper D1".toUTF8)]⟩ ∧
        listing.Partitions ⟨[.power (some ⟨"D2"⟩) .on, .stepper [⟨"D1"⟩] 200]⟩ [⟨"D3"⟩, ⟨"D2"⟩, ⟨"D1"⟩] := by
  have declares : Declares ".pins D3 D2 D1\ncontrol D2\nstepper D1" [⟨"D3"⟩, ⟨"D2"⟩, ⟨"D1"⟩] := by
    have reads : (Scanner.start ".pins D3 D2 D1\ncontrol D2\nstepper D1").Reads
        [.directive ".pins", .word "D3", .word "D2", .word "D1", .newline, .word "control", .word "D2", .newline,
          .word "stepper", .word "D1"] :=
      ⟨[⟨.directive ".pins", ⟨1, 1⟩⟩, ⟨.word "D3", ⟨1, 7⟩⟩, ⟨.word "D2", ⟨1, 10⟩⟩, ⟨.word "D1", ⟨1, 13⟩⟩,
        ⟨.newline, ⟨1, 15⟩⟩, ⟨.word "control", ⟨2, 1⟩⟩, ⟨.word "D2", ⟨2, 9⟩⟩, ⟨.newline, ⟨2, 11⟩⟩,
        ⟨.word "stepper", ⟨3, 1⟩⟩, ⟨.word "D1", ⟨3, 9⟩⟩, ⟨.endOfText, ⟨3, 11⟩⟩], by decide +kernel, rfl⟩
    have space : Line.Spelled (.space [⟨"D3"⟩, ⟨"D2"⟩, ⟨"D1"⟩])
        [.directive ".pins", .word "D3", .word "D2", .word "D1"] := .space (by decide +kernel) nofun
    have power : Line.Spelled (.entry .power [.word "D2"]) [.word "control", .word "D2"] :=
      .entry (by decide +kernel) (.cons (.word "D2") .nil)
    have stepper : Line.Spelled (.entry .stepper [.word "D1"]) [.word "stepper", .word "D1"] :=
      .entry (by decide +kernel) (.cons (.word "D1") .nil)
    exact ⟨_, _, reads, .cons space (.cons power (.cons stepper .nil)), List.mem_cons_self⟩
  have built : (Circuit.ofText ".pins D3 D2 D1\ncontrol D2\nstepper D1").value =
      .ok ⟨[.power (some ⟨"D2"⟩) .on, .stepper [⟨"D1"⟩] 200]⟩ := by decide +kernel
  obtain ⟨listing, printed, -, partitions, -⟩ :=
    @run_reports Directory logText Directory.access ⟨"board.sketch", none, true, true, false⟩
      ⟨[("board.sketch", ".pins D3 D2 D1\ncontrol D2\nstepper D1".toUTF8)]⟩
      Directory.readsOnly_access rfl _ _ rfl built
  exact ⟨declares, listing, printed, partitions _ declares⟩

end Command

end Breadboard
