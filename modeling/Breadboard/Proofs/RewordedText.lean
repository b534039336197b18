import Breadboard.Proofs.Rewording

/-! # Other words for the same circuit

A line says the same about the circuit with another keyword of its kind, with `.pins` in other letters, and with any
number of changes of its items. Texts whose lines say the same, one by one, give the same circuit. Main statement:
`Circuit.ofText_of_reworded`.
-/

namespace Breadboard

open Script

namespace Script

private theorem Argument.Spelled.unique {argument other : Argument} {symbol : Symbol}
    (spelled : argument.Spelled symbol) (same : other.Spelled symbol) : other = argument := by
  cases spelled with
  | integer denoted =>
    cases same with
    | integer again => rw [Int64.toInt_inj.mp (Option.some.inj (again.symm.trans denoted))]
  | word text =>
    cases same
    rfl

private theorem Item.flatten_ne_equals {items : List Item} {pieces : List (List Symbol)} {rest : List Symbol}
    (spelled : List.Forall₂ Item.Spelled items pieces) : .equals :: rest ≠ pieces.flatten := by
  cases spelled with
  | nil => simp
  | cons first others => cases first <;> simp

/-- Items can be told from their symbols, since no item begins with an equals sign. -/
theorem Item.spelled_unique {items others : List Item} {pieces otherPieces : List (List Symbol)}
    (spelled : List.Forall₂ Item.Spelled items pieces) (same : List.Forall₂ Item.Spelled others otherPieces)
    (flat : otherPieces.flatten = pieces.flatten) : others = items := by
  induction spelled generalizing others otherPieces with
  | nil =>
    cases same with
    | nil => rfl
    | cons first rest => cases first <;> simp at flat
  | cons first rest ih =>
    cases same with
    | nil => cases first <;> simp at flat
    | cons twin twins =>
      cases first with
      | word text =>
        cases twin with
        | word other =>
          simp only [List.flatten_cons, List.cons_append, List.nil_append, List.cons.injEq, Symbol.word.injEq] at flat
          rw [flat.1, ih twins flat.2]
        | number => simp at flat
        | parameter key spelled =>
          simp only [List.flatten_cons, List.cons_append, List.nil_append, List.cons.injEq] at flat
          exact absurd flat.2 (flatten_ne_equals rest)
      | number denoted =>
        cases twin with
        | number again =>
          simp only [List.flatten_cons, List.cons_append, List.nil_append, List.cons.injEq,
            Symbol.number.injEq] at flat
          obtain ⟨rfl, flat⟩ := flat
          rw [Int64.toInt_inj.mp (Option.some.inj (again.symm.trans denoted)), ih twins flat]
        | _ => simp at flat
      | parameter key spelled =>
        cases twin with
        | word other =>
          simp only [List.flatten_cons, List.cons_append, List.nil_append, List.cons.injEq] at flat
          exact absurd flat.2.symm (flatten_ne_equals twins)
        | number => simp at flat
        | parameter other again =>
          simp only [List.flatten_cons, List.cons_append, List.nil_append, List.cons.injEq, Symbol.word.injEq,
            true_and] at flat
          obtain ⟨rfl, rfl, flat⟩ := flat
          rw [spelled.unique again, ih twins flat]

namespace Line

/-- The symbols of a line in other words: another keyword of the kind, or the directive in other letters, and any
number of changes of the items. -/
inductive Reworded : List Symbol → List Symbol → Prop where
  | empty : Reworded [] []
  | space {directive other : String} {words : List Symbol}
      (same : Text.lowercaseAscii other = Text.lowercaseAscii directive) :
      Reworded (.directive directive :: words) (.directive other :: words)
  | entry {keyword other : String} {kind : Part.Kind} {items others : List Item}
      {pieces otherPieces : List (List Symbol)} (known : Part.Kind.ofKeyword? keyword = some kind)
      (otherKnown : Part.Kind.ofKeyword? other = some kind) (spelled : List.Forall₂ Item.Spelled items pieces)
      (otherSpelled : List.Forall₂ Item.Spelled others otherPieces)
      (reworded : Relation.ReflTransGen (Item.Rewords kind) items others) :
      Reworded (.word keyword :: pieces.flatten) (.word other :: otherPieces.flatten)

/-- Lines that say the same about the circuit. -/
inductive Alike : Line → Line → Prop where
  | empty : Alike .empty .empty
  | space (pins : List Pin) : Alike (.space pins) (.space pins)
  | entry {kind : Part.Kind} {items others : List Item}
      (reworded : Relation.ReflTransGen (Item.Rewords kind) items others) :
      Alike (.entry kind items) (.entry kind others)

/-- A line that is reworded is still a line, and a like one. -/
theorem Spelled.of_reworded {line : Line} {piece other : List Symbol} (spelled : line.Spelled piece)
    (reworded : Reworded piece other) : ∃ twin : Line, twin.Spelled other ∧ line.Alike twin := by
  cases spelled with
  | empty =>
    cases reworded
    exact ⟨_, .empty, .empty⟩
  | space known nonempty =>
    cases reworded with
    | space same => exact ⟨_, .space ((Text.lowercase_eq_of_lowercaseAscii_eq same).trans known) nonempty, .space _⟩
  | @entry keyword kind items pieces known spelled =>
    generalize flat : pieces.flatten = symbols at reworded
    cases reworded with
    | entry again otherKnown twinSpelled otherSpelled reworded =>
      cases known.symm.trans again
      cases Item.spelled_unique spelled twinSpelled flat.symm
      exact ⟨_, .entry otherKnown otherSpelled, .entry reworded⟩

private theorem exists_alike {lines : List Line} {pieces others : List (List Symbol)}
    (spelled : List.Forall₂ Spelled lines pieces) (reworded : List.Forall₂ Reworded pieces others) :
    ∃ twins, List.Forall₂ Spelled twins others ∧ List.Forall₂ Alike lines twins := by
  induction spelled generalizing others with
  | nil =>
    cases reworded
    exact ⟨[], .nil, .nil⟩
  | cons first rest ih =>
    cases reworded with
    | cons same more =>
      obtain ⟨twin, spelled, alike⟩ := first.of_reworded same
      obtain ⟨twins, others, all⟩ := ih more
      exact ⟨twin :: twins, .cons spelled others, .cons alike all⟩

/-- The twin line declares the same pin space, and its entry is consistent and has the same pins. -/
structure Keeps (line twin : Line) : Prop where
  space : twin.space? = line.space?
  entry : ∀ {kind items}, twin = .entry kind items →
    Item.Consistent items ∧ ∃ before, line = .entry kind before ∧ Item.pins kind items = Item.pins kind before

/-- The entries of lines that are counted on from a number. -/
def entries (count : Nat) (lines : List Line) : List Entry :=
  (lines.zipIdx count).filterMap fun (line, index) => line.entry? (index + 1)

private theorem keeps_of_alike {lines others : List Line} (alike : List.Forall₂ Alike lines others)
    (consistent : ∀ {kind items}, entry kind items ∈ lines → Item.Consistent items) (count : Nat) {parts : List Part}
    (described : List.Forall₂ (fun entry part => Part.ofEntry entry = .ok part) (entries count lines) parts) :
    List.Forall₂ Keeps lines others ∧
      List.Forall₂ (fun entry part => Part.ofEntry entry = .ok part) (entries count others) parts := by
  induction alike generalizing count parts with
  | nil => exact ⟨.nil, described⟩
  | @cons line twin lines others same rest ih =>
    have behind := fun {kind items} member => consistent (List.mem_cons_of_mem line member : .entry kind items ∈ _)
    cases same with
    | empty =>
      obtain ⟨keeps, all⟩ := ih behind (count + 1) described
      exact ⟨.cons ⟨rfl, fun found => by cases found⟩ keeps, all⟩
    | space pins =>
      obtain ⟨keeps, all⟩ := ih behind (count + 1) described
      exact ⟨.cons ⟨rfl, fun found => by cases found⟩ keeps, all⟩
    | @entry kind items twinItems reworded =>
      have first : entries count (.entry kind items :: lines) =
          .ofItems kind items (count + 1) :: entries (count + 1) lines := rfl
      rw [first] at described
      cases described with
      | cons one more =>
        obtain ⟨keeps, all⟩ := ih behind (count + 1) more
        have describes : Item.Describes kind items (count + 1) _ :=
          ⟨consistent List.mem_cons_self, Part.ofEntry_eq_ok_iff.mp one⟩
        have same := describes.of_reworded reworded
        refine ⟨.cons ⟨rfl, fun found => ?_⟩ keeps, .cons (Part.ofEntry_eq_ok_iff.mpr same.described) all⟩
        cases found
        exact ⟨same.consistent, items, rfl, same.pins_eq.symm.trans describes.pins_eq⟩

private theorem spaces_of_keeps {lines others : List Line} (keeps : List.Forall₂ Keeps lines others) :
    others.filterMap space? = lines.filterMap space? := by
  induction keeps with
  | nil => rfl
  | cons first rest ih => rw [List.filterMap_cons, List.filterMap_cons, first.space, ih]

/-- Lines that keep the space and the pins of consistent ones are consistent, and keep to the space as well. -/
theorem Consistent.of_keeps {lines others : List Line} (consistent : Consistent lines) (kept : KeepToSpace lines)
    (keeps : List.Forall₂ Keeps lines others) : Consistent others ∧ KeepToSpace others := by
  have spaces := spaces_of_keeps keeps
  have before {kind : Part.Kind} {items : List Item} (member : entry kind items ∈ others) :
      Item.Consistent items ∧ ∃ before, entry kind before ∈ lines ∧ Item.pins kind items = Item.pins kind before := by
    obtain ⟨line, listed, keep⟩ := exists_mem_of_forall₂ keeps.flip member
    obtain ⟨consistent, before, rfl, pins⟩ := keep.entry rfl
    exact ⟨consistent, before, listed, pins⟩
  refine ⟨⟨spaces ▸ consistent.spaces, fun member => (before member).1⟩, fun declared _ _ member pin pinned => ?_⟩
  obtain ⟨-, items, listed, pins⟩ := before member
  exact kept (spaces ▸ declared) listed pin (pins ▸ pinned)

end Line

end Script

namespace Circuit

/-- Texts whose lines say the same in other words give the same circuit. -/
theorem ofText_of_reworded {text other : String} {symbols others : List Symbol} {circuit : Circuit}
    (reads : (Scanner.start text).Reads symbols) (otherReads : (Scanner.start other).Reads others)
    (reworded : List.Forall₂ Line.Reworded (symbols.splitOn .newline) (others.splitOn .newline))
    (built : (ofText text).value = .ok circuit) : (ofText other).value = .ok circuit := by
  obtain ⟨sketch, read, described⟩ := value_ofText_eq_ok_iff.mp built
  obtain ⟨_, lines, again, spelled, consistent, keeps, rfl⟩ := Sketch.ofText_eq_ok_iff.mp read
  cases again.unique reads
  obtain ⟨twins, twinSpelled, alike⟩ := Line.exists_alike spelled reworded
  obtain ⟨kept, all⟩ := Line.keeps_of_alike alike consistent.items 0 (mapM_eq_ok_iff.mp described)
  obtain ⟨twinConsistent, twinKeeps⟩ := consistent.of_keeps keeps kept
  exact value_ofText_eq_ok_iff.mpr ⟨_, Sketch.ofText_eq_ok_iff.mpr
    ⟨others, twins, otherReads, twinSpelled, twinConsistent, twinKeeps, rfl⟩, mapM_eq_ok_iff.mpr all⟩

/-- The angle of a servo as a bare number, in front of its pin. -/
theorem ofText_of_reworded_servo :
    (ofText "servo D9 Angle=45").value = .ok ⟨[.servo (some ⟨"D9"⟩) 45]⟩ ∧
      (ofText "ROTARY 45 D9").value = .ok ⟨[.servo (some ⟨"D9"⟩) 45]⟩ := by
  have built : (ofText "servo D9 Angle=45").value = .ok ⟨[.servo (some ⟨"D9"⟩) 45]⟩ := by decide +kernel
  have reads : (Scanner.start "servo D9 Angle=45").Reads
      [.word "servo", .word "D9", .word "Angle", .equals, .number "45"] :=
    ⟨[⟨.word "servo", ⟨1, 1⟩⟩, ⟨.word "D9", ⟨1, 7⟩⟩, ⟨.word "Angle", ⟨1, 10⟩⟩, ⟨.equals, ⟨1, 15⟩⟩,
      ⟨.number "45", ⟨1, 16⟩⟩, ⟨.endOfText, ⟨1, 18⟩⟩], by decide +kernel, rfl⟩
  have otherReads : (Scanner.start "ROTARY 45 D9").Reads [.word "ROTARY", .number "45", .word "D9"] :=
    ⟨[⟨.word "ROTARY", ⟨1, 1⟩⟩, ⟨.number "45", ⟨1, 8⟩⟩, ⟨.word "D9", ⟨1, 11⟩⟩, ⟨.endOfText, ⟨1, 13⟩⟩],
      by decide +kernel, rfl⟩
  have denoted : Text.Numeral.denoted? "45".toList = some (45 : Int64).toInt := by decide +kernel
  have bare : Item.Rewords .servo [.word "D9", .parameter "Angle" (.integer 45)] [.word "D9", .number 45] :=
    @Item.Rewords.number .servo [.word "D9"] [] _ _ 45 (by decide +kernel) (by decide +kernel) (by decide +kernel)
  have front : Item.Rewords .servo [.word "D9", .number 45] [.number 45, .word "D9"] := .order (.swap _ _ _) rfl
  have line : Line.Reworded (.word "servo" :: [[.word "D9"], [.word "Angle", .equals, .number "45"]].flatten)
      (.word "ROTARY" :: [[.number "45"], [.word "D9"]].flatten) :=
    .entry (by decide +kernel) (by decide +kernel)
      (.cons (.word "D9") (.cons (.parameter "Angle" (.integer denoted)) .nil))
      (.cons (.number denoted) (.cons (.word "D9") .nil)) (.tail (.single bare) front)
  exact ⟨built, ofText_of_reworded reads otherReads (.cons line .nil) built⟩

end Circuit

end Breadboard
