import Breadboard.Circuit.Claims
import Breadboard.Proofs.OutlineText
import Breadboard.Proofs.PrintedLines
import Breadboard.Proofs.Provenance
import Breadboard.Proofs.Session

/-! # No blank pins

A name of white space stands for no pin. It cannot come from a text, since no word character is white space; a
change that binds one unbinds the part or is refused. So no circuit that a session reaches refers to a blank pin, and
since a program mentions the pins of its tasks only, none of its statements does. A printed line has the pins of its
statement written in it (`Style.Carries`), so none is blank there either.

Main statement: `blankFree_of_reached`.
-/

namespace Breadboard

/-! ## Names in a text -/

namespace Text

private theorem isWhiteSpace_eq_false_of_isWordChar {c : Char} (wordChar : isWordChar c = true) :
    isWhiteSpace c = false := by
  have apart : ∀ range ∈ whiteSpace, ∀ code ∈ List.range' range.1 (range.2 + 1 - range.1),
      isWordChar (Char.ofNat code) = false := by decide +kernel
  -- White space is ten short ranges of codes, so each code is tried.
  refine Bool.eq_false_iff.mpr fun white => ?_
  obtain ⟨range, listed, low, high⟩ := (Ranges.contains_iff (by decide) c.toNat).mp white
  have outside := apart range listed c.toNat (List.mem_range'_1.mpr ⟨low, by omega⟩)
  rw [Char.ofNat_toNat, wordChar] at outside
  cases outside

end Text

namespace Pin

private theorem isBlank_eq_false_of_isIdentifier {pin : Pin} (identifier : Script.IsIdentifier pin.name.toList) :
    pin.isBlank = false := by
  obtain ⟨wordChars, c, first, -⟩ := identifier
  have member : c ∈ pin.name.toList := List.mem_of_mem_head? first
  have visible := Text.isWhiteSpace_eq_false_of_isWordChar (List.all_eq_true.mp wordChars c member)
  refine Bool.eq_false_iff.mpr fun blank => ?_
  rw [List.all_eq_true.mp blank c member] at visible
  cases visible

private theorem isBlank_eq_false_of_mem_bound? {pin other : Pin} (bound : other ∈ pin.bound?) :
    other.isBlank = false := by
  unfold bound? at bound
  split at bound
  · cases bound
  next visible =>
    cases bound
    exact Bool.eq_false_iff.mpr visible

end Pin

/-! ## Pins of a circuit -/

/-- A change that is not refused leaves no blank pin where there was none. -/
theorem Change.isBlank_eq_false_of_mem_wires {setting : Change} (filled : setting.firstBlank? = none) {pins : List Pin}
    (visible : ∀ pin ∈ pins, pin.isBlank = false) : ∀ pin ∈ setting.wires pins, pin.isBlank = false := by
  intro pin member
  cases setting with
  | bind name => exact Pin.isBlank_eq_false_of_mem_bound? (Option.mem_toList.mp member)
  | unbind => cases member
  | coils coils => exact Bool.eq_false_iff.mpr (by simpa using List.findIdx?_eq_none_iff.mp filled pin member)
  | value number => exact visible pin member
  | interval number => exact visible pin member
  | power state => exact visible pin member

namespace Circuit

/-- No part of the circuit refers to a blank pin. -/
def NoneBlank (circuit : Circuit) : Prop :=
  ∀ part ∈ circuit.parts, ∀ pin ∈ part.pins, pin.isBlank = false

/-- An edit binds no blank pin. -/
theorem NoneBlank.makes {circuit after : Circuit} {edit : Edit} (visible : circuit.NoneBlank)
    (makes : edit.Makes circuit after) : after.NoneBlank := by
  intro part placed
  cases makes with
  | add kind =>
    rcases List.mem_append.mp placed with earlier | last
    · exact visible part earlier
    · simp [List.mem_singleton.mp last]
  | remove inside => exact visible part (List.mem_of_mem_eraseIdx placed)
  | move found inside =>
    have before : part ∈ circuit.parts := (Edit.Makes.move found inside).perm_of_move.mem_iff.mp placed
    exact visible part before
  | change found filled applied =>
    rcases List.mem_or_eq_of_mem_set placed with other | rfl
    · exact visible part other
    · rw [Change.pins_of_applyTo? _ applied]
      exact Change.isBlank_eq_false_of_mem_wires filled (visible _ (List.mem_of_getElem? found))

/-- A circuit that can be reached has no blank pin bound. -/
theorem Reached.noneBlank {circuit : Circuit} (reached : circuit.Reached) : circuit.NoneBlank := by
  induction reached with
  | empty => exact fun part placed => by cases placed
  | ofText success =>
    exact fun part placed pin member =>
      Pin.isBlank_eq_false_of_isIdentifier (isIdentifier_of_ofText success placed member)
  | edited reached edit ih => exact edited_induction ih fun _ makes => ih.makes makes

end Circuit

/-! ## Pins of a program -/

def Declaration.pins : Declaration → List Pin
  | .servo _ => []
  | .stepper _ coils => coils.pins

def SetupStep.pins : SetupStep → List Pin
  | .configure pin _ _ | .attach _ pin => [pin]
  | .setSpeed _ => []

def Command.pins (command : Command) : List Pin :=
  command.pin?.toList

/-- The lines that a program can have, each with the pins whose names are written in it. -/
inductive Style.Carries (style : Style) : String → List Pin → Prop where
  | servo {name : String} (word : Text.IsWord name) : Carries style ("Servo " ++ name ++ ";") []
  | stepper {name : String} (word : Text.IsWord name) (coils : Coils) :
      Carries style ("Stepper " ++ name ++ "(200, " ++ ", ".intercalate (coils.pins.map Pin.name) ++ ");") coils.pins
  | pinMode (pin : Pin) (mode : PinMode) (note : String) :
      Carries style (style.line ("pinMode(" ++ pin.name ++ ", " ++ toString mode ++ ");") note) [pin]
  | attach {name : String} (word : Text.IsWord name) (pin : Pin) (note : String) :
      Carries style (style.line (name ++ ".attach(" ++ pin.name ++ ");") note) [pin]
  | setSpeed {name : String} (word : Text.IsWord name) (note : String) :
      Carries style (style.line (name ++ ".setSpeed(60);") note) []
  | digitalWrite (pin : Pin) (state : Power) (note : String) :
      Carries style (style.line ("digitalWrite(" ++ pin.name ++ ", " ++ state.level ++ ");") note) [pin]
  | digitalRead (pin : Pin) : Carries style (style.indent ++ "if (digitalRead(" ++ pin.name ++ ") == LOW) \x7b") [pin]
  | closing : Carries style (style.indent ++ "\x7d") []
  | remark (note : String) : Carries style (style.indent ++ style.indent ++ "// " ++ note) []
  | write {name : String} (word : Text.IsWord name) (angle : Int64) (note : String) :
      Carries style (style.line (name ++ ".write(" ++ Text.Numeral.written angle ++ ");") note) []
  | step {name : String} (word : Text.IsWord name) (steps : Int64) (note : String) :
      Carries style (style.line (name ++ ".step(" ++ Text.Numeral.written steps ++ ");") note) []
  | delay (milliseconds : Int64) (note : String) :
      Carries style (style.line ("delay(" ++ Text.Numeral.written milliseconds ++ ");") note) []

/-- The text of a declaration shows the names of its pins. -/
theorem Declaration.carries (style : Style) {declaration : Declaration} (word : Text.IsWord declaration.name) :
    style.Carries declaration.text declaration.pins := by
  cases declaration with
  | servo name => exact .servo word
  | stepper name coils =>
    have opening : "Stepper " ++ name ++ "(" ++ stepsPerTurn.repr ++ ", " = "Stepper " ++ name ++ "(200, " := by
      rw [String.append_assoc, String.append_assoc]
      rfl
    rw [text, opening]
    exact .stepper word coils

/-- The line of a setup step shows the names of its pins. -/
theorem SetupStep.carries (style : Style) {step : SetupStep} (words : ∀ name ∈ step.motor?, Text.IsWord name) :
    style.Carries (step.line style) step.pins := by
  cases step with
  | configure pin mode kind => exact .pinMode pin mode _
  | attach name pin => exact .attach (words name rfl) pin _
  | setSpeed name =>
    have speed : name ++ ".setSpeed(" ++ turnsPerMinute.repr ++ ");" = name ++ ".setSpeed(60);" := by
      rw [String.append_assoc, String.append_assoc]
      rfl
    rw [line, speed]
    exact .setSpeed (words name rfl) _

/-- Of the lines of a command the first carries its pin, the others carry it or no pin at all. -/
theorem Command.carries (style : Style) {command : Command} (words : ∀ name ∈ command.motor?, Text.IsWord name) :
    (∃ line ∈ command.lines style, style.Carries line command.pins) ∧
      ∀ line ∈ command.lines style, style.Carries line command.pins ∨ style.Carries line [] := by
  have single {line : String} {pins : List Pin} (carries : style.Carries line pins) :
      (∃ listed ∈ [line], style.Carries listed pins) ∧
        ∀ listed ∈ [line], style.Carries listed pins ∨ style.Carries listed [] :=
    ⟨⟨line, List.mem_singleton_self line, carries⟩, List.forall_mem_singleton.mpr (.inl carries)⟩
  cases command with
  | light pin lit =>
    cases lit with
    | true => exact single (.digitalWrite pin .on _)
    | false => exact single (.digitalWrite pin .off _)
  | power pin state => exact single (.digitalWrite pin state _)
  | turn name angle => exact single (.write (words name rfl) angle _)
  | advance name steps => exact single (.step (words name rfl) steps _)
  | wait milliseconds => exact single (.delay milliseconds _)
  | blink pin interval =>
    refine ⟨⟨_, List.mem_cons_self, .digitalWrite pin .on _⟩, ?_⟩
    simp only [lines, List.forall_mem_cons]
    exact ⟨.inl (.digitalWrite pin .on _), .inr (.delay interval _), .inl (.digitalWrite pin .off _),
      .inr (.delay interval _), by simp⟩
  | poll pin =>
    refine ⟨⟨_, List.mem_cons_self, .digitalRead pin⟩, fun line listed => ?_⟩
    simp only [lines, List.mem_append, List.mem_singleton, Style.mem_noteLine] at listed
    rcases listed with ((rfl | ⟨-, rfl⟩) | ⟨-, rfl⟩) | rfl
    · exact .inl (.digitalRead pin)
    · exact .inr (.remark _)
    · exact .inr (.remark _)
    · exact .inr .closing

namespace Sections

/-- All lines that are not the same in every source text. -/
def statements (sections : Sections) : List String :=
  sections.declarations ++ sections.setup ++ sections.loop

/-- No line has the name of a blank pin written in it. -/
def BlankFree (style : Style) (sections : Sections) : Prop :=
  ∀ line ∈ sections.statements, ∃ pins, style.Carries line pins ∧ ∀ pin ∈ pins, pin.isBlank = false

end Sections

namespace Circuit

variable {circuit : Circuit} {part : Part} {pin : Pin}

/-- A live part is bound to the pin. -/
def Wires (circuit : Circuit) (pin : Pin) : Prop :=
  ∃ part ∈ circuit.parts, part.isLive = true ∧ pin ∈ part.pins

private theorem mem_pins_of_declaration? {hardware : Hardware} {declaration : Declaration}
    (uses : part.hardware? = some hardware) (declares : hardware.declaration? circuit.naming = some declaration)
    (mentioned : pin ∈ declaration.pins) : part.isLive = true ∧ pin ∈ part.pins := by
  obtain ⟨task, live, uses⟩ := Option.bind_eq_some_iff.mp uses
  have does := Part.task?_eq_some_iff.mp live
  refine ⟨does.isLive, ?_⟩
  cases does <;> cases uses <;> cases declares
  case servo => cases mentioned
  case stepper => exact mentioned

private theorem mem_pins_of_setupStep? {step : SetupStep} (does : circuit.setupStep? part = some step)
    (mentioned : pin ∈ step.pins) : part.isLive = true ∧ pin ∈ part.pins := by
  obtain ⟨task, live, does⟩ := Option.bind_eq_some_iff.mp does
  have wired := Part.task?_eq_some_iff.mp live
  refine ⟨wired.isLive, ?_⟩
  cases wired <;> cases does
  case stepper => cases mentioned
  all_goals exact mentioned

private theorem mem_pins_of_command? {command : Command} (commands : circuit.command? part = some command)
    (mentioned : pin ∈ command.pins) : part.isLive = true ∧ pin ∈ part.pins := by
  obtain ⟨task, live, rfl⟩ := Option.map_eq_some_iff.mp commands
  have does := Part.task?_eq_some_iff.mp live
  refine ⟨does.isLive, ?_⟩
  cases does with
  | servo own angle => cases mentioned
  | stepper coils steps => cases mentioned
  | wait milliseconds => cases mentioned
  | _ => exact mentioned

/-! Whatever a program mentions, some live part is bound to it. -/

/-- A pin that a declaration mentions is wired to a part. -/
theorem wires_of_declaration {declaration : Declaration} (listed : declaration ∈ circuit.program.declarations)
    (mentioned : pin ∈ declaration.pins) : circuit.Wires pin := by
  rw [declarations_eq] at listed
  obtain ⟨hardware, used, declares⟩ := List.mem_filterMap.mp listed
  obtain ⟨part, placed, uses⟩ := mem_hardware_iff.mp used
  exact ⟨part, placed, mem_pins_of_declaration? uses declares mentioned⟩

/-- A pin that a setup step mentions is wired to a part. -/
theorem wires_of_setupStep {step : SetupStep} (listed : step ∈ circuit.program.setup)
    (mentioned : pin ∈ step.pins) : circuit.Wires pin := by
  rw [setup_eq] at listed
  obtain ⟨part, first, does⟩ := List.mem_filterMap.mp listed
  exact ⟨part, mem_of_mem_firstUsers first, mem_pins_of_setupStep? does mentioned⟩

/-- A pin that a command mentions is wired to a part. -/
theorem wires_of_command {command : Command} (listed : command ∈ circuit.program.loop)
    (mentioned : pin ∈ command.pins) : circuit.Wires pin := by
  rw [loop_eq] at listed
  obtain ⟨part, placed, commands⟩ := List.mem_filterMap.mp listed
  exact ⟨part, placed, mem_pins_of_command? commands mentioned⟩

/-- So it is with its lines: the pins that they carry are those of live parts. -/
theorem exists_carries (style : Style) (circuit : Circuit) {line : String}
    (printed : line ∈ (circuit.sections style).value.statements) :
    ∃ pins, style.Carries line pins ∧ ∀ pin ∈ pins, circuit.Wires pin := by
  rcases List.mem_append.mp printed with outside | inside
  · rcases List.mem_append.mp outside with declared | readied
    · obtain ⟨declaration, listed, rfl⟩ := List.mem_map.mp declared
      exact ⟨_, declaration.carries style (isWord_of_declaration listed), fun _ => wires_of_declaration listed⟩
    · obtain ⟨step, listed, rfl⟩ := List.mem_map.mp readied
      exact ⟨_, step.carries style fun _ motor => isWord_of_setupStep listed motor,
        fun _ => wires_of_setupStep listed⟩
  · obtain ⟨command, listed, printed⟩ := List.mem_flatMap.mp inside
    rcases (command.carries style fun _ motor => isWord_of_command listed motor).2 line printed with own | none
    · exact ⟨_, own, fun _ => wires_of_command listed⟩
    · exact ⟨[], none, by simp⟩

/-- No part, no claimed pin and no statement of the program refers to a blank pin. -/
structure BlankFree (circuit : Circuit) : Prop where
  parts : ∀ part ∈ circuit.parts, ∀ pin ∈ part.pins, pin.isBlank = false
  claimed : ∀ pin ∈ circuit.claimedPins, pin.isBlank = false
  declarations : ∀ declaration ∈ circuit.program.declarations, ∀ pin ∈ declaration.pins, pin.isBlank = false
  setup : ∀ step ∈ circuit.program.setup, ∀ pin ∈ step.pins, pin.isBlank = false
  loop : ∀ command ∈ circuit.program.loop, ∀ pin ∈ command.pins, pin.isBlank = false

/-- Where no blank pin is bound, none is claimed or mentioned in the program. -/
theorem NoneBlank.blankFree (visible : circuit.NoneBlank) : circuit.BlankFree := by
  have bound {pin : Pin} : circuit.Wires pin → pin.isBlank = false :=
    fun ⟨part, placed, _, member⟩ => visible part placed pin member
  constructor
  case parts => exact visible
  case claimed =>
    intro pin claimed
    obtain ⟨part, placed, -, member⟩ := mem_claimedPins.mp claimed
    exact visible part placed pin member
  case declarations => exact fun _ listed _ mentioned => bound (wires_of_declaration listed mentioned)
  case setup => exact fun _ listed _ mentioned => bound (wires_of_setupStep listed mentioned)
  case loop => exact fun _ listed _ mentioned => bound (wires_of_command listed mentioned)

/-- Where no blank pin is bound, none is written in a line. -/
theorem NoneBlank.blankFreeLines (visible : circuit.NoneBlank) (style : Style) :
    (circuit.sections style).value.BlankFree style := by
  intro line printed
  obtain ⟨pins, carries, bound⟩ := exists_carries style circuit printed
  refine ⟨pins, carries, fun pin member => ?_⟩
  obtain ⟨part, placed, -, member⟩ := bound pin member
  exact visible part placed pin member

/-- Whatever a session does, by edits or by the actions of an editor, no blank pin gets into its circuit, into the
statements that the source text is made of or into the lines that are printed of them. -/
theorem blankFree_of_reached
    (reached : circuit.Reached ∨ ∃ editor : Editor, editor.Reached ∧ editor.circuit = circuit) (style : Style) :
    circuit.BlankFree ∧ (circuit.compile style).value = (circuit.program.sections style).text style ∧
      (circuit.sections style).value.BlankFree style := by
  have visible : circuit.NoneBlank := by
    rcases reached with edits | ⟨editor, actions, rfl⟩
    · exact edits.noneBlank
    · exact actions.circuit.noneBlank
  exact ⟨visible.blankFree, rfl, visible.blankFreeLines style⟩

/-- A bind to a no-break space unbinds, and coils with an empty name are refused. -/
theorem blankFree_of_blanks_refused :
    (Circuit.mk [.light none 1, .stepper [⟨"été"⟩] 5]).Reached ∧
      (Circuit.mk [.light none 1, .stepper [⟨"été"⟩] 5]).BlankFree ∧
      ((Circuit.mk [.light none 1, .stepper [⟨"été"⟩] 5]).compile .plain).value =
        ((Circuit.mk [.light none 1, .stepper [⟨"été"⟩] 5]).program.sections .plain).text .plain ∧
      ((Circuit.mk [.light none 1, .stepper [⟨"été"⟩] 5]).sections .plain).value.BlankFree .plain := by
  have start : (Circuit.mk [.light (some ⟨"D1"⟩) 1, .stepper [⟨"été"⟩] 5]).Reached := by
    have read : (ofText "led D1 value=1\nstepper été 5\n").value.toOption =
        some ⟨[.light (some ⟨"D1"⟩) 1, .stepper [⟨"été"⟩] 5]⟩ := by decide +kernel
    cases result : (ofText "led D1 value=1\nstepper été 5\n").value with
    | error error => rw [result] at read; cases read
    | ok circuit =>
      rw [result] at read
      cases read
      exact .ofText result
  have reached := (start.edited (.change 0 (.bind ⟨"\u00A0"⟩))).edited (.change 1 (.coils [⟨"D2"⟩, ⟨""⟩]))
  exact ⟨reached, blankFree_of_reached (.inl reached) .plain⟩

end Circuit

end Breadboard
