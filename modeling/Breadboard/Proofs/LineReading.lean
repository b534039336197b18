import Breadboard.Proofs.ClearText
import Breadboard.Proofs.Hardware
import Breadboard.Proofs.Lexis

/-! # Lines read back

What a printed line is about can be read off the line itself. A declaration declares the word behind its first blank, a
call on a motor begins with the name of the motor, and a pin has its mode set, or is written and read, in a handful of
lines that tell the pin whatever its name is: no ending of such a line ends in another, so the name is what stands in
front of it. Nothing is asked of the indentation.
-/

namespace Breadboard

/-! ## Words and what ends them -/

namespace Text

/-- A text that ends the word before it. -/
def EndsWord (text : String) : Prop :=
  text.toList.head?.any (fun c => !isWordChar c) = true

instance (text : String) : Decidable (EndsWord text) :=
  inferInstanceAs (Decidable (_ = true))

/-- What ends a word does so whatever stands behind it. -/
theorem EndsWord.append {text : String} (ends : EndsWord text) (rest : String) : EndsWord (text ++ rest) := by
  obtain ⟨c, first, outside⟩ := (Option.any_eq_true _ _).mp ends
  exact (Option.any_eq_true _ _).mpr ⟨c, by rw [String.toList_append, List.head?_append, first, Option.some_or], outside⟩

/-- A word is found again in front of what ends it. -/
theorem IsWord.leadingWord_append {word rest : String} (isWord : IsWord word) (ends : EndsWord rest) :
    leadingWord (word ++ rest).toList = word.toList := by
  obtain ⟨c, first, outside⟩ := (Option.any_eq_true _ _).mp ends
  rw [String.toList_append]
  refine Script.leadingWord_append isWord fun d front => ?_
  rw [first] at front
  cases front
  simpa using outside

/-- Texts are told apart by what stands in front of endings of which none ends in another. -/
theorem eq_of_append_eq_append {endings : List (List Char)}
    (free : ∀ ending ∈ endings, ∀ other ∈ endings, ending <:+ other → ending = other) {front other : List Char}
    {ending last : List Char} (known : ending ∈ endings) (knownLast : last ∈ endings)
    (same : front ++ ending = other ++ last) : front = other := by
  rcases List.append_eq_append_iff.mp same with ⟨between, rfl, rfl⟩ | ⟨between, rfl, rfl⟩
  · have whole := congrArg List.length (free _ knownLast _ known (List.suffix_append between last))
    rw [List.length_append] at whole
    rw [List.eq_nil_of_length_eq_zero (by omega : between.length = 0), List.append_nil]
  · have whole := congrArg List.length (free _ known _ knownLast (List.suffix_append between ending))
    rw [List.length_append] at whole
    rw [List.eq_nil_of_length_eq_zero (by omega : between.length = 0), List.append_nil]

end Text

/-- A pin is its name. -/
theorem Pin.name_injective : Function.Injective Pin.name := by
  rintro ⟨name⟩ ⟨other⟩ rfl
  rfl

/-! ## Reading a line -/

/-- The name that a line declares: the word behind its first blank. -/
def declaredName (line : String) : String :=
  String.ofList (Text.leadingWord ((line.toList.dropWhile (· ≠ ' ')).drop 1))

/-- The mode of a pin is set in one of these lines, one for each kind of part. -/
def Style.configuring (style : Style) (pin : Pin) : List String :=
  Part.Kind.all.map fun kind =>
    style.line ("pinMode(" ++ pin.name ++ ", " ++ toString kind.pinMode ++ ");") ("Setup " ++ kind.name ++ " pin")

/-- The levels that are written to pins, with the notes of those lines. -/
def Style.writings : List (String × String) :=
  [("HIGH", "Turn Magic Light on"), ("LOW", "Turn Magic Light off"), ("HIGH", "Turn Blinky Switch on"),
    ("LOW", "Turn Blinky Switch off"), ("HIGH", "Set Power Controller to HIGH"), ("LOW", "Set Power Controller to LOW")]

/-- A pin is written or read in one of these lines. -/
def Style.touching (style : Style) (pin : Pin) : List String :=
  (style.indent ++ "if (digitalRead(" ++ pin.name ++ ") == LOW) \x7b") ::
    writings.map fun (level, note) => style.line ("digitalWrite(" ++ pin.name ++ ", " ++ level ++ ");") note

/-- The word that a line begins with, behind its indentation. -/
def Style.subject (style : Style) (line : String) : String :=
  String.ofList (Text.leadingWord (line.toList.drop style.indent.toList.length))

/-- The line with another word in the place of the one that it begins with. -/
def Style.withSubject (style : Style) (rename : String → String) (line : String) : String :=
  style.indent ++ rename (style.subject line) ++
    String.ofList (line.toList.drop (style.indent.toList.length + (style.subject line).toList.length))

/-- The name in a declaration is read back from its text. -/
theorem Declaration.declaredName_text {declaration : Declaration} (word : Text.IsWord declaration.name) :
    declaredName declaration.text = declaration.name := by
  have declared (opening : List Char) (rest : String) {line name : String} (solid : ' ' ∉ opening)
      (shape : line.toList = opening ++ ' ' :: (name ++ rest).toList) (word : Text.IsWord name)
      (ends : Text.EndsWord rest) : declaredName line = name := by
    have blank : (line.toList.dropWhile (· ≠ ' ')).drop 1 = (name ++ rest).toList := by
      rw [shape, List.dropWhile_append_of_pos fun c member => by simpa using ne_of_mem_of_not_mem member solid]
      simp
    rw [declaredName, blank, word.leadingWord_append ends, String.ofList_toList]
  cases declaration with
  | servo name =>
    exact declared "Servo".toList ";" (by decide) (by simp [text, Declaration.name]) word (by decide +kernel)
  | stepper name coils =>
    have ends : Text.EndsWord ("(" ++ (stepsPerTurn.repr ++ (", " ++
        (", ".intercalate (coils.pins.map Pin.name) ++ ");")))) := Text.EndsWord.append (by decide +kernel) _
    exact declared "Stepper".toList _ (by decide) (by simp [text, Declaration.name]) word ends

namespace Style

variable (style : Style)

private theorem subject_append {word rest : String} (isWord : Text.IsWord word) (ends : Text.EndsWord rest) :
    style.subject (style.indent ++ (word ++ rest)) = word := by
  rw [subject, String.toList_append, List.drop_left, isWord.leadingWord_append ends, String.ofList_toList]

private theorem withSubject_append {word rest : String} (isWord : Text.IsWord word) (ends : Text.EndsWord rest)
    (rename : String → String) :
    style.withSubject rename (style.indent ++ (word ++ rest)) = style.indent ++ (rename word ++ rest) := by
  rw [withSubject, subject_append style isWord ends, String.toList_append, String.toList_append, ← List.append_assoc,
    ← List.length_append, List.drop_left, String.ofList_toList, String.append_assoc]

/-- A note has a line of its own only in an annotated program. -/
theorem mem_noteLine {indent note line : String} :
    line ∈ style.noteLine indent note ↔ style.annotate = true ∧ line = indent ++ "// " ++ note := by
  unfold noteLine
  split
  next wanted => simp [wanted]
  next unwanted => simp [unwanted]

/-- Behind the indentation stand the statement and the note. -/
theorem line_eq (statement note : String) :
    style.line statement note = style.indent ++ (statement ++ if style.annotate then " // " ++ note else "") :=
  String.append_assoc

/-- The word that a line begins with is read back from the line. -/
theorem subject_line {word call : String} (isWord : Text.IsWord word) (ends : Text.EndsWord call) (note : String) :
    style.subject (style.line (word ++ call) note) = word := by
  rw [line_eq, String.append_assoc]
  exact style.subject_append isWord (ends.append _)

/-- Renaming the word that a line begins with gives the line with the other word. -/
theorem withSubject_line {word call : String} (isWord : Text.IsWord word) (ends : Text.EndsWord call) (note : String)
    (rename : String → String) :
    style.withSubject rename (style.line (word ++ call) note) = style.line (rename word ++ call) note := by
  rw [line_eq, line_eq, String.append_assoc, String.append_assoc]
  exact style.withSubject_append isWord (ends.append _) rename

end Style

/-! ## Lines of pins -/

namespace Style

variable {style : Style}

/-- What stands behind the name of a pin whose mode is set for a kind of part. -/
private def modeEnding (style : Style) (kind : Part.Kind) : String :=
  ", " ++ toString kind.pinMode ++ ");" ++ if style.annotate then " // Setup " ++ kind.name ++ " pin" else ""

private theorem toList_configuring (pin : Pin) (kind : Part.Kind) :
    ((SetupStep.configure pin kind.pinMode kind).line style).toList =
      style.indent.toList ++ "pinMode(".toList ++ (pin.name.toList ++ (style.modeEnding kind).toList) := by
  cases wanted : style.annotate <;> simp [SetupStep.line, line, modeEnding, wanted]

private theorem modeEnding_free : ∀ ending ∈ Part.Kind.all.map fun kind => (style.modeEnding kind).toList,
    ∀ other ∈ Part.Kind.all.map fun kind => (style.modeEnding kind).toList, ending <:+ other → ending = other := by
  simp only [modeEnding]
  cases style.annotate <;> decide +kernel

/-- A line that sets the mode of a pin tells the pin. -/
theorem configure_mem_configuring {pin other : Pin} {kind : Part.Kind} :
    (SetupStep.configure pin kind.pinMode kind).line style ∈ style.configuring other ↔ pin = other := by
  constructor
  · intro listed
    obtain ⟨otherKind, -, same⟩ := List.mem_map.mp listed
    have chars := (toList_configuring other otherKind).symm.trans (congrArg String.toList same)
    rw [toList_configuring] at chars
    have names := Text.eq_of_append_eq_append modeEnding_free (List.mem_map_of_mem (Part.Kind.mem_all _))
      (List.mem_map_of_mem (Part.Kind.mem_all _)) (List.append_cancel_left chars)
    exact Pin.name_injective (String.toList_inj.mp names.symm)
  · rintro rfl
    exact List.mem_map_of_mem (Part.Kind.mem_all kind)

/-- What stands behind the name of a pin that is written. -/
private def writeEnding (style : Style) (writing : String × String) : String :=
  ", " ++ writing.1 ++ ");" ++ if style.annotate then " // " ++ writing.2 else ""

private theorem writeEnding_free : ∀ ending ∈ writings.map fun writing => (style.writeEnding writing).toList,
    ∀ other ∈ writings.map fun writing => (style.writeEnding writing).toList, ending <:+ other → ending = other := by
  simp only [writeEnding]
  cases style.annotate <;> decide +kernel

private theorem mem_touching {pin : Pin} {line : String} :
    line ∈ style.touching pin ↔
      line.toList = style.indent.toList ++ ("if (digitalRead(".toList ++ (pin.name.toList ++ ") == LOW) \x7b".toList)) ∨
        ∃ writing ∈ writings, line.toList =
          style.indent.toList ++ ("digitalWrite(".toList ++ (pin.name.toList ++ (style.writeEnding writing).toList)) := by
  rw [touching, List.mem_cons, ← String.toList_inj]
  simp only [String.toList_append, List.append_assoc, List.mem_map]
  refine or_congr_right ⟨?_, ?_⟩
  · rintro ⟨writing, listed, rfl⟩
    refine ⟨writing, listed, ?_⟩
    cases wanted : style.annotate <;> simp [Style.line, writeEnding, wanted]
  · rintro ⟨writing, listed, shape⟩
    refine ⟨writing, listed, String.toList_inj.mp (Eq.trans ?_ shape.symm)⟩
    cases wanted : style.annotate <;> simp [Style.line, writeEnding, wanted]

/-- A pin is written in such a line. -/
theorem write_mem_touching {pin : Pin} {level note : String} (known : (level, note) ∈ writings) :
    style.line (writeStatement pin level) note ∈ style.touching pin :=
  List.mem_cons_of_mem _ (List.mem_map.mpr ⟨_, known, rfl⟩)

/-- A line that writes or reads a pin tells the pin. -/
theorem eq_of_mem_touching {pin other : Pin} {line : String} (touches : line ∈ style.touching pin)
    (touchesOther : line ∈ style.touching other) : pin = other := by
  have apart {front rest others : List Char} (reads : line.toList = front ++ ("if (digitalRead(".toList ++ rest))
      (writes : line.toList = front ++ ("digitalWrite(".toList ++ others)) : False := by
    have first := congrArg List.head? (List.append_cancel_left (reads.symm.trans writes))
    simp at first
  refine Pin.name_injective (String.toList_inj.mp ?_)
  rcases mem_touching.mp touches with reads | ⟨writing, listed, writes⟩ <;>
    rcases mem_touching.mp touchesOther with reads' | ⟨writing', listed', writes'⟩
  · exact List.append_cancel_right (List.append_cancel_left (List.append_cancel_left (reads.symm.trans reads')))
  · exact (apart reads writes').elim
  · exact (apart reads' writes).elim
  · exact Text.eq_of_append_eq_append writeEnding_free
      (List.mem_map_of_mem (f := fun writing => (style.writeEnding writing).toList) listed)
      (List.mem_map_of_mem (f := fun writing => (style.writeEnding writing).toList) listed')
      (List.append_cancel_left (List.append_cancel_left (writes.symm.trans writes')))

/-- Such a line begins with a word of its own. -/
private theorem subject_touching {pin : Pin} {line : String} (touches : line ∈ style.touching pin) :
    style.subject line = "if" ∨ style.subject line = "digitalWrite" := by
  have opened {word : String} (rest : String) (shape : line.toList = style.indent.toList ++ (word ++ rest).toList)
      (isWord : Text.IsWord word) (ends : Text.EndsWord rest) : style.subject line = word := by
    rw [subject, shape, List.drop_left, isWord.leadingWord_append ends, String.ofList_toList]
  rcases mem_touching.mp touches with reads | ⟨writing, -, writes⟩
  · exact .inl (opened (" (digitalRead(" ++ (pin.name ++ ") == LOW) \x7b")) (by simp [reads])
      (by decide +kernel) (Text.EndsWord.append (by decide +kernel) _))
  · exact .inr (opened ("(" ++ (pin.name ++ style.writeEnding writing)) (by simp [writes])
      (by decide +kernel) (Text.EndsWord.append (by decide +kernel) _))

/-- It ends as no remark and no closing brace does. -/
private theorem getLast?_touching {pin : Pin} {line : String} (touches : line ∈ style.touching pin) :
    line.toList.getLast?.any (· ∈ ['\x7b', ';', 'n', 'f', 'H', 'W']) = true := by
  have endings : ∀ writing ∈ writings,
      (style.writeEnding writing).toList.getLast?.any (· ∈ ['\x7b', ';', 'n', 'f', 'H', 'W']) = true := by
    simp only [writeEnding]
    cases style.annotate <;> decide +kernel
  have behind {front ending : List Char} {p : Char → Bool} (last : ending.getLast?.any p = true) :
      (front ++ ending).getLast?.any p = true := by
    obtain ⟨c, found, -⟩ := (Option.any_eq_true _ _).mp last
    rwa [List.getLast?_append, found, Option.some_or, ← found]
  rcases mem_touching.mp touches with reads | ⟨writing, listed, writes⟩
  · rw [reads]
    exact behind (behind (behind (by decide +kernel)))
  · rw [writes]
    exact behind (behind (behind (endings writing listed)))

/-- A line that begins with another word touches no pin, -/
private theorem line_notMem_touching {pin : Pin} {word call : String} (isWord : Text.IsWord word)
    (ends : Text.EndsWord call) (other : word ≠ "if") (another : word ≠ "digitalWrite") (note : String) :
    style.line (word ++ call) note ∉ style.touching pin := by
  intro touches
  have subject := subject_touching touches
  rw [style.subject_line isWord ends] at subject
  exact subject.elim other another

/-- nor does a pause, -/
private theorem delay_notMem_touching {pin : Pin} (milliseconds : Int64) (note : String) :
    style.line (delayStatement milliseconds) note ∉ style.touching pin := by
  have spelled : delayStatement milliseconds = "delay" ++ ("(" ++ (Text.Numeral.written milliseconds ++ ");")) :=
    String.toList_inj.mp (by simp [delayStatement])
  rw [spelled]
  exact line_notMem_touching (by decide +kernel) (Text.EndsWord.append (by decide +kernel) _) (by decide) (by decide) _

/-- nor a line that ends as a remark or a closing brace does. -/
private theorem append_notMem_touching {pin : Pin} {front ending : String}
    (last : ending.toList.getLast?.any (· ∉ ['\x7b', ';', 'n', 'f', 'H', 'W']) = true) :
    front ++ ending ∉ style.touching pin := by
  intro touches
  obtain ⟨c, found, other⟩ := (Option.any_eq_true _ _).mp last
  have known := getLast?_touching touches
  rw [String.toList_append, List.getLast?_append, found, Option.some_or, Option.any_some] at known
  exact of_decide_eq_true other (of_decide_eq_true known)

end Style

namespace Command

variable {style : Style} {command : Command} {pin : Pin}

/-- A motor is driven in a single line, which begins with its name. -/
theorem exists_call {name : String} (drives : command.motor? = some name) (style : Style) :
    ∃ call note, Text.EndsWord call ∧ command.lines style = [style.line (name ++ call) note] ∧
      ∀ rename, (command.renamed rename).lines style = [style.line (rename name ++ call) note] := by
  have regroup (name method number : String) :
      name ++ method ++ number ++ ");" = name ++ (method ++ (number ++ ");")) := by
    rw [String.append_assoc, String.append_assoc]
  cases command <;> cases drives
  case turn angle =>
    exact ⟨".write(" ++ (Text.Numeral.written angle ++ ");"),
      "Move " ++ Part.Kind.servo.name ++ " to " ++ Text.Numeral.written angle ++ " degrees",
      Text.EndsWord.append (by decide +kernel) _, by rw [lines, regroup], fun rename => by rw [renamed, lines, regroup]⟩
  case advance steps =>
    exact ⟨".step(" ++ (Text.Numeral.written steps ++ ");"),
      "Move " ++ Part.Kind.stepper.name ++ " by " ++ Text.Numeral.written steps ++ " steps",
      Text.EndsWord.append (by decide +kernel) _, by rw [lines, regroup], fun rename => by rw [renamed, lines, regroup]⟩

/-- A command on a pin has a line that touches the pin. -/
theorem exists_touching (style : Style) (uses : command.pin? = some pin) :
    ∃ line ∈ command.lines style, line ∈ style.touching pin := by
  cases command <;> cases uses
  case light lit => exact ⟨_, List.mem_singleton_self _, Style.write_mem_touching (by cases lit <;> decide)⟩
  case poll => exact ⟨_, List.mem_cons_self, List.mem_cons_self⟩
  case blink interval => exact ⟨_, List.mem_cons_self, Style.write_mem_touching (by decide)⟩
  case power state => exact ⟨_, List.mem_singleton_self _, Style.write_mem_touching (by cases state <;> decide)⟩

/-- No other command has, as long as no motor is called by the word that such a line begins with. -/
theorem pin?_of_touching (motors : ∀ name ∈ command.motor?, Text.IsWord name ∧ name ≠ "if" ∧ name ≠ "digitalWrite")
    {line : String} (listed : line ∈ command.lines style) (touches : line ∈ style.touching pin) :
    command.pin? = some pin := by
  have own {other : Pin} (touchesOther : line ∈ style.touching other) : some other = some pin :=
    congrArg some (Style.eq_of_mem_touching touchesOther touches)
  have driven {name : String} (drives : command.motor? = some name) : False := by
    obtain ⟨isWord, other, another⟩ := motors name drives
    obtain ⟨call, note, ends, only, -⟩ := exists_call drives style
    rw [only, List.mem_singleton] at listed
    exact Style.line_notMem_touching isWord ends other another note (listed ▸ touches)
  cases command with
  | light other lit =>
    obtain rfl := List.mem_singleton.mp listed
    exact own (Style.write_mem_touching (by cases lit <;> decide))
  | power other state =>
    obtain rfl := List.mem_singleton.mp listed
    exact own (Style.write_mem_touching (by cases state <;> decide))
  | blink other interval =>
    simp only [lines, List.mem_cons, List.not_mem_nil, or_false] at listed
    rcases listed with shape | pause | shape | pause
    · exact own (shape ▸ Style.write_mem_touching (by decide))
    · exact (Style.delay_notMem_touching _ _ (pause ▸ touches)).elim
    · exact own (shape ▸ Style.write_mem_touching (by decide))
    · exact (Style.delay_notMem_touching _ _ (pause ▸ touches)).elim
  | poll other =>
    simp only [lines, List.mem_append, List.mem_singleton, Style.mem_noteLine] at listed
    rcases listed with ((rfl | ⟨-, remark⟩) | ⟨-, remark⟩) | closing
    · exact own List.mem_cons_self
    · exact (Style.append_notMem_touching (by decide +kernel) (remark ▸ touches)).elim
    · exact (Style.append_notMem_touching (by decide +kernel) (remark ▸ touches)).elim
    · exact (Style.append_notMem_touching (by decide +kernel) (closing ▸ touches)).elim
  | wait milliseconds => exact (Style.delay_notMem_touching _ _ (List.mem_singleton.mp listed ▸ touches)).elim
  | turn name angle => exact (driven rfl).elim
  | advance name steps => exact (driven rfl).elim

end Command

/-- A step of `setup` begins with the name of the motor that it makes ready. -/
theorem SetupStep.subject_line (step : SetupStep) (style : Style) (words : ∀ name ∈ step.motor?, Text.IsWord name) :
    style.subject (step.line style) = step.motor?.getD "pinMode" := by
  cases step with
  | configure pin mode kind =>
    have spelled : "pinMode(" ++ pin.name ++ ", " ++ toString mode ++ ");" =
        "pinMode" ++ ("(" ++ (pin.name ++ (", " ++ (toString mode ++ ");")))) := String.toList_inj.mp (by simp)
    rw [line, spelled]
    exact style.subject_line (by decide +kernel) (Text.EndsWord.append (by decide +kernel) _) _
  | attach name pin =>
    rw [line, String.append_assoc, String.append_assoc]
    exact style.subject_line (words name rfl) (Text.EndsWord.append (by decide +kernel) _) _
  | setSpeed name =>
    rw [line, String.append_assoc, String.append_assoc]
    exact style.subject_line (words name rfl) (Text.EndsWord.append (by decide +kernel) _) _

end Breadboard
