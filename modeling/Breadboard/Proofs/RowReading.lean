import Breadboard.Proofs.Lexis
import Breadboard.Proofs.Rows

/-! # Programs read off their text

Where names and pins are words, the annotated text determines the program. A line determines its row, for the blanks
in front of it give the depth and its first two slashes in a row part the statement from the note. The rows fall into
sections at rows that stand in no section, and each of them says what it was made of: kinds that share a statement
differ in their notes, and a word ends where the first other character stands.
-/

namespace Breadboard

/-! ## Lines determine rows -/

/-- Blanks in front of two texts are told apart from them. -/
theorem replicate_append_inj {α : Type} {c : α} {m n : Nat} {front rest : List α} (first : front.head? ≠ some c)
    (second : rest.head? ≠ some c) :
    List.replicate m c ++ front = List.replicate n c ++ rest ↔ m = n ∧ front = rest := by
  refine ⟨fun same => ?_, fun ⟨lengths, texts⟩ => by rw [lengths, texts]⟩
  induction m generalizing n with
  | zero =>
    cases n with
    | zero => exact ⟨rfl, same⟩
    | succ n => exact absurd (congrArg List.head? same) first
  | succ m ih =>
    cases n with
    | zero => exact absurd (congrArg List.head? same).symm second
    | succ n =>
      obtain ⟨lengths, texts⟩ := ih (List.cons_inj_right c |>.mp same)
      exact ⟨congrArg Nat.succ lengths, texts⟩

/-- A map tells two lists apart if it tells their members apart. -/
theorem eq_of_map_eq_map {α β : Type} {f : α → β} {items others : List α}
    (inj : ∀ item ∈ items, ∀ other ∈ others, f item = f other → item = other) (same : items.map f = others.map f) :
    items = others := by
  induction items generalizing others with
  | nil => exact (List.map_eq_nil_iff.mp same.symm).symm
  | cons item rest ih =>
    cases others with
    | nil => cases same
    | cons other others =>
      obtain ⟨first, later⟩ := List.cons_eq_cons.mp same
      rw [inj item List.mem_cons_self other List.mem_cons_self first,
        ih (fun item member other listed => inj item (.tail _ member) other (.tail _ listed)) later]

namespace Row

def depth : Row → Nat
  | .statement depth _ _ | .remark depth _ => depth

/-- What stands behind the indentation of an annotated line. -/
def body : Row → String
  | .statement _ text none => text
  | .statement _ text (some note) => text ++ " // " ++ note
  | .remark _ note => "// " ++ note

/-- The line of a row in the standard style, which no row lacks. -/
def line (row : Row) : String :=
  indentation "  " row.depth ++ row.body

private theorem line?_standard (row : Row) : row.line? .standard = some row.line := by
  cases row with
  | statement depth text note? =>
    cases note? <;> simp [line?, Style.standard, line, body, Row.depth, String.append_assoc]
  | remark depth note => simp [line?, Style.standard, line, body, Row.depth, String.append_assoc]

private theorem toList_indentation (depth : Nat) :
    (indentation "  " depth).toList = List.replicate (2 * depth) ' ' := by
  induction depth with
  | zero => rfl
  | succ depth ih =>
    rw [indentation, String.toList_join] at ih ⊢
    rw [List.replicate_succ, List.flatMap_cons, ih]
    rfl

private theorem head?_body {row : Row} (legible : row.Legible) : row.body.toList.head? ≠ some ' ' := by
  cases row with
  | statement depth text note? =>
    obtain ⟨-, start, noted⟩ := legible
    cases note? with
    | none => exact start
    | some note =>
      -- A statement with a note is not empty, so the note does not come first.
      cases shape : text.toList with
      | nil => simp [shape] at noted
      | cons c rest => simpa [body, shape] using start
  | remark depth note => simp [body]

/-- What stands between the indentation and the note, if there is one. -/
def beforeNote? : Row → Option (List Char)
  | .statement _ _ none => none
  | .statement _ text (some _) => some (text.toList ++ [' '])
  | .remark .. => some []

private theorem beforeNote?_body {row : Row} (legible : row.Legible) :
    Text.beforeNote? row.body.toList = row.beforeNote? := by
  cases row with
  | statement depth text note? =>
    obtain ⟨clear, -, -⟩ := legible
    cases note? with
    | none => exact clear.beforeNote?_eq_none
    | some note => exact clear.beforeNote?_noted note
  | remark depth note => simp [body, Text.beforeNote?, beforeNote?]

private theorem eq_of_body_eq {row other : Row} (legible : row.Legible) (otherLegible : other.Legible)
    (depths : row.depth = other.depth) (bodies : row.body = other.body) : row = other := by
  have fronts : row.beforeNote? = other.beforeNote? := by
    rw [← beforeNote?_body legible, ← beforeNote?_body otherLegible, bodies]
  match row, other with
  | .statement depth text none, .statement _ _ none =>
    obtain rfl : depth = _ := depths
    exact congrArg (statement depth · none) bodies
  | .statement depth text (some note), .statement _ _ (some _) =>
    obtain rfl : depth = _ := depths
    obtain rfl := String.toList_inj.mp (List.append_cancel_right (Option.some.inj fronts))
    rw [String.append_right_inj _ |>.mp bodies]
  | .remark depth note, .remark _ _ =>
    obtain rfl : depth = _ := depths
    exact congrArg (remark depth) (String.append_right_inj _ |>.mp bodies)
  | .statement _ _ none, .statement _ _ (some _) => cases fronts
  | .statement _ _ none, .remark .. => cases fronts
  | .statement _ _ (some _), .statement _ _ none => cases fronts
  | .statement _ _ (some _), .remark .. => simp [beforeNote?] at fronts
  | .remark .., .statement _ _ none => cases fronts
  | .remark .., .statement _ _ (some _) => simp [beforeNote?] at fronts

private theorem eq_of_line_eq {row other : Row} (legible : row.Legible) (otherLegible : other.Legible)
    (same : row.line = other.line) : row = other := by
  rw [line, line, ← String.toList_inj, String.toList_append, String.toList_append, toList_indentation,
    toList_indentation, replicate_append_inj (head?_body legible) (head?_body otherLegible)] at same
  exact eq_of_body_eq legible otherLegible (by omega) (String.toList_inj.mp same.2)

end Row

/-- Where no pin holds a note, the printed text determines the rows of the program. -/
theorem Circuit.rows_eq_of_compile_eq {first second : Circuit} (clear : first.ClearPins) (otherClear : second.ClearPins)
    (same : (first.compile .standard).value = (second.compile .standard).value) :
    first.program.rows = second.program.rows := by
  have lines (circuit : Circuit) :
      circuit.program.rows.filterMap (Row.line? .standard) = circuit.program.rows.map Row.line := by
    rw [funext Row.line?_standard, List.filterMap_eq_map']
  have unbroken : '\n' ∉ Style.standard.indent.toList := by decide
  have cut := congrArg (fun text : String => text.toList.splitOn '\n') same
  simp only [splitOn_compile clear unbroken, splitOn_compile otherClear unbroken, lines, List.append_left_inj] at cut
  have texts := List.map_injective_iff.mpr (fun _ _ => String.toList_inj.mp) cut
  exact eq_of_map_eq_map (fun _ member _ listed => Row.eq_of_line_eq (legible_rows clear _ member)
    (legible_rows otherClear _ listed)) texts

/-! ## Rows determine sections -/

private theorem append_cons_inj_of_notMem {α : Type} {a : α} {front second rest others : List α} (first : a ∉ front)
    (other : a ∉ second) : front ++ a :: rest = second ++ a :: others ↔ front = second ∧ rest = others := by
  refine ⟨fun same => ?_, fun ⟨fronts, rests⟩ => by rw [fronts, rests]⟩
  induction front generalizing second with
  | nil =>
    cases second with
    | nil => exact ⟨rfl, (List.cons_eq_cons.mp same).2⟩
    | cons b second => exact absurd (List.mem_cons.mpr (.inl (List.cons_eq_cons.mp same).1)) other
  | cons b front ih =>
    cases second with
    | nil => exact absurd (List.mem_cons.mpr (.inl (List.cons_eq_cons.mp same).1.symm)) first
    | cons c second =>
      obtain ⟨rfl, later⟩ := List.cons_eq_cons.mp same
      obtain ⟨fronts, rests⟩ := ih (fun member => first (.tail _ member)) (fun member => other (.tail _ member)) later
      exact ⟨congrArg (b :: ·) fronts, rests⟩

private theorem Row.outer_injective : Function.Injective Row.outer := by
  intro text other same
  cases same
  rfl

/-- The rows of a program fall into its sections. -/
theorem Program.sections_eq_of_rows_eq {program other : Program} (same : program.rows = other.rows) :
    program.declarations.map Declaration.text = other.declarations.map Declaration.text ∧
      program.setup.map SetupStep.row = other.setup.map SetupStep.row ∧
      program.loop.flatMap Command.rows = other.loop.flatMap Command.rows := by
  have declared (declarations : List Declaration) : Row.outer ("void " ++ "setup" ++ "() \x7b") ∉
      (declarations.map Declaration.text ++ if declarations.isEmpty then [] else [""]).map Row.outer := by
    rw [List.mem_map_of_injective Row.outer_injective, List.mem_append, not_or]
    refine ⟨fun member => ?_, by split <;> decide⟩
    obtain ⟨declaration, -, text⟩ := List.mem_map.mp member
    have first := congrArg (fun text : String => text.toList.head?) text
    cases declaration <;> simp [Declaration.text] at first
  have inner (steps : List SetupStep) : Row.outer "\x7d" ∉ steps.map SetupStep.row := by
    rw [List.mem_map]
    rintro ⟨step, -, outside⟩
    cases step <;> cases outside
  have unseparated (declarations : List Declaration) :
      (declarations.map Declaration.text ++ if declarations.isEmpty then [] else [""]).dropLast =
        declarations.map Declaration.text := by
    cases declarations with
    | nil => rfl
    | cons first rest => exact List.dropLast_concat
  simp only [rows, Row.function, List.append_cancel_left_eq, List.cons_append, List.nil_append,
    List.append_assoc] at same
  -- The first row that opens a function ends the declarations, the first one that closes a function ends the setup.
  obtain ⟨declarations, behind⟩ := (append_cons_inj_of_notMem (declared _) (declared _)).mp same
  obtain ⟨setup, rest⟩ := (append_cons_inj_of_notMem (inner _) (inner _)).mp (List.cons_inj_right _ |>.mp behind)
  refine ⟨?_, setup, ?_⟩
  · rw [← unseparated, List.map_injective_iff.mpr Row.outer_injective declarations, unseparated]
  · simpa using rest

/-! ## Words end where other characters stand -/

namespace Text

private theorem IsWord.append_inj {word other mark rest others : String} (isWord : IsWord word)
    (otherWord : IsWord other) (ends : EndsWord mark) (same : word ++ (mark ++ rest) = other ++ (mark ++ others)) :
    word = other ∧ rest = others := by
  have words : word.toList = other.toList := by
    rw [← isWord.leadingWord_append (ends.append rest), same, otherWord.leadingWord_append (ends.append others)]
  obtain rfl := String.toList_inj.mp words
  exact ⟨rfl, by simpa only [String.append_right_inj] using same⟩

private theorem Numeral.written_injective : Function.Injective Numeral.written :=
  fun n other same => Option.some.inj ((Numeral.read?_written n).symm.trans (same ▸ Numeral.read?_written other))

end Text

/-! ## Rows determine statements -/

private theorem Part.Kind.name_injective : Function.Injective Part.Kind.name := by
  have apart : ∀ kind ∈ all, ∀ other ∈ all, kind.name = other.name → kind = other := by decide
  exact fun kind other same => apart kind (mem_all kind) other (mem_all other) same

/-- The names and pins that a statement mentions. -/
def Declaration.words (declaration : Declaration) : List String :=
  declaration.name :: declaration.pins.map Pin.name

def SetupStep.words (step : SetupStep) : List String :=
  step.motor?.toList ++ step.pins.map Pin.name

def Command.words (command : Command) : List String :=
  command.motor?.toList ++ command.pins.map Pin.name

private theorem Coils.eq_of_listed_eq {coils other : Coils} (words : ∀ pin ∈ coils.pins, Text.IsWord pin.name)
    (otherWords : ∀ pin ∈ other.pins, Text.IsWord pin.name)
    (same : ", ".intercalate (coils.pins.map Pin.name) = ", ".intercalate (other.pins.map Pin.name)) :
    coils = other := by
  obtain ⟨⟨first⟩, ⟨second⟩, ⟨third⟩, ⟨fourth⟩⟩ := coils
  obtain ⟨⟨otherFirst⟩, ⟨otherSecond⟩, ⟨otherThird⟩, ⟨otherFourth⟩⟩ := other
  have listed (a b c d : String) :
      ", ".intercalate [a, b, c, d] = a ++ (", " ++ (b ++ (", " ++ (c ++ (", " ++ d))))) := by
    simp only [← String.append_assoc]
    rfl
  have comma : Text.EndsWord ", " := by decide +kernel
  simp only [pins, List.forall_mem_cons] at words otherWords
  simp only [pins, List.map_cons, List.map_nil, listed] at same
  obtain ⟨firsts, behindFirst⟩ := words.1.append_inj otherWords.1 comma same
  obtain ⟨seconds, behindSecond⟩ := words.2.1.append_inj otherWords.2.1 comma behindFirst
  obtain ⟨thirds, fourths⟩ := words.2.2.1.append_inj otherWords.2.2.1 comma behindSecond
  rw [firsts, seconds, thirds, fourths]

/-- A declaration is read back from its text. -/
theorem Declaration.eq_of_text_eq {declaration other : Declaration}
    (words : ∀ word ∈ declaration.words, Text.IsWord word) (otherWords : ∀ word ∈ other.words, Text.IsWord word)
    (same : declaration.text = other.text) : declaration = other := by
  have chars := congrArg String.toList same
  cases declaration with
  | servo name =>
    cases other with
    | servo otherName =>
      simp only [text, String.append_left_inj, String.append_right_inj] at same
      rw [same]
    | stepper => simp [text] at chars
  | stepper name coils =>
    cases other with
    | servo => simp [text] at chars
    | stepper otherName otherCoils =>
      simp only [text, String.append_assoc, String.append_right_inj] at same
      obtain ⟨names, behind⟩ := (words _ List.mem_cons_self).append_inj (otherWords _ List.mem_cons_self)
        (by decide +kernel) same
      simp only [String.append_right_inj, String.append_left_inj] at behind
      have coilsEq := Coils.eq_of_listed_eq (fun _ member => words _ (.tail _ (List.mem_map_of_mem member)))
        (fun _ member => otherWords _ (.tail _ (List.mem_map_of_mem member))) behind
      exact congrArg₂ stepper names coilsEq

/-- The characters by which the notes of different statements differ. -/
def Row.noteStart? : Row → Option (List Char)
  | .statement _ _ note? => note?.map fun note => note.toList.take 6
  | .remark .. => none

private theorem PinMode.toString_injective : Function.Injective (toString : PinMode → String) := by
  intro mode other same
  cases mode <;> cases other <;> first | rfl | exact absurd same (by decide)

private theorem Power.level_injective : Function.Injective Power.level := by
  intro state other same
  cases state <;> cases other <;> first | rfl | exact absurd same (by decide)

/-- A setup step is read back from its row. -/
theorem SetupStep.eq_of_row_eq {step other : SetupStep} (words : ∀ word ∈ step.words, Text.IsWord word)
    (otherWords : ∀ word ∈ other.words, Text.IsWord word) (same : step.row = other.row) : step = other := by
  have starts := congrArg Row.noteStart? same
  cases step with
  | configure pin mode kind =>
    cases other with
    | configure otherPin otherMode otherKind =>
      simp only [row, Row.statement.injEq, Option.some.injEq, String.append_left_inj, String.append_right_inj,
        String.append_assoc] at same
      obtain ⟨-, statements, kinds⟩ := same
      obtain ⟨pins, modes⟩ := (words _ List.mem_cons_self).append_inj (otherWords _ List.mem_cons_self)
        (by decide +kernel) statements
      rw [Pin.name_injective pins, PinMode.toString_injective (String.append_left_inj _ |>.mp modes),
        Part.Kind.name_injective kinds]
    | attach => simp [row, Row.noteStart?] at starts
    | setSpeed => simp [row, Row.noteStart?] at starts
  | attach name pin =>
    cases other with
    | configure => simp [row, Row.noteStart?] at starts
    | attach otherName otherPin =>
      simp only [row, Row.statement.injEq, String.append_assoc] at same
      obtain ⟨names, pins⟩ := (words _ List.mem_cons_self).append_inj (otherWords _ List.mem_cons_self)
        (by decide +kernel) same.2.1
      rw [names, Pin.name_injective (String.append_left_inj _ |>.mp pins)]
    | setSpeed => simp [row, Row.noteStart?] at starts
  | setSpeed name =>
    cases other with
    | configure => simp [row, Row.noteStart?] at starts
    | attach => simp [row, Row.noteStart?] at starts
    | setSpeed otherName =>
      simp only [row, Row.statement.injEq, String.append_left_inj] at same
      rw [same.2.1]

/-- The kind of the parts that a command serves. -/
def Command.kind : Command → Part.Kind
  | .light .. => .light
  | .poll .. => .button
  | .turn .. => .servo
  | .advance .. => .stepper
  | .wait .. => .wait
  | .blink .. => .blinker
  | .power .. => .power

/-- How the note begins on the first line of such a part. -/
def Part.Kind.noteStart? : Part.Kind → Option (List Char)
  | .light => some "Turn M".toList
  | .button => none
  | .servo => some "Move R".toList
  | .stepper => some "Move S".toList
  | .wait => some "Wait f".toList
  | .blinker => some "Turn B".toList
  | .power => some "Set Po".toList

private theorem Part.Kind.noteStart?_injective : Function.Injective Part.Kind.noteStart? := by
  have apart : ∀ kind ∈ all, ∀ other ∈ all, kind.noteStart? = other.noteStart? → kind = other := by decide
  exact fun kind other same => apart kind (mem_all kind) other (mem_all other) same

namespace Command

private theorem noteStart?_rows (command : Command) (rest : List Row) :
    (command.rows ++ rest).head?.bind Row.noteStart? = command.kind.noteStart? := by
  cases command with
  | light pin lit => cases lit <;> simp [rows, Row.noteStart?, kind, Part.Kind.noteStart?, Part.Kind.name]
  | _ => simp [rows, delayRow, driveRow, Row.noteStart?, kind, Part.Kind.noteStart?, Part.Kind.name]

private theorem writeStatement_inj {pin other : Pin} {level otherLevel : String} (word : Text.IsWord pin.name)
    (otherWord : Text.IsWord other.name) (same : writeStatement pin level = writeStatement other otherLevel) :
    pin = other ∧ level = otherLevel := by
  change "digitalWrite(" ++ pin.name ++ ", " ++ level ++ ");" =
    "digitalWrite(" ++ other.name ++ ", " ++ otherLevel ++ ");" at same
  simp only [String.append_assoc, String.append_right_inj] at same
  obtain ⟨pins, levels⟩ := word.append_inj otherWord (by decide +kernel) same
  exact ⟨Pin.name_injective pins, String.append_left_inj _ |>.mp levels⟩

private theorem delayStatement_injective : Function.Injective delayStatement := by
  intro milliseconds other same
  simp only [delayStatement, String.append_left_inj, String.append_right_inj] at same
  exact Text.Numeral.written_injective same

private theorem driveRow_inj {name other method before unit : String} {number otherNumber : Int64}
    (word : Text.IsWord name) (otherWord : Text.IsWord other) (ends : Text.EndsWord method)
    (same : driveRow name method number before unit = driveRow other method otherNumber before unit) :
    name = other ∧ number = otherNumber := by
  simp only [driveRow, Row.statement.injEq, String.append_assoc] at same
  obtain ⟨names, numbers⟩ := word.append_inj otherWord ends same.2.1
  exact ⟨names, Text.Numeral.written_injective (String.append_left_inj _ |>.mp numbers)⟩

/-- The rows of a command tell the command and where it ends. -/
theorem eq_of_rows_append_eq {command other : Command} {rest others : List Row}
    (words : ∀ word ∈ command.words, Text.IsWord word) (otherWords : ∀ word ∈ other.words, Text.IsWord word)
    (same : command.rows ++ rest = other.rows ++ others) : command = other ∧ rest = others := by
  have sameKind : command.kind = other.kind :=
    Part.Kind.noteStart?_injective (by rw [← noteStart?_rows command rest, ← noteStart?_rows other others, same])
  -- Two commands of one kind are left, with their first rows and what stands behind them.
  cases command <;> cases other <;> cases sameKind
  all_goals simp only [rows, delayRow, List.cons_append, List.nil_append, List.cons.injEq, Row.statement.injEq,
    true_and, String.append_assoc] at same
  case light.light pin lit otherPin otherLit =>
    obtain ⟨pins, levels⟩ := writeStatement_inj (words _ List.mem_cons_self) (otherWords _ List.mem_cons_self) same.1.1
    have lights : lit = otherLit := by cases lit <;> cases otherLit <;> first | rfl | exact absurd levels (by decide)
    exact ⟨by rw [pins, lights], same.2⟩
  case poll.poll pin otherPin =>
    have pins := String.append_left_inj _ |>.mp (String.append_right_inj _ |>.mp same.1.1)
    exact ⟨by rw [Pin.name_injective pins], same.2⟩
  case turn.turn name angle otherName otherAngle =>
    obtain ⟨names, angles⟩ := driveRow_inj (words _ List.mem_cons_self) (otherWords _ List.mem_cons_self)
      (by decide +kernel) same.1
    exact ⟨by rw [names, angles], same.2⟩
  case advance.advance name steps otherName otherSteps =>
    obtain ⟨names, counts⟩ := driveRow_inj (words _ List.mem_cons_self) (otherWords _ List.mem_cons_self)
      (by decide +kernel) same.1
    exact ⟨by rw [names, counts], same.2⟩
  case wait.wait milliseconds otherMilliseconds =>
    exact ⟨by rw [delayStatement_injective same.1.1], same.2⟩
  case blink.blink pin interval otherPin otherInterval =>
    obtain ⟨⟨on, -⟩, ⟨pause, -⟩, -, -, rests⟩ := same
    obtain ⟨pins, -⟩ := writeStatement_inj (words _ List.mem_cons_self) (otherWords _ List.mem_cons_self) on
    exact ⟨by rw [pins, delayStatement_injective pause], rests⟩
  case power.power pin state otherPin otherState =>
    obtain ⟨pins, levels⟩ := writeStatement_inj (words _ List.mem_cons_self) (otherWords _ List.mem_cons_self) same.1.1
    exact ⟨by rw [pins, Power.level_injective levels], same.2⟩

private theorem rows_ne_nil (command : Command) : command.rows ≠ [] := by
  cases command <;> exact List.cons_ne_nil _ _

/-- Commands are read back from their rows, one after the other. -/
theorem eq_of_flatMap_rows_eq {commands others : List Command}
    (words : ∀ command ∈ commands, ∀ word ∈ command.words, Text.IsWord word)
    (otherWords : ∀ command ∈ others, ∀ word ∈ command.words, Text.IsWord word)
    (same : commands.flatMap rows = others.flatMap rows) : commands = others := by
  induction commands generalizing others with
  | nil =>
    cases others with
    | nil => rfl
    | cons other others => exact absurd (List.append_eq_nil_iff.mp same.symm).1 other.rows_ne_nil
  | cons command rest ih =>
    cases others with
    | nil => exact absurd (List.append_eq_nil_iff.mp same).1 command.rows_ne_nil
    | cons other others =>
      obtain ⟨commandWords, words⟩ := List.forall_mem_cons.mp words
      obtain ⟨headWords, otherWords⟩ := List.forall_mem_cons.mp otherWords
      rw [List.flatMap_cons, List.flatMap_cons] at same
      obtain ⟨heads, tails⟩ := eq_of_rows_append_eq commandWords headWords same
      rw [heads, ih words otherWords tails]

end Command

/-! ## Texts determine programs -/

/-- All names and pins of a program are words. -/
structure Program.Worded (program : Program) : Prop where
  declarations : ∀ declaration ∈ program.declarations, ∀ word ∈ declaration.words, Text.IsWord word
  setup : ∀ step ∈ program.setup, ∀ word ∈ step.words, Text.IsWord word
  loop : ∀ command ∈ program.loop, ∀ word ∈ command.words, Text.IsWord word

/-- A program is read back from its rows. -/
theorem Program.eq_of_rows_eq {program other : Program} (worded : program.Worded) (otherWorded : other.Worded)
    (same : program.rows = other.rows) : program = other := by
  obtain ⟨declarations, setup, loop⟩ := sections_eq_of_rows_eq same
  ext1
  · exact eq_of_map_eq_map (fun _ member _ listed => Declaration.eq_of_text_eq (worded.declarations _ member)
      (otherWorded.declarations _ listed)) declarations
  · exact eq_of_map_eq_map (fun _ member _ listed => SetupStep.eq_of_row_eq (worded.setup _ member)
      (otherWorded.setup _ listed)) setup
  · exact Command.eq_of_flatMap_rows_eq worded.loop otherWorded.loop loop

end Breadboard
