import Breadboard.Proofs.Acceptance
import Breadboard.Proofs.Lockstep

/-! # Line by line

A sketch text is read one line after the other, and nothing but the sketch so far and the count of the lines passes
from one line to the next. `Scanner.readLines` says this as a recursion over lines, before the check of the pins that
comes last. Main statement: `Scanner.readLines_agree`, for scanners that find the same symbols in lines that may be
counted differently.
-/

namespace Breadboard.Script

open Reading in
/-- The lines from a scanner on, read behind a sketch. -/
def Scanner.readLines (scanner : Scanner) (sketch : Sketch) : Except Error Sketch :=
  match scanner.next with
  | .error error _ => .error (.scan error)
  | .ok token after =>
    match loop Reader.atEnd line line_progresses sketch ⟨token, after⟩ with
    | .ok found _ => .ok found
    | .error error _ => .error error

namespace Sketch

/-- All lines of a text, with no regard to the pins that they may use. -/
def read (text : String) : Except Error Sketch :=
  (Scanner.start text).readLines .empty

/-- A sketch whose entries keep to its pin space. -/
def checked (sketch : Sketch) : Except Error Sketch :=
  match sketch.firstStray? with
  | none => .ok sketch
  | some (pin, line) => .error (.unknownPin pin line)

/-- The pins are checked when all lines are read. -/
theorem ofText_eq_read (text : String) : ofText text = (read text).bind checked := by
  rw [ofText, read, Scanner.readLines, Reader.start]
  cases (Scanner.start text).next with
  | error error after => rfl
  | ok token after =>
    simp only [Reading.sketch, Bind.bind, EStateM.bind]
    cases Reading.loop Reader.atEnd Reading.line Reading.line_progresses .empty ⟨token, after⟩ with
    | error error after => rfl
    | ok sketch after =>
      simp only [Except.bind, checked]
      cases sketch.firstStray? <;> rfl

end Sketch

namespace Reading

variable {sketch next : Sketch} {reader middle : Reader}

private theorem shrinks_lineBody (sketch : Sketch) : Shrinks (lineBody sketch) := by
  intro reader next after success
  simp only [lineBody] at success
  split at success
  · cases success
    exact Nat.le_refl _
  · exact (shrinks_advance.bind fun _ => shrinks_directive _ _ _) success
  · exact (shrinks_advance.bind fun _ => (shrinks_entry _ _).bind fun _ => shrinks_pure _) success
  · cases success

private theorem line_of_error {error : Error} (failed : lineBody sketch reader = .error error middle) :
    line sketch reader = .error error middle := by
  simp only [line, Bind.bind, EStateM.bind, failed]

private theorem line_of_lineBody (body : lineBody sketch reader = .ok next middle) :
    line sketch reader = (lineEnd >>= fun _ => pure next) middle := by
  simp only [line, Bind.bind, EStateM.bind, body]

/-- At a line end the next token is read before the line is done with. -/
theorem lineEnd_of_newline (newline : reader.current.symbol = .newline) : lineEnd reader = advance reader := by
  rw [lineEnd, get_bind_eq, if_pos newline]

end Reading

namespace Scanner

variable {scanner after : Scanner} {token : Token} {sketch : Sketch}

open Reading in
/-- One line is read, and if it has an end the others behind it. -/
theorem readLines_eq (scanner : Scanner) (sketch : Sketch) :
    scanner.readLines sketch =
      match scanner.next with
      | .error error _ => .error (.scan error)
      | .ok token after =>
        if token.symbol = .endOfText then .ok sketch
        else
          match lineBody sketch ⟨token, after⟩ with
          | .error error _ => .error error
          | .ok next middle =>
            if middle.current.symbol = .newline then middle.scanner.readLines next else .ok next := by
  rw [readLines]
  cases scanner.next with
  | error error after => rfl
  | ok first after =>
    by_cases ended : first.symbol = .endOfText
    · have stopped : Reader.atEnd ⟨first, after⟩ = true := decide_eq_true ended
      simp only [loop_of_stop stopped, ended, if_true]
    have more : Reader.atEnd ⟨first, after⟩ = false := decide_eq_false ended
    simp only [ended, if_false]
    cases body : lineBody sketch ⟨first, after⟩ with
    | error error failed => rw [loop_of_error more (line_of_error body)]
    | ok next middle =>
      have whole := line_of_lineBody body
      by_cases newline : middle.current.symbol = .newline
      · simp only [newline, if_true]
        rw [readLines]
        cases behind : middle.scanner.next with
        | error error failed =>
          have stuck : line sketch ⟨first, after⟩ = .error (.scan error) ⟨middle.current, failed⟩ := by
            simp only [whole, Bind.bind, EStateM.bind, lineEnd_of_newline newline, advance, behind]
          rw [loop_of_error more stuck]
        | ok second last =>
          have taken : line sketch ⟨first, after⟩ = .ok next ⟨second, last⟩ := by
            simp only [whole, Bind.bind, EStateM.bind, lineEnd_of_newline newline, advance, behind]
            rfl
          rw [loop_of_step more taken]
      · obtain ⟨-, -, -, -, stopped, -⟩ := (lineBody_eq_ok_iff more).mp body
        have last : middle.atEnd = true := by simpa [Reader.atLineEnd, newline] using stopped
        have taken : line sketch ⟨first, after⟩ = .ok next middle :=
          whole.trans (bind_eq_ok_iff.mpr ⟨(), middle, (lineEnd_eq_ok_iff stopped).mpr (.inr ⟨last, rfl⟩), rfl⟩)
        simp only [newline, if_false]
        rw [loop_of_step more taken, loop_of_stop last]

/-- What is left behind a line is less than there was before it. -/
theorem rest_lt_of_lineBody {next : Sketch} {middle : Reader} (first : scanner.next = .ok token after)
    (more : token.symbol ≠ .endOfText) (body : Reading.lineBody sketch ⟨token, after⟩ = .ok next middle)
    (newline : middle.current.symbol = .newline) : middle.scanner.rest.length < scanner.rest.length := by
  have taken := next_rest_lt first more
  have shrunk := Reading.shrinks_lineBody sketch body
  simp only [Reader.remaining, Reader.atEnd, newline, more, reduceCtorEq, decide_false, Bool.false_eq_true,
    if_false] at shrunk
  omega

end Scanner

/-! ## Scanners in step -/

/-- Tokens of one symbol, so many lines apart. -/
def Token.Below (count : Nat) (token other : Token) : Prop :=
  other.symbol = token.symbol ∧ other.position.line = token.position.line + count

/-- Scanners that find the same symbols, so many lines apart, and the same faults. -/
def Scanner.InStep (count : Nat) (paired : Scanner → Scanner → Prop) : Prop :=
  ∀ ⦃scanner other⦄, paired scanner other →
    Agree (ScanError.down count) paired (Token.Below count) scanner.next other.next

structure Reader.Below (count : Nat) (paired : Scanner → Scanner → Prop) (reader other : Reader) : Prop where
  current : reader.current.Below count other.current
  scanner : paired reader.scanner other.scanner

private theorem Scanner.InStep.readers {count : Nat} {paired : Scanner → Scanner → Prop}
    (inStep : InStep count paired) : Reader.InStep count (Reader.Below count paired) where
  symbol readers := readers.current.1
  line readers := readers.current.2
  advance := by
    intro reader other readers _
    have together := inStep readers.scanner
    rw [Reading.advance, Reading.advance]
    cases found : reader.scanner.next with
    | ok token after =>
      rw [found, Agree.ok_iff] at together
      obtain ⟨twin, behind, same, tokens, scanners⟩ := together
      simp only [same]
      exact .ok rfl ⟨tokens, scanners⟩
    | error error after =>
      rw [found, Agree.error_iff] at together
      obtain ⟨behind, same⟩ := together
      simp only [same]
      exact Agree.error (Error.scan error)

/-- The directive `.pins`, in any case. -/
def Symbol.isPins : Symbol → Bool
  | .directive text => Text.lowercase text = ".pins"
  | _ => false

namespace Scanner

/-- The symbols up to the end of the text, or up to the first error. -/
def symbols (scanner : Scanner) : List Symbol :=
  scanner.tokens.filterMap fun found => found.toOption.map Token.symbol

/-- One of the lines begins with the directive `.pins`. -/
def DeclaresSpace (scanner : Scanner) : Prop :=
  ∃ line ∈ scanner.symbols.splitOn .newline, line.head?.any Symbol.isPins = true

instance (scanner : Scanner) : Decidable scanner.DeclaresSpace :=
  inferInstanceAs (Decidable (∃ line ∈ scanner.symbols.splitOn .newline, line.head?.any Symbol.isPins = true))

variable {scanner after : Scanner} {token : Token}

private theorem symbols_of_next (success : scanner.next = .ok token after) (more : token.symbol ≠ .endOfText) :
    scanner.symbols = token.symbol :: after.symbols := by
  rw [symbols, tokens_of_ok success, if_neg more]
  rfl

/-- The symbols of a text are those that a reader passes, and then those from where it stands. -/
theorem symbols_of_passes {reader middle : Reader} {piece : List Symbol}
    (first : scanner.next = .ok reader.current reader.scanner) (passed : reader.Passes piece middle)
    (more : middle.current.symbol ≠ .endOfText) :
    scanner.symbols = piece ++ middle.current.symbol :: middle.scanner.symbols := by
  induction passed generalizing scanner with
  | stay => exact symbols_of_next first more
  | @step reader next middle symbols inside moved others ih =>
    rw [symbols_of_next first (of_decide_eq_false inside), ih (Reading.advance_eq_ok_iff.mp moved) more]
    rfl

private theorem declaresSpace_of_next {text : String} (success : scanner.next = .ok token after)
    (directive : token.symbol = .directive text) (known : Text.lowercase text = ".pins") : scanner.DeclaresSpace := by
  have more : token.symbol ≠ .endOfText := by rw [directive]; exact Symbol.noConfusion
  rw [DeclaresSpace, symbols_of_next success more, directive, List.splitOn_eq_splitOnP,
    List.splitOnP_cons_eq_if_modifyHead]
  obtain ⟨line, lines, split⟩ := List.exists_cons_of_ne_nil (List.splitOnP_ne_nil (· == .newline) after.symbols)
  exact ⟨.directive text :: line, by simp [split], by simp [Symbol.isPins, known]⟩

/-- What is declared behind a line is declared. -/
theorem DeclaresSpace.of_passes {reader middle : Reader} {piece : List Symbol}
    (first : scanner.next = .ok reader.current reader.scanner) (passed : reader.Passes piece middle)
    (newline : middle.current.symbol = .newline) (behind : middle.scanner.DeclaresSpace) : scanner.DeclaresSpace := by
  have split : (piece ++ Symbol.newline :: middle.scanner.symbols).splitOn .newline =
      piece.splitOn .newline ++ middle.scanner.symbols.splitOn .newline :=
    List.splitOnP_append_cons _ _ (beq_self_eq_true _)
  obtain ⟨line, member, declared⟩ := behind
  refine ⟨line, ?_, declared⟩
  rw [symbols_of_passes first passed (by rw [newline]; exact Symbol.noConfusion), newline, split]
  exact List.mem_append_right _ member

variable {count : Nat} {paired : Scanner → Scanner → Prop}

/-- The lines of a text are read behind a sketch as they are read alone, unless both declare the pin space. -/
theorem readLines_agree (inStep : InStep count paired) {other : Scanner} (scanners : paired scanner other)
    (front sketch : Sketch) (free : front.space = none ∨ ¬scanner.DeclaresSpace) :
    other.readLines (front.above count sketch) =
      ((scanner.readLines sketch).map (front.above count)).mapError (Error.down count) := by
  generalize size : scanner.rest.length = bound
  induction bound using Nat.strongRecOn generalizing scanner other sketch with
  | ind bound ih =>
    have together := inStep scanners
    rw [readLines_eq scanner, readLines_eq other]
    cases first : scanner.next with
    | error error after =>
      rw [first, Agree.error_iff] at together
      obtain ⟨behind, twin⟩ := together
      simp only [twin]
      rfl
    | ok token after =>
      rw [first, Agree.ok_iff] at together
      obtain ⟨twin, behind, second, tokens, scanners⟩ := together
      simp only [second, tokens.1]
      by_cases ended : token.symbol = .endOfText
      · simp only [ended, if_true]
        rfl
      simp only [ended, if_false]
      have admitted : front.space = none ∨
          ∀ {text}, token.symbol = .directive text → Text.lowercase text ≠ ".pins" :=
        free.imp_right fun undeclared _ directive known => undeclared (declaresSpace_of_next first directive known)
      have readers : Reader.Below count paired ⟨token, after⟩ ⟨twin, behind⟩ := ⟨tokens, scanners⟩
      have together := Reading.lineBody_agree inStep.readers readers front sketch admitted
      cases body : Reading.lineBody sketch ⟨token, after⟩ with
      | error error failed =>
        rw [body, Agree.error_iff] at together
        obtain ⟨_, twin⟩ := together
        simp only [twin]
        rfl
      | ok next middle =>
        rw [body, Agree.ok_iff] at together
        obtain ⟨_, behind, twin, rfl, readers, stopped⟩ := together
        simp only [twin, readers.current.1]
        by_cases newline : middle.current.symbol = .newline
        · obtain ⟨-, piece, -, passed, -⟩ := (Reading.lineBody_eq_ok_iff (decide_eq_false ended)).mp body
          simp only [newline, if_true]
          refine ih _ (size ▸ rest_lt_of_lineBody first ended body newline) readers.scanner next ?_ rfl
          exact free.imp_right fun undeclared behind => undeclared (behind.of_passes first passed newline)
        · simp only [newline, if_false]
          rfl

/-- Lines that declare no pin space leave it as it is. -/
theorem space_of_readLines (undeclared : ¬scanner.DeclaresSpace) {sketch result : Sketch}
    (success : scanner.readLines sketch = .ok result) : result.space = sketch.space := by
  generalize size : scanner.rest.length = bound
  induction bound using Nat.strongRecOn generalizing scanner sketch with
  | ind bound ih =>
    rw [readLines_eq] at success
    cases first : scanner.next with
    | error error after =>
      rw [first] at success
      cases success
    | ok token after =>
      simp only [first] at success
      by_cases ended : token.symbol = .endOfText
      · simp only [ended, if_true] at success
        cases success
        rfl
      simp only [ended, if_false] at success
      cases body : Reading.lineBody sketch ⟨token, after⟩ with
      | error error failed =>
        simp only [body] at success
        cases success
      | ok next middle =>
        obtain ⟨line, piece, spelled, passed, -, taken⟩ :=
          (Reading.lineBody_eq_ok_iff (decide_eq_false ended)).mp body
        have kept : next.space = sketch.space := by
          cases spelled with
          | empty => rw [taken]
          | space known nonempty => exact absurd (declaresSpace_of_next first passed.current known) undeclared
          | entry known spelled => rw [taken.2]; rfl
        simp only [body] at success
        split at success
        next newline =>
          rw [← kept]
          refine ih _ (size ▸ rest_lt_of_lineBody first ended body newline) ?_ success rfl
          exact fun behind => undeclared (behind.of_passes first passed newline)
        next =>
          cases success
          exact kept

end Scanner

/-- Scanners that find the same symbols in the same lines give the same sketch, or the same error. -/
theorem Sketch.ofText_of_inStep {paired : Scanner → Scanner → Prop} (inStep : Scanner.InStep 0 paired)
    {text other : String} (scanners : paired (Scanner.start text) (Scanner.start other)) :
    ofText other = ofText text := by
  have same : read other = read text := by
    have agree := Scanner.readLines_agree inStep scanners .empty .empty (.inl rfl)
    rw [empty_above_zero, Error.down_zero] at agree
    refine agree.trans ?_
    rw [read]
    cases (Scanner.start text).readLines .empty <;> rfl
  rw [ofText_eq_read, ofText_eq_read, same]

end Breadboard.Script
