import Breadboard.Proofs.Lexis
import Breadboard.Script.Reading

/-! # Moving over symbols

What a reading has done is said by the symbols that the reader has passed. A reader that passes all symbols of a
text stands at its end; `Scanner.reads_iff_passes` says that these are the symbols that the scanner finds.
-/

namespace Breadboard.Script

/-- The reader moves on over these symbols, of which its current one is the first. -/
inductive Reader.Passes : Reader → List Symbol → Reader → Prop where
  | stay (reader : Reader) : Passes reader [] reader
  | step {reader middle after : Reader} {symbols : List Symbol} (more : reader.atEnd = false)
      (moved : Reading.advance reader = .ok () middle) (others : Passes middle symbols after) :
      Passes reader (reader.current.symbol :: symbols) after

namespace Reader.Passes

variable {reader middle after : Reader} {symbol : Symbol} {symbols others : List Symbol}

/-- Over no symbols a reader stays where it is. -/
@[simp] theorem nil_iff : reader.Passes [] after ↔ after = reader := by
  constructor
  · rintro ⟨⟩
    rfl
  · rintro rfl
    exact .stay _

/-- A reader passes its current symbol, moves on, and passes the others from there. -/
theorem cons_iff : reader.Passes (symbol :: symbols) after ↔
    reader.current.symbol = symbol ∧ reader.atEnd = false ∧
      ∃ middle, Reading.advance reader = .ok () middle ∧ middle.Passes symbols after := by
  constructor
  · rintro (_ | ⟨more, moved, others⟩)
    exact ⟨rfl, more, _, moved, others⟩
  · rintro ⟨rfl, more, middle, moved, others⟩
    exact .step more moved others

/-- One row of symbols behind another is passed in two parts. -/
theorem append_iff : reader.Passes (symbols ++ others) after ↔
    ∃ middle, reader.Passes symbols middle ∧ middle.Passes others after := by
  induction symbols generalizing reader with
  | nil => simp
  | cons symbol symbols ih =>
    simp only [List.cons_append, cons_iff, ih]
    constructor
    · rintro ⟨current, more, next, moved, middle, front, back⟩
      exact ⟨middle, ⟨current, more, next, moved, front⟩, back⟩
    · rintro ⟨middle, ⟨current, more, next, moved, front⟩, back⟩
      exact ⟨current, more, next, moved, middle, front, back⟩

/-- The first of the symbols passed can be passed alone. -/
theorem uncons_iff : reader.Passes (symbol :: symbols) after ↔
    ∃ middle, reader.Passes [symbol] middle ∧ middle.Passes symbols after := by
  rw [← append_iff, List.singleton_append]

/-- The reader stands at the first symbol that it passes. -/
theorem current (passed : reader.Passes (symbol :: symbols) after) : reader.current.symbol = symbol :=
  (cons_iff.mp passed).1

/-- A reader with a symbol to pass is not at the end. -/
theorem not_atEnd (passed : reader.Passes symbols after) (nonempty : symbols ≠ []) : reader.atEnd = false := by
  cases passed with
  | stay => exact absurd rfl nonempty
  | step more => exact more

end Reader.Passes

/-- The scanner of the reader stands on the line of the current token, or on the next one behind a line end. -/
def Reader.OnLine (reader : Reader) (line : Nat) : Prop :=
  reader.current.position.line = line ∧
    reader.scanner.position.line = line + if reader.current.symbol = .newline then 1 else 0

private theorem Reader.onLine_of_next {scanner after : Scanner} {token : Token}
    (success : scanner.next = .ok token after) : Reader.OnLine ⟨token, after⟩ scanner.position.line := by
  obtain ⟨here, behind⟩ := Scanner.line_of_next success
  exact ⟨here, by rw [behind, here]⟩

/-- Moving on succeeds exactly when the scanner does, and makes its token the current one. -/
theorem Reading.advance_eq_ok_iff {reader after : Reader} :
    advance reader = .ok () after ↔ reader.scanner.next = .ok after.current after.scanner := by
  obtain ⟨token, scanner⟩ := after
  cases found : reader.scanner.next <;> simp [advance, found]

/-- A reader goes down by a line with each newline that it passes. -/
theorem Reader.Passes.onLine {reader after : Reader} {symbols : List Symbol} {line : Nat} (start : reader.OnLine line)
    (passed : reader.Passes symbols after) : after.OnLine (line + symbols.count .newline) := by
  induction passed generalizing line with
  | stay => exact start
  | @step reader middle after symbols more moved others ih =>
    have next := Reader.onLine_of_next (Reading.advance_eq_ok_iff.mp moved)
    rw [start.2] at next
    simp only [List.count_cons, beq_iff_eq]
    rw [Nat.add_comm (List.count _ _), ← Nat.add_assoc]
    exact ih next

/-- A reader starts exactly when the first token of the text is found. -/
theorem Reader.start_eq_ok_iff {text : String} {reader : Reader} :
    start text = .ok reader ↔ (Scanner.start text).next = .ok reader.current reader.scanner := by
  obtain ⟨token, scanner⟩ := reader
  cases found : (Scanner.start text).next <;> simp [start, found]

/-- A reader starts on the first line. -/
theorem Reader.start_onLine {text : String} {reader : Reader} (success : start text = .ok reader) :
    reader.OnLine 1 :=
  Reader.onLine_of_next (start_eq_ok_iff.mp success)

/-- A text whose symbols can be read can be started on. -/
theorem Reader.exists_start_of_reads {text : String} {symbols : List Symbol}
    (reads : (Scanner.start text).Reads symbols) : ∃ reader, start text = .ok reader := by
  cases found : (Scanner.start text).next with
  | error error failed => exact absurd reads (Scanner.not_reads_of_error found symbols)
  | ok token scanner => exact ⟨⟨token, scanner⟩, start_eq_ok_iff.mpr found⟩

/-- The scanner reaches the end of the text over the symbols that a reader behind its first token passes. -/
theorem Scanner.reads_iff_passes {scanner : Scanner} {reader : Reader} {symbols : List Symbol}
    (first : scanner.next = .ok reader.current reader.scanner) :
    scanner.Reads symbols ↔ ∃ after, reader.Passes symbols after ∧ after.atEnd = true := by
  induction symbols generalizing scanner reader with
  | nil =>
    simp only [Reader.Passes.nil_iff, exists_eq_left]
    by_cases ended : reader.current.symbol = .endOfText
    · simp [reads_iff_of_endOfText first ended, Reader.atEnd, ended]
    · simp [reads_iff_of_next first ended, Reader.atEnd, ended]
  | cons symbol symbols ih =>
    by_cases ended : reader.current.symbol = .endOfText
    · simp [reads_iff_of_endOfText first ended, Reader.Passes.cons_iff, Reader.atEnd, ended]
    · have more : reader.atEnd = false := decide_eq_false ended
      simp only [reads_iff_of_next first ended, Reader.Passes.cons_iff, List.cons.injEq, more, true_and]
      constructor
      · rintro ⟨_, ⟨rfl, rfl⟩, reads⟩
        cases found : reader.scanner.next with
        | error error failed => exact absurd reads (not_reads_of_error found symbols)
        | ok token behind =>
          obtain ⟨after, passed, atEnd⟩ := (@ih _ ⟨token, behind⟩ found).mp reads
          exact ⟨after, ⟨rfl, _, Reading.advance_eq_ok_iff.mpr found, passed⟩, atEnd⟩
      · rintro ⟨after, ⟨rfl, middle, moved, passed⟩, atEnd⟩
        exact ⟨symbols, ⟨rfl, rfl⟩, (ih (Reading.advance_eq_ok_iff.mp moved)).mpr ⟨after, passed, atEnd⟩⟩

namespace Reading

/-- A sequence succeeds exactly when its steps do, the second where the first leaves the reader. -/
theorem bind_eq_ok_iff {α β : Type} {action : Reading α} {next : α → Reading β} {reader after : Reader} {result : β} :
    (action >>= next) reader = .ok result after ↔
      ∃ value middle, action reader = .ok value middle ∧ next value middle = .ok result after := by
  constructor
  · exact bind_eq_ok
  · rintro ⟨value, middle, ran, success⟩
    simp only [bind, EStateM.bind, ran, success]

/-- Giving a value moves nothing. -/
theorem pure_eq_ok_iff {α : Type} {value result : α} {reader after : Reader} :
    (pure value : Reading α) reader = .ok result after ↔ result = value ∧ after = reader := by
  simp only [pure, EStateM.pure, EStateM.Result.ok.injEq]
  exact and_congr eq_comm eq_comm

/-- A check that succeeds gives its value and moves nothing. -/
theorem check_eq_ok_iff {α : Type} {line : Nat} {checked : Except GrammarFault α} {value : α} {reader after : Reader} :
    check line checked reader = .ok value after ↔ checked = .ok value ∧ after = reader := by
  cases checked with
  | error fault =>
    constructor
    · intro success
      cases success
    · rintro ⟨success, -⟩
      cases success
  | ok found => rw [check, pure_eq_ok_iff, Except.ok.injEq, eq_comm]

/-- What stands behind a check is read from where the reader is. -/
theorem check_bind_eq_ok_iff {α β : Type} {line : Nat} {checked : Except GrammarFault α} {next : α → Reading β}
    {reader after : Reader} {result : β} :
    (check line checked >>= next) reader = .ok result after ↔
      ∃ value, checked = .ok value ∧ next value reader = .ok result after := by
  simp only [bind_eq_ok_iff, check_eq_ok_iff]
  constructor
  · rintro ⟨value, reader, ⟨success, rfl⟩, ran⟩
    exact ⟨value, success, ran⟩
  · rintro ⟨value, success, ran⟩
    exact ⟨value, reader, ⟨success, rfl⟩, ran⟩

/-- Asking for the reader gives it as it is. -/
theorem get_bind_eq {α : Type} (next : Reader → Reading α) (reader : Reader) :
    (get >>= next) reader = next reader reader :=
  rfl

section Loop

variable {α : Type} {stop : Reader → Bool} {step : α → Reading α} {progress : Progresses stop step}

/-- A loop that is to stop gives the value that it has. -/
theorem loop_of_stop {value : α} {reader : Reader} (stopped : stop reader = true) :
    loop stop step progress value reader = .ok value reader := by
  rw [loop, dif_pos stopped]

/-- A loop goes on with what its step gives. -/
theorem loop_of_step {value next : α} {reader middle : Reader} (going : stop reader = false)
    (taken : step value reader = .ok next middle) :
    loop stop step progress value reader = loop stop step progress next middle := by
  rw [loop, dif_neg (Bool.eq_false_iff.mp going)]
  split
  next found =>
    rw [taken] at found
    cases found
    rfl
  next found =>
    rw [taken] at found
    cases found

end Loop

/-- Moving on, and then going on from there, passes the current symbol. -/
theorem advance_bind_eq_ok_iff {β : Type} {next : Unit → Reading β} {reader after : Reader} {result : β}
    (more : reader.atEnd = false) :
    (advance >>= next) reader = .ok result after ↔
      ∃ middle, reader.Passes [reader.current.symbol] middle ∧ next () middle = .ok result after := by
  simp only [bind_eq_ok_iff, Reader.Passes.cons_iff, Reader.Passes.nil_iff, more, true_and, exists_eq_right']
  constructor
  · rintro ⟨⟨⟩, middle, moved, success⟩
    exact ⟨middle, moved, success⟩
  · rintro ⟨middle, moved, success⟩
    exact ⟨(), middle, moved, success⟩

end Reading

end Breadboard.Script
