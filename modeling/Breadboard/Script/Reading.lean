import Breadboard.Script.Error
import Breadboard.Script.Scanner

/-! # Reading token by token

A reader looks at one token and keeps the scanner that stands behind it. A reading is an action on a reader; one
that fails leaves the reader where it failed, so that reading can go on from there.

`Reading.loop` repeats a step until the reader stops. It ends because each step leaves less of the text: actions
that never add to it are collected under `Shrinks`, and `advance_bind_lt` says that an action which begins by
moving on takes something away.
-/

namespace Breadboard.Script

structure Reader where
  current : Token
  scanner : Scanner
deriving DecidableEq, Repr

namespace Reader

def atEnd (reader : Reader) : Bool :=
  reader.current.symbol = .endOfText

def atLineEnd (reader : Reader) : Bool :=
  reader.current.symbol = .newline || reader.atEnd

/-- The characters behind the current token, and one more for a token other than the end of the text. -/
def remaining (reader : Reader) : Nat :=
  reader.scanner.rest.length + if reader.atEnd then 0 else 1

/-- A reader at the first token of a text. -/
def start (text : String) : Except ScanError Reader :=
  match (Scanner.start text).next with
  | .ok token scanner => .ok ⟨token, scanner⟩
  | .error error _ => .error error

end Reader

abbrev Reading := EStateM Error Reader

namespace Reading

/-- Moves to the next token. Where none can be read the current one stays, and the scanner has moved. -/
def advance : Reading Unit := fun reader =>
  match reader.scanner.next with
  | .ok token scanner => .ok () ⟨token, scanner⟩
  | .error error scanner => .error (.scan error) ⟨reader.current, scanner⟩

/-- Reads nothing; a fault is an error of the given line. -/
def check {α : Type} (line : Nat) : Except GrammarFault α → Reading α
  | .ok value => pure value
  | .error fault => throw (.grammar fault line)

/-- The action never adds to what remains. -/
def Shrinks {α : Type} (action : Reading α) : Prop :=
  ∀ ⦃reader value after⦄, action reader = .ok value after → after.remaining ≤ reader.remaining

/-- Each step taken by a reader that has not stopped leaves less. -/
def Progresses {α : Type} (stop : Reader → Bool) (step : α → Reading α) : Prop :=
  ∀ ⦃value reader next after⦄, stop reader = false → step value reader = .ok next after →
    after.remaining < reader.remaining

/-- Repeats a step until the reader stops. -/
def loop {α : Type} (stop : Reader → Bool) (step : α → Reading α) (progress : Progresses stop step)
    (value : α) (reader : Reader) : EStateM.Result Error Reader α :=
  if _ : stop reader then .ok value reader
  else
    match _ : step value reader with
    | .ok next after => loop stop step progress next after
    | .error error after => .error error after
termination_by reader.remaining
decreasing_by
  exact progress (Bool.eq_false_iff.mpr ‹¬stop reader = true›) ‹step value reader = .ok next after›

/-- Moving on leaves no more than the scanner had left. -/
theorem advance_le {reader after : Reader} (success : advance reader = .ok () after) :
    after.remaining ≤ reader.scanner.rest.length := by
  simp only [advance] at success
  split at success
  next token scanner found =>
    cases success
    have bound := Scanner.next_rest_le found
    by_cases more : token.symbol = .endOfText
    · simpa [Reader.remaining, Reader.atEnd, more] using bound
    · have := Scanner.next_rest_lt found more
      simp only [Reader.remaining, Reader.atEnd, more, decide_false, Bool.false_eq_true, if_false]
      omega
  next => cases success

/-- Moving on, short of the end, leaves less than before. -/
theorem advance_lt {reader after : Reader} (more : reader.atEnd = false)
    (success : advance reader = .ok () after) : after.remaining < reader.remaining := by
  have bound := advance_le success
  simp only [Reader.remaining, more, Bool.false_eq_true, if_false] at bound ⊢
  omega

/-- Moving on never goes back. -/
theorem shrinks_advance : Shrinks advance := by
  intro reader _ after success
  have bound := advance_le success
  simp only [Reader.remaining] at bound ⊢
  omega

/-- Giving a value never goes back. -/
theorem shrinks_pure {α : Type} (value : α) : Shrinks (pure value) := by
  intro reader _ after success
  cases success
  exact Nat.le_refl _

/-- Asking for the reader never goes back. -/
theorem shrinks_get : Shrinks get := by
  intro reader _ after success
  cases success
  exact Nat.le_refl _

/-- A failure never goes back, for it leaves no result. -/
theorem shrinks_throw {α : Type} (error : Error) : Shrinks (throw error : Reading α) := by
  intro reader _ after success
  cases success

/-- A check never goes back. -/
theorem shrinks_check {α : Type} (line : Nat) (result : Except GrammarFault α) : Shrinks (check line result) := by
  cases result
  · exact shrinks_throw _
  · exact shrinks_pure _

/-- A sequence that succeeds has steps that succeed. -/
theorem bind_eq_ok {α β : Type} {action : Reading α} {next : α → Reading β} {reader after : Reader} {result : β}
    (success : (action >>= next) reader = .ok result after) :
    ∃ value middle, action reader = .ok value middle ∧ next value middle = .ok result after := by
  simp only [bind, EStateM.bind] at success
  split at success
  next value middle ran => exact ⟨value, middle, ran, success⟩
  next => cases success

/-- A sequence never goes back if its steps do not. -/
theorem Shrinks.bind {α β : Type} {action : Reading α} {next : α → Reading β} (first : Shrinks action)
    (second : ∀ value, Shrinks (next value)) : Shrinks (action >>= next) := by
  intro reader result after success
  obtain ⟨value, middle, ran, success⟩ := bind_eq_ok success
  exact Nat.le_trans (second value success) (first ran)

/-- An action that begins by moving on leaves less than there was. -/
theorem advance_bind_lt {α : Type} {next : Unit → Reading α} (rest : Shrinks (next ())) {reader after : Reader}
    {value : α} (more : reader.atEnd = false) (success : (advance >>= next) reader = .ok value after) :
    after.remaining < reader.remaining := by
  obtain ⟨_, middle, ran, success⟩ := bind_eq_ok success
  exact Nat.lt_of_le_of_lt (rest success) (advance_lt more ran)

/-- A loop never goes back, for each of its steps moves on. -/
theorem shrinks_loop {α : Type} {stop : Reader → Bool} {step : α → Reading α} (progress : Progresses stop step)
    (value : α) : Shrinks (loop stop step progress value) := by
  intro reader result after success
  fun_induction loop stop step progress value reader with
  | case1 => cases success; exact Nat.le_refl _
  | case2 value reader stopped next middle taken ih =>
    exact Nat.le_of_lt (Nat.lt_of_le_of_lt (ih success) (progress (Bool.eq_false_iff.mpr stopped) taken))
  | case3 => cases success

/-- Inside a line the text has not ended. -/
theorem not_atEnd_of_not_atLineEnd {reader : Reader} (inside : reader.atLineEnd = false) :
    reader.atEnd = false :=
  (Bool.or_eq_false_iff.mp inside).2

end Reading

end Breadboard.Script
