import Breadboard.Proofs.Concatenation
import Breadboard.Proofs.Location

/-! # Reading again and again

A reader that has read a sketch, or failed to, can be asked again, and goes on from where it stands. Every reading does
nothing to its reader but move it on, or try to (`Reading.OnlyMoves`), so what one move keeps is kept by readings in any
number. A move leaves the reader as it is or takes something of what remains; at the end of the text it leaves all as
it is, and in front of a character that begins nothing it never gets any further.

Main statement: `Reader.settles`.
-/

namespace Breadboard.Script

namespace Scanner

/-- Behind a gap the scanner is in front of a character that begins nothing. -/
def StandsOnStray (scanner : Scanner) : Prop :=
  ∃ gap c rest, scanner.rest = gap ++ c :: rest ∧ IsGap gap (c :: rest) ∧ BeginsNothing c

variable {scanner after : Scanner} {token : Token}

private theorem StandsOnStray.next_eq (strayed : scanner.StandsOnStray) :
    ∃ error, scanner.next = .error error scanner.stepped ∧ scanner.stepped.StandsOnStray := by
  obtain ⟨gap, c, rest, front, isGap, alien⟩ := strayed
  have skipped : leadingGap scanner.rest = gap := by rw [front, isGap.leadingGap_eq]
  have behind : scanner.skipGap.rest = c :: rest := by
    rw [skipGap, skipped]
    exact skip_rest_append front
  have found : lexeme scanner.skipGap.rest = ⟨[], .error (.unexpectedCharacter c)⟩ := by
    rw [behind, alien.lexeme_eq]
  refine ⟨⟨.unexpectedCharacter c, scanner.skipGap.position⟩, ?_, [], c, rest, ?_, .done isGap.clear, alien⟩
  · simp only [stepped_eq, next, found]
  · rw [stepped_eq, found]
    exact behind

/-- Skipping nothing leaves the scanner where it is. -/
theorem skip_nil (scanner : Scanner) : scanner.skip [] = scanner := rfl

/-- A step stays in its place, or leaves less to read. -/
theorem stepped_eq_or_lt (scanner : Scanner) :
    scanner.stepped = scanner ∨ scanner.stepped.rest.length < scanner.rest.length := by
  have passed := congrArg List.length scanner.rest_eq
  rw [List.length_append] at passed
  by_cases nothing : scanner.step.chars = []
  · obtain ⟨gap, taken⟩ := List.append_eq_nil_iff.mp nothing
    have front : scanner.skipGap = scanner := by
      rw [skipGap, show leadingGap scanner.rest = [] from gap, skip_nil]
    left
    rw [stepped_eq, show (lexeme scanner.skipGap.rest).chars = [] from taken, skip_nil, front]
  · right
    have := List.length_pos_iff.mpr nothing
    omega

/-- At the end of the text the same token is found again. -/
theorem next_of_endOfText (success : scanner.next = .ok token after) (ended : token.symbol = .endOfText) :
    after.next = .ok token after := by
  obtain ⟨chars, found, position, rfl⟩ := next_eq_ok_iff.mp success
  rw [ended] at found
  have nothing := eq_nil_of_lexeme_endOfText (congrArg Lexeme.reading found)
  rw [nothing] at found
  cases found
  have front : scanner.skipGap = ⟨[], token.position⟩ := by
    rw [position, ← nothing]
  obtain ⟨symbol, place⟩ := token
  obtain rfl : symbol = .endOfText := ended
  rw [skip_nil, front]
  rfl

end Scanner

/-! ## Moves -/

namespace Reading

variable {α β : Type}

/-- Where an action leaves a reader, whether it succeeds or fails. -/
def left (action : Reading α) (reader : Reader) : Reader :=
  match action reader with
  | .ok _ after => after
  | .error _ after => after

/-- What an action gives, wherever it leaves the reader. -/
def given (action : Reading α) (reader : Reader) : Except Error α :=
  match action reader with
  | .ok value _ => .ok value
  | .error error _ => .error error

end Reading

namespace Reader

/-- Where the reader stands when it has moved on, or has failed to. -/
def moved (reader : Reader) : Reader :=
  Reading.left Reading.advance reader

/-- Some number of moves, of which any may fail, leads from one reader to the other. -/
def Reaches (reader after : Reader) : Prop :=
  ∃ count, Reader.moved^[count] reader = after

variable {reader middle after : Reader}

private theorem Reaches.refl (reader : Reader) : reader.Reaches reader :=
  ⟨0, rfl⟩

private theorem Reaches.trans (first : reader.Reaches middle) (second : middle.Reaches after) :
    reader.Reaches after := by
  obtain ⟨count, rfl⟩ := first
  obtain ⟨more, rfl⟩ := second
  exact ⟨more + count, Function.iterate_add_apply _ _ _ _⟩

/-- What every move keeps is kept all the way. -/
theorem Reaches.induction {motive : Reader → Prop} (reaches : reader.Reaches after) (start : motive reader)
    (step : ∀ reader, motive reader → motive reader.moved) : motive after := by
  obtain ⟨count, rfl⟩ := reaches
  induction count with
  | zero => exact start
  | succ count ih =>
    rw [Function.iterate_succ_apply']
    exact step _ ih

end Reader

namespace Reading

variable {α β : Type}

/-- All that the action does to a reader is to move it. -/
def OnlyMoves (action : Reading α) : Prop :=
  ∀ reader : Reader, reader.Reaches (action.left reader)

private theorem onlyMoves_advance : OnlyMoves advance :=
  fun _ => ⟨1, rfl⟩

private theorem onlyMoves_pure (value : α) : OnlyMoves (pure value) :=
  .refl

private theorem onlyMoves_get : OnlyMoves get :=
  .refl

private theorem onlyMoves_throw (error : Error) : OnlyMoves (throw error : Reading α) :=
  .refl

private theorem onlyMoves_check (line : Nat) (checked : Except GrammarFault α) : OnlyMoves (check line checked) := by
  cases checked with
  | ok value => exact onlyMoves_pure value
  | error fault => exact onlyMoves_throw _

private theorem OnlyMoves.bind {action : Reading α} {next : α → Reading β} (first : OnlyMoves action)
    (second : ∀ value, OnlyMoves (next value)) : OnlyMoves (action >>= next) := by
  intro reader
  have start := first reader
  simp only [left, Bind.bind, EStateM.bind] at start ⊢
  cases ran : action reader with
  | ok value middle =>
    rw [ran] at start
    exact start.trans (second value middle)
  | error error middle =>
    rw [ran] at start
    exact start

private theorem onlyMoves_loop {stop : Reader → Bool} {step : α → Reading α} {progress : Progresses stop step}
    (steps : ∀ value, OnlyMoves (step value)) (value : α) : OnlyMoves (loop stop step progress value) := by
  intro reader
  unfold left
  fun_induction loop stop step progress value reader with
  | case1 value reader => exact .refl reader
  | case2 value reader going next middle taken ih =>
    have first := steps value reader
    simp only [left, taken] at first
    exact first.trans ih
  | case3 value reader going error middle stuck =>
    have first := steps value reader
    simp only [left, stuck] at first
    exact first

private theorem onlyMoves_argument (line : Nat) : OnlyMoves (argument line) :=
  onlyMoves_get.bind fun _ => (onlyMoves_check _ _).bind fun _ => onlyMoves_advance.bind fun _ => onlyMoves_pure _

private theorem onlyMoves_afterWord (entry : Entry) (text : String) : OnlyMoves (afterWord entry text) := by
  refine onlyMoves_get.bind fun reader => ?_
  split
  · exact onlyMoves_advance.bind fun _ => (onlyMoves_argument _).bind fun _ => onlyMoves_check _ _
  · exact onlyMoves_pure _

private theorem onlyMoves_item (entry : Entry) : OnlyMoves (item entry) := by
  intro reader
  simp only [left, item]
  cases reader.current.symbol with
  | word text => exact (onlyMoves_advance.bind fun _ => onlyMoves_afterWord entry text) reader
  | number text => exact (onlyMoves_advance.bind fun _ => onlyMoves_check _ _) reader
  | _ => exact .refl reader

private theorem onlyMoves_pinName (line : Nat) (pins : List Pin) : OnlyMoves (pinName line pins) := by
  intro reader
  simp only [left, pinName]
  cases reader.current.symbol with
  | word text => exact (onlyMoves_advance.bind fun _ => onlyMoves_pure _) reader
  | _ => exact .refl reader

private theorem onlyMoves_directive (sketch : Sketch) (text : String) (line : Nat) :
    OnlyMoves (directive sketch text line) :=
  (onlyMoves_check _ _).bind fun _ => (onlyMoves_loop (onlyMoves_pinName line) _).bind fun _ => onlyMoves_check _ _

private theorem onlyMoves_entry (keyword : String) (line : Nat) : OnlyMoves (entry keyword line) := by
  unfold entry
  split
  · exact onlyMoves_loop onlyMoves_item _
  · exact onlyMoves_throw _

private theorem onlyMoves_lineBody (sketch : Sketch) : OnlyMoves (lineBody sketch) := by
  intro reader
  simp only [left, lineBody]
  cases reader.current.symbol with
  | newline => exact .refl reader
  | directive text => exact (onlyMoves_advance.bind fun _ => onlyMoves_directive _ _ _) reader
  | word text =>
    exact (onlyMoves_advance.bind fun _ => (onlyMoves_entry _ _).bind fun _ => onlyMoves_pure _) reader
  | _ => exact .refl reader

private theorem onlyMoves_lineEnd : OnlyMoves lineEnd := by
  refine onlyMoves_get.bind fun reader => ?_
  split
  · exact onlyMoves_advance
  · exact onlyMoves_pure _

private theorem onlyMoves_line (sketch : Sketch) : OnlyMoves (line sketch) :=
  (onlyMoves_lineBody sketch).bind fun _ => onlyMoves_lineEnd.bind fun _ => onlyMoves_pure _

private theorem onlyMoves_sketch : OnlyMoves sketch := by
  refine (onlyMoves_loop onlyMoves_line _).bind fun sketch => ?_
  cases sketch.firstStray? with
  | none => exact onlyMoves_pure sketch
  | some stray => exact onlyMoves_throw _

end Reading

namespace Reader

/-- At the end of the text the reader finds the end again, and in the same place. -/
def Steady (reader : Reader) : Prop :=
  reader.atEnd = true → reader.scanner.next = .ok reader.current reader.scanner

variable {reader after : Reader}

private theorem steady_of_next {scanner behind : Scanner} {token : Token} (success : scanner.next = .ok token behind) :
    Steady ⟨token, behind⟩ :=
  fun ended => Scanner.next_of_endOfText success (of_decide_eq_true ended)

private theorem moved_of_ok {token : Token} {behind : Scanner} (success : reader.scanner.next = .ok token behind) :
    reader.moved = ⟨token, behind⟩ := by
  simp only [moved, Reading.left, Reading.advance, success]

private theorem moved_of_error {error : ScanError} {behind : Scanner}
    (failure : reader.scanner.next = .error error behind) : reader.moved = ⟨reader.current, behind⟩ := by
  simp only [moved, Reading.left, Reading.advance, failure]

private theorem Steady.moved (steady : reader.Steady) :
    reader.moved.Steady ∧ (reader.moved = reader ∨ reader.moved.remaining < reader.remaining) := by
  cases ended : reader.atEnd with
  | true =>
    have same : reader.moved = reader := moved_of_ok (steady ended)
    exact ⟨by rwa [same], .inl same⟩
  | false =>
    cases found : reader.scanner.next with
    | ok token behind =>
      rw [moved_of_ok found]
      exact ⟨steady_of_next found, .inr (Reading.advance_lt ended (Reading.advance_eq_ok_iff.mpr found))⟩
    | error error behind =>
      have place : reader.scanner.stepped = behind := by simp only [Scanner.stepped, found]
      rw [moved_of_error found]
      refine ⟨fun late => absurd (ended.symm.trans late) Bool.false_ne_true, ?_⟩
      rcases reader.scanner.stepped_eq_or_lt with same | less
      · left
        rw [← place, same]
      · right
        rw [place] at less
        exact Nat.add_lt_add_right less _

private theorem Steady.reaches (steady : reader.Steady) (reaches : reader.Reaches after) :
    after.Steady ∧ (after = reader ∨ after.remaining < reader.remaining) := by
  refine reaches.induction (motive := fun middle => middle.Steady ∧
    (middle = reader ∨ middle.remaining < reader.remaining)) ⟨steady, .inl rfl⟩ fun middle kept => ?_
  obtain ⟨steadyAfter, same | less⟩ := kept.1.moved
  · exact ⟨steadyAfter, by rw [same]; exact kept.2⟩
  · refine ⟨steadyAfter, .inr ?_⟩
    rcases kept.2 with rfl | before
    · exact less
    · exact less.trans before

/-- In front of a character that begins nothing a reader keeps its token, whatever is tried. -/
theorem Reaches.of_stray (strayed : reader.scanner.StandsOnStray) (reaches : reader.Reaches after) :
    after.scanner.StandsOnStray ∧ after.current = reader.current := by
  refine reaches.induction (motive := fun middle => middle.scanner.StandsOnStray ∧
    middle.current = reader.current) ⟨strayed, rfl⟩ fun middle kept => ?_
  obtain ⟨error, failure, still⟩ := kept.1.next_eq
  rw [moved_of_error failure]
  exact ⟨still, kept.2⟩

end Reader

/-! ## Calls -/

namespace Reading

private theorem stop_of_loop {α : Type} {stop : Reader → Bool} {step : α → Reading α} {progress : Progresses stop step}
    {value result : α} {reader after : Reader} (success : loop stop step progress value reader = .ok result after) :
    stop after = true := by
  fun_induction loop stop step progress value reader with
  | case1 value reader stopped =>
    cases success
    exact stopped
  | case2 value reader going next middle taken ih => exact ih success
  | case3 => cases success

private theorem sketch_of_atEnd {reader : Reader} (ended : reader.atEnd = true) :
    sketch reader = .ok .empty reader := by
  rw [sketch]
  simp only [Bind.bind, EStateM.bind, loop_of_stop ended]
  rfl

/-- A reading that finds a sketch, or fails only for its pins, has come to the end of the text. -/
theorem atEnd_of_sketch {reader : Reader} (read : ∀ error, given sketch reader = .error error → error.IsStray) :
    (left sketch reader).atEnd = true := by
  simp only [given, left, sketch, Bind.bind, EStateM.bind] at read ⊢
  cases lines : loop Reader.atEnd line line_progresses .empty reader with
  | error error after =>
    simp only [lines] at read
    exact absurd (read error rfl) (spares_loop spares_line _ lines)
  | ok found after =>
    have ended := stop_of_loop lines
    dsimp only
    cases found.firstStray? <;> exact ended

private theorem sketches_succ (reader : Reader) (count : Nat) :
    sketches reader (count + 1) = given sketch reader :: sketches (left sketch reader) count := by
  simp only [sketches, given, left]
  cases sketch reader <;> rfl

end Reading

namespace Reader

/-- The reader after so many readings of a sketch, whatever they gave. -/
def reread (reader : Reader) (calls : Nat) : Reader :=
  (Reading.left Reading.sketch)^[calls] reader

/-- What is given by a reading of a sketch after so many others. -/
def answer (reader : Reader) (calls : Nat) : Except Error Sketch :=
  Reading.given Reading.sketch (reader.reread calls)

/-- What readings in any number, one after the other, come to on a text of the given size. -/
structure Settles (size : Nat) (reader : Reader) : Prop where
  /-- Each reading has its answer. -/
  answers : ∀ count, Reading.sketches reader count = (List.range count).map reader.answer
  progress : ∀ calls,
    (reader.reread (calls + 1) = reader.reread calls ∧ ∀ later ≥ calls, reader.answer later = reader.answer calls) ∨
      (reader.reread (calls + 1)).remaining < (reader.reread calls).remaining
  settled : ∀ calls ≥ size, reader.answer calls = reader.answer size
  /-- Behind a whole sketch nothing is left to read, even if its pins were at fault. -/
  finished : ∀ calls, ((∃ sketch, reader.answer calls = .ok sketch) ∨
      ∃ pin line, reader.answer calls = .error (.unknownPin pin line)) →
    ∀ later > calls, reader.answer later = .ok .empty
  strayed : ∀ calls, (reader.reread calls).scanner.StandsOnStray →
    ∀ later ≥ calls, ∀ sketch, reader.answer later ≠ .ok sketch

variable {reader : Reader}

private theorem reread_succ (reader : Reader) (calls : Nat) :
    reader.reread (calls + 1) = Reading.left Reading.sketch (reader.reread calls) :=
  Function.iterate_succ_apply' _ _ _

private theorem reread_add (reader : Reader) (calls more : Nat) :
    reader.reread (calls + more) = (reader.reread calls).reread more := by
  rw [Nat.add_comm]
  exact Function.iterate_add_apply _ _ _ _

private theorem sketches_eq_map_answer (reader : Reader) (count : Nat) :
    Reading.sketches reader count = (List.range count).map reader.answer := by
  induction count generalizing reader with
  | zero => rfl
  | succ count ih =>
    rw [Reading.sketches_succ, ih, List.range_succ_eq_map, List.map_cons, List.map_map]
    rfl

/-- Reading again only moves a reader on. -/
theorem reaches_reread (reader : Reader) (calls : Nat) : reader.Reaches (reader.reread calls) := by
  induction calls with
  | zero => exact .refl reader
  | succ calls ih =>
    rw [reread_succ]
    exact ih.trans (Reading.onlyMoves_sketch _)

/-- Once a call leaves a reader where it is, all later ones do. -/
theorem reread_of_fixed {calls : Nat} (fixed : reader.reread (calls + 1) = reader.reread calls) {later : Nat}
    (behind : calls ≤ later) : reader.reread later = reader.reread calls := by
  obtain ⟨more, rfl⟩ := Nat.exists_eq_add_of_le behind
  rw [reread_add]
  rw [reread_succ] at fixed
  exact Function.iterate_fixed fixed more

private theorem reread_of_atEnd {calls : Nat} (ended : (reader.reread calls).atEnd = true) {later : Nat}
    (behind : calls ≤ later) : reader.reread later = reader.reread calls := by
  refine reread_of_fixed ?_ behind
  rw [reread_succ, Reading.left, Reading.sketch_of_atEnd ended]

/-- Each reading leaves a steady reader as it is, or takes something of what remains. -/
theorem Steady.reread (steady : reader.Steady) (calls : Nat) :
    (reader.reread (calls + 1) = reader.reread calls) ∨
      (reader.reread (calls + 1)).remaining < (reader.reread calls).remaining := by
  have here := (steady.reaches (reader.reaches_reread calls)).1
  rw [reread_succ]
  exact (here.reaches (Reading.onlyMoves_sketch _)).2

/-- So it is the same in the end, after as many readings as there were characters at most. -/
theorem Steady.reread_settled (steady : reader.Steady) {size : Nat} (bound : reader.remaining ≤ size) :
    reader.reread (size + 1) = reader.reread size := by
  have descent (calls : Nat) : reader.reread (calls + 1) = reader.reread calls ∨
      (reader.reread calls).remaining + calls ≤ reader.remaining := by
    induction calls with
    | zero => exact .inr (Nat.le_refl _)
    | succ calls ih =>
      rcases steady.reread calls with same | less
      · exact .inl (by rw [reread_succ, same, ← reread_succ, same])
      · rcases ih with same | still
        · exact absurd less (by rw [same]; exact Nat.lt_irrefl _)
        · exact .inr (by omega)
  rcases descent size with same | least
  · exact same
  · rcases steady.reread size with same | less
    · exact same
    · omega

/-- A reader is steady from its start on. -/
theorem steady_of_start {text : String} (started : start text = .ok reader) : reader.Steady :=
  steady_of_next (start_eq_ok_iff.mp started)

private theorem remaining_of_start {text : String} (started : start text = .ok reader) :
    reader.remaining ≤ text.length := by
  -- The first token is found as if the reader had moved on to it.
  have moved : Reading.advance ⟨reader.current, Scanner.start text⟩ = .ok () reader :=
    Reading.advance_eq_ok_iff.mpr (start_eq_ok_iff.mp started)
  exact (Reading.advance_le moved).trans_eq String.length_toList

/-- Readings end, and come to the same in the end. -/
theorem settles {text : String} {reader : Reader} (started : start text = .ok reader) :
    reader.Settles text.length := by
  have steady := steady_of_start started
  constructor
  case answers => exact reader.sketches_eq_map_answer
  case progress =>
    intro calls
    rcases steady.reread calls with same | less
    · exact .inl ⟨same, fun later behind => by rw [answer, answer, reread_of_fixed same behind]⟩
    · exact .inr less
  case settled =>
    intro calls behind
    have fixed := steady.reread_settled (remaining_of_start started)
    rw [answer, answer, reread_of_fixed fixed behind]
  case finished =>
    intro calls read later behind
    have ended : (reader.reread (calls + 1)).atEnd = true := by
      rw [reread_succ]
      refine Reading.atEnd_of_sketch fun error failed => ?_
      rcases read with ⟨sketch, found⟩ | stray
      · cases failed.symm.trans found
      · obtain ⟨pin, line, stray⟩ := stray
        exact ⟨pin, line, Except.error.inj (failed.symm.trans stray)⟩
    rw [answer, reread_of_atEnd ended behind, Reading.given, Reading.sketch_of_atEnd ended]
  case strayed =>
    intro calls strayed later behind sketch found
    obtain ⟨more, rfl⟩ := Nat.exists_eq_add_of_le behind
    have here := (steady.reaches (reader.reaches_reread calls)).1
    have there : (reader.reread calls).Reaches (Reading.left Reading.sketch (reader.reread (calls + more))) := by
      rw [reread_add, ← reread_succ]
      exact reaches_reread _ _
    have ended : (Reading.left Reading.sketch (reader.reread (calls + more))).atEnd = true :=
      Reading.atEnd_of_sketch fun error failed => nomatch failed.symm.trans found
    -- The token has not changed since, so the end was reached before the stray character was met.
    obtain ⟨-, same⟩ := there.of_stray strayed
    rw [atEnd, same] at ended
    obtain ⟨error, failure, -⟩ := strayed.next_eq
    cases failure.symm.trans (here ended)

/-- Three readings fail, each in its own way: at a bad number, at a pin in the place of a keyword, and for a pin outside
the pin space. -/
theorem settles_after_failures :
    ∃ reader, start "led D1 5x\n.pins D2\nled D3\n" = .ok reader ∧
      Reading.sketches reader 5 = [.error (.scan ⟨.malformedNumber "5x", ⟨1, 8⟩⟩), .error (.unknownKind "D1" 1),
        .error (.unknownPin ⟨"D3"⟩ 3), .ok .empty, .ok .empty] ∧
      ∀ later > 2, reader.answer later = .ok .empty := by
  have started : start "led D1 5x\n.pins D2\nled D3\n" =
      .ok ⟨⟨.word "led", ⟨1, 1⟩⟩, ⟨" D1 5x\n.pins D2\nled D3\n".toList, ⟨1, 4⟩⟩⟩ := by decide +kernel
  refine ⟨_, started, by decide +kernel, (settles started).finished 2 (.inr ⟨⟨"D3"⟩, 3, ?_⟩)⟩
  decide +kernel

end Reader

end Breadboard.Script
