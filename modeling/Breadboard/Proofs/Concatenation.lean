import Breadboard.Proofs.LineByLine

/-! # Texts behind one another

What stands in front of a line end is read alone (`Scanner.readLines_extend`), and what stands behind it as well, so
many lines further up (`Scanner.inStep_down`). Errors of pins outside the pin space come from the check that looks at
all lines, and from no line. Main statement: `Sketch.ofText_append`.
-/

namespace Breadboard.Script

/-! ## Behind a line end -/

/-- The text holds whole lines: it is empty, or it ends with a line end. -/
def Complete (text : List Char) : Prop :=
  ∀ c ∈ text.getLast?, c = '\n'

instance (text : List Char) : Decidable (Complete text) :=
  Option.decidableForallMem text.getLast?

private theorem Complete.newline_mem {text : List Char} (complete : Complete text) (nonempty : text ≠ []) :
    '\n' ∈ text := by
  have last := complete _ (List.getLast?_eq_some_getLast nonempty)
  exact last ▸ List.getLast_mem nonempty

private theorem Complete.of_append {front rest : List Char} (complete : Complete (front ++ rest)) : Complete rest := by
  intro c last
  refine complete c ?_
  rw [List.getLast?_append]
  simp [Option.mem_def.mp last]

private theorem gapFrom_extend {text : List Char} (newline : '\n' ∈ text) (commenting : Bool) (second : List Char) :
    gapFrom commenting (text ++ second) = gapFrom commenting text := by
  induction text generalizing commenting with
  | nil => cases newline
  | cons c rest ih =>
    simp only [List.cons_append, gapFrom]
    split
    next inGap =>
      have behind : '\n' ∈ rest := by
        refine (List.mem_cons.mp newline).resolve_left ?_
        rintro rfl
        simp [isSpace, opensComment] at inGap
      rw [ih behind]
    next => rfl

private theorem leadingWord_extend {text : List Char} (newline : '\n' ∈ text) (second : List Char) :
    Text.leadingWord (text ++ second) = Text.leadingWord text := by
  induction text with
  | nil => cases newline
  | cons c rest ih =>
    simp only [Text.leadingWord, List.cons_append, List.takeWhile_cons] at ih ⊢
    split
    next wordChar =>
      have behind : '\n' ∈ rest :=
        (List.mem_cons.mp newline).resolve_left fun same => (not_mark_of_isWordChar wordChar).1 same.symm
      rw [ih behind]
    next => rfl

private theorem lexeme_extend {text : List Char} (newline : '\n' ∈ text) (second : List Char) :
    lexeme (text ++ second) = lexeme text := by
  cases text with
  | nil => cases newline
  | cons c rest =>
    rcases List.mem_cons.mp newline with rfl | behind
    · rfl
    · simp only [List.cons_append, lexeme, leadingWord_extend behind]

namespace Scanner

/-- The same place in a text that goes on. -/
def extend (scanner : Scanner) (second : List Char) : Scanner :=
  ⟨scanner.rest ++ second, scanner.position⟩

private theorem skip_extend {scanner : Scanner} {text rest : List Char} (front : text ++ rest = scanner.rest)
    (second : List Char) : (scanner.extend second).skip text = (scanner.skip text).extend second := by
  simp [skip, extend, ← front]

/-- A scanner before a line end does not see what stands behind it. -/
theorem next_extend {scanner : Scanner} (newline : '\n' ∈ scanner.rest) (second : List Char) :
    (scanner.extend second).next =
      match scanner.next with
      | .ok token after => .ok token (after.extend second)
      | .error error after => .error error (after.extend second) := by
  have gap : (scanner.extend second).skipGap = scanner.skipGap.extend second := by
    rw [skipGap, leadingGap, extend, gapFrom_extend newline]
    exact skip_extend (skipGap_rest_append scanner) second
  have behind : '\n' ∈ scanner.skipGap.rest := by
    rw [← skipGap_rest_append scanner, List.mem_append] at newline
    exact newline.resolve_left (newline_notMem_gapFrom false _)
  have found : lexeme (scanner.skipGap.extend second).rest = lexeme scanner.skipGap.rest :=
    lexeme_extend behind second
  simp only [next, gap, found, skip_extend (lexeme_append_drop scanner.skipGap.rest)]
  cases (lexeme scanner.skipGap.rest).reading <;> rfl

/-- Where the scanner stands when the text is read to its end. -/
def last (scanner : Scanner) : Position :=
  scanner.position.afterText scanner.rest

private theorem last_skip {scanner : Scanner} {text rest : List Char} (front : text ++ rest = scanner.rest) :
    (scanner.skip text).last = scanner.last := by
  simp [last, skip, ← front, Position.afterText]

end Scanner

/-- A reader in front of a line end, and the reader at the same place in a text that goes on behind it. -/
structure Reader.Extends (second : List Char) (last : Position) (reader other : Reader) : Prop where
  current : other.current = reader.current
  more : reader.atEnd = false
  scanner : other.scanner = reader.scanner.extend second
  complete : Complete reader.scanner.rest
  /-- Only the last line end has nothing behind it. -/
  newline : reader.scanner.rest = [] → reader.current.symbol = .newline
  last : reader.scanner.last = last

private theorem Scanner.extends_of_next {scanner after : Scanner} {token : Token} (complete : Complete scanner.rest)
    (nonempty : scanner.rest ≠ []) (second : List Char) (success : scanner.next = .ok token after) :
    Reader.Extends second scanner.last ⟨token, after⟩ ⟨token, after.extend second⟩ := by
  obtain ⟨chars, found, -, rfl⟩ := next_eq_ok_iff.mp success
  have gap := newline_notMem_gapFrom false scanner.rest
  have front := skipGap_rest_append scanner
  have newline := complete.newline_mem nonempty
  have more : token.symbol ≠ .endOfText := by
    intro ended
    rw [ended] at found
    rw [← front, eq_nil_of_lexeme_endOfText (congrArg Lexeme.reading found), List.append_nil] at newline
    exact gap newline
  obtain ⟨rest, split, spelled, -⟩ := (lexeme_eq_ok_iff more).mp found
  rw [← front, split] at complete newline
  have behind : (scanner.skipGap.skip chars).rest = rest := skip_rest_append split
  refine ⟨rfl, decide_eq_false more, rfl, ?_, ?_, ?_⟩
  · rw [behind]
    exact complete.of_append.of_append
  · intro empty
    rw [← behind, empty, List.append_nil, List.mem_append] at newline
    by_contra other
    have none := spelled.count_newline
    rw [if_neg other] at none
    exact List.count_eq_zero.mp none (newline.resolve_left gap)
  · exact (last_skip split.symm).trans (last_skip front)

/-- Readers of a text and of one that goes on behind it stay in step. -/
theorem Reader.inStep_extends (second : List Char) (last : Position) :
    Reader.InStep 0 (Reader.Extends second last) where
  symbol readers := by rw [readers.current]
  line readers := by rw [readers.current]; rfl
  advance := by
    rintro reader other ⟨current, more, scanner, complete, newline, rfl⟩ within
    have nonempty : reader.scanner.rest ≠ [] := by
      intro empty
      simp [Reader.atLineEnd, newline empty] at within
    rw [Reading.advance, Reading.advance, scanner, Scanner.next_extend (complete.newline_mem nonempty)]
    cases found : reader.scanner.next with
    | error error after => exact Agree.error (Error.scan error)
    | ok token after => exact .ok rfl (Scanner.extends_of_next complete nonempty second found)

namespace Scanner

private theorem readLines_of_empty {scanner : Scanner} (empty : scanner.rest = []) (sketch : Sketch) :
    scanner.readLines sketch = .ok sketch := by
  have gap : leadingGap scanner.rest = scanner.rest := by rw [empty]; rfl
  rw [readLines_eq, (next_of_gap gap).1]
  rfl

/-- Whole lines are read alone, and then what stands behind them. -/
theorem readLines_extend {scanner : Scanner} (complete : Complete scanner.rest) (second : List Char)
    (sketch : Sketch) :
    (scanner.extend second).readLines sketch =
      (scanner.readLines sketch).bind fun front => readLines ⟨second, scanner.last⟩ front := by
  generalize size : scanner.rest.length = count
  induction count using Nat.strongRecOn generalizing scanner sketch with
  | ind count ih =>
    by_cases empty : scanner.rest = []
    · rw [readLines_of_empty empty, extend, last, empty]
      rfl
    rw [readLines_eq scanner, readLines_eq (scanner.extend second), next_extend (complete.newline_mem empty)]
    cases first : scanner.next with
    | error error after => rfl
    | ok token after =>
      have readers := extends_of_next complete empty second first
      have more : token.symbol ≠ .endOfText := of_decide_eq_false readers.more
      have together :=
        Reading.lineBody_agree (Reader.inStep_extends second scanner.last) readers .empty sketch (.inl rfl)
      simp only [Sketch.empty_above_zero, id_eq] at together
      simp only [more, if_false]
      cases body : Reading.lineBody sketch ⟨token, after⟩ with
      | error error failed =>
        rw [body, Agree.error_iff, Error.down_zero, id_eq] at together
        obtain ⟨behind, twin⟩ := together
        simp only [twin]
        rfl
      | ok next middle =>
        rw [body, Agree.ok_iff] at together
        obtain ⟨result, behind, twin, rfl, readers, ended⟩ := together
        have newline : middle.current.symbol = .newline := by simpa [Reader.atLineEnd, readers.more] using ended
        simp only [twin, readers.current, newline, if_true, readers.scanner]
        have less := rest_lt_of_lineBody first more body newline
        rw [ih _ (size ▸ less) readers.complete result rfl, readers.last]

end Scanner

/-! ## Further down -/

namespace Scanner

/-- The same scanner so many lines further down. -/
def down (count : Nat) (scanner : Scanner) : Scanner :=
  ⟨scanner.rest, scanner.position.down count⟩

private theorem skip_down (count : Nat) (scanner : Scanner) (text : List Char) :
    (scanner.down count).skip text = (scanner.skip text).down count := by
  have moved (position : Position) : (position.down count).afterText text = (position.afterText text).down count := by
    induction text generalizing position with
    | nil => rfl
    | cons c rest ih =>
      refine Eq.trans ?_ (ih (position.after c))
      have : (position.down count).after c = (position.after c).down count := by
        simp only [Position.after, Position.down]
        split <;> simp [Nat.add_right_comm]
      simp only [Position.afterText, List.foldl_cons, this]
  simp only [skip, down, moved]

private theorem inStep_down (count : Nat) : InStep count fun scanner other => other = scanner.down count := by
  rintro scanner _ rfl
  have gap : (scanner.down count).skipGap = scanner.skipGap.down count := skip_down count scanner _
  have same : (scanner.skipGap.down count).rest = scanner.skipGap.rest := rfl
  simp only [next, gap, same, skip_down]
  cases (lexeme scanner.skipGap.rest).reading with
  | ok symbol => exact .ok ⟨rfl, rfl⟩ rfl
  | error fault => exact Agree.error (ScanError.mk fault _)

end Scanner

/-! ## The check that comes last -/

/-- The error is a pin outside the pin space. -/
def Error.IsStray (error : Error) : Prop :=
  ∃ pin line, error = .unknownPin pin line

namespace Reading

/-- The action reports no pin outside the pin space. -/
def Spares {α : Type} (action : Reading α) : Prop :=
  ∀ ⦃reader error after⦄, action reader = .error error after → ¬error.IsStray

private theorem spares_advance : Spares advance := by
  rintro reader error after failed ⟨pin, line, rfl⟩
  rw [advance] at failed
  split at failed <;> cases failed

private theorem spares_pure {α : Type} (value : α) : Spares (pure value) := by
  intro reader error after failed
  cases failed

private theorem spares_check {α : Type} (line : Nat) (checked : Except GrammarFault α) :
    Spares (check line checked) := by
  rintro reader error after failed ⟨pin, line, rfl⟩
  cases checked <;> cases failed

private theorem Spares.bind {α β : Type} {action : Reading α} {next : α → Reading β} (first : Spares action)
    (second : ∀ value, Spares (next value)) : Spares (action >>= next) := by
  intro reader error after failed
  simp only [Bind.bind, EStateM.bind] at failed
  cases ran : action reader with
  | ok value middle =>
    rw [ran] at failed
    exact second value failed
  | error fault middle =>
    rw [ran] at failed
    cases failed
    exact first ran

/-- A loop reports no stray pin if none of its steps does. -/
theorem spares_loop {α : Type} {stop : Reader → Bool} {step : α → Reading α} {progress : Progresses stop step}
    (steps : ∀ value, Spares (step value)) (value : α) : Spares (loop stop step progress value) := by
  intro reader error after failed
  fun_induction loop stop step progress value reader with
  | case1 => cases failed
  | case2 value reader going next middle taken ih => exact ih failed
  | case3 value reader going fault middle stuck =>
    cases failed
    exact steps value stuck

private theorem spares_argument (line : Nat) : Spares (argument line) := by
  intro reader error after failed
  rw [argument, get_bind_eq] at failed
  exact ((spares_check _ _).bind fun _ => spares_advance.bind fun _ => spares_pure _) failed

private theorem spares_afterWord (entry : Entry) (text : String) : Spares (afterWord entry text) := by
  intro reader error after failed
  rw [afterWord, get_bind_eq] at failed
  split at failed
  · exact (spares_advance.bind fun _ => (spares_argument _).bind fun _ => spares_check _ _) failed
  · cases failed

private theorem spares_grammar {α : Type} {fault : GrammarFault} {line : Nat} {error : Error} {reader after : Reader}
    (failed : (.error (.grammar fault line) reader : EStateM.Result Error Reader α) = .error error after) :
    ¬error.IsStray := by
  cases failed
  rintro ⟨pin, line, stray⟩
  cases stray

private theorem spares_item (entry : Entry) : Spares (item entry) := by
  intro reader error after failed
  simp only [item] at failed
  split at failed
  · exact (spares_advance.bind fun _ => spares_afterWord _ _) failed
  · exact (spares_advance.bind fun _ => spares_check _ _) failed
  · exact spares_grammar failed

private theorem spares_pinName (line : Nat) (pins : List Pin) : Spares (pinName line pins) := by
  intro reader error after failed
  simp only [pinName] at failed
  split at failed
  · exact (spares_advance.bind fun _ => spares_pure _) failed
  · exact spares_grammar failed

private theorem spares_entry (keyword : String) (line : Nat) : Spares (entry keyword line) := by
  rw [entry]
  split
  · exact spares_loop spares_item _
  · rintro reader error after failed ⟨pin, line, rfl⟩
    cases failed

private theorem spares_lineBody (sketch : Sketch) : Spares (lineBody sketch) := by
  intro reader error after failed
  simp only [lineBody] at failed
  split at failed
  · cases failed
  · refine (spares_advance.bind fun _ => (spares_check _ _).bind fun _ => ?_) failed
    exact (spares_loop (spares_pinName _) _).bind fun _ => spares_check _ _
  · exact (spares_advance.bind fun _ => (spares_entry _ _).bind fun _ => spares_pure _) failed
  · exact spares_grammar failed

/-- Reading a line reports no stray pin. -/
theorem spares_line (sketch : Sketch) : Spares (line sketch) := by
  refine (spares_lineBody sketch).bind fun _ => Spares.bind ?_ fun _ => spares_pure _
  intro reader error after failed
  rw [lineEnd, get_bind_eq] at failed
  split at failed
  · exact spares_advance failed
  · cases failed

end Reading

namespace Sketch

variable {text : String} {error : Error}

/-- No line is at fault for a pin outside the pin space. -/
theorem not_isStray_of_read (failed : read text = .error error) : ¬error.IsStray := by
  rw [read, Scanner.readLines] at failed
  split at failed
  · cases failed
    rintro ⟨pin, line, stray⟩
    cases stray
  · split at failed
    next => cases failed
    next stuck =>
      cases failed
      exact Reading.spares_loop Reading.spares_line _ stuck

private theorem ofText_of_read_error (failed : read text = .error error) : ofText text = .error error := by
  rw [ofText_eq_read, failed]
  rfl

/-- The errors of the lines are the errors of the text but for pins outside the pin space. -/
theorem read_eq_error_iff : read text = .error error ↔ ofText text = .error error ∧ ¬error.IsStray := by
  constructor
  · exact fun failed => ⟨ofText_of_read_error failed, not_isStray_of_read failed⟩
  · rintro ⟨failed, other⟩
    rw [ofText_eq_read] at failed
    cases found : read text with
    | error fault =>
      rw [found] at failed
      exact failed
    | ok sketch =>
      rw [found] at failed
      simp only [Except.bind, checked] at failed
      split at failed
      · cases failed
      · cases failed
        exact absurd ⟨_, _, rfl⟩ other

/-- A text that fails only by a stray pin is read up to its end. -/
theorem exists_read_of_isStray (others : ∀ error, ofText text = .error error → error.IsStray) :
    ∃ sketch, read text = .ok sketch := by
  cases found : read text with
  | error error => exact absurd (others error (ofText_of_read_error found)) (not_isStray_of_read found)
  | ok sketch => exact ⟨sketch, rfl⟩

private theorem above_empty (front : Sketch) (count : Nat) : front.above count .empty = front := by
  cases front
  simp [above, empty]

/-- Behind whole lines the first column is reached again. -/
theorem last_start {first : String} (complete : Complete first.toList) :
    (Scanner.start first).last = Position.start.down (first.toList.count '\n') := by
  have line : (Scanner.start first).last.line = 1 + first.toList.count '\n' := Position.afterText_line _ _
  have column : (Scanner.start first).last.column = 1 := by
    rw [Scanner.last, Scanner.start]
    rcases List.eq_nil_or_concat first.toList with empty | ⟨front, c, split⟩
    · rw [empty]
      rfl
    · have newline : c = '\n' := complete c (by simp [split])
      simp only [split, newline, Position.afterText, List.concat_eq_append, List.foldl_append]
      rfl
  exact congr (congrArg Position.mk line) column

/-- Whole lines in front of a text are read alone, and the text behind them so many lines further down. -/
theorem read_append {first : String} (complete : Complete first.toList) (second : String) :
    read (first ++ second) = (read first).bind fun front =>
      ((Scanner.start second).down (first.toList.count '\n')).readLines front := by
  have start : Scanner.start (first ++ second) = (Scanner.start first).extend second.toList := by
    rw [Scanner.start, String.toList_append]
    rfl
  rw [read, start, Scanner.readLines_extend complete, last_start complete]
  rfl

/-- Behind a text that is read another one is read as it is alone, further down, unless both declare a space. -/
theorem read_append_of_ok {first second : String} {front : Sketch} (complete : Complete first.toList)
    (once : ¬((Scanner.start first).DeclaresSpace ∧ (Scanner.start second).DeclaresSpace))
    (success : read first = .ok front) :
    read (first ++ second) =
      ((read second).map (front.above (first.toList.count '\n'))).mapError (Error.down (first.toList.count '\n')) := by
  generalize counted : first.toList.count '\n' = count
  have free : front.space = none ∨ ¬(Scanner.start second).DeclaresSpace := by
    refine (em ((Scanner.start first).DeclaresSpace)).symm.imp (fun undeclared => ?_) (not_and.mp once)
    exact Scanner.space_of_readLines undeclared success
  have behind := Scanner.readLines_agree (Scanner.inStep_down count) rfl front .empty free
  rw [above_empty] at behind
  rw [read_append complete, success, counted]
  exact behind

/-- Reading is a homomorphism on whole lines. If the lines in front fail, the whole text fails with their error. Else,
unless both parts declare the pin space, the error of the part behind is counted on, and where neither fails the whole
text is the one sketch above the other. Only the check of the pins looks at both. -/
theorem ofText_append {first second : String} (complete : Complete first.toList) :
    let count := first.toList.count '\n'
    (∀ text, ofText text = (read text).bind checked) ∧
      (∀ error, ofText first = .error error → ¬error.IsStray → ofText (first ++ second) = .error error) ∧
      ((∀ error, ofText first = .error error → error.IsStray) →
        ¬((Scanner.start first).DeclaresSpace ∧ (Scanner.start second).DeclaresSpace) →
        (∀ error, ofText second = .error error → ¬error.IsStray →
          ofText (first ++ second) = .error (error.down count)) ∧
        ((∀ error, ofText second = .error error → error.IsStray) →
          ∃ front back, read first = .ok front ∧ read second = .ok back ∧
            read (first ++ second) = .ok (front.above count back) ∧
            ofText (first ++ second) = (front.above count back).checked)) := by
  refine ⟨ofText_eq_read, fun error failed other => ?_, fun others once => ?_⟩
  · rw [ofText_eq_read, read_append complete, read_eq_error_iff.mpr ⟨failed, other⟩]
    rfl
  obtain ⟨front, success⟩ := exists_read_of_isStray others
  have whole := read_append_of_ok complete once success
  refine ⟨fun error failed other => ?_, fun others => ?_⟩
  · rw [ofText_eq_read, whole, read_eq_error_iff.mpr ⟨failed, other⟩]
    rfl
  · obtain ⟨back, behind⟩ := exists_read_of_isStray others
    rw [behind] at whole
    exact ⟨front, back, success, behind, whole, by rw [ofText_eq_read, whole]; rfl⟩

/-- A pin space in the front part counts for an entry in the part behind. -/
theorem ofText_append_stray :
    ofText (".pins D1\nled D1\n" ++ "# low\nled D2") = .error (.unknownPin ⟨"D2"⟩ 4) := by
  have front : read ".pins D1\nled D1\n" = .ok ⟨some [⟨"D1"⟩], [⟨.light, [⟨"D1"⟩], none, none, .empty, 2⟩]⟩ := by
    decide +kernel
  have back : read "# low\nled D2" = .ok ⟨none, [⟨.light, [⟨"D2"⟩], none, none, .empty, 2⟩]⟩ := by decide +kernel
  obtain ⟨late, -, whole⟩ := @ofText_append ".pins D1\nled D1\n" "# low\nled D2" (by decide +kernel)
  have frontFits : ∀ error, ofText ".pins D1\nled D1\n" = .error error → error.IsStray := by
    intro error failed
    rw [late, front] at failed
    cases failed
  have backFits : ∀ error, ofText "# low\nled D2" = .error error → error.IsStray := by
    intro error failed
    rw [late, back] at failed
    cases failed
  obtain ⟨above, below, frontRead, backRead, -, checked⟩ := (whole frontFits (by decide +kernel)).2 backFits
  cases frontRead.symm.trans front
  cases backRead.symm.trans back
  exact checked.trans (by decide +kernel)

end Sketch

end Breadboard.Script
