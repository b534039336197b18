import Breadboard.Proofs.EntryReading

/-! # Which texts are sketches

The loops over the pins of a directive and over the lines of a text are followed as the one over items is: what they
have read so far stands for the sketch that they carry. Main statement: `Sketch.ofText_eq_ok_iff`.
-/

namespace Breadboard.Script

namespace Reading

section Pins

variable {line : Nat}

private theorem pinName_eq_ok_iff {pins next : List Pin} {reader after : Reader} :
    pinName line pins reader = .ok next after ↔
      ∃ pin : Pin, reader.Passes [.word pin.name] after ∧ next = appendNew pins (some pin) := by
  constructor
  · intro success
    simp only [pinName] at success
    split at success
    next text word =>
      have more : reader.atEnd = false := by rw [Reader.atEnd, word]; rfl
      obtain ⟨middle, passed, success⟩ := (advance_bind_eq_ok_iff more).mp success
      obtain ⟨rfl, rfl⟩ := pure_eq_ok_iff.mp success
      exact ⟨⟨text⟩, by rwa [word] at passed, rfl⟩
    next => cases success
  · rintro ⟨pin, passed, rfl⟩
    obtain ⟨current, more, -⟩ := Reader.Passes.cons_iff.mp passed
    simp only [pinName, current]
    exact (advance_bind_eq_ok_iff more).mpr ⟨after, by rwa [current], rfl⟩

/-- The loop over the pins keeps each of them once, at its first mention. -/
theorem pinNames_eq_ok_iff (pins : List Pin) {result : List Pin} {reader after : Reader} :
    loop Reader.atLineEnd (pinName line) (pinName_progresses line) pins.eraseDups reader = .ok result after ↔
      ∃ more : List Pin, reader.Passes (more.map fun pin => .word pin.name) after ∧ after.atLineEnd = true ∧
        result = (pins ++ more).eraseDups := by
  constructor
  · intro success
    generalize start : pins.eraseDups = current at success
    fun_induction loop Reader.atLineEnd (pinName line) (pinName_progresses line) current reader
        generalizing pins with
    | case1 current reader stopped =>
      cases success
      exact ⟨[], .stay _, stopped, by rw [List.append_nil, start]⟩
    | case2 current reader going _ middle taken ih =>
      subst start
      obtain ⟨pin, front, rfl⟩ := pinName_eq_ok_iff.mp taken
      obtain ⟨more, back, ended, result⟩ := ih _ (appendNew_eraseDups pins pin).symm success
      rw [List.append_assoc] at result
      refine ⟨pin :: more, ?_, ended, result⟩
      exact Reader.Passes.uncons_iff.mpr ⟨middle, front, back⟩
    | case3 => cases success
  · rintro ⟨more, passed, ended, rfl⟩
    induction more generalizing pins reader with
    | nil =>
      obtain rfl := Reader.Passes.nil_iff.mp passed
      rw [loop_of_stop ended, List.append_nil]
    | cons pin more ih =>
      obtain ⟨middle, front, back⟩ := Reader.Passes.uncons_iff.mp passed
      have going : reader.atLineEnd = false := by simp [Reader.atLineEnd, Reader.atEnd, front.current]
      rw [loop_of_step going (pinName_eq_ok_iff.mpr ⟨pin, front, rfl⟩), appendNew_eraseDups, ih _ back]
      simp

end Pins

private theorem directive_eq_ok_iff {sketch next : Sketch} {text : String} {line : Nat} {reader after : Reader} :
    directive sketch text line reader = .ok next after ↔
      ∃ pins : List Pin, Text.lowercase text = ".pins" ∧ pins ≠ [] ∧
        reader.Passes (pins.map fun pin => .word pin.name) after ∧ after.atLineEnd = true ∧
        sketch.Takes next line (.space pins) := by
  have admitted : sketch.admitDirective text = .ok () ↔ Text.lowercase text = ".pins" ∧ sketch.space = none := by
    by_cases known : Text.lowercase text = ".pins" <;> cases declared : sketch.space <;>
      simp [Sketch.admitDirective, known, declared]
  have declared (pins : List Pin) : sketch.declare pins.eraseDups = .ok next ↔
      pins ≠ [] ∧ next = { sketch with space := some pins.eraseDups } := by
    cases pins <;> simp [Sketch.declare, List.eraseDups_cons, eq_comm]
  simp only [directive, check_bind_eq_ok_iff, admitted]
  constructor
  · rintro ⟨⟨⟩, ⟨known, undeclared⟩, success⟩
    obtain ⟨pins, middle, read, success⟩ := bind_eq_ok_iff.mp success
    obtain ⟨pins, passed, ended, rfl⟩ := (pinNames_eq_ok_iff []).mp read
    obtain ⟨taken, rfl⟩ := check_eq_ok_iff.mp success
    obtain ⟨nonempty, rfl⟩ := (declared pins).mp taken
    exact ⟨pins, known, nonempty, passed, ended, undeclared, rfl⟩
  · rintro ⟨pins, known, nonempty, passed, ended, undeclared, rfl⟩
    refine ⟨(), ⟨known, undeclared⟩, bind_eq_ok_iff.mpr ⟨pins.eraseDups, after, ?_, ?_⟩⟩
    · exact (pinNames_eq_ok_iff []).mpr ⟨pins, passed, ended, rfl⟩
    · exact check_eq_ok_iff.mpr ⟨(declared pins).mpr ⟨nonempty, rfl⟩, rfl⟩

/-- The body of a line is read as it is spelled, up to the end of the line. -/
theorem lineBody_eq_ok_iff {sketch next : Sketch} {reader after : Reader} (more : reader.atEnd = false) :
    lineBody sketch reader = .ok next after ↔
      ∃ line piece, Line.Spelled line piece ∧ reader.Passes piece after ∧ after.atLineEnd = true ∧
        sketch.Takes next reader.current.position.line line := by
  constructor
  · intro success
    simp only [lineBody] at success
    split at success
    next newline =>
      cases success
      exact ⟨.empty, [], .empty, .stay _, by simp [Reader.atLineEnd, newline], rfl⟩
    next text directive =>
      obtain ⟨middle, front, success⟩ := (advance_bind_eq_ok_iff more).mp success
      obtain ⟨pins, known, nonempty, back, ended, taken⟩ := directive_eq_ok_iff.mp success
      rw [directive] at front
      refine ⟨.space pins, _, .space known nonempty, ?_, ended, taken⟩
      exact Reader.Passes.uncons_iff.mpr ⟨middle, front, back⟩
    next text word =>
      obtain ⟨middle, front, success⟩ := (advance_bind_eq_ok_iff more).mp success
      obtain ⟨entry, last, read, success⟩ := bind_eq_ok_iff.mp success
      obtain ⟨rfl, rfl⟩ := pure_eq_ok_iff.mp success
      obtain ⟨kind, items, pieces, known, spelled, back, ended, consistent, rfl⟩ := entry_eq_ok_iff.mp read
      rw [word] at front
      refine ⟨.entry kind items, _, .entry known spelled, ?_, ended, consistent, rfl⟩
      exact Reader.Passes.uncons_iff.mpr ⟨middle, front, back⟩
    next => cases success
  · rintro ⟨_, _, _ | ⟨known, nonempty⟩ | ⟨known, spelled⟩, passed, ended, taken⟩
    · obtain rfl := Reader.Passes.nil_iff.mp passed
      have newline : after.current.symbol = .newline := by simpa [Reader.atLineEnd, more] using ended
      simp only [lineBody, newline]
      rw [taken]
    · obtain ⟨current, -⟩ := Reader.Passes.cons_iff.mp passed
      obtain ⟨middle, front, back⟩ := Reader.Passes.uncons_iff.mp passed
      simp only [lineBody, current]
      refine (advance_bind_eq_ok_iff more).mpr ⟨middle, by rwa [current], ?_⟩
      exact directive_eq_ok_iff.mpr ⟨_, known, nonempty, back, ended, taken⟩
    · obtain ⟨current, -⟩ := Reader.Passes.cons_iff.mp passed
      obtain ⟨middle, front, back⟩ := Reader.Passes.uncons_iff.mp passed
      simp only [lineBody, current]
      refine (advance_bind_eq_ok_iff more).mpr ⟨middle, by rwa [current], ?_⟩
      refine bind_eq_ok_iff.mpr ⟨_, after, ?_, pure_eq_ok_iff.mpr ⟨taken.2, rfl⟩⟩
      exact entry_eq_ok_iff.mpr ⟨_, _, _, known, spelled, back, ended, taken.1, rfl⟩

/-- A line ends in a newline that is passed, or with the text. -/
theorem lineEnd_eq_ok_iff {reader after : Reader} (ended : reader.atLineEnd = true) :
    lineEnd reader = .ok () after ↔ reader.Passes [.newline] after ∨ reader.atEnd = true ∧ after = reader := by
  rw [lineEnd, get_bind_eq]
  by_cases newline : reader.current.symbol = .newline
  · have more : reader.atEnd = false := by rw [Reader.atEnd, newline]; rfl
    simp [newline, more, Reader.Passes.cons_iff]
  · have last : reader.atEnd = true := by simpa [Reader.atLineEnd, newline] using ended
    simp [newline, last, Reader.Passes.cons_iff, pure_eq_ok_iff]

/-- One round of the loop reads one line, with its end unless the text ends there. -/
theorem line_eq_ok_iff {sketch next : Sketch} {reader after : Reader} (more : reader.atEnd = false) :
    line sketch reader = .ok next after ↔
      ∃ line piece, Line.Spelled line piece ∧ sketch.Takes next reader.current.position.line line ∧
        (reader.Passes (piece ++ [.newline]) after ∨ reader.Passes piece after ∧ after.atEnd = true) := by
  simp only [Reading.line, bind_eq_ok_iff, lineBody_eq_ok_iff more]
  constructor
  · rintro ⟨_, middle, ⟨line, piece, spelled, front, ended, taken⟩, ⟨⟩, last, moved, success⟩
    obtain ⟨rfl, rfl⟩ := pure_eq_ok_iff.mp success
    refine ⟨line, piece, spelled, taken, ?_⟩
    rcases (lineEnd_eq_ok_iff ended).mp moved with back | ⟨atEnd, rfl⟩
    · exact .inl (Reader.Passes.append_iff.mpr ⟨middle, front, back⟩)
    · exact .inr ⟨front, atEnd⟩
  · rintro ⟨line, piece, spelled, taken, passed | ⟨passed, atEnd⟩⟩
    · obtain ⟨middle, front, back⟩ := Reader.Passes.append_iff.mp passed
      have ended : middle.atLineEnd = true := by simp [Reader.atLineEnd, back.current]
      exact ⟨next, middle, ⟨line, piece, spelled, front, ended, taken⟩, (), after,
        (lineEnd_eq_ok_iff ended).mpr (.inl back), rfl⟩
    · have ended : after.atLineEnd = true := by simp [Reader.atLineEnd, atEnd]
      exact ⟨next, after, ⟨line, piece, spelled, passed, ended, taken⟩, (), after,
        (lineEnd_eq_ok_iff ended).mpr (.inr ⟨atEnd, rfl⟩), rfl⟩

section Lines

variable {lines : List Line} {result : Sketch} {reader after : Reader}

/-- Behind a line and its end the reader stands on the next one. -/
theorem onLine_of_line {line : Line} {piece : List Symbol} (spelled : line.Spelled piece)
    (start : reader.OnLine (lines.length + 1)) (passed : reader.Passes (piece ++ [.newline]) after) :
    after.OnLine ((lines ++ [line]).length + 1) := by
  have last := passed.onLine start
  rw [List.count_append, List.count_eq_zero.mpr spelled.newline_notMem] at last
  rwa [List.length_append]

/-- What the loop has read from a line start on is spelled by lines, with line ends between them. -/
theorem spelled_of_lines (consistent : Line.Consistent lines) (start : reader.OnLine (lines.length + 1))
    (success : loop Reader.atEnd line line_progresses (.ofLines lines) reader = .ok result after) :
    ∃ more pieces, pieces ≠ [] ∧ List.Forall₂ Line.Spelled more pieces ∧
      reader.Passes ([.newline].intercalate pieces) after ∧ after.atEnd = true ∧
      Line.Consistent (lines ++ more) ∧ result = .ofLines (lines ++ more) := by
  generalize begun : Sketch.ofLines lines = current at success
  fun_induction loop Reader.atEnd line line_progresses current reader generalizing lines with
  | case1 current reader stopped =>
    cases success
    have taken : (Sketch.ofLines lines).Takes result (lines.length + 1) .empty := begun.symm
    obtain ⟨still, same⟩ := (Sketch.takes_ofLines_iff consistent).mp taken
    exact ⟨[.empty], [[]], by simp, .cons .empty .nil, .stay _, stopped, still, same⟩
  | case2 current reader going next middle taken ih =>
    subst begun
    obtain ⟨line, piece, spelled, takes, passed⟩ := (line_eq_ok_iff (Bool.eq_false_iff.mpr going)).mp taken
    rw [start.1] at takes
    obtain ⟨consistent, rfl⟩ := (Sketch.takes_ofLines_iff consistent).mp takes
    rcases passed with front | ⟨front, atEnd⟩
    · obtain ⟨more, pieces, nonempty, others, back, ended, all, rfl⟩ :=
        ih consistent (onLine_of_line spelled start front) rfl success
      refine ⟨line :: more, piece :: pieces, by simp, .cons spelled others, ?_, ended, by simpa using all, by simp⟩
      rw [List.intercalate_cons_of_ne_nil nonempty]
      exact Reader.Passes.append_iff.mpr ⟨middle, front, back⟩
    · rw [loop_of_stop atEnd] at success
      cases success
      refine ⟨[line], [piece], by simp, .cons spelled .nil, ?_, atEnd, consistent, rfl⟩
      rwa [List.intercalate_singleton]
  | case3 => cases success

/-- The last line has no line end behind it, and if it is empty too the loop has stopped before it. -/
theorem lines_of_last {last : Line} {piece : List Symbol} (spelled : last.Spelled piece)
    (passed : reader.Passes piece after) (ended : after.atEnd = true)
    (taken : (Sketch.ofLines lines).Takes (.ofLines (lines ++ [last])) reader.current.position.line last) :
    loop Reader.atEnd line line_progresses (.ofLines lines) reader = .ok (.ofLines (lines ++ [last])) after := by
  by_cases empty : reader.atEnd = true
  · cases spelled with
    | empty =>
      obtain rfl := Reader.Passes.nil_iff.mp passed
      rw [loop_of_stop ended, Sketch.ofLines_concat_empty]
    | space => simp [passed.not_atEnd] at empty
    | entry => simp [passed.not_atEnd] at empty
  · have going := Bool.eq_false_iff.mpr empty
    rw [loop_of_step going ((line_eq_ok_iff going).mpr ⟨last, piece, spelled, taken, .inr ⟨passed, ended⟩⟩)]
    exact loop_of_stop ended

/-- Lines that are spelled one behind the other, up to the end of the text, are read. -/
theorem lines_of_spelled {more : List Line} {pieces : List (List Symbol)} (consistent : Line.Consistent lines)
    (start : reader.OnLine (lines.length + 1)) (spelled : List.Forall₂ Line.Spelled more pieces)
    (passed : reader.Passes ([.newline].intercalate pieces) after) (ended : after.atEnd = true)
    (all : Line.Consistent (lines ++ more)) :
    loop Reader.atEnd line line_progresses (.ofLines lines) reader = .ok (.ofLines (lines ++ more)) after := by
  induction spelled generalizing lines reader with
  | nil =>
    obtain rfl := Reader.Passes.nil_iff.mp passed
    rw [loop_of_stop ended, List.append_nil]
  | @cons line piece more pieces first others ih =>
    have split : lines ++ line :: more = (lines ++ [line]) ++ more := by simp
    rw [split] at all ⊢
    have taken : (Sketch.ofLines lines).Takes (.ofLines (lines ++ [line])) reader.current.position.line line := by
      rw [start.1]
      exact (Sketch.takes_ofLines_iff consistent).mpr ⟨all.of_append, rfl⟩
    cases others with
    | nil =>
      rw [List.intercalate_singleton] at passed
      rw [List.append_nil]
      exact lines_of_last first passed ended taken
    | cons second others =>
      rw [List.intercalate_cons_cons] at passed
      obtain ⟨middle, front, back⟩ := Reader.Passes.append_iff.mp passed
      have going := front.not_atEnd (by simp)
      rw [loop_of_step going ((line_eq_ok_iff going).mpr ⟨line, piece, first, taken, .inl front⟩)]
      exact ih all.of_append (onLine_of_line first start front) back all

end Lines

private theorem sketch_eq_ok_iff {result : Sketch} {reader after : Reader} :
    sketch reader = .ok result after ↔
      loop Reader.atEnd line line_progresses .empty reader = .ok result after ∧ result.firstStray? = none := by
  refine bind_eq_ok_iff.trans ?_
  constructor
  · rintro ⟨found, middle, read, success⟩
    cases stray : found.firstStray? with
    | none =>
      rw [stray] at success
      obtain ⟨rfl, rfl⟩ := pure_eq_ok_iff.mp success
      exact ⟨read, stray⟩
    | some pin =>
      rw [stray] at success
      cases success
  · rintro ⟨read, none⟩
    exact ⟨result, after, read, by rw [none]; rfl⟩

end Reading

/-- The lines of a text are spelled by its symbols as the newlines part them. -/
theorem forall₂_splitOn_iff {lines : List Line} {symbols : List Symbol} :
    List.Forall₂ Line.Spelled lines (symbols.splitOn .newline) ↔
      ∃ pieces, pieces ≠ [] ∧ List.Forall₂ Line.Spelled lines pieces ∧ symbols = [.newline].intercalate pieces := by
  constructor
  · intro spelled
    exact ⟨_, List.splitOn_ne_nil _ _, spelled, (List.intercalate_splitOn _).symm⟩
  · rintro ⟨pieces, nonempty, spelled, rfl⟩
    rwa [List.splitOn_intercalate _ (fun piece member => ?_) nonempty]
    obtain ⟨index, bound, rfl⟩ := List.getElem_of_mem member
    exact (spelled.get (spelled.length_eq ▸ bound) bound).newline_notMem

/-- A text has a sketch exactly when its first symbol is found and the reader comes through from there. -/
theorem Sketch.ofText_eq_ok_iff_exists {text : String} {sketch : Sketch} :
    ofText text = .ok sketch ↔
      ∃ reader after, Reader.start text = .ok reader ∧ Reading.sketch reader = .ok sketch after := by
  constructor
  · intro success
    rw [ofText] at success
    split at success
    next => cases success
    next reader started =>
      split at success
      next found after read =>
        cases success
        exact ⟨reader, after, started, read⟩
      next => cases success
  · rintro ⟨reader, after, started, read⟩
    simp only [ofText, started, read]

/-- A text is read as a sketch exactly when its symbols, split at the line ends, spell consistent lines, and then
the sketch is what these mean. -/
theorem Sketch.ofText_eq_ok_iff {text : String} {sketch : Sketch} :
    ofText text = .ok sketch ↔
      ∃ symbols lines, (Scanner.start text).Reads symbols ∧
        List.Forall₂ Line.Spelled lines (symbols.splitOn .newline) ∧
        Line.Consistent lines ∧ Line.KeepToSpace lines ∧ sketch = ofLines lines := by
  have none : Line.Consistent [] := ⟨Nat.zero_le _, fun member => by cases member⟩
  rw [ofText_eq_ok_iff_exists]
  constructor
  · rintro ⟨reader, after, started, read⟩
    obtain ⟨looped, stray⟩ := Reading.sketch_eq_ok_iff.mp read
    obtain ⟨lines, pieces, nonempty, spelled, passed, ended, consistent, rfl⟩ :=
      Reading.spelled_of_lines none (Reader.start_onLine started) looped
    refine ⟨[.newline].intercalate pieces, lines, ?_, ?_, consistent, ?_, rfl⟩
    · exact (Scanner.reads_iff_passes (Reader.start_eq_ok_iff.mp started)).mpr ⟨after, passed, ended⟩
    · exact forall₂_splitOn_iff.mpr ⟨pieces, nonempty, spelled, rfl⟩
    · exact (firstStray?_ofLines_eq_none_iff consistent).mp stray
  · rintro ⟨symbols, lines, reads, spelled, consistent, keeps, rfl⟩
    obtain ⟨reader, started⟩ := Reader.exists_start_of_reads reads
    obtain ⟨after, passed, ended⟩ := (Scanner.reads_iff_passes (Reader.start_eq_ok_iff.mp started)).mp reads
    obtain ⟨pieces, -, apart, rfl⟩ := forall₂_splitOn_iff.mp spelled
    have looped := Reading.lines_of_spelled none (Reader.start_onLine started) apart passed ended consistent
    exact ⟨reader, after, started, Reading.sketch_eq_ok_iff.mpr
      ⟨looped, (firstStray?_ofLines_eq_none_iff consistent).mpr keeps⟩⟩

/-- The scanner finds the symbols that the characters of a text spell, and the text is a sketch exactly when these
symbols follow the grammar. -/
theorem Sketch.ofText_reads_grammar (text : String) (sketch : Sketch) :
    (∀ symbols, (Scanner.start text).Reads symbols ↔ Lexes text.toList symbols) ∧
      (ofText text = .ok sketch ↔
        ∃ symbols lines, (Scanner.start text).Reads symbols ∧
          List.Forall₂ Line.Spelled lines (symbols.splitOn .newline) ∧
          Line.Consistent lines ∧ Line.KeepToSpace lines ∧ sketch = ofLines lines) :=
  ⟨fun _ => Scanner.reads_iff_lexes, ofText_eq_ok_iff⟩

end Breadboard.Script
