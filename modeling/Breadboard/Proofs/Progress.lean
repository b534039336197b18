import Breadboard.Proofs.Settling

/-! # Progress of the scanner

A scanner that is asked again and again gets on, or it has come to rest: at the end of the text, where nothing but a gap
is left, or in front of a character that begins nothing. At rest it finds the same in the same place each time. All else
that it finds, errors included, leaves less to read (`Scanner.stepped_rest_lt`), so it comes to rest, or to an error
before that, within one call more than there are characters.

Main statement: `Scanner.proceeds`.
-/

namespace Breadboard.Script

/-- What a scanner finds where it does not get on. -/
inductive IsLast : Except ScanError Token → Prop where
  | endOfText (position : Position) : IsLast (.ok ⟨.endOfText, position⟩)
  | unexpected (c : Char) (position : Position) : IsLast (.error ⟨.unexpectedCharacter c, position⟩)

namespace Scanner

variable {scanner : Scanner}

/-- What a scanner finds is the lexeme behind the gap, at the position of its first character. -/
theorem found_eq (scanner : Scanner) :
    scanner.found = match (lexeme scanner.skipGap.rest).reading with
      | .ok symbol => .ok ⟨symbol, scanner.skipGap.position⟩
      | .error fault => .error ⟨fault, scanner.skipGap.position⟩ := by
  simp only [found, next]
  cases (lexeme scanner.skipGap.rest).reading <;> rfl

/-- What is found is the last thing exactly when no lexeme is taken. -/
theorem isLast_found_iff (scanner : Scanner) : IsLast scanner.found ↔ scanner.step.lexeme = [] := by
  rw [step, lexeme_chars_eq_nil_iff, found_eq]
  constructor
  · intro last
    split at last
    next symbol read =>
      cases last
      exact .inl read
    next fault read =>
      cases last
      exact .inr ⟨_, read⟩
  · rintro (read | ⟨c, read⟩) <;> rw [read]
    · exact .endOfText _
    · exact .unexpected c _

/-- Each call that finds something else leaves less to read. -/
theorem stepped_rest_lt (more : ¬IsLast scanner.found) : scanner.stepped.rest.length < scanner.rest.length := by
  have taken := List.length_pos_iff.mpr (mt scanner.isLast_found_iff.mpr more)
  have passed := congrArg List.length scanner.rest_eq
  rw [Step.chars, List.length_append, List.length_append] at passed
  omega

private theorem skipGap_skipGap (scanner : Scanner) : scanner.skipGap.skipGap = scanner.skipGap := by
  have none : leadingGap scanner.skipGap.rest = [] := (IsGap.done scanner.isGap_step.clear).leadingGap_eq
  rw [skipGap, none, skip_nil]

/-- Behind the last thing the same is found again. -/
theorem found_stepped (last : IsLast scanner.found) : scanner.stepped.found = scanner.found := by
  have front : scanner.stepped = scanner.skipGap := by
    rw [stepped_eq, show (lexeme scanner.skipGap.rest).chars = [] from scanner.isLast_found_iff.mp last, skip_nil]
  rw [front, found_eq, found_eq scanner, skipGap_skipGap]

private theorem steps_of_isLast (last : IsLast scanner.found) (count : Nat) :
    scanner.steps count = List.replicate count scanner.found := by
  induction count generalizing scanner with
  | zero => rfl
  | succ count ih =>
    have again := found_stepped last
    rw [steps_succ, ih (by rwa [again]), again, List.replicate_succ]

/-- The end of the text is found exactly where a gap is all that is left. -/
theorem found_endOfText_iff :
    (∃ position, scanner.found = .ok ⟨.endOfText, position⟩) ↔ IsGap scanner.rest [] := by
  constructor
  · rintro ⟨position, ended⟩
    have gap := scanner.isGap_step
    have whole := scanner.skipGap_rest_append
    rw [found_eq] at ended
    split at ended
    next symbol read =>
      cases ended
      rw [eq_nil_of_lexeme_endOfText read] at gap whole
      rw [List.append_nil] at whole
      rwa [← whole]
    next => cases ended
  · intro gap
    have all : leadingGap scanner.rest = scanner.rest := by simpa using gap.leadingGap_eq
    exact ⟨_, by rw [found, (next_of_gap all).1]⟩

/-- An unexpected character is not passed. -/
theorem rest_of_unexpected {c : Char} {position : Position}
    (failed : scanner.found = .error ⟨.unexpectedCharacter c, position⟩) : ∃ rest, scanner.stepped.rest = c :: rest := by
  have takes := scanner.takes_step
  have reading : scanner.step.reading = .error (.unexpectedCharacter c) := by
    rw [Step.reading, step, failed]
  rw [reading] at takes
  generalize scanner.step.lexeme = chars, scanner.stepped.rest = rest at takes
  cases takes with
  | unexpected alien => exact ⟨_, rfl⟩

private theorem steps_eq_map_found (scanner : Scanner) (count : Nat) :
    scanner.steps count = (List.range count).map fun call => (Scanner.stepped^[call] scanner).found := by
  induction count generalizing scanner with
  | zero => rfl
  | succ count ih =>
    rw [steps_succ, ih, List.range_succ_eq_map, List.map_cons, List.map_map]
    rfl

/-- What a call comes to, and the calls behind it. -/
structure Proceeds (scanner : Scanner) : Prop where
  /-- Each call has its answer, and begins where the one before it has left the scanner. -/
  answers : ∀ count, scanner.steps count = (List.range count).map fun call => (Scanner.stepped^[call] scanner).found
  endOfText_iff : (∃ position, scanner.found = .ok ⟨.endOfText, position⟩) ↔ IsGap scanner.rest []
  unexpected : ∀ c position, scanner.found = .error ⟨.unexpectedCharacter c, position⟩ →
    ∃ rest, scanner.stepped.rest = c :: rest
  settled : IsLast scanner.found → ∀ count, scanner.steps count = List.replicate count scanner.found
  progress : ¬IsLast scanner.found → scanner.stepped.rest.length < scanner.rest.length

/-- Every call takes text or is the last to find anything new. -/
theorem proceeds_of_any (scanner : Scanner) : scanner.Proceeds where
  answers := scanner.steps_eq_map_found
  endOfText_iff := found_endOfText_iff
  unexpected _ _ := rest_of_unexpected
  settled := steps_of_isLast
  progress := stepped_rest_lt

/-- So many tokens in a row, and then the end of the text or the first error. -/
structure Ends (scanner : Scanner) (front : List Token) (last : Except ScanError Token) : Prop where
  tokens : scanner.tokens = front.map .ok ++ [last]
  steps : scanner.steps (front.length + 1) = scanner.tokens
  more : ∀ token ∈ front, token.symbol ≠ .endOfText
  last : (∃ position, last = .ok ⟨.endOfText, position⟩) ∨ ∃ error, last = .error error
  bound : front.length ≤ scanner.rest.length

private theorem ends_of_any (scanner : Scanner) : ∃ front last, scanner.Ends front last := by
  induction scanner using tokens.induct with
  | case1 scanner error after failure =>
    have tokens := tokens_of_error failure
    refine ⟨[], .error error, tokens, ?_, List.forall_mem_nil _, .inr ⟨error, rfl⟩, Nat.zero_le _⟩
    rw [tokens, steps_succ, found, failure]
    rfl
  | case2 scanner token after success ended =>
    have tokens : scanner.tokens = [.ok token] := by rw [tokens_of_ok success, if_pos ended]
    refine ⟨[], .ok token, tokens, ?_, List.forall_mem_nil _, .inl ⟨token.position, ?_⟩, Nat.zero_le _⟩
    · rw [tokens, steps_succ, found, success]
      rfl
    · rw [← ended]
  | case3 scanner token after success more ih =>
    obtain ⟨front, last, ends⟩ := ih
    have tokens : scanner.tokens = .ok token :: after.tokens := by rw [tokens_of_ok success, if_neg more]
    refine ⟨token :: front, last, ?_, ?_, List.forall_mem_cons.mpr ⟨more, ends.more⟩, ends.last, ?_⟩
    · rw [tokens, ends.tokens, List.map_cons, List.cons_append]
    · have behind : scanner.stepped = after := by rw [stepped, success]
      rw [tokens, ← ends.steps, List.length_cons, steps_succ, behind, found, success]
    · exact Nat.lt_of_le_of_lt ends.bound (next_rest_lt success more)

/-- Whatever calls came before, a call takes something of the text, or it and all later ones find the same. The end of
the text or an error comes within one call more than there are characters. -/
theorem proceeds (text : String) :
    (∀ calls, (Scanner.stepped^[calls] (start text)).Proceeds) ∧
      ∃ front last, (start text).Ends front last ∧ (start text).tokens.length ≤ text.length + 1 := by
  refine ⟨fun calls => proceeds_of_any _, ?_⟩
  obtain ⟨front, last, ends⟩ := ends_of_any (start text)
  refine ⟨front, last, ends, ?_⟩
  have bound : front.length ≤ text.length := ends.bound.trans_eq String.length_toList
  simpa [ends.tokens] using bound

end Scanner

end Breadboard.Script
