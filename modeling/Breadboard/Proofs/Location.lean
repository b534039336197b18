import Breadboard.Proofs.Gaps
import Mathlib.Data.List.DropRight
import Mathlib.Logic.Function.Iterate

/-! # Gaps, lexemes and their places

However often a scanner is asked for the next token, errors and the end of the text included, what it passes is a row
of gaps and lexemes, and the text is that row and the rest in front of which the scanner stands. `IsGap` and `Takes`
say what is passed as a gap and as a lexeme without the functions that the scanner is made of, and `Position.behind`
counts lines and columns from the text alone.

What one step keeps is `Scanner.Follows`: the scanner stands where the text behind it ends, and not inside a word.
Main statement: `Scanner.steps_cover_text`.
-/

namespace Breadboard.Script

/-- The place behind a text: the line is counted by the line ends, the column by the characters behind the last one. -/
def Position.behind (text : List Char) : Position :=
  ⟨1 + text.count '\n', 1 + (text.rtakeWhile fun c => c ≠ '\n').length⟩

/-- A character that begins neither a gap nor a lexeme. -/
def BeginsNothing (c : Char) : Prop :=
  c ∉ [' ', '\t', '\r', '#', ';', '\n', '.', '=', '-', '+'] ∧ Text.isWordChar c = false

/-- A whole gap in front of a text: blanks, and a comment up to the end of its line. -/
inductive IsGap : List Char → List Char → Prop where
  | done {rest : List Char} (clear : ∀ c ∈ rest.head?, c ∉ [' ', '\t', '\r', '#', ';']) : IsGap [] rest
  | blank {c : Char} {gap rest : List Char} (known : c ∈ [' ', '\t', '\r']) (others : IsGap gap rest) :
      IsGap (c :: gap) rest
  | comment {c : Char} {body rest : List Char} (opens : c ∈ ['#', ';']) (inside : '\n' ∉ body)
      (ends : ∀ d ∈ rest.head?, d = '\n') : IsGap (c :: body) rest

/-- A lexeme in front of a text, and what it reads as. Where it ends in word characters, it has all of them. -/
inductive Takes : List Char → List Char → Except Fault Symbol → Prop where
  | symbol {symbol : Symbol} {chars rest : List Char} (spelled : symbol.Spelled chars)
      (ends : symbol.EndsBefore rest) : Takes chars rest (.ok symbol)
  | endOfText : Takes [] [] (.ok .endOfText)
  | bareDot {rest : List Char} (ends : ∀ c ∈ rest.head?, Text.isWordChar c = false) :
      Takes ['.'] rest (.error .bareDot)
  | bareSign {sign : Char} {word rest : List Char} (known : sign = '-' ∨ sign = '+')
      (wordChars : word.all Text.isWordChar = true) (other : Text.Numeral.isDigits word = false)
      (ends : ∀ c ∈ rest.head?, Text.isWordChar c = false) : Takes (sign :: word) rest (.error (.bareSign sign))
  | malformedNumber {word rest : List Char} (wordChars : word.all Text.isWordChar = true)
      (digit : ∃ c ∈ word.head?, c.isDigit = true) (other : word.all Char.isDigit = false)
      (ends : ∀ c ∈ rest.head?, Text.isWordChar c = false) :
      Takes word rest (.error (.malformedNumber (String.ofList word)))
  | unexpected {c : Char} {rest : List Char} (alien : BeginsNothing c) :
      Takes [] (c :: rest) (.error (.unexpectedCharacter c))

/-- No gap begins behind a gap. -/
theorem IsGap.clear {gap rest : List Char} (isGap : IsGap gap rest) :
    ∀ c ∈ rest.head?, c ∉ [' ', '\t', '\r', '#', ';'] := by
  induction isGap with
  | done clear => exact clear
  | blank known others ih => exact ih
  | comment opens inside ends =>
    intro c first
    rw [ends c first]
    decide

/-- No word begins before the seam of two texts and goes on behind it. -/
def Uncut (before rest : List Char) : Prop :=
  ∀ c ∈ before.getLast?, ∀ d ∈ rest.head?, Text.isWordChar c = true → Text.isWordChar d = false

/-! ## Places -/

private theorem Position.behind_concat (text : List Char) (c : Char) :
    behind (text ++ [c]) = (behind text).after c := by
  by_cases newline : c = '\n'
  · subst newline
    simp [behind, after, Nat.add_assoc]
  · simp [behind, after, newline, Nat.add_assoc]

private theorem Position.afterText_behind (before text : List Char) :
    (behind before).afterText text = behind (before ++ text) := by
  induction text generalizing before with
  | nil => rw [List.append_nil]; rfl
  | cons c rest ih =>
    refine (congrArg (afterText · rest) (behind_concat before c).symm).trans ?_
    rw [ih, List.append_assoc, List.singleton_append]

/-! ## Seams -/

private theorem Uncut.append {before middle rest : List Char} (first : Uncut before (middle ++ rest))
    (second : Uncut middle rest) : Uncut (before ++ middle) rest := by
  rcases List.eq_nil_or_concat middle with rfl | ⟨front, last, rfl⟩
  · simpa using first
  · intro c final
    rw [List.concat_eq_append, ← List.append_assoc, List.getLast?_concat] at final
    exact second c (by rwa [List.concat_eq_append, List.getLast?_concat])

private theorem uncut_nil (rest : List Char) : Uncut [] rest :=
  fun _ last => nomatch last

private theorem uncut_of_ends (chars : List Char) {rest : List Char}
    (ends : ∀ c ∈ rest.head?, Text.isWordChar c = false) : Uncut chars rest :=
  fun _ _ d first _ => ends d first

private theorem uncut_singleton {c : Char} (mark : Text.isWordChar c = false) (rest : List Char) : Uncut [c] rest := by
  intro d last _ _ wordChar
  cases last
  exact absurd wordChar (Bool.eq_false_iff.mp mark)

/-- A gap ends in a blank, or in a comment in front of a line end. -/
theorem IsGap.uncut {gap rest : List Char} (isGap : IsGap gap rest) : Uncut gap rest := by
  induction isGap with
  | done => exact uncut_nil _
  | @blank c gap rest known others ih =>
    have mark : Text.isWordChar c = false := by
      simp only [List.mem_cons, List.not_mem_nil, or_false] at known
      rcases known with rfl | rfl | rfl <;> decide
    exact Uncut.append (uncut_singleton mark _) ih
  | comment opens inside ends =>
    refine uncut_of_ends _ fun d first => ?_
    rw [ends d first]
    decide

private theorem Takes.uncut {chars rest : List Char} {reading : Except Fault Symbol}
    (takes : Takes chars rest reading) : Uncut chars rest := by
  cases takes with
  | symbol spelled ends =>
    cases spelled with
    | word | digits | signed | directive => exact uncut_of_ends _ ends
    | equals => exact uncut_singleton (by decide) _
    | newline => exact uncut_singleton (by decide) _
  | endOfText => exact uncut_nil _
  | unexpected => exact uncut_nil _
  | bareDot ends => exact uncut_of_ends _ ends
  | bareSign known wordChars other ends => exact uncut_of_ends _ ends
  | malformedNumber wordChars digit other ends => exact uncut_of_ends _ ends

/-! ## What the scanner skips and takes -/

private theorem isGap_leadingGap (text : List Char) :
    IsGap (leadingGap text) (text.drop (leadingGap text).length) := by
  induction text with
  | nil => exact .done fun c first => nomatch first
  | cons c rest ih =>
    by_cases opens : opensComment c = true
    · have comment : leadingGap (c :: rest) = c :: gapFrom true rest := by simp [leadingGap, gapFrom, opens]
      rw [comment]
      exact .comment (by simpa [opensComment] using opens) (newline_notMem_gapFrom true rest)
        (head_of_comment (.inl rfl))
    by_cases space : isSpace c = true
    · have blank : leadingGap (c :: rest) = c :: leadingGap rest := by simp [leadingGap, gapFrom, opens, space]
      rw [blank]
      exact .blank (by simpa [isSpace, or_assoc] using space) ih
    · have none : leadingGap (c :: rest) = [] := by simp [leadingGap, gapFrom, opens, space]
      rw [none]
      refine .done fun d first => ?_
      cases first
      simp_all [isSpace, opensComment]

/-- What reads as no symbol is taken as far as its word goes, or not at all. -/
theorem takes_of_fault {text : List Char} (clear : ∀ c ∈ text.head?, c ∉ [' ', '\t', '\r', '#', ';']) {fault : Fault}
    (read : (lexeme text).reading = .error fault) :
    Takes (lexeme text).chars (text.drop (lexeme text).chars.length) (.error fault) := by
  cases text with
  | nil => cases read
  | cons c rest =>
    have wordChars : (Text.leadingWord rest).all Text.isWordChar = true := List.all_takeWhile
    have ends := leadingWord_ends rest
    by_cases wordChar : Text.isWordChar c = true
    · rw [lexeme_of_isWordChar wordChar] at read ⊢
      dsimp only at read
      split at read
      next => cases read
      next other =>
        split at read
        next digit =>
          cases read
          exact .malformedNumber (by rw [List.all_cons, wordChar, wordChars]; rfl) ⟨c, rfl, digit⟩
            (Bool.eq_false_iff.mpr other) ends
        next => cases read
    · by_cases newline : c = '\n'
      · simp [lexeme, newline] at read
      by_cases equals : c = '='
      · simp [lexeme, equals] at read
      by_cases dot : c = '.'
      · subst dot
        by_cases bare : Text.leadingWord rest = []
        · rw [bare] at ends
          simp only [lexeme, bare] at read ⊢
          cases read
          exact .bareDot ends
        · simp [lexeme, bare] at read
      by_cases sign : c = '-' ∨ c = '+'
      · simp only [lexeme, newline, equals, dot, sign, if_true, if_false] at read ⊢
        split at read
        next other =>
          cases read
          exact .bareSign sign wordChars (by simpa [Text.Numeral.isDigits, or_iff_not_imp_left] using other) ends
        next => cases read
      · simp only [lexeme, newline, equals, dot, sign, wordChar, if_false] at read ⊢
        cases read
        exact .unexpected ⟨by simp_all, Bool.eq_false_iff.mpr wordChar⟩

/-- Behind a gap a lexeme is taken from the front of the text. -/
theorem takes_lexeme {text : List Char} (clear : ∀ c ∈ text.head?, c ∉ [' ', '\t', '\r', '#', ';']) :
    Takes (lexeme text).chars (text.drop (lexeme text).chars.length) (lexeme text).reading := by
  cases read : (lexeme text).reading with
  | ok symbol =>
    by_cases ended : symbol = .endOfText
    · rw [ended] at read ⊢
      rw [eq_nil_of_lexeme_endOfText read]
      exact .endOfText
    · obtain ⟨spelled, ends⟩ := spelled_lexeme read ended
      exact .symbol spelled ends
  | error fault => exact takes_of_fault clear read

/-- The text of a symbol is what it was read from. -/
theorem Takes.text_eq {chars rest : List Char} {symbol : Symbol} (takes : Takes chars rest (.ok symbol)) :
    symbol.text = String.ofList chars := by
  cases takes with
  | symbol spelled => cases spelled <;> rfl
  | endOfText => rfl

/-! ## Gaps and strays are told apart -/

private theorem gapFrom_comment {body rest : List Char} (inside : '\n' ∉ body) (ends : ∀ c ∈ rest.head?, c = '\n') :
    gapFrom true (body ++ rest) = body := by
  induction body with
  | nil =>
    cases rest with
    | nil => rfl
    | cons c rest =>
      obtain rfl := ends c rfl
      rfl
  | cons c body ih =>
    simp only [List.mem_cons, not_or] at inside
    simp [gapFrom, Ne.symm inside.1, ih inside.2]

/-- A gap is skipped to its end, and not beyond. -/
theorem IsGap.leadingGap_eq {gap rest : List Char} (isGap : IsGap gap rest) : leadingGap (gap ++ rest) = gap := by
  induction isGap with
  | @done rest clear =>
    cases rest with
    | nil => rfl
    | cons c rest =>
      have other := clear c rfl
      simp only [List.mem_cons, List.not_mem_nil, or_false, not_or] at other
      simp [leadingGap, gapFrom, isSpace, opensComment, other]
  | @blank c gap rest known others ih =>
    simp only [List.mem_cons, List.not_mem_nil, or_false] at known
    rcases known with rfl | rfl | rfl <;> exact congrArg (List.cons _) ih
  | @comment c body rest opens inside ends =>
    simp only [List.mem_cons, List.not_mem_nil, or_false] at opens
    rcases opens with rfl | rfl <;> exact congrArg (List.cons _) (gapFrom_comment inside ends)

/-- A character that begins no symbol is refused, and takes no text with it. -/
theorem BeginsNothing.lexeme_eq {c : Char} (alien : BeginsNothing c) (rest : List Char) :
    lexeme (c :: rest) = ⟨[], .error (.unexpectedCharacter c)⟩ := by
  obtain ⟨unmarked, notWord⟩ := alien
  simp only [List.mem_cons, List.not_mem_nil, or_false, not_or] at unmarked
  simp [lexeme, unmarked, notWord]

/-! ## Steps -/

namespace Scanner

/-- What one step passes, and what it gives. -/
structure Step where
  gap : List Char
  lexeme : List Char
  found : Except ScanError Token

namespace Step

def chars (step : Step) : List Char :=
  step.gap ++ step.lexeme

def reading (step : Step) : Except Fault Symbol :=
  match step.found with
  | .ok token => .ok token.symbol
  | .error error => .error error.fault

def position (step : Step) : Position :=
  match step.found with
  | .ok token => token.position
  | .error error => error.position

/-- The step passes a gap and a lexeme between the text before it and the text behind it, and says where. -/
structure Fits (before : List Char) (step : Step) (rest : List Char) : Prop where
  gap : IsGap step.gap (step.lexeme ++ rest)
  lexeme : Takes step.lexeme rest step.reading
  text : ∀ token, step.found = .ok token → token.symbol.text = String.ofList step.lexeme
  position : step.position = .behind (before ++ step.gap)
  uncut : Uncut (before ++ step.gap) (step.lexeme ++ rest)

end Step

/-- Where the scanner stands after a step, whatever the step gives. -/
def stepped (scanner : Scanner) : Scanner :=
  match scanner.next with
  | .ok _ after => after
  | .error _ after => after

/-- What a step gives, wherever the scanner stands then. -/
def found (scanner : Scanner) : Except ScanError Token :=
  match scanner.next with
  | .ok token _ => .ok token
  | .error error _ => .error error

def step (scanner : Scanner) : Step :=
  ⟨leadingGap scanner.rest, (Script.lexeme scanner.skipGap.rest).chars, scanner.found⟩

/-- The next so many steps. -/
def row (scanner : Scanner) : Nat → List Step
  | 0 => []
  | count + 1 => scanner.step :: scanner.stepped.row count

/-- The steps of a row fit between the text before them and the text behind them. -/
structure Covers (text : String) (steps : List Step) (last : Scanner) : Prop where
  text : text.toList = steps.flatMap Step.chars ++ last.rest
  fits : ∀ earlier step later, steps = earlier ++ step :: later →
    step.Fits (earlier.flatMap Step.chars) (later.flatMap Step.chars ++ last.rest)
  position : last.position = .behind (steps.flatMap Step.chars)

/-- The scanner stands where the text behind it ends, and not inside a word. -/
structure Follows (scanner : Scanner) (before : List Char) : Prop where
  position : scanner.position = .behind before
  uncut : Uncut before scanner.rest

variable {scanner : Scanner} {before : List Char}

/-- A call leaves the scanner behind the gap and the lexeme that it takes. -/
theorem stepped_eq (scanner : Scanner) :
    scanner.stepped = scanner.skipGap.skip (Script.lexeme scanner.skipGap.rest).chars := by
  simp only [stepped, next]
  cases (Script.lexeme scanner.skipGap.rest).reading <;> rfl

/-- A call reads the lexeme behind the gap. -/
theorem step_reading (scanner : Scanner) : scanner.step.reading = (Script.lexeme scanner.skipGap.rest).reading := by
  simp only [Step.reading, step, found, next]
  cases (Script.lexeme scanner.skipGap.rest).reading <;> rfl

/-- A call answers with the position behind the gap. -/
theorem step_position (scanner : Scanner) : scanner.step.position = scanner.skipGap.position := by
  simp only [Step.position, step, found, next]
  cases (Script.lexeme scanner.skipGap.rest).reading <;> rfl

/-- The first of some calls finds its token, and the others go on behind it. -/
theorem steps_succ (scanner : Scanner) (count : Nat) :
    scanner.steps (count + 1) = scanner.found :: scanner.stepped.steps count := by
  simp only [steps, found, stepped]
  cases scanner.next <;> rfl

private theorem length_row (scanner : Scanner) (count : Nat) : (scanner.row count).length = count := by
  induction count generalizing scanner with
  | zero => rfl
  | succ count ih => exact congrArg (· + 1) (ih scanner.stepped)

/-- The answers to some calls are what the steps along the text find. -/
theorem steps_eq_row (scanner : Scanner) (count : Nat) : scanner.steps count = (scanner.row count).map Step.found := by
  induction count generalizing scanner with
  | zero => rfl
  | succ count ih => rw [steps_succ, ih]; rfl

/-- A step passes a part of the text. -/
theorem rest_eq (scanner : Scanner) : scanner.rest = scanner.step.chars ++ scanner.stepped.rest := by
  rw [stepped_eq, Step.chars, List.append_assoc]
  exact (next_rest_append scanner).symm

/-- What a call skips is a gap. -/
theorem isGap_step (scanner : Scanner) : IsGap scanner.step.gap scanner.skipGap.rest :=
  isGap_leadingGap scanner.rest

private theorem skipGap_rest_eq (scanner : Scanner) :
    scanner.skipGap.rest = scanner.step.lexeme ++ scanner.stepped.rest := by
  rw [stepped_eq]
  exact (lexeme_append_drop scanner.skipGap.rest).symm

/-- What a call reads is the lexeme that the rest of the text begins with. -/
theorem takes_step (scanner : Scanner) : Takes scanner.step.lexeme scanner.stepped.rest scanner.step.reading := by
  rw [step_reading, stepped_eq]
  exact takes_lexeme scanner.isGap_step.clear

private theorem Follows.fits (follows : scanner.Follows before) : scanner.step.Fits before scanner.stepped.rest where
  gap := by
    rw [← skipGap_rest_eq]
    exact isGap_step scanner
  lexeme := takes_step scanner
  text token found := by
    have takes := takes_step scanner
    rw [Step.reading, found] at takes
    exact takes.text_eq
  position := by
    rw [step_position, ← Position.afterText_behind, ← follows.position]
    rfl
  uncut := by
    rw [← skipGap_rest_eq]
    refine Uncut.append ?_ scanner.isGap_step.uncut
    have whole := follows.uncut
    rwa [← skipGap_rest_append scanner] at whole

/-- A step leaves the scanner where the text that it has passed ends, and again not inside a word. -/
theorem Follows.stepped (follows : scanner.Follows before) :
    scanner.stepped.Follows (before ++ scanner.step.chars) where
  position := by
    rw [← Position.afterText_behind, ← follows.position, stepped_eq]
    exact List.foldl_append.symm
  uncut := by
    rw [Step.chars, ← List.append_assoc]
    exact follows.fits.uncut.append (takes_step scanner).uncut

private theorem Follows.row (follows : scanner.Follows before) (count : Nat) :
    scanner.rest = (scanner.row count).flatMap Step.chars ++ (Scanner.stepped^[count] scanner).rest ∧
      (Scanner.stepped^[count] scanner).Follows (before ++ (scanner.row count).flatMap Step.chars) ∧
      ∀ earlier step later, scanner.row count = earlier ++ step :: later →
        step.Fits (before ++ earlier.flatMap Step.chars)
          (later.flatMap Step.chars ++ (Scanner.stepped^[count] scanner).rest) := by
  induction count generalizing scanner before with
  | zero =>
    refine ⟨rfl, by simpa [Scanner.row] using follows, fun earlier step later split => ?_⟩
    cases earlier <;> cases split
  | succ count ih =>
    obtain ⟨whole, last, fits⟩ := ih follows.stepped
    rw [Function.iterate_succ_apply, Scanner.row, List.flatMap_cons]
    refine ⟨?_, by rwa [← List.append_assoc], fun earlier step later split => ?_⟩
    · rw [List.append_assoc, ← whole]
      exact rest_eq scanner
    · cases earlier with
      | nil =>
        cases split
        rw [List.flatMap_nil, List.append_nil, ← whole]
        exact follows.fits
      | cons first earlier =>
        obtain ⟨rfl, others⟩ := List.cons.inj split
        rw [List.flatMap_cons, ← List.append_assoc]
        exact fits earlier step later others

private theorem follows_start (text : String) : (start text).Follows [] where
  position := rfl
  uncut := uncut_nil _

/-- However many steps a scanner takes, it passes gaps and lexemes one behind the other, says where each lexeme stands,
and stands in front of the rest. -/
theorem steps_cover_text (text : String) (count : Nat) :
    ∃ steps, (start text).steps count = steps.map Step.found ∧ steps.length = count ∧
      Covers text steps (Scanner.stepped^[count] (start text)) := by
  obtain ⟨whole, last, fits⟩ := (follows_start text).row count
  exact ⟨(start text).row count, steps_eq_row _ _, length_row _ _, whole, fits, last.position⟩

end Scanner

end Breadboard.Script
