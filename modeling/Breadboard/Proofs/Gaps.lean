import Breadboard.Proofs.LineByLine

/-! # What stands between the symbols

A gap holds blanks and comments, and a sketch is read without regard to either. Two texts with the same symbols in the
same lines are followed by two scanners: their columns differ, where a comment or some blanks more stand in between,
but no column is recorded except for a fault, and no fault stands behind a comment in its line. Main statement:
`Sketch.ofText_of_gaps`.
-/

namespace Breadboard.Script

private theorem leadingGap_eq_nil_iff {text : List Char} :
    leadingGap text = [] ↔ ∀ c ∈ text.head?, isSpace c = false ∧ opensComment c = false := by
  cases text with
  | nil => simp [leadingGap, gapFrom]
  | cons c rest => cases isSpace c <;> cases opens : opensComment c <;> simp_all [leadingGap, gapFrom]

/-- No gap begins behind a gap. -/
theorem leadingGap_drop_gapFrom (commenting : Bool) (text : List Char) :
    leadingGap (text.drop (gapFrom commenting text).length) = [] := by
  induction text generalizing commenting with
  | nil => rfl
  | cons c rest ih =>
    simp only [gapFrom]
    split
    next => exact ih _
    next outside =>
      simp only [Bool.or_eq_true, not_or, Bool.not_eq_true] at outside
      exact leadingGap_eq_nil_iff.mpr fun d first => Option.some.inj first ▸ outside.1

private theorem gapFrom_append {commenting : Bool} {gap : List Char} (isGap : gapFrom commenting gap = gap)
    (rest : List Char) :
    gapFrom commenting (gap ++ rest) = gap ++ gapFrom (commenting || gap.any opensComment) rest := by
  induction gap generalizing commenting with
  | nil => simp
  | cons c gap ih =>
    simp only [gapFrom] at isGap
    split at isGap
    next inGap =>
      simp only [List.cons_append, gapFrom, inGap, if_true, ih (List.cons.inj isGap).2, List.any_cons, Bool.or_assoc]
    next => cases isGap

private theorem gapFrom_of_blank {blanks : List Char} (blank : ∀ c ∈ blanks, isSpace c = true) :
    gapFrom false blanks = blanks ∧ blanks.any opensComment = false := by
  induction blanks with
  | nil => exact ⟨rfl, rfl⟩
  | cons c blanks ih =>
    obtain ⟨space, blank⟩ := List.forall_mem_cons.mp blank
    have plain : opensComment c = false := by
      simp only [isSpace, Bool.or_eq_true, beq_iff_eq] at space
      rcases space with (rfl | rfl) | rfl <;> rfl
    obtain ⟨isGap, clear⟩ := ih blank
    simp only [gapFrom, space, plain, Bool.true_or, Bool.or_false, if_true, isGap, List.any_cons, clear, and_self]

/-! ## Comments -/

/-- The text without its comments, each of which runs to the end of its line. -/
def withoutComments (text : String) : String :=
  .ofList (['\n'].intercalate ((text.toList.splitOn '\n').map fun line => line.takeWhile fun c => !opensComment c))

/-- The text without its comments, given whether one is open before it. -/
def uncommented (commenting : Bool) : List Char → List Char
  | [] => []
  | c :: rest =>
    if c = '\n' then c :: uncommented false rest
    else if commenting || opensComment c then uncommented true rest
    else c :: uncommented false rest

private theorem uncommented_eq (text : List Char) :
    uncommented false text =
        ['\n'].intercalate ((text.splitOn '\n').map fun line => line.takeWhile fun c => !opensComment c) ∧
      uncommented true text =
        ['\n'].intercalate ([] :: (text.splitOn '\n').tail.map fun line => line.takeWhile fun c => !opensComment c) := by
  induction text with
  | nil => exact ⟨rfl, rfl⟩
  | cons c rest ih =>
    obtain ⟨line, lines, split⟩ := List.exists_cons_of_ne_nil (List.splitOnP_ne_nil (· == '\n') rest)
    simp only [List.splitOn_eq_splitOnP, split, List.splitOnP_cons_eq_if_modifyHead, uncommented] at ih ⊢
    by_cases newline : c = '\n'
    · simp [newline, ih, List.intercalate_cons_cons]
    cases opens : opensComment c with
    | true => simp [newline, opens, ih]
    | false => simp [newline, opens, ih]

/-- The characters of a text without its comments, as a walk over the text keeps them. -/
theorem toList_withoutComments (text : String) : (withoutComments text).toList = uncommented false text.toList := by
  rw [withoutComments, String.toList_ofList, (uncommented_eq _).1]

/-- Nothing is changed in a text that holds no line end and opens no comment. -/
theorem uncommented_append {front : List Char} (clear : ∀ c ∈ front, c ≠ '\n' ∧ opensComment c = false)
    (rest : List Char) : uncommented false (front ++ rest) = front ++ uncommented false rest := by
  induction front with
  | nil => rfl
  | cons c front ih =>
    obtain ⟨⟨inLine, plain⟩, clear⟩ := List.forall_mem_cons.mp clear
    simp only [List.cons_append, uncommented, inLine, plain, if_false, Bool.or_false, Bool.false_eq_true, ih clear]

/-- A gap is left with its blanks before the comment, and behind it no comment is open. -/
theorem uncommented_gapFrom (commenting : Bool) (text : List Char) :
    uncommented commenting text =
        uncommented commenting (gapFrom commenting text) ++
          uncommented false (text.drop (gapFrom commenting text).length) ∧
      ∀ c ∈ uncommented commenting (gapFrom commenting text), isSpace c = true := by
  induction text generalizing commenting with
  | nil => simp [gapFrom, uncommented]
  | cons c rest ih =>
    simp only [gapFrom]
    split
    next inGap =>
      obtain ⟨split, blank⟩ := ih (commenting || opensComment c)
      have inLine : c ≠ '\n' := by
        rintro rfl
        simp [isSpace, opensComment] at inGap
      simp only [uncommented, inLine, if_false, List.length_cons, List.drop_succ_cons]
      cases comment : commenting || opensComment c with
      | true =>
        rw [comment] at split blank
        simp only [if_true]
        exact ⟨split, blank⟩
      | false =>
        rw [comment] at split blank
        obtain ⟨rfl, plain⟩ := Bool.or_eq_false_iff.mp comment
        have space : isSpace c = true := by simpa [plain] using inGap
        simp only [Bool.false_eq_true, if_false, List.cons_append, split, List.forall_mem_cons, true_and]
        exact ⟨space, blank⟩
    next outside =>
      refine ⟨?_, by simp [uncommented]⟩
      simp only [Bool.or_eq_true, Bool.and_eq_true, bne_iff_ne, not_or, not_and, not_not] at outside
      obtain ⟨⟨-, plain⟩, commented⟩ := outside
      cases commenting with
      | false => rfl
      | true =>
        rw [commented rfl]
        rfl

/-- Behind a comment there is the end of its line, or of the text. -/
theorem head_of_comment {commenting : Bool} {text : List Char}
    (comment : commenting = true ∨ ∃ c ∈ gapFrom commenting text, opensComment c = true) :
    ∀ c ∈ (text.drop (gapFrom commenting text).length).head?, c = '\n' := by
  induction text generalizing commenting with
  | nil => simp
  | cons c rest ih =>
    simp only [gapFrom]
    split
    next inGap =>
      refine ih ?_
      simp only [gapFrom, inGap, if_true, List.mem_cons, exists_eq_or_imp] at comment
      simp only [Bool.or_eq_true]
      tauto
    next outside =>
      simp only [gapFrom, outside] at comment
      simp at outside comment ⊢
      exact outside.2 comment

private theorem clear_of_isWordChar {c : Char} (wordChar : Text.isWordChar c = true) :
    c ≠ '\n' ∧ opensComment c = false := by
  refine ⟨(not_mark_of_isWordChar wordChar).1, Bool.eq_false_iff.mpr fun opens => ?_⟩
  simp only [opensComment, Bool.or_eq_true, beq_iff_eq] at opens
  rcases opens with rfl | rfl <;> exact absurd wordChar (by decide)

/-- A comment ends a word. -/
theorem leadingWord_uncommented (text : List Char) :
    Text.leadingWord (uncommented false text) = Text.leadingWord text ∧
      Text.leadingWord (uncommented true text) = [] := by
  induction text with
  | nil => exact ⟨rfl, rfl⟩
  | cons c rest ih =>
    have newline : Text.isWordChar '\n' = false := by decide
    by_cases inLine : c = '\n'
    · simp [Text.leadingWord, uncommented, inLine, newline]
    simp only [Text.leadingWord] at ih
    cases opens : opensComment c with
    | true =>
      have inWord : Text.isWordChar c = false :=
        Bool.eq_false_iff.mpr fun wordChar => by simp [(clear_of_isWordChar wordChar).2] at opens
      simp [Text.leadingWord, uncommented, inLine, opens, inWord, ih]
    | false => simp [Text.leadingWord, uncommented, inLine, opens, List.takeWhile_cons, ih]

private theorem mem_lexeme_chars {c d : Char} {rest : List Char} (member : d ∈ (lexeme (c :: rest)).chars) :
    d = c ∨ d ∈ Text.leadingWord rest := by
  simp only [lexeme] at member
  repeat' split at member
  all_goals simp_all

/-- What begins behind a gap is the same lexeme without the comments, and there are none in it. -/
theorem lexeme_uncommented {text : List Char} (outside : ∀ c ∈ text.head?, opensComment c = false) :
    lexeme (uncommented false text) = lexeme text ∧
      (uncommented false text).drop (lexeme text).chars.length =
        uncommented false (text.drop (lexeme text).chars.length) := by
  cases text with
  | nil => exact ⟨rfl, rfl⟩
  | cons c rest =>
    have plain := outside c rfl
    by_cases newline : c = '\n'
    · subst newline
      exact ⟨rfl, rfl⟩
    have clear : ∀ d ∈ (lexeme (c :: rest)).chars, d ≠ '\n' ∧ opensComment d = false := by
      intro d member
      rcases mem_lexeme_chars member with rfl | inWord
      · exact ⟨newline, plain⟩
      · exact clear_of_isWordChar (Text.leadingWord_isWordChar inWord)
    have same : uncommented false (c :: rest) = c :: uncommented false rest := by
      simp only [uncommented, newline, plain, if_false, Bool.or_false, Bool.false_eq_true]
    refine ⟨by rw [same, lexeme, lexeme, (leadingWord_uncommented rest).1], ?_⟩
    have split := uncommented_append clear ((c :: rest).drop (lexeme (c :: rest)).chars.length)
    rw [lexeme_append_drop] at split
    rw [split, List.drop_left]

private theorem leadingGap_uncommented_eq_nil {text : List Char} (outside : leadingGap text = []) :
    leadingGap (uncommented false text) = [] := by
  cases text with
  | nil => rfl
  | cons c rest =>
    obtain ⟨space, plain⟩ := leadingGap_eq_nil_iff.mp outside c rfl
    refine leadingGap_eq_nil_iff.mpr fun d first => ?_
    have same : d = c := by
      simp only [uncommented, plain, Bool.or_false, Bool.false_eq_true, if_false] at first
      split at first <;> exact (Option.some.inj first).symm
    exact same ▸ ⟨space, plain⟩

/-- The gap in front of a text without comments is what they leave of the gap there. -/
theorem leadingGap_uncommented (text : List Char) :
    leadingGap (uncommented false text) = uncommented false (leadingGap text) := by
  obtain ⟨split, blank⟩ := uncommented_gapFrom false text
  obtain ⟨isGap, plain⟩ := gapFrom_of_blank blank
  have behind := leadingGap_uncommented_eq_nil (leadingGap_drop_gapFrom false text)
  rw [split, leadingGap, gapFrom_append isGap, plain]
  exact (congrArg _ behind).trans (List.append_nil _)

namespace Scanner

/-- A scanner at the same place in the text without comments. Only at the end of the text it may stand in another
column. -/
structure Uncommented (scanner other : Scanner) : Prop where
  rest : other.rest = uncommented false scanner.rest
  position : other.position = scanner.position ∨
    scanner.rest = [] ∧ other.position.line = scanner.position.line

/-- Behind the gap both scanners stand in one column, unless a comment has ended there. -/
theorem Uncommented.skipGap {scanner other : Scanner} (same : scanner.Uncommented other) :
    other.skipGap.rest = uncommented false scanner.skipGap.rest ∧
      other.skipGap.position.line = scanner.skipGap.position.line ∧
      ∀ c ∈ scanner.skipGap.rest.head?, c ≠ '\n' → other.skipGap.position = scanner.skipGap.position := by
  obtain ⟨rest, position⟩ := same
  obtain ⟨split, -⟩ := uncommented_gapFrom false scanner.rest
  refine ⟨?_, ?_, fun c first inLine => ?_⟩
  · rw [Scanner.skipGap, Scanner.skip, rest, leadingGap_uncommented, split]
    exact List.drop_left
  · rw [skipGap_line, skipGap_line]
    rcases position with same | ⟨-, line⟩
    · rw [same]
    · exact line
  · have nonempty : scanner.rest ≠ [] := by
      intro empty
      simp [Scanner.skipGap, Scanner.skip, empty] at first
    have clear : ∀ d ∈ leadingGap scanner.rest, d ≠ '\n' ∧ opensComment d = false := by
      intro d member
      refine ⟨fun newline => newline_notMem_gapFrom false scanner.rest (newline ▸ member), ?_⟩
      exact Bool.eq_false_iff.mpr fun opens => inLine (head_of_comment (.inr ⟨d, member, opens⟩) c first)
    have gap : uncommented false (leadingGap scanner.rest) = leadingGap scanner.rest := by
      simpa [uncommented] using uncommented_append clear []
    have kept := position.resolve_right fun ended => nonempty ended.1
    rw [Scanner.skipGap, Scanner.skipGap, Scanner.skip, Scanner.skip, rest, leadingGap_uncommented, gap, kept]

/-- Scanners of a text with and without its comments stay in step. -/
theorem inStep_uncommented : InStep 0 Uncommented := by
  intro scanner other same
  obtain ⟨rest, line, column⟩ := same.skipGap
  have outside : ∀ c ∈ scanner.skipGap.rest.head?, opensComment c = false := fun c first =>
    (leadingGap_eq_nil_iff.mp (leadingGap_drop_gapFrom false scanner.rest) c first).2
  obtain ⟨found, behind⟩ := lexeme_uncommented outside
  simp only [next, rest, found]
  cases read : (lexeme scanner.skipGap.rest).reading with
  | ok symbol =>
    refine .ok ⟨rfl, line⟩ ⟨?_, ?_⟩
    · rw [skip, rest]
      exact behind
    · -- The columns meet again at the end of the line.
      cases text : scanner.skipGap.rest with
      | nil => exact .inr ⟨by simp [skip, text], line⟩
      | cons c tail =>
        by_cases newline : c = '\n'
        · subst newline
          have taken : (lexeme ('\n' :: tail)).chars = ['\n'] := rfl
          refine .inl ?_
          simp only [skip, taken, Position.afterText, List.foldl_cons, List.foldl_nil, Position.after, if_true, line]
        · have same := column c (by rw [text]; rfl) newline
          exact .inl (by rw [skip, skip, same])
  | error fault =>
    have same : other.skipGap.position = scanner.skipGap.position := by
      cases text : scanner.skipGap.rest with
      | nil =>
        rw [text] at read
        cases read
      | cons c tail =>
        refine column c (by rw [text]; rfl) ?_
        rintro rfl
        rw [text] at read
        cases read
    rw [same]
    exact Agree.error (ScanError.mk fault _)

end Scanner

/-! ## More blanks -/

/-- The text with blanks put in anywhere. -/
inductive Padded : List Char → List Char → Prop where
  | nil : Padded [] []
  | keep {text padded : List Char} (c : Char) (others : Padded text padded) : Padded (c :: text) (c :: padded)
  | insert {text padded : List Char} {c : Char} (blank : isSpace c = true) (others : Padded text padded) :
      Padded text (c :: padded)

private theorem Padded.refl (text : List Char) : Padded text text := by
  induction text with
  | nil => exact .nil
  | cons c rest ih => exact .keep c ih

/-- The text of some symbols with blanks put into the gaps, in front of a symbol or behind the last one. -/
inductive Loosened : List Char → List Char → Prop where
  | finish {text padded : List Char} (gap : leadingGap text = text) (blanks : Padded text padded) :
      Loosened text padded
  | symbol {text gap chars rest padded : List Char} {symbol : Symbol}
      (front : text = leadingGap text ++ (chars ++ rest)) (spelled : symbol.Spelled chars)
      (ends : symbol.EndsBefore rest) (blanks : Padded (leadingGap text) gap) (others : Loosened rest padded) :
      Loosened text (gap ++ (chars ++ padded))

private theorem Loosened.lexes {text padded : List Char} (loosened : Loosened text padded) :
    ∃ symbols, Lexes text symbols := by
  induction loosened with
  | finish gap => exact ⟨[], .finish gap⟩
  | @symbol _ _ _ _ _ symbol front spelled ends blanks others ih =>
    obtain ⟨symbols, lexes⟩ := ih
    exact ⟨symbol :: symbols, .symbol front spelled ends lexes⟩

/-- The texts that blanks can be put into are those that are scanned to their end. -/
theorem loosened_self_iff {text : List Char} : Loosened text text ↔ ∃ symbols, Lexes text symbols := by
  refine ⟨Loosened.lexes, ?_⟩
  rintro ⟨symbols, lexes⟩
  induction lexes with
  | finish gap => exact .finish gap (.refl _)
  | symbol front spelled ends others ih =>
    have whole := Loosened.symbol front spelled ends (.refl _) ih
    rwa [← front] at whole

private theorem Padded.gapFrom {gap padded : List Char} (blanks : Padded gap padded) {commenting : Bool}
    (isGap : gapFrom commenting gap = gap) :
    Script.gapFrom commenting padded = padded ∧ padded.any opensComment = gap.any opensComment := by
  induction blanks generalizing commenting with
  | nil => exact ⟨rfl, rfl⟩
  | @keep text padded c others ih =>
    simp only [Script.gapFrom] at isGap ⊢
    split at isGap
    next inGap =>
      obtain ⟨stays, opens⟩ := ih (List.cons.inj isGap).2
      simp only [inGap, if_true, stays, List.any_cons, opens, and_self]
    next => cases isGap
  | @insert text padded c blank others ih =>
    obtain ⟨-, plain⟩ := gapFrom_of_blank (List.forall_mem_singleton.mpr blank)
    simp only [List.any_cons, List.any_nil, Bool.or_false] at plain
    obtain ⟨stays, opens⟩ := ih isGap
    simp only [Script.gapFrom, blank, plain, Bool.true_or, Bool.or_false, if_true, stays, List.any_cons, opens,
      Bool.false_or, and_self]

private theorem Padded.head {text padded : List Char} (blanks : Padded text padded) :
    ∀ c ∈ padded.head?, isSpace c = true ∨ c ∈ text.head? := by
  rintro c first
  cases blanks with
  | nil => cases first
  | keep => exact .inr first
  | insert blank => exact .inl (Option.some.inj first ▸ blank)

private theorem Symbol.Spelled.exists_cons {symbol : Symbol} {chars : List Char} (spelled : symbol.Spelled chars) :
    ∃ c rest, chars = c :: rest := by
  refine List.exists_cons_of_ne_nil ?_
  cases spelled with
  | word identifier =>
    rintro rfl
    simp [IsIdentifier] at identifier
  | digits digits =>
    rintro rfl
    simp [Text.Numeral.isDigits] at digits
  | _ => exact List.cons_ne_nil _ _

namespace Loosened

variable {text padded : List Char}

private theorem head (loosened : Loosened text padded) : ∀ c ∈ padded.head?, isSpace c = true ∨ c ∈ text.head? := by
  intro c first
  cases loosened with
  | finish gap blanks => exact blanks.head c first
  | @symbol _ gap chars rest padded symbol front spelled ends blanks others =>
    cases gap with
    | cons d gap =>
      refine (blanks.head c first).imp_right fun here => ?_
      rw [front, List.head?_append]
      simp [Option.mem_def.mp here]
    | nil =>
      have none : leadingGap text = [] := by
        generalize leadingGap text = gap at blanks
        cases blanks
        rfl
      obtain ⟨d, tail, rfl⟩ := spelled.exists_cons
      rw [front, none]
      exact .inr first

private theorem endsBefore {symbol : Symbol} (loosened : Loosened text padded) (ends : symbol.EndsBefore text) :
    symbol.EndsBefore padded := by
  have clear (ends : ∀ c ∈ text.head?, Text.isWordChar c = false) :
      ∀ c ∈ padded.head?, Text.isWordChar c = false := by
    intro c first
    rcases loosened.head c first with blank | same
    · simp only [isSpace, Bool.or_eq_true, beq_iff_eq] at blank
      rcases blank with (rfl | rfl) | rfl <;> decide
    · exact ends c same
  cases symbol with
  | word | number | directive => exact clear ends
  | equals | newline | endOfText => trivial

end Loosened

private theorem gapFrom_gapFrom (commenting : Bool) (text : List Char) :
    gapFrom commenting (gapFrom commenting text) = gapFrom commenting text := by
  induction text generalizing commenting with
  | nil => rfl
  | cons c rest ih =>
    simp only [gapFrom]
    split
    next inGap => simp only [gapFrom, inGap, if_true, ih]
    next => rfl

/-- The gap in front of a symbol is a gap with more blanks in it too. -/
theorem Padded.leadingGap {text gap chars rest : List Char} {symbol : Symbol}
    (front : text = leadingGap text ++ (chars ++ rest)) (spelled : symbol.Spelled chars)
    (blanks : Padded (leadingGap text) gap) (padded : List Char) :
    Script.leadingGap (gap ++ (chars ++ padded)) = gap := by
  have isGap : Script.gapFrom false (Script.leadingGap text) = Script.leadingGap text := gapFrom_gapFrom false text
  obtain ⟨stays, opens⟩ := blanks.gapFrom isGap
  have whole := gapFrom_append isGap (chars ++ rest)
  rw [← front] at whole
  obtain ⟨c, tail, rfl⟩ := spelled.exists_cons
  have outside := List.append_right_eq_self.mp whole.symm
  rw [Script.leadingGap, gapFrom_append stays, opens]
  simp only [List.cons_append, Script.gapFrom] at outside ⊢
  split at outside
  next => cases outside
  next inWord => rw [if_neg inWord, List.append_nil]

namespace Scanner

/-- Scanners of texts that differ in gaps stay in step, each on the same line as the other. -/
theorem inStep_loosened : InStep 0 fun scanner other =>
    Loosened scanner.rest other.rest ∧ other.position.line = scanner.position.line := by
  rintro scanner other ⟨loosened, line⟩
  have agree {token twin : Token} {after behind : Scanner} (success : scanner.next = .ok token after)
      (same : other.next = .ok twin behind) (symbol : twin.symbol = token.symbol)
      (others : Loosened after.rest behind.rest) :
      Agree (ScanError.down 0) (fun scanner other =>
        Loosened scanner.rest other.rest ∧ other.position.line = scanner.position.line) (Token.Below 0)
        scanner.next other.next := by
    obtain ⟨here, last⟩ := line_of_next success
    obtain ⟨twinHere, twinLast⟩ := line_of_next same
    rw [success, same]
    exact .ok ⟨symbol, by omega⟩ ⟨others, by rw [twinLast, last, twinHere, here, symbol, line]⟩
  generalize text_eq : scanner.rest = text at loosened
  generalize padded_eq : other.rest = padded at loosened
  cases loosened with
  | finish gap blanks =>
    subst text_eq padded_eq
    obtain ⟨success, behind⟩ := next_of_gap gap
    obtain ⟨same, last⟩ := next_of_gap (blanks.gapFrom gap).1
    exact agree success same rfl (by rw [behind, last]; exact .finish rfl .nil)
  | @symbol _ gap chars rest padded symbol front spelled ends blanks others =>
    subst text_eq
    obtain ⟨success, behind⟩ := next_of_front front spelled ends
    have wide := blanks.leadingGap front spelled padded
    rw [← padded_eq] at wide
    obtain ⟨same, last⟩ := next_of_front (padded_eq.trans (by rw [wide])) spelled (others.endsBefore ends)
    exact agree success same rfl (by rwa [behind, last])

end Scanner

namespace Sketch

/-- A sketch is read without regard to comments, whatever comes of it. If the text is scanned to its end, blanks may be
put in between the symbols, too. -/
theorem ofText_of_gaps (text : String) :
    ofText (withoutComments text) = ofText text ∧
      (Loosened text.toList text.toList ↔ ∃ symbols, (Scanner.start text).Reads symbols) ∧
      ∀ padded : String, Loosened text.toList padded.toList → ofText padded = ofText text := by
  refine ⟨?_, ?_, fun padded loosened => ?_⟩
  · have rest := toList_withoutComments text
    generalize withoutComments text = other at rest
    exact ofText_of_inStep Scanner.inStep_uncommented ⟨rest, .inl rfl⟩
  · simp only [loosened_self_iff, Scanner.reads_iff_lexes, Scanner.start]
  · exact ofText_of_inStep Scanner.inStep_loosened ⟨loosened, rfl⟩

/-- Blanks at the front of the line, between the words and in the comment. -/
theorem ofText_of_gaps_wait : ofText " wait\t 5# s\r" = ofText "wait 5#s" := by
  obtain ⟨-, -, padded⟩ := ofText_of_gaps "wait 5#s"
  have comment : Loosened ['#', 's'] ['#', ' ', 's', '\r'] :=
    .finish rfl (.keep '#' (.insert rfl (.keep 's' (.insert rfl .nil))))
  have number := @Loosened.symbol [' ', '5', '#', 's'] ['\t', ' '] ['5'] ['#', 's'] _ _ (by decide)
    (.digits (by decide)) (by rintro _ ⟨⟩; decide) (.insert rfl (.refl [' '])) comment
  have word := @Loosened.symbol ['w', 'a', 'i', 't', ' ', '5', '#', 's'] [' '] ['w', 'a', 'i', 't'] _ _ _ (by decide)
    (.word (by decide)) (by rintro _ ⟨⟩; decide) (.insert rfl .nil) number
  have tight : "wait 5#s".toList = ['w', 'a', 'i', 't', ' ', '5', '#', 's'] := by decide +kernel
  have wide : " wait\t 5# s\r".toList = [' ', 'w', 'a', 'i', 't', '\t', ' ', '5', '#', ' ', 's', '\r'] := by
    decide +kernel
  refine padded " wait\t 5# s\r" ?_
  rw [tight, wide]
  exact word

end Sketch

end Breadboard.Script
