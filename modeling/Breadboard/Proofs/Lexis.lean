import Breadboard.Script.Scanner
import Breadboard.Text.Numeral
import Mathlib.Data.List.Basic
import Mathlib.Data.List.TakeWhile

/-! # Symbols and their characters

A sketch text is a row of gaps and symbols. `Symbol.Spelled` says which characters make a symbol, with no regard to
the order in which a scanner tries them, and `Symbol.EndsBefore` that a run of word characters is taken as far as
it goes. `Scanner.reads_iff_lexes` says that the scanner finds the symbols of a text and stops nowhere else.
-/

namespace Breadboard.Script

/-- A word that begins with no decimal digit. -/
def IsIdentifier (chars : List Char) : Prop :=
  chars.all Text.isWordChar = true ∧ ∃ c ∈ chars.head?, c.isDigit = false

instance (chars : List Char) : Decidable (IsIdentifier chars) :=
  decidable_of_iff ((chars.all Text.isWordChar && chars.head?.any fun c => !c.isDigit) = true) <| by
    cases chars <;> simp [IsIdentifier]

inductive Symbol.Spelled : Symbol → List Char → Prop where
  | word {chars : List Char} (identifier : IsIdentifier chars) : Spelled (.word (String.ofList chars)) chars
  | digits {chars : List Char} (digits : Text.Numeral.isDigits chars = true) :
      Spelled (.number (String.ofList chars)) chars
  | signed {sign : Char} {chars : List Char} (known : sign = '-' ∨ sign = '+')
      (digits : Text.Numeral.isDigits chars = true) :
      Spelled (.number (String.ofList (sign :: chars))) (sign :: chars)
  | directive {chars : List Char} (nonempty : chars ≠ []) (wordChars : chars.all Text.isWordChar = true) :
      Spelled (.directive (String.ofList ('.' :: chars))) ('.' :: chars)
  | equals : Spelled .equals ['=']
  | newline : Spelled .newline ['\n']

/-- What may stand right behind a symbol: no word character, where the symbol ends in word characters itself. -/
def Symbol.EndsBefore (rest : List Char) : Symbol → Prop
  | .word _ | .number _ | .directive _ => ∀ c ∈ rest.head?, Text.isWordChar c = false
  | .equals | .newline | .endOfText => True

/-- The symbols of a text, with gaps before them and behind the last one. -/
inductive Lexes : List Char → List Symbol → Prop where
  | finish {text : List Char} (gap : leadingGap text = text) : Lexes text []
  | symbol {text chars rest : List Char} {symbol : Symbol} {symbols : List Symbol}
      (front : text = leadingGap text ++ (chars ++ rest)) (spelled : symbol.Spelled chars)
      (ends : symbol.EndsBefore rest) (others : Lexes rest symbols) : Lexes text (symbol :: symbols)

section Lexeme

/-- A word is the leading one in front of what cannot go on with it. -/
theorem leadingWord_append {word rest : List Char} (wordChars : word.all Text.isWordChar = true)
    (ends : ∀ c ∈ rest.head?, Text.isWordChar c = false) : Text.leadingWord (word ++ rest) = word := by
  rw [Text.leadingWord, List.takeWhile_append_of_pos (List.all_eq_true.mp wordChars)]
  cases rest with
  | nil => simp
  | cons c rest => simp [ends c rfl]

/-- Behind the leading word stands no character of a word. -/
theorem leadingWord_ends (text : List Char) :
    ∀ c ∈ (text.drop (Text.leadingWord text).length).head?, Text.isWordChar c = false := by
  induction text with
  | nil => simp
  | cons c rest ih =>
    cases inWord : Text.isWordChar c with
    | false => simp [Text.leadingWord, inWord]
    | true => simpa [Text.leadingWord, List.takeWhile_cons, inWord] using ih

/-- Digits can stand in a word. -/
theorem isWordChar_of_isDigits {chars : List Char} (digits : Text.Numeral.isDigits chars = true) :
    chars.all Text.isWordChar = true := by
  simp only [Text.Numeral.isDigits, Bool.and_eq_true, List.all_eq_true] at digits ⊢
  exact fun c member => Text.isWordChar_of_isDigit (digits.2 c member)

/-- The characters with a lexeme of their own belong to no word. -/
theorem not_mark_of_isWordChar {c : Char} (wordChar : Text.isWordChar c = true) :
    c ≠ '\n' ∧ c ≠ '=' ∧ c ≠ '.' ∧ ¬(c = '-' ∨ c = '+') := by
  refine ⟨?_, ?_, ?_, ?_⟩
  · rintro rfl
    exact absurd wordChar (by decide)
  · rintro rfl
    exact absurd wordChar (by decide)
  · rintro rfl
    exact absurd wordChar (by decide)
  · rintro (rfl | rfl) <;> exact absurd wordChar (by decide)

/-- A lexeme that begins with a word character is the whole word. -/
theorem lexeme_of_isWordChar {c : Char} (wordChar : Text.isWordChar c = true) (rest : List Char) :
    lexeme (c :: rest) = ⟨c :: Text.leadingWord rest,
      if (c :: Text.leadingWord rest).all Char.isDigit then
        .ok (.number (String.ofList (c :: Text.leadingWord rest)))
      else if c.isDigit then .error (.malformedNumber (String.ofList (c :: Text.leadingWord rest)))
      else .ok (.word (String.ofList (c :: Text.leadingWord rest)))⟩ := by
  obtain ⟨newline, equals, dot, sign⟩ := not_mark_of_isWordChar wordChar
  simp only [lexeme, newline, equals, dot, sign, wordChar, if_true, if_false]

private theorem lexeme_of_spelled {symbol : Symbol} {chars rest : List Char} (spelled : symbol.Spelled chars)
    (ends : symbol.EndsBefore rest) : lexeme (chars ++ rest) = ⟨chars, .ok symbol⟩ := by
  cases spelled with
  | word identifier =>
    obtain ⟨wordChars, c, first, notDigit⟩ := identifier
    obtain ⟨tail, rfl⟩ := List.head?_eq_some_iff.mp first
    simp only [List.all_cons, Bool.and_eq_true] at wordChars
    rw [List.cons_append, lexeme_of_isWordChar wordChars.1, leadingWord_append wordChars.2 ends]
    simp [notDigit]
  | digits digits =>
    have wordChars := isWordChar_of_isDigits digits
    cases chars with
    | nil => simp [Text.Numeral.isDigits] at digits
    | cons c tail =>
      simp only [List.all_cons, Bool.and_eq_true] at wordChars
      simp only [Text.Numeral.isDigits, Bool.and_eq_true] at digits
      rw [List.cons_append, lexeme_of_isWordChar wordChars.1, leadingWord_append wordChars.2 ends]
      simp only [digits.2, if_true]
  | signed known digits =>
    have word := leadingWord_append (isWordChar_of_isDigits digits) ends
    simp only [Text.Numeral.isDigits, Bool.and_eq_true, Bool.not_eq_true'] at digits
    rcases known with rfl | rfl <;> simp [lexeme, word, digits.1, digits.2]
  | directive nonempty wordChars => simp [lexeme, leadingWord_append wordChars ends, nonempty]
  | equals => rfl
  | newline => rfl

private theorem Symbol.Spelled.ne_endOfText {symbol : Symbol} {chars : List Char} (spelled : symbol.Spelled chars) :
    symbol ≠ .endOfText := by
  cases spelled <;> exact Symbol.noConfusion

/-- What is read as a symbol is spelled as one, and no longer spelling would do. -/
theorem spelled_lexeme {text : List Char} {symbol : Symbol} (read : (lexeme text).reading = .ok symbol)
    (more : symbol ≠ .endOfText) :
    symbol.Spelled (lexeme text).chars ∧ symbol.EndsBefore (text.drop (lexeme text).chars.length) := by
  cases text with
  | nil => exact absurd (Except.ok.inj read).symm more
  | cons c rest =>
    have wordChars : (Text.leadingWord rest).all Text.isWordChar = true := List.all_takeWhile
    have ends := leadingWord_ends rest
    by_cases wordChar : Text.isWordChar c = true
    · rw [lexeme_of_isWordChar wordChar] at read ⊢
      simp only [] at read
      split at read
      next digits =>
        cases read
        exact ⟨.digits (by simpa [Text.Numeral.isDigits] using digits), ends⟩
      next =>
        split at read
        next => cases read
        next notDigit =>
          cases read
          refine ⟨.word ⟨?_, c, rfl, Bool.eq_false_iff.mpr notDigit⟩, ends⟩
          simp only [List.all_cons, wordChar, wordChars, Bool.and_self]
    · by_cases newline : c = '\n'
      · subst newline
        cases read
        exact ⟨.newline, trivial⟩
      by_cases equals : c = '='
      · subst equals
        cases read
        exact ⟨.equals, trivial⟩
      by_cases dot : c = '.'
      · subst dot
        by_cases bare : (Text.leadingWord rest).isEmpty = true
        · simp [lexeme, bare] at read
        · simp only [lexeme, bare] at read ⊢
          cases read
          exact ⟨.directive (by simpa using bare) wordChars, ends⟩
      by_cases sign : c = '-' ∨ c = '+'
      · simp only [lexeme, newline, equals, dot, sign, if_true, if_false] at read ⊢
        split at read
        next => cases read
        next digits =>
          cases read
          exact ⟨.signed sign (by simpa [Text.Numeral.isDigits] using digits), ends⟩
      · simp [lexeme, newline, equals, dot, sign, wordChar] at read

/-- The lexeme at the front of a text is a symbol exactly when the text begins with one that ends there. -/
theorem lexeme_eq_ok_iff {text : List Char} {symbol : Symbol} {chars : List Char} (more : symbol ≠ .endOfText) :
    lexeme text = ⟨chars, .ok symbol⟩ ↔
      ∃ rest, text = chars ++ rest ∧ symbol.Spelled chars ∧ symbol.EndsBefore rest := by
  constructor
  · intro found
    have front := lexeme_append_drop text
    obtain ⟨spelled, ends⟩ := spelled_lexeme (congrArg Lexeme.reading found) more
    rw [found] at front spelled ends
    exact ⟨_, front.symm, spelled, ends⟩
  · rintro ⟨rest, rfl, spelled, ends⟩
    exact lexeme_of_spelled spelled ends

/-- The end of a text is read only where nothing is left of it. -/
theorem eq_nil_of_lexeme_endOfText {text : List Char} (read : (lexeme text).reading = .ok .endOfText) :
    text = [] := by
  cases text with
  | nil => rfl
  | cons c rest =>
    simp only [lexeme] at read
    repeat' split at read
    all_goals cases read

end Lexeme

namespace Scanner

/-- The scanner reaches the end of the text without an error, and these symbols stand before it. -/
def Reads (scanner : Scanner) (symbols : List Symbol) : Prop :=
  ∃ tokens : List Token, scanner.tokens = tokens.map .ok ∧ tokens.map Token.symbol = symbols ++ [.endOfText]

/-- A scanner reads one row of symbols, if any. -/
theorem Reads.unique {scanner : Scanner} {symbols others : List Symbol} (reads : scanner.Reads symbols)
    (again : scanner.Reads others) : others = symbols := by
  obtain ⟨tokens, all, shape⟩ := reads
  obtain ⟨twins, same, twinShape⟩ := again
  have equal : twins = tokens := List.map_injective_iff.mpr (fun _ _ => Except.ok.inj) (same.symm.trans all)
  rw [equal, shape, List.append_left_inj] at twinShape
  exact twinShape.symm

/-- A scanner that fails finds no further token. -/
theorem tokens_of_error {scanner after : Scanner} {error : ScanError} (failure : scanner.next = .error error after) :
    scanner.tokens = [.error error] := by
  rw [tokens]
  split
  next found =>
    rw [failure] at found
    cases found
    rfl
  next found =>
    rw [failure] at found
    cases found

/-- A scanner finds its next token and then those behind it, up to the end of the text. -/
theorem tokens_of_ok {scanner after : Scanner} {token : Token} (success : scanner.next = .ok token after) :
    scanner.tokens = if token.symbol = .endOfText then [.ok token] else .ok token :: after.tokens := by
  rw [tokens]
  split
  next found =>
    rw [success] at found
    cases found
  next found =>
    rw [success] at found
    cases found
    rfl

/-- A scanner that fails reads no row of symbols. -/
theorem not_reads_of_error {scanner after : Scanner} {error : ScanError} (failure : scanner.next = .error error after)
    (symbols : List Symbol) : ¬scanner.Reads symbols := by
  rintro ⟨tokens, all, -⟩
  rw [tokens_of_error failure] at all
  cases tokens <;> simp at all

/-- At the end of the text no symbol is left to read. -/
theorem reads_iff_of_endOfText {scanner after : Scanner} {token : Token} (success : scanner.next = .ok token after)
    (ended : token.symbol = .endOfText) (symbols : List Symbol) : scanner.Reads symbols ↔ symbols = [] := by
  have single : scanner.tokens = [.ok token] := by rw [tokens_of_ok success, if_pos ended]
  constructor
  · rintro ⟨tokens, all, shape⟩
    rw [single] at all
    have count := congrArg List.length all
    have total := congrArg List.length shape
    simp only [List.length_map, List.length_append, List.length_singleton] at count total
    exact List.eq_nil_of_length_eq_zero (by omega)
  · rintro rfl
    exact ⟨[token], single, by simp [ended]⟩

/-- A scanner reads its next symbol and then those behind it. -/
theorem reads_iff_of_next {scanner after : Scanner} {token : Token} (success : scanner.next = .ok token after)
    (more : token.symbol ≠ .endOfText) (symbols : List Symbol) :
    scanner.Reads symbols ↔ ∃ others, symbols = token.symbol :: others ∧ after.Reads others := by
  have split : scanner.tokens = .ok token :: after.tokens := by rw [tokens_of_ok success, if_neg more]
  constructor
  · rintro ⟨tokens, all, shape⟩
    rw [split] at all
    cases tokens with
    | nil => simp at all
    | cons head tail =>
      obtain ⟨rfl, others⟩ : token = head ∧ after.tokens = tail.map .ok := by simpa using all
      cases symbols with
      | nil =>
        simp only [List.map_cons, List.nil_append, List.cons.injEq] at shape
        exact absurd shape.1 more
      | cons symbol symbols =>
        simp only [List.map_cons, List.cons_append, List.cons.injEq] at shape
        exact ⟨symbols, by rw [shape.1], tail, others, shape.2⟩
  · rintro ⟨others, rfl, tokens, all, shape⟩
    exact ⟨token :: tokens, by rw [split, all, List.map_cons], by simp [shape]⟩

/-- A step gives the lexeme behind the gap, if that is a symbol, and stands behind it then. -/
theorem next_eq_ok_iff {scanner after : Scanner} {token : Token} :
    scanner.next = .ok token after ↔
      ∃ chars, lexeme scanner.skipGap.rest = ⟨chars, .ok token.symbol⟩ ∧
        token.position = scanner.skipGap.position ∧ after = scanner.skipGap.skip chars := by
  obtain ⟨symbol, position⟩ := token
  rcases found : lexeme scanner.skipGap.rest with ⟨chars, fault | read⟩
  · simp [next, found]
  · simp only [next, found, EStateM.Result.ok.injEq, Token.mk.injEq, Lexeme.mk.injEq, Except.ok.injEq]
    constructor
    · rintro ⟨⟨rfl, rfl⟩, rfl⟩
      exact ⟨chars, ⟨rfl, rfl⟩, rfl, rfl⟩
    · rintro ⟨_, ⟨rfl, rfl⟩, rfl, rfl⟩
      exact ⟨⟨rfl, rfl⟩, rfl⟩

/-- In front of a gap and a symbol that ends there the scanner finds the symbol. -/
theorem next_of_front {scanner : Scanner} {symbol : Symbol} {chars rest : List Char}
    (front : scanner.rest = leadingGap scanner.rest ++ (chars ++ rest)) (spelled : symbol.Spelled chars)
    (ends : symbol.EndsBefore rest) :
    scanner.next = .ok ⟨symbol, scanner.skipGap.position⟩ (scanner.skipGap.skip chars) ∧
      (scanner.skipGap.skip chars).rest = rest := by
  have behind : scanner.skipGap.rest = chars ++ rest :=
    List.append_cancel_left ((skipGap_rest_append scanner).trans front)
  have found : lexeme scanner.skipGap.rest = ⟨chars, .ok symbol⟩ := by
    rw [behind]
    exact lexeme_of_spelled spelled ends
  exact ⟨next_eq_ok_iff.mpr ⟨chars, found, rfl, rfl⟩, skip_rest_append behind⟩

/-- Where only a gap is left, the end of the text is next, and all of it is passed. -/
theorem next_of_gap {scanner : Scanner} (gap : leadingGap scanner.rest = scanner.rest) :
    scanner.next = .ok ⟨.endOfText, scanner.skipGap.position⟩ (scanner.skipGap.skip []) ∧
      (scanner.skipGap.skip []).rest = [] := by
  have front := skipGap_rest_append scanner
  rw [gap] at front
  have nothing : scanner.skipGap.rest = [] := List.append_right_eq_self.mp front
  exact ⟨next_eq_ok_iff.mpr ⟨[], by rw [nothing]; rfl, rfl, rfl⟩, nothing⟩

/-- The symbols that the scanner finds make up the text. -/
theorem lexes_of_reads {scanner : Scanner} {symbols : List Symbol} (reads : scanner.Reads symbols) :
    Lexes scanner.rest symbols := by
  induction scanner using tokens.induct generalizing symbols with
  | case1 scanner error after failure => exact absurd reads (not_reads_of_error failure symbols)
  | case2 scanner token after success ended =>
    rw [(reads_iff_of_endOfText success ended symbols).mp reads]
    obtain ⟨chars, found, -, -⟩ := next_eq_ok_iff.mp success
    have nothing : scanner.skipGap.rest = [] := by
      rw [ended] at found
      exact eq_nil_of_lexeme_endOfText (congrArg Lexeme.reading found)
    have front := skipGap_rest_append scanner
    rw [nothing, List.append_nil] at front
    exact .finish front
  | case3 scanner token after success more ih =>
    obtain ⟨others, rfl, reads⟩ := (reads_iff_of_next success more symbols).mp reads
    obtain ⟨chars, found, -, rfl⟩ := next_eq_ok_iff.mp success
    obtain ⟨rest, front, spelled, ends⟩ := (lexeme_eq_ok_iff more).mp found
    have behind := ih reads
    rw [skip_rest_append front] at behind
    refine .symbol ?_ spelled ends behind
    rw [← front, skipGap_rest_append]

/-- The scanner finds the symbols that a text is made of. -/
theorem reads_of_lexes {scanner : Scanner} {symbols : List Symbol} (lexes : Lexes scanner.rest symbols) :
    scanner.Reads symbols := by
  generalize text_eq : scanner.rest = text at lexes
  induction lexes generalizing scanner with
  | finish gap =>
    subst text_eq
    exact (reads_iff_of_endOfText (next_of_gap gap).1 rfl []).mpr rfl
  | @symbol text chars rest symbol symbols front spelled ends others ih =>
    subst text_eq
    obtain ⟨success, behind⟩ := next_of_front front spelled ends
    exact (reads_iff_of_next success spelled.ne_endOfText _).mpr ⟨symbols, rfl, ih behind⟩

/-- A scanner reads exactly the symbols that the rest of its text is made of. -/
theorem reads_iff_lexes {scanner : Scanner} {symbols : List Symbol} :
    scanner.Reads symbols ↔ Lexes scanner.rest symbols :=
  ⟨lexes_of_reads, reads_of_lexes⟩

end Scanner

section LineNumber

/-- A position goes down by a line with each newline. -/
theorem Position.afterText_line (position : Position) (text : List Char) :
    (position.afterText text).line = position.line + text.count '\n' := by
  induction text generalizing position with
  | nil => rfl
  | cons c rest ih =>
    refine (ih (position.after c)).trans ?_
    by_cases newline : c = '\n'
    · subst newline
      simp only [Position.after, if_true, List.count_cons_self]
      omega
    · rw [List.count_cons_of_ne newline]
      simp [Position.after, newline]

/-- A comment ends before the end of its line, and so does a gap. -/
theorem newline_notMem_gapFrom (commenting : Bool) (text : List Char) : '\n' ∉ gapFrom commenting text := by
  induction text generalizing commenting with
  | nil => exact List.not_mem_nil
  | cons c rest ih =>
    simp only [gapFrom]
    split
    next inGap =>
      refine List.not_mem_cons_of_ne_of_not_mem ?_ (ih _)
      rintro rfl
      simp [isSpace, opensComment] at inGap
    next => exact List.not_mem_nil

private theorem newline_notMem_of_isWordChar {chars : List Char} (wordChars : chars.all Text.isWordChar = true) :
    '\n' ∉ chars := by
  intro member
  exact absurd (List.all_eq_true.mp wordChars '\n' member) (by decide)

/-- The newline alone is spelled with a newline. -/
theorem Symbol.Spelled.count_newline {symbol : Symbol} {chars : List Char} (spelled : symbol.Spelled chars) :
    chars.count '\n' = if symbol = .newline then 1 else 0 := by
  cases spelled with
  | word identifier => exact List.count_eq_zero.mpr (newline_notMem_of_isWordChar identifier.1)
  | digits digits => exact List.count_eq_zero.mpr (newline_notMem_of_isWordChar (isWordChar_of_isDigits digits))
  | signed known digits =>
    have tail := newline_notMem_of_isWordChar (isWordChar_of_isDigits digits)
    refine List.count_eq_zero.mpr (List.not_mem_cons_of_ne_of_not_mem ?_ tail)
    rcases known with rfl | rfl <;> decide
  | directive nonempty wordChars =>
    have tail := newline_notMem_of_isWordChar wordChars
    exact List.count_eq_zero.mpr (List.not_mem_cons_of_ne_of_not_mem (by decide) tail)
  | equals => rfl
  | newline => rfl

/-- A gap stays on its line. -/
theorem Scanner.skipGap_line (scanner : Scanner) : scanner.skipGap.position.line = scanner.position.line := by
  refine (Position.afterText_line _ _).trans ?_
  rw [leadingGap, List.count_eq_zero.mpr (newline_notMem_gapFrom false scanner.rest), Nat.add_zero]

/-- A token stands on the line where the scanner was, and only a line end takes the scanner to the next one. -/
theorem Scanner.line_of_next {scanner after : Scanner} {token : Token} (success : scanner.next = .ok token after) :
    token.position.line = scanner.position.line ∧
      after.position.line = token.position.line + if token.symbol = .newline then 1 else 0 := by
  obtain ⟨chars, found, position, rfl⟩ := next_eq_ok_iff.mp success
  refine ⟨by rw [position, skipGap_line], ?_⟩
  rw [position]
  refine (Position.afterText_line _ _).trans (congrArg _ ?_)
  by_cases more : token.symbol = .endOfText
  · rw [more] at found
    rw [eq_nil_of_lexeme_endOfText (congrArg Lexeme.reading found)] at found
    cases found
    simp [more]
  · obtain ⟨_, -, spelled, -⟩ := (lexeme_eq_ok_iff more).mp found
    exact spelled.count_newline

end LineNumber

end Breadboard.Script
