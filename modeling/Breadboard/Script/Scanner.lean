import Breadboard.Script.Token
import Breadboard.Text.Word

/-! # Scanning a sketch text

A scanner stands somewhere in a text. `Scanner.next` skips the gap before the next token, which is made of
blanks and of comments that run from `#` or `;` to the end of the line, and then takes one lexeme. A lexeme that
is no token is reported and left behind, except for a character that begins no lexeme at all: there the scanner
stays. So each step that finds neither the end of the text nor such a character leaves less to read
(`next_rest_lt`).
-/

namespace Breadboard.Script

/-- The blanks within a line. -/
def isSpace (c : Char) : Bool :=
  c == ' ' || c == '\t' || c == '\r'

def opensComment (c : Char) : Bool :=
  c == '#' || c == ';'

/-- The blanks and comments at the front of a text, given whether a comment is open before it. -/
def gapFrom (commenting : Bool) : List Char → List Char
  | [] => []
  | c :: rest =>
    if isSpace c || opensComment c || (commenting && c != '\n') then
      c :: gapFrom (commenting || opensComment c) rest
    else []

def leadingGap (text : List Char) : List Char :=
  gapFrom false text

/-- The characters at the front of a text that belong together, and what they read as. -/
structure Lexeme where
  chars : List Char
  reading : Except Fault Symbol
deriving Repr

/-- The lexeme at the front of a text without a leading gap. -/
def lexeme : List Char → Lexeme
  | [] => ⟨[], .ok .endOfText⟩
  | c :: rest =>
    let word := Text.leadingWord rest
    let text := String.ofList (c :: word)
    if c = '\n' then ⟨[c], .ok .newline⟩
    else if c = '=' then ⟨[c], .ok .equals⟩
    else if c = '.' then
      ⟨c :: word, if word.isEmpty then .error .bareDot else .ok (.directive text)⟩
    else if c = '-' ∨ c = '+' then
      ⟨c :: word, if word.isEmpty || !word.all Char.isDigit then .error (.bareSign c) else .ok (.number text)⟩
    else if Text.isWordChar c then
      ⟨c :: word,
        if (c :: word).all Char.isDigit then .ok (.number text)
        else if c.isDigit then .error (.malformedNumber text)
        else .ok (.word text)⟩
    else ⟨[], .error (.unexpectedCharacter c)⟩

structure Scanner where
  rest : List Char
  position : Position
deriving DecidableEq, Repr

namespace Scanner

def start (text : String) : Scanner :=
  ⟨text.toList, .start⟩

/-- Moves past a text that the rest begins with. -/
def skip (scanner : Scanner) (text : List Char) : Scanner :=
  ⟨scanner.rest.drop text.length, scanner.position.afterText text⟩

def skipGap (scanner : Scanner) : Scanner :=
  scanner.skip (leadingGap scanner.rest)

/-- Takes the next token. An error, too, moves the scanner: past the gap and past the lexeme at fault. -/
def next : EStateM ScanError Scanner Token := fun scanner =>
  let front := scanner.skipGap
  let found := lexeme front.rest
  match found.reading with
  | .ok symbol => .ok ⟨symbol, front.position⟩ (front.skip found.chars)
  | .error fault => .error ⟨fault, front.position⟩ (front.skip found.chars)

end Scanner

private theorem leadingWord_append_drop (text : List Char) :
    Text.leadingWord text ++ text.drop (Text.leadingWord text).length = text := by
  induction text with
  | nil => rfl
  | cons c rest ih =>
    simp only [Text.leadingWord, List.takeWhile_cons] at ih ⊢
    split <;> simp [ih]

private theorem gapFrom_append_drop (commenting : Bool) (text : List Char) :
    gapFrom commenting text ++ text.drop (gapFrom commenting text).length = text := by
  induction text generalizing commenting with
  | nil => rfl
  | cons c rest ih =>
    simp only [gapFrom]
    split <;> simp [ih]

/-- A lexeme takes characters from the front of the text. -/
theorem lexeme_append_drop (text : List Char) :
    (lexeme text).chars ++ text.drop (lexeme text).chars.length = text := by
  cases text with
  | nil => rfl
  | cons c rest =>
    simp only [lexeme]
    repeat' split
    all_goals simp [leadingWord_append_drop]

/-- Only the end of the text and a character that begins no lexeme take nothing. -/
theorem lexeme_chars_eq_nil_iff (text : List Char) :
    (lexeme text).chars = [] ↔
      (lexeme text).reading = .ok .endOfText ∨ ∃ c, (lexeme text).reading = .error (.unexpectedCharacter c) := by
  cases text with
  | nil => simp [lexeme]
  | cons c rest =>
    simp only [lexeme]
    repeat' split
    all_goals simp

namespace Scanner

/-- Behind a text that is skipped stands the rest of it. -/
theorem skip_rest_append {scanner : Scanner} {text rest : List Char} (front : scanner.rest = text ++ rest) :
    (scanner.skip text).rest = rest := by
  simp [skip, front]

/-- The gap and what is left behind it make up the text. -/
theorem skipGap_rest_append (scanner : Scanner) :
    leadingGap scanner.rest ++ scanner.skipGap.rest = scanner.rest :=
  gapFrom_append_drop false scanner.rest

/-- The text before a step is a gap, a lexeme and the text after it. -/
theorem next_rest_append (scanner : Scanner) :
    leadingGap scanner.rest ++ ((lexeme scanner.skipGap.rest).chars ++
      (scanner.skipGap.skip (lexeme scanner.skipGap.rest).chars).rest) = scanner.rest := by
  rw [skip, lexeme_append_drop, skipGap_rest_append]

/-- Skipping a gap leaves no more text than before. -/
theorem skipGap_rest_le (scanner : Scanner) : scanner.skipGap.rest.length ≤ scanner.rest.length := by
  simp [skipGap, skip]

/-- Finding a token leaves no more text than before. -/
theorem next_rest_le {scanner after : Scanner} {token : Token} (success : scanner.next = .ok token after) :
    after.rest.length ≤ scanner.rest.length := by
  have gap := skipGap_rest_le scanner
  simp only [next] at success
  split at success
  · cases success
    simp only [skip, List.length_drop]
    omega
  · cases success

/-- A step to a token leaves less to read, unless it is the end of the text. -/
theorem next_rest_lt {scanner after : Scanner} {token : Token} (success : scanner.next = .ok token after)
    (more : token.symbol ≠ .endOfText) : after.rest.length < scanner.rest.length := by
  have gap := skipGap_rest_le scanner
  simp only [next] at success
  split at success
  next symbol read =>
    cases success
    have taken : (lexeme scanner.skipGap.rest).chars ≠ [] := by
      rw [Ne, lexeme_chars_eq_nil_iff, read]
      simpa using more
    have total := congrArg List.length (lexeme_append_drop scanner.skipGap.rest)
    have := List.length_pos_iff.mpr taken
    simp only [skip, List.length_append] at total ⊢
    omega
  next => cases success

/-- All tokens up to the end of the text, or up to the first error. -/
def tokens (scanner : Scanner) : List (Except ScanError Token) :=
  match _ : scanner.next with
  | .error error _ => [.error error]
  | .ok token after =>
    if _ : token.symbol = .endOfText then [.ok token] else .ok token :: tokens after
termination_by scanner.rest.length
decreasing_by exact next_rest_lt ‹scanner.next = .ok token after› ‹¬token.symbol = .endOfText›

/-- What a number of steps give, with no stop at an error or at the end of the text. -/
def steps (scanner : Scanner) : Nat → List (Except ScanError Token)
  | 0 => []
  | count + 1 =>
    match scanner.next with
    | .ok token after => .ok token :: after.steps count
    | .error error after => .error error :: after.steps count

end Scanner

end Breadboard.Script
