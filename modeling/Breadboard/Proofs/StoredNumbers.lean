import Breadboard.Proofs.Numerals
import Breadboard.Proofs.Rewording

/-! # The numbers that a sketch stores

An entry of a sketch stores the integers that the numerals on its line denote, in whatever order, and no others. A
numeral that denotes no 64-bit integer is in no text that is read as a sketch, and it is the one cause of the report that
names a number as invalid.

Main statement: `readsNumbers`.
-/

namespace Breadboard.Script

open Text.Numeral (Denotes ReadsExactly readsExactly)

/-- The report of an invalid number is worded unlike all others. -/
theorem GrammarFault.message_eq_iff {fault : GrammarFault} {numeral : String} :
    fault.message = "invalid number: " ++ numeral ↔ fault = .numberOutOfRange numeral := by
  constructor
  · intro same
    cases fault with
    | numberOutOfRange text =>
      have same : "invalid number: " ++ text = "invalid number: " ++ numeral := same
      exact congrArg _ ((String.append_right_inj _).mp same)
    | _ =>
      have first := congrArg (fun text => text.toList.head?) same
      dsimp only [message, toString] at first
      simp at first
  · rintro rfl
    rfl

/-! ## What is reported as no number -/

/-- On its line the reader comes to this numeral. -/
def Reader.Meets (reader : Reader) (numeral : String) : Prop :=
  ∃ symbols middle, reader.Passes symbols middle ∧ .newline ∉ symbols ∧ middle.current.symbol = .number numeral

private theorem Reader.Meets.behind {reader middle : Reader} {symbols : List Symbol} {numeral : String}
    (meets : middle.Meets numeral) (passed : reader.Passes symbols middle) (sameLine : .newline ∉ symbols) :
    reader.Meets numeral := by
  obtain ⟨others, last, back, free, here⟩ := meets
  exact ⟨symbols ++ others, last, Passes.append_iff.mpr ⟨middle, passed, back⟩,
    fun member => (List.mem_append.mp member).elim sameLine free, here⟩

private theorem Entry.line_of_takes {entry next : Entry} {item : Item} (takes : entry.Takes next item) :
    next.line = entry.line := by
  cases item with
  | word text =>
    rw [show next = entry.addWord text from takes, addWord]
    split <;> rfl
  | number value => rw [takes.2]
  | parameter key argument => rw [takes.2]

namespace Reading

variable {α β : Type} {reader after : Reader} {number : Nat} {numeral : String}

/-- The action reports no invalid number. -/
def Quiet (action : Reading α) : Prop :=
  ∀ ⦃reader numeral number after⦄, action reader ≠ .error (.grammar (.numberOutOfRange numeral) number) after

/-- Where the action reports an invalid number, it has met it on the line, and the line is the one that is reported. -/
def Blames (line : Nat) (action : Reading α) : Prop :=
  ∀ ⦃reader numeral number after⦄, action reader = .error (.grammar (.numberOutOfRange numeral) number) after →
    number = line ∧ reader.Meets numeral ∧ Text.Numeral.read? numeral = none

private theorem bind_eq_error {action : Reading α} {next : α → Reading β} {error : Error}
    (failed : (action >>= next) reader = .error error after) :
    action reader = .error error after ∨
      ∃ value middle, action reader = .ok value middle ∧ next value middle = .error error after := by
  simp only [bind, EStateM.bind] at failed
  split at failed
  next value middle ran => exact .inr ⟨value, middle, ran, failed⟩
  next error middle stuck =>
    cases failed
    exact .inl stuck

private theorem check_eq_misread {line : Nat} {checked : Except GrammarFault α}
    (failed : check line checked reader = .error (.grammar (.numberOutOfRange numeral) number) after) :
    checked = .error (.numberOutOfRange numeral) ∧ number = line := by
  cases checked with
  | ok value => cases failed
  | error fault =>
    cases failed
    exact ⟨rfl, rfl⟩

private theorem quiet_advance : Quiet advance := by
  intro reader numeral number after failed
  simp only [advance] at failed
  split at failed <;> cases failed

private theorem quiet_pure (value : α) : Quiet (pure value) := by
  intro reader numeral number after failed
  cases failed

private theorem quiet_check {checked : Except GrammarFault α}
    (known : ∀ numeral, checked ≠ .error (.numberOutOfRange numeral)) (line : Nat) : Quiet (check line checked) :=
  fun _ _ _ _ failed => known _ (check_eq_misread failed).1

private theorem Quiet.bind {action : Reading α} {next : α → Reading β} (first : Quiet action)
    (second : ∀ value, Quiet (next value)) : Quiet (action >>= next) := by
  intro reader numeral number after failed
  rcases bind_eq_error failed with stuck | ⟨value, middle, -, failed⟩
  · exact first stuck
  · exact second value failed

private theorem quiet_loop {stop : Reader → Bool} {step : α → Reading α} {progress : Progresses stop step}
    (steps : ∀ value, Quiet (step value)) (value : α) : Quiet (loop stop step progress value) := by
  intro reader numeral number after failed
  fun_induction loop stop step progress value reader with
  | case1 => cases failed
  | case2 value reader going next middle taken ih => exact ih failed
  | case3 value reader going fault middle stuck =>
    cases failed
    exact steps value stuck

private theorem Quiet.blames {action : Reading α} (quiet : Quiet action) (line : Nat) : Blames line action :=
  fun _ _ _ _ failed => (quiet failed).elim

private theorem Blames.bind {line : Nat} {action : Reading α} {next : α → Reading β} (first : Blames line action)
    (second : ∀ value, Quiet (next value)) : Blames line (action >>= next) := by
  intro reader numeral number after failed
  rcases bind_eq_error failed with stuck | ⟨value, middle, -, failed⟩
  · exact first stuck
  · exact (second value failed).elim

/-- What is met behind a token that ends no line is met in front of it. -/
theorem Blames.behind_advance {line : Nat} {next : Unit → Reading β} (rest : Blames line (next ()))
    (inside : reader.atLineEnd = false)
    (failed : (advance >>= next) reader = .error (.grammar (.numberOutOfRange numeral) number) after) :
    number = line ∧ reader.Meets numeral ∧ Text.Numeral.read? numeral = none := by
  obtain ⟨inLine, more⟩ := Bool.or_eq_false_iff.mp inside
  rcases bind_eq_error failed with stuck | ⟨⟨⟩, middle, moved, failed⟩
  · exact (quiet_advance stuck).elim
  · obtain ⟨same, meets, unread⟩ := rest failed
    have passed : reader.Passes [reader.current.symbol] middle := .step more moved (.stay _)
    exact ⟨same, meets.behind passed (by simpa [eq_comm] using inLine), unread⟩

private theorem ofSymbol_eq_misread {symbol : Symbol}
    (failed : Argument.ofSymbol symbol = .error (.numberOutOfRange numeral)) :
    symbol = .number numeral ∧ Text.Numeral.read? numeral = none := by
  cases symbol with
  | number text =>
    simp only [Argument.ofSymbol] at failed
    split at failed
    next => cases failed
    next unread =>
      cases failed
      exact ⟨rfl, unread⟩
  | _ => cases failed

private theorem addNumber_eq_misread {entry : Entry} {text : String}
    (failed : entry.addNumber text = .error (.numberOutOfRange numeral)) :
    text = numeral ∧ Text.Numeral.read? numeral = none := by
  simp only [Entry.addNumber] at failed
  split at failed
  next => cases failed
  next =>
    split at failed
    next => cases failed
    next unread =>
      cases failed
      exact ⟨rfl, unread⟩

private theorem blames_argument (line : Nat) : Blames line (argument line) := by
  intro reader numeral number after failed
  rw [argument, get_bind_eq] at failed
  rcases bind_eq_error failed with stuck | ⟨value, middle, -, failed⟩
  · obtain ⟨misread, rfl⟩ := check_eq_misread stuck
    obtain ⟨here, unread⟩ := ofSymbol_eq_misread misread
    exact ⟨rfl, ⟨[], reader, .stay _, List.not_mem_nil, here⟩, unread⟩
  · exact ((quiet_advance.bind fun _ => quiet_pure _) failed).elim

private theorem blames_afterWord (entry : Entry) (text : String) : Blames entry.line (afterWord entry text) := by
  have known (argument : Argument) (numeral : String) :
      entry.addParameter (Text.lowercase text) argument ≠ .error (.numberOutOfRange numeral) := by
    intro misread
    simp only [Entry.addParameter] at misread
    split at misread <;> cases misread
  intro reader numeral number after failed
  rw [afterWord, get_bind_eq] at failed
  split at failed
  next equals =>
    have inside : reader.atLineEnd = false := by simp [Reader.atLineEnd, Reader.atEnd, equals]
    exact ((blames_argument _).bind fun argument => quiet_check (known argument) _).behind_advance inside failed
  next => cases failed

private theorem blames_item (entry : Entry) : Blames entry.line (item entry) := by
  intro reader numeral number after failed
  simp only [item] at failed
  split at failed
  next text word =>
    have inside : reader.atLineEnd = false := by simp [Reader.atLineEnd, Reader.atEnd, word]
    exact (blames_afterWord _ _).behind_advance inside failed
  next text here =>
    -- The number is checked when the reader has moved on, so it is met in front of that.
    rcases bind_eq_error failed with stuck | ⟨_, middle, -, failed⟩
    · exact (quiet_advance stuck).elim
    · obtain ⟨misread, same⟩ := check_eq_misread failed
      obtain ⟨rfl, unread⟩ := addNumber_eq_misread misread
      exact ⟨same, ⟨[], reader, .stay _, List.not_mem_nil, here⟩, unread⟩
  next => cases failed

/-- The items that the loop has read before stand on the same line. -/
theorem blames_items (entry : Entry) : Blames entry.line (loop Reader.atLineEnd item item_progresses entry) := by
  intro reader numeral number after failed
  fun_induction loop Reader.atLineEnd item item_progresses entry reader with
  | case1 => cases failed
  | case2 entry reader going next middle taken ih =>
    obtain ⟨item, piece, spelled, passed, takes, -⟩ := item_eq_ok_iff.mp taken
    obtain ⟨same, meets, unread⟩ := ih failed
    exact ⟨same.trans (Entry.line_of_takes takes), meets.behind passed spelled.newline_notMem, unread⟩
  | case3 entry reader going error middle stuck =>
    cases failed
    exact blames_item entry stuck

private theorem blames_entry (keyword : String) (line : Nat) : Blames line (entry keyword line) := by
  rw [entry]
  split
  · exact blames_items (.bare _ line)
  · intro reader numeral number after failed
    cases failed

private theorem quiet_pinName (line : Nat) (pins : List Pin) : Quiet (pinName line pins) := by
  intro reader numeral number after failed
  simp only [pinName] at failed
  split at failed
  · exact (quiet_advance.bind fun _ => quiet_pure _) failed
  · cases failed

private theorem quiet_directive (sketch : Sketch) (text : String) (line : Nat) :
    Quiet (directive sketch text line) := by
  refine (quiet_check ?_ _).bind fun _ => (quiet_loop (quiet_pinName line) _).bind fun pins => quiet_check ?_ _
  · intro numeral misread
    simp only [Sketch.admitDirective] at misread
    repeat' split at misread
    all_goals cases misread
  · intro numeral misread
    simp only [Sketch.declare] at misread
    split at misread <;> cases misread

private theorem misread_of_lineBody {sketch : Sketch}
    (failed : lineBody sketch reader = .error (.grammar (.numberOutOfRange numeral) number) after) :
    number = reader.current.position.line ∧ reader.Meets numeral ∧ Text.Numeral.read? numeral = none := by
  simp only [lineBody] at failed
  split at failed
  next => cases failed
  next text directive =>
    have inside : reader.atLineEnd = false := by simp [Reader.atLineEnd, Reader.atEnd, directive]
    exact ((quiet_directive _ _ _).blames _).behind_advance inside failed
  next text word =>
    have inside : reader.atLineEnd = false := by simp [Reader.atLineEnd, Reader.atEnd, word]
    exact ((blames_entry _ _).bind fun _ => quiet_pure _).behind_advance inside failed
  next => cases failed

private theorem quiet_lineEnd : Quiet lineEnd := by
  intro reader numeral number after failed
  rw [lineEnd, get_bind_eq] at failed
  split at failed
  · exact quiet_advance failed
  · cases failed

/-- A line is blamed for a number only where that number stands on it and has no 64 bits. -/
theorem misread_of_line {sketch : Sketch}
    (failed : Reading.line sketch reader = .error (.grammar (.numberOutOfRange numeral) number) after) :
    number = reader.current.position.line ∧ reader.Meets numeral ∧ Text.Numeral.read? numeral = none := by
  rcases bind_eq_error failed with stuck | ⟨_, _, -, failed⟩
  · exact misread_of_lineBody stuck
  · exact ((quiet_lineEnd.bind fun _ => quiet_pure _) failed).elim

/-- Of the lines of a text, too, the reader passes those before the report, and it stands on the line that is named. -/
theorem misread_of_lines {sketch : Sketch} {here : Nat} (start : reader.OnLine here)
    (failed : loop Reader.atEnd line line_progresses sketch reader =
      .error (.grammar (.numberOutOfRange numeral) number) after) :
    ∃ symbols middle, reader.Passes symbols middle ∧ middle.current.symbol = .number numeral ∧
      middle.current.position.line = number ∧ Text.Numeral.read? numeral = none := by
  fun_induction loop Reader.atEnd line line_progresses sketch reader generalizing here with
  | case1 => cases failed
  | case2 sketch reader going next middle taken ih =>
    obtain ⟨_, piece, -, -, passed⟩ := (line_eq_ok_iff (Bool.eq_false_iff.mpr going)).mp taken
    obtain ⟨front, passed⟩ : ∃ front, reader.Passes front middle :=
      passed.elim (fun passed => ⟨_, passed⟩) fun passed => ⟨_, passed.1⟩
    obtain ⟨symbols, last, back, found⟩ := ih (passed.onLine start) failed
    exact ⟨front ++ symbols, last, Reader.Passes.append_iff.mpr ⟨middle, passed, back⟩, found⟩
  | case3 sketch reader going error middle stuck =>
    cases failed
    obtain ⟨rfl, ⟨symbols, last, passed, sameLine, found⟩, unread⟩ := misread_of_line stuck
    have stands := (passed.onLine start).1
    rw [List.count_eq_zero.mpr sameLine, Nat.add_zero, ← start.1] at stands
    exact ⟨symbols, last, passed, found, stands, unread⟩

end Reading

/-- The token that a reader comes to is among those of the text. -/
theorem Reader.Passes.mem_tokens {scanner : Scanner} {reader after : Reader} {symbols : List Symbol}
    (passed : reader.Passes symbols after) (first : scanner.next = .ok reader.current reader.scanner) :
    .ok after.current ∈ scanner.tokens := by
  induction passed generalizing scanner with
  | stay reader =>
    rw [Scanner.tokens_of_ok first]
    split <;> exact List.mem_cons_self
  | @step reader middle after symbols more moved others ih =>
    rw [Scanner.tokens_of_ok first, if_neg (of_decide_eq_false more)]
    exact List.mem_cons_of_mem _ (ih (Reading.advance_eq_ok_iff.mp moved))

/-- Each token of a text is what some call finds. -/
theorem Scanner.exists_found {scanner : Scanner} {token : Token} (listed : .ok token ∈ scanner.tokens) :
    ∃ calls, (stepped^[calls] scanner).found = .ok token := by
  induction scanner using tokens.induct with
  | case1 scanner error after failure =>
    rw [tokens_of_error failure, List.mem_singleton] at listed
    cases listed
  | case2 scanner last after success ended =>
    rw [tokens_of_ok success, if_pos ended, List.mem_singleton] at listed
    cases listed
    exact ⟨0, by rw [Function.iterate_zero_apply, found, success]⟩
  | case3 scanner first after success more ih =>
    rw [tokens_of_ok success, if_neg more, List.mem_cons] at listed
    rcases listed with here | later
    · cases here
      exact ⟨0, by rw [Function.iterate_zero_apply, found, success]⟩
    · obtain ⟨calls, found⟩ := ih later
      have behind : scanner.stepped = after := by rw [stepped, success]
      exact ⟨calls + 1, by rwa [Function.iterate_succ_apply, behind]⟩

/-- A number that is reported as invalid stands in the text, on the line of the report, and is none of 64 bits. -/
theorem Sketch.exists_misread {text numeral : String} {line : Nat}
    (failed : ofText text = .error (.grammar (.numberOutOfRange numeral) line)) :
    ∃ position : Position, .ok ⟨.number numeral, position⟩ ∈ (Scanner.start text).tokens ∧ position.line = line ∧
      Text.Numeral.read? numeral = none := by
  rw [ofText] at failed
  split at failed
  next => cases failed
  next reader started =>
    split at failed
    next => cases failed
    next stuck =>
      cases failed
      rcases Reading.bind_eq_error stuck with stuck | ⟨found, middle, -, failed⟩
      · obtain ⟨symbols, middle, passed, here, line, unread⟩ :=
          Reading.misread_of_lines (Reader.start_onLine started) stuck
        have listed := passed.mem_tokens (Reader.start_eq_ok_iff.mp started)
        exact ⟨middle.current.position, by rwa [← here], line, unread⟩
      · cases stray : found.firstStray? with
        | none =>
          rw [stray] at failed
          cases failed
        | some pin =>
          rw [stray] at failed
          cases failed

/-! ## What an entry stores -/

/-- The numeral denotes the 64-bit integer. -/
def Spells (numeral : String) (value : Int64) : Prop :=
  Denotes numeral.toList value.toInt

def Symbol.numeral? : Symbol → Option String
  | .number text => some text
  | _ => none

namespace Item

/-- The integer that an item carries, bare or as the argument of a parameter. -/
def carried? : Item → Option Int64
  | word _ => none
  | number value => some value
  | parameter _ argument => argument.integer?

private theorem Spelled.numerals {item : Item} {piece : List Symbol} (spelled : item.Spelled piece) :
    List.Forall₂ Spells (piece.filterMap Symbol.numeral?) item.carried?.toList := by
  cases spelled with
  | word text => exact .nil
  | number denoted => exact .cons (Text.Numeral.denoted?_eq_some_iff.mp denoted) .nil
  | parameter key spelled =>
    cases spelled with
    | integer denoted => exact .cons (Text.Numeral.denoted?_eq_some_iff.mp denoted) .nil
    | word text => exact .nil

/-- The numerals of spelled items are those of their numbers, in their order. -/
theorem numerals_of_spelled {items : List Item} {pieces : List (List Symbol)}
    (spelled : List.Forall₂ Item.Spelled items pieces) :
    List.Forall₂ Spells (pieces.flatten.filterMap Symbol.numeral?) (items.filterMap carried?) := by
  induction spelled with
  | nil => exact .nil
  | @cons item piece items pieces first others ih =>
    have split : (item :: items).filterMap carried? = item.carried?.toList ++ items.filterMap carried? := by
      cases carries : item.carried? <;> simp [carries]
    rw [List.flatten_cons, List.filterMap_append, split]
    exact List.rel_append first.numerals ih

/-- The bare numbers of an entry and those of its parameters are the integers that its items carry. -/
theorem carried_perm (items : List Item) :
    (items.filterMap number? ++ (items.filterMap parameter?).filterMap fun pair => pair.2.integer?).Perm
      (items.filterMap carried?) := by
  induction items with
  | nil => exact .nil
  | cons item items ih =>
    cases item with
    | word text => exact ih
    | number value => exact ih.cons value
    | parameter key argument =>
      cases argument with
      | word text => exact ih
      | integer value => exact List.perm_middle.trans (ih.cons value)

end Item

/-- The integers that an entry stores. -/
def Entry.numbers (entry : Entry) : List Int64 :=
  entry.value.toList ++ entry.parameters.toList.filterMap fun pair => pair.2.integer?

private theorem Entry.numbers_ofItems_perm {kind : Part.Kind} {items : List Item} {line : Nat}
    (consistent : Item.Consistent items) :
    (items.filterMap Item.carried?).Perm (Entry.ofItems kind items line).numbers := by
  have single : (items.filterMap Item.number?).head?.toList = items.filterMap Item.number? := by
    cases carried : items.filterMap Item.number? with
    | nil => rfl
    | cons value others =>
      have few := consistent.numbers
      rw [carried, List.length_cons] at few
      have alone : others = [] := List.eq_nil_of_length_eq_zero (by omega)
      rw [alone]
      rfl
  have stored := (Parameters.toList_ofList_perm consistent.keys).filterMap fun pair => pair.2.integer?
  rw [numbers, ofItems, single]
  exact (Item.carried_perm items).symm.trans (stored.symm.append_left _)

/-- The integers that a line carries. Only entries have any. -/
def Line.carried : Line → List Int64
  | entry _ items => items.filterMap Item.carried?
  | _ => []

private theorem Line.Spelled.numerals {line : Line} {piece : List Symbol} (spelled : line.Spelled piece) :
    List.Forall₂ Spells (piece.filterMap Symbol.numeral?) line.carried := by
  cases spelled with
  | empty => exact .nil
  | @space directive pins known nonempty =>
    have none : (pins.map fun pin => Symbol.word pin.name).filterMap Symbol.numeral? = [] := by
      simp [List.filterMap_map, Symbol.numeral?, Function.comp_def]
    exact none ▸ .nil
  | entry known spelled => exact Item.numerals_of_spelled spelled

/-- What stands between line ends stands on one of the lines. -/
theorem exists_mem_splitOn {symbols : List Symbol} {symbol : Symbol} (member : symbol ∈ symbols)
    (inside : symbol ≠ .newline) : ∃ piece ∈ symbols.splitOn .newline, symbol ∈ piece := by
  have joined : [Symbol.newline].intercalate (symbols.splitOn .newline) = symbols := List.intercalate_splitOn _
  rw [← joined] at member
  generalize symbols.splitOn .newline = pieces at member ⊢
  induction pieces with
  | nil => cases member
  | cons piece rest ih =>
    rcases eq_or_ne rest [] with rfl | more
    · rw [List.intercalate_singleton] at member
      exact ⟨piece, List.mem_cons_self, member⟩
    · rw [List.intercalate_cons_of_ne_nil more, List.mem_append, List.mem_append, List.mem_singleton] at member
      rcases member with (here | separates) | later
      · exact ⟨piece, List.mem_cons_self, here⟩
      · exact absurd separates inside
      · obtain ⟨found, listed, holds⟩ := ih later
        exact ⟨found, List.mem_cons_of_mem _ listed, holds⟩

private theorem Scanner.Reads.symbol_mem {scanner : Scanner} {symbols : List Symbol} (reads : scanner.Reads symbols)
    {token : Token} (listed : .ok token ∈ scanner.tokens) : token.symbol ∈ symbols ++ [.endOfText] := by
  obtain ⟨tokens, all, shape⟩ := reads
  rw [all, List.mem_map] at listed
  obtain ⟨_, member, same⟩ := listed
  cases same
  exact shape ▸ List.mem_map_of_mem member

namespace Sketch

variable {text : String} {sketch : Sketch}

/-- A text that is read as a sketch holds only numerals of 64-bit integers. -/
theorem exists_value_of_ofText (success : ofText text = .ok sketch) {numeral : String} {position : Position}
    (listed : .ok ⟨.number numeral, position⟩ ∈ (Scanner.start text).tokens) : ∃ value, Spells numeral value := by
  obtain ⟨symbols, lines, reads, spelled, -⟩ := ofText_eq_ok_iff.mp success
  have member : .number numeral ∈ symbols := by simpa using reads.symbol_mem listed
  obtain ⟨piece, split, here⟩ := exists_mem_splitOn member Symbol.noConfusion
  obtain ⟨line, -, line_spelled⟩ := exists_mem_of_forall₂ spelled.flip split
  obtain ⟨value, -, spells⟩ := exists_mem_of_forall₂ line_spelled.numerals (List.mem_filterMap.mpr ⟨_, here, rfl⟩)
  exact ⟨value, spells⟩

/-- An entry stores the integers of the numerals on its line. -/
theorem stored_of_ofText (success : ofText text = .ok sketch) {entry : Entry} (listed : entry ∈ sketch.entries) :
    ∃ symbols piece values, (Scanner.start text).Reads symbols ∧
      (symbols.splitOn .newline)[entry.line - 1]? = some piece ∧
      List.Forall₂ Spells (piece.filterMap Symbol.numeral?) values ∧ values.Perm entry.numbers := by
  obtain ⟨symbols, lines, reads, spelled, consistent, -, rfl⟩ := ofText_eq_ok_iff.mp success
  obtain ⟨kind, items, index, found, rfl⟩ := mem_entries_ofLines.mp listed
  obtain ⟨bound, here⟩ := List.getElem?_eq_some_iff.mp found
  have within : index < (symbols.splitOn .newline).length := spelled.length_eq ▸ bound
  have line : Line.Spelled (.entry kind items) (symbols.splitOn .newline)[index] := here ▸ spelled.get bound within
  exact ⟨symbols, _, _, reads, List.getElem?_eq_getElem within, line.numerals,
    Entry.numbers_ofItems_perm (consistent.items (List.mem_of_getElem? found))⟩

end Sketch

/-- How the numbers of a text come into a sketch, or keep the text from being one. -/
structure ReadsNumbers (text : String) : Prop where
  /-- Each number that is found after any calls has a numeral of one integer for its text. -/
  exact : ∀ (calls : Nat) {numeral : String} {position : Position},
    (Scanner.stepped^[calls] (Scanner.start text)).found = .ok ⟨.number numeral, position⟩ →
      ∃ n, ReadsExactly numeral n
  refused : ∀ {fault : GrammarFault} {line : Nat} {numeral : String},
    Sketch.ofText text = .error (.grammar fault line) → fault.message = "invalid number: " ++ numeral →
      ∃ n position, ReadsExactly numeral n ∧ ¬(-2 ^ 63 ≤ n ∧ n ≤ 2 ^ 63 - 1) ∧ position.line = line ∧
        .ok ⟨.number numeral, position⟩ ∈ (Scanner.start text).tokens
  accepted : ∀ {sketch : Sketch}, Sketch.ofText text = .ok sketch → ∀ {numeral : String} {position : Position},
    .ok ⟨.number numeral, position⟩ ∈ (Scanner.start text).tokens → ∃ value, Spells numeral value
  /-- The numerals of a line and the integers that its entry stores are the same, one for one. -/
  stored : ∀ {sketch : Sketch}, Sketch.ofText text = .ok sketch → ∀ {entry : Entry}, entry ∈ sketch.entries →
    ∃ symbols piece values, (Scanner.start text).Reads symbols ∧
      (symbols.splitOn .newline)[entry.line - 1]? = some piece ∧
      List.Forall₂ Spells (piece.filterMap Symbol.numeral?) values ∧ values.Perm entry.numbers

/-- Every number of a text gets into its sketch as it is, or it is what the text is refused for. -/
theorem readsNumbers (text : String) : ReadsNumbers text := by
  constructor
  case exact =>
    intro calls numeral position found
    obtain ⟨n, denotes⟩ := Scanner.exists_denotes found
    exact ⟨n, readsExactly denotes⟩
  case refused =>
    intro fault line numeral failed worded
    obtain rfl := GrammarFault.message_eq_iff.mp worded
    obtain ⟨position, listed, here, unread⟩ := Sketch.exists_misread failed
    obtain ⟨calls, found⟩ := Scanner.exists_found listed
    obtain ⟨n, denotes⟩ := Scanner.exists_denotes found
    exact ⟨n, position, readsExactly denotes, (readsExactly denotes).unread_iff.mp unread, here, listed⟩
  case accepted => exact fun success => Sketch.exists_value_of_ofText success
  case stored => exact fun success => Sketch.stored_of_ofText success

end Breadboard.Script
