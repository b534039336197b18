import Breadboard.Proofs.Passage
import Breadboard.Script.OfText

/-! # Two readers in step

A reading looks at nothing but the symbols that its reader comes to and, where it reports or records a line, at the
lines of their tokens. So two readers that come to the same symbols, one of them so many lines further down, give the
same result up to these lines: `Reading.lineBody_agree` for the body of a line. Within a line a reader never moves
past its end, and `Reader.InStep` asks nothing of readers that do.
-/

namespace Breadboard.Script

/-! ## Further down -/

def Position.down (count : Nat) (position : Position) : Position :=
  ⟨position.line + count, position.column⟩

def ScanError.down (count : Nat) (error : ScanError) : ScanError :=
  ⟨error.fault, error.position.down count⟩

/-- The same error so many lines further down. -/
def Error.down (count : Nat) : Error → Error
  | .scan error => .scan (error.down count)
  | .grammar fault line => .grammar fault (line + count)
  | .unknownKind keyword line => .unknownKind keyword (line + count)
  | .unknownPin pin line => .unknownPin pin (line + count)

def Entry.down (count : Nat) (entry : Entry) : Entry :=
  { entry with line := entry.line + count }

/-- A sketch with another one behind it, whose lines are counted on. -/
def Sketch.above (front : Sketch) (count : Nat) (sketch : Sketch) : Sketch where
  space := front.space <|> sketch.space
  entries := front.entries ++ sketch.entries.map (Entry.down count)

/-- An error told no further down is the same error. -/
theorem Error.down_zero : Error.down 0 = id := by
  funext error
  cases error <;> rfl

namespace Entry

variable (entry : Entry) (count : Nat)

private theorem addWord_down (text : String) : (entry.down count).addWord text = (entry.addWord text).down count := by
  change ite (entry.kind = .power ∧ entry.state = none ∧ (Power.ofWord? text).isSome = true) _ _ = _
  rw [addWord]
  split <;> rfl

private theorem addNumber_down (text : String) :
    (entry.down count).addNumber text = (entry.addNumber text).map (down count) := by
  change ite (entry.value.isSome = true) _ _ = _
  rw [addNumber]
  split
  · rfl
  · cases Text.Numeral.read? text <;> rfl

private theorem addParameter_down (key : String) (argument : Argument) :
    (entry.down count).addParameter key argument = (entry.addParameter key argument).map (down count) := by
  change ite (entry.parameters.contains key = true) _ _ = _
  rw [addParameter]
  split <;> rfl

end Entry

namespace Sketch

/-- A sketch under an empty one, no further down, is the same sketch. -/
theorem empty_above_zero : empty.above 0 = id := by
  funext sketch
  have entries : sketch.entries.map (Entry.down 0) = sketch.entries := List.map_id _
  simp [above, empty, entries]

variable (front sketch : Sketch) (count : Nat)

private theorem above_addEntry (entry : Entry) :
    (front.above count sketch).addEntry (entry.down count) = front.above count (sketch.addEntry entry) := by
  simp [above, addEntry]

private theorem above_admitDirective {text : String}
    (free : front.space = none ∨ Text.lowercase text ≠ ".pins") :
    (front.above count sketch).admitDirective text = sketch.admitDirective text := by
  rw [admitDirective, admitDirective]
  rcases free with undeclared | other
  · simp [above, undeclared]
  · rw [if_pos other, if_pos other]

private theorem above_declare (undeclared : front.space = none) (pins : List Pin) :
    (front.above count sketch).declare pins = (sketch.declare pins).map (front.above count) := by
  rw [declare, declare]
  split
  · rfl
  · simp [above, undeclared, Except.map]

end Sketch

/-! ## Results that agree -/

/-- Two results that say the same: the error of the second is what `raise` makes of the error of the first, and values
and states are related. Of the states behind an error nothing is asked. -/
inductive Agree {ε σ α : Type} (raise : ε → ε) (paired : σ → σ → Prop) (same : α → α → Prop) :
    EStateM.Result ε σ α → EStateM.Result ε σ α → Prop where
  | ok {value other : α} {state after : σ} (values : same value other) (states : paired state after) :
      Agree raise paired same (.ok value state) (.ok other after)
  | error (error : ε) {state after : σ} : Agree raise paired same (.error error state) (.error (raise error) after)

namespace Agree

variable {ε σ α β : Type} {raise : ε → ε} {paired next : σ → σ → Prop} {same : α → α → Prop} {alike : β → β → Prop}

/-- A result agrees with one that is alike, in states that are paired. -/
theorem ok_iff {value : α} {state : σ} {result : EStateM.Result ε σ α} :
    Agree raise paired same (.ok value state) result ↔
      ∃ other after, result = .ok other after ∧ same value other ∧ paired state after := by
  constructor
  · rintro ⟨values, states⟩
    exact ⟨_, _, rfl, values, states⟩
  · rintro ⟨other, after, rfl, values, states⟩
    exact .ok values states

/-- An error agrees with the one that it is raised to, whatever the states are. -/
theorem error_iff {error : ε} {state : σ} {result : EStateM.Result ε σ α} :
    Agree raise paired same (.error error state) result ↔ ∃ after, result = .error (raise error) after := by
  constructor
  · rintro ⟨⟩
    exact ⟨_, rfl⟩
  · rintro ⟨after, rfl⟩
    exact Agree.error error

private theorem bind {action other : EStateM ε σ α} {rest behind : α → EStateM ε σ β} {state after : σ}
    (first : Agree raise paired same (action state) (other after))
    (second : ∀ {value twin state after}, same value twin → paired state after →
      Agree raise next alike (rest value state) (behind twin after)) :
    Agree raise next alike ((action >>= rest) state) ((other >>= behind) after) := by
  simp only [Bind.bind, EStateM.bind]
  cases left : action state with
  | ok value middle =>
    rw [left, ok_iff] at first
    obtain ⟨twin, last, right, values, states⟩ := first
    simp only [right]
    exact second values states
  | error fault middle =>
    rw [left, error_iff] at first
    obtain ⟨last, right⟩ := first
    simp only [right]
    exact Agree.error fault

end Agree

/-- Readers at the same symbol, so many lines apart, that stay paired when they move on within a line. -/
structure Reader.InStep (count : Nat) (paired : Reader → Reader → Prop) : Prop where
  symbol : ∀ {reader other}, paired reader other → other.current.symbol = reader.current.symbol
  line : ∀ {reader other}, paired reader other →
    other.current.position.line = reader.current.position.line + count
  advance : ∀ {reader other}, paired reader other → reader.atLineEnd = false →
    Agree (Error.down count) paired Eq (Reading.advance reader) (Reading.advance other)

namespace Reader.InStep

variable {count : Nat} {paired : Reader → Reader → Prop} {reader other : Reader}

private theorem atEnd (inStep : InStep count paired) (readers : paired reader other) : other.atEnd = reader.atEnd := by
  simp only [Reader.atEnd, inStep.symbol readers]

private theorem atLineEnd (inStep : InStep count paired) (readers : paired reader other) :
    other.atLineEnd = reader.atLineEnd := by
  simp only [Reader.atLineEnd, inStep.symbol readers, inStep.atEnd readers]

end Reader.InStep

namespace Reading

section Loop

variable {α : Type} {stop : Reader → Bool} {step : α → Reading α} {progress : Progresses stop step}

/-- A loop fails with the first step that fails. -/
theorem loop_of_error {value : α} {reader middle : Reader} {error : Error} (going : stop reader = false)
    (failed : step value reader = .error error middle) :
    loop stop step progress value reader = .error error middle := by
  rw [loop, dif_neg (Bool.eq_false_iff.mp going)]
  split
  next found =>
    rw [failed] at found
    cases found
  next found =>
    rw [failed] at found
    cases found
    rfl

/-- Loops whose steps agree agree, and they stop together. -/
theorem loop_agree {raise : Error → Error} {paired : Reader → Reader → Prop} {same : α → α → Prop}
    {twin : α → Reading α} {twinProgress : Progresses stop twin}
    (stops : ∀ {reader other}, paired reader other → stop other = stop reader)
    (steps : ∀ {value twinValue reader other}, same value twinValue → paired reader other → stop reader = false →
      Agree raise paired same (step value reader) (twin twinValue other))
    {value twinValue : α} {reader other : Reader} (values : same value twinValue) (readers : paired reader other) :
    Agree raise (fun reader other => paired reader other ∧ stop reader = true) same
      (loop stop step progress value reader) (loop stop twin twinProgress twinValue other) := by
  fun_induction loop stop step progress value reader generalizing twinValue other with
  | case1 value reader stopped =>
    rw [loop_of_stop ((stops readers).trans stopped)]
    exact .ok values ⟨readers, stopped⟩
  | case2 value reader going next middle taken ih =>
    have goes := Bool.eq_false_iff.mpr going
    have together := steps values readers goes
    rw [taken, Agree.ok_iff] at together
    obtain ⟨twinNext, behind, found, values, after⟩ := together
    rw [loop_of_step ((stops readers).trans goes) found]
    exact ih values after
  | case3 value reader going error middle failed =>
    have goes := Bool.eq_false_iff.mpr going
    have together := steps values readers goes
    rw [failed, Agree.error_iff] at together
    obtain ⟨behind, found⟩ := together
    rw [loop_of_error ((stops readers).trans goes) found]
    exact Agree.error error

end Loop

/-! ## The readings of a line -/

section Line

variable {count : Nat} {paired : Reader → Reader → Prop} {reader other : Reader}

private theorem check_agree {α : Type} (readers : paired reader other) (line : Nat) (checked : Except GrammarFault α)
    (change : α → α) :
    Agree (Error.down count) paired (fun value twin => twin = change value) (check line checked reader)
      (check (line + count) (checked.map change) other) := by
  cases checked with
  | ok value => exact .ok rfl readers
  | error fault => exact Agree.error (Error.grammar fault line)

private theorem grammar_agree {α : Type} {same : α → α → Prop} (fault : GrammarFault) (line : Nat) :
    Agree (Error.down count) paired same (.error (.grammar fault line) reader)
      (.error (.grammar fault (line + count)) other) :=
  Agree.error (Error.grammar fault line)

variable (inStep : Reader.InStep count paired) (readers : paired reader other)

include inStep readers

private theorem advance_bind_agree {α : Type} {next : Reader → Reader → Prop} {same : α → α → Prop}
    {rest behind : Unit → Reading α} (within : reader.atLineEnd = false)
    (second : ∀ {reader other}, paired reader other →
      Agree (Error.down count) next same (rest () reader) (behind () other)) :
    Agree (Error.down count) next same ((advance >>= rest) reader) ((advance >>= behind) other) :=
  (inStep.advance readers within).bind fun _ readers => second readers

private theorem argument_agree (line : Nat) :
    Agree (Error.down count) paired Eq (argument line reader) (argument (line + count) other) := by
  simp only [argument, get_bind_eq, inStep.symbol readers]
  cases read : Argument.ofSymbol reader.current.symbol with
  | error fault => exact grammar_agree fault line
  | ok argument =>
    have within : reader.atLineEnd = false := by
      cases symbol : reader.current.symbol <;> simp [symbol, Argument.ofSymbol] at read <;>
        simp [Reader.atLineEnd, Reader.atEnd, symbol]
    exact advance_bind_agree inStep readers within fun readers => .ok rfl readers

private theorem afterWord_agree (entry : Entry) (text : String) :
    Agree (Error.down count) paired (fun value twin => twin = value.down count) (afterWord entry text reader)
      (afterWord (entry.down count) text other) := by
  simp only [afterWord, get_bind_eq, inStep.symbol readers]
  by_cases equals : reader.current.symbol = .equals
  · have within : reader.atLineEnd = false := by simp [Reader.atLineEnd, Reader.atEnd, equals]
    rw [if_pos equals, if_pos equals]
    refine advance_bind_agree inStep readers within fun readers => ?_
    refine (argument_agree inStep readers entry.line).bind ?_
    rintro argument _ _ _ rfl readers
    rw [Entry.addParameter_down]
    exact check_agree readers entry.line _ _
  · rw [if_neg equals, if_neg equals, Entry.addWord_down]
    exact .ok rfl readers

private theorem item_agree (entry : Entry) (within : reader.atLineEnd = false) :
    Agree (Error.down count) paired (fun value twin => twin = value.down count) (item entry reader)
      (item (entry.down count) other) := by
  simp only [item, inStep.symbol readers]
  split
  · exact advance_bind_agree inStep readers within fun readers => afterWord_agree inStep readers entry _
  · refine advance_bind_agree inStep readers within fun readers => ?_
    rw [Entry.addNumber_down]
    exact check_agree readers entry.line _ _
  · exact grammar_agree _ _

private theorem pinName_agree (line : Nat) (pins : List Pin) (within : reader.atLineEnd = false) :
    Agree (Error.down count) paired Eq (pinName line pins reader) (pinName (line + count) pins other) := by
  simp only [pinName, inStep.symbol readers]
  split
  · exact advance_bind_agree inStep readers within fun readers => .ok rfl readers
  · exact grammar_agree _ _

/-- Readers in step read the same entry, the one further down than the other. -/
theorem entry_agree (keyword : String) (line : Nat) :
    Agree (Error.down count) (fun reader other => paired reader other ∧ reader.atLineEnd = true)
      (fun value twin => twin = value.down count) (entry keyword line reader) (entry keyword (line + count) other) := by
  rw [entry, entry]
  cases Part.Kind.ofKeyword? keyword with
  | none => exact Agree.error (Error.unknownKind keyword line)
  | some kind =>
    refine loop_agree (fun readers => inStep.atLineEnd readers) ?_ rfl readers
    rintro entry _ _ _ rfl readers within
    exact item_agree inStep readers entry within

/-- The directive is admitted behind another sketch as it is alone, unless both declare the pin space. -/
theorem directive_agree (front sketch : Sketch) (text : String) (line : Nat)
    (free : front.space = none ∨ Text.lowercase text ≠ ".pins") :
    Agree (Error.down count) (fun reader other => paired reader other ∧ reader.atLineEnd = true)
      (fun value twin => twin = front.above count value) (directive sketch text line reader)
      (directive (front.above count sketch) text (line + count) other) := by
  rw [directive, directive, Sketch.above_admitDirective front sketch count free]
  cases admitted : sketch.admitDirective text with
  | error fault => exact grammar_agree fault line
  | ok =>
    have undeclared : front.space = none := by
      refine free.resolve_right fun other => ?_
      rw [Sketch.admitDirective, if_pos other] at admitted
      cases admitted
    refine (check_agree readers line (.ok ()) id).bind ?_
    rintro _ _ _ _ rfl readers
    refine Agree.bind (loop_agree (fun readers => inStep.atLineEnd readers) ?_ rfl readers) ?_
    · rintro pins _ _ _ rfl readers within
      exact pinName_agree inStep readers line pins within
    · rintro pins _ _ _ rfl readers
      rw [Sketch.above_declare front sketch count undeclared]
      exact check_agree readers line _ _

/-- What is read of a line, and what goes wrong there, is the same so many lines further down, behind another
sketch. -/
theorem lineBody_agree (front sketch : Sketch)
    (free : front.space = none ∨
      ∀ {text}, reader.current.symbol = .directive text → Text.lowercase text ≠ ".pins") :
    Agree (Error.down count) (fun reader other => paired reader other ∧ reader.atLineEnd = true)
      (fun value twin => twin = front.above count value) (lineBody sketch reader)
      (lineBody (front.above count sketch) other) := by
  simp only [lineBody, inStep.symbol readers, inStep.line readers]
  split
  next newline => exact .ok rfl ⟨readers, by simp [Reader.atLineEnd, newline]⟩
  next text directive =>
    have within : reader.atLineEnd = false := by simp [Reader.atLineEnd, Reader.atEnd, directive]
    refine advance_bind_agree inStep readers within fun readers => ?_
    exact directive_agree inStep readers front sketch text _ (free.imp_right fun other => other directive)
  next text word =>
    have within : reader.atLineEnd = false := by simp [Reader.atLineEnd, Reader.atEnd, word]
    refine advance_bind_agree inStep readers within fun readers => ?_
    refine (entry_agree inStep readers text _).bind ?_
    rintro entry _ _ _ rfl readers
    exact .ok (Sketch.above_addEntry front sketch count entry) readers
  next => exact grammar_agree _ _

end Line

end Reading

end Breadboard.Script
