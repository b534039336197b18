import Breadboard.Proofs.Session

/-! # Calls of an editor

A caller opens an editor, asks it for actions and for views of what it holds, and is told of each call what came of
it. `Answers` says what comes of a call in terms of the held circuit alone: an action is an edit written in words, and
it fails if the words cannot be read or the edit fails. `Editor.Conducts` says it of whole sessions: the held circuit
is what the edits of the calls that succeeded make of the first one.
-/

namespace Breadboard

namespace Editor

/-! ## What is asked and what is told -/

/-- How a caller comes to an editor. -/
inductive Start where
  | empty
  | ofText (text : String)
deriving DecidableEq, Repr

inductive Call where
  | act (action : Action)
  | length
  | code
  | claimedPins
  /-- The pins of the reference board that a part of the named kind may be bound to. -/
  | freePins (keyword : String)
deriving DecidableEq, Repr

inductive Reply where
  | done
  | size (count : Nat)
  | code (text : String)
  | pins (names : List String)
  | failure (message : String)
deriving DecidableEq, Repr

/-- The editor, or the message of the error. -/
def Start.open : Start → Except String Editor
  | .empty => .ok .empty
  | .ofText text => (Editor.ofText text).value.mapError SourceError.message

def reply (editor : Editor) : Call → Reply
  | .act action =>
    match (editor.act action).value with
    | .ok _ => .done
    | .error refusal => .failure refusal.message
  | .length => .size editor.length
  | .code => .code editor.code.value
  | .claimedPins => .pins (editor.claimedPins.map Pin.name)
  | .freePins keyword =>
    match editor.freePins keyword with
    | .ok pins => .pins (pins.map Pin.name)
    | .error refusal => .failure refusal.message

/-- The editor after a call. -/
def called (editor : Editor) : Call → Editor
  | .act action => editor.acted action
  | _ => editor

def calledAll (editor : Editor) (calls : List Call) : Editor :=
  calls.foldl called editor

/-- The calls of a session, each with what the caller is told. -/
def transcript (editor : Editor) : List Call → List (Call × Reply)
  | [] => []
  | call :: rest => (call, editor.reply call) :: (editor.called call).transcript rest

/-! ## What comes of a call -/

/-- What a caller is told of a word that names no kind. -/
def unknownKindMessage (keyword : String) : String :=
  "WASM error: unknown component kind '" ++ keyword ++ "'"

/-- What a caller is told of a word that names no state of a power controller. -/
def notAStateMessage (word : String) : String :=
  "expected on/off, got '" ++ word ++ "'"

def NamesKind (keyword : String) (kind : Part.Kind) : Prop :=
  Text.lowercaseAscii keyword ∈ kind.keywords

def NamesState (word : String) (state : Power) : Prop :=
  Text.lowercaseAscii word ∈ state.words

/-- The edit that the words of an action mean. -/
inductive Action.Means : Action → Edit → Prop where
  | add {keyword : String} {kind : Part.Kind} (names : NamesKind keyword kind) : Means (.add keyword) (.add kind)
  | remove (position : Nat) : Means (.remove position) (.remove position)
  | move (source target : Nat) : Means (.move source target) (.move source target)
  | bind (position : Nat) (name : String) : Means (.bind position name) (.change position (.bind ⟨name⟩))
  | wire (position : Nat) (names : List String) :
      Means (.wire position names) (.change position (.coils (names.map Pin.mk)))
  | setValue (position : Nat) (value : Int64) : Means (.setValue position value) (.change position (.value value))
  | setInterval (position : Nat) (interval : Int64) :
      Means (.setInterval position interval) (.change position (.interval interval))
  | setPower (position : Nat) {word : String} {state : Power} (names : NamesState word state) :
      Means (.setPower position word) (.change position (.power state))

/-- The words of an action mean no edit, and what a caller is told of them. -/
inductive Action.Unreadable : Action → String → Prop where
  | add {keyword : String} (unknown : ∀ kind, ¬NamesKind keyword kind) :
      Unreadable (.add keyword) (unknownKindMessage keyword)
  | setPower (position : Nat) {word : String} (unknown : ∀ state, ¬NamesState word state) :
      Unreadable (.setPower position word) (notAStateMessage word)

/-- What a caller is told when the held circuit is `circuit`, and the circuit that is held then. -/
inductive Answers (circuit : Circuit) : Call → Reply → Circuit → Prop where
  | edited {action : Action} {edit : Edit} {after : Circuit} (means : action.Means edit)
      (success : edit.apply circuit = .ok after) : Answers circuit (.act action) .done after
  | refused {action : Action} {edit : Edit} {error : EditError} (means : action.Means edit)
      (failure : edit.apply circuit = .error error) :
      Answers circuit (.act action) (.failure error.message) circuit
  | unreadable {action : Action} {message : String} (unreadable : action.Unreadable message) :
      Answers circuit (.act action) (.failure message) circuit
  | length : Answers circuit .length (.size circuit.parts.length) circuit
  | code : Answers circuit .code (.code (circuit.compile .standard).value) circuit
  | claimedPins : Answers circuit .claimedPins (.pins (circuit.claimedPins.map Pin.name)) circuit
  | freePins {keyword : String} {kind : Part.Kind} (names : NamesKind keyword kind) :
      Answers circuit (.freePins keyword) (.pins ((circuit.freePins kind Pin.reference).map Pin.name)) circuit
  | unknownKind {keyword : String} (unknown : ∀ kind, ¬NamesKind keyword kind) :
      Answers circuit (.freePins keyword) (.failure (unknownKindMessage keyword)) circuit

/-- What comes of opening an editor: a circuit, or a message. -/
inductive Opens : Start → Except String Circuit → Prop where
  | empty : Opens .empty (.ok ⟨[]⟩)
  | ofText {text : String} {sketch : Script.Sketch} {circuit : Circuit}
      (read : Script.Sketch.ofText text = .ok sketch) (built : (Circuit.ofSketch sketch).value = .ok circuit) :
      Opens (.ofText text) (.ok circuit)
  | notASketch {text : String} {error : Script.Error} (failure : Script.Sketch.ofText text = .error error) :
      Opens (.ofText text) (.error error.message)
  | notACircuit {text : String} {sketch : Script.Sketch} {error : Part.EntryError}
      (read : Script.Sketch.ofText text = .ok sketch) (failure : (Circuit.ofSketch sketch).value = .error error) :
      Opens (.ofText text) (.error error.message)

/-! ## Reading words -/

private theorem readKind_eq_ok_iff {keyword : String} {kind : Part.Kind} :
    readKind keyword = .ok kind ↔ NamesKind keyword kind := by
  rw [NamesKind, ← Part.Kind.ofKeyword?_eq_some_iff, readKind]
  cases Part.Kind.ofKeyword? keyword <;> simp

private theorem readKind_of_unknown {keyword : String} (unknown : ∀ kind, ¬NamesKind keyword kind) :
    readKind keyword = .error (.unknownKind keyword) := by
  cases found : Part.Kind.ofKeyword? keyword with
  | some kind => exact absurd (Part.Kind.ofKeyword?_eq_some_iff.mp found) (unknown kind)
  | none => rw [readKind, found]

private theorem exists_namesKind_or_unknown (keyword : String) :
    (∃ kind, NamesKind keyword kind) ∨ ∀ kind, ¬NamesKind keyword kind := by
  rw [← not_exists]
  exact Classical.em _

namespace Action

private theorem Means.read_eq {action : Action} {edit : Edit} (means : action.Means edit) : action.read = .ok edit := by
  cases means with
  | add names => rw [read, readKind_eq_ok_iff.mpr names]; rfl
  | setPower position names => rw [read, Power.ofWord?_eq_some_iff.mpr names]
  | _ => rfl

private theorem Unreadable.read_eq {action : Action} {message : String} (unreadable : action.Unreadable message) :
    ∃ refusal : Refusal, action.read = .error refusal ∧ refusal.message = message := by
  cases unreadable with
  | @add keyword unknown =>
    refine ⟨.unknownKind keyword, ?_, rfl⟩
    rw [read, readKind_of_unknown unknown]
    rfl
  | @setPower position word unknown =>
    refine ⟨.notAState word, ?_, rfl⟩
    cases found : Power.ofWord? word with
    | some state => exact absurd (Power.ofWord?_eq_some_iff.mp found) (unknown state)
    | none => rw [read, found]

/-- The words of an action mean an edit, or they cannot be read. -/
theorem exists_means_or_unreadable (action : Action) :
    (∃ edit, action.Means edit) ∨ ∃ message, action.Unreadable message := by
  cases action with
  | add keyword =>
    rcases exists_namesKind_or_unknown keyword with ⟨kind, names⟩ | unknown
    · exact .inl ⟨_, .add names⟩
    · exact .inr ⟨_, .add unknown⟩
  | remove position => exact .inl ⟨_, .remove position⟩
  | move source target => exact .inl ⟨_, .move source target⟩
  | bind position name => exact .inl ⟨_, .bind position name⟩
  | wire position names => exact .inl ⟨_, .wire position names⟩
  | setValue position value => exact .inl ⟨_, .setValue position value⟩
  | setInterval position interval => exact .inl ⟨_, .setInterval position interval⟩
  | setPower position word =>
    rcases Classical.em (∃ state, NamesState word state) with ⟨state, names⟩ | unknown
    · exact .inl ⟨_, .setPower position names⟩
    · exact .inr ⟨_, .setPower position (not_exists.mp unknown)⟩

end Action

/-! ## Answers of an editor -/

private theorem value_act_of_means {action : Action} {edit : Edit} (means : action.Means edit) (editor : Editor) :
    (editor.act action).value = ((edit.apply editor.circuit).map Editor.mk).mapError .edit := by
  simp only [act, means.read_eq, Noted.value_bind, Edit.perform]
  cases edit.apply editor.circuit <;> rfl

/-- The editor tells and does what comes of a call. -/
theorem Answers.reply_eq {editor : Editor} {call : Call} {reply : Reply} {after : Circuit}
    (answers : Answers editor.circuit call reply after) :
    editor.reply call = reply ∧ editor.called call = ⟨after⟩ := by
  cases answers with
  | edited means success =>
    simp only [Editor.reply, called, acted, value_act_of_means means, success, Except.map, Except.mapError, and_self]
  | refused means failure =>
    simp only [Editor.reply, called, acted, value_act_of_means means, failure, Except.map, Except.mapError]
    exact ⟨rfl, trivial⟩
  | unreadable unreadable =>
    obtain ⟨refusal, read, rfl⟩ := unreadable.read_eq
    simp [Editor.reply, called, acted, act, read]
  | freePins names => simp [Editor.reply, called, Editor.freePins, readKind_eq_ok_iff.mpr names, Except.map]
  | @unknownKind keyword unknown =>
    have told : (Refusal.unknownKind keyword).message = unknownKindMessage keyword := rfl
    simp [Editor.reply, called, Editor.freePins, readKind_of_unknown unknown, Except.map, told]
  | _ => exact ⟨rfl, rfl⟩

/-- There is an answer to every call, in every circuit. -/
theorem exists_answers (circuit : Circuit) (call : Call) : ∃ reply after, Answers circuit call reply after := by
  cases call with
  | act action =>
    rcases action.exists_means_or_unreadable with ⟨edit, means⟩ | ⟨message, unreadable⟩
    · cases result : edit.apply circuit with
      | ok after => exact ⟨_, _, .edited means result⟩
      | error error => exact ⟨_, _, .refused means result⟩
    · exact ⟨_, _, .unreadable unreadable⟩
  | length => exact ⟨_, _, .length⟩
  | code => exact ⟨_, _, .code⟩
  | claimedPins => exact ⟨_, _, .claimedPins⟩
  | freePins keyword =>
    rcases exists_namesKind_or_unknown keyword with ⟨kind, names⟩ | unknown
    · exact ⟨_, _, .freePins names⟩
    · exact ⟨_, _, .unknownKind unknown⟩

/-- What the editor replies, and the circuit that it has then, are an answer to the call. -/
theorem answers (editor : Editor) (call : Call) :
    Answers editor.circuit call (editor.reply call) (editor.called call).circuit := by
  obtain ⟨reply, after, answers⟩ := exists_answers editor.circuit call
  obtain ⟨told, held⟩ := answers.reply_eq
  rwa [told, held]

/-- The editor opens with a circuit, or with an error, exactly as its start says. -/
theorem open_eq_iff {start : Start} {result : Except String Circuit} :
    start.open.map Editor.circuit = result ↔ Opens start result := by
  have total : ∃ result, Opens start result := by
    cases start with
    | empty => exact ⟨_, .empty⟩
    | ofText text =>
      cases read : Script.Sketch.ofText text with
      | error error => exact ⟨_, .notASketch read⟩
      | ok sketch =>
        cases built : (Circuit.ofSketch sketch).value with
        | error error => exact ⟨_, .notACircuit read built⟩
        | ok circuit => exact ⟨_, .ofText read built⟩
  have sound {result : Except String Circuit} (opens : Opens start result) :
      start.open.map Editor.circuit = result := by
    cases opens with
    | empty => rfl
    | ofText read built => simp [Start.open, Editor.ofText, Circuit.ofText, read, built, Except.map, Except.mapError]
    | notASketch failure =>
      simp only [Start.open, Editor.ofText, Circuit.ofText, failure, Noted.value_bind, Noted.value_pure, Except.map,
        Except.mapError]
      rfl
    | notACircuit read failure =>
      simp only [Start.open, Editor.ofText, Circuit.ofText, read, failure, Noted.value_bind, Noted.value_pure,
        Except.map, Except.mapError]
      rfl
  constructor
  · rintro rfl
    obtain ⟨result, opens⟩ := total
    rwa [sound opens]
  · exact sound

/-! ## Sessions -/

/-- The words of an action cannot be read or its edit fails, or a kind is asked for that there is not. -/
def Call.Fails (circuit : Circuit) : Call → Prop
  | .act action => (∀ edit, ¬action.Means edit) ∨
      ∃ edit error, action.Means edit ∧ edit.apply circuit = .error error
  | .freePins keyword => ∀ kind, ¬NamesKind keyword kind
  | _ => False

/-- The actions of a session that were done, in order. -/
def done (transcript : List (Call × Reply)) : List Action :=
  transcript.filterMap fun
    | (.act action, .done) => some action
    | _ => none

/-- Calls one after the other, each answered for the circuit that is held then. -/
inductive Converses : Circuit → List (Call × Reply) → Circuit → Prop where
  | nil (circuit : Circuit) : Converses circuit [] circuit
  | cons {circuit next after : Circuit} {call : Call} {reply : Reply} {rest : List (Call × Reply)}
      (answers : Answers circuit call reply next) (converses : Converses next rest after) :
      Converses circuit ((call, reply) :: rest) after

/-- How an editor conducts itself in a session. -/
structure Conducts (editor : Editor) (calls : List Call) : Prop where
  converses : Converses editor.circuit (editor.transcript calls) (editor.calledAll calls).circuit
  /-- The held circuit is what the edits of the actions that were done make of the first one. -/
  held : ∃ edits, List.Forall₂ Action.Means (done (editor.transcript calls)) edits ∧
    edits.foldlM (fun circuit edit => edit.apply circuit) editor.circuit = .ok (editor.calledAll calls).circuit
  fails_iff : ∀ call, (∃ message, (editor.calledAll calls).reply call = .failure message) ↔
    call.Fails (editor.calledAll calls).circuit
  /-- A call that fails leaves everything as it was. -/
  unchanged : ∀ call message, (editor.calledAll calls).reply call = .failure message →
    (editor.calledAll calls).called call = editor.calledAll calls
  code_eq : (editor.calledAll calls).reply .code =
    .code ((editor.calledAll calls).circuit.compile .standard).value

private theorem converses_transcript (editor : Editor) (calls : List Call) :
    Converses editor.circuit (editor.transcript calls) (editor.calledAll calls).circuit := by
  induction calls generalizing editor with
  | nil => exact .nil _
  | cons call rest ih => exact .cons (editor.answers call) (ih (editor.called call))

private theorem Converses.held {circuit after : Circuit} {transcript : List (Call × Reply)}
    (converses : Converses circuit transcript after) :
    ∃ edits, List.Forall₂ Action.Means (done transcript) edits ∧
      edits.foldlM (fun circuit edit => edit.apply circuit) circuit = .ok after := by
  induction converses with
  | nil circuit => exact ⟨[], .nil, rfl⟩
  | cons answers converses ih =>
    obtain ⟨edits, means, applied⟩ := ih
    cases answers with
    | edited asks success =>
      refine ⟨_ :: edits, .cons asks means, ?_⟩
      rw [List.foldlM_cons, success]
      exact applied
    | _ => exact ⟨edits, means, applied⟩

private theorem Answers.fails_iff {circuit after : Circuit} {call : Call} {reply : Reply}
    (answers : Answers circuit call reply after) : (∃ message, reply = .failure message) ↔ call.Fails circuit := by
  cases answers with
  | edited means success =>
    refine iff_of_false (by simp) ?_
    rintro (unreadable | ⟨edit, error, asks, failure⟩)
    · exact unreadable _ means
    · rw [Except.ok.inj (means.read_eq.symm.trans asks.read_eq), failure] at success
      cases success
  | refused means failure => exact iff_of_true ⟨_, rfl⟩ (.inr ⟨_, _, means, failure⟩)
  | unreadable unreadable =>
    refine iff_of_true ⟨_, rfl⟩ (.inl fun edit means => ?_)
    obtain ⟨refusal, read, -⟩ := unreadable.read_eq
    cases means.read_eq.symm.trans read
  | @freePins keyword kind names => exact iff_of_false (by simp) fun unknown => unknown kind names
  | unknownKind unknown => exact iff_of_true ⟨_, rfl⟩ unknown
  | _ => exact iff_of_false (by simp) id

private theorem Answers.unchanged {circuit after : Circuit} {call : Call} {message : String}
    (answers : Answers circuit call (.failure message) after) : after = circuit := by
  cases answers <;> rfl

/-- An editor opens on the circuit of its text or tells the message of the error, and however an editor is called, it
does what the edits of its circuit do and tells what comes of them. -/
theorem conducts (start : Start) (editor : Editor) (calls : List Call) :
    (∀ result, start.open.map Editor.circuit = result ↔ Opens start result) ∧ editor.Conducts calls := by
  refine ⟨fun _ => open_eq_iff, ?_⟩
  have answered := (editor.calledAll calls).answers
  constructor
  case converses => exact editor.converses_transcript calls
  case held => exact (editor.converses_transcript calls).held
  case fails_iff => exact fun call => (answered call).fails_iff
  case unchanged =>
    intro call message failed
    have told := answered call
    rw [failed] at told
    exact congrArg Editor.mk told.unchanged
  case code_eq => rfl

/-- A word that names no state is told of before a position that is out of bounds. -/
example : transcript ⟨⟨[.power (some ⟨"D2"⟩) .off]⟩⟩ [.act (.setPower 7 "dim"), .act (.setPower 7 "High")] =
    [(.act (.setPower 7 "dim"), .failure "expected on/off, got 'dim'"),
      (.act (.setPower 7 "High"), .failure "Position 7 is out of bounds for a circuit of 1 components")] := by
  decide +kernel

end Editor

end Breadboard
