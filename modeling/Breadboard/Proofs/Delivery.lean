import Breadboard.Command.Directory
import Breadboard.Editor
import Breadboard.Proofs.Provenance

/-! # Where the result of a run goes

A run reads its input once and then writes one file at most. An input gives a circuit with a pin space, or it is
unusable for one of four reasons. `prepare` settles which of the two, so a run is one of four: it fails before anything
is touched, it prints, it writes, or its write fails. Files are any actions on a state; of these it is asked only that
reading leaves the state and that the output can be read back where it was written. The log is any function of the
notices.

Main statement: `run_delivers`.
-/

namespace Breadboard.Command

open Script

/-- Bytes are read as a text exactly when they are its encoding. -/
theorem fromUTF8?_eq_some_iff {bytes : ByteArray} {text : String} :
    String.fromUTF8? bytes = some text ↔ bytes = text.toUTF8 := by
  constructor
  · intro decoded
    unfold String.fromUTF8? at decoded
    split at decoded
    next => cases decoded; rfl
    next => cases decoded
  · rintro rfl
    simp only [String.fromUTF8?, String.toUTF8_eq_toByteArray, dif_pos text.isValidUTF8]
    rfl

/-! ## Inputs -/

/-- The content is a text that gives the circuit, and the pins are those its report is about. -/
inductive Loads : Except FileFault ByteArray → Circuit → List Pin → Prop where
  | text {text : String} {sketch : Sketch} {circuit : Circuit} (read : Sketch.ofText text = .ok sketch)
      (built : (Circuit.ofSketch sketch).value = .ok circuit) :
      Loads (.ok text.toUTF8) circuit (sketch.space.getD Pin.reference)

/-- The content gives no circuit. -/
inductive Unusable : Except FileFault ByteArray → Prop where
  | unreadable (fault : FileFault) : Unusable (.error fault)
  | notText {bytes : ByteArray} (undecodable : ∀ text : String, bytes ≠ text.toUTF8) : Unusable (.ok bytes)
  | notASketch {text : String} {error : Script.Error} (refused : Sketch.ofText text = .error error) :
      Unusable (.ok text.toUTF8)
  | notACircuit {text : String} {sketch : Sketch} {error : Part.EntryError} (read : Sketch.ofText text = .ok sketch)
      (refused : (Circuit.ofSketch sketch).value = .error error) : Unusable (.ok text.toUTF8)

/-- A content loads as a circuit and its space, or is of no use. -/
theorem loads_or_unusable (content : Except FileFault ByteArray) :
    (∃ circuit space, Loads content circuit space) ∨ Unusable content := by
  cases content with
  | error fault => exact .inr (.unreadable fault)
  | ok bytes =>
    cases decoded : String.fromUTF8? bytes with
    | none =>
      refine .inr (.notText fun text same => ?_)
      rw [fromUTF8?_eq_some_iff.mpr same] at decoded
      cases decoded
    | some text =>
      rw [fromUTF8?_eq_some_iff.mp decoded]
      cases read : Sketch.ofText text with
      | error error => exact .inr (.notASketch read)
      | ok sketch =>
        cases built : (Circuit.ofSketch sketch).value with
        | error error => exact .inr (.notACircuit read built)
        | ok circuit => exact .inl ⟨circuit, _, .text read built⟩

private theorem Loads.value_ofText {text : String} {circuit : Circuit} {space : List Pin}
    (loads : Loads (.ok text.toUTF8) circuit space) : (Circuit.ofText text).value = .ok circuit := by
  generalize same : Except.ok text.toUTF8 = content at loads
  obtain @⟨twin, sketch, circuit, read, built⟩ := loads
  cases String.toByteArray_inj.mp (Except.ok.inj same)
  simp only [Circuit.ofText, read, Noted.value_bind, built]
  rfl

/-- The encoding of a text that gives a circuit loads as that circuit. -/
theorem exists_loads {text : String} {circuit : Circuit} (built : (Circuit.ofText text).value = .ok circuit) :
    ∃ sketch, Sketch.ofText text = .ok sketch ∧
      Loads (.ok text.toUTF8) circuit (sketch.space.getD Pin.reference) := by
  cases read : Sketch.ofText text with
  | error error => rw [Circuit.ofText, read] at built; cases built
  | ok sketch =>
    rw [Circuit.ofText, read] at built
    exact ⟨sketch, rfl, .text read (except_mapError_eq_ok_iff.mp built)⟩

section Prepare

variable {content : Except FileFault ByteArray}

private theorem Loads.value_prepare {circuit : Circuit} {space : List Pin} (loads : Loads content circuit space)
    (options : Options) : (prepare options content).value = .ok (deliver options circuit space).value := by
  cases loads with
  | text read built =>
    simp only [prepare, fromUTF8?_eq_some_iff.mpr rfl, read, Noted.value_bind, built, Noted.value_pure]

private theorem Unusable.value_prepare (unusable : Unusable content) (options : Options) :
    ∃ failure, (prepare options content).value = .error failure := by
  cases unusable with
  | unreadable fault => exact ⟨.read options.input fault, rfl⟩
  | @notText bytes undecodable =>
    cases decoded : String.fromUTF8? bytes with
    | none => exact ⟨.read options.input .notText, by simp only [prepare, decoded, Noted.value_pure]⟩
    | some text => exact absurd (fromUTF8?_eq_some_iff.mp decoded) (undecodable text)
  | @notASketch text error refused =>
    exact ⟨.source (.script error), by simp only [prepare, fromUTF8?_eq_some_iff.mpr rfl, refused, Noted.value_pure]⟩
  | @notACircuit text sketch error read refused =>
    refine ⟨.source (.entry error), ?_⟩
    simp only [prepare, fromUTF8?_eq_some_iff.mpr rfl, read, Noted.value_bind, refused, Noted.value_pure]

/-- No content is both. -/
theorem Unusable.not_loads (unusable : Unusable content) {circuit : Circuit} {space : List Pin} :
    ¬Loads content circuit space := by
  intro loads
  obtain ⟨failure, failed⟩ := unusable.value_prepare ⟨"", none, true, true, true⟩
  rw [loads.value_prepare] at failed
  cases failed

end Prepare

/-! ## Runs -/

section Runs

variable {σ : Type} (log : Logger) (files : Files (StateM σ)) (options : Options) (state : σ)

/-- What reading a path gives. -/
def contentAt (path : String) (state : σ) : Except FileFault ByteArray :=
  ((files.read path).run state).1

/-- What the options make of a circuit. -/
def sourceText (circuit : Circuit) : String :=
  (circuit.compile ⟨options.annotate, "  "⟩).value

/-- Reading leaves the files as they are. -/
def ReadsOnly : Prop :=
  ∀ path state, ((files.read path).run state).2 = state

/-- What is written at the path can be read there. -/
def Keeps (path : String) : Prop :=
  ∀ text state, ((files.write path text).run state).1 = .ok () →
    contentAt files path ((files.write path text).run state).2 = .ok text.toUTF8

/-- How a run ends once it has settled what to deliver, with the files it leaves. -/
def conclude (prepared : Noted (Except Failure Delivery)) : Outcome × σ :=
  match prepared.value with
  | .error failure => (failed log options prepared.notices failure, state)
  | .ok (.print text) => (⟨0, text, log options.leastLogged prepared.notices⟩, state)
  | .ok (.write path text) =>
    let (result, after) := (files.write path text).run state
    match result with
    | .ok () => (⟨0, "", log options.leastLogged (prepared.notices ++ [.wrote path])⟩, after)
    | .error fault => (failed log options prepared.notices (.write path fault), after)

variable {log files options state}

private theorem code_conclude (prepared : Noted (Except Failure Delivery)) :
    (conclude log files options state prepared).1.code = 0 ∨ (conclude log files options state prepared).1.code = 1 := by
  rcases prepared with ⟨failure | text | ⟨path, text⟩, notices⟩
  · exact .inr rfl
  · exact .inl rfl
  · simp only [conclude]
    rcases (files.write path text).run state with ⟨fault | _, after⟩
    · exact .inr rfl
    · exact .inl rfl

private theorem run_eq (reads : ReadsOnly files) :
    (run log files options).run state =
      conclude log files options state (prepare options (contentAt files options.input state)) := by
  -- What follows the reading starts from the same files.
  obtain ⟨content, found⟩ : ∃ content, files.read options.input state = (content, state) :=
    ⟨_, Prod.ext rfl (reads options.input state)⟩
  simp only [run, contentAt, bind, StateT.bind, StateT.run, conclude, found]
  rcases prepare options content with ⟨failure | text | ⟨path, text⟩, notices⟩
  · rfl
  · rfl
  · simp only [StateT.bind]
    rcases files.write path text state with ⟨fault | _, after⟩ <;> rfl

/-! The four ends of a run. -/

private theorem run_of_unusable (reads : ReadsOnly files) (unusable : Unusable (contentAt files options.input state)) :
    ∃ errors, (run log files options).run state = (⟨1, "", errors⟩, state) := by
  obtain ⟨failure, found⟩ := unusable.value_prepare options
  simp only [run_eq reads, conclude, found]
  exact ⟨_, rfl⟩

section Loaded

variable {circuit : Circuit} {space : List Pin}

/-- A run that is asked for the pins prints them, warns of stray ones, and writes nothing. -/
theorem run_of_report (reads : ReadsOnly files) (loads : Loads (contentAt files options.input state) circuit space)
    (asked : options.reportPins = true) :
    (run log files options).run state =
      (⟨0, pinLine "used" circuit.claimedPins ++ pinLine "free" (circuit.freePins .light space),
        log options.leastLogged (prepare options (contentAt files options.input state)).notices⟩, state) := by
  have delivered : (deliver options circuit space).value =
      .print (pinLine "used" circuit.claimedPins ++ pinLine "free" (circuit.freePins .light space)) := by
    simp [deliver, asked, pinReport]
  simp only [run_eq reads, conclude, loads.value_prepare, delivered]

private theorem run_of_print (reads : ReadsOnly files)
    (loads : Loads (contentAt files options.input state) circuit space)
    (unasked : options.reportPins = false) (nowhere : options.output = none) :
    (run log files options).run state =
      (⟨0, sourceText options circuit,
        log options.leastLogged (prepare options (contentAt files options.input state)).notices⟩, state) := by
  have delivered : (deliver options circuit space).value = .print (sourceText options circuit) := by
    simp [deliver, unasked, nowhere, sourceText, Style.standard]
  simp only [run_eq reads, conclude, loads.value_prepare, delivered]

private theorem run_of_write (reads : ReadsOnly files)
    (loads : Loads (contentAt files options.input state) circuit space)
    (unasked : options.reportPins = false) {path : String} (target : options.output = some path) :
    ∃ errors, (run log files options).run state =
      (⟨match ((files.write path (sourceText options circuit)).run state).1 with
        | .ok () => 0
        | .error _ => 1, "", errors⟩, ((files.write path (sourceText options circuit)).run state).2) := by
  have delivered : (deliver options circuit space).value = .write path (sourceText options circuit) := by
    simp [deliver, unasked, target, sourceText, Style.standard]
  simp only [run_eq reads, conclude, loads.value_prepare, delivered]
  rcases (files.write path (sourceText options circuit)).run state with ⟨fault | _, after⟩ <;> exact ⟨_, rfl⟩

end Loaded

/-- A run fails exactly when its input is of no use, or its output cannot be written. -/
theorem code_eq_one_iff (reads : ReadsOnly files) : ((run log files options).run state).1.code = 1 ↔
    Unusable (contentAt files options.input state) ∨
      ∃ circuit space path fault, Loads (contentAt files options.input state) circuit space ∧
        options.reportPins = false ∧ options.output = some path ∧
        ((files.write path (sourceText options circuit)).run state).1 = .error fault := by
  constructor
  · intro failed
    rcases loads_or_unusable (contentAt files options.input state) with ⟨circuit, space, loads⟩ | unusable
    · cases asked : options.reportPins with
      | true =>
        rw [run_of_report reads loads asked] at failed
        cases failed
      | false =>
        cases target : options.output with
        | none =>
          rw [run_of_print reads loads asked target] at failed
          cases failed
        | some path =>
          obtain ⟨errors, ran⟩ := run_of_write reads loads asked target
          rw [ran] at failed
          cases written : ((files.write path (sourceText options circuit)).run state).1 with
          | ok => rw [written] at failed; cases failed
          | error fault => exact .inr ⟨circuit, space, path, fault, loads, rfl, rfl, written⟩
    · exact .inl unusable
  · rintro (unusable | ⟨circuit, space, path, fault, loads, unasked, target, stopped⟩)
    · obtain ⟨errors, ran⟩ := run_of_unusable reads unusable
      rw [ran]
    · obtain ⟨errors, ran⟩ := run_of_write reads loads unasked target
      rw [ran, stopped]

/-- With `verbose` a run differs in what it logs only. -/
theorem run_verbose (reads : ReadsOnly files) (verbose : Bool) :
    ∃ errors, (run log files { options with verbose := verbose }).run state =
      ({ ((run log files options).run state).1 with errors := errors }, ((run log files options).run state).2) := by
  have same : prepare { options with verbose := verbose } = prepare options := rfl
  rw [run_eq reads, run_eq reads, same]
  rcases prepare options (contentAt files options.input state) with ⟨failure | text | ⟨path, text⟩, notices⟩
  · exact ⟨_, rfl⟩
  · exact ⟨_, rfl⟩
  · simp only [conclude]
    rcases (files.write path text).run state with ⟨fault | _, after⟩ <;> exact ⟨_, rfl⟩

/-- What a run leaves to its caller and in the files, by what its input loads and what its options ask for. -/
structure Delivers (log : Logger) (files : Files (StateM σ)) (options : Options) (state : σ) (outcome : Outcome)
    (after : σ) : Prop where
  exits : outcome.code = 0 ∨ outcome.code = 1
  fails_iff : outcome.code = 1 ↔ Unusable (contentAt files options.input state) ∨
    ∃ circuit space path fault, Loads (contentAt files options.input state) circuit space ∧
      options.reportPins = false ∧ options.output = some path ∧
      ((files.write path (sourceText options circuit)).run state).1 = .error fault
  refused : Unusable (contentAt files options.input state) → outcome.output = "" ∧ after = state
  reported : ∀ {circuit space}, Loads (contentAt files options.input state) circuit space →
    options.reportPins = true → after = state ∧
      outcome.output = pinLine "used" circuit.claimedPins ++ pinLine "free" (circuit.freePins .light space)
  printed : ∀ {circuit space}, Loads (contentAt files options.input state) circuit space →
    options.reportPins = false → options.output = none → after = state ∧ outcome.output = sourceText options circuit
  written : ∀ {circuit space path}, Loads (contentAt files options.input state) circuit space →
    options.reportPins = false → options.output = some path → outcome.output = "" ∧
      after = ((files.write path (sourceText options circuit)).run state).2 ∧
      (outcome.code = 0 → contentAt files path after = .ok (sourceText options circuit).toUTF8)
  verbose : ∀ verbose, ∃ errors,
    (run log files { options with verbose := verbose }).run state = ({ outcome with errors := errors }, after)
  /-- Without options the output is what an editor of the text shows. -/
  editor : ∀ {text}, contentAt files options.input state = .ok text.toUTF8 → options.annotate = true →
    options.reportPins = false → options.output = none →
      (outcome.code = 1 ↔ ∃ error, (Editor.ofText text).value = .error error) ∧
      ∀ editor, (Editor.ofText text).value = .ok editor → outcome.output = editor.code.value

/-- A run that prints agrees with an editor that is opened on the same text. -/
theorem run_of_text (reads : ReadsOnly files) {text : String}
    (content : contentAt files options.input state = .ok text.toUTF8) (annotated : options.annotate = true)
    (unasked : options.reportPins = false) (nowhere : options.output = none) :
    (((run log files options).run state).1.code = 1 ↔ ∃ error, (Editor.ofText text).value = .error error) ∧
      ∀ editor, (Editor.ofText text).value = .ok editor →
        ((run log files options).run state).1.output = editor.code.value := by
  have opened : (Editor.ofText text).value = (Circuit.ofText text).value.map Editor.mk := rfl
  rw [opened]
  rcases loads_or_unusable (contentAt files options.input state) with ⟨circuit, space, loads⟩ | unusable
  · rw [run_of_print reads loads unasked nowhere]
    rw [content] at loads
    rw [loads.value_ofText]
    refine ⟨⟨nofun, nofun⟩, fun editor same => ?_⟩
    cases same
    rw [sourceText, annotated]
    rfl
  · obtain ⟨errors, ran⟩ := run_of_unusable reads unusable
    rw [content] at unusable
    cases built : (Circuit.ofText text).value with
    | ok circuit =>
      obtain ⟨sketch, -, loads⟩ := exists_loads built
      exact absurd loads unusable.not_loads
    | error error =>
      rw [ran]
      exact ⟨⟨fun _ => ⟨error, rfl⟩, fun _ => rfl⟩, nofun⟩

/-- A run leaves its result in one place: on a failure and after a report the files are as before, and otherwise the
text of the program is all of the output or all of the file that was named for it. -/
theorem run_delivers (reads : ReadsOnly files) (keeps : ∀ path, options.output = some path → Keeps files path) :
    Delivers log files options state ((run log files options).run state).1 ((run log files options).run state).2 := by
  constructor
  case exits =>
    rw [run_eq reads]
    exact code_conclude _
  case fails_iff => exact code_eq_one_iff reads
  case refused =>
    intro unusable
    obtain ⟨errors, ran⟩ := run_of_unusable reads unusable
    rw [ran]
    exact ⟨rfl, rfl⟩
  case reported =>
    intro circuit space loads asked
    rw [run_of_report reads loads asked]
    exact ⟨rfl, rfl⟩
  case printed =>
    intro circuit space loads unasked nowhere
    rw [run_of_print reads loads unasked nowhere]
    exact ⟨rfl, rfl⟩
  case written =>
    intro circuit space path loads unasked target
    obtain ⟨errors, ran⟩ := run_of_write reads loads unasked target
    rw [ran]
    refine ⟨rfl, rfl, fun success => keeps path target _ _ ?_⟩
    cases written : ((files.write path (sourceText options circuit)).run state).1 with
    | ok => rfl
    | error fault => rw [written] at success; cases success
  case verbose => exact run_verbose reads
  case editor => exact run_of_text reads

end Runs

/-! ## Runs in a directory in memory -/

/-- Reading from the directory leaves it as it is. -/
theorem Directory.readsOnly_access : ReadsOnly access :=
  fun _ _ => rfl

private theorem Directory.write_eq_ok_iff {directory after : Directory} {path name text : String}
    (leads : directory.locate path = .ok (.name true name)) : directory.write path text = .ok after ↔
      endsInSlash path = false ∧ isLongName name = false ∧ after = directory.put name text.toUTF8 := by
  have unfolded : directory.write path text =
      if endsInSlash path then .error .isADirectory
      else if isLongName name then .error .nameTooLong
      else .ok (directory.put name text.toUTF8) := by
    rw [write, leads]
    rfl
  rw [unfolded]
  cases endsInSlash path <;> cases isLongName name <;> simp [eq_comm]

/-- A name in the working directory keeps what is written to it, whatever files are there. -/
theorem Directory.keeps_access {path name : String}
    (leads : ∀ directory : Directory, directory.locate path = .ok (.name true name)) : Keeps access path := by
  intro text directory success
  cases written : directory.write path text with
  | error fault =>
    have failed : (access.write path text).run directory = (.error fault, directory) := by
      simp only [access, StateT.run_bind, StateT.run_get, pure_bind, written]
      rfl
    rw [failed] at success
    cases success
  | ok after =>
    obtain ⟨file, short, rfl⟩ := (write_eq_ok_iff (leads directory)).mp written
    have succeeded : (access.write path text).run directory = (.ok (), directory.put name text.toUTF8) := by
      simp only [access, StateT.run_bind, StateT.run_get, pure_bind, written]
      rfl
    rw [succeeded]
    change (directory.put name text.toUTF8).read path = .ok text.toUTF8
    rw [read, leads]
    simp [bind, Except.bind, short, content?_put, file]

/-- An old output file is replaced. -/
theorem run_delivers_over_old :
    (∀ path, some "blink.ino" = some path → Keeps Directory.access path) ∧
      Delivers logText Directory.access ⟨"blink.sketch", some "blink.ino", true, false, false⟩
        ⟨[("blink.sketch", "toggle D1 500\n".toUTF8), ("blink.ino", "old".toUTF8)]⟩
        ((run logText Directory.access ⟨"blink.sketch", some "blink.ino", true, false, false⟩).run
          ⟨[("blink.sketch", "toggle D1 500\n".toUTF8), ("blink.ino", "old".toUTF8)]⟩).1
        ((run logText Directory.access ⟨"blink.sketch", some "blink.ino", true, false, false⟩).run
          ⟨[("blink.sketch", "toggle D1 500\n".toUTF8), ("blink.ino", "old".toUTF8)]⟩).2 := by
  have keeps : ∀ path, some "blink.ino" = some path → Keeps Directory.access path := by
    intro path same
    cases same
    exact Directory.keeps_access fun directory => by rfl
  exact ⟨keeps, run_delivers Directory.readsOnly_access keeps⟩

end Breadboard.Command
