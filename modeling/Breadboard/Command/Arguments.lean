import Breadboard.Command.Run

/-! # Command-line arguments

The command takes one sketch file and some options. Options may stand before or after the file; those of one
letter may be grouped, and the last of a group may be joined with its value. Everything behind `--` is a file.
Arguments are read from left to right and the first that does not fit is the error; asking for the version ends
the reading.
-/

namespace Breadboard.Command

inductive Invocation where
  | compile (options : Options)
  | version
deriving DecidableEq, Repr

inductive UsageError where
  | missingInput
  | unexpectedArgument (text : String)
  | unknownOption (text : String)
  | repeatedOption (name : String)
  | missingValue (name : String)
  | unexpectedValue (name : String)
  | emptyPath
deriving DecidableEq, Repr

def UsageError.message : UsageError → String
  | .missingInput => "the sketch file is missing"
  | .unexpectedArgument text => s!"unexpected argument '{text}'"
  | .unknownOption text => s!"unknown option '{text}'"
  | .repeatedOption name => s!"the option '{name}' was given twice"
  | .missingValue name => s!"the option '{name}' needs a value"
  | .unexpectedValue name => s!"the option '{name}' takes no value"
  | .emptyPath => "a path is empty"

inductive Flag where
  | noComments
  | reportPins
  | verbose
deriving DecidableEq, Repr

def Flag.name : Flag → String
  | .noComments => "no-comments"
  | .reportPins => "used-pins"
  | .verbose => "verbose"

/-- What the arguments read so far have set. -/
structure Draft where
  input : Option String
  output : Option String
  flags : List Flag
deriving DecidableEq, Repr

namespace Draft

def empty : Draft := ⟨none, none, []⟩

def setFlag (draft : Draft) (flag : Flag) : Except UsageError Draft :=
  if flag ∈ draft.flags then .error (.repeatedOption flag.name)
  else .ok { draft with flags := flag :: draft.flags }

def setOutput (draft : Draft) (path : String) : Except UsageError Draft :=
  if draft.output.isSome then .error (.repeatedOption "output")
  else if path.isEmpty then .error .emptyPath
  else .ok { draft with output := some path }

def setInput (draft : Draft) (path : String) : Except UsageError Draft :=
  if draft.input.isSome then .error (.unexpectedArgument path)
  else if path.isEmpty then .error .emptyPath
  else .ok { draft with input := some path }

def finish (draft : Draft) : Except UsageError Invocation :=
  match draft.input with
  | none => .error .missingInput
  | some input =>
    .ok (.compile ⟨input, draft.output, .noComments ∉ draft.flags, .reportPins ∈ draft.flags,
      .verbose ∈ draft.flags⟩)

end Draft

/-- The form of one argument. A lone dash is a file. -/
inductive Argument where
  | file (path : String)
  | endOfOptions
  | long (name : String) (value : Option String)
  | group (letters : List Char)
deriving DecidableEq, Repr

/-- The text before the first equals sign, and the text behind it, if there is one. -/
def splitValue : List Char → List Char × Option (List Char)
  | [] => ([], none)
  | c :: rest => if c = '=' then ([], some rest) else ((c :: (splitValue rest).1), (splitValue rest).2)

def Argument.ofText (text : String) : Argument :=
  match text.toList with
  | ['-', '-'] => .endOfOptions
  | '-' :: '-' :: rest =>
    let (name, value) := splitValue rest
    .long (String.ofList name) (value.map String.ofList)
  | '-' :: c :: rest => .group (c :: rest)
  | _ => .file text

/-- Where an option leaves the reading. -/
inductive Progress where
  | ready (draft : Draft)
  /-- The next argument is the path of the output. -/
  | awaitsOutput (draft : Draft)
  | version
deriving DecidableEq, Repr

def readLong (draft : Draft) (name : String) (value : Option String) : Except UsageError Progress :=
  match name, value with
  | "output", some path => (draft.setOutput path).map .ready
  | "output", none => .ok (.awaitsOutput draft)
  | "version", none => .ok .version
  | "no-comments", none => (draft.setFlag .noComments).map .ready
  | "used-pins", none => (draft.setFlag .reportPins).map .ready
  | "verbose", none => (draft.setFlag .verbose).map .ready
  | name, value =>
    if value.isSome ∧ name ∈ ["version", "no-comments", "used-pins", "verbose"] then .error (.unexpectedValue name)
    else .error (.unknownOption ("--" ++ name))

/-- Options of one letter each. What follows `o` in its group is its value, behind an equals sign or not. -/
def readGroup (draft : Draft) : List Char → Except UsageError Progress
  | [] => .ok (.ready draft)
  | 'v' :: rest => do readGroup (← draft.setFlag .verbose) rest
  | 'V' :: _ => .ok .version
  | ['o'] => .ok (.awaitsOutput draft)
  | 'o' :: '=' :: path => (draft.setOutput (String.ofList path)).map .ready
  | 'o' :: path => (draft.setOutput (String.ofList path)).map .ready
  | c :: _ => .error (.unknownOption ("-" ++ c.toString))

def readFiles (draft : Draft) (paths : List String) : Except UsageError Invocation := do
  (← paths.foldlM Draft.setInput draft).finish

def readArguments (draft : Draft) : List String → Except UsageError Invocation
  | [] => draft.finish
  | text :: rest => do
    let progress ←
      match Argument.ofText text with
      | .endOfOptions => return ← readFiles draft rest
      | .file path => (draft.setInput path).map Progress.ready
      | .long name value => readLong draft name value
      | .group letters => readGroup draft letters
    match progress with
    | .ready draft => readArguments draft rest
    | .version => return .version
    | .awaitsOutput draft =>
      match rest with
      | [] => throw (.missingValue "output")
      | value :: rest =>
        match Argument.ofText value with
        | .file path => readArguments (← draft.setOutput path) rest
        | _ => throw (.missingValue "output")

def Invocation.ofArguments (arguments : List String) : Except UsageError Invocation :=
  readArguments .empty arguments

end Breadboard.Command
