import Breadboard.Command.Execute

/-! # A directory in memory

A working directory that holds files and no other directories. Paths are resolved as a file system does it: a
dot is the directory itself, two dots lead outside, a file cannot be passed through, and neither a path nor a
name in it may be too long. Outside, there are directories to be reached by dots, and files can be written, but
what is written there is not kept.
-/

namespace Breadboard.Command

structure Directory where
  files : List (String × ByteArray)

namespace Directory

def empty : Directory := ⟨[]⟩

def content? (directory : Directory) (name : String) : Option ByteArray :=
  (directory.files.find? fun file => file.1 = name).map Prod.snd

/-- Gives a name its content, in place of any that it had. -/
def put (directory : Directory) (name : String) (content : ByteArray) : Directory :=
  ⟨(name, content) :: directory.files.filter fun file => file.1 ≠ name⟩

/-- Putting a file changes what that name holds, and leaves the other names alone. -/
theorem content?_put (directory : Directory) (name other : String) (content : ByteArray) :
    (directory.put name content).content? other =
      if name = other then some content else directory.content? other := by
  by_cases same : name = other
  · simp [content?, put, same]
  · simp only [content?, put, List.find?_cons, same, decide_false, if_false, List.find?_filter]
    congr 1
    refine congrArg (fun test => List.find? test directory.files) (funext fun file => ?_)
    grind

/-- What a path leads to: a directory, or a name in the working directory or in one outside it. -/
inductive Place where
  | directory
  | name (isInside : Bool) (name : String)
deriving DecidableEq, Repr

/-- The greatest size of a path, in bytes. -/
def pathLimit : Nat := 4095

/-- The greatest size of a name, in bytes. -/
def nameLimit : Nat := 255

def isLongName (name : String) : Bool :=
  nameLimit < name.utf8ByteSize

/-- Follows the names of a path from a directory. The last name is not looked up. -/
def follow (directory : Directory) (isInside : Bool) : List String → Except FileFault Place
  | [] => .ok .directory
  | step :: rest =>
    if step = "." then follow directory isInside rest
    else if step = ".." then follow directory false rest
    else if rest.isEmpty then .ok (.name isInside step)
    else if isLongName step then .error .nameTooLong
    else if isInside && (directory.content? step).isSome then .error .notADirectory
    else .error .notFound

/-- The nonempty names of a path, from front to back. -/
def pathNames : List Char → List Char → List String
  | [], [] => []
  | name, [] => [String.ofList name.reverse]
  | name, c :: rest =>
    if c ≠ '/' then pathNames (c :: name) rest
    else if name.isEmpty then pathNames [] rest
    else String.ofList name.reverse :: pathNames [] rest

def locate (directory : Directory) (path : String) : Except FileFault Place :=
  if pathLimit < path.utf8ByteSize then .error .nameTooLong
  else directory.follow (path.toList.head? ≠ some '/') (pathNames [] path.toList)

/-- The path can only mean a directory. -/
def endsInSlash (path : String) : Bool :=
  path.toList.getLast? = some '/'

def read (directory : Directory) (path : String) : Except FileFault ByteArray := do
  match ← directory.locate path with
  | .directory => .error .isADirectory
  | .name isInside name =>
    if isLongName name then .error .nameTooLong
    else
      match if isInside then directory.content? name else none with
      | none => .error .notFound
      | some content => if endsInSlash path then .error .notADirectory else .ok content

/-- A path that ends in a slash is refused before its last name is looked at. -/
def write (directory : Directory) (path text : String) : Except FileFault Directory := do
  match ← directory.locate path with
  | .directory => .error .isADirectory
  | .name isInside name =>
    if endsInSlash path then .error .isADirectory
    else if isLongName name then .error .nameTooLong
    else .ok (if isInside then directory.put name text.toUTF8 else directory)

/-- Reading from and writing to the directory of the state. -/
def access : Files (StateM Directory) where
  read path := do return (← get).read path
  write path text := do
    match (← get).write path text with
    | .ok after => set after; return .ok ()
    | .error fault => return .error fault

end Directory

end Breadboard.Command
