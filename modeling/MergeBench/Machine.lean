import MergeBench.Diagnostics
import MergeBench.Fault
import MergeBench.FileSystem.Change

/-!
What an activity works on: files, environment, the two output streams, diagnostics and the clock.
An activity that ends early keeps what it has done until then.
-/

namespace MergeBench

structure Machine where
  files : FileSystem
  environment : Environment
  directory : Location
  output : Bytes
  errors : Bytes
  diagnostics : Diagnostics
  /-- Microseconds since the start of 1970. -/
  clock : Nat
  executable : String
  arguments : List String
  deriving Repr

abbrev Act (α : Type) : Type :=
  ExceptT Fault (StateM Machine) α

namespace Machine

def write (m : Machine) (bytes : Bytes) : Machine :=
  { m with output := m.output ++ bytes }

def writeError (m : Machine) (bytes : Bytes) : Machine :=
  { m with errors := m.errors ++ bytes }

def lineBytes (line : String) : Bytes :=
  Text.encode (line ++ "\n")

def report (m : Machine) (r : Record) : Machine :=
  let m :=
    match m.diagnostics.shown r with
    | some line => m.writeError (lineBytes line)
    | none => m
  { m with diagnostics := m.diagnostics.keep r }

end Machine

def printLine (line : String) : Act Unit :=
  modify (·.write (Machine.lineBytes line))

def printErrorLine (line : String) : Act Unit :=
  modify (·.writeError (Machine.lineBytes line))

def report (level : Level) (source : Source) (text : String) : Act Unit :=
  modify (·.report ⟨level, source, text⟩)

def timeStamp : Act String := do
  return (Moment.ofClock (← get).clock).stamp

def lift {ε α : Type} (fault : ε → Fault) (r : Except ε α) : Act α :=
  match r with
  | .ok a => pure a
  | .error e => throw (fault e)

def onPath {α : Type} (path : String) (r : Except SystemError α) : Act α :=
  lift (fun cause => .file ⟨cause, some path, none⟩) r

def hasNull (s : String) : Bool :=
  s.toList.contains '\x00'

def checkPath (path : String) : Act Unit :=
  if hasNull path then throw .nullCharacter else pure ()

/-- What is at a path, links followed; a path with a NUL leads nowhere. -/
def entryAt (path : String) : Act (Option Entry) := do
  let m ← get
  if hasNull path then return none
  else onPath path (m.files.entryAt m.directory path)

def pathExists (path : Path) : Act Bool := do
  return (← entryAt path.text).isSome

def isDirectory (path : Path) : Act Bool := do
  match ← entryAt path.text with
  | some .directory => return true
  | _ => return false

def isFile (path : Path) : Act Bool := do
  match ← entryAt path.text with
  | some (.file ..) => return true
  | _ => return false

def expandHome (path : Path) : Act Path := do
  lift .home (path.expandHome (← get).environment)

/-- The current directory, if it has not been removed. -/
def currentDirectory : Act Location := do
  let m ← get
  if m.files.hasDirectory m.directory then return m.directory
  else throw (.file ⟨.noEntry, none, none⟩)

/-- The path with all its links resolved, whether or not it leads anywhere. -/
def resolve (path : Path) : Act Path := do
  checkPath path.text
  let here ← if path.isAbsolute then pure [] else currentDirectory
  let m ← get
  let found := m.files.realLocation here path.text
  match m.files.find true [] found.text with
  | .error .tooManyLinks => throw (.linkLoop found.text)
  | _ => return found.path

def readText (path : Path) : Act String := do
  let m ← get
  checkPath path.text
  let bytes ← onPath path.text (m.files.readFile m.directory path.text)
  lift .encoding (Text.decodeText bytes)

/-- Makes a directory, which may be there already. Tells whether the one above it is there. -/
def makeDirectory (path : Path) : Act Bool := do
  checkPath path.text
  let m ← get
  match m.files.makeDirectory m.directory path.text with
  | .ok files =>
    set { m with files := files }
    return true
  | .error .noEntry => return false
  | .error cause =>
    if ← isDirectory path then return true
    else throw (.file ⟨cause, some path.text, none⟩)

def makeDirectories : Nat → Path → Act Unit
  | 0, path => throw (.file ⟨.noEntry, some path.text, none⟩)
  | fuel + 1, path => do
    if !(← makeDirectory path) then
      if path.parent == path then throw (.file ⟨.noEntry, some path.text, none⟩)
      makeDirectories fuel path.parent
      if !(← makeDirectory path) then throw (.file ⟨.noEntry, some path.text, none⟩)

def ensureDirectory (path : Path) : Act Unit :=
  makeDirectories (path.names.length + 1) path

end MergeBench
