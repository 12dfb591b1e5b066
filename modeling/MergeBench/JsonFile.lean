import MergeBench.Machine

/-!
Files that hold one JSON value. Writing goes through a new file beside the target, which takes its
place only when it is complete.
-/

namespace MergeBench.JsonFile

/-- The current directory or the path from it, `..` taken back name by name. -/
def absolute (here : Location) (path : Path) : Path :=
  let whole := here.path.join path
  let back (names : List String) (name : String) : List String :=
    if name == ".." then names.dropLast else names ++ [name]
  ⟨whole.anchor, whole.names.foldl back []⟩

def temporaryName (n : Nat) : String :=
  "tmp" ++ Number.padded 8 n ++ ".tmp"

/-- The first free name, from the `n`-th on. There is one among as many as there are entries. -/
def freeName (m : Machine) (directory : Path) : Nat → Nat → String
  | 0, n => temporaryName n
  | fuel + 1, n =>
    let path := (directory.join (Path.ofString (temporaryName n))).text
    match m.files.find false m.directory path with
    | .ok ⟨_, some _⟩ => freeName m directory fuel (n + 1)
    | _ => temporaryName n

def createTemporary (directory : Path) : Act (Path × Location) := do
  let m ← get
  let name := freeName m directory (m.files.entries.length + 1) 0
  let path := directory.join (Path.ofString name)
  let (l, files) ← onPath path.text (m.files.createFile m.directory path.text)
  set { m with files := files }
  return (path, l)

/-- The path of the new file is absolute. -/
def openTemporary (directory : Path) : Act (Path × Location) := do
  let here ← if directory.isAbsolute then pure [] else currentDirectory
  createTemporary (absolute here directory)

def removeIfThere (path : Path) : Act Unit := do
  let m ← get
  match m.files.unlink m.directory path.text with
  | .ok files => set { m with files := files }
  | .error .noEntry => pure ()
  | .error cause => throw (.file ⟨cause, some path.text, none⟩)

def replace (source target : Path) : Act Unit := do
  checkPath target.text
  let m ← get
  match m.files.rename m.directory source.text target.text with
  | .ok files => set { m with files := files }
  | .error cause => throw (.file ⟨cause, some source.text, some target.text⟩)

def fillAndPlace (temporary : Path) (l : Location) (target : Path) (data : Value) : Act Unit := do
  let text ← lift .unprintable (Json.document data)
  modify fun m => { m with files := m.files.overwrite l (Text.encode text) }
  replace temporary target

/-- Writes a value; if that fails at any point, the new file is removed again. -/
def write (path : Path) (data : Value) : Act Unit := do
  ensureDirectory path.parent
  let (temporary, l) ← openTemporary path.parent
  try fillAndPlace temporary l path data
  catch f =>
    removeIfThere temporary
    throw f

def read (path : Path) : Act Value := do
  let text ← readText path
  lift .json (Json.read text)

end MergeBench.JsonFile
