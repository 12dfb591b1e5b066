import MergeBench.Process
import MergeBench.Shell.Interpreter

namespace MergeBench.Shell

def stepLimit : Nat := 100000

/-- The directory a program starts in, as a variable may name it. -/
def startDirectory (l : Launch) (files : FileSystem) : String :=
  let here := l.directory.text
  match l.bindings.lookup "PWD" with
  | none => here
  | some path =>
    if !path.startsWith "/" then here
    else
      match files.find true [] path with
      | .ok ⟨there, some .directory⟩ => if there == l.directory then path else here
      | _ => here

def startState (l : Launch) (files : FileSystem) : State :=
  { files := files, directory := l.directory, shown := startDirectory l files
    bindings := l.bindings.map fun (name, value) => ⟨name, some value, true, false⟩
    functions := [], name := "", arguments := [], status := 0, line := 1
    sinks := [(1, .buffer outBuffer), (2, .buffer errorBuffer)], input := [], buffers := []
    fresh := errorBuffer + 1, clock := 0, limit := l.limit }

def endingOf : Except Stop Death → Ending
  | .ok (.exited n) => .exited n
  | .ok (.signalled n) => .signalled n
  | .error (.exit n) | .error (.returned n) => .exited (n % 256)
  | .error (.replaced (.exited n)) => .exited n
  | .error (.replaced (.signalled n)) | .error (.killed n) => .signalled n
  | .error _ => .overran

def launch : Launcher := fun l files =>
  match commandProgram .caller files l.directory l.bindings l.words with
  | .error cause => ⟨.refused ⟨cause, l.words.head?, none⟩, [], [], files, 0⟩
  | .ok p =>
    let (result, s) := (runProgram stepLimit p).run (startState l files)
    ⟨endingOf result, s.bufferBytes outBuffer, s.bufferBytes errorBuffer, s.files, s.clock⟩

/-- The name of the file that holds the shell, to which its own name is a link. -/
def shellFile : String := "dash"

def toolEntries (directory : Location) : List (Location × Entry) :=
  (directory ++ [shellFile], .file (toolContent "sh") true) ::
    toolNames.map fun name =>
      (directory ++ [name], if name == "sh" then .link shellFile else .file (toolContent name) true)

end MergeBench.Shell
