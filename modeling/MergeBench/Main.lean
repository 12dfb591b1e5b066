import MergeBench.CommandLine.Dispatch
import MergeBench.Shell.Launch
import Std.Time.DateTime.Timestamp

/-!
The program on a real disk. The trees that a command line works on are read into a table, the
command line runs on that table, with the shell of this library for its commands, and what differs
afterwards is written back.
-/

namespace MergeBench.Disk

def locationOf (path : String) : Location :=
  FileSystem.walkNames path

def isScript (content : Bytes) : Bool :=
  (Text.encode "#!").isPrefixOf content

def fileEntry (content : Bytes) : Entry :=
  .file content (isScript content)

/-- A file that can be read; what cannot be read is left out of the table. -/
def readEntry (l : Location) : IO (List (Location × Entry)) := do
  try
    let content ← IO.FS.readBinFile l.text
    return [(l, fileEntry content.toList)]
  catch _ => return []

/-- All that lies below a directory. Links to directories are left out. -/
partial def readTree (l : Location) : IO (List (Location × Entry)) := do
  let directory ← IO.FS.realPath l.text
  let mut found := [(l, Entry.directory)]
  for e in ← directory.readDir do
    let below := l ++ [e.fileName]
    match (← e.path.symlinkMetadata).type with
    | .dir => found := found ++ (← readTree below)
    | .file => found := found ++ (← readEntry below)
    | .symlink => if !(← e.path.isDir) then found := found ++ (← readEntry below)
    | .other => pure ()
  return found

def directoriesAbove (l : Location) : List (Location × Entry) :=
  (List.range l.length).tail.map fun n => (l.take n, .directory)

def readPath (path : String) : IO (List (Location × Entry)) := do
  try
    let found ← IO.FS.realPath path
    let l := locationOf found.toString
    let entries ← if ← found.isDir then readTree l else readEntry l
    return directoriesAbove l ++ entries
  catch _ => return []

def readHomes : IO (List (String × String)) := do
  try
    let lines := (← IO.FS.readFile "/etc/passwd").splitOn "\n"
    return lines.filterMap fun line =>
      match line.splitOn ":" with
      | name :: _ :: _ :: _ :: _ :: home :: _ => some (name, home)
      | _ => none
  catch _ => return []

def readVariables : IO (List (String × String)) := do
  try
    let text := (← IO.FS.readFile "/proc/self/environ").splitOn "\x00"
    return text.filterMap fun entry =>
      match entry.splitOn "=" with
      | name :: first :: more => some (name, "=".intercalate (first :: more))
      | _ => none
  catch _ => return []

def readEnvironment : IO Environment := do
  let bindings ← readVariables
  return ⟨bindings, (bindings.lookup "USER").getD "root", ← readHomes⟩

/-- The paths outside the current directory that a run reads from. -/
def pathsRead (env : Environment) (arguments : List String) : List String :=
  let given :=
    match CommandLine.parse arguments with
    | .arguments a => [a.repoRoot.nonempty?, a.config.nonempty?].filterMap id
    | _ => []
  let named := given ++ ["PR_BENCH_ROOT", "PR_BENCH_CONFIG"].filterMap env.nonempty?
  named.map fun path =>
    match (Path.ofString path).expandHome env with
    | .ok p => p.text
    | .error _ => path

def tools : List (Location × Entry) :=
  [(["usr"], .directory), (["usr", "bin"], .directory), (["dev"], .directory),
    (["dev", "null"], .file [] false), (["bin"], .link "usr/bin")] ++
    Shell.toolEntries ["usr", "bin"]

def tableOf (entries : List (Location × Entry)) : FileSystem :=
  entries.foldl (fun files entry => files.put entry.1 entry.2) ⟨[]⟩

def readMachine (arguments : List String) : IO Machine := do
  let env ← readEnvironment
  let here ← IO.currentDir
  let trees ← (here.toString :: pathsRead env arguments).mapM readPath
  let now ← Std.Time.Timestamp.now
  return {
    files := tableOf (trees.flatten ++ tools)
    environment := env
    directory := locationOf here.toString
    output := [], errors := []
    diagnostics := Diagnostics.initial
    clock := now.toMillisecondsSinceUnixEpoch.val.toNat * 1000
    executable := CommandLine.programName
    arguments := CommandLine.programName :: arguments }

def writeEntry (l : Location) : Entry → IO Unit
  | .directory => IO.FS.createDirAll l.text
  | .file content _ => IO.FS.writeBinFile l.text ⟨content.toArray⟩
  | .link _ => pure ()

def removeEntry (l : Location) : IO Unit := do
  try IO.FS.removeFile l.text
  catch _ => IO.FS.removeDirAll l.text

/-- Brings the disk from one table to another: removals first, then directories before what lies in
them. -/
def writeChanges (before after : FileSystem) : IO Unit := do
  for (l, _) in before.entries do
    if (after.get? l).isNone && (after.get? l.dropLast).isSome then removeEntry l
  let changed := after.entries.filter fun (l, e) => before.get? l != some e
  for (l, e) in changed.mergeSort fun a b => a.1.length ≤ b.1.length do writeEntry l e

def put (output : IO.FS.Stream) (bytes : Bytes) : IO Unit := do
  output.write ⟨bytes.toArray⟩
  output.flush

def finish : Except Fault CommandLine.Exit → IO UInt32
  | .ok (.status n) => return UInt32.ofNat (n % 256).toNat
  | .ok (.message text) => do
    IO.eprintln text
    return 1
  | .error fault => do
    IO.eprintln fault.message
    return 1

def run (arguments : List String) : IO UInt32 := do
  let before ← readMachine arguments
  let (result, after) :=
    (CommandLine.run (Pipeline.standard Shell.launch) arguments).run before
  writeChanges before.files after.files
  put (← IO.getStdout) after.output
  put (← IO.getStderr) after.errors
  finish result

end MergeBench.Disk

def main (arguments : List String) : IO UInt32 :=
  MergeBench.Disk.run arguments
