import MergeBench.Duration
import MergeBench.Machine
import MergeBench.Process

/-!
Running one command. Its output is captured, redirected to a file, or goes where the output of the
program goes. What goes wrong with the command is reported in the result, with the status that a
shell would give.
-/

namespace MergeBench

structure Command where
  words : List String
  directory : Option Path := none
  limit : Option Duration := none
  bindings : Option (List (String × String)) := none
  /-- The file that takes the standard output. -/
  artifact : Option Path := none
  capture : Bool := true
  /-- Captured errors are shown all the same. -/
  showErrors : Bool := true
  deriving Repr

namespace Command

inductive Failure where
  | noDirectory (path : String)
  | unwritable (path : String) (e : FileError)
  | notFound (e : FileError)
  | notExecutable (e : FileError)
  | overran (limit : String)
  | signalled (number : Nat)
  deriving DecidableEq, Repr

namespace Failure

def message : Failure → String
  | noDirectory path => s!"working directory not found: {path}"
  | unwritable path e => s!"cannot write {path}: {e.message}"
  | notFound e => s!"command not found: {e.message}"
  | notExecutable e => s!"cannot execute: {e.message}"
  | overran limit => s!"timed out after {limit}s"
  | signalled number => s!"killed by signal {number}"

def status : Failure → Int
  | noDirectory _ | unwritable .. => 1
  | notFound _ => 127
  | notExecutable _ => 126
  | overran _ => 124
  | signalled number => shellStatus (-number)

end Failure

structure Result where
  exitCode : Int
  text : String
  stdout : String
  stderr : String
  failure : Option Failure
  elapsed : Nat
  deriving DecidableEq, Repr

def text (c : Command) : String :=
  " ".intercalate c.words

def failed (c : Command) (elapsed : Nat) (f : Failure) : Result :=
  ⟨f.status, c.text, "", "", some f, elapsed⟩

def openArtifact (path : Path) : Act Location := do
  ensureDirectory path.parent
  checkPath path.text
  let m ← get
  let (l, files) ← onPath path.text (m.files.openFile m.directory path.text)
  set { m with files := files }
  return l

def childVariables (c : Command) (env : Environment) : Except Fault (List (String × String)) :=
  let added := c.bindings.getD []
  if added.any fun binding => binding.1.toList.contains '=' then .error .illegalVariable
  else
    let bindings := (env.setAll added).bindings
    if c.words.any hasNull || bindings.any fun (name, value) => hasNull name || hasNull value then
      .error .nullCharacter
    else .ok bindings

def childDirectory (c : Command) : Act Location := do
  let m ← get
  match c.directory with
  | none => return m.directory
  | some path =>
    let spot ← onPath path.text (m.files.find true m.directory path.text)
    return spot.location

def isCaptured (c : Command) (redirect : Option Location) : Bool :=
  c.capture && redirect.isNone

def microseconds? (c : Command) : Option Nat :=
  c.limit.bind Duration.microseconds?

/-- A child that has been started is waited for, if its limit allows it. A limit of less than a
microsecond is over before the child does anything. -/
def await (c : Command) (redirect : Option Location) (before : FileSystem) (run : ChildRun) :
    Except LimitError ChildRun :=
  match run.ending with
  | .refused _ => .ok run
  | _ => do
    match c.limit with
    | some limit => limit.check (c.isCaptured redirect)
    | none => pure ()
    return if c.microseconds? == some 0 then ⟨.overran, [], [], before, 0⟩ else run

def start (launch : Launcher) (c : Command) (redirect : Option Location) : Act ChildRun := do
  if c.words.isEmpty then throw .emptyCommand
  let bindings ← lift id (c.childVariables (← get).environment)
  let directory ← c.childDirectory
  let m ← get
  let run ← lift .limit (c.await redirect m.files
    (launch ⟨c.words, directory, bindings, c.microseconds?, redirect⟩ m.files))
  set { m with files := run.files, clock := m.clock + run.elapsed }
  return run

def passOutput (c : Command) (redirect : Option Location) (run : ChildRun) : Act Unit :=
  match redirect with
  | some l =>
    modify fun m => ({ m with files := m.files.overwrite l run.stdout }).writeError run.stderr
  | none => if c.capture then pure () else modify fun m => (m.write run.stdout).writeError run.stderr

def captured (c : Command) (redirect : Option Location) (run : ChildRun) :
    Except Text.Utf8Error (String × String) :=
  if c.isCaptured redirect then do
    return (← Text.decodeText run.stdout, ← Text.decodeText run.stderr)
  else .ok ("", "")

def finished (c : Command) (redirect : Option Location) (run : ChildRun) (code : Int)
    (failure : Option Failure) : Act Result := do
  let (stdout, stderr) ← lift .encoding (c.captured redirect run)
  if c.showErrors && stderr != "" then printErrorLine stderr
  return ⟨shellStatus code, c.text, stdout, stderr, failure, run.elapsed⟩

/-- What the start and the end of a child mean. Only a missing program and a denied one are reported in
the result. -/
def conclude (c : Command) (redirect : Option Location) (run : ChildRun) : Act Result := do
  c.passOutput redirect run
  match run.ending with
  | .refused e =>
    match e.cause with
    | .noEntry => return c.failed run.elapsed (.notFound e)
    | .accessDenied | .notPermitted => return c.failed run.elapsed (.notExecutable e)
    | _ => throw (.file e)
  | .overran => return c.failed run.elapsed (.overran ((c.limit.map Duration.text).getD "None"))
  | .exited status => c.finished redirect run status none
  | .signalled number => c.finished redirect run (-number) (some (.signalled number))

/-- The file for the output is created before the command is looked for. -/
def run (launch : Launcher) (c : Command) : Act Result := do
  let there ← (c.directory.map isDirectory).getD (pure true)
  if !there then
    return c.failed 0 (.noDirectory ((c.directory.map Path.text).getD ""))
  match c.artifact with
  | none => c.conclude none (← c.start launch none)
  | some path =>
    let opened : Except FileError Location ←
      try Except.ok <$> openArtifact path
      catch
        | .file e => pure (.error e)
        | f => throw f
    match opened with
    | .error e => return c.failed 0 (.unwritable path.text e)
    | .ok l => c.conclude (some l) (← c.start launch (some l))

end Command

end MergeBench
