import MergeBench.JsonFile
import MergeBench.Plan

namespace MergeBench.Receipt

inductive Mode where
  | run
  | compare
  deriving DecidableEq, Repr

def Mode.name : Mode → String
  | run => "run"
  | compare => "compare"

structure Provenance where
  branch : Option String := none
  commit : Option String := none
  deriving DecidableEq, Repr

def optional (s : Option String) : Value :=
  (s.map Value.text).getD .null

def fields (entries : List (String × Value)) : Value :=
  .map (entries.map fun (name, v) => (.text name, v))

def pathValue (p : Option Path) : Value :=
  optional (p.map Path.text)

/-- A command without words is null. -/
def wordsValue (words : List String) : Value :=
  if words.isEmpty then .null else Settings.commandValue words

def stepFields (e : Execution) : List (String × Value) :=
  [("name", .text e.step.name), ("kind", .text e.step.kind.name), ("command", wordsValue e.step.words),
    ("cwd", pathValue e.step.directory), ("stdout_path", pathValue e.step.artifact),
    ("message", optional e.step.message), ("exit_code", .int e.exitCode)]

def executionValue (e : Execution) : Value :=
  fields (stepFields e ++
    [("started", .text e.started), ("finished", .text e.finished), ("error", optional e.error)])

def buildValue (c : BuildContext) : Value :=
  fields [("pull_request", .text c.flag), ("branch", optional c.branch),
    ("is_pull_request", .bool c.isPullRequest)]

def provenanceValue (p : Provenance) : Value :=
  fields [("branch_before", optional p.branch), ("commit_before", optional p.commit)]

structure Origin where
  writtenAt : String
  executable : String
  arguments : List String
  deriving DecidableEq, Repr

/-- The receipt of a run; `mode` is the name of the mode. -/
def value (o : Origin) (mode : String) (dryRun : Bool) (c : BuildContext) (s : Settings)
    (p : Provenance) (outcome : Outcome) : Value :=
  fields [("mode", .text mode), ("written_at", .text o.writtenAt), ("dry_run", .bool dryRun),
    ("build", buildValue c), ("git", provenanceValue p), ("settings", s.value),
    ("exit_code", .int outcome.exitCode), ("skipped", .bool outcome.skipped),
    ("failed_step", optional outcome.failedStep),
    ("artifacts", Settings.commandValue (outcome.artifacts.map Path.text)),
    ("steps", .list (outcome.executions.map executionValue)),
    ("python_executable", .text o.executable), ("argv", Settings.commandValue o.arguments)]

def origin : Act Origin := do
  let m ← get
  return ⟨← timeStamp, m.executable, m.arguments⟩

def build (mode : String) (dryRun : Bool) (c : BuildContext) (s : Settings) (p : Provenance)
    (outcome : Outcome) : Act Value := do
  return value (← origin) mode dryRun c s p outcome

def write (path : Path) (receipt : Value) : Act Path := do
  let path ← resolve (← expandHome path)
  JsonFile.write path receipt
  return path

end MergeBench.Receipt
