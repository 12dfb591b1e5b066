import MergeBench.Receipt
import MergeBench.Repository

/-!
Runs: the steps of a plan one after the other up to the first command that fails. A run is the same
for every way of running a single step; `runStep` is the one that starts processes.
-/

namespace MergeBench

/-- Runs one step, for real or not, within a time limit. -/
abbrev StepRunner (m : Type → Type) := Step → Bool → Int → m Execution

namespace Run

def announceStep (step : Step) (started : String) : Act Execution := do
  printLine step.messageText
  return ⟨step, 0, started, ← timeStamp, none⟩

def showStep (step : Step) (started : String) : Act Execution := do
  printLine s!"  Command : {step.describe}"
  printLine "  (dry-run: not executing)"
  return ⟨step, 0, started, ← timeStamp, none⟩

def reportResult (step : Step) (result : Command.Result) : Act Unit :=
  match result.failure with
  | some f => report .error .runner s!"{step.name}: {f.message} ({result.text})"
  | none =>
    if result.exitCode != 0 then
      report .error .runner s!"{step.name} exited with code {Number.integerText result.exitCode}"
    else report .debug .runner s!"{step.name} finished in {elapsedText result.elapsed}s"

def commandOf (step : Step) (timeout : Int) : Command :=
  { words := step.words, directory := step.directory, limit := some (.whole timeout),
    artifact := step.artifact, capture := false }

def executeStep (launch : Launcher) (step : Step) (timeout : Int) (started : String) :
    Act Execution := do
  report .info .runner s!"running {step.name}: {step.describe}"
  let result ← Command.run launch (commandOf step timeout)
  reportResult step result
  return ⟨step, result.exitCode, started, ← timeStamp, result.failure.map Command.Failure.message⟩

/-- Announcements are printed; commands are run, or only shown. -/
def runStep (launch : Launcher) : StepRunner Act := fun step dryRun timeout => do
  let started ← timeStamp
  match step.kind with
  | .announce => announceStep step started
  | _ => if dryRun then showStep step started else executeStep launch step timeout started

def aborts (step : Step) (e : Execution) : Bool :=
  step.kind == .command && !e.isOk

def abortText (step : Step) (e : Execution) : String :=
  s!"aborting: step {Text.quoted step.name} failed with exit code {Number.integerText e.exitCode}"

/-- Runs steps in order and stops at the first command that fails. An artifact counts as soon as its
step has run. -/
def execute {m : Type → Type} [Monad m] [MonadLiftT Act m] (runner : StepRunner m) (dryRun : Bool)
    (timeout : Int) : List Step → m Outcome
  | [] => return { exitCode := 0 }
  | step :: rest => do
    let e ← runner step dryRun timeout
    let artifact := if dryRun then [] else step.artifact.toList
    if aborts step e then
      report .error .orchestrator (abortText step e)
      return { exitCode := e.exitCode, executions := [e], failedStep := some step.name,
               artifacts := artifact }
    else
      let later ← execute runner dryRun timeout rest
      return { later with
        executions := e :: later.executions, artifacts := artifact ++ later.artifacts }

def writeReceipt (path : Option String) (mode : Receipt.Mode) (dryRun : Bool) (c : BuildContext)
    (s : Settings) (p : Receipt.Provenance) (outcome : Outcome) : Act Unit :=
  match path with
  | none => pure ()
  | some path => do
    let receipt ← Receipt.build mode.name dryRun c s p outcome
    let written ← Receipt.write (Path.ofString path) receipt
    report .info .orchestrator s!"receipt written to {written.text}"

end Run

structure RunRequest where
  context : BuildContext
  settings : Settings
  dryRun : Bool := false
  receipt : Option String := none
  deriving Repr

structure CompareRequest where
  settings : Settings
  baseline : String
  candidate : String
  dryRun : Bool := false
  receipt : Option String := none
  deriving Repr

namespace Run

/-- What is checked out, asked only if a receipt is to tell it. -/
def provenance (launch : Launcher) (req : RunRequest) : Act Receipt.Provenance := do
  match req.receipt with
  | none => return {}
  | some _ =>
    let branch ← Repository.branch? launch req.settings.git req.settings.root
    let commit ← Repository.commit? launch req.settings.git req.settings.root
    return ⟨branch, commit⟩

/-- Before the first step of a pull request: what the receipt will tell, and the plan. -/
def prepare (launch : Launcher) (req : RunRequest) : Act (Receipt.Provenance × List Step) := do
  report .info .orchestrator s!"benchmarking {req.context.describe}"
  let p ← provenance launch req
  let steps ← lift .home (Plan.benchmark (← get).environment req.context req.settings)
  return (p, steps)

/-- Benchmarks a pull request and its branch and compares the two. Other builds do nothing. -/
def benchmark {m : Type → Type} [Monad m] [MonadLiftT Act m] (launch : Launcher)
    (runner : StepRunner m) (req : RunRequest) : m Outcome := do
  let s := req.settings
  if !req.context.isPullRequest then
    report .info .orchestrator
      s!"{s.flagVariable}={req.context.flag}: not a pull request build, nothing to benchmark"
    return { exitCode := 0, skipped := true }
  else
    let (p, steps) ← (prepare launch req : Act (Receipt.Provenance × List Step))
    let outcome ← execute runner req.dryRun s.timeout steps
    Run.writeReceipt req.receipt .run req.dryRun req.context s p outcome
    return outcome

def missingArtifacts (benches : Path) : List String → Act (List String)
  | [] => return []
  | name :: rest => do
    let there ← isFile (benches.join (Path.ofString name))
    let missing ← missingArtifacts benches rest
    return if there then missing else name :: missing

/-- Before the comparison: both results must be there, unless it is only shown. -/
def prepareCompare (req : CompareRequest) : Act (List Step) := do
  let benches ← lift .home (req.settings.benchesPath (← get).environment)
  if !req.dryRun then
    let missing ← missingArtifacts benches [req.baseline, req.candidate]
    if !missing.isEmpty then throw (.config (.missingArtifacts benches.text missing))
  return Plan.compareSteps req.settings benches req.baseline req.candidate

/-- Compares two results. In the receipt they stand for the pull request and its branch. -/
def compare {m : Type → Type} [Monad m] [MonadLiftT Act m] (runner : StepRunner m)
    (req : CompareRequest) : m Outcome := do
  let s := req.settings
  let steps ← (prepareCompare req : Act (List Step))
  let outcome ← execute runner req.dryRun s.timeout steps
  Run.writeReceipt req.receipt .compare req.dryRun ⟨req.candidate, some req.baseline, s.sentinel⟩ s {}
    outcome
  return outcome

end Run

/-- The two ways to run. Callers reach them through this pair, so that others can stand in for them. -/
structure Pipeline (m : Type → Type) where
  benchmark : RunRequest → m Outcome
  compare : CompareRequest → m Outcome

namespace Pipeline

def standard (launch : Launcher) : Pipeline Act :=
  ⟨Run.benchmark launch (Run.runStep launch), Run.compare (Run.runStep launch)⟩

variable {m : Type → Type} [Monad m]

def benchmarkStatus (p : Pipeline m) (req : RunRequest) : m Int := do
  return (← p.benchmark req).exitCode

def compareStatus (p : Pipeline m) (req : CompareRequest) : m Int := do
  return (← p.compare req).exitCode

end Pipeline

end MergeBench
