import MergeBench.CommandLine.Arguments
import MergeBench.CommandLine.Help
import MergeBench.Run
import MergeBench.Settings.Load
import MergeBench.Startup

/-!
What a command line does: it is read, the environment is prepared, and one of the two modes runs. A
configuration that cannot be worked with ends the program with status 2, except where the build is
for no pull request and nothing was to be done anyway.
-/

namespace MergeBench.CommandLine

inductive Exit where
  | status (n : Int)
  | message (text : String)
  deriving DecidableEq, Repr

def usageStatus : Int := 2

def configStatus : Int := 2

def Given.value : Given → Value
  | .absent => .null
  | .emptied => .list []
  | .text s => .text s

def GivenSeconds.value : GivenSeconds → Value
  | .absent => .null
  | .emptied => .list []
  | .number n => .int n

namespace Arguments

def overrides (a : Arguments) : List (String × Value) :=
  [("bench_cmd", a.benchCommand.value), ("compare_cmd", a.compareCommand.value),
    ("remote", a.remote.value), ("benches_dir", a.benchesDir.value),
    ("timeout_seconds", a.timeout.value)]

def environment : Act Settings.Variables := do
  return (← get).environment.get?

/-- The given root, else the one of the environment, else the current directory. -/
def root (a : Arguments) : Act Path := do
  match a.repoRoot.nonempty? with
  | some path => resolve (← expandHome (Path.ofString path))
  | none => Repository.findRoot (← environment)

def settings (a : Arguments) : Act Settings.Loaded := do
  let root ← a.root
  Settings.load a.config.nonempty? (← environment) a.overrides root

/-- The flag of the build, where it is given as an option; the error is an option without text. -/
def flag? (a : Arguments) : Except Fault (Option String) :=
  match a.pullRequest with
  | .absent => .ok none
  | .emptied => .error .flagWithoutText
  | .text s => .ok (some s)

/-- A branch without text is as good as an empty one. -/
def branch? (a : Arguments) : Option String :=
  match a.branch with
  | .absent => none
  | .emptied => some ""
  | .text s => some s

end Arguments

/-- The options and the environment alone say that the build is for no pull request. -/
def skipsWithoutSettings (a : Arguments) : Act Bool := do
  let base : Settings := { root := ← a.root }
  match a.flag? with
  | .ok flag => return base.isSentinelFlag (← Arguments.environment) flag
  | .error _ => return false

def showHeader (c : BuildContext) (s : Settings) : Act Unit := do
  printLine "\nPR benchmark (dry-run)"
  printLine s!"  Build   : {c.describe}"
  let benches ← lift .home (s.benchesPath (← get).environment)
  printLine s!"  Output  : {benches.text}"

def runWith (p : Pipeline Act) (a : Arguments) (s : Settings.Loaded) : Act Int := do
  let flag ← lift id a.flag?
  let vars ← Arguments.environment
  lift .variableName (s.lookUp vars flag a.branch?)
  let context ← s.readContext vars flag a.branch?
  if context.isPullRequest && a.dryRun then showHeader context s.toSettings
  p.benchmarkStatus ⟨context, s.toSettings, a.dryRun, a.receipt.nonempty?⟩

/-- A build for no pull request does not fail for its configuration. -/
def runMode (p : Pipeline Act) (a : Arguments) : Act Int := do
  let settings : Except ConfigError Settings.Loaded ←
    try Except.ok <$> a.settings
    catch
      | .config e => pure (.error e)
      | f => throw f
  match settings with
  | .ok s => runWith p a s
  | .error e =>
    if ← skipsWithoutSettings a then
      report .warning .runMode
        s!"not a pull request build; ignoring invalid configuration: {e.message}"
      return 0
    else throw (.config e)

def compareMode (p : Pipeline Act) (a : Arguments) : Act Int := do
  match a.baseline.nonempty?, a.candidate.nonempty? with
  | some baseline, some candidate =>
    let s ← a.settings
    p.compareStatus ⟨s.toSettings, baseline, candidate, a.dryRun, a.receipt.nonempty?⟩
  | _, _ => throw (.notice .artifactsRequired)

def dispatch (p : Pipeline Act) (a : Arguments) : Act Int := do
  try
    match a.mode with
    | .compare => compareMode p a
    | .run => runMode p a
  catch
    | .config e =>
      printErrorLine s!"ERROR: {e.message}"
      return configStatus
    | f => throw f

def levelText? (a : Arguments) : Option String :=
  a.logLevel.nonempty?

def runArguments (p : Pipeline Act) (a : Arguments) : Act Exit := do
  try
    Startup.prepare true (levelText? a)
    return .status (← dispatch p a)
  catch
    | .notice n => return .message n.message
    | f => throw f

def screenColumns : Act Nat := do
  return columns (← get).environment

def run (p : Pipeline Act) (arguments : List String) : Act Exit :=
  match parse arguments with
  | .help => do
    modify (·.write (Text.encode (help (← screenColumns))))
    return .status 0
  | .refused e => do
    modify (·.writeError (Text.encode (usage (← screenColumns))))
    printErrorLine s!"{programName}: error: {e.message}"
    return .status usageStatus
  | .arguments a => runArguments p a

end MergeBench.CommandLine
