import MergeBench.Dotenv
import MergeBench.Repository

namespace MergeBench.Startup

def environmentFile : String := ".env"

def levelVariable : String := "PR_BENCH_LOG_LEVEL"

def disablingVariable : String := "PYTHON_DOTENV_DISABLED"

/-- Letters are compared by their capital forms. -/
def isDisabled (env : Environment) : Bool :=
  match env.get? disablingVariable with
  | some value => ["1", "TRUE", "T", "YES", "Y"].contains (Text.upper value)
  | none => false

def reportUnreadable : List Nat → Act Unit
  | [] => pure ()
  | line :: rest => do
    report .warning .environmentFile
      s!"python-dotenv could not parse statement starting at line {line}"
    reportUnreadable rest

/-- Variables are set one by one; a name or a value that no variable can have ends the loading. -/
def setVariables : List (String × String) → Act Unit
  | [] => pure ()
  | (name, value) :: rest => do
    if hasNull name || hasNull value then throw .nullCharacter
    if name.toList.contains '=' then throw .illegalVariable
    modify fun m => { m with environment := m.environment.set name value }
    setVariables rest

/-- Adds the bindings of a file to the environment. Tells whether there were any. -/
def loadFile (path : Path) : Act Bool := do
  if isDisabled (← get).environment then
    report .debug .environmentFile
      s!"python-dotenv: .env loading disabled by {disablingVariable} environment variable"
    return false
  let found : List Dotenv.Statement ←
    if ← isFile path then pure (Dotenv.statements (← readText path)) else pure []
  reportUnreadable (Dotenv.unreadableLines found)
  let env := (← get).environment
  let resolved := Dotenv.resolve env (Dotenv.bindings found)
  setVariables (Dotenv.additions env resolved)
  return !resolved.isEmpty

/-- Loads a file of variables, by default the one at the root of the repository. -/
def loadEnvironment (given : Option Path) : Act Bool := do
  let path ←
    match given with
    | some path => pure path
    | none =>
      let root ← Repository.findRoot (← get).environment.get?
      pure (root.join (Path.ofString environmentFile))
  if ← pathExists path then loadFile path else return false

def levelText (given : Option String) (env : Environment) : String :=
  ((given.filter (· != "")).or (env.nonempty? levelVariable)).getD "INFO"

def configureDiagnostics (given : Option String) : Act Unit := do
  let m ← get
  match Diagnostics.levelNamed (levelText given m.environment) with
  | .error name => throw (.notice (.invalidLogLevel name))
  | .ok n => set { m with diagnostics := { m.diagnostics with threshold := n, attached := true } }

def prepare (loadVariables : Bool) (level : Option String) : Act Unit := do
  if loadVariables then
    let _ ← loadEnvironment none
  configureDiagnostics level

end MergeBench.Startup
