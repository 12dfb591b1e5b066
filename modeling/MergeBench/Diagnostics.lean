import MergeBench.Number.Integer
import MergeBench.Text.LetterCase

/-!
Diagnostic records and where they go. Without a handler only warnings and worse are shown, by their
text alone; an attached handler writes every record that reaches the threshold, with its level and
source.
-/

namespace MergeBench

inductive Level where
  | debug
  | info
  | warning
  | error
  deriving DecidableEq, Repr

namespace Level

def number : Level → Nat
  | debug => 10
  | info => 20
  | warning => 30
  | error => 40

def name : Level → String
  | debug => "DEBUG"
  | info => "INFO"
  | warning => "WARNING"
  | error => "ERROR"

end Level

inductive Source where
  | context
  | settings
  | orchestrator
  | runner
  | runMode
  | environmentFile
  deriving DecidableEq, Repr

def Source.name : Source → String
  | context => "pr_bench.pipeline.ci_context"
  | settings => "pr_bench.pipeline.settings"
  | orchestrator => "pr_bench.pipeline.orchestrator"
  | runner => "pr_bench.pipeline.execution.runner"
  | runMode => "pr_bench.cli.commands.run"
  | environmentFile => "dotenv.main"

structure Record where
  level : Level
  source : Source
  text : String
  deriving DecidableEq, Repr

def Record.line (r : Record) : String :=
  s!"{r.level.name} {r.source.name}: {r.text}"

structure Diagnostics where
  threshold : Nat
  /-- A handler that writes to standard error has been attached. -/
  attached : Bool
  /-- Records are kept for later. -/
  collecting : Bool
  records : List Record
  deriving DecidableEq, Repr

namespace Diagnostics

def initial : Diagnostics :=
  ⟨Level.number .warning, false, false, []⟩

/-- The line that a record puts on standard error, if any. -/
def shown (d : Diagnostics) (r : Record) : Option String :=
  if r.level.number < d.threshold then none
  else if d.attached then some r.line
  else if d.collecting then none
  else if Level.number .warning ≤ r.level.number then some r.text
  else none

def keep (d : Diagnostics) (r : Record) : Diagnostics :=
  if d.collecting && d.threshold ≤ r.level.number && Level.number .info ≤ r.level.number then
    { d with records := d.records ++ [r] }
  else d

def levelNames : List (String × Nat) :=
  [("CRITICAL", 50), ("FATAL", 50), ("ERROR", 40), ("WARN", 30), ("WARNING", 30), ("INFO", 20),
    ("DEBUG", 10), ("NOTSET", 0)]

/-- A level by its name in any letter case; the error is the name in capitals. -/
def levelNamed (name : String) : Except String Nat :=
  let capitals := Text.upper name
  match levelNames.lookup capitals with
  | some n => .ok n
  | none => .error capitals

end Diagnostics

end MergeBench
