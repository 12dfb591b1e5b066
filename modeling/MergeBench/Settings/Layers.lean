import MergeBench.Settings.Basic

/-!
Settings come in layers: overrides win over the environment, and both win over the configuration
file. A setting depends on the winning value of its own key alone.
-/

namespace MergeBench.Settings

inductive Key where
  | benchCommand
  | compareCommand
  | git
  | remote
  | benchesDir
  | flagVariable
  | branchVariable
  | sentinel
  | timeout
  deriving DecidableEq, Repr

namespace Key

def name : Key → String
  | benchCommand => "bench_cmd"
  | compareCommand => "compare_cmd"
  | git => "git"
  | remote => "remote"
  | benchesDir => "benches_dir"
  | flagVariable => "pr_env_var"
  | branchVariable => "branch_env_var"
  | sentinel => "sentinel"
  | timeout => "timeout_seconds"

def all : List Key :=
  [benchCommand, compareCommand, git, remote, benchesDir, flagVariable, branchVariable, sentinel,
    timeout]

def environmentName? : Key → Option String
  | benchCommand => some "PR_BENCH_CMD"
  | compareCommand => some "PR_BENCH_COMPARE_CMD"
  | git => some "PR_BENCH_GIT"
  | remote => some "PR_BENCH_REMOTE"
  | benchesDir => some "PR_BENCH_DIR"
  | timeout => some "PR_BENCH_TIMEOUT"
  | flagVariable | branchVariable | sentinel => none

theorem name_injective {a b : Key} (h : a.name = b.name) : a = b := by
  cases a <;> cases b <;> first | rfl | exact absurd h (by decide)

theorem mem_all (key : Key) : key ∈ all := by
  cases key <;> decide

end Key

abbrev Variables := String → Option String

def nonempty? (vars : Variables) (name : String) : Option String :=
  (vars name).filter (· != "")

/-- The three places where a value can come from. -/
structure Layers where
  overrides : List (String × Value)
  vars : Variables
  file : List (Value × Value)

namespace Layers

/-- An override that is null is not given. -/
def override? (l : Layers) (key : Key) : Option Value :=
  match l.overrides.lookup key.name with
  | some .null | none => none
  | some v => some v

def fromEnvironment? (l : Layers) (key : Key) : Option Value :=
  (key.environmentName?.bind (nonempty? l.vars)).map .text

/-- The entry of the configuration file, null included. -/
def entry? (l : Layers) (key : Key) : Option Value :=
  (l.file.find? fun entry => entry.1.sameKey (.text key.name)).map Prod.snd

def winner (l : Layers) (key : Key) : Option Value :=
  ((l.override? key).or (l.fromEnvironment? key)).or (l.entry? key)

end Layers

def failed {α : Type} (e : ConfigError) : Except Fault α :=
  .error (.config e)

def plainText (v : Value) : Except Fault String :=
  v.plain.mapError Fault.unwritable

/-- A command is a text that is split into words, or a list. -/
def splitCommand (key : String) (v : Value) : Except Fault (List String) := do
  let words ←
    match v with
    | .text s => (ShellWords.split s).mapError Fault.split
    | .brokenText points => (ShellWords.split (Text.mended points)).mapError Fault.split
    | .list items => items.mapM plainText
    | .pair a b => [a, b].mapM plainText
    | v => failed (.notCommand key v.typeName)
  if words.isEmpty then failed (.emptyCommand key) else .ok words

/-- A number of seconds: fractions are cut off, text is read. -/
def wholeSeconds (v : Value) : Except Fault Int :=
  let refused : Except Fault Int := do
    failed (.timeoutNotInteger (← v.written.mapError Fault.unwritable))
  let read (s : String) : Except Fault Int :=
    match Number.readInteger 10 s with
    | .ok n => .ok n
    | .error _ => refused
  match v with
  | .int n => .ok n
  | .bool b => .ok b.toNat
  | .float x =>
    match x with
    | .infinite _ => .error .infiniteTimeout
    | x => (x.truncate?.map Except.ok).getD refused
  | .text s => read s
  | .bytes bs =>
    if bs.all (· < 128) then read (String.ofList (bs.map fun b => Char.ofNat b.toNat)) else refused
  | _ => refused

def asTimeout (v : Value) : Except Fault Int := do
  let n ← wholeSeconds v
  if n < 0 then failed (.negativeTimeout (← plainText (.int n))) else .ok n

def nonemptyText (key : Key) (v : Value) : Except Fault String := do
  let s ← plainText v
  if s == "" then failed (.emptyText key.name) else .ok s

/-- The default, or what the winning value of a key gives. -/
def pick {α : Type} (winner : Key → Option Value) (key : Key) (default : α)
    (read : Value → Except Fault α) : Except Fault α :=
  match winner key with
  | none => .ok default
  | some v => read v

def pickText (winner : Key → Option Value) (key : Key) (default : String) : Except Fault String :=
  pick winner key default (nonemptyText key)

/-- What keeps the system from being asked for the variable of a name. -/
def nameError? (winner : Option Value) : Option Text.HalfError :=
  winner.bind Value.systemError?

/-- The settings for the winning values. Of several faults the first in this order is reported. -/
def ofWinners (root : Path) (winner : Key → Option Value) : Except Fault Loaded := do
  let base : Settings := { root := root }
  let benchCommand ← pick winner .benchCommand base.benchCommand (splitCommand Key.benchCommand.name)
  let compareCommand ←
    pick winner .compareCommand base.compareCommand (splitCommand Key.compareCommand.name)
  let timeout ← pick winner .timeout base.timeout asTimeout
  let git ← pick winner .git base.git plainText
  let remote ← pickText winner .remote base.remote
  let benchesDir ← pickText winner .benchesDir base.benchesDir
  let flagVariable ← pickText winner .flagVariable base.flagVariable
  let branchVariable ← pickText winner .branchVariable base.branchVariable
  let sentinel ← pickText winner .sentinel base.sentinel
  return ⟨⟨benchCommand, compareCommand, git, remote, benchesDir, flagVariable, branchVariable,
    sentinel, root, timeout⟩, nameError? (winner .flagVariable), nameError? (winner .branchVariable)⟩

def ofLayers (root : Path) (l : Layers) : Except Fault Loaded :=
  ofWinners root l.winner

end MergeBench.Settings
