import MergeBench.Number.Integer
import MergeBench.Text.Digit

/-!
Reading the command line. An option may be shortened as long as it is the only one that begins so,
and its value follows it or is joined to it by `=`.
-/

namespace MergeBench.CommandLine

inductive Flag where
  | help
  | mode
  | pullRequest
  | branch
  | config
  | repoRoot
  | benchCommand
  | compareCommand
  | remote
  | benchesDir
  | timeout
  | baseline
  | candidate
  | dryRun
  | receipt
  | logLevel
  deriving DecidableEq, Repr

namespace Flag

def name : Flag → String
  | help => "--help"
  | mode => "--mode"
  | pullRequest => "--pr"
  | branch => "--branch"
  | config => "--config"
  | repoRoot => "--repo-root"
  | benchCommand => "--bench-cmd"
  | compareCommand => "--compare-cmd"
  | remote => "--remote"
  | benchesDir => "--benches-dir"
  | timeout => "--timeout-seconds"
  | baseline => "--baseline"
  | candidate => "--candidate"
  | dryRun => "--dry-run"
  | receipt => "--receipt"
  | logLevel => "--log-level"

def all : List Flag :=
  [help, mode, pullRequest, branch, config, repoRoot, benchCommand, compareCommand, remote,
    benchesDir, timeout, baseline, candidate, dryRun, receipt, logLevel]

def spellings : List (String × Flag) :=
  ("-h", help) :: all.map fun f => (f.name, f)

def takesValue : Flag → Bool
  | help | dryRun => false
  | _ => true

def title : Flag → String
  | help => "-h/--help"
  | f => f.name

end Flag

/-- What is wrong with a command line. -/
inductive UsageError where
  | ambiguous (argument : String) (candidates : List String)
  | expectedValue (flag : Flag)
  | ignoredValue (flag : Flag) (value : String)
  | invalidMode (value : String)
  | invalidSeconds (value : String)
  | unrecognized (arguments : List String)
  deriving DecidableEq, Repr

namespace UsageError

def onFlag (flag : Flag) (text : String) : String :=
  s!"argument {flag.title}: {text}"

def message : UsageError → String
  | ambiguous argument candidates =>
    let shown := ", ".intercalate candidates
    s!"ambiguous option: {argument} could match {shown}"
  | expectedValue flag => onFlag flag "expected one argument"
  | ignoredValue flag value => onFlag flag s!"ignored explicit argument {Text.quoted value}"
  | invalidMode value =>
    onFlag .mode s!"invalid choice: {Text.quoted value} (choose from 'run', 'compare')"
  | invalidSeconds value => onFlag .timeout s!"invalid int value: {Text.quoted value}"
  | unrecognized arguments =>
    let shown := " ".intercalate arguments
    s!"unrecognized arguments: {shown}"

end UsageError

/-- A value in the same argument as its flag, behind an equals sign or directly behind the letter. -/
structure Joined where
  value : String
  behindLetter : Bool
  deriving DecidableEq, Repr

/-- An argument that begins like an option: a flag with a joined value, or an unknown one. -/
inductive Spelled where
  | flag (f : Flag) (joined : Option Joined)
  | unknown
  deriving DecidableEq, Repr

inductive Argument where
  | option (s : Spelled)
  | plain
  /-- The mark after which nothing is an option. -/
  | separator
  deriving DecidableEq, Repr

def splitValue (argument : String) : String × Option Joined :=
  let cs := argument.toList
  let before := cs.takeWhile (· != '=')
  match cs.drop before.length with
  | _ :: value => (String.ofList before, some ⟨String.ofList value, before.take 2 != ['-', '-']⟩)
  | [] => (argument, none)

/-- A minus sign and a decimal number, which is no option. -/
def isNegativeNumber (argument : String) : Bool :=
  let cs := argument.toList
  let body := if cs.getLast? == some '\n' then cs.dropLast else cs
  let isDigit (c : Char) : Bool := (Text.digitValue? c).isSome
  match body with
  | '-' :: rest =>
    let whole := rest.takeWhile isDigit
    match rest.drop whole.length with
    | [] => !whole.isEmpty
    | '.' :: fraction => !fraction.isEmpty && fraction.all isDigit
    | _ => false
  | _ => false

def expansions (argument : String) : List (String × Flag × Option Joined) :=
  if argument.startsWith "--" then
    let (start, value) := splitValue argument
    (Flag.spellings.filter fun entry => entry.1.startsWith start).map fun (s, f) => (s, f, value)
  else
    let short := String.ofList (argument.toList.take 2)
    let tail := String.ofList (argument.toList.drop 2)
    Flag.spellings.filterMap fun (s, f) =>
      if s == short then some (s, f, some ⟨tail, true⟩)
      else if s.startsWith argument then some (s, f, none)
      else none

def classify (argument : String) : Except UsageError Argument :=
  if !argument.startsWith "-" then .ok .plain
  else
    match Flag.spellings.lookup argument with
    | some f => .ok (.option (.flag f none))
    | none =>
      if argument.length == 1 then .ok .plain
      else
        let (start, value) := splitValue argument
        match (if value.isSome then Flag.spellings.lookup start else none) with
        | some f => .ok (.option (.flag f value))
        | none =>
          match expansions argument with
          | [(_, f, value)] => .ok (.option (.flag f value))
          | [] =>
            if isNegativeNumber argument || argument.toList.contains ' ' then .ok .plain
            else .ok (.option .unknown)
          | many => .error (.ambiguous argument (many.map Prod.fst))

/-- Arguments with what they look like. All that follows a separator is plain. -/
def classifyAll : List String → Except UsageError (List (String × Argument))
  | [] => .ok []
  | argument :: rest =>
    if argument == "--" then .ok ((argument, .separator) :: rest.map (·, .plain))
    else do
      let found ← classify argument
      return (argument, found) :: (← classifyAll rest)

structure Setting where
  flag : Flag
  values : List String
  deriving DecidableEq, Repr

/-- What stands behind the letter of a flag that takes no value is read as more letters, and has to be
more flags up to its end. No flag of one letter takes a value. -/
def takeLetters (f : Flag) : List Char → Except UsageError (List Setting)
  | [] => .ok [⟨f, []⟩]
  | letter :: more =>
    match Flag.spellings.lookup (String.ofList ['-', letter]) with
    | none => .error (.ignoredValue f (String.ofList (letter :: more)))
    | some g => do return ⟨f, []⟩ :: (← takeLetters g more)

/-- A joined value is only for a flag that takes one. Behind a letter it may be more letters. -/
def takeJoined (f : Flag) (joined : Joined) : Except UsageError (List Setting) :=
  if f.takesValue then .ok [⟨f, [joined.value]⟩]
  else if joined.behindLetter && joined.value != "" then takeLetters f joined.value.toList
  else .error (.ignoredValue f joined.value)

/-- What the options mean, step by step, up to the first request for help. -/
structure Parsed where
  mode : Option (List String) := none
  values : List (Flag × List String) := []
  seconds : Option (Option Int) := none
  dryRun : Bool := false
  help : Bool := false
  extras : List String := []
  deriving Repr

/-- A lone separator is no value. -/
def keptValues (values : List String) : List String :=
  values.erase "--"

def applySetting (p : Parsed) (s : Setting) : Except UsageError Parsed :=
  let values := keptValues s.values
  match s.flag with
  | .help => .ok { p with help := true }
  | .dryRun => .ok { p with dryRun := true }
  | .mode =>
    match values.find? fun v => v != "run" && v != "compare" with
    | some v => .error (.invalidMode v)
    | none => .ok { p with mode := some values }
  | .timeout =>
    match values with
    | [v] =>
      match Number.readInteger 10 v with
      | .ok n => .ok { p with seconds := some (some n) }
      | .error _ => .error (.invalidSeconds v)
    | _ => .ok { p with seconds := some none }
  | f => .ok { p with values := (f, values) :: p.values }

/-- Nothing counts after a request for help. -/
def applySettings : Parsed → List Setting → Except UsageError Parsed
  | p, [] => .ok p
  | p, s :: rest =>
    if p.help then .ok p
    else do applySettings (← applySetting p s) rest

/-- Goes through the arguments; those that belong to no option are left over. -/
def parseFrom : Parsed → List (String × Argument) → Except UsageError Parsed
  | p, [] => .ok p
  | p, (_, .option (.flag f joined)) :: rest =>
    if p.help then .ok p
    else
      match joined with
      | some joined => do
        let settings ← takeJoined f joined
        parseFrom (← applySettings p settings) rest
      | none =>
        if f.takesValue then
          match rest with
          | (value, .plain) :: rest => do parseFrom (← applySetting p ⟨f, [value]⟩) rest
          | _ => .error (.expectedValue f)
        else do parseFrom (← applySetting p ⟨f, []⟩) rest
  | p, (argument, _) :: rest => parseFrom { p with extras := p.extras ++ [argument] } rest

/-- An option as it was given. With a lone separator for a value it is given without one. -/
inductive Given where
  | absent
  | emptied
  | text (s : String)
  deriving DecidableEq, Repr

namespace Given

def nonempty? : Given → Option String
  | text s => if s == "" then none else some s
  | _ => none

end Given

inductive Mode where
  | run
  | compare
  deriving DecidableEq, Repr

inductive GivenSeconds where
  | absent
  | emptied
  | number (n : Int)
  deriving DecidableEq, Repr

structure Arguments where
  mode : Mode := .run
  pullRequest : Given := .absent
  branch : Given := .absent
  config : Given := .absent
  repoRoot : Given := .absent
  benchCommand : Given := .absent
  compareCommand : Given := .absent
  remote : Given := .absent
  benchesDir : Given := .absent
  timeout : GivenSeconds := .absent
  baseline : Given := .absent
  candidate : Given := .absent
  dryRun : Bool := false
  receipt : Given := .absent
  logLevel : Given := .absent
  deriving DecidableEq, Repr

namespace Parsed

def given (p : Parsed) (f : Flag) : Given :=
  match p.values.lookup f with
  | none => .absent
  | some (s :: _) => .text s
  | some [] => .emptied

def secondsGiven (p : Parsed) : GivenSeconds :=
  match p.seconds with
  | none => .absent
  | some none => .emptied
  | some (some n) => .number n

def arguments (p : Parsed) : Arguments :=
  { mode := if p.mode == some ["compare"] then .compare else .run
    pullRequest := p.given .pullRequest
    branch := p.given .branch
    config := p.given .config
    repoRoot := p.given .repoRoot
    benchCommand := p.given .benchCommand
    compareCommand := p.given .compareCommand
    remote := p.given .remote
    benchesDir := p.given .benchesDir
    timeout := p.secondsGiven
    baseline := p.given .baseline
    candidate := p.given .candidate
    dryRun := p.dryRun
    receipt := p.given .receipt
    logLevel := p.given .logLevel }

end Parsed

inductive Reading where
  | help
  | arguments (a : Arguments)
  | refused (e : UsageError)
  deriving Repr

/-- A request for help wins over what is left over, but not over what is wrong before it. -/
def parse (arguments : List String) : Reading :=
  match classifyAll arguments with
  | .error e => .refused e
  | .ok found =>
    match parseFrom {} found with
    | .error e => .refused e
    | .ok p =>
      if p.help then .help
      else if p.extras.isEmpty then .arguments p.arguments
      else .refused (.unrecognized p.extras)

end MergeBench.CommandLine
