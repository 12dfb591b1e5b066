import MergeBench.CommandLine.Arguments
import MergeBench.Environment
import MergeBench.Text.Wrapped

namespace MergeBench.CommandLine

def programName : String := "pr-bench"

def description : String :=
  "Benchmark a pull request and its target branch, then compare the results."

namespace Flag

def placeholder? : Flag → Option String
  | help | dryRun => none
  | mode => some "\x7brun,compare\x7d"
  | f => some (String.ofList ((f.name.toList.drop 2).map fun c => if c == '-' then '_' else c.toUpper))

def meaning : Flag → String
  | help => "show this help message and exit"
  | mode =>
    "run = benchmark the PR and its target branch, then compare (default); compare = only re-run " ++
      "the comparison over existing artifacts"
  | pullRequest =>
    "Pull request id (default: $TRAVIS_PULL_REQUEST; 'false' means not a PR build)"
  | branch => "Target branch (default: $TRAVIS_BRANCH)"
  | config =>
    "YAML config file (default: <repo_root>/pr_bench.yml if present, or $PR_BENCH_CONFIG)"
  | repoRoot => "Repository to benchmark (default: $PR_BENCH_ROOT, else the current directory)"
  | benchCommand => "Benchmark command (default: 'cargo bench')"
  | compareCommand => "Comparison command (default: 'cargo benchcmp')"
  | remote => "Git remote to fetch the target branch from (default: origin)"
  | benchesDir =>
    "Directory for benchmark artifacts, relative to the repo root (default: benches)"
  | timeout => "Per-command timeout; 0 disables (default: 0)"
  | baseline => "(compare mode) Baseline artifact name in the benches dir"
  | candidate => "(compare mode) Candidate artifact name in the benches dir"
  | dryRun => "Print steps but do not execute"
  | receipt => "Write a JSON run receipt to this path (off by default)"
  | logLevel => "Diagnostics log level (default: $PR_BENCH_LOG_LEVEL or INFO)"

def withPlaceholder (f : Flag) (spelling : String) : String :=
  match f.placeholder? with
  | some value => s!"{spelling} {value}"
  | none => spelling

def usagePart (f : Flag) : String :=
  let shown := f.withPlaceholder (if f == help then "-h" else f.name)
  s!"[{shown}]"

def heading (f : Flag) : String :=
  f.withPlaceholder (if f == help then "-h, --help" else f.name)

end Flag

/-! ### Layout -/

def defaultColumns : Nat := 80

def columns (e : Environment) : Nat :=
  match (e.get? "COLUMNS").map (Number.readInteger 10) with
  | some (.ok n) => if 0 < n then n.toNat else defaultColumns
  | _ => defaultColumns

/-- The width that text may have: the last two columns stay free. -/
def textWidth (columns : Nat) : Int :=
  columns - 2

def blanks (n : Nat) : String :=
  String.ofList (List.replicate n ' ')

/-- Parts in lines: a part goes on the line as long as there is room for it behind a blank, and else
on a new one, which `indent` blanks stand in front of. The line so far takes up `used` columns. -/
def addPart (width : Int) (indent : Nat) (lines : List (List String)) (line : List String)
    (used : Nat) : List String → List (List String)
  | [] => lines ++ [line]
  | part :: rest =>
    if width < used + 1 + part.length && !line.isEmpty then
      addPart width indent (lines ++ [line]) [part] (indent + part.length) rest
    else addPart width indent lines (line ++ [part]) (used + 1 + part.length) rest

/-- The usage on one line if it fits; else its parts in lines below the name of the program, or
below its first letter if the name leaves them too little room. -/
def usage (columns : Nat) : String :=
  let width := textWidth columns
  let lead := "usage: "
  let parts := Flag.all.map Flag.usagePart
  let whole := " ".intercalate (programName :: parts)
  let body :=
    if lead.length + whole.length ≤ width then whole
    else
      let shown (indent : Nat) (lines : List (List String)) : String :=
        ("\n" ++ blanks indent).intercalate (lines.map (" ".intercalate ·))
      if 4 * (lead.length + programName.length : Int) ≤ 3 * width then
        let indent := lead.length + programName.length + 1
        shown indent (addPart width indent [] [programName] (indent - 1) parts)
      else
        let indent := lead.length
        shown indent ([programName] :: addPart width indent [] [] (indent - 1) parts)
  lead ++ body ++ "\n"

def leastWidth : Nat := 11

/-- Where the meanings of options begin: as far to the right as the longest heading needs, but no
further than there is room for. -/
def meaningColumn (columns : Nat) : Nat :=
  let longest := ((Flag.all.map fun f => f.heading.length + 2).foldl max 0) + 2
  min longest (min 24 (max (textWidth columns - 20) 4).toNat)

/-- An option in the list: its meaning beside it if there is room, else below it. -/
def optionEntry (columns : Nat) (f : Flag) : String :=
  let start := meaningColumn columns
  let width := max (textWidth columns - start) leastWidth
  let lines := Text.wrapped width.toNat f.meaning
  let head := "  " ++ f.heading
  let gap := if head.length + 2 ≤ start then blanks (start - head.length) else "\n" ++ blanks start
  head ++ gap ++ ("\n" ++ blanks start).intercalate lines ++ "\n"

def help (columns : Nat) : String :=
  let about := Text.wrapped (max (textWidth columns) leastWidth).toNat description
  usage columns ++ "\n" ++ "\n".intercalate about ++ "\n\noptions:\n" ++
    String.join (Flag.all.map (optionEntry columns))

end MergeBench.CommandLine
