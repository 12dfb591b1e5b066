import MergeBench.BuildContext
import MergeBench.Step

namespace MergeBench.Plan

def pullRequestArtifact (number : String) : String :=
  "PR_" ++ number

/-- A branch name may lead into directories below the results. -/
def branchArtifact (branch : String) : String :=
  branch

def compareWords (command : List String) (baseline candidate : String) : List String :=
  command ++ [baseline, candidate]

def setBranchesWords (git remote branch : String) : List String :=
  [git, "remote", "set-branches", remote, branch]

def fetchWords (git remote branch : String) : List String :=
  [git, "fetch", remote, branch]

def checkoutWords (git branch : String) : List String :=
  [git, "checkout", branch]

def announce (name message : String) : Step :=
  { name := name, kind := .announce, message := some message }

def benchStep (s : Settings) (name : String) (artifact : Path) : Step :=
  { name := name, kind := .command, words := s.benchCommand, directory := some s.root,
    artifact := some artifact }

def gitStep (s : Settings) (name : String) (words : List String) : Step :=
  { name := name, kind := .command, words := words, directory := some s.root }

/-- The comparison runs inside the directory of the results. -/
def compareStep (s : Settings) (benches : Path) (baseline candidate : String) : Step :=
  { name := "compare", kind := .command,
    words := compareWords s.compareCommand baseline candidate, directory := some benches }

def compareSteps (s : Settings) (benches : Path) (baseline candidate : String) : List Step :=
  [announce "announce_compare" "Performance comparison:", compareStep s benches baseline candidate]

def pullRequestSteps (s : Settings) (benches : Path) (number branch : String) : List Step :=
  let candidate := pullRequestArtifact number
  let baseline := branchArtifact branch
  [announce "announce_pr" s!"Benchmarking PR #{number}...",
    benchStep s "bench_pr" (benches.join (Path.ofString candidate)),
    announce "announce_checkout" s!"Checking out {branch}...",
    gitStep s "git_set_branches" (setBranchesWords s.git s.remote branch),
    gitStep s "git_fetch" (fetchWords s.git s.remote branch),
    gitStep s "git_checkout" (checkoutWords s.git branch),
    announce "announce_branch" s!"Benchmarking {branch}",
    benchStep s "bench_branch" (benches.join (Path.ofString baseline))] ++
    compareSteps s benches baseline candidate

/-- A build without a pull request has no steps. -/
def benchmark (env : Environment) (c : BuildContext) (s : Settings) :
    Except HomeError (List Step) := do
  match c.pullRequest? with
  | none => return []
  | some number =>
    return pullRequestSteps s (← s.benchesPath env) number (BuildContext.optionText c.branch)

def compare (env : Environment) (s : Settings) (baseline candidate : String) :
    Except HomeError (List Step) := do
  return compareSteps s (← s.benchesPath env) baseline candidate

end MergeBench.Plan
