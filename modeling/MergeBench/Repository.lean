import MergeBench.Command
import MergeBench.Settings.Layers

namespace MergeBench.Repository

def rootVariable : String := "PR_BENCH_ROOT"

def findRoot (vars : Settings.Variables) : Act Path := do
  match Settings.nonempty? vars rootVariable with
  | some path => resolve (← expandHome (Path.ofString path))
  | none => resolve (← currentDirectory).path

/-- What `git` prints about the repository, without the blanks around it, if it succeeds. -/
def query (launch : Launcher) (git : String) (root : Path) (question : List String) :
    Act (Option String) := do
  let result ← Command.run launch
    { words := [git, "-C", root.text, "rev-parse"] ++ question, limit := some (.whole 20),
      showErrors := false }
  let answer := Text.strip result.stdout
  return if result.exitCode == 0 && answer != "" then some answer else none

/-- The name of the branch; a checkout without one has none. -/
def branch? (launch : Launcher) (git : String) (root : Path) : Act (Option String) := do
  let answer ← query launch git root ["--abbrev-ref", "HEAD"]
  return answer.filter (· != "HEAD")

def commit? (launch : Launcher) (git : String) (root : Path) : Act (Option String) :=
  query launch git root ["HEAD"]

end MergeBench.Repository
