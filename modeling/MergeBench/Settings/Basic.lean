import MergeBench.Fault

namespace MergeBench

structure Settings where
  benchCommand : List String := ["cargo", "bench"]
  compareCommand : List String := ["cargo", "benchcmp"]
  git : String := "git"
  remote : String := "origin"
  benchesDir : String := "benches"
  flagVariable : String := "TRAVIS_PULL_REQUEST"
  branchVariable : String := "TRAVIS_BRANCH"
  /-- The flag of a build that belongs to no pull request. -/
  sentinel : String := "false"
  root : Path
  timeout : Int := 0
  deriving DecidableEq, Repr

namespace Settings

/-- Settings as they are loaded, with what is wrong with the names of the two variables: in a name that
the system cannot be asked for, halves of surrogate pairs are mended. -/
structure Loaded extends Settings where
  flagError : Option Text.HalfError := none
  branchError : Option Text.HalfError := none
  deriving DecidableEq, Repr

/-- The directory for the results, taken under the root unless it is absolute. -/
def anchoredBenches (env : Environment) (benchesDir : String) (root : Path) :
    Except HomeError Path := do
  return root.join (← (Path.ofString benchesDir).expandHome env)

def benchesPath (s : Settings) (env : Environment) : Except HomeError Path :=
  anchoredBenches env s.benchesDir s.root

def commandValue (words : List String) : Value :=
  .list (words.map .text)

def fields (s : Settings) : List (String × Value) :=
  [("bench_cmd", commandValue s.benchCommand), ("compare_cmd", commandValue s.compareCommand),
    ("git_bin", .text s.git), ("remote", .text s.remote), ("benches_dir", .text s.benchesDir),
    ("pr_env_var", .text s.flagVariable), ("branch_env_var", .text s.branchVariable),
    ("sentinel", .text s.sentinel), ("repo_root", .text s.root.text), ("timeout_seconds", .int s.timeout)]

def value (s : Settings) : Value :=
  .map (s.fields.map fun (name, v) => (.text name, v))

theorem anchoredBenches_isAbsolute {env : Environment} {benchesDir : String} {root p : Path}
    (hroot : root.isAbsolute = true) (h : anchoredBenches env benchesDir root = .ok p) :
    p.isAbsolute = true := by
  unfold anchoredBenches at h
  cases hexpand : (Path.ofString benchesDir).expandHome env with
  | error e => simp [hexpand, bind, Except.bind] at h
  | ok q =>
    simp only [hexpand, bind, Except.bind, pure, Except.pure, Except.ok.injEq] at h
    exact h ▸ Path.isAbsolute_join hroot q

end Settings

end MergeBench
