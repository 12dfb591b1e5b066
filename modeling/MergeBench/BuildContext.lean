import MergeBench.Machine
import MergeBench.Settings.Layers

/-!
What kind of build this is: one for a pull request, with the branch that it is to be merged into, or
any other. Both texts are used exactly as the build system gives them.
-/

namespace MergeBench

structure BuildContext where
  /-- The number of the pull request, or the sentinel. -/
  flag : String
  branch : Option String := none
  sentinel : String := "false"
  deriving DecidableEq, Repr

namespace BuildContext

def isPullRequest (c : BuildContext) : Bool :=
  c.flag != c.sentinel

def pullRequest? (c : BuildContext) : Option String :=
  if c.isPullRequest then some c.flag else none

def optionText (s : Option String) : String :=
  s.getD "None"

def describe (c : BuildContext) : String :=
  if c.isPullRequest then s!"PR #{c.flag} -> {optionText c.branch}"
  else "push build (not a pull request)"

end BuildContext

namespace Settings

def flag? (s : Settings) (vars : Variables) (given : Option String) : Option String :=
  given.or (vars s.flagVariable)

def branch? (s : Settings) (vars : Variables) (given : Option String) : Option String :=
  given.or (vars s.branchVariable)

def isSentinelFlag (s : Settings) (vars : Variables) (given : Option String) : Bool :=
  s.flag? vars given == some s.sentinel

def isMissing (text : Option String) : Bool :=
  (text.map Text.isAllBlank).getD true

/-- The context of the build. A blank flag is refused, and a blank branch of a pull request. -/
def context? (s : Settings) (vars : Variables) (givenFlag givenBranch : Option String) :
    Except ConfigError BuildContext :=
  match s.flag? vars givenFlag with
  | none => .error (.missingFlag s.flagVariable s.sentinel)
  | some flag =>
    if Text.isAllBlank flag then .error (.missingFlag s.flagVariable s.sentinel)
    else
      let target := s.branch? vars givenBranch
      let context : BuildContext := ⟨flag, target.filter (· != ""), s.sentinel⟩
      if context.isPullRequest && isMissing target then
        .error (.missingBranch s.branchVariable flag)
      else .ok context

def ask (given : Option String) (nameError : Option Text.HalfError) : Except Text.HalfError Unit :=
  match given, nameError with
  | none, some e => .error e
  | _, _ => .ok ()

/-- Asks the system for the variables that the context is read from. Without a flag it is not asked for
the branch any more. -/
def Loaded.lookUp (s : Loaded) (vars : Variables) (givenFlag givenBranch : Option String) :
    Except Text.HalfError Unit := do
  ask givenFlag s.flagError
  if !isMissing (s.flag? vars givenFlag) then ask givenBranch s.branchError

def readContext (s : Settings) (vars : Variables) (givenFlag givenBranch : Option String) :
    Act BuildContext := do
  let context ← lift .config (s.context? vars givenFlag givenBranch)
  report .debug .context s!"build context: {context.describe}"
  return context

end Settings

end MergeBench
