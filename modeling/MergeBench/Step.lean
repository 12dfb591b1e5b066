import MergeBench.Path
import MergeBench.Text.Quoted

namespace MergeBench

/-- Steps of any other kind run like commands, but their failure ends nothing. -/
inductive Kind where
  | announce
  | command
  | other (name : String)
  deriving DecidableEq, Repr

namespace Kind

def name : Kind → String
  | announce => "announce"
  | command => "command"
  | other name => name

end Kind

structure Step where
  name : String
  kind : Kind
  message : Option String := none
  words : List String := []
  directory : Option Path := none
  artifact : Option Path := none
  deriving DecidableEq, Repr

namespace Step

def messageText (s : Step) : String :=
  s.message.getD "None"

def commandText (s : Step) : String :=
  let words := " ".intercalate s.words
  match s.artifact with
  | some path => s!"{words} > {path.text}"
  | none => words

def describe (s : Step) : String :=
  match s.kind, s.directory with
  | .announce, _ => "echo " ++ (s.message.map Text.quoted).getD "None"
  | _, some directory => s!"(cd {directory.text} && {s.commandText})"
  | _, none => s.commandText

end Step

structure Execution where
  step : Step
  exitCode : Int
  started : String
  finished : String
  error : Option String := none
  deriving DecidableEq, Repr

def Execution.isOk (e : Execution) : Bool :=
  e.exitCode == 0

structure Outcome where
  exitCode : Int
  skipped : Bool := false
  executions : List Execution := []
  /-- The step that ended the run early. -/
  failedStep : Option String := none
  artifacts : List Path := []
  deriving DecidableEq, Repr

def Outcome.isOk (o : Outcome) : Bool :=
  o.exitCode == 0

end MergeBench
