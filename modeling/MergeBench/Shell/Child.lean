import MergeBench.Shell.OwnCommand

namespace MergeBench.Shell

/-- The state for a program of its own: what is exported, and where it stands. Signals that are taken
no notice of stay so. -/
def childState (s : State) : State :=
  let ignored := s.traps.filter (·.2 == "")
  let bindings := (s.bindings.filter Variable.exported).map fun v => { v with fixed := false }
  { s with bindings := bindings, functions := [], options := [],
           status := 0, line := 1, source := "", loops := 0, locals := none, traps := ignored,
           shellTraps := ignored, isPart := false, pending := [], trapped := none, background := [] }

def partState (s : State) : State :=
  { s with traps := s.traps.filter (·.2 == ""), isPart := true, trapped := none }

def defaultPath : String :=
  "/usr/local/sbin:/usr/local/bin:/usr/sbin:/usr/bin:/sbin:/bin"

/-- A shell that starts in a directory that is gone says so and does not know where it is. -/
def State.withoutLostDirectory (s : State) (own : String) : State :=
  if s.files.hasDirectory s.directory then s
  else
    ({ s with shown := "" } : State).write 2
      (Text.encode s!"{own}: 0: getcwd() failed: {SystemError.noEntry.text}\n")

/-- After a program of its own only what it did outside itself remains; a part may have sent signals to
the whole shell. -/
def rejoin (isShellPart : Bool) (before after : State) : State :=
  { before with files := after.files, input := after.input, buffers := after.buffers,
                fresh := after.fresh, clock := after.clock
                pending := if isShellPart then after.pending else before.pending }

def separately (isShellPart : Bool) (prepare : State → State) (body : Session Nat) :
    Session Death := do
  let before ← get
  let (result, after) := body.run (prepare before)
  set (rejoin isShellPart before after)
  match result with
  | .ok n => return .exited (n % 256)
  | .error (.exit n) => return .exited (n % 256)
  | .error (.returned n) => return .exited (n % 256)
  | .error (.replaced d) => return d
  | .error (.killed n) => if isShellPart then throw (.killed n) else return .signalled n
  | .error .overran => throw .overran
  | .error _ => return .exited 0

/-- A program, which sees only what is exported. -/
def asProgram (body : Session Nat) : Session Death :=
  separately false childState body

def asPart (body : Session Nat) : Session Death :=
  separately true partState body

def deathStatus (d : Death) : Session Nat := do
  match d with
  | .signalled n => if n != 2 && n != 13 then errorText (signalText n ++ "\n")
  | .exited _ => pure ()
  return d.status

/-- A program takes the place of the shell. -/
def endAs (d : Death) : Session Unit :=
  throw (.replaced d)

/-- Variables of a shell that starts: some are its own, whatever their values were. -/
def State.withStartVariables (s : State) : State :=
  let own := [("IFS", " \t\n"), ("OPTIND", "1"), ("PS1", "# "), ("PS2", "> "), ("PS4", "+ ")]
  let s := (own.take 2).foldl (fun s v => s.unset v.1) s
  let absent := (("PATH", defaultPath) :: own).filter fun v => (s.variableNamed? v.1).isNone
  absent.foldl (fun s v => s.setVariable v.1 v.2 false) s

inductive RoundEnd where
  | again
  | leave

/-- A round of a loop; leaving more than one loop goes on outside. -/
def roundOf (body : Session Unit) : Session RoundEnd := do
  let outer := (← get).loops
  let leave : Session Unit := modify fun s => { s with loops := outer }
  modify fun s => { s with loops := outer + 1 }
  try
    body
    leave
    return .again
  catch stop =>
    leave
    match stop with
    | .breakLoop n => if n ≤ 1 then return .leave else throw (.breakLoop (n - 1))
    | .nextRound n => if n ≤ 1 then return .again else throw (.nextRound (n - 1))
    | stop => throw stop

end MergeBench.Shell
