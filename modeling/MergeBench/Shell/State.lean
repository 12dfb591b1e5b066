import MergeBench.FileSystem.Change
import MergeBench.Shell.Script

namespace MergeBench.Shell

inductive Sink where
  | buffer (n : Nat)
  | file (l : Location)
  | nowhere
  deriving DecidableEq, Repr

structure Variable where
  name : String
  /-- A variable may be marked before it has a value. -/
  value : Option String
  exported : Bool := false
  fixed : Bool := false

structure State where
  files : FileSystem
  directory : Location
  /-- The current directory as it was entered, links kept. -/
  shown : String
  bindings : List Variable
  functions : List (String × Statement)
  name : String
  arguments : List String
  status : Nat
  /-- Status of the last output that was put into the present command. -/
  substituted : Nat := 0
  line : Nat
  /-- The command whose text is being run in place of the script, if there is one. -/
  source : String := ""
  options : List Char := []
  /-- What is done on signals, by their numbers; 0 stands for the end. -/
  traps : List (Nat × String) := []
  /-- What the shell as a whole does on signals, which parts of it cannot change. -/
  shellTraps : List (Nat × String) := []
  isPart : Bool := false
  pending : List Nat := []
  /-- The status that a trap comes back to, while one runs. -/
  trapped : Option Nat := none
  /-- Parts that ran in the background, with their statuses; the latest first. -/
  background : List (Nat × Nat) := []
  loops : Nat := 0
  /-- What the present function has to bring back, if there is one. -/
  locals : Option (List (String × Option Variable)) := none
  sinks : List (Nat × Sink)
  input : Bytes
  buffers : List (Nat × Bytes)
  fresh : Nat
  clock : Nat
  limit : Option Nat

inductive Death where
  | exited (status : Nat)
  | signalled (number : Nat)

def Death.status : Death → Nat
  | exited n => n
  | signalled n => 128 + n

/-- Why a shell does not go on with the next statement. -/
inductive Stop where
  | exit (status : Nat)
  /-- Another program took the place of this process, and ended. -/
  | replaced (death : Death)
  | killed (number : Nat)
  | overran
  | breakLoop (depth : Nat)
  | nextRound (depth : Nat)
  | returned (status : Nat)

abbrev Session (α : Type) : Type :=
  ExceptT Stop (StateM State) α

/-- Standard output, standard error, and the number of this process. -/
def outBuffer : Nat := 1

def errorBuffer : Nat := 2

def processNumber : Nat := 4242

def nullDevice : String := "/dev/null"

def inputDevice : String := "/dev/stdin"

namespace State

def isOn (s : State) (option : Char) : Bool :=
  s.options.contains option

def turn (s : State) (on : Bool) (option : Char) : State :=
  let others := s.options.filter (· != option)
  { s with options := if on then option :: others else others }

def variableNamed? (s : State) (name : String) : Option Variable :=
  s.bindings.find? fun v => v.name == name

def lookup? (s : State) (name : String) : Option String :=
  (s.variableNamed? name).bind Variable.value

def isFixed (s : State) (name : String) : Bool :=
  ((s.variableNamed? name).map Variable.fixed).getD false

def changeVariable (s : State) (name : String) (change : Variable → Variable) : State :=
  if (s.variableNamed? name).isSome then
    { s with bindings := s.bindings.map fun v => if v.name == name then change v else v }
  else { s with bindings := s.bindings ++ [change ⟨name, none, false, false⟩] }

def setVariable (s : State) (name value : String) (exported : Bool) : State :=
  s.changeVariable name fun v =>
    { v with value := some value, exported := v.exported || exported || s.isOn 'a' }

def unset (s : State) (name : String) : State :=
  { s with bindings := s.bindings.filter fun v => v.name != name }

def restore (s : State) (name : String) : Option Variable → State
  | some v =>
    if s.bindings.any fun w => w.name == name then
      { s with bindings := s.bindings.map fun w => if w.name == name then v else w }
    else { s with bindings := s.bindings ++ [v] }
  | none => s.unset name

def appendBuffer (s : State) (n : Nat) (bytes : Bytes) : State :=
  if (s.buffers.lookup n).isSome then
    { s with buffers := s.buffers.map fun (m, old) => if m == n then (m, old ++ bytes) else (m, old) }
  else { s with buffers := s.buffers ++ [(n, bytes)] }

def bufferBytes (s : State) (n : Nat) : Bytes :=
  (s.buffers.lookup n).getD []

def writeTo (s : State) (sink : Option Sink) (bytes : Bytes) : State :=
  match sink with
  | some (.buffer n) => s.appendBuffer n bytes
  | some (.file l) => { s with files := s.files.append l bytes }
  | some .nowhere | none => s

def write (s : State) (descriptor : Nat) (bytes : Bytes) : State :=
  s.writeTo (s.sinks.lookup descriptor) bytes

def withoutSink (s : State) (descriptor : Nat) : State :=
  { s with sinks := s.sinks.filter fun entry => entry.1 != descriptor }

def setSink (s : State) (descriptor : Nat) (sink : Sink) : State :=
  { s with sinks := (descriptor, sink) :: s.sinks.filter fun entry => entry.1 != descriptor }

end State

/-- Variables that every shell has. -/
def foremostNames : List String :=
  ["IFS", "MAIL", "MAILPATH", "PATH", "PS1", "PS2", "PS4", "OPTIND"]

/-- What settles the order in which variables are passed on. -/
def passingKey (name : String) : Nat :=
  let codes := (Text.encode name).map UInt8.toNat
  let place := (codes.head?.getD 0 * 16 + codes.foldl Nat.add 0) % 39
  2 * place + if foremostNames.contains name then 0 else 1

def State.inPassingOrder (s : State) : State :=
  { s with bindings := s.bindings.mergeSort fun v w => decide (passingKey v.name ≤ passingKey w.name) }

/-- Variables with their values, also those that are not passed on. -/
def valuePairs (s : State) : List (String × String) :=
  s.bindings.filterMap fun v => v.value.map (v.name, ·)

def exportedPairs (s : State) : List (String × String) :=
  (s.bindings.filter Variable.exported).filterMap fun v => v.value.map (v.name, ·)

def out (bytes : Bytes) : Session Unit :=
  modify (·.write 1 bytes)

def outText (text : String) : Session Unit :=
  out (Text.encode text)

def errorText (text : String) : Session Unit :=
  modify (·.write 2 (Text.encode text))

def complainOf (command text : String) : Session Unit := do
  let s ← get
  let head := if command == "" then "" else command ++ ": "
  errorText s!"{s.name}: {s.line}: {head}{text}\n"

def complain (text : String) : Session Unit := do
  complainOf (← get).source text

/-- Sets a variable; one that is fixed ends the script. -/
def assign (name value : String) (exported : Bool) : Session Unit := do
  if (← get).isFixed name then
    complain s!"{name}: is read only"
    throw (.exit 2)
  else modify (·.setVariable name value exported)

def setStatus (n : Nat) : Session Unit :=
  modify fun s => { s with status := n }

def wait (microseconds : Nat) : Session Unit := do
  let s ← get
  let clock := s.clock + microseconds
  match s.limit with
  | some limit =>
    if limit < clock then
      set { s with clock := limit }
      throw .overran
    else set { s with clock := clock }
  | none => set { s with clock := clock }

end MergeBench.Shell
