import MergeBench.Shell.Format

namespace MergeBench.Shell

def signalLimit : Nat := 64

/-- Names of signals up to the last that has a meaning of its own; two of them have none. -/
def signalNames : List String :=
  ["EXIT", "HUP", "INT", "QUIT", "ILL", "TRAP", "ABRT", "BUS", "FPE", "KILL", "USR1", "SEGV", "USR2",
    "PIPE", "ALRM", "TERM", "16", "CHLD", "CONT", "STOP", "TSTP", "TTIN", "TTOU", "URG", "XCPU", "XFSZ",
    "VTALRM", "PROF", "WINCH", "IO", "PWR", "SYS", "32", "33"]

/-- The others are counted from both ends. -/
def signalName (n : Nat) : String :=
  match signalNames[n]? with
  | some name => name
  | none =>
    if n == 34 then "RTMIN"
    else if n == signalLimit then "RTMAX"
    else if n < 50 then s!"RTMIN+{n - 34}"
    else s!"RTMAX-{signalLimit - n}"

def isNumeral (s : String) : Bool :=
  s != "" && s.toList.all Char.isDigit

def numeralValue (s : String) : Nat :=
  Number.ofDigits 10 (s.toList.filterMap Number.letterDigit?)

def signalNumber? (least : Nat) (name : String) : Option Nat :=
  if isNumeral name then
    let n := numeralValue name
    if n ≤ signalLimit then some n else none
  else (List.range' least (signalLimit + 1 - least)).find? fun n => signalName n == name.toUpper

def isIgnored (n : Nat) : Bool :=
  [0, 17, 18, 23, 28].contains n

def stopSignal : Nat := 19

def signalText (n : Nat) : String :=
  match n with
  | 1 => "Hangup"
  | 3 => "Quit"
  | 4 => "Illegal instruction"
  | 5 => "Trace/breakpoint trap"
  | 6 => "Aborted"
  | 7 => "Bus error"
  | 8 => "Floating point exception"
  | 9 => "Killed"
  | 10 => "User defined signal 1"
  | 11 => "Segmentation fault"
  | 12 => "User defined signal 2"
  | 14 => "Alarm clock"
  | 15 => "Terminated"
  | 16 => "Stack fault"
  | 24 => "CPU time limit exceeded"
  | 25 => "File size limit exceeded"
  | 26 => "Virtual timer expired"
  | 27 => "Profiling timer expired"
  | 29 => "I/O possible"
  | 30 => "Power failure"
  | 31 => "Bad system call"
  | n => if n < 34 then s!"Unknown signal {n}" else s!"Real-time signal {n - 34}"

/-! ### Sending -/

def killUsage : String :=
  "Usage: kill [-s sigspec | -signum | -sigspec] [pid | job]... or\nkill -l [exitstatus]"

inductive KillRequest where
  | send (signal : Nat) (targets : List String)
  | list (statuses : List String)
  | wrong (text : String)

/-- Reads the letters of options; a signal follows `s`. -/
def killOptions : Nat → Option Nat → Bool → List String → KillRequest
  | 0, _, _, _ => .wrong killUsage
  | fuel + 1, signal, listing, words =>
    let settled (rest : List String) : KillRequest :=
      if listing then if signal.isSome then .wrong killUsage else .list rest
      else if rest.isEmpty then .wrong killUsage else .send (signal.getD 15) rest
    let named (name : String) (rest : List String) : KillRequest :=
      match signalNumber? 1 name with
      | some n => killOptions fuel (some n) listing rest
      | none => .wrong s!"invalid signal number or name: {name}"
    match words with
    | [] => settled []
    | word :: rest =>
      match word.toList, rest with
      | ['-', '-'], rest => settled rest
      | ['-'], rest => settled ("-" :: rest)
      | '-' :: 'l' :: [], rest => killOptions fuel signal true rest
      | '-' :: 'l' :: more, rest => killOptions fuel signal true (String.ofList ('-' :: more) :: rest)
      | '-' :: 's' :: [], [] => .wrong "No arg for -s option"
      | '-' :: 's' :: [], name :: rest => named name rest
      | '-' :: 's' :: name, rest => named (String.ofList name) rest
      | '-' :: letter :: _, _ => .wrong s!"Illegal option -{letter}"
      | _, rest => settled (word :: rest)

def KillRequest.ofArguments : List String → KillRequest
  | [] => .wrong killUsage
  | word :: rest =>
    if word.startsWith "-" then
      match signalNumber? 1 (word.drop 1).toString with
      | some n => if rest.isEmpty then .wrong killUsage else .send n rest
      | none => killOptions (2 * word.length + 2 * rest.length + 4) none false (word :: rest)
    else .send 15 (word :: rest)

/-- A signal for this shell, or for the shell that this is a part of. -/
def receive (signal : Nat) : Session Unit := do
  let s ← get
  match s.shellTraps.lookup signal with
  | some "" => pure ()
  | some _ => set { s with pending := s.pending ++ [signal] }
  | none =>
    if isIgnored signal then pure ()
    else if signal == stopSignal then
      match s.limit with
      | some limit => wait (limit + 1)
      | none => pure ()
      throw .overran
    else throw (.killed signal)

def sendAll (complaint : String → Session Unit) (signal : Nat) : Nat → List String → Session Nat
  | status, [] => return status
  | status, target :: rest => do
    if target.startsWith "%" then
      complaint s!"No such job: {target}"
      return 2
    let digits := if target.startsWith "-" then (target.drop 1).toString else target
    if !isNumeral digits then
      complaint s!"Illegal number: {digits}"
      return 2
    if numeralValue target == processNumber then
      receive signal
      sendAll complaint signal status rest
    else
      complaint "No such process\n"
      sendAll complaint signal 1 rest

def kill (complaint : String → Session Unit) (arguments : List String) : Session Nat := do
  let wrong (text : String) : Session Nat := do
    complaint text
    return 2
  match KillRequest.ofArguments arguments with
  | .wrong text => wrong text
  | .send signal targets => sendAll complaint signal 0 targets
  | .list [] =>
    outText "0\n"
    for n in List.range' 1 signalLimit do outText (signalName n ++ "\n")
    return 0
  | .list (status :: _) =>
    if !isNumeral status then wrong s!"Illegal number: {status}"
    else
      let n := numeralValue status
      let n := if 128 < n then n - 128 else n
      if 0 < n && n ≤ signalLimit then
        outText (signalName n ++ "\n")
        return 0
      else wrong s!"invalid signal number or exit status: {status}"

/-! ### Traps -/

/-- A text between single quotes, single quotes in it between double ones. -/
def quotedParts : Nat → List Char → List Char
  | 0, _ => []
  | fuel + 1, cs =>
    let plain := cs.takeWhile (· != '\'')
    let quotes := (cs.drop plain.length).takeWhile (· == '\'')
    let rest := cs.drop (plain.length + quotes.length)
    let head := '\'' :: plain ++ ['\'']
    if quotes.isEmpty then head
    else
      let head := head ++ '"' :: quotes ++ ['"']
      if rest.isEmpty then head else head ++ quotedParts fuel rest

def shellQuoted (s : String) : String :=
  String.ofList (quotedParts (s.length + 1) s.toList)

def insertTrap (n : Nat) (action : String) : List (Nat × String) → List (Nat × String)
  | [] => [(n, action)]
  | (m, other) :: rest =>
    if n < m then (n, action) :: (m, other) :: rest
    else if n == m then (n, action) :: rest
    else (m, other) :: insertTrap n action rest

def State.setTrap (s : State) (n : Nat) (action : Option String) : State :=
  let changed (traps : List (Nat × String)) : List (Nat × String) :=
    match action with
    | some action => insertTrap n action traps
    | none => traps.filter (·.1 != n)
  { s with
    traps := changed s.traps
    shellTraps := if s.isPart then s.shellTraps else changed s.shellTraps }

def setTraps (action : Option String) : List String → Session Nat
  | [] => return 0
  | name :: rest => do
    match signalNumber? 0 name with
    | some n =>
      modify (·.setTrap n action)
      setTraps action rest
    | none =>
      errorText s!"trap: {name}: bad trap\n"
      return 1

def trap (refuse : String → Session Nat) (arguments : List String) : Session Nat := do
  let words := if arguments.head? == some "--" then arguments.drop 1 else arguments
  match words with
  | [] =>
    for (n, action) in (← get).traps do
      let (action, name) := (shellQuoted action, signalName n)
      outText s!"trap -- {action} {name}\n"
    return 0
  | first :: rest =>
    match first.toList with
    | '-' :: letter :: _ =>
      if arguments.head? != some "--" && !isNumeral (first.drop 1).toString then
        return ← refuse s!"Illegal option -{letter}"
    | _ => pure ()
    if rest.isEmpty || (signalNumber? 0 first).isSome then setTraps none words
    else setTraps (if first == "-" then none else some first) rest

end MergeBench.Shell
