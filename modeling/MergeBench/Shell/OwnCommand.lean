import MergeBench.Shell.ReadLine
import MergeBench.Shell.Reader
import MergeBench.Shell.Tool

namespace MergeBench.Shell

/-- Commands whose errors end the script. -/
def specialCommands : List String :=
  [":", ".", "break", "continue", "eval", "exec", "exit", "export", "local", "readonly", "return", "set",
    "shift", "times", "trap", "unset"]

abbrev Refusal := String → Session Nat

def refusalOf (command : String) : Refusal := fun text => do
  complainOf command text
  if specialCommands.contains command then throw (.exit 2) else return 2

structure CommandOptions where
  letters : List (Char × String)
  rest : List String

def readCommandOptions (known valued : List Char) : Nat → List String → Except String CommandOptions
  | 0, rest => .ok ⟨[], rest⟩
  | _, [] => .ok ⟨[], []⟩
  | fuel + 1, word :: rest =>
    match word.toList with
    | ['-', '-'] => .ok ⟨[], rest⟩
    | '-' :: letter :: letters =>
      let withValue (value : String) (rest : List String) : Except String CommandOptions := do
        let later ← readCommandOptions known valued fuel rest
        return { later with letters := (letter, value) :: later.letters }
      if valued.contains letter then
        match letters, rest with
        | [], [] => .error s!"No arg for -{letter} option"
        | [], value :: rest => withValue value rest
        | letters, rest => withValue (String.ofList letters) rest
      else if known.contains letter then
        withValue "" (if letters.isEmpty then rest else String.ofList ('-' :: letters) :: rest)
      else .error s!"Illegal option -{letter}"
    | _ => .ok ⟨[], word :: rest⟩

def takingOptions (refuse : Refusal) (known valued : List Char) (arguments : List String)
    (body : CommandOptions → Session Nat) : Session Nat :=
  let size := (arguments.map String.length).foldl Nat.add arguments.length
  match readCommandOptions known valued (size + 1) arguments with
  | .error text => refuse text
  | .ok found => body found

/-! ### Directories -/

/-- The logical path that a change of directory leads to. -/
def logicalPath (shown target : String) : String :=
  let whole := if target.startsWith "/" then target else shown ++ "/" ++ target
  let back (names : List String) (name : String) : List String :=
    if name == "" || name == "." then names
    else if name == ".." then names.dropLast else names ++ [name]
  "/" ++ "/".intercalate (((whole.toList.splitOn '/').map String.ofList).foldl back [])

def changeDirectory (refuse : Refusal) (arguments : List String) : Session Nat :=
  takingOptions refuse ['L', 'P'] [] arguments fun o => do
    let s ← get
    let isPhysical := (o.letters.getLast?.map Prod.fst) == some 'P'
    let target := o.rest.head?.getD ((s.lookup? "HOME").getD "")
    let isBack := target == "-"
    let target := if isBack then (s.lookup? "OLDPWD").getD "" else target
    let shown := logicalPath s.shown target
    match s.files.find true [] shown with
    | .ok ⟨l, some .directory⟩ =>
      let shown := if isPhysical then l.text else shown
      set { (s.setVariable "OLDPWD" s.shown true).setVariable "PWD" shown true with
        directory := l, shown := shown }
      if isBack then outText (shown ++ "\n")
      return 0
    | _ => refuse s!"can't cd to {target}"

def workingDirectory (refuse : Refusal) (arguments : List String) : Session Nat :=
  takingOptions refuse ['L', 'P'] [] arguments fun o => do
    if (o.letters.getLast?.map Prod.fst) == some 'P' then physicalDirectory
    else
      outText ((← get).shown ++ "\n")
      return 0

/-! ### Variables -/

def splitBinding (argument : String) : String × Option String :=
  let cs := argument.toList
  let name := cs.takeWhile (· != '=')
  (String.ofList name, (cs[name.length]?).map fun _ => String.ofList (cs.drop (name.length + 1)))

def isVariableName (name : String) : Bool :=
  match name.toList with
  | c :: rest => (c.isAlpha || c == '_') && rest.all fun c => c.isAlphanum || c == '_'
  | [] => false

def changeRefusal? (s : State) (name : String) : Option String :=
  if !isVariableName name then some s!"{name}: bad variable name"
  else if s.isFixed name then some s!"{name}: is read only" else none

def setOrRefuse (refuse : Refusal) (name value : String) (next : Session Nat) : Session Nat := do
  match changeRefusal? (← get) name with
  | some text => refuse text
  | none =>
    modify (·.setVariable name value false)
    next

/-- A list of variables that can be run again. -/
def listVariables (start : String) (selected : Variable → Bool) : Session Nat := do
  let s ← get
  let chosen := (s.bindings.filter selected).mergeSort fun v w => decide (v.name ≤ w.name)
  for v in chosen do
    let value := (v.value.map fun value => "=" ++ shellQuoted value).getD ""
    outText (start ++ v.name ++ value ++ "\n")
  return 0

/-- Marks variables, each of which may get a value too. -/
def markVariables (refuse : Refusal) (mark : Variable → Variable) : List String → Session Nat
  | [] => return 0
  | argument :: rest => do
    let s ← get
    match splitBinding argument with
    | (name, none) =>
      match s.variableNamed? name, changeRefusal? s name with
      | none, some text => refuse text
      | _, _ =>
        set (s.changeVariable name mark)
        markVariables refuse mark rest
    | (name, some value) =>
      match changeRefusal? s name with
      | some text => refuse text
      | none =>
        set ((s.setVariable name value false).changeVariable name mark)
        markVariables refuse mark rest

def markCommand (command : String) (selected : Variable → Bool) (mark : Variable → Variable)
    (arguments : List String) : Session Nat :=
  let refuse := refusalOf command
  takingOptions refuse ['p'] [] arguments fun o =>
    if o.rest.isEmpty || !o.letters.isEmpty then listVariables (command ++ " ") selected
    else markVariables refuse mark o.rest

/-- A binding of the tool `env`, whose names may be any. -/
def exportOne (argument : String) : Session Unit :=
  let (name, value) := splitBinding argument
  modify (·.setVariable name (value.getD "") true)

def unsetAll (refuse : Refusal) (isFunction : Bool) : List String → Session Nat
  | [] => return 0
  | name :: rest => do
    let s ← get
    if isFunction then
      set { s with functions := s.functions.filter fun f => f.1 != name }
      unsetAll refuse isFunction rest
    else
      match changeRefusal? s name with
      | some text => refuse text
      | none =>
        set (s.unset name)
        unsetAll refuse isFunction rest

def unsetCommand (refuse : Refusal) (arguments : List String) : Session Nat :=
  takingOptions refuse ['v', 'f'] [] arguments fun o =>
    unsetAll refuse (o.letters.getLast?.map Prod.fst == some 'f') o.rest

/-- Variables of the present function, which keep their values until they are set. -/
def makeLocal (refuse : Refusal) : List String → Session Nat
  | [] => return 0
  | argument :: rest => do
    let s ← get
    let (name, value) := splitBinding argument
    match value, changeRefusal? s name with
    | some _, some text => refuse text
    | value, _ =>
      set { s with locals := s.locals.map ((name, s.variableNamed? name) :: ·) }
      match value with
      | some value => modify (·.setVariable name value false)
      | none => pure ()
      makeLocal refuse rest

def setEach (refuse : Refusal) (status : Nat) : List (String × String) → Session Nat
  | [] => return status
  | (name, value) :: rest => setOrRefuse refuse name value (setEach refuse status rest)

def readCommand (refuse : Refusal) (arguments : List String) : Session Nat :=
  takingOptions refuse ['r'] ['p'] arguments fun o => do
    if o.rest.isEmpty then refuse "arg count"
    else
      let s ← get
      let (line, ended, after) := takeLine (o.letters.any (·.1 == 'r')) s.input
      set { s with input := after }
      let values := ReadLine.values (separators s) o.rest.length line
      setEach refuse (if ended then 0 else 1) (o.rest.zip values)

/-! ### Numbers as arguments -/

def withNumber (refuse : Refusal) (default : Nat) (arguments : List String)
    (body : Nat → Session Nat) : Session Nat :=
  match arguments with
  | [] => body default
  | word :: _ => if isNumeral word then body (numeralValue word) else refuse s!"Illegal number: {word}"

/-- Leaves loops, at most as many as there are. -/
def leaveLoops (refuse : Refusal) (stop : Nat → Stop) (arguments : List String) : Session Nat :=
  withNumber refuse 1 arguments fun n => do
    let loops := (← get).loops
    if n == 0 then refuse ("Illegal number: " ++ arguments.head?.getD "")
    else if loops == 0 then return 0
    else throw (stop (min loops n))

def shift (refuse : Refusal) (arguments : List String) : Session Nat :=
  withNumber refuse 1 arguments fun n => do
    if (← get).arguments.length < n then refuse "can't shift that many"
    else
      modify fun s => { s with arguments := s.arguments.drop n }
      return 0

/-! ### Other shells and parts of this one -/

/-- Waits for parts in the background, all of which have ended. -/
def waitFor (refuse : Refusal) : Nat → List String → Session Nat
  | status, [] => return status
  | _, word :: rest => do
    if word.startsWith "%" then refuse s!"No such job: {word}"
    else if !isNumeral word then refuse s!"Illegal number: {word}"
    else
      waitFor refuse (((← get).background.lookup (numeralValue word)).getD 127) rest

def aliasNames (command : String) (arguments : List String) : Session Nat := do
  let unknown := arguments.filter fun word => command == "unalias" || (splitBinding word).2.isNone
  for word in unknown do errorText s!"{command}: {word} not found\n"
  return if unknown.isEmpty then 0 else 1

/-- Where a file for `.` is found: names without a slash are looked for like commands. -/
def sourceFile? (s : State) (path : String) : Option String :=
  if path.toList.contains '/' then some path
  else (searchPaths (exportedPairs s) path).find? fun place =>
    match s.files.find true s.directory place with
    | .ok ⟨_, some (.file ..)⟩ => true
    | _ => false

/-- Commands of the shell that run no other statements. -/
def ownCommand? (name : String) : Option (List String → Session Nat) :=
  let complaint := complainOf name
  let refuse := refusalOf name
  match name with
  | ":" | "true" | "hash" | "jobs" => some fun _ => return 0
  | "false" => some fun _ => return 1
  | "echo" => some echoInShell
  | "printf" => some fun arguments => do
    match readCommandOptions [] [] (arguments.length + 1) arguments with
    | .error text => refuse text
    | .ok o => printf none complaint o.rest
  | "test" => some (testStatus complaint)
  | "[" => some fun arguments => do
    if arguments.getLast? == some "]" then testStatus complaint arguments.dropLast
    else refuse "missing ]"
  | "kill" => some (kill complaint)
  | "trap" => some (trap refuse)
  | "cd" | "chdir" => some (changeDirectory refuse)
  | "pwd" => some (workingDirectory refuse)
  | "export" => some (markCommand name Variable.exported fun v => { v with exported := true })
  | "readonly" => some (markCommand name Variable.fixed fun v => { v with fixed := true })
  | "local" => some fun arguments => do
    if (← get).locals.isSome then makeLocal refuse arguments else refuse "not in a function"
  | "unset" => some (unsetCommand refuse)
  | "shift" => some (shift refuse)
  | "set" => some fun arguments =>
    if arguments.isEmpty then listVariables "" fun v => v.value.isSome else setModes refuse arguments
  | "read" => some (readCommand refuse)
  | "umask" => some fun arguments => do
    if arguments.isEmpty then outText "0022\n"
    return 0
  | "times" => some fun _ => do
    for _ in [0, 1] do outText "0m0.000000s 0m0.000000s\n"
    return 0
  | "ulimit" => some fun _ => do
    outText "unlimited\n"
    return 0
  | "alias" | "unalias" => some (aliasNames name)
  | "wait" => some (waitFor refuse 0)
  | "fg" | "bg" => some fun _ => refuse "No current job"
  | "exit" => some fun arguments => do
    let s ← get
    withNumber refuse (s.trapped.getD s.status) arguments fun n => throw (.exit (n % 256))
  | "return" => some fun arguments => do
    withNumber refuse (← get).status arguments fun n => throw (.returned n)
  | "break" => some (leaveLoops refuse .breakLoop)
  | "continue" => some (leaveLoops refuse .nextRound)
  | _ => none

inductive Meaning where
  | keyword
  | function
  | own
  | file (path : String)
  | nothing

def meaningOf (s : State) (name : String) : Meaning :=
  if Parser.reservedWords.contains name then .keyword
  else if (s.functions.lookup name).isSome then .function
  else if (ownCommand? name).isSome || specialCommands.contains name || name == "command" ||
      name == "type" then .own
  else if name.toList.contains '/' then
    match s.files.find true s.directory name with
    | .ok ⟨_, some _⟩ => .file name
    | _ => .nothing
  else
    let found := (searchPaths (exportedPairs s) name).find? fun place =>
      match s.files.find true s.directory place with
      | .ok ⟨_, some (.file _ executable)⟩ => executable
      | _ => false
    (found.map Meaning.file).getD .nothing

def Meaning.text (name : String) : Meaning → String
  | keyword => " is a shell keyword"
  | function => " is a shell function"
  | own => if specialCommands.contains name then " is a special shell builtin" else " is a shell builtin"
  | file path => s!" is {path}"
  | nothing => ": not found"

/-- Says what a command name stands for, in words or by what would be run. -/
def showCommand (inWords : Bool) (name : String) : Session Nat := do
  let found := meaningOf (← get) name
  if inWords then outText (name ++ found.text name ++ "\n")
  match found with
  | .nothing => return 127
  | .file path =>
    if !inWords then outText (path ++ "\n")
    return 0
  | _ =>
    if !inWords then outText (name ++ "\n")
    return 0

def showCommands (status : Nat) : List String → Session Nat
  | [] => return status
  | name :: rest => do
    let found ← showCommand true name
    showCommands (if status == 0 then found else status) rest

end MergeBench.Shell
