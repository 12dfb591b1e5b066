import MergeBench.Shell.Arithmetic
import MergeBench.Shell.Child
import MergeBench.Shell.Field
import MergeBench.Shell.Parser
import MergeBench.Shell.Redirection
import MergeBench.Shell.Surroundings

/-!
Running scripts: words are expanded, descriptors redirected, and statements run one after the other.
A step counter bounds the whole run; a script that uses it up counts as one that goes on for ever.
-/

namespace MergeBench.Shell

mutual

def expandParts : Nat → Word → Session (List Item)
  | 0, _ => throw .overran
  | _, [] => return []
  | fuel + 1, part :: rest => do
    let items ← expandPart fuel part
    return items ++ (← expandParts fuel rest)

def expandPart : Nat → Part → Session (List Item)
  | 0, _ => throw .overran
  | fuel + 1, part => do
    match part with
    | .text s true => return .mark :: s.map (.char · true)
    | .text s false => return s.map (.char · false)
    | .output body quoted =>
      let text ← capture fuel body
      return valueItems (separators (← get)) quoted text
    | .arithmetic body quoted =>
      let expression := plainText (textOf (← expandParts fuel body))
      let s ← get
      let value (name : String) := Arithmetic.ofVariable ((s.lookup? name).getD "")
      match Arithmetic.evaluate value expression.toList with
      | .ok (n, assigned) =>
        for (name, value) in assigned do assign name (Number.integerText value) false
        return valueItems (separators s) quoted (Number.integerText n)
      | .error e =>
        complain (e.message expression)
        throw (.exit 2)
    | .parameter name how word quoted => expandParameter fuel name how word quoted

def expandParameter : Nat → String → ParameterUse → Word → Bool → Session (List Item)
  | 0, _, _, _, _ => throw .overran
  | fuel + 1, name, how, word, quoted => do
    let s ← get
    let value := parameterText? s name
    let given (colon : Bool) : Bool :=
      match value with
      | none => false
      | some v => !(colon && v == "")
    let wordItems : Session (List Item) := do
      let items ← expandParts fuel word
      return if quoted then .mark :: items else partedItems (separators s) items
    let require : Session Unit := do
      if s.isOn 'u' && value.isNone && name != "@" && name != "*" then
        complain s!"{name}: parameter not set"
        throw (.exit 2)
    match how with
    | .value =>
      require
      return parameterItems s name quoted
    | .length =>
      require
      return valueItems (separators s) quoted (Number.naturalText (Text.encode (value.getD "")).length)
    | .default colon => if given colon then return parameterItems s name quoted else wordItems
    | .alternative colon => if given colon then wordItems else return (if quoted then [.mark] else [])
    | .assign colon =>
      if given colon then return parameterItems s name quoted
      else
        let text := plainText (textOf (← expandParts fuel word))
        assign name text false
        return valueItems (separators s) quoted text
    | .require colon =>
      if given colon then return parameterItems s name quoted
      else
        let text := plainText (textOf (← expandParts fuel word))
        let reason := if text == "" then "parameter not set" else text
        complain s!"{name}: {reason}"
        throw (.exit 2)
    | .trim atFront longest =>
      let pattern := textOf (← expandParts fuel word)
      let result := trimmed atFront longest (Glob.ofChars (pattern.length + 1) pattern) (value.getD "").toList
      return valueItems (separators s) quoted (String.ofList result)

def expandWords : Nat → List Word → Session (List String)
  | 0, _ => throw .overran
  | _, [] => return []
  | fuel + 1, word :: rest => do
    let items ← expandParts fuel (expandTilde (← get) word)
    let s ← get
    let fields := (fieldsOf none items).flatMap (fieldPaths s)
    return fields ++ (← expandWords fuel rest)

def expandText : Nat → Word → Session (List (Char × Bool))
  | 0, _ => throw .overran
  | fuel + 1, word => do
    return textOf (← expandParts fuel (expandTilde (← get) word))

/-- What a statement writes, line ends at the end taken off. -/
def capture : Nat → Statement → Session String
  | 0, _ => throw .overran
  | fuel + 1, body => do
    let n := (← get).fresh
    let death ←
      separately true (fun s => ({ partState s with fresh := n + 1 } : State).setSink 1 (.buffer n)) do
        runToEnd fuel false body
    let bytes := (← get).bufferBytes n
    modify fun s =>
      { s with substituted := death.status, buffers := s.buffers.filter (·.1 != n) }
    return lossyText (dropLastLines (withoutZeros bytes))

/-- Opens redirections in their order; the error is what the shell says. -/
def redirectAll : Nat → List Redirection → Session (Except String Unit)
  | 0, _ => throw .overran
  | _, [] => return .ok ()
  | fuel + 1, .mk descriptor kind target :: rest => do
    let path := plainText (← expandText fuel target)
    match ← redirect descriptor kind path with
    | .ok () => redirectAll fuel rest
    | .error e => return .error e

/-- Runs something with redirections, which end with it. -/
def withRedirections : Nat → List Redirection → Session Unit → Session Unit → Session Unit
  | 0, _, _, _ => throw .overran
  | fuel + 1, redirections, onFailure, body => do
    let before ← get
    let restore : Session Unit :=
      modify fun s =>
        { s with sinks := before.sinks, input := if redirections.isEmpty then s.input else before.input }
    match ← redirectAll fuel redirections with
    | .error e =>
      restore
      complain e
      setStatus 2
      onFailure
    | .ok () =>
      try
        body
        restore
      catch stop =>
        restore
        throw stop

/-- Assigns values in turn; gives the assignments as they were made. -/
def assignAll : Nat → Bool → List (String × Word) → Session (List String)
  | 0, _, _ => throw .overran
  | _, _, [] => return []
  | fuel + 1, exported, (name, word) :: rest => do
    let value := plainText (← expandText fuel word)
    assign name value exported
    return s!"{name}={value}" :: (← assignAll fuel exported rest)

/-- A program and its arguments; `exec` ends the shell with it. -/
def runExternal : Nat → Bool → Bool → List String → Session Unit
  | 0, _, _, _ => throw .overran
  | fuel + 1, byExec, replacing, words => do
    modify State.inPassingOrder
    let s ← get
    let replacing := byExec || (replacing && !s.traps.any (·.2 != ""))
    let command := words.head?.getD ""
    let finish (d : Death) : Session Unit := do
      if replacing then endAs d else setStatus (← deathStatus d)
    let refused (n : Nat) (text : String) : Session Unit := do
      complainOf (if byExec then "exec" else s.source) s!"{command}: {text}"
      if replacing then throw (.exit n) else setStatus n
    match commandProgram .shell s.files s.directory (valuePairs s) words with
    | .ok p => finish (← runProgram fuel p)
    | .error .noEntry | .error .notDirectory => refused 127 "not found"
    | .error e =>
      let isFound := (sourceFile? s command).isSome && e != .tooManyLinks && e != .nameTooLong
      refused (if isFound then 126 else 127) e.text

def runProgram : Nat → Program → Session Death
  | 0, _ => throw .overran
  | fuel + 1, p => do
    match plainTool? p.tool (p.arguments.head?.getD p.tool) with
    | some tool => asProgram (tool (p.arguments.drop 1))
    | none =>
      match p.tool, p.arguments with
      | "sh", arguments => runShell fuel arguments
      | "env", own :: rest => asProgram (runWithSurroundings fuel own rest)
      | tool, _ => asProgram do
        errorText s!"{tool}: not supported\n"
        return 127

/-- The tool `env`, by the name it was started with. -/
def runWithSurroundings : Nat → String → List String → Session Nat
  | 0, _, _ => throw .overran
  | fuel + 1, own, arguments => do
    let wrong (text : String) : Session Nat := do
      errorText (s!"{own}: {text}\n" ++ tryHelp own)
      return 125
    match Surroundings.ofArguments (arguments.length + 20) {} arguments with
    | .error text => wrong text
    | .ok change =>
      let added := change.words.takeWhile fun word => word.toList.contains '='
      if change.cleared then modify fun s => { s with bindings := [] }
      for name in change.removed do modify (·.unset name)
      for binding in added do exportOne binding
      match change.words.drop added.length with
      | [] =>
        let ending := if change.zeroEnded then "\x00" else "\n"
        for (name, value) in exportedPairs (← get) do outText s!"{name}={value}{ending}"
        return 0
      | command :: words =>
        if change.zeroEnded then wrong "cannot specify --null (-0) with command"
        else
          let s ← get
          match commandProgram .shell s.files s.directory (exportedPairs s) (command :: words) with
          | .ok p =>
            endAs (← runProgram fuel p)
            return 0
          | .error e =>
            errorText s!"{own}: {curlyQuoted command}: {e.text}\n"
            if e == .noEntry && command.toList.any Text.isAsciiBlank then
              errorText s!"{own}: use -[v]S to pass options in shebang lines\n"
            return if e == .noEntry then 127 else 126

/-- A shell with its arguments: a text after `-c`, or the path of a script. -/
def runShell : Nat → List String → Session Death
  | 0, _ => throw .overran
  | fuel + 1, arguments => do
    let own := arguments.head?.getD "sh"
    let start (name : String) (arguments : List String) (s : State) : State :=
      let s := s.withoutLostDirectory own
      ({ childState s with name := name, arguments := arguments }.withStartVariables).setVariable "PWD"
        s.shown true
    let wrong (text : String) : Session Death :=
      separately false (start own []) do
        errorText s!"{own}: 0: {text}\n"
        return 2
    let words := arguments.drop 1
    match readModes true (words.length + 1) words with
    | .error text => wrong text
    | .ok found =>
      let begin (name : String) (arguments : List String) (body : Session Nat) : Session Death :=
        separately false (start name arguments) do
          for request in found.requests do request.run
          atEnd fuel body
      if found.requests.any fun | .text => true | _ => false then
        match found.rest with
        | [] => wrong "-c requires an argument"
        | script :: rest =>
          begin (rest.head?.getD own) (rest.drop 1) (runText fuel false true script)
      else
        let fromInput := found.requests.any fun | .turn true 's' => true | _ => false
        match (if fromInput then [] else found.rest) with
        | [] => begin own found.rest do
          modify (·.turn true 's')
          let script := scriptText (← takeInput)
          runText fuel true false script
        | path :: rest => begin path rest do
          let s ← get
          match s.files.readFile s.directory path with
          | .ok bytes => runText fuel true false (scriptText bytes)
          | .error .isDirectory => return 0
          | .error e =>
            errorText s!"{own}: 0: cannot open {path}: {openText false e}\n"
            return 2

/-- Runs a script line by line; gives the status of the last statement, which is 0 if there is none.
A script that comes from a file may be shown as it is read. -/
def runText : Nat → Bool → Bool → String → Session Nat
  | 0, _, _, _ => throw .overran
  | fuel + 1, fromFile, replacing, script => runLines fuel fromFile replacing 0 ⟨script.toList, 1, 0⟩

def runLines : Nat → Bool → Bool → Nat → Parser.Source → Session Nat
  | 0, _, _, _, _ => throw .overran
  | fuel + 1, fromFile, replacing, last, source => do
    match (Parser.readLine? (4 * source.rest.length + 20)).run source with
    | .error e =>
      modify fun s => { s with line := e.line }
      complain e.what
      throw (.exit 2)
    | .ok (none, _) => return last
    | .ok (some statement, after) =>
      if fromFile && (← get).isOn 'v' then
        let size := source.rest.length - after.rest.length
        errorText (String.ofList (source.rest.take size ++ if after.rest.isEmpty then [] else ['\n']))
      let isLast := after.rest.all fun c => c == '\n' || Parser.isBlank c
      run fuel (replacing && isLast) false statement
      runLines fuel fromFile replacing (← get).status after.pastLineEnd

def runToEnd : Nat → Bool → Statement → Session Nat
  | 0, _, _ => throw .overran
  | fuel + 1, tested, body =>
    atEnd fuel do
      run fuel false tested body
      return (← get).status

/-- Runs a whole process of the shell, and what is to be done at its end. -/
def atEnd : Nat → Session Nat → Session Nat
  | 0, _ => throw .overran
  | fuel + 1, body => do
    let status ←
      try body
      catch
        | .exit n | .returned n => pure n
        | stop => throw stop
    match (← get).traps.lookup 0 with
    | none | some "" => return status
    | some action =>
      modify fun s =>
        { s with traps := s.traps.filter (·.1 != 0), trapped := some status, status := status, loops := 0 }
      try
        let _ ← runText fuel false false action
        return status
      catch
        | .exit n => return n
        | .returned _ => return status
        | stop => throw stop

def runTraps : Nat → Session Unit
  | 0 => throw .overran
  | fuel + 1 => do
    let s ← get
    match if s.isPart then none else s.pending.min? with
    | none => pure ()
    | some n =>
      set { s with pending := s.pending.filter (· != n), trapped := some (s.trapped.getD s.status) }
      let leave : Session Unit := modify fun after => { after with trapped := s.trapped }
      match s.traps.lookup n with
      | none | some "" => leave
      | some action =>
        try
          let _ ← runText fuel false false action
          leave
          setStatus s.status
        catch stop =>
          leave
          throw stop
      runTraps fuel

def callFunction : Nat → List String → Statement → Session Unit
  | 0, _, _ => throw .overran
  | fuel + 1, arguments, body => do
    let outer ← get
    modify fun s => { s with arguments := arguments, locals := some [], loops := 0 }
    let restore : Session Unit :=
      modify fun s =>
        let s := (s.locals.getD []).foldl (fun s kept => s.restore kept.1 kept.2) s
        { s with arguments := outer.arguments, locals := outer.locals, loops := outer.loops }
    try
      run fuel false false body
      restore
    catch
      | .returned n =>
        restore
        setStatus n
      | stop =>
        restore
        throw stop

/-- Runs a text in place of the script, for a command that messages name. -/
def runSource : Nat → String → String → Session Unit
  | 0, _, _ => throw .overran
  | fuel + 1, source, text => do
    let outer ← get
    let leave : Session Unit := modify fun s => { s with source := outer.source }
    modify fun s => { s with source := source }
    try
      setStatus (← runText fuel (source != "eval") false text)
      leave
    catch stop =>
      leave
      match stop, source with
      | .returned n, source => if source == "eval" then throw stop else setStatus n
      | stop, _ => throw stop

def runWords : Nat → Bool → List String → Session Unit
  | 0, _, _ => throw .overran
  | fuel + 1, replacing, words => do
    match words with
    | [] => pure ()
    | name :: arguments =>
      match (← get).functions.lookup name with
      | some body => callFunction fuel arguments body
      | none =>
        match name with
        | "exec" => if !arguments.isEmpty then runExternal fuel true true arguments
        | "eval" => runSource fuel name (joined arguments)
        | "type" => setStatus (← showCommands 0 arguments)
        | "command" =>
          match readCommandOptions ['p', 'v', 'V'] [] (joined arguments).length arguments with
          | .error text => setStatus (← refusalOf name text)
          | .ok found =>
            match found.letters.filter (·.1 != 'p'), found.rest with
            | (letter, _) :: _, command :: _ => setStatus (← showCommand (letter == 'V') command)
            | [], command :: rest =>
              let functions := (← get).functions
              modify fun s => { s with functions := functions.filter fun f => f.1 != command }
              let back : Session Unit := modify fun s => { s with functions := functions }
              try
                runWords fuel replacing (command :: rest)
                back
              catch stop =>
                back
                throw stop
            | _, [] => setStatus 0
        | "." =>
          let s ← get
          match arguments with
          | [] => setStatus 0
          | path :: _ =>
            match sourceFile? s path with
            | none =>
              complainOf name s!"{path}: not found"
              throw (.exit 2)
            | some place =>
              match s.files.readFile s.directory place with
              | .ok bytes => runSource fuel place (scriptText bytes)
              | .error .isDirectory => setStatus 0
              | .error e =>
                complainOf name s!"cannot open {place}: {openText false e}"
                throw (.exit 2)
        | _ =>
          match ownCommand? name with
          | some own => setStatus (← own arguments)
          | none => runExternal fuel false replacing words

def runSimple : Nat → Bool → List (String × Word) → List Word → List Redirection → Session Unit
  | 0, _, _, _, _ => throw .overran
  | fuel + 1, replacing, assignments, words, redirections => do
    modify fun s => { s with substituted := 0 }
    let fields ← expandWords fuel words
    let special := specialCommands.contains (fields.head?.getD "")
    let onFailure : Session Unit := if special then throw (.exit 2) else pure ()
    let errors := (← get).sinks.lookup 2
    let trace (assigned : List String) : Session Unit :=
      modify fun s =>
        if s.isOn 'x' then
          let start := (s.lookup? "PS4").getD ""
          s.writeTo errors (Text.encode (start ++ joined (assigned ++ fields) ++ "\n"))
        else s
    if fields.head? == some "exec" && fields.length == 1 then
      match ← redirectAll fuel redirections with
      | .ok () =>
        trace (← assignAll fuel false assignments)
        setStatus 0
      | .error e =>
        complain e
        throw (.exit 2)
    else if fields.isEmpty then
      withRedirections fuel redirections onFailure do
        trace (← assignAll fuel false assignments)
        setStatus (← get).substituted
    else
      withRedirections fuel redirections onFailure do
        if special || assignments.isEmpty then
          trace (← assignAll fuel false assignments)
          runWords fuel (replacing && redirections.isEmpty) fields
        else
          let before := (← get).bindings
          let restore : Session Unit := modify fun s =>
            { s with bindings :=
                (s.bindings.filter fun v => !assignments.any (·.1 == v.name)) ++
                  before.filter fun v => assignments.any (·.1 == v.name) }
          trace (← assignAll fuel true assignments)
          try
            runWords fuel replacing fields
            restore
          catch stop =>
            restore
            throw stop

/-- The parts of a pipeline, each with the output of the one before as its input. -/
def runPipeline : Nat → Bool → List Statement → Session Unit
  | 0, _, _ => throw .overran
  | _, _, [] => pure ()
  | fuel + 1, tested, [last] => do
    let death ← asPart (runToEnd fuel tested last)
    setStatus (← deathStatus death)
  | fuel + 1, tested, first :: rest => do
    let n := (← get).fresh
    let prepare (s : State) : State := ({ partState s with fresh := n + 1 } : State).setSink 1 (.buffer n)
    let _ ← separately true prepare (runToEnd fuel tested first)
    let bytes := (← get).bufferBytes n
    let input := (← get).input
    modify fun s => { s with input := bytes, buffers := s.buffers.filter (·.1 != n) }
    runPipeline fuel tested rest
    modify fun s => { s with input := input }

def runSequence : Nat → Bool → Bool → List Statement → Session Unit
  | 0, _, _, _ => throw .overran
  | _, _, _, [] => pure ()
  | fuel + 1, replacing, tested, [last] => run fuel replacing tested last
  | fuel + 1, replacing, tested, first :: rest => do
    run fuel false tested first
    runSequence fuel replacing tested rest

def runLoop : Nat → Bool → Bool → Statement → Statement → Session Unit
  | 0, _, _, _, _ => throw .overran
  | fuel + 1, tested, untilTrue, condition, body => do
    let before := (← get).status
    run fuel false true condition
    let holds := (← get).status == 0
    if holds == untilTrue then setStatus before
    else
      match ← roundOf (run fuel false tested body) with
      | .leave => pure ()
      | .again => runLoop fuel tested untilTrue condition body

def runEach : Nat → Bool → String → List String → Statement → Session Unit
  | 0, _, _, _, _ => throw .overran
  | _, _, _, [], _ => pure ()
  | fuel + 1, tested, name, value :: rest, body => do
    assign name value false
    match ← roundOf (run fuel false tested body) with
    | .leave => pure ()
    | .again => runEach fuel tested name rest body

def anyMatches : Nat → List Char → List Word → Session Bool
  | 0, _, _ => throw .overran
  | _, _, [] => return false
  | fuel + 1, subject, word :: rest => do
    let pattern ← expandText fuel word
    if Glob.matchesFrom (Glob.ofChars (pattern.length + 1) pattern) subject then return true
    else anyMatches fuel subject rest

def runCases : Nat → Bool → Bool → List Char → List (List Word × Statement) → Session Unit
  | 0, _, _, _, _ => throw .overran
  | _, _, _, _, [] => setStatus 0
  | fuel + 1, replacing, tested, subject, (patterns, body) :: rest => do
    if ← anyMatches fuel subject patterns then
      setStatus 0
      run fuel replacing tested body
    else runCases fuel replacing tested subject rest

/-- Runs a statement. `replacing` says that the shell has nothing to do after it, `tested` that its
status is looked at. -/
def run : Nat → Bool → Bool → Statement → Session Unit
  | 0, _, _, _ => throw .overran
  | fuel + 1, replacing, tested, statement => do
    if (← get).isOn 'n' then return
    runStatement fuel replacing tested statement
    runTraps fuel
    let s ← get
    if s.isOn 'e' && !tested && s.status != 0 && statement.canFail then throw (.exit s.status)

def runStatement : Nat → Bool → Bool → Statement → Session Unit
  | 0, _, _, _ => throw .overran
  | fuel + 1, replacing, tested, statement => do
    match statement with
    | .simple line assignments words redirections =>
      modify fun s => { s with line := line }
      runSimple fuel replacing assignments words redirections
    | .pipeline negated parts =>
      match parts, negated with
      | [single], true =>
        run fuel false true single
      | _, _ => runPipeline fuel (tested || negated) parts
      if negated then setStatus (if (← get).status == 0 then 1 else 0)
    | .both a b =>
      run fuel false true a
      if (← get).status == 0 then run fuel replacing tested b
    | .either a b =>
      run fuel false true a
      if (← get).status != 0 then run fuel replacing tested b
    | .sequence parts => runSequence fuel replacing tested parts
    | .background body =>
      let death ← asPart (runToEnd fuel false body)
      modify fun s =>
        let n := processNumber + s.background.length + 1
        { s with background := (n, death.status) :: s.background, status := 0 }
    | .branch condition yes no =>
      run fuel false true condition
      if (← get).status == 0 then
        setStatus 0
        run fuel replacing tested yes
      else
        setStatus 0
        run fuel replacing tested no
    | .loop untilTrue condition body =>
      setStatus 0
      runLoop fuel tested untilTrue condition body
    | .each name words body =>
      let values ←
        match words with
        | some words => expandWords fuel words
        | none => pure (← get).arguments
      setStatus 0
      runEach fuel tested name values body
    | .choice subject cases =>
      let subject ← expandText fuel subject
      runCases fuel replacing tested (subject.map Prod.fst) cases
    | .group body redirections =>
      withRedirections fuel redirections (pure ())
        (run fuel (replacing && redirections.isEmpty) tested body)
    | .subshell body redirections =>
      withRedirections fuel redirections (pure ()) do
        setStatus (← deathStatus (← asPart (runToEnd fuel tested body)))
    | .define name body =>
      modify fun s => { s with functions := (name, body) :: s.functions }
      setStatus 0

end

end MergeBench.Shell
