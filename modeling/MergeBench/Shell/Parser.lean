import MergeBench.Shell.Reader

/-!
Reading shell scripts: words with their parts, commands, and the statements made of them. A text that
is no script is refused with the word at which it was noticed.
-/

namespace MergeBench.Shell.Parser

mutual

/-- The parts of a word up to its limit, last part first; text is last character first. -/
def readParts : Nat → Limit → Bool → List Part → Reader (List Part)
  | 0, _, _, _ => fail "Syntax error: word is too long"
  | fuel + 1, limit, inQuotes, parts => do
    match (← get).rest with
    | [] => return parts
    | c :: rest =>
      if limit.stops c then return parts
      else if c == '$' then
        advance 1
        let part ← readDollar fuel inQuotes
        readParts fuel limit inQuotes (part :: parts)
      else if c == '\x60' then
        match backquoted inQuotes rest with
        | none => fail "Syntax error: EOF in backquote substitution"
        | some (body, after) =>
          advance (rest.length + 1 - after.length)
          let outer ← get
          set (Source.mk body outer.line 0)
          let script ← readList fuel true
          set outer
          readParts fuel limit inQuotes (.output script inQuotes :: parts)
      else if c == '\\' then
        match rest with
        | [] =>
          advance 1
          readParts fuel limit inQuotes (addText '\\' true parts)
        | '\n' :: _ =>
          advance 2
          readParts fuel limit inQuotes parts
        | d :: _ =>
          advance 2
          if inQuotes && !limit.escapes d then
            readParts fuel limit inQuotes (addText d true (addText '\\' true parts))
          else readParts fuel limit inQuotes (addText d true parts)
      else if c == '"' && !inQuotes then
        advance 1
        let inner ← readParts fuel .quote true markQuoted
        if !(← accept "\"") then fail "Syntax error: Unterminated quoted string"
        readParts fuel limit inQuotes (withoutLoneMark parts inner)
      else if c == '"' && limit == .brace then
        advance 1
        readParts fuel limit inQuotes parts
      else if c == '\'' && !inQuotes then
        let inner := rest.takeWhile (· != '\'')
        if inner.length == rest.length then fail "Syntax error: Unterminated quoted string"
        advance (inner.length + 2)
        readParts fuel limit inQuotes (.text inner.reverse true :: parts)
      else
        advance 1
        readParts fuel limit inQuotes (addText c inQuotes parts)

def readWordUntil : Nat → Limit → Bool → Reader Word
  | 0, _, _ => fail "Syntax error: word is too long"
  | fuel + 1, limit, inQuotes => do
    let parts ← readParts fuel limit inQuotes []
    return parts.reverse.map fun
      | .text s q => .text s.reverse q
      | part => part

def readDollar : Nat → Bool → Reader Part
  | 0, _ => fail "Syntax error: word is too long"
  | fuel + 1, quoted => do
    if ← accept "((" then
      let body ← readArithmetic fuel 0
      return .arithmetic body quoted
    else if ← accept "(" then
      let script ← readList fuel true
      if !(← accept ")") then unexpected (some ")")
      return .output script quoted
    else if ← accept "\x7b" then
      let isLength := (← looking "#") && !(← looking "#\x7d")
      if isLength then
        advance 1
        let name ← parameterName
        if !(← accept "\x7d") then fail "Bad substitution"
        return .parameter name .length [] quoted
      else
        let name ← parameterName
        let how ← parameterUse
        let isTrim := match how with | .trim .. => true | _ => false
        let word ← readWordUntil fuel .brace (quoted && !isTrim)
        if !(← accept "\x7d") then
          fail (if quoted then "Syntax error: Unterminated quoted string" else "Syntax error: Missing '\x7d'")
        if how == .value && !word.isEmpty then fail "Bad substitution"
        return .parameter name how word quoted
    else
      match ← peek? with
      | some c =>
        if isNameStart c then return .parameter (← parameterName) .value [] quoted
        else if isSpecial c then
          advance 1
          return .parameter (String.ofList [c]) .value [] quoted
        else return .text ['$'] quoted
      | none => return .text ['$'] quoted

/-- The parts up to the two closing parentheses that match. -/
def readArithmetic : Nat → Nat → Reader (List Part)
  | 0, _ => fail "Syntax error: word is too long"
  | fuel + 1, depth => do
    let parts ← readWordUntil fuel .parenthesis true
    if ← accept "(" then
      return parts ++ .text ['('] true :: (← readArithmetic fuel (depth + 1))
    else if depth == 0 then
      if ← accept "))" then return parts else fail "Syntax error: Missing '))'"
    else if ← accept ")" then
      return parts ++ .text [')'] true :: (← readArithmetic fuel (depth - 1))
    else fail "Syntax error: Missing '))'"

def readWord : Nat → Reader Word
  | 0 => fail "Syntax error: word is too long"
  | fuel + 1 => readWordUntil fuel .blank false

def readRedirection? : Nat → Reader (Option Redirection)
  | 0 => return none
  | fuel + 1 => do
    let s ← get
    let digits := s.rest.takeWhile Char.isDigit
    match redirectionKind? (s.rest.drop digits.length) with
    | none => return none
    | some (kind, width) =>
      let signs := s.rest.drop digits.length
      let isInput := signs.head? == some '<'
      let descriptor :=
        if digits.isEmpty then (if isInput then 0 else 1) else (String.ofList digits).toNat?.getD 0
      advance (digits.length + width)
      skipBlanks fuel
      let target ← readWord fuel
      if target.isEmpty then unexpected none
      if kind == .text then
        let mark := target.flatMap fun | .text s _ => s | _ => []
        let isLiteral := target.any fun | .text _ quoted => quoted | _ => false
        let body ← takeText (signs.drop 2 |>.head?.map (· == '-') |>.getD false) mark
        if isLiteral then return some (.mk descriptor kind [.text body true])
        else
          let outer ← get
          set (Source.mk body outer.line 0)
          let word ← readWordUntil fuel .textEnd true
          set outer
          return some (.mk descriptor kind word)
      else return some (.mk descriptor kind target)

def readRedirections : Nat → Reader (List Redirection)
  | 0 => return []
  | fuel + 1 => do
    skipBlanks fuel
    match ← readRedirection? fuel with
    | none => return []
    | some r => return r :: (← readRedirections fuel)

def readSimple : Nat → Nat → List (String × Word) → List Word → List Redirection → Reader Statement
  | 0, _, _, _, _ => fail "Syntax error: command is too long"
  | fuel + 1, line, assignments, words, redirections => do
    skipBlanks fuel
    match ← readRedirection? fuel with
    | some r => readSimple fuel line assignments words (redirections ++ [r])
    | none =>
      let ended := ((← peek?).map isMeta).getD true
      if ended then
        if (← looking "(") && words.length == 1 && assignments.isEmpty then readFunction fuel words
        else return .simple line assignments words redirections
      else
        let word ← readWord fuel
        match (if words.isEmpty then splitAssignment? word else none) with
        | some assignment => readSimple fuel line (assignments ++ [assignment]) words redirections
        | none => readSimple fuel line assignments (words ++ [word]) redirections

/-- A name before `()` begins a definition. -/
def readFunction : Nat → List Word → Reader Statement
  | 0, _ => fail "Syntax error: command is too long"
  | fuel + 1, words => do
    match words with
    | [[.text name false]] =>
      if !(← accept "(") then unexpected none
      skipBlanks fuel
      if !(← accept ")") then unexpected (some ")")
      if !(name.all isNameChar && (name.head?.map isNameStart).getD false) then
        fail "Syntax error: Bad function name"
      skipLines fuel
      return .define (String.ofList name) (← readCommand fuel)
    | _ => unexpected none

def readCommand : Nat → Reader Statement
  | 0 => fail "Syntax error: command is too long"
  | fuel + 1 => do
    skipBlanks fuel
    let line := (← get).line
    if ← acceptWord "if" then
      let body ← readBranch fuel
      return .group body (← readRedirections fuel)
    else if ← acceptWord "while" then
      let body ← readLoop fuel false
      return .group body (← readRedirections fuel)
    else if ← acceptWord "until" then
      let body ← readLoop fuel true
      return .group body (← readRedirections fuel)
    else if ← acceptWord "for" then
      let body ← readEach fuel
      return .group body (← readRedirections fuel)
    else if ← acceptWord "case" then
      skipBlanks fuel
      let subject ← readWord fuel
      if subject.isEmpty then fail (s!"Syntax error: {← tokenText} unexpected (expecting word)")
      expectWord fuel "in"
      let cases ← readCases fuel
      return .group (.choice subject cases) (← readRedirections fuel)
    else if ← acceptWord "\x7b" then
      let body ← readList fuel false
      expectWord fuel "\x7d"
      return .group body (← readRedirections fuel)
    else if ← accept "(" then
      let body ← readList fuel false
      if !(← accept ")") then unexpected (some ")")
      return .subshell body (← readRedirections fuel)
    else if closers.contains (← bareWord) then unexpected none
    else
      match ← readSimple fuel line [] [] [] with
      | .simple _ [] [] [] => unexpected none
      | statement => return statement

def readBranch : Nat → Reader Statement
  | 0 => fail "Syntax error: command is too long"
  | fuel + 1 => do
    let condition ← readList fuel false
    expectWord fuel "then"
    let yes ← readList fuel false
    skipLines fuel
    if ← acceptWord "elif" then return .branch condition yes (← readBranch fuel)
    else if ← acceptWord "else" then
      let no ← readList fuel false
      expectWord fuel "fi"
      return .branch condition yes no
    else
      expectWord fuel "fi"
      return .branch condition yes .nothing

def readLoop : Nat → Bool → Reader Statement
  | 0, _ => fail "Syntax error: command is too long"
  | fuel + 1, untilTrue => do
    let condition ← readList fuel false
    expectWord fuel "do"
    let body ← readList fuel false
    expectWord fuel "done"
    return .loop untilTrue condition body

def readWords : Nat → Reader (List Word)
  | 0 => return []
  | fuel + 1 => do
    skipBlanks fuel
    if ((← peek?).map isMeta).getD true then return []
    else
      let word ← readWord fuel
      return word :: (← readWords fuel)

def readEach : Nat → Reader Statement
  | 0 => fail "Syntax error: command is too long"
  | fuel + 1 => do
    skipBlanks fuel
    if !((← peek?).map isNameStart).getD false then fail "Syntax error: Bad for loop variable"
    let name ← parameterName
    skipLines fuel
    let words ←
      if ← acceptWord "in" then
        let words ← readWords fuel
        pure (some words)
      else pure none
    skipBlanks fuel
    let _ ← accept ";"
    expectWord fuel "do"
    let body ← readList fuel false
    expectWord fuel "done"
    return .each name words body

def readPatterns : Nat → Reader (List Word)
  | 0 => fail "Syntax error: command is too long"
  | fuel + 1 => do
    skipBlanks fuel
    let pattern ← readWord fuel
    skipBlanks fuel
    if ← accept "|" then return pattern :: (← readPatterns fuel)
    else if ← accept ")" then return [pattern]
    else unexpected (some ")")

def readCases : Nat → Reader (List (List Word × Statement))
  | 0 => fail "Syntax error: command is too long"
  | fuel + 1 => do
    skipLines fuel
    if ← acceptWord "esac" then return []
    else
      let _ ← accept "("
      let patterns ← readPatterns fuel
      let body ← readList fuel true
      skipLines fuel
      if ← accept ";;" then return (patterns, body) :: (← readCases fuel)
      else
        expectWord fuel "esac"
        return [(patterns, body)]

def readPipeline : Nat → Reader (List Statement)
  | 0 => fail "Syntax error: command is too long"
  | fuel + 1 => do
    let first ← readCommand fuel
    skipBlanks fuel
    if (← looking "|") && !(← looking "||") then
      advance 1
      skipLines fuel
      return first :: (← readPipeline fuel)
    else return [first]

def readNegatable : Nat → Reader Statement
  | 0 => fail "Syntax error: command is too long"
  | fuel + 1 => do
    skipBlanks fuel
    let negated ← acceptWord "!"
    match ← readPipeline fuel, negated with
    | [single], false => return single
    | parts, negated => return .pipeline negated parts

def readChain : Nat → Statement → Reader Statement
  | 0, _ => fail "Syntax error: command is too long"
  | fuel + 1, first => do
    skipBlanks fuel
    if ← accept "&&" then
      skipLines fuel
      readChain fuel (.both first (← readNegatable fuel))
    else if ← accept "||" then
      skipLines fuel
      readChain fuel (.either first (← readNegatable fuel))
    else return first

def readStatements : Nat → Reader (List Statement)
  | 0 => fail "Syntax error: command is too long"
  | fuel + 1 => do
    skipLines fuel
    if ← atListEnd then return []
    else
      let statement ← readChain fuel (← readNegatable fuel)
      skipBlanks fuel
      if (← looking ";") && !(← looking ";;") then
        advance 1
        return statement :: (← readStatements fuel)
      else if ← accept "&" then return .background statement :: (← readStatements fuel)
      else if ← looking "\n" then return statement :: (← readStatements fuel)
      else return [statement]

/-- A list of statements; one that may not be empty ends the script at the latest. -/
def readList : Nat → Bool → Reader Statement
  | 0, _ => fail "Syntax error: command is too long"
  | fuel + 1, mayBeEmpty => do
    skipLines fuel
    if !mayBeEmpty && !(← get).rest.isEmpty && (← atListEnd) then unexpected none
    match ← readStatements fuel with
    | [single] => return single
    | parts => return .sequence parts

end

/-- The next line of a script with all that belongs to it; nothing at the end. -/
def readLine? (fuel : Nat) : Reader (Option Statement) := do
  skipLines fuel
  match (← get).rest with
  | [] => return none
  | _ =>
    if ← atListEnd then unexpected none
    else
      let rec collect : Nat → Reader (List Statement)
        | 0 => return []
        | n + 1 => do
          let statement ← readChain fuel (← readNegatable fuel)
          skipBlanks fuel
          let (statement, more) ←
            if (← looking ";") && !(← looking ";;") then
              advance 1
              pure (statement, true)
            else if ← accept "&" then pure (.background statement, true)
            else pure (statement, false)
          skipBlanks fuel
          match (← get).rest with
          | [] => return [statement]
          | '\n' :: _ => return [statement]
          | _ =>
            if more then return statement :: (← collect n)
            else unexpected none
      return some (.sequence (← collect fuel))

end MergeBench.Shell.Parser
