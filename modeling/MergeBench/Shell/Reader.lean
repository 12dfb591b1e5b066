import MergeBench.Shell.Script

namespace MergeBench.Shell.Parser

structure Source where
  rest : List Char
  line : Nat
  /-- Lines that were taken out behind the present one. -/
  taken : Nat := 0

def Source.pastLineEnd (s : Source) : Source :=
  if s.rest.head? == some '\n' then ⟨s.rest.drop 1, s.line + 1 + s.taken, 0⟩ else s

structure SyntaxError where
  line : Nat
  what : String
  deriving Repr

abbrev Reader (α : Type) : Type :=
  StateT Source (Except SyntaxError) α

def fail {α : Type} (what : String) : Reader α := do
  throw ⟨(← get).line, what⟩

def peek? : Reader (Option Char) := do
  return (← get).rest.head?

def looking (start : String) : Reader Bool := do
  return start.toList.isPrefixOf (← get).rest

def advance (n : Nat) : Reader Unit :=
  modify fun s =>
    let lines := (s.rest.take n).count '\n'
    if lines == 0 then { s with rest := s.rest.drop n }
    else ⟨s.rest.drop n, s.line + lines + s.taken, 0⟩

def accept (start : String) : Reader Bool := do
  if ← looking start then
    advance start.length
    return true
  else return false

def isBlank (c : Char) : Bool :=
  c == ' ' || c == '\t'

def isMeta (c : Char) : Bool :=
  isBlank c || ['\n', ';', '&', '|', '<', '>', '(', ')'].contains c

inductive Limit where
  | blank
  | quote
  | brace
  | parenthesis
  | textEnd
  deriving DecidableEq

def Limit.stops : Limit → Char → Bool
  | blank, c => isMeta c
  | quote, c => c == '"'
  | brace, c => c == '\x7d'
  | parenthesis, c => c == '(' || c == ')'
  | textEnd, _ => false

/-- Characters that a backslash between quotes takes the meaning of. -/
def Limit.escapes (l : Limit) (c : Char) : Bool :=
  ['$', '\x60', '\\'].contains c || (l != textEnd && c == '"') || (l == brace && c == '\x7d')

def isNameStart (c : Char) : Bool :=
  c.isAlpha || c == '_'

def isNameChar (c : Char) : Bool :=
  c.isAlphanum || c == '_'

def isSpecial (c : Char) : Bool :=
  ['@', '*', '#', '?', '-', '$', '!'].contains c || c.isDigit

def skipBlanks : Nat → Reader Unit
  | 0 => pure ()
  | fuel + 1 => do
    if ← accept "\\\n" then skipBlanks fuel
    else
      match ← peek? with
      | some '#' => advance ((← get).rest.takeWhile (· != '\n')).length
      | some c =>
        if isBlank c then
          advance 1
          skipBlanks fuel
      | none => pure ()

def skipLines : Nat → Reader Unit
  | 0 => pure ()
  | fuel + 1 => do
    skipBlanks (fuel + 1)
    if ← accept "\n" then skipLines fuel

/-- The bare word at the cursor, if it is one that has no quotes or expansions in it. -/
def bareWord : Reader String := do
  let word := (← get).rest.takeWhile fun c =>
    !isMeta c && !(['\'', '"', '\\', '$', '\x60'].contains c)
  let next := ((← get).rest.drop word.length).head?
  let ends := (next.map isMeta).getD true
  return if ends then String.ofList word else ""

def acceptWord (word : String) : Reader Bool := do
  if (← bareWord) == word then
    advance word.length
    return true
  else return false

def closers : List String :=
  ["then", "else", "elif", "fi", "do", "done", "esac", "\x7d"]

def reservedWords : List String :=
  closers ++ ["!", "case", "for", "if", "in", "until", "while", "\x7b"]

def operators : List String :=
  ["&&", "||", ";;", ";", "&", "|", "(", ")"]

/-- The word or sign at the cursor, as messages name it. -/
def tokenText : Reader String := do
  match (← get).rest with
  | [] => return "end of file"
  | '\n' :: _ => return "newline"
  | rest =>
    match operators.find? fun sign => sign.toList.isPrefixOf rest with
    | some sign => return s!"\"{sign}\""
    | none =>
      if (redirectionStart rest) then return "redirection"
      let word ← bareWord
      return if reservedWords.contains word then s!"\"{word}\"" else "word"
where
  redirectionStart (cs : List Char) : Bool :=
    cs.head? == some '<' || cs.head? == some '>'

def unexpected {α : Type} (expected : Option String) : Reader α := do
  let found ← tokenText
  match expected with
  | some word => fail s!"Syntax error: {found} unexpected (expecting \"{word}\")"
  | none => fail s!"Syntax error: {found} unexpected"

def expectWord (fuel : Nat) (word : String) : Reader Unit := do
  skipLines fuel
  if !(← acceptWord word) then unexpected (some word)

def atListEnd : Reader Bool := do
  match (← get).rest with
  | [] => return true
  | ')' :: _ => return true
  | ';' :: ';' :: _ => return true
  | _ => return closers.contains (← bareWord)

def addText (c : Char) (quoted : Bool) : List Part → List Part
  | .text s q :: rest =>
    if q == quoted then .text (c :: s) q :: rest else .text [c] quoted :: .text s q :: rest
  | rest => .text [c] quoted :: rest

/-- A quoted part that is nothing but all arguments makes no field if there are none. -/
def withoutLoneMark (before : List Part) : List Part → List Part
  | [.parameter "@" .value [] true, .text [] true] => .parameter "@" .value [] true :: before
  | parts => parts ++ before

def markQuoted : List Part :=
  [.text [] true]

def backquoted (inQuotes : Bool) : List Char → Option (List Char × List Char)
  | [] => none
  | '\x60' :: rest => some ([], rest)
  | '\\' :: c :: rest =>
    (backquoted inQuotes rest).map fun (body, rest) =>
      if c == '\x60' || c == '\\' || c == '$' || (inQuotes && c == '"') then (c :: body, rest)
      else ('\\' :: c :: body, rest)
  | c :: rest => (backquoted inQuotes rest).map fun (body, rest) => (c :: body, rest)

def parameterUse : Reader ParameterUse := do
  if ← accept ":-" then return .default true
  else if ← accept ":=" then return .assign true
  else if ← accept ":+" then return .alternative true
  else if ← accept ":?" then return .require true
  else if ← accept "-" then return .default false
  else if ← accept "=" then return .assign false
  else if ← accept "+" then return .alternative false
  else if ← accept "?" then return .require false
  else if ← accept "##" then return .trim true true
  else if ← accept "#" then return .trim true false
  else if ← accept "%%" then return .trim false true
  else if ← accept "%" then return .trim false false
  else return .value

def parameterName : Reader String := do
  match ← peek? with
  | some c =>
    if isNameStart c then
      let name := (← get).rest.takeWhile isNameChar
      advance name.length
      return String.ofList name
    else if c.isDigit then
      let name := (← get).rest.takeWhile Char.isDigit
      advance name.length
      return String.ofList name
    else if isSpecial c then
      advance 1
      return String.ofList [c]
    else fail "Bad substitution"
  | none => fail "Syntax error: Missing '\x7d'"

def redirectionKind? : List Char → Option (RedirectionKind × Nat)
  | '<' :: '<' :: '-' :: _ => some (.text, 3)
  | '<' :: '<' :: _ => some (.text, 2)
  | '>' :: '>' :: _ => some (.append, 2)
  | '>' :: '&' :: _ => some (.duplicate, 2)
  | '>' :: '|' :: _ => some (.overwrite, 2)
  | '>' :: _ => some (.write, 1)
  | '<' :: '&' :: _ => some (.duplicate, 2)
  | '<' :: _ => some (.read, 1)
  | _ => none

def linesUntil (strip : Bool) (mark : List Char) : List (List Char) → List (List Char) × List (List Char)
  | [] => ([], [])
  | line :: rest =>
    let line := if strip then line.dropWhile (· == '\t') else line
    if line == mark then ([], rest)
    else
      let (body, after) := linesUntil strip mark rest
      (line :: body, after)

/-- Takes the text out of the script that belongs to a redirection on the present line. -/
def takeText (strip : Bool) (mark : List Char) : Reader (List Char) := do
  let s ← get
  let line := s.rest.takeWhile (· != '\n')
  match s.rest.drop line.length with
  | [] => return []
  | _ :: below =>
    let lines := below.splitOn '\n'
    let (body, after) := linesUntil strip mark lines
    let ended := body.length < lines.length
    let body := if ended || body.getLast? != some [] then body else body.dropLast
    set { s with
      rest := if ended then line ++ '\n' :: List.intercalate ['\n'] after else line
      taken := s.taken + (lines.length - after.length) }
    let text := List.intercalate ['\n'] body
    return if body.isEmpty then [] else if ended || below.getLast? == some '\n' then text ++ ['\n'] else text

/-- An assignment begins with a bare name and `=`. -/
def splitAssignment? : Word → Option (String × Word)
  | .text s false :: rest =>
    let name := s.takeWhile isNameChar
    match s.drop name.length with
    | '=' :: value =>
      if (name.head?.map isNameStart).getD false then
        some (String.ofList name, if value.isEmpty then rest else .text value false :: rest)
      else none
    | _ => none
  | _ => none

end MergeBench.Shell.Parser
