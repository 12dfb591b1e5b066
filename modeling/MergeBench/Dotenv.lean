import MergeBench.Environment
import MergeBench.Text.Blank

/-!
Files of environment variables: one binding a line, values bare or between quotes, with references to
other variables in them. A statement that is no binding is skipped with its line.
-/

namespace MergeBench.Dotenv

inductive Statement where
  /-- Blank lines and comments. -/
  | empty
  /-- A name without `=` has no value. -/
  | binding (name : String) (value : Option String)
  | unreadable (line : Nat)
  deriving DecidableEq, Repr

def isLineEnd (c : Char) : Bool :=
  c == '\n' || c == '\r'

def isGap (c : Char) : Bool :=
  Text.isBlank c && !isLineEnd c

def skipGap (cs : List Char) : List Char :=
  cs.dropWhile isGap

/-- The characters up to the closing quote, and the rest after it. A backslash takes the character
after it along, so that neither a quote nor another backslash counts there. -/
def quotedSpan? (quote : Char) : List Char → Option (List Char × List Char)
  | [] => none
  | '\\' :: c :: cs => (quotedSpan? quote cs).map fun (inner, rest) => ('\\' :: c :: inner, rest)
  | c :: cs =>
    if c == quote then some ([], cs)
    else if c == '\\' then none
    else (quotedSpan? quote cs).map fun (inner, rest) => (c :: inner, rest)

def singleEscape? : Char → Option Char
  | '\\' => some '\\'
  | '\'' => some '\''
  | _ => none

def doubleEscape? : Char → Option Char
  | '\\' => some '\\'
  | '\'' => some '\''
  | '"' => some '"'
  | 'a' => some '\x07'
  | 'b' => some '\x08'
  | 'f' => some '\x0c'
  | 'n' => some '\n'
  | 'r' => some '\r'
  | 't' => some '\t'
  | 'v' => some '\x0b'
  | _ => none

def unescape (escape? : Char → Option Char) : List Char → List Char
  | '\\' :: c :: cs =>
    match escape? c with
    | some e => e :: unescape escape? cs
    | none => '\\' :: unescape escape? (c :: cs)
  | c :: cs => c :: unescape escape? cs
  | [] => []

/-- The text before the first comment: a `#` after at least one blank. -/
def beforeComment : List Char → List Char
  | [] => []
  | c :: cs =>
    if Text.isBlank c && (cs.dropWhile Text.isBlank).head? == some '#' then []
    else c :: beforeComment cs

def readValue? (cs : List Char) : Option (List Char × List Char) :=
  let start := skipGap cs
  match start with
  | '\'' :: rest => (quotedSpan? '\'' rest).map fun (v, rest) => (unescape singleEscape? v, rest)
  | '"' :: rest => (quotedSpan? '"' rest).map fun (v, rest) => (unescape doubleEscape? v, rest)
  | _ =>
    let line := cs.takeWhile (!isLineEnd ·)
    let value := Text.dropBlank (beforeComment line)
    some (Text.dropBlankEnd value, cs.drop line.length)

def isNameChar (c : Char) : Bool :=
  c != '=' && c != '#' && !Text.isBlank c

/-- A name, bare or between single quotes; nothing in front of a comment. -/
def readName? (cs : List Char) : Option (Option (List Char) × List Char) :=
  match cs with
  | '#' :: _ => some (none, cs)
  | '\'' :: rest =>
    let name := rest.takeWhile (· != '\'')
    match rest.drop name.length with
    | _ :: rest => if name.isEmpty then none else some (some name, rest)
    | [] => none
  | _ =>
    let name := cs.takeWhile isNameChar
    if name.isEmpty then none else some (some name, cs.drop name.length)

def skipExport (cs : List Char) : List Char :=
  let word := "export".toList
  if word.isPrefixOf cs && ((cs.drop word.length).head?.map isGap).getD false then
    skipGap (cs.drop word.length)
  else cs

def skipComment (cs : List Char) : List Char :=
  match skipGap cs with
  | '#' :: rest => rest.dropWhile (!isLineEnd ·)
  | _ => cs

/-- The rest after a line end, where nothing but blanks comes before it. -/
def lineEnd? (cs : List Char) : Option (List Char) :=
  match skipGap cs with
  | [] => some []
  | '\r' :: '\n' :: rest => some rest
  | c :: rest => if isLineEnd c then some rest else none

def skipLine (cs : List Char) : List Char :=
  (cs.dropWhile (!isLineEnd ·)).drop 1

inductive Reading where
  | done (statement : Statement) (rest : List Char)
  | stuck (rest : List Char)

def finish (name : Option (List Char)) (value : Option (List Char)) (cs : List Char) : Reading :=
  let rest := skipComment cs
  match lineEnd? rest with
  | none => .stuck rest
  | some rest =>
    match name with
    | none => .done .empty rest
    | some name => .done (.binding (String.ofList name) (value.map String.ofList)) rest

def readStatement (cs : List Char) : Reading :=
  match cs.dropWhile Text.isBlank with
  | [] => .done .empty []
  | c :: cs =>
    let start := skipExport (c :: cs)
    match readName? start with
    | none => .stuck start
    | some (name, rest) =>
      match skipGap rest with
      | '=' :: rest =>
        match readValue? rest with
        | none => .stuck (skipGap rest)
        | some (value, rest) => finish name (some value) rest
      | rest => finish name none rest

/-- The statements of a text that begins on the given line; each takes at least one character. -/
def statementsFrom : Nat → Nat → List Char → List Statement
  | 0, _, _ => []
  | _, _, [] => []
  | fuel + 1, line, cs =>
    let (statement, rest) :=
      match readStatement cs with
      | .done statement rest => (statement, rest)
      | .stuck rest => (.unreadable line, skipLine rest)
    let read := cs.take (cs.length - rest.length)
    statement :: statementsFrom fuel (line + read.count '\n') rest

/-- A byte order mark in front of a text is no part of it. -/
def dropByteOrderMark (cs : List Char) : List Char :=
  match cs with
  | '\ufeff' :: rest => rest
  | cs => cs

def statements (text : String) : List Statement :=
  statementsFrom (text.length + 1) 1 (dropByteOrderMark text.toList)

def bindings (found : List Statement) : List (String × Option String) :=
  found.filterMap fun
    | .binding name value => some (name, value)
    | _ => none

def unreadableLines (found : List Statement) : List Nat :=
  found.filterMap fun
    | .unreadable line => some line
    | _ => none

/-- A reference `$\x7bname\x7d`, with a default after `:-`, and the rest behind it. -/
def reference? : List Char → Option (List Char × Option (List Char) × List Char)
  | '$' :: '\x7b' :: cs =>
    let name := cs.takeWhile fun c => c != '\x7d' && c != ':'
    match cs.drop name.length with
    | '\x7d' :: rest => some (name, none, rest)
    | ':' :: '-' :: tail =>
      let default := tail.takeWhile (· != '\x7d')
      match tail.drop default.length with
      | _ :: rest => some (name, some default, rest)
      | [] => none
    | _ => none
  | _ => none

/-- What a name stands for: the environment wins over the bindings read before; a name bound to
nothing is empty. -/
def meaning (env : Environment) (known : List (String × Option String)) (name default : String) :
    String :=
  match env.get? name with
  | some value => value
  | none =>
    match known.lookup name with
    | some value => value.getD ""
    | none => default

def expandFrom (env : Environment) (known : List (String × Option String)) :
    Nat → List Char → List Char
  | 0, cs => cs
  | _, [] => []
  | fuel + 1, c :: cs =>
    match reference? (c :: cs) with
    | some (name, default, rest) =>
      (meaning env known (String.ofList name) (String.ofList (default.getD []))).toList ++
        expandFrom env known fuel rest
    | none => c :: expandFrom env known fuel cs

def expand (env : Environment) (known : List (String × Option String)) (value : String) : String :=
  String.ofList (expandFrom env known (value.length + 1) value.toList)

/-- A later binding of a name takes the place of an earlier one. -/
def bind : List (String × Option String) → String → Option String → List (String × Option String)
  | [], name, value => [(name, value)]
  | (n, v) :: rest, name, value =>
    if name == n then (n, value) :: rest else (n, v) :: bind rest name value

def resolve (env : Environment) (found : List (String × Option String)) :
    List (String × Option String) :=
  found.foldl (fun known binding => bind known binding.1 (binding.2.map (expand env known))) []

/-- The bindings that the environment does not have yet. -/
def additions (env : Environment) (resolved : List (String × Option String)) :
    List (String × String) :=
  resolved.filterMap fun (name, value) =>
    match env.get? name with
    | some _ => none
    | none => value.map (name, ·)

end MergeBench.Dotenv
