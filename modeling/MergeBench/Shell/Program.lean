import MergeBench.Shell.State

/-!
How a program is found and started: by a path, by the places that are looked through for a command,
and by the interpreter that the first line of a script names.
-/

namespace MergeBench.Shell

/-- The first octets of a file that holds a tool; its name follows them. -/
def toolMark : Bytes :=
  [0x7f, 0x45, 0x4c, 0x46]

def toolNames : List String :=
  ["sh", "env", "true", "false", "echo", "printf", "cat", "rm", "grep", "sleep", "pwd", "test", "["]

def toolContent (name : String) : Bytes :=
  toolMark ++ Text.encode name

def toolOf? (content : Bytes) : Option String :=
  toolNames.find? fun name => toolContent name == content

structure Program where
  tool : String
  arguments : List String

/-- Interpreters of interpreters, at most. -/
def interpreterDepth : Nat := 5

def lossyText (bytes : Bytes) : String :=
  match Text.decode bytes with
  | .ok s => s
  | .error _ => String.ofList (bytes.map fun b => if b < 128 then Char.ofNat b.toNat else '\ufffd')

/-- The shell takes no notice of zero octets. -/
def withoutZeros (bytes : Bytes) : Bytes :=
  bytes.filter (· != 0)

def scriptText (bytes : Bytes) : String :=
  lossyText (withoutZeros bytes)

/-- How much of a file is looked at to find out how it is started. -/
def headSize : Nat := 256

/-- The interpreter that the first line of a script names, and an argument for it. A file that ends
before the line does goes on with zeros; a name must end within the part that is looked at. -/
def interpreterOf (content : Bytes) : Option (String × List String) :=
  let isGap (b : UInt8) : Bool := b == 32 || b == 9
  let head := content.take headSize ++ List.replicate (headSize - content.length) 0
  let line := head.takeWhile fun b => b != 10 && b != 0
  let isEnded := (head.drop line.length).head? == some 10
  let marked := if isEnded then line else head.take (headSize - 1)
  match marked with
  | 0x23 :: 0x21 :: rest =>
    let trimmed := ((rest.reverse.dropWhile isGap).reverse).dropWhile isGap
    let path := trimmed.takeWhile fun b => !isGap b && b != 0
    let behind := trimmed.drop path.length
    let isWhole := isEnded || ((head.drop 2).dropWhile isGap).any fun b => isGap b || b == 0
    if trimmed.isEmpty || !isWhole then none
    else
      let argument := lossyText ((behind.dropWhile isGap).takeWhile (· != 0))
      some (lossyText path, if (behind.head?.map isGap).getD false then [argument] else [])
  | _ => none

def findProgram (files : FileSystem) (here : Location) :
    Nat → String → List String → Except SystemError Program
  | 0, _, _ => .error .tooManyLinks
  | depth + 1, path, arguments => do
    match (← files.find true here path).entry with
    | none => .error .noEntry
    | some (.file content executable) =>
      if !executable then .error .accessDenied
      else
        match toolOf? content, interpreterOf content with
        | some tool, _ => .ok ⟨tool, arguments⟩
        | none, some ("", _) => .error .accessDenied
        | none, some (interpreter, first) =>
          findProgram files here depth interpreter
            (interpreter :: first ++ path :: arguments.drop 1)
        | none, none => .error .execFormat
    | some _ => .error .accessDenied

def searchPaths (bindings : List (String × String)) (command : String) : List String :=
  let places := (bindings.lookup "PATH").getD "/bin:/usr/bin"
  (places.toList.splitOn ':').map fun place =>
    let place := String.ofList place
    if place == "" then command
    else if place.endsWith "/" then place ++ command else place ++ "/" ++ command

/-- Who starts a program: a shell and its tools take a file without a known start for a script. -/
inductive Starter where
  | caller
  | shell
  deriving DecidableEq, Repr

/-- A file that is no tool in spite of its first octets, and no script either. -/
def isBrokenTool (files : FileSystem) (here : Location) (path : String) : Bool :=
  match files.readFile here path with
  | .ok content => toolMark.isPrefixOf content
  | .error _ => false

/-- Tries the places in turn. Reasons other than a missing file are kept; the first of them counts. -/
def tryPrograms (starter : Starter) (files : FileSystem) (here : Location) (arguments : List String) :
    Option SystemError → SystemError → List String → Except SystemError Program
  | kept, last, [] => .error (kept.getD last)
  | kept, _, path :: rest =>
    match findProgram files here interpreterDepth path arguments with
    | .ok p => .ok p
    | .error e =>
      if e == .execFormat && starter == .shell && !isBrokenTool files here path then
        .ok ⟨"sh", "/bin/sh" :: path :: arguments.drop 1⟩
      else
        let counts := e != .noEntry && e != .notDirectory
        tryPrograms starter files here arguments (if counts then kept.or (some e) else kept) e rest

def commandProgram (starter : Starter) (files : FileSystem) (here : Location)
    (bindings : List (String × String)) (words : List String) : Except SystemError Program :=
  match words with
  | [] => .error .noEntry
  | command :: _ =>
    let places :=
      if command.toList.contains '/' then [command] else searchPaths bindings command
    tryPrograms starter files here words none .noEntry places

end MergeBench.Shell
