import MergeBench.Shell.Format

/-!
Options of tools: single letters, which may be written together, and words, which may be shortened as
long as it is clear which is meant. They may stand anywhere in front of `--`.
-/

namespace MergeBench.Shell

structure OptionTable where
  letters : List Char
  valued : List Char := []
  /-- Words with the letters that stand for the same, in the order in which they are named. -/
  words : List (String × Char) := []

/-- Options by their letters, with values, and the other arguments. -/
structure Options where
  found : List (Char × String)
  names : List String

def Options.has (o : Options) (letter : Char) : Bool :=
  o.found.any (·.1 == letter)

def Options.last? (o : Options) (letters : List Char) : Option Char :=
  ((o.found.map Prod.fst).filter letters.contains).getLast?

def Options.value? (o : Options) (letter : Char) : Option String :=
  ((o.found.filter (·.1 == letter)).getLast?).map Prod.snd

/-- The word that is meant by one that may be shortened. -/
def OptionTable.word (t : OptionTable) (word : String) : Except String (String × Char) :=
  match t.words.find? fun w => w.1 == word, t.words.filter fun w => w.1.startsWith word with
  | some w, _ | none, [w] => .ok w
  | none, [] => .error s!"unrecognized option '--{word}'"
  | none, several =>
    let names := " ".intercalate (several.map fun w => s!"'--{w.1}'")
    if (several.map Prod.snd).eraseDups.length == 1 then .ok (several.headD ("", ' '))
    else .error s!"option '--{word}' is ambiguous; possibilities: {names}"

/-- Reads options; the error is what is said about a wrong one. -/
def readOptions (t : OptionTable) : Nat → List String → Except String Options
  | 0, names => .ok ⟨[], names⟩
  | _, [] => .ok ⟨[], []⟩
  | fuel + 1, argument :: rest => do
    let go (letter : Char) (value : String) (rest : List String) : Except String Options := do
      let later ← readOptions t fuel rest
      return { later with found := (letter, value) :: later.found }
    match argument.toList with
    | ['-', '-'] => return ⟨[], rest⟩
    | '-' :: '-' :: text =>
      let word := text.takeWhile (· != '=')
      let value := (text[word.length]?).map fun _ => String.ofList (text.drop (word.length + 1))
      let (name, letter) ← t.word (String.ofList word)
      if t.valued.contains letter then
        match value, rest with
        | some value, rest => go letter value rest
        | none, value :: rest => go letter value rest
        | none, [] => throw s!"option '--{name}' requires an argument"
      else if value.isSome then throw s!"option '--{name}' doesn't allow an argument"
      else go letter "" rest
    | '-' :: letter :: more =>
      if t.valued.contains letter then
        match more, rest with
        | [], value :: rest => go letter value rest
        | [], [] => throw s!"option requires an argument -- '{letter}'"
        | more, rest => go letter (String.ofList more) rest
      else if t.letters.contains letter then
        go letter "" (if more.isEmpty then rest else String.ofList ('-' :: more) :: rest)
      else throw s!"invalid option -- '{letter}'"
    | _ =>
      let later ← readOptions t fuel rest
      return { later with names := argument :: later.names }

def optionsOf (t : OptionTable) (arguments : List String) : Except String Options :=
  readOptions t ((arguments.map String.length).foldl Nat.add (arguments.length + 1)) arguments

def withOptions (own : String) (t : OptionTable) (arguments : List String)
    (body : Options → Session Nat) : Session Nat := do
  match optionsOf t arguments with
  | .ok o => body o
  | .error e =>
    errorText (s!"{own}: {e}\n" ++ tryHelp own)
    return 1

def takeInput : Session Bytes := do
  let s ← get
  set { s with input := [] }
  return s.input

/-- The content of a file, or of the input for `-`. -/
def readNamed (path : String) : Session (Except SystemError Bytes) := do
  if path == "-" || path == inputDevice then return .ok (← takeInput)
  else
    let s ← get
    return s.files.readFile s.directory path

def splitLines (bytes : Bytes) : List Bytes :=
  let lines := bytes.splitOn 10
  if lines.getLast? == some [] then lines.dropLast else lines

end MergeBench.Shell
