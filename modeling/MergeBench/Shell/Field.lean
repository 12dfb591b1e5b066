import MergeBench.Shell.Mode
import MergeBench.Shell.Pattern

/-!
Fields: the values in a word fall apart at separators, except where they are quoted, and a field with
patterns in it stands for the paths that match.
-/

namespace MergeBench.Shell

inductive Item where
  | char (c : Char) (quoted : Bool)
  /-- A quoted part, which makes a field even if it is empty. -/
  | mark
  | gap (separators : List Char)
  /-- The end of one of several parameters; the text stands there if fields are of no account. -/
  | border (text : List Char)

def quotedItems (s : String) : List Item :=
  .mark :: s.toList.map (.char · true)

def separators (s : State) : List Char :=
  ((s.lookup? "IFS").getD " \t\n").toList

/-- Separators of this kind count once however many there are, and not at all at the ends. -/
def isLoose (c : Char) : Bool :=
  c == ' ' || c == '\t' || c == '\n'

/-- Separators between other items where nothing is quoted. -/
def partedItems (separators : List Char) : List Item → List Item
  | [] => []
  | .char c false :: rest =>
    if separators.contains c then
      match partedItems separators rest with
      | .gap later :: items => .gap (c :: later) :: items
      | items => .gap [c] :: items
    else .char c false :: partedItems separators rest
  | item :: rest => item :: partedItems separators rest

/-- The value of an expansion: outside quotes it falls apart at separators. -/
def valueItems (separators : List Char) (quoted : Bool) (value : String) : List Item :=
  if quoted then quotedItems value else partedItems separators (value.toList.map (.char · false))

/-- Empty fields that separators make where no field has begun. -/
def emptyFields : List Char → List (List (Char × Bool))
  | [] => []
  | c :: rest => if isLoose c then emptyFields rest else [] :: emptyFields rest

/-- The fields that items make, each with what is quoted in it. -/
def fieldsOf : Option (List (Char × Bool)) → List Item → List (List (Char × Bool))
  | field, [] => field.toList
  | field, .char c quoted :: rest => fieldsOf (some (field.getD [] ++ [(c, quoted)])) rest
  | field, .mark :: rest => fieldsOf (some (field.getD [])) rest
  | field, .border _ :: rest => field.toList ++ fieldsOf none rest
  | none, .gap cs :: rest => emptyFields cs ++ fieldsOf none rest
  | some field, .gap cs :: rest =>
    field :: emptyFields ((cs.dropWhile isLoose).drop 1) ++ fieldsOf none rest

def textOf (items : List Item) : List (Char × Bool) :=
  items.flatMap fun
    | .char c quoted => [(c, quoted)]
    | .gap cs | .border cs => cs.map (·, false)
    | .mark => []

def plainText (cs : List (Char × Bool)) : String :=
  String.ofList (cs.map Prod.fst)

def intersperseItem (sep : Item) (groups : List (List Item)) : List Item :=
  (List.intersperse [sep] groups).flatten

def parameterText? (s : State) (name : String) : Option String :=
  match name with
  | "#" => some (Number.naturalText s.arguments.length)
  | "?" => some (Number.naturalText s.status)
  | "$" => some (Number.naturalText processNumber)
  | "!" => (s.background.head?).map fun (n, _) => Number.naturalText n
  | "-" => some s.shownModes
  | "0" => some s.name
  | "@" | "*" => some ((String.ofList ((separators s).take 1)).intercalate s.arguments)
  | _ =>
    match name.toNat? with
    | some n => s.arguments[n - 1]?
    | none => s.lookup? name

def parameterItems (s : State) (name : String) (quoted : Bool) : List Item :=
  let seps := separators s
  if name == "*" && quoted then
    quotedItems ((String.ofList (seps.take 1)).intercalate s.arguments)
  else if name == "@" || name == "*" then
    intersperseItem (.border (seps.take 1)) (s.arguments.map (valueItems seps quoted))
  else valueItems seps quoted ((parameterText? s name).getD "")

/-- The value without the shortest or longest part at one end that a pattern matches. -/
def trimmed (atFront longest : Bool) (pattern : List Glob) (value : List Char) : List Char :=
  let sizes := List.range (value.length + 1)
  let sizes := if longest then sizes.reverse else sizes
  let part (n : Nat) : List Char := if atFront then value.take n else value.drop (value.length - n)
  match sizes.find? fun n => Glob.matchesFrom pattern (part n) with
  | some n => if atFront then value.drop n else value.take (value.length - n)
  | none => value

def dropLastLines (bytes : Bytes) : Bytes :=
  (bytes.reverse.dropWhile (· == 10)).reverse

def namesMatching (files : FileSystem) (here : Location) (pattern : List Glob) : List String :=
  let hidden := pattern.head? == some (.char '.')
  let names := (files.children here).filterMap List.getLast?
  (names.filter fun name =>
    (hidden || !name.startsWith ".") && Glob.matchesFrom pattern name.toList).mergeSort
      fun a b => decide (a ≤ b)

def pathsMatching (files : FileSystem) :
    Location → String → List (List (Char × Bool)) → List String
  | _, start, [] => [start]
  | here, start, part :: rest =>
    let pattern := Glob.ofChars (part.length + 1) part
    let joinTo (name : String) : String :=
      if rest.isEmpty then start ++ name else start ++ name ++ "/"
    if Glob.isPlain pattern then
      let name := plainText part
      let found := if name == "" then Except.ok ⟨here, some .directory⟩ else files.find true here name
      match found with
      | .ok ⟨l, some _⟩ => pathsMatching files l (joinTo name) rest
      | _ => []
    else
      (namesMatching files here pattern).flatMap fun name =>
        match files.find true here name with
        | .ok ⟨l, some entry⟩ =>
          if rest.isEmpty || entry == Entry.directory then pathsMatching files l (joinTo name) rest else []
        | _ => []

/-- A field as it is used: with patterns in it, it stands for the paths that match. -/
def fieldPaths (s : State) (field : List (Char × Bool)) : List String :=
  let plain := plainText field
  if s.isOn 'f' || Glob.isPlain (Glob.ofChars (field.length + 1) field) then [plain]
  else
    let parts := field.splitOnP fun (c, _) => c == '/'
    let paths :=
      match parts with
      | [] :: rest => pathsMatching s.files [] "/" rest
      | parts => pathsMatching s.files s.directory "" parts
    if paths.isEmpty then [plain] else paths

def expandTilde (s : State) : Word → Word
  | .text ('~' :: rest) false :: parts =>
    if rest.isEmpty || rest.head? == some '/' then
      .text ((s.lookup? "HOME").getD "~").toList true :: .text rest false :: parts
    else .text ('~' :: rest) false :: parts
  | word => word

end MergeBench.Shell
