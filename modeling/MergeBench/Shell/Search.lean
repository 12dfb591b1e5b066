import MergeBench.Shell.Regular
import MergeBench.Shell.ToolOption

namespace MergeBench.Shell

namespace Search

def options : OptionTable where
  letters := "EFGivywxclLoqshHna".toList
  valued := ['e', 'm']
  words := [("basic-regexp", 'G'), ("extended-regexp", 'E'), ("fixed-regexp", 'F'), ("fixed-strings", 'F'),
    ("regexp", 'e'), ("ignore-case", 'i'), ("invert-match", 'v'), ("word-regexp", 'w'),
    ("line-regexp", 'x'), ("count", 'c'), ("files-with-matches", 'l'), ("files-without-match", 'L'),
    ("only-matching", 'o'), ("quiet", 'q'), ("silent", 'q'), ("no-messages", 's'), ("no-filename", 'h'),
    ("with-filename", 'H'), ("line-number", 'n'), ("max-count", 'm'), ("text", 'a')]

def usage : String :=
  "Usage: grep [OPTION]... PATTERNS [FILE]...\nTry 'grep --help' for more information.\n"

structure Query where
  alternatives : List Regular
  caseless : Bool
  wholeLine : Bool
  wholeWord : Bool

/-- The places where a match from the given place on can end, as far as it counts. -/
def Query.ends (q : Query) (chars : Array Char) (start : Nat) : List Nat :=
  let isWord (n : Nat) : Bool := (chars[n]?.map Regular.isWordChar).getD false
  let all := q.alternatives.flatMap fun r => r.ends q.caseless chars start
  all.filter fun last =>
    (!q.wholeLine || (start == 0 && last == chars.size)) &&
      (!q.wholeWord || (!(0 < start && isWord (start - 1)) && !isWord last))

def Query.isFoundIn (q : Query) (chars : Array Char) : Bool :=
  (List.range (chars.size + 1)).any fun start => !(q.ends chars start).isEmpty

/-- The parts of a line that match, each as long as possible and none of them empty. -/
def Query.parts (q : Query) (chars : Array Char) : Nat → Nat → List (Nat × Nat)
  | 0, _ => []
  | fuel + 1, start =>
    if chars.size ≤ start then []
    else
      let last := (q.ends chars start).foldl max start
      if last == start then q.parts chars fuel (start + 1)
      else (start, last) :: q.parts chars fuel last

def query (o : Options) (patterns : List String) : Except Regular.RegularError Query := do
  let lines := patterns.flatMap fun p => p.toList.splitOn '\n'
  let kind := (o.last? ['E', 'F', 'G']).getD 'G'
  let alternatives ← lines.mapM fun cs =>
    if kind == 'F' then .ok (Regular.literal cs) else Regular.ofText (kind == 'E') cs
  return ⟨alternatives, o.has 'i' || o.has 'y', o.has 'x', o.has 'w'⟩

/-- What one file gives: how many lines were selected, and whether the rest was not shown because it is
no text. -/
structure Outcome where
  count : Nat
  isBinary : Bool

def showLine (o : Options) (q : Query) (mark : String) (number : Nat) (line : Bytes) : Session Unit := do
  let start := if o.has 'n' then s!"{mark}{number}:" else mark
  if o.has 'o' then
    if !o.has 'v' then
      let chars := (lossyText line).toList.toArray
      for (first, last) in q.parts chars (chars.size + 1) 0 do
        outText (start ++ String.ofList (chars.toList.drop first |>.take (last - first)) ++ "\n")
  else
    outText start
    out (line ++ [10])

def isText (bytes : Bytes) : Bool :=
  match Text.decode bytes with
  | .ok _ => !(bytes.contains 0)
  | .error _ => false

/-- Goes through lines; `hidden` lines are only counted. -/
def searchLines (o : Options) (q : Query) (mark : String) (hidden isBinary : Bool) (limit : Option Nat) :
    Nat → List (Bytes × Nat) → Session Outcome
  | count, [] => return ⟨count, isBinary && 0 < count⟩
  | count, (line, number) :: rest => do
    if limit == some count then return ⟨count, isBinary && 0 < count⟩
    let selected := q.isFoundIn (lossyText line).toList.toArray != o.has 'v'
    if !selected then searchLines o q mark hidden isBinary limit count rest
    else if hidden then searchLines o q mark hidden isBinary limit (count + 1) rest
    else if isBinary || (!o.has 'a' && !isText line) then return ⟨count + 1, true⟩
    else
      showLine o q mark number line
      searchLines o q mark hidden isBinary limit (count + 1) rest

/-- Searches files; says whether a line was selected and whether a file could not be read. -/
def searchFiles (own : String) (o : Options) (q : Query) (several : Bool) (limit : Option Nat) :
    Bool × Bool → List String → Session (Bool × Bool)
  | found, [] => return found
  | (matched, failed), name :: rest => do
    match ← readNamed name with
    | .error e =>
      if !o.has 's' then errorText s!"{own}: {name}: {e.text}\n"
      searchFiles own o q several limit (matched, true) rest
    | .ok bytes =>
      let shown := if name == "-" then "(standard input)" else name
      let named := (o.last? ['h', 'H']).map (· == 'H') |>.getD several
      let mark := if named then shown ++ ":" else ""
      let isListing := o.has 'l' || o.has 'L'
      let hidden := o.has 'c' || isListing || o.has 'q'
      let isBinary := !o.has 'a' && bytes.contains 0
      let outcome ← searchLines o q mark hidden isBinary limit 0 ((splitLines bytes).zipIdx 1)
      let isHit := 0 < outcome.count
      let listed := if (o.last? ['l', 'L']) == some 'L' then !isHit else isHit
      if !o.has 'q' then
        if o.has 'c' && !isListing then outText s!"{mark}{outcome.count}\n"
        if isListing && listed then outText (shown ++ "\n")
        if !hidden && outcome.isBinary then errorText s!"{own}: {shown}: binary file matches\n"
      searchFiles own o q several limit (matched || isHit, failed) rest

def run (own : String) (arguments : List String) : Session Nat := do
  let wrong (text : String) : Session Nat := do
    errorText s!"{own}: {text}\n"
    return 2
  match optionsOf options arguments with
  | .error e => wrong (e ++ "\n" ++ (usage.dropEnd 1).toString)
  | .ok o =>
    let given := (o.found.filter (·.1 == 'e')).map Prod.snd
    let limit := o.value? 'm'
    if limit.any fun text => !(text != "" && text.toList.all Char.isDigit) then wrong "invalid max count"
    else
      match given, o.names with
      | [], [] =>
        errorText usage
        return 2
      | given, names =>
        let patterns := if given.isEmpty then names.take 1 else given
        let names := if given.isEmpty then names.drop 1 else names
        match query o patterns with
        | .error e => wrong e.message
        | .ok q =>
          let limit := limit.bind String.toNat?
          if limit == some 0 then return 1
          let files := if names.isEmpty then ["-"] else names
          let (matched, failed) ← searchFiles own o q (1 < names.length) limit (false, false) files
          return if failed && !(matched && o.has 'q') then 2 else if matched then 0 else 1

end Search

end MergeBench.Shell
