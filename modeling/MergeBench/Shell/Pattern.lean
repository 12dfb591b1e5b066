namespace MergeBench.Shell

structure CharSet where
  negated : Bool
  ranges : List (Char × Char)
  deriving DecidableEq, Repr

def CharSet.contains (s : CharSet) (c : Char) : Bool :=
  (s.ranges.any fun (a, b) => a ≤ c && c ≤ b) != s.negated

/-- The characters that a class such as `[:alpha:]` stands for. -/
def classRanges? (name : String) : Option (List (Char × Char)) :=
  let letters := [('A', 'Z'), ('a', 'z')]
  let blanks := [(' ', ' '), ('\t', '\t')]
  match name with
  | "alpha" => some letters
  | "digit" => some [('0', '9')]
  | "alnum" => some (('0', '9') :: letters)
  | "upper" => some [('A', 'Z')]
  | "lower" => some [('a', 'z')]
  | "space" => some [(' ', ' '), ('\t', '\r')]
  | "blank" => some blanks
  | "punct" => some [('!', '/'), (':', '@'), ('[', '\x60'), ('\x7b', '~')]
  | "print" => some [(' ', '~')]
  | "graph" => some [('!', '~')]
  | "cntrl" => some [('\x00', '\x1f'), ('\x7f', '\x7f')]
  | "xdigit" => some [('0', '9'), ('A', 'F'), ('a', 'f')]
  | _ => none

/-- The class at the front of a text, behind its opening `[:`. -/
def takeClass? (cs : List Char) : Option (String × List Char) :=
  let name := cs.takeWhile Char.isAlpha
  match cs.drop name.length with
  | ':' :: ']' :: rest => some (String.ofList name, rest)
  | _ => none

def readRanges : Nat → Bool → List Char → Option (List (Char × Char) × List Char)
  | 0, _, _ | _, _, [] => none
  | _, false, ']' :: rest => some ([], rest)
  | fuel + 1, _, c :: rest =>
    let single (_ : Unit) : Option (List (Char × Char) × List Char) :=
      match rest with
      | '-' :: b :: later =>
        if b == ']' then (readRanges fuel false rest).map fun (rs, after) => ((c, c) :: rs, after)
        else (readRanges fuel false later).map fun (rs, after) => ((c, b) :: rs, after)
      | _ => (readRanges fuel false rest).map fun (rs, after) => ((c, c) :: rs, after)
    match c, rest with
    | '[', ':' :: named =>
      match takeClass? named with
      | some (name, later) =>
        (readRanges fuel false later).map fun (rs, after) => ((classRanges? name).getD [] ++ rs, after)
      | none => single ()
    | _, _ => single ()

def readSet? (negations : List Char) (cs : List Char) : Option (CharSet × List Char) :=
  match cs with
  | c :: rest =>
    let fuel := cs.length + 1
    if negations.contains c then (readRanges fuel true rest).map fun (rs, rest) => (⟨true, rs⟩, rest)
    else (readRanges fuel true cs).map fun (rs, rest) => (⟨false, rs⟩, rest)
  | [] => none

inductive Glob where
  | char (c : Char)
  | one
  | many
  | set (s : CharSet)
  deriving DecidableEq, Repr

namespace Glob

/-- Characters with whether they are quoted, which takes their meaning. -/
def ofChars : Nat → List (Char × Bool) → List Glob
  | 0, _ => []
  | _, [] => []
  | fuel + 1, (c, quoted) :: rest =>
    if quoted then char c :: ofChars fuel rest
    else if c == '*' then many :: ofChars fuel rest
    else if c == '?' then one :: ofChars fuel rest
    else if c == '[' then
      match readSet? ['!', '^'] (rest.map Prod.fst) with
      | some (s, after) => set s :: ofChars fuel (rest.drop (rest.length - after.length))
      | none => char c :: ofChars fuel rest
    else char c :: ofChars fuel rest

def matchesFrom : List Glob → List Char → Bool
  | [], cs => cs.isEmpty
  | many :: rest, [] => matchesFrom rest []
  | many :: rest, c :: cs => matchesFrom rest (c :: cs) || matchesFrom (many :: rest) cs
  | char a :: rest, c :: cs => a == c && matchesFrom rest cs
  | one :: rest, _ :: cs => matchesFrom rest cs
  | set s :: rest, c :: cs => s.contains c && matchesFrom rest cs
  | _ :: _, [] => false
termination_by gs cs => gs.length + cs.length

def isPlain (gs : List Glob) : Bool :=
  gs.all fun | char _ => true | _ => false

end Glob

end MergeBench.Shell
