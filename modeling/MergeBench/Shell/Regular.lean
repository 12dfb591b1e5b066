import MergeBench.Number.Integer
import MergeBench.Shell.Pattern

namespace MergeBench.Shell

inductive Regular where
  | empty
  | char (c : Char)
  | any
  | set (s : CharSet)
  | both (a b : Regular)
  | either (a b : Regular)
  | repeated (a : Regular) (least : Nat) (most : Option Nat)
  | lineStart
  | lineEnd
  /-- Between a character of a word and another one, or an end of the line. -/
  | edge (atStart atEnd : Bool)
  | noEdge
  deriving Repr

namespace Regular

def isWordChar (c : Char) : Bool :=
  c.isAlphanum || c == '_' || 128 ≤ c.toNat

def sides (chars : Array Char) (n : Nat) : Bool × Bool :=
  let isWord (c : Option Char) : Bool := (c.map isWordChar).getD false
  (0 < n && isWord chars[n - 1]?, isWord chars[n]?)

/-- Places that can be reached by further steps, each once. -/
def reach (step : Nat → List Nat) : Nat → List Nat → List Nat → List Nat
  | 0, seen, _ => seen
  | _, seen, [] => seen
  | fuel + 1, seen, places =>
    let next := (places.flatMap step).eraseDups.filter fun n => !(seen.contains n)
    reach step fuel (seen ++ next) next

def repeatStep (step : Nat → List Nat) : Nat → List Nat → List Nat
  | 0, places => places
  | n + 1, places => repeatStep step n (places.flatMap step).eraseDups

/-- The places where a match from the given place on can end. -/
def ends (caseless : Bool) (chars : Array Char) : Regular → Nat → List Nat
  | empty, n => [n]
  | char c, n =>
    match chars[n]? with
    | some d => if c == d || (caseless && c.toLower == d.toLower) then [n + 1] else []
    | none => []
  | any, n => if n < chars.size then [n + 1] else []
  | set s, n =>
    match chars[n]? with
    | some c =>
      let isMember (c : Char) : Bool := s.contains c != s.negated
      let found := isMember c || (caseless && (isMember c.toLower || isMember c.toUpper))
      if found != s.negated then [n + 1] else []
    | none => []
  | both a b, n => ((ends caseless chars a n).flatMap (ends caseless chars b)).eraseDups
  | either a b, n => (ends caseless chars a n ++ ends caseless chars b n).eraseDups
  | repeated a least most, n =>
    let start := repeatStep (ends caseless chars a) least [n]
    let further := (most.map fun most => most - least).getD (chars.size + 1)
    reach (ends caseless chars a) (min further (chars.size + 1)) start start
  | lineStart, n => if n == 0 then [n] else []
  | lineEnd, n => if n == chars.size then [n] else []
  | edge atStart atEnd, n =>
    let (before, behind) := sides chars n
    if (atStart && !before && behind) || (atEnd && before && !behind) then [n] else []
  | noEdge, n =>
    let (before, behind) := sides chars n
    if before == behind then [n] else []

/-! ### Reading -/

inductive Token where
  | single (r : Regular)
  | opening
  | closing
  | bar
  | times (least : Nat) (most : Option Nat)
  deriving Repr

inductive RegularError where
  | noClosing
  | noOpening
  | noClosingBracket
  | loneBracket
  | noClass
  | classAlone
  | wrongRange
  | wrongCount
  | noClosingBrace
  | tooBig
  | trailingBackslash
  deriving DecidableEq, Repr

def RegularError.message : RegularError → String
  | noClosing => "Unmatched ( or \\("
  | noOpening => "Unmatched ) or \\)"
  | noClosingBracket => "Unmatched [, [^, [:, [., or [="
  | loneBracket => "Invalid regular expression"
  | noClass => "Invalid character class name"
  | classAlone => "character class syntax is [[:space:]], not [:space:]"
  | wrongRange => "Invalid range end"
  | wrongCount => "Invalid content of \\\x7b\\\x7d"
  | noClosingBrace => "Unmatched \\\x7b"
  | tooBig => "Regular expression too big"
  | trailingBackslash => "Trailing backslash"

def countLimit : Nat := 32767

def numberOf (cs : List Char) : Nat :=
  Number.ofDigits 10 (cs.filterMap Number.letterDigit?)

inductive Interval where
  | counts (least : Nat) (most : Option Nat) (rest : List Char)
  | wrong (e : RegularError)

def readInterval (closing : List Char) (cs : List Char) : Interval :=
  let first := cs.takeWhile Char.isDigit
  let rest := cs.drop first.length
  let (second, rest, isPair) : List Char × List Char × Bool :=
    match rest with
    | ',' :: more => (more.takeWhile Char.isDigit, more.dropWhile Char.isDigit, true)
    | _ => ([], rest, false)
  let least := numberOf first
  let most := if !isPair then some least else if second.isEmpty then none else some (numberOf second)
  if rest.isEmpty then .wrong .noClosingBrace
  else if !closing.isPrefixOf rest || (first.isEmpty && !isPair) then .wrong .wrongCount
  else if (most.map fun most => decide (most < least)).getD false then .wrong .wrongCount
  else if countLimit < (most.getD least) then .wrong .tooBig
  else .counts least most (rest.drop closing.length)

def readSet (cs : List Char) : Except RegularError (CharSet × List Char) :=
  match readSet? ['^'] cs with
  | none => .error (if cs.isEmpty then .loneBracket else .noClosingBracket)
  | some (s, rest) =>
    let inner := cs.take (cs.length - rest.length - 1)
    let unknown := (List.range inner.length).any fun n =>
      match inner.drop n with
      | '[' :: ':' :: named => ((takeClass? named).map fun c => (classRanges? c.1).isNone).getD false
      | _ => false
    if unknown then .error .noClass
    else if 1 < inner.length && inner.head? == some ':' && inner.getLast? == some ':' then .error .classAlone
    else if s.ranges.any fun (a, b) => b < a then .error .wrongRange
    else .ok (s, rest)

def wordSet (negated : Bool) : Regular :=
  set ⟨negated, [('0', '9'), ('A', 'Z'), ('_', '_'), ('a', 'z'), ('\x80', Char.ofNat 0x10ffff)]⟩

def spaceSet (negated : Bool) : Regular :=
  set ⟨negated, [(' ', ' '), ('\t', '\r')]⟩

/-- What a backslash and a character stand for, if they are no operator. -/
def escaped (c : Char) : Regular :=
  match c with
  | 'w' => wordSet false
  | 'W' => wordSet true
  | 's' => spaceSet false
  | 'S' => spaceSet true
  | '<' => edge true false
  | '>' => edge false true
  | 'b' => edge true true
  | 'B' => noEdge
  | '\x60' => lineStart
  | '\'' => lineEnd
  | c => char c

/-- The tokens of an expression. `isFirst` says that nothing stands before them that could be repeated. -/
def tokens (extended : Bool) : Nat → Bool → List Char → Except RegularError (List Token)
  | 0, _, _ | _, _, [] => .ok []
  | fuel + 1, isFirst, c :: rest => do
    let go (t : Token) (isFirst : Bool) (rest : List Char) : Except RegularError (List Token) := do
      return t :: (← tokens extended fuel isFirst rest)
    let plain (c : Char) (rest : List Char) := go (.single (char c)) false rest
    let times (least : Nat) (most : Option Nat) (rest : List Char) : Except RegularError (List Token) :=
      if isFirst then (if extended then tokens extended fuel true rest else plain c rest)
      else go (.times least most) false rest
    let endsBranch : Bool :=
      match rest with
      | [] => true
      | '\\' :: d :: _ => d == ')' || d == '|'
      | _ => false
    match c with
    | '.' => go (.single any) false rest
    | '[' =>
      let (s, rest) ← readSet rest
      go (.single (set s)) false rest
    | '*' => times 0 none rest
    | '^' => if extended || isFirst then go (.single lineStart) true rest else plain c rest
    | '$' => if extended || endsBranch then go (.single lineEnd) false rest else plain c rest
    | '\\' =>
      match rest with
      | [] => throw .trailingBackslash
      | d :: rest =>
        if extended then go (.single (escaped d)) false rest
        else
          match d with
          | '(' => go .opening true rest
          | ')' => go .closing false rest
          | '|' => go .bar true rest
          | '+' => if isFirst then plain d rest else go (.times 1 none) false rest
          | '?' => if isFirst then plain d rest else go (.times 0 (some 1)) false rest
          | '\x7b' =>
            if isFirst then plain d rest
            else
              match readInterval ['\\', '\x7d'] rest with
              | .counts least most rest => go (.times least most) false rest
              | .wrong e => throw e
          | d => go (.single (escaped d)) false rest
    | c =>
      if !extended then plain c rest
      else
        match c with
        | '(' => go .opening true rest
        | ')' => go .closing false rest
        | '|' => go .bar true rest
        | '+' => times 1 none rest
        | '?' => times 0 (some 1) rest
        | '\x7b' =>
          match readInterval ['\x7d'] rest with
          | .counts least most rest => times least most rest
          | .wrong .tooBig => throw .tooBig
          | .wrong .wrongCount =>
            let inner := rest.takeWhile (· != '\x7d')
            if inner.all fun c => c.isDigit || c == ',' then
              if inner.any Char.isDigit then throw .wrongCount else plain c rest
            else plain c rest
          | .wrong _ => plain c rest
        | c => plain c rest

/-- Alternatives up to a closing token or the end; `done` holds those before the present one, whose
pieces are given last first. -/
def parse (extended : Bool) : Nat → Bool → List Regular → Option Regular → List Token →
    Except RegularError (Regular × List Token)
  | 0, _, _, done, ts => .ok (done.getD empty, ts)
  | fuel + 1, inside, pieces, done, ts => do
    let branch := pieces.foldl (fun later piece => both piece later) empty
    let whole := (done.map fun first => either first branch).getD branch
    match ts with
    | [] => if inside then throw .noClosing else return (whole, [])
    | .closing :: rest =>
      if inside then return (whole, rest)
      else if extended then parse extended fuel inside (char ')' :: pieces) done rest
      else throw .noOpening
    | .opening :: rest =>
      let (inner, rest) ← parse extended fuel true [] none rest
      parse extended fuel inside (inner :: pieces) done rest
    | .bar :: rest => parse extended fuel inside [] (some whole) rest
    | .times least most :: rest =>
      match pieces with
      | piece :: pieces => parse extended fuel inside (repeated piece least most :: pieces) done rest
      | [] => parse extended fuel inside [] done rest
    | .single r :: rest => parse extended fuel inside (r :: pieces) done rest

def ofText (extended : Bool) (cs : List Char) : Except RegularError Regular := do
  let ts ← tokens extended (cs.length + 1) true cs
  return (← parse extended (2 * ts.length + 2) false [] none ts).1

def literal (cs : List Char) : Regular :=
  cs.foldr (fun c later => both (char c) later) empty

end Regular

end MergeBench.Shell
