import MergeBench.Text.Quoted
import MergeBench.Value

/-!
JSON text of a value: two blanks of indentation a level, one member a line, characters outside ASCII
as they are.
-/

namespace MergeBench.Json

inductive PrintError where
  | value (typeName : String)
  | key (typeName : String)
  | integer (e : Number.IntegerError)
  | encoding (e : Text.HalfError)
  deriving DecidableEq, Repr

def escapeChar (c : Char) : List Char :=
  if c == '"' then ['\\', '"']
  else if c == '\\' then ['\\', '\\']
  else if c == '\n' then ['\\', 'n']
  else if c == '\r' then ['\\', 'r']
  else if c == '\t' then ['\\', 't']
  else if c.toNat == 12 then ['\\', 'f']
  else if c.toNat == 8 then ['\\', 'b']
  else if c.toNat < 32 then '\\' :: 'u' :: Text.hexDigitsOf 4 c.toNat
  else [c]

def stringChars (cs : List Char) : List Char :=
  '"' :: cs.flatMap escapeChar ++ ['"']

def stringText (s : String) : List Char :=
  stringChars s.toList

def floatText (x : Number.Binary64) : List Char :=
  match x with
  | .notANumber => ['N', 'a', 'N']
  | .infinite false => "Infinity".toList
  | .infinite true => "-Infinity".toList
  | .finite .. => x.text.toList

def integerChars (n : Int) : Except PrintError (List Char) :=
  ((Number.writeInteger n).mapError PrintError.integer).map String.toList

/-- What is wrong with a broken text. Text is written in pieces, and `lead` characters stand in front
of the quote in its piece. -/
def halfError (lead : Nat) (points : List Text.CodePoint) : Text.HalfError :=
  let before := points.takeWhile (!·.isHalf)
  let halves := (points.drop before.length).takeWhile Text.CodePoint.isHalf
  let written := (before.filterMap Text.CodePoint.char?).flatMap escapeChar
  ⟨(halves.head?.map Text.CodePoint.number).getD 0, halves.length, lead + 1 + written.length⟩

/-- A key is text; other plain values become the text of their JSON form. -/
def keyText : Value → Except PrintError (List Char)
  | .text s => .ok (stringText s)
  | .brokenText points => .error (.encoding (halfError 0 points))
  | .float x => .ok (stringChars (floatText x))
  | .bool b => .ok (stringChars (if b then "true" else "false").toList)
  | .null => .ok (stringChars "null".toList)
  | .int n => (integerChars n).map stringChars
  | v => .error (.key v.typeName)

def lineBreak (level : Nat) : List Char :=
  '\n' :: List.replicate (2 * level) ' '

def bracket (openMark closeMark : Char) (level : Nat) (members : List (List Char)) : List Char :=
  match members with
  | [] => [openMark, closeMark]
  | _ =>
    let line := lineBreak (level + 1)
    openMark :: line ++ (List.intersperse (',' :: line) members).flatten ++ lineBreak level ++
      [closeMark]

/-- A member of a list is written together with the line break in front of it. -/
def memberLead (level : Nat) : Nat :=
  (lineBreak level).length + 1

mutual

def print (level lead : Nat) : Value → Except PrintError (List Char)
  | .null => .ok "null".toList
  | .bool b => .ok (if b then "true" else "false").toList
  | .int n => integerChars n
  | .float x => .ok (floatText x)
  | .text s => .ok (stringText s)
  | .brokenText points => .error (.encoding (halfError lead points))
  | .list items => do return bracket '[' ']' level (← printItems (level + 1) items)
  | .pair a b => do
    let first ← print (level + 1) (memberLead (level + 1)) a
    return bracket '[' ']' level [first, ← print (level + 1) (memberLead (level + 1)) b]
  | .map entries => do
    return bracket '\x7b' '\x7d' level (← printEntries (level + 1) entries)
  | v => .error (.value v.typeName)

def printItems (level : Nat) : List Value → Except PrintError (List (List Char))
  | [] => .ok []
  | v :: vs => do
    let head ← print level (memberLead level) v
    return head :: (← printItems level vs)

def printEntries (level : Nat) : List (Value × Value) → Except PrintError (List (List Char))
  | [] => .ok []
  | (k, v) :: es => do
    let key ← keyText k
    let value ← print level 0 v
    return (key ++ ':' :: ' ' :: value) :: (← printEntries level es)

end

/-- The contents of a file that holds the value: its text and a line end. -/
def document (v : Value) : Except PrintError String :=
  (print 0 0 v).map fun cs => String.ofList (cs ++ ['\n'])

end MergeBench.Json
