/-!
Command lines as text: words between blanks, where quotes and backslashes take the meaning from the
characters they cover. `join` writes words so that `split` reads them back.
-/

namespace MergeBench.ShellWords

inductive SplitError where
  | noClosingQuotation
  | noEscapedCharacter
  deriving DecidableEq, Repr

def SplitError.message : SplitError → String
  | .noClosingQuotation => "No closing quotation"
  | .noEscapedCharacter => "No escaped character"

def isSeparator (c : Char) : Bool :=
  c == ' ' || c == '\t' || c == '\r' || c == '\n'

inductive Mode where
  | plain
  | singleQuoted
  | doubleQuoted
  | escaped
  | escapedInQuotes
  deriving DecidableEq, Repr

/-- `word` is the word that has begun, last character first; two quotes begin an empty one. -/
def splitFrom : Mode → Option (List Char) → List Char → Except SplitError (List (List Char))
  | .plain, word, [] => .ok (word.toList.map List.reverse)
  | .singleQuoted, _, [] | .doubleQuoted, _, [] => .error .noClosingQuotation
  | .escaped, _, [] | .escapedInQuotes, _, [] => .error .noEscapedCharacter
  | .plain, word, c :: cs =>
    if isSeparator c then do
      let rest ← splitFrom .plain none cs
      return word.toList.map List.reverse ++ rest
    else if c == '\\' then splitFrom .escaped word cs
    else if c == '\'' then splitFrom .singleQuoted (some (word.getD [])) cs
    else if c == '"' then splitFrom .doubleQuoted (some (word.getD [])) cs
    else splitFrom .plain (some (c :: word.getD [])) cs
  | .singleQuoted, word, c :: cs =>
    if c == '\'' then splitFrom .plain word cs
    else splitFrom .singleQuoted (some (c :: word.getD [])) cs
  | .doubleQuoted, word, c :: cs =>
    if c == '"' then splitFrom .plain word cs
    else if c == '\\' then splitFrom .escapedInQuotes word cs
    else splitFrom .doubleQuoted (some (c :: word.getD [])) cs
  | .escaped, word, c :: cs => splitFrom .plain (some (c :: word.getD [])) cs
  | .escapedInQuotes, word, c :: cs =>
    let word := word.getD []
    let kept := if c == '"' || c == '\\' then word else '\\' :: word
    splitFrom .doubleQuoted (some (c :: kept)) cs

def split (s : String) : Except SplitError (List String) :=
  (splitFrom .plain none s.toList).map fun words => words.map String.ofList

def isBare (c : Char) : Bool :=
  c.isAlphanum || c == '_' || ['@', '%', '+', '=', ':', ',', '.', '/', '-'].contains c

def quoteChars (cs : List Char) : List Char :=
  if !cs.isEmpty && cs.all isBare then cs
  else
    let inner := cs.flatMap fun c => if c == '\'' then ['\'', '"', '\'', '"', '\''] else [c]
    '\'' :: inner ++ ['\'']

/-- A word as it stands, or between single quotes with `'"'"'` for each single quote in it. -/
def quote (word : String) : String :=
  String.ofList (quoteChars word.toList)

def join (words : List String) : String :=
  " ".intercalate (words.map quote)

example : split "a 'b c'\"d\" \\\\" = .ok ["a", "b cd", "\\"] := by cbv
example : join ["a b", "", "it's"] = "'a b' '' 'it'\"'\"'s'" := by cbv

end MergeBench.ShellWords
