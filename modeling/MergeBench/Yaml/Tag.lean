import MergeBench.Yaml.Timestamp

/-!
Tags of nodes, and the tag that an untagged plain scalar gets from its text.
-/

namespace MergeBench.Yaml

inductive Tag where
  | null
  | bool
  | int
  | float
  | binary
  | timestamp
  | text
  | sequence
  | mapping
  | set
  | orderedPairs
  | pairs
  /-- The key `<<`, whose value is merged into the mapping. -/
  | merge
  /-- The key `=`, whose value stands for the mapping. -/
  | value
  | unknown
  deriving DecidableEq, Repr

namespace Tag

def corePrefix : String :=
  "tag:yaml.org,2002:"

def ofText (text : String) : Tag :=
  if text.startsWith corePrefix then
    match (text.drop corePrefix.length).toString with
    | "null" => null
    | "bool" => bool
    | "int" => int
    | "float" => float
    | "binary" => binary
    | "timestamp" => timestamp
    | "str" => Tag.text
    | "seq" => sequence
    | "map" => mapping
    | "set" => set
    | "omap" => orderedPairs
    | "pairs" => pairs
    | "merge" => merge
    | "value" => value
    | _ => unknown
  else unknown

def truthWords : List String :=
  ["yes", "Yes", "YES", "no", "No", "NO", "true", "True", "TRUE", "false", "False", "FALSE",
    "on", "On", "ON", "off", "Off", "OFF"]

def nullWords : List String :=
  ["~", "null", "Null", "NULL", ""]

def dropSign : List Char → List Char
  | '-' :: cs | '+' :: cs => cs
  | cs => cs

def isDigitOrJoin (c : Char) : Bool :=
  Number.isAsciiDigit c || c == '_'

def isSexagesimal (cs : List Char) : Bool :=
  match cs with
  | [a] => Number.isAsciiDigit a
  | [a, b] => '0' ≤ a && a ≤ '5' && Number.isAsciiDigit b
  | _ => false

/-- Digits without a leading zero, then groups below sixty after colons. -/
def isSexagesimalInteger (cs : List Char) : Bool :=
  match cs.splitOn ':' with
  | first :: second :: more =>
    (first.head?.map fun c => '1' ≤ c && c ≤ '9').getD false && first.all isDigitOrJoin &&
      (second :: more).all isSexagesimal
  | _ => false

def isInteger (cs : List Char) : Bool :=
  let body := dropSign cs
  match body with
  | '0' :: 'b' :: digits =>
    !digits.isEmpty && digits.all fun c => c == '0' || c == '1' || c == '_'
  | '0' :: 'x' :: digits =>
    !digits.isEmpty && digits.all fun c =>
      Number.isAsciiDigit c || ('a' ≤ c && c ≤ 'f') || ('A' ≤ c && c ≤ 'F') || c == '_'
  | '0' :: digits => digits.all fun c => ('0' ≤ c && c ≤ '7') || c == '_'
  | first :: digits =>
    ('1' ≤ first && first ≤ '9' && digits.all isDigitOrJoin) || isSexagesimalInteger body
  | [] => false

def isSignedExponent : List Char → Bool
  | [] => true
  | mark :: sign :: digits =>
    (mark == 'e' || mark == 'E') && (sign == '-' || sign == '+') && !digits.isEmpty &&
      digits.all Number.isAsciiDigit
  | _ => false

/-- Digits in groups below sixty, the last of them with a point behind it. -/
def isSexagesimalFraction (cs : List Char) : Bool :=
  let before := cs.takeWhile (· != '.')
  match cs.drop before.length, before.splitOn ':' with
  | '.' :: fraction, first :: second :: more =>
    (first.head?.map Number.isAsciiDigit).getD false && first.all isDigitOrJoin &&
      (second :: more).all isSexagesimal && fraction.all isDigitOrJoin
  | _, _ => false

def isPlainFraction (cs : List Char) : Bool :=
  let whole := cs.takeWhile isDigitOrJoin
  match cs.drop whole.length with
  | '.' :: rest =>
    let exponent := rest.dropWhile isDigitOrJoin
    (whole.head?.map Number.isAsciiDigit).getD false && isSignedExponent exponent
  | _ => false

/-- A fraction without digits before the point has no sign. -/
def isBareFraction : List Char → Bool
  | '.' :: first :: rest =>
    Number.isAsciiDigit first && isSignedExponent (rest.dropWhile isDigitOrJoin)
  | _ => false

def isFloat (cs : List Char) : Bool :=
  let body := dropSign cs
  isPlainFraction body || isBareFraction cs || isSexagesimalFraction body ||
    [".inf", ".Inf", ".INF"].contains (String.ofList body) ||
    [".nan", ".NaN", ".NAN"].contains (String.ofList cs)

def dropLineFeed (text : String) : String :=
  let cs := text.toList
  if cs.getLast? == some '\n' then String.ofList cs.dropLast else text

def ofScalar (written : String) : Tag :=
  if written == "" then null
  else if written == "\n" then Tag.text
  else
    let text := dropLineFeed written
    let cs := text.toList
    if truthWords.contains text then bool
    else if isFloat cs then float
    else if isInteger cs then int
    else if text == "<<" then merge
    else if nullWords.contains text then null
    else if ((Timestamp.read? written).map Timestamp.isEvident).getD false then timestamp
    else if text == "=" then value
    else if ["!", "&", "*"].contains text then unknown
    else Tag.text

end Tag

end MergeBench.Yaml
