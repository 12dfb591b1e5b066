import MergeBench.Number.Decimal
import MergeBench.Value

/-!
Reading JSON text. Three words for the numbers that have no numeral are accepted beside the standard
forms, and of two members with one name the later wins.

The readers run over the rest of the text; where one fails, the length of the rest says where.
-/

namespace MergeBench.Json

inductive Expected where
  | value
  | extraData
  | propertyName
  | colon
  | comma
  | terminated
  | escape
  | unicodeEscape
  | printable
  | noByteOrderMark
  deriving DecidableEq, Repr

def Expected.text : Expected → String
  | value => "Expecting value"
  | extraData => "Extra data"
  | propertyName => "Expecting property name enclosed in double quotes"
  | colon => "Expecting ':' delimiter"
  | comma => "Expecting ',' delimiter"
  | terminated => "Unterminated string starting at"
  | escape => "Invalid \\escape"
  | unicodeEscape => "Invalid \\uXXXX escape"
  | printable => "Invalid control character at"
  | noByteOrderMark => "Unexpected UTF-8 BOM (decode using utf-8-sig)"

structure SyntaxError where
  expected : Expected
  line : Nat
  column : Nat
  offset : Nat
  deriving DecidableEq, Repr

def SyntaxError.message (e : SyntaxError) : String :=
  s!"{e.expected.text}: line {e.line} column {e.column} (char {e.offset})"

inductive ReadError where
  | syntactic (e : SyntaxError)
  | integer (e : Number.IntegerError)
  /-- Arrays and objects stand too deep inside each other; this is the first that does. -/
  | tooDeep (shape : Collection)
  deriving DecidableEq, Repr

/-- A failure inside the text, `left` characters before its end. -/
inductive Failure where
  | expected (what : Expected) (left : Nat)
  | integer (e : Number.IntegerError)
  | tooDeep (shape : Collection)
  deriving DecidableEq, Repr

def nestingLimit : Nat := 989

def isGap (c : Char) : Bool :=
  c == ' ' || c == '\t' || c == '\n' || c == '\r'

def skipGap (cs : List Char) : List Char :=
  cs.dropWhile isGap

def hexValue? (c : Char) : Option Nat :=
  (Number.letterDigit? c).filter (· < 16)

def hexFour? : List Char → Option (Nat × List Char)
  | a :: b :: c :: d :: rest => do
    let digits ← [a, b, c, d].mapM hexValue?
    return (Number.ofDigits 16 digits, rest)
  | _ => none

def escapedChar? : Char → Option Char
  | '"' => some '"'
  | '\\' => some '\\'
  | '/' => some '/'
  | 'b' => some '\x08'
  | 'f' => some '\x0c'
  | 'n' => some '\n'
  | 'r' => some '\r'
  | 't' => some '\t'
  | _ => none

/-- The code point after `\u`, a pair of surrogates taken together. `cs` begins with the digits. -/
def readUnit (cs : List Char) : Except Failure (Text.CodePoint × List Char) :=
  let invalid (digits : List Char) : Except Failure (Text.CodePoint × List Char) :=
    .error (.expected .unicodeEscape (digits.length + 1))
  if (cs.take 5).length < 5 then invalid cs
  else
    match hexFour? cs with
    | none => invalid cs
    | some (high, rest) =>
      match rest with
      | '\\' :: 'u' :: tail =>
        if Text.isHighHalf high && (tail.take 5).length == 5 then
          match hexFour? tail with
          | none => invalid tail
          | some (low, rest') =>
            if Text.isLowHalf low then
              .ok (.char (Char.ofNat (0x10000 + (high - 0xD800) * 0x400 + (low - 0xDC00))), rest')
            else .ok (.ofNumber high, rest)
        else .ok (.ofNumber high, rest)
      | _ => .ok (.ofNumber high, rest)

/-- The rest of a string after its quote, which stands `start` characters before the end. -/
def readString (start : Nat) :
    Nat → List Char → Except Failure (List Text.CodePoint × List Char)
  | 0, _ => .error (.expected .terminated start)
  | _, [] => .error (.expected .terminated start)
  | _, '"' :: cs => .ok ([], cs)
  | fuel + 1, '\\' :: cs =>
    match cs with
    | [] => .error (.expected .terminated start)
    | 'u' :: rest => do
      let (c, rest) ← readUnit rest
      let (tail, rest) ← readString start fuel rest
      return (c :: tail, rest)
    | c :: rest =>
      match escapedChar? c with
      | none => .error (.expected .escape (rest.length + 2))
      | some c => do
        let (tail, rest) ← readString start fuel rest
        return (.char c :: tail, rest)
  | fuel + 1, c :: cs =>
    if c.toNat < 32 then .error (.expected .printable (cs.length + 1))
    else do
      let (tail, rest) ← readString start fuel cs
      return (.char c :: tail, rest)

/-- The integer part of a numeral: no zero stands in front of another digit. -/
def wholePart? : List Char → Option (List Char × List Char)
  | '0' :: cs => some (['0'], cs)
  | cs =>
    let digits := cs.takeWhile Number.isAsciiDigit
    if digits.isEmpty then none else some (digits, cs.drop digits.length)

def fractionPart : List Char → List Char × List Char
  | '.' :: cs =>
    let digits := cs.takeWhile Number.isAsciiDigit
    if digits.isEmpty then ([], '.' :: cs) else ('.' :: digits, cs.drop digits.length)
  | cs => ([], cs)

def exponentPart (cs : List Char) : List Char × List Char :=
  match cs with
  | [] => ([], [])
  | mark :: rest =>
    if mark == 'e' || mark == 'E' then
      let (sign, tail) :=
        match rest with
        | '+' :: tail => (['+'], tail)
        | '-' :: tail => (['-'], tail)
        | tail => ([], tail)
      let digits := tail.takeWhile Number.isAsciiDigit
      if digits.isEmpty then ([], cs) else (mark :: sign ++ digits, tail.drop digits.length)
    else ([], cs)

def readNumber (cs : List Char) : Except Failure (Value × List Char) :=
  let (negative, body) :=
    match cs with
    | '-' :: rest => (true, rest)
    | rest => (false, rest)
  match wholePart? body with
  | none => .error (.expected .value cs.length)
  | some (whole, rest) =>
    let (fraction, rest) := fractionPart rest
    let (exponent, rest) := exponentPart rest
    if fraction.isEmpty && exponent.isEmpty then
      match Number.readInteger 10 (String.ofList (if negative then '-' :: whole else whole)) with
      | .ok n => .ok (.int n, rest)
      | .error e => .error (.integer e)
    else
      match Number.decimal? (whole ++ fraction ++ exponent) with
      | some d => .ok (.float (Number.Binary64.ofDecimal negative d.digits d.power), rest)
      | none => .error (.expected .value cs.length)

def wordValues : List (List Char × Value) :=
  [("null".toList, .null), ("true".toList, .bool true), ("false".toList, .bool false),
    ("NaN".toList, .float .notANumber), ("Infinity".toList, .float (.infinite false)),
    ("-Infinity".toList, .float (.infinite true))]

def readWord? (cs : List Char) : Option (Value × List Char) :=
  (wordValues.find? fun entry => entry.1.isPrefixOf cs).map fun entry =>
    (entry.2, cs.drop entry.1.length)

mutual

/-- A value; `room` says how many arrays and objects may stand inside each other from here on. -/
def readValue : Nat → Nat → List Char → Except Failure (Value × List Char)
  | 0, _, cs => .error (.expected .value cs.length)
  | fuel + 1, room, cs =>
    match cs with
    | '"' :: rest => do
      let (content, rest) ← readString cs.length (rest.length + 1) rest
      return (.ofPoints content, rest)
    | '[' :: rest =>
      match room, skipGap rest with
      | 0, _ => .error (.tooDeep .list)
      | _, ']' :: rest => .ok (.list [], rest)
      | room + 1, rest => do
        let (items, rest) ← readItems fuel room rest
        return (.list items, rest)
    | '\x7b' :: rest =>
      match room, skipGap rest with
      | 0, _ => .error (.tooDeep .map)
      | _, '\x7d' :: rest => .ok (.map [], rest)
      | room + 1, rest => do
        let (entries, rest) ← readMembers fuel room rest
        let put (found : List (Value × Value)) (e : Value × Value) := Value.putEntry found e.1 e.2
        return (.map (entries.foldl put []), rest)
    | _ =>
      match readWord? cs with
      | some found => .ok found
      | none => readNumber cs

def readItems : Nat → Nat → List Char → Except Failure (List Value × List Char)
  | 0, _, cs => .error (.expected .value cs.length)
  | fuel + 1, room, cs => do
    let (item, rest) ← readValue fuel room cs
    match skipGap rest with
    | ']' :: rest => return ([item], rest)
    | ',' :: rest =>
      let (items, rest) ← readItems fuel room (skipGap rest)
      return (item :: items, rest)
    | rest => .error (.expected .comma rest.length)

def readMembers : Nat → Nat → List Char → Except Failure (List (Value × Value) × List Char)
  | 0, _, cs => .error (.expected .propertyName cs.length)
  | fuel + 1, room, cs =>
    match cs with
    | '"' :: rest => do
      let (name, rest) ← readString cs.length (rest.length + 1) rest
      match skipGap rest with
      | ':' :: rest =>
        let (value, rest) ← readValue fuel room (skipGap rest)
        let entry := (Value.ofPoints name, value)
        match skipGap rest with
        | '\x7d' :: rest => return ([entry], rest)
        | ',' :: rest =>
          let (entries, rest) ← readMembers fuel room (skipGap rest)
          return (entry :: entries, rest)
        | rest => .error (.expected .comma rest.length)
      | rest => .error (.expected .colon rest.length)
    | _ => .error (.expected .propertyName cs.length)

end

def readDocument (cs : List Char) : Except Failure Value := do
  if cs.head? == some '\ufeff' then .error (.expected .noByteOrderMark cs.length)
  else
    let (v, rest) ← readValue (2 * cs.length + 2) nestingLimit (skipGap cs)
    let rest := skipGap rest
    if rest.isEmpty then .ok v else .error (.expected .extraData rest.length)

/-- The place of a failure, counted from the front of the text. -/
def locate (cs : List Char) (what : Expected) (left : Nat) : SyntaxError :=
  let offset := cs.length - left
  let before := cs.take offset
  let lastLine := before.reverse.takeWhile (· != '\n')
  ⟨what, before.count '\n' + 1, lastLine.length + 1, offset⟩

def read (text : String) : Except ReadError Value :=
  match readDocument text.toList with
  | .ok v => .ok v
  | .error (.expected what left) => .error (.syntactic (locate text.toList what left))
  | .error (.integer e) => .error (.integer e)
  | .error (.tooDeep shape) => .error (.tooDeep shape)

end MergeBench.Json
