import MergeBench.Number.Integer
import MergeBench.Shell.Escape
import MergeBench.Text.Printable

/-!
Output of arguments, by a format and as they are. The shell and the tools of the same names differ in
which escapes they know and in how they complain.
-/

namespace MergeBench.Shell

/-! ### Formatted output -/

structure Conversion where
  left : Bool
  zeros : Bool
  plus : Bool
  space : Bool
  marked : Bool
  width : Nat
  places : Option Nat
  letter : Char

def naturalOf (cs : List Char) : Nat :=
  Number.ofDigits 10 (cs.filterMap Number.letterDigit?)

def pad (c : Conversion) (body : Bytes) : Bytes :=
  let missing := c.width - body.length
  if c.left then body ++ List.replicate missing 32 else List.replicate missing 32 ++ body

/-- Digits behind what stands in front of them, filled up with zeros where that is asked for. -/
def filledText (c : Conversion) (start digits : String) : String :=
  let digits := if c.places == some 0 && digits == "0" then "" else digits
  let width :=
    match c.places with
    | some n => n
    | none => if c.zeros && !c.left then c.width - start.length else 0
  start ++ String.ofList (List.replicate (width - digits.length) '0') ++ digits

inductive Understanding where
  | whole
  | start
  | nothing
  | beyond
  deriving DecidableEq, Repr

/-- A number as an argument: decimal, octal, hexadecimal, or a character after a quote. -/
def numberArgument (s : String) : Int × Understanding :=
  match s.toList with
  | [] => (0, .whole)
  | '"' :: c :: _ | '\'' :: c :: _ => (c.toNat, .whole)
  | cs =>
    let (negative, cs) := Number.takeSign (cs.dropWhile Text.isAsciiBlank)
    let (base, cs, marked) : Nat × List Char × Bool :=
      match cs with
      | '0' :: 'x' :: hex | '0' :: 'X' :: hex => (16, hex, false)
      | '0' :: oct => (8, oct, true)
      | cs => (10, cs, false)
    let digits := cs.takeWhile fun c => (Number.digitBelow? base c).isSome
    let n := Number.ofDigits base (digits.filterMap (Number.digitBelow? base))
    let understood :=
      if digits.length < cs.length then (if digits.isEmpty && !marked then .nothing else .start)
      else if digits.isEmpty && !marked then .nothing else .whole
    (if negative then -(n : Int) else n, understood)

def clamped (least most n : Int) (u : Understanding) : Int × Understanding :=
  if n < least then (least, .beyond) else if most < n then (most, .beyond) else (n, u)

def radixText (base : Nat) (n : Nat) : String :=
  String.ofList (Nat.toDigits base n)

/-- What a pass over a format has given: output, arguments left, what is wrong with those used, and
the conversion that ended it, if there is one that is unknown. -/
structure Formatted where
  output : Bytes := []
  left : List String
  wrong : List (String × Understanding) := []
  unknown : Option String := none
  stopped : Bool := false

/-- A converted argument, how much of it was understood, and whether it ends the whole output. -/
structure Converted where
  body : Bytes
  understood : Understanding := .whole
  stops : Bool := false

def signedLimit : Nat := Nat.pow 2 63

def unsignedLimit : Nat := Nat.pow 2 64

def convert? (rule : EscapeRule) (c : Conversion) (argument : String) : Option Converted :=
  let cut (bytes : Bytes) : Bytes := (c.places.map (bytes.take ·)).getD bytes
  let (n, u) := numberArgument argument
  let number (start digits : String) (u : Understanding) : Option Converted :=
    some ⟨pad c (Text.encode (filledText c start digits)), u, false⟩
  let signed : Option Converted :=
    let (n, u) := clamped (-signedLimit) (signedLimit - 1) n u
    let sign := if n < 0 then "-" else if c.plus then "+" else if c.space then " " else ""
    number sign (Number.naturalText n.natAbs) u
  let unsigned (base : Nat) (start : String) (change : String → String) : Option Converted :=
    let (n, u) := clamped (-unsignedLimit) (unsignedLimit - 1) n u
    let n := (if n < 0 then n + unsignedLimit else n).toNat
    let digits := change (radixText base n)
    let isMarked := c.marked && n != 0
    number (if isMarked then start else "") (if isMarked && base == 8 then "0" ++ digits else digits) u
  match c.letter with
  | 's' => some ⟨pad c (cut (Text.encode argument)), .whole, false⟩
  | 'b' =>
    let (body, stops) := unescaped { rule with zeroOctal := true } (argument.length + 1) argument.toList
    some ⟨pad c (cut body), .whole, stops⟩
  | 'c' => some ⟨pad c [(Text.encode argument).headD 0], .whole, false⟩
  | 'd' | 'i' => signed
  | 'u' => unsigned 10 "" id
  | 'o' => unsigned 8 "" id
  | 'x' => unsigned 16 "0x" id
  | 'X' => unsigned 16 "0X" String.toUpper
  | _ => none

/-- What reading a conversion needs: a number of digits or, behind a star, of an argument. -/
structure Count where
  value : Option Int
  rest : List Char
  arguments : List String
  wrong : List (String × Understanding)

def takeCount (cs : List Char) (arguments : List String) : Count :=
  match cs with
  | '*' :: rest =>
    let argument := arguments.head?.getD ""
    let (n, u) := numberArgument argument
    ⟨some n, rest, arguments.drop 1, if u == .whole then [] else [(argument, u)]⟩
  | cs =>
    let digits := cs.takeWhile Char.isDigit
    ⟨if digits.isEmpty then none else some (naturalOf digits), cs.drop digits.length, arguments, []⟩

structure FoundConversion where
  conversion : Conversion
  rest : List Char
  arguments : List String
  wrong : List (String × Understanding)

/-- The tool takes no notice of letters for sizes. -/
def conversion? (rule : EscapeRule) (cs : List Char) (arguments : List String) : Option FoundConversion :=
  let marks := cs.takeWhile fun c => ['-', '+', ' ', '#', '0'].contains c
  let width := takeCount (cs.drop marks.length) arguments
  let (places, isGiven) : Count × Bool :=
    match width.rest with
    | '.' :: tail => (takeCount tail width.arguments, true)
    | rest => (⟨none, rest, width.arguments, []⟩, false)
  let rest := if rule.hexadecimal then places.rest.dropWhile "lLhjtz".toList.contains else places.rest
  match rest with
  | letter :: rest =>
    let wide := width.value.getD 0
    let count := places.value.getD 0
    let conversion : Conversion :=
      { left := marks.contains '-' || wide < 0, zeros := marks.contains '0', plus := marks.contains '+'
        space := marks.contains ' ', marked := marks.contains '#', width := wide.natAbs
        places := if isGiven && 0 ≤ count then some count.toNat else none, letter := letter }
    some ⟨conversion, rest, places.arguments, width.wrong ++ places.wrong⟩
  | [] => none

def formatOnce (rule : EscapeRule) : Nat → List Char → List String → Formatted
  | 0, _, arguments => { left := arguments }
  | _, [], arguments => { left := arguments }
  | fuel + 1, c :: rest, arguments =>
    let go (head : Bytes) (rest : List Char) (arguments : List String)
        (wrong : List (String × Understanding)) : Formatted :=
      let later := formatOnce rule fuel rest arguments
      { later with output := head ++ later.output, wrong := wrong ++ later.wrong }
    if c == '%' then
      match rest with
      | '%' :: rest => go [37] rest arguments []
      | _ =>
        match conversion? rule rest arguments with
        | none => { left := arguments, unknown := some (String.ofList (c :: rest)) }
        | some found =>
          let argument := found.arguments.head?.getD ""
          match convert? rule found.conversion argument with
          | some converted =>
            let wrong := if converted.understood == .whole then [] else [(argument, converted.understood)]
            let wrong := found.wrong ++ wrong
            if converted.stops then { output := converted.body, left := [], wrong := wrong, stopped := true }
            else go converted.body found.rest (found.arguments.drop 1) wrong
          | none =>
            let spelled := (c :: rest).take (rest.length + 1 - found.rest.length)
            { left := arguments, unknown := some (String.ofList spelled) }
    else if c == '\\' then
      match escape? rule rest with
      | some (bytes, rest) => go bytes rest arguments []
      | none =>
        match rest with
        | 'c' :: _ => { left := [], stopped := true }
        | '"' :: rest => go (if rule.characters then [34] else [92, 34]) rest arguments []
        | rest => go [92] rest arguments []
    else go (charBytes c) rest arguments []

/-- A format is used again as long as it takes arguments and some are left. -/
def formatAll (rule : EscapeRule) : Nat → List Char → List String → Formatted
  | 0, _, arguments => { left := arguments }
  | fuel + 1, format, arguments =>
    let first := formatOnce rule (format.length + 1) format arguments
    if first.stopped || first.unknown.isSome || first.left.isEmpty ||
        first.left.length == arguments.length then first
    else
      let later := formatAll rule fuel format first.left
      { later with output := first.output ++ later.output, wrong := first.wrong ++ later.wrong }

/-- A character of a name in a message: what cannot be shown is written as an escape. -/
def shownChar (c : Char) : List Char :=
  match letterEscapes.find? (·.2.toNat == c.toNat) with
  | some (letter, _) => ['\\', letter]
  | none =>
    if c == '’' then ['\\', c]
    else if Text.isPrintable c then [c]
    else (charBytes c).flatMap fun b =>
      let digits := Nat.toDigits 8 b.toNat
      '\\' :: (List.replicate (3 - digits.length) '0' ++ digits)

/-- How a message quotes where any character can be shown. -/
def curlyQuoted (s : String) : String :=
  "‘" ++ String.ofList (s.toList.flatMap shownChar) ++ "’"

def tryHelp (tool : String) : String :=
  s!"Try '{tool} --help' for more information.\n"

def numberComplaint (inShell : Bool) (argument : String) (u : Understanding) : String :=
  let name := if inShell then argument else curlyQuoted argument
  match u with
  | .beyond => s!"{name}: Numerical result out of range"
  | .nothing => name ++ if inShell then ": expected numeric value" else ": expected a numeric value"
  | _ => name ++ if inShell then ": not completely converted" else ": value not completely converted"

/-- Formatted output of a tool by the name it was started with, or of the shell itself. -/
def printf (own : Option String) (complaint : String → Session Unit) (arguments : List String) :
    Session Nat := do
  let inShell := own.isNone
  let arguments := if !inShell && arguments.head? == some "--" then arguments.drop 1 else arguments
  match arguments with
  | [] =>
    match own with
    | none =>
      complaint "usage: printf format [arg ...]"
      return 2
    | some own =>
      errorText (s!"{own}: missing operand\n" ++ tryHelp own)
      return 1
  | format :: rest =>
    let f := formatAll (formatEscapes inShell) (rest.length + 1) format.toList rest
    for (argument, u) in f.wrong do complaint (numberComplaint inShell argument u)
    match f.unknown with
    | some spelled =>
      let isEnded := (conversion? (formatEscapes inShell) (spelled.toList.drop 1) []).isNone
      complaint (if !inShell then s!"{spelled}: invalid conversion specification"
        else if isEnded then "missing format character" else s!"{spelled}: invalid directive")
      out f.output
      return if inShell then 2 else 1
    | none =>
      match f.left with
      | argument :: _ =>
        if !inShell then
          complaint s!"warning: ignoring excess arguments, starting with {curlyQuoted argument}"
      | [] => pure ()
      out f.output
      return if f.wrong.isEmpty then 0 else 1

/-! ### Echo -/

def joined (arguments : List String) : String :=
  " ".intercalate arguments

/-- The `echo` of the shell always replaces escapes. -/
def echoInShell (arguments : List String) : Session Nat := do
  let quiet := arguments.head? == some "-n"
  let text := joined (if quiet then arguments.drop 1 else arguments)
  let (body, stopped) := unescaped shellEscapes (text.length + 1) text.toList
  out (if quiet || stopped then body else body ++ [10])
  return 0

def isEchoOption (s : String) : Bool :=
  match s.toList with
  | '-' :: letters => !letters.isEmpty && letters.all fun c => c == 'n' || c == 'e' || c == 'E'
  | _ => false

/-- The tool `echo` replaces escapes only if it is asked to. -/
def echoTool (arguments : List String) : Session Nat := do
  let options := arguments.takeWhile isEchoOption
  let text := joined (arguments.drop options.length)
  let letters := options.flatMap String.toList
  let escapes := (letters.filter fun c => c == 'e' || c == 'E').getLast? == some 'e'
  let (body, stopped) :=
    if escapes then unescaped toolEscapes (text.length + 1) text.toList else (Text.encode text, false)
  out (if letters.contains 'n' || stopped then body else body ++ [10])
  return 0

end MergeBench.Shell
