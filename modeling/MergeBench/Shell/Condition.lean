import MergeBench.Number.Integer
import MergeBench.Shell.State

/-!
Conditions on texts, numbers and files, as `test` reads them from its arguments: primaries, joined by
`-a` before `-o`, with `!` and parentheses. Up to four arguments are told apart by their number first.
-/

namespace MergeBench.Shell

namespace Condition

inductive Sign where
  | ended
  | operand
  | unary (op : String)
  | binary (op : String)
  | negation
  | conjunction
  | disjunction
  | opening
  | closing
  deriving DecidableEq, Repr

def unaryOperators : List String :=
  ["-r", "-w", "-x", "-e", "-f", "-d", "-c", "-b", "-p", "-u", "-g", "-k", "-s", "-t", "-z", "-n", "-h",
    "-O", "-G", "-L", "-S"]

def binaryOperators : List String :=
  ["=", "!=", "<", ">", "-eq", "-ne", "-ge", "-gt", "-le", "-lt", "-nt", "-ot", "-ef"]

/-- With these arguments after it, an operator for one operand is an operand itself. -/
def leavesOperand : List String → Bool
  | [] => true
  | [_] => false
  | next :: _ => binaryOperators.contains next

def signOf : List String → Sign
  | [] => .ended
  | word :: rest =>
    if unaryOperators.contains word then if leavesOperand rest then .operand else .unary word
    else if binaryOperators.contains word then .binary word
    else
      match word with
      | "!" => .negation
      | "-a" => .conjunction
      | "-o" => .disjunction
      | "(" => if rest.isEmpty then .operand else .opening
      | ")" => .closing
      | _ => .operand

def number? (s : String) : Option Int :=
  let inner := ((s.toList.dropWhile Text.isAsciiBlank).reverse.dropWhile Text.isAsciiBlank).reverse
  let (negative, digits) := Number.takeSign inner
  if digits.isEmpty || !digits.all Char.isDigit then none
  else
    let n := Number.ofDigits 10 (digits.filterMap Number.letterDigit?)
    if negative then if n ≤ Nat.pow 2 63 then some (-(n : Int)) else none
    else if n < Nat.pow 2 63 then some n else none

def readNumber (s : String) : Except String Int :=
  match number? s with
  | some n => .ok n
  | none => .error s!"Illegal number: {s}"

/-- Where a path leads; the error is not told apart from a free name. -/
def spotAt (s : State) (follow : Bool) (path : String) : FileSystem.Spot :=
  match s.files.find follow s.directory path with
  | .ok spot => spot
  | .error _ => ⟨[], none⟩

def onFile (s : State) (op path : String) : Bool :=
  let spot := spotAt s true path
  let isDevice := spot.location.text == nullDevice
  match op, spot.entry with
  | "-h", _ | "-L", _ => match (spotAt s false path).entry with | some (.link _) => true | _ => false
  | _, none => false
  | "-d", some entry => entry == .directory
  | "-f", some (.file ..) => !isDevice
  | "-c", _ => isDevice
  | "-s", some (.file content _) => !content.isEmpty
  | "-x", some (.file _ executable) => executable
  | "-e", _ | "-r", _ | "-w", _ | "-O", _ | "-G", _ => true
  | "-s", _ | "-x", _ => true
  | _, _ => false

def onOne (s : State) (op operand : String) : Except String Bool :=
  match op with
  | "-n" => .ok (operand != "")
  | "-z" => .ok (operand == "")
  | "-t" => (readNumber operand).map fun _ => false
  | op => .ok (onFile s op operand)

def onNumbers (op : String) (m n : Int) : Bool :=
  match op with
  | "-eq" => m == n
  | "-ne" => m != n
  | "-lt" => m < n
  | "-le" => m ≤ n
  | "-gt" => n < m
  | _ => n ≤ m

def onTwo (s : State) (a op b : String) : Except String Bool :=
  match op with
  | "=" => .ok (a == b)
  | "!=" => .ok (a != b)
  | "<" => .ok (a < b)
  | ">" => .ok (b < a)
  | "-nt" | "-ot" => .ok false
  | "-ef" =>
    let (x, y) := (spotAt s true a, spotAt s true b)
    .ok (x.entry.isSome && y.entry.isSome && x.location == y.location)
  | op => do
    let m ← readNumber a
    return onNumbers op m (← readNumber b)

/-- A condition that has been read: its value, the last argument in it, and those behind it. -/
structure Found where
  value : Bool
  last : String
  rest : List String

mutual

def primary (s : State) : Nat → Sign → List String → Except String Found
  | 0, _, _ | _, .ended, _ | _, _, [] => .ok ⟨false, "", []⟩
  | fuel + 1, .opening, _ :: rest => do
    match signOf rest with
    | .closing => return ⟨false, ")", rest.drop 1⟩
    | sign =>
      let inner ← disjunction s fuel sign rest
      if signOf inner.rest == .closing then return ⟨inner.value, ")", inner.rest.drop 1⟩
      else .error "closing paren expected"
  | _, .unary op, _ :: operand :: rest => do return ⟨← onOne s op operand, operand, rest⟩
  | _, _, word :: rest =>
    match signOf rest, rest.drop 1 with
    | .binary op, [] => .error s!"{op}: argument expected"
    | .binary op, operand :: later => do return ⟨← onTwo s word op operand, operand, later⟩
    | _, _ => .ok ⟨word != "", word, rest⟩

def negation (s : State) : Nat → Sign → List String → Except String Found
  | 0, _, _ => .ok ⟨false, "", []⟩
  | fuel + 1, .negation, word :: rest => do
    let inner ← negation s fuel (signOf rest) rest
    return ⟨!inner.value, if rest.isEmpty then word else inner.last, inner.rest⟩
  | fuel + 1, sign, words => primary s fuel sign words

def conjunction (s : State) : Nat → Sign → List String → Except String Found
  | 0, _, _ => .ok ⟨false, "", []⟩
  | fuel + 1, sign, words => do
    let first ← negation s fuel sign words
    if signOf first.rest == .conjunction then
      let words := first.rest.drop 1
      let later ← conjunction s fuel (signOf words) words
      return { later with value := first.value && later.value }
    else return first

def disjunction (s : State) : Nat → Sign → List String → Except String Found
  | 0, _, _ => .ok ⟨false, "", []⟩
  | fuel + 1, sign, words => do
    let first ← conjunction s fuel sign words
    if signOf first.rest == .disjunction then
      let words := first.rest.drop 1
      let later ← disjunction s fuel (signOf words) words
      return { later with value := first.value || later.value }
    else return first

end

/-- A condition that takes up all arguments; its first one is read as the given sign. -/
def whole (s : State) (sign : Sign) (words : List String) : Except String Bool := do
  let found ← disjunction s (4 * words.length + 8) sign words
  if found.rest.isEmpty then return found.value
  else .error (if found.last == "" then "unexpected operator" else s!"{found.last}: unexpected operator")

def evaluate (s : State) (words : List String) : Except String Bool :=
  match words with
  | [] => .ok false
  | [a, op, b] =>
    if binaryOperators.contains op then whole s .operand [a, op, b]
    else if a == "(" && b == ")" then whole s (signOf [op]) [op]
    else if a == "!" then (whole s (signOf [op, b]) [op, b]).map not
    else whole s (signOf words) words
  | [a, b, c, d] =>
    if a == "(" && d == ")" then whole s (signOf [b, c]) [b, c]
    else if a == "!" then (evaluate s [b, c, d]).map not
    else whole s (signOf words) words
  | _ => whole s (signOf words) words
termination_by words.length

end Condition

def testStatus (complaint : String → Session Unit) (arguments : List String) : Session Nat := do
  match Condition.evaluate (← get) arguments with
  | .ok true => return 0
  | .ok false => return 1
  | .error e =>
    complaint e
    return 2

end MergeBench.Shell
