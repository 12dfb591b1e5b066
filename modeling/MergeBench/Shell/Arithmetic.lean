import MergeBench.Number.Integer

namespace MergeBench.Shell.Arithmetic

inductive Symbol where
  | number (n : Int)
  | name (s : String)
  | mark (s : String)
  deriving DecidableEq, Repr

/-- Longer marks come first. -/
def marks : List String :=
  ["<<=", ">>=", "<<", ">>", "<=", ">=", "==", "!=", "&&", "||", "+=", "-=", "*=", "/=", "%=", "&=", "|=",
    "^=", "+", "-", "*", "/", "%", "<", ">", "=", "!", "~", "&", "|", "^", "?", ":", "(", ")"]

def calculatingAssignments : List (String × String) :=
  [("<<=", "<<"), (">>=", ">>"), ("+=", "+"), ("-=", "-"), ("*=", "*"), ("/=", "/"), ("%=", "%"),
    ("&=", "&"), ("|=", "|"), ("^=", "^")]

inductive ExpressionError where
  | noPrimary
  | noEnd
  | divisionByZero
  | noNumber (text : String)
  deriving DecidableEq, Repr

def ExpressionError.message (expression : String) : ExpressionError → String
  | noPrimary => s!"arithmetic expression: expecting primary: \"{expression}\""
  | noEnd => s!"arithmetic expression: expecting EOF: \"{expression}\""
  | divisionByZero => s!"arithmetic expression: division by zero: \"{expression}\""
  | noNumber text => s!"Illegal number: {text}"

/-- Results are of 64 bits. -/
def wrap (n : Int) : Int :=
  Int.bmod n (Nat.pow 2 64)

/-- Numerals that are too great stand for the greatest number. -/
def greatest : Nat :=
  Nat.pow 2 63 - 1

/-- A number in front of the text: hexadecimal behind `0x`, octal behind `0`, else decimal. -/
def takeNumber (cs : List Char) : Int × List Char :=
  let digitsOf (base : Nat) (cs : List Char) : Int × List Char :=
    let digits := cs.takeWhile fun c => (Number.digitBelow? base c).isSome
    let n := Number.ofDigits base (digits.filterMap (Number.digitBelow? base))
    ((min n greatest : Nat), cs.drop digits.length)
  match cs with
  | '0' :: 'x' :: hex | '0' :: 'X' :: hex => digitsOf 16 hex
  | '0' :: octal => digitsOf 8 octal
  | cs => digitsOf 10 cs

def ofVariable (text : String) : Except ExpressionError Int :=
  let (negative, cs) := Number.takeSign (text.toList.dropWhile Text.isAsciiBlank)
  let (n, rest) := takeNumber cs
  let rest := rest.dropWhile Text.isAsciiBlank
  let isNumber := rest.isEmpty && (text == "" || (cs.head?.map Char.isDigit).getD false)
  if isNumber then .ok (if negative then -n else n) else .error (.noNumber text)

/-- The symbols of a text; a character that begins none stands for itself. -/
def symbols : Nat → List Char → List Symbol
  | 0, _ => []
  | _, [] => []
  | fuel + 1, c :: rest =>
    if c == ' ' || c == '\t' || c == '\n' then symbols fuel rest
    else if c.isDigit then
      let (n, rest) := takeNumber (c :: rest)
      .number n :: symbols fuel rest
    else if c.isAlpha || c == '_' then
      let name := (c :: rest).takeWhile fun d => d.isAlphanum || d == '_'
      .name (String.ofList name) :: symbols fuel ((c :: rest).drop name.length)
    else
      match marks.find? fun mark => mark.toList.isPrefixOf (c :: rest) with
      | some mark => .mark mark :: symbols fuel ((c :: rest).drop mark.length)
      | none => .mark (String.ofList [c]) :: symbols fuel rest

def levels : List (List String) :=
  [["||"], ["&&"], ["|"], ["^"], ["&"], ["==", "!="], ["<", "<=", ">", ">="], ["<<", ">>"],
    ["+", "-"], ["*", "/", "%"]]

def truth (b : Bool) : Int :=
  if b then 1 else 0

def apply (op : String) (a b : Int) : Except ExpressionError Int :=
  let onBits (f : Nat → Nat → Nat) : Int :=
    wrap (f (Int.emod a (Nat.pow 2 64)).toNat (Int.emod b (Nat.pow 2 64)).toNat)
  match op with
  | "||" => .ok (truth (a != 0 || b != 0))
  | "&&" => .ok (truth (a != 0 && b != 0))
  | "==" => .ok (truth (a == b))
  | "!=" => .ok (truth (a != b))
  | "<" => .ok (truth (a < b))
  | "<=" => .ok (truth (a ≤ b))
  | ">" => .ok (truth (b < a))
  | ">=" => .ok (truth (b ≤ a))
  | "+" => .ok (wrap (a + b))
  | "-" => .ok (wrap (a - b))
  | "*" => .ok (wrap (a * b))
  | "/" => if b == 0 then .error .divisionByZero else .ok (wrap (Int.tdiv a b))
  | "%" => if b == 0 then .error .divisionByZero else .ok (Int.tmod a b)
  | "<<" => .ok (wrap (a * Nat.pow 2 (Int.emod b 64).toNat))
  | ">>" => .ok (Int.fdiv a (Nat.pow 2 (Int.emod b 64).toNat))
  | "&" => .ok (onBits Nat.land)
  | "|" => .ok (onBits Nat.lor)
  | "^" => .ok (onBits Nat.xor)
  | _ => .error .noPrimary

/-- The variables as they are while an expression is looked at, the latest assignment first. -/
structure Context where
  value : String → Except ExpressionError Int
  assigned : List (String × Int) := []

def Context.lookup (c : Context) (name : String) : Except ExpressionError Int :=
  match c.assigned.lookup name with
  | some n => .ok n
  | none => c.value name

structure Step where
  value : Int
  context : Context
  rest : List Symbol

mutual

/-- Operators of the given level and tighter ones. What is not `live` is read and has no effect. -/
def level : Nat → Nat → Bool → Context → List Symbol → Except ExpressionError Step
  | 0, _, _, _, _ => .error .noPrimary
  | fuel + 1, n, live, context, symbols =>
    match levels[n]? with
    | none => unary fuel live context symbols
    | some ops => do more fuel n live ops (← level fuel (n + 1) live context symbols)

def more : Nat → Nat → Bool → List String → Step → Except ExpressionError Step
  | 0, _, _, _, _ => .error .noPrimary
  | fuel + 1, n, live, ops, left =>
    match left.rest with
    | .mark op :: rest =>
      if ops.contains op then do
        let settled := (op == "&&" && left.value == 0) || (op == "||" && left.value != 0)
        let right ← level fuel (n + 1) (live && !settled) left.context rest
        let isApplied := live || op == "&&" || op == "||"
        let value ← if isApplied then apply op left.value right.value else pure right.value
        more fuel n live ops { right with value := value }
      else .ok left
    | _ => .ok left

def unary : Nat → Bool → Context → List Symbol → Except ExpressionError Step
  | 0, _, _, _ => .error .noPrimary
  | fuel + 1, live, context, symbols => do
    let mapped (f : Int → Int) (rest : List Symbol) : Except ExpressionError Step := do
      let step ← unary fuel live context rest
      return { step with value := f step.value }
    match symbols with
    | .mark "-" :: rest => mapped (fun a => wrap (-a)) rest
    | .mark "+" :: rest => mapped id rest
    | .mark "!" :: rest => mapped (fun a => truth (a == 0)) rest
    | .mark "~" :: rest => mapped (fun a => -a - 1) rest
    | .mark "(" :: rest =>
      let step ← whole fuel live context rest
      match step.rest with
      | .mark ")" :: rest => return { step with rest := rest }
      | _ => .error .noPrimary
    | .number n :: rest => return ⟨n, context, rest⟩
    | .name s :: rest => return ⟨← if live then context.lookup s else pure 0, context, rest⟩
    | _ => .error .noPrimary

def whole : Nat → Bool → Context → List Symbol → Except ExpressionError Step
  | 0, _, _, _ => .error .noPrimary
  | fuel + 1, live, context, symbols => do
    let choice : Except ExpressionError Step := do
      let first ← level fuel 0 live context symbols
      match first.rest with
      | .mark "?" :: rest =>
        let holds := first.value != 0
        let yes ← whole fuel (live && holds) first.context rest
        match yes.rest with
        | .mark ":" :: rest =>
          let no ← whole fuel (live && !holds) yes.context rest
          return { no with value := if holds then yes.value else no.value }
        | _ => .error .noPrimary
      | _ => return first
    match symbols with
    | .name s :: .mark op :: rest =>
      let calculation := calculatingAssignments.lookup op
      if op == "=" || calculation.isSome then
        let step ← whole fuel live context rest
        if !live then return step
        else
          let value ←
            match calculation with
            | some op => do apply op (← step.context.lookup s) step.value
            | none => pure step.value
          return ⟨value, { step.context with assigned := (s, value) :: step.context.assigned }, step.rest⟩
      else choice
    | _ => choice

end

/-- The value of an expression and the variables that it sets, in their order. -/
def evaluate (value : String → Except ExpressionError Int) (cs : List Char) :
    Except ExpressionError (Int × List (String × Int)) := do
  let found := symbols (cs.length + 1) cs
  let step ← whole (20 * (found.length + 2)) true ⟨value, []⟩ found
  if step.rest.isEmpty then return (step.value, step.context.assigned.reverse) else .error .noEnd

example : (evaluate (fun _ => .ok 4) "i + 2 * (3 - 1)".toList).toOption.map Prod.fst = some 8 := by
  decide +kernel

end MergeBench.Shell.Arithmetic
