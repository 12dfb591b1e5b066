import MergeBench.Number.Binary64
import MergeBench.Number.Integer

namespace MergeBench.Number

structure Decimal where
  digits : Nat
  power : Int
  deriving DecidableEq, Repr

def isAsciiDigit (c : Char) : Bool :=
  '0' ≤ c && c ≤ '9'

def digitsOf (cs : List Char) : List Nat :=
  cs.map fun c => c.toNat - '0'.toNat

/-- The power of ten after its mark: an optional sign and at least one digit. -/
def exponentValue? (cs : List Char) : Option Int :=
  let (negative, digits) := takeSign cs
  if digits.isEmpty || !digits.all isAsciiDigit then none
  else
    let n : Int := ofDigits 10 (digitsOf digits)
    some (if negative then -n else n)

/-- An unsigned numeral with at least one digit beside the point. -/
def decimal? (cs : List Char) : Option Decimal :=
  let whole := cs.takeWhile isAsciiDigit
  let rest := cs.drop whole.length
  let (fraction, rest) :=
    match rest with
    | '.' :: tail => (tail.takeWhile isAsciiDigit, tail.dropWhile isAsciiDigit)
    | _ => ([], rest)
  let digits := whole ++ fraction
  if digits.isEmpty then none
  else
    let exponent? :=
      match rest with
      | [] => some 0
      | mark :: tail => if mark == 'e' || mark == 'E' then exponentValue? tail else none
    exponent?.map fun exponent =>
      ⟨ofDigits 10 (digitsOf digits), exponent - fraction.length⟩

structure DecimalError where
  text : String
  deriving DecidableEq, Repr

def DecimalError.message (e : DecimalError) : String :=
  s!"could not convert string to float: {Text.quoted e.text}"

/-- Underscores may stand between two digits only. -/
def dropUnderscores? (cs : List Char) : Option (List Char) :=
  if !cs.contains '_' then some cs
  else
    let beside (a b : Char) : Bool := (a != '_' || isAsciiDigit b) && (b != '_' || isAsciiDigit a)
    let inner := (cs.zip (cs.drop 1)).all fun (a, b) => beside a b
    let ends := cs.head? != some '_' && cs.getLast? != some '_'
    if inner && ends then some (cs.filter (· != '_')) else none

/-- A numeral in any letter case, with blanks around. -/
def readDecimal (text : String) : Except DecimalError Binary64 :=
  let failed : Except DecimalError Binary64 := .error ⟨text⟩
  match dropUnderscores? (stripAscii (plainChars text.toList)) with
  | none => failed
  | some cs =>
    let (negative, cs) := takeSign cs
    let word := String.ofList (cs.map Char.toLower)
    if word == "inf" || word == "infinity" then .ok (.infinite negative)
    else if word == "nan" then .ok .notANumber
    else
      match decimal? cs with
      | some d => .ok (Binary64.ofDecimal negative d.digits d.power)
      | none => failed

end MergeBench.Number
