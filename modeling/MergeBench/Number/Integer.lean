import MergeBench.Text.Blank
import MergeBench.Text.Digit
import MergeBench.Text.Quoted

/-!
Integers in text: blanks around, one sign, digits of any script in groups joined by single
underscores, and the prefix of the base where it has one.
-/

namespace MergeBench.Number

inductive IntegerError where
  | malformed (base : Nat) (text : String)
  | tooManyDigits (count : Nat)
  | tooLong
  deriving DecidableEq, Repr

/-- Decimal numerals of more digits than this are neither read nor written. -/
def digitLimit : Nat := 4300

def IntegerError.message : IntegerError → String
  | .malformed base text =>
    let shown := String.ofList ((Text.quotedChars text.toList).take 200)
    s!"invalid literal for int() with base {base}: {shown}"
  | .tooManyDigits count =>
    s!"Exceeds the limit ({digitLimit} digits) for integer string conversion: " ++
      s!"value has {count} digits; use sys.set_int_max_str_digits() to increase the limit"
  | .tooLong =>
    s!"Exceeds the limit ({digitLimit} digits) for integer string conversion; " ++
      "use sys.set_int_max_str_digits() to increase the limit"

/-- Digits of every script become ASCII ones and blanks become spaces. ASCII text stays as it is. -/
def plainChars (cs : List Char) : List Char :=
  if cs.all (·.toNat < 128) then cs
  else cs.map fun c =>
    if c.toNat < 127 then c
    else if Text.isBlank c then ' '
    else
      match Text.digitValue? c with
      | some n => Char.ofNat ('0'.toNat + n)
      | none => '?'

def stripAscii (cs : List Char) : List Char :=
  ((cs.dropWhile Text.isAsciiBlank).reverse.dropWhile Text.isAsciiBlank).reverse

def letterDigit? (c : Char) : Option Nat :=
  if '0' ≤ c && c ≤ '9' then some (c.toNat - '0'.toNat)
  else if 'a' ≤ c && c ≤ 'z' then some (c.toNat - 'a'.toNat + 10)
  else if 'A' ≤ c && c ≤ 'Z' then some (c.toNat - 'A'.toNat + 10)
  else none

def digitBelow? (base : Nat) (c : Char) : Option Nat :=
  (letterDigit? c).filter (· < base)

def groupedDigits? (base : Nat) (cs : List Char) : Option (List Nat) :=
  let groups := cs.splitOn '_'
  if groups.any List.isEmpty then none
  else groups.flatten.mapM (digitBelow? base)

def ofDigits (base : Nat) (digits : List Nat) : Nat :=
  digits.foldl (fun n d => n * base + d) 0

def takeSign : List Char → Bool × List Char
  | '-' :: cs => (true, cs)
  | '+' :: cs => (false, cs)
  | cs => (false, cs)

/-- The letters that may stand after a zero in front of the digits. -/
def baseMarks : Nat → List Char
  | 2 => ['b', 'B']
  | 8 => ['o', 'O']
  | 16 => ['x', 'X']
  | _ => []

def dropBaseMark (base : Nat) : List Char → List Char
  | '0' :: mark :: '_' :: cs =>
    if (baseMarks base).contains mark then cs else '0' :: mark :: '_' :: cs
  | '0' :: mark :: cs => if (baseMarks base).contains mark then cs else '0' :: mark :: cs
  | cs => cs

def readInteger (base : Nat) (text : String) : Except IntegerError Int :=
  let (negative, cs) := takeSign (stripAscii (plainChars text.toList))
  match groupedDigits? base (dropBaseMark base cs) with
  | none => .error (.malformed base text)
  | some digits =>
    if base == 10 && digitLimit < digits.length then .error (.tooManyDigits digits.length)
    else
      let n := ofDigits base digits
      .ok (if negative then -(n : Int) else n)

def naturalText (n : Nat) : String :=
  String.ofList (Nat.toDigits 10 n)

def integerText (n : Int) : String :=
  if n < 0 then "-" ++ naturalText n.natAbs else naturalText n.natAbs

def writeInteger (n : Int) : Except IntegerError String :=
  let digits := Nat.toDigits 10 n.natAbs
  if digitLimit < digits.length then .error .tooLong
  else .ok (String.ofList (if n < 0 then '-' :: digits else digits))

def padded (width n : Nat) : String :=
  let digits := Nat.toDigits 10 n
  String.ofList (List.replicate (width - digits.length) '0' ++ digits)

example : readInteger 10 " +1_0 " = .ok 10 := by cbv
example : readInteger 16 "-0xFf" = .ok (-255) := by cbv
example : readInteger 10 "1__0" = .error (.malformed 10 "1__0") := by cbv

end MergeBench.Number
