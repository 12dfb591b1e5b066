import MergeBench.Number.Integer
import MergeBench.Shell.Program

namespace MergeBench.Shell

def octalValue (cs : List Char) : Nat :=
  cs.foldl (fun n c => n * 8 + (c.toNat - '0'.toNat)) 0

def isOctal (c : Char) : Bool :=
  '0' ≤ c && c ≤ '7'

def octal (width : Nat) (cs : List Char) : List Char :=
  (cs.take width).takeWhile isOctal

def charBytes (c : Char) : Bytes :=
  Text.encode (String.ofList [c])

def letterEscapes : List (Char × UInt8) :=
  [('a', 7), ('b', 8), ('f', 12), ('n', 10), ('r', 13), ('t', 9), ('v', 11), ('\\', 92)]

def letterEscape? (c : Char) : Option UInt8 :=
  letterEscapes.lookup c

structure EscapeRule where
  /-- Octal numbers may begin with a zero that is not counted. -/
  zeroOctal : Bool
  hexadecimal : Bool
  characters : Bool

def hexDigits (width : Nat) (cs : List Char) : List Char :=
  (cs.take width).takeWhile fun c => (Number.digitBelow? 16 c).isSome

def hexNumber (digits : List Char) : Nat :=
  Number.ofDigits 16 (digits.filterMap (Number.digitBelow? 16))

/-- The octets of an escape and what is behind it, from the character behind the backslash on. -/
def escape? (rule : EscapeRule) : List Char → Option (Bytes × List Char)
  | [] => none
  | c :: rest =>
    match letterEscape? c with
    | some b => some ([b], rest)
    | none =>
      if rule.zeroOctal && c == '0' then
        let digits := octal 3 rest
        some ([UInt8.ofNat (octalValue digits)], rest.drop digits.length)
      else if isOctal c then
        let digits := octal 3 (c :: rest)
        some ([UInt8.ofNat (octalValue digits)], (c :: rest).drop digits.length)
      else if c == 'e' then some ([27], rest)
      else if rule.hexadecimal && c == 'x' then
        let digits := hexDigits 2 rest
        if digits.isEmpty then none
        else some ([UInt8.ofNat (hexNumber digits)], rest.drop digits.length)
      else if rule.characters && (c == 'u' || c == 'U') then
        let digits := hexDigits (if c == 'u' then 4 else 8) rest
        if digits.isEmpty then none
        else some (charBytes (Char.ofNat (hexNumber digits)), rest.drop digits.length)
      else none

/-- Text whose escapes are replaced, and whether `\c` has ended it. -/
def unescaped (rule : EscapeRule) : Nat → List Char → Bytes × Bool
  | 0, _ => ([], false)
  | _, [] => ([], false)
  | fuel + 1, '\\' :: rest =>
    let go (head : Bytes) (rest : List Char) :=
      let (tail, stopped) := unescaped rule fuel rest
      (head ++ tail, stopped)
    match escape? rule rest with
    | some (bytes, rest) => go bytes rest
    | none => if rest.head? == some 'c' then ([], true) else go [92] rest
  | fuel + 1, c :: rest =>
    let (tail, stopped) := unescaped rule fuel rest
    (charBytes c ++ tail, stopped)

def shellEscapes : EscapeRule := ⟨true, false, false⟩

def toolEscapes : EscapeRule := ⟨true, true, false⟩

def formatEscapes (inShell : Bool) : EscapeRule := ⟨false, !inShell, !inShell⟩

end MergeBench.Shell
