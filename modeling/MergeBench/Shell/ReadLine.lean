import MergeBench.Shell.Field

/-!
A line of the input and the values that variables get from it: fields are parted as in an expansion, a
backslash takes the meaning of what stands behind it, and the last variable takes all that is left.
-/

namespace MergeBench.Shell

/-- An octet of a line and whether it stands behind a backslash. -/
abbrev LineOctet := UInt8 × Bool

def takeLine (raw : Bool) : Bytes → List LineOctet × Bool × Bytes
  | [] => ([], false, [])
  | b :: rest =>
    if b == 10 then ([], true, rest)
    else if b == 92 && !raw then
      match rest with
      | [] => ([], false, [])
      | c :: rest =>
        let (line, ended, after) := takeLine raw rest
        (if c == 10 then line else (c, true) :: line, ended, after)
    else
      let (line, ended, after) := takeLine raw rest
      ((b, false) :: line, ended, after)

namespace ReadLine

def isSeparator (separators : List Char) (o : LineOctet) : Bool :=
  !o.2 && separators.any fun c => c.toNat == o.1.toNat

def isLooseOctet (separators : List Char) (o : LineOctet) : Bool :=
  isSeparator separators o && isLoose (Char.ofNat o.1.toNat)

def textOf (line : List LineOctet) : String :=
  lossyText (withoutZeros (line.map Prod.fst))

/-- The value of the last variable: one field without what ends it, or several with all between them. -/
def lastValue (separators : List Char) (line : List LineOctet) : List LineOctet :=
  let field := line.takeWhile fun o => !isSeparator separators o
  let behind := line.drop field.length
  let tight := behind.filter fun o => !isLooseOctet separators o
  if behind.all (isSeparator separators) && tight.length ≤ 1 then field
  else (line.reverse.dropWhile (isLooseOctet separators)).reverse

def values (separators : List Char) : Nat → List LineOctet → List String
  | 0, _ => []
  | count + 1, line =>
    let line := line.dropWhile (isLooseOctet separators)
    if count == 0 then [textOf (lastValue separators line)]
    else
      let field := line.takeWhile fun o => !isSeparator separators o
      let behind := (line.drop field.length).dropWhile (isLooseOctet separators)
      let behind :=
        match behind with
        | o :: rest => if isSeparator separators o then rest else behind
        | [] => []
      textOf field :: values separators count behind

end ReadLine

end MergeBench.Shell
