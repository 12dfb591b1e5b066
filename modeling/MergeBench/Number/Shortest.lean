import MergeBench.Number.Binary64
import MergeBench.Number.Integer

/-!
Decimal text of double precision numbers. Of the decimals that read back as the number, the written
one has the fewest digits and is, among those, the nearest.
-/

namespace MergeBench.Number

/-- A range of quotients `low / den` to `high / den`, its ends included or not. -/
structure ReadBack where
  low : Nat
  value : Nat
  high : Nat
  den : Nat
  closed : Bool

/-- All that reads back as `mantissa * 2 ^ exponent`: half a step up, and half a step down or, where
the step below is shorter, a quarter. -/
def readBack (mantissa : Nat) (exponent : Int) : ReadBack :=
  let below := if mantissa == Nat.pow 2 52 && Binary64.leastExponent < exponent then 1 else 2
  let (low, den) := scaleRatio 2 (exponent - 2) (4 * mantissa - below) 1
  let (value, _) := scaleRatio 2 (exponent - 2) (4 * mantissa) 1
  let (high, _) := scaleRatio 2 (exponent - 2) (4 * mantissa + 2) 1
  ⟨low, value, high, den, mantissa % 2 == 0⟩

def ReadBack.holds (r : ReadBack) (digits : Nat) (power : Int) : Bool :=
  let (n, d) := scaleRatio 10 power digits 1
  let left := r.low * d
  let point := n * r.den
  let right := r.high * d
  if r.closed then left ≤ point && point ≤ right else left < point && point < right

/-- Of the two neighbours of the value on the grid of `10 ^ power`, the nearest in the range; of two
equally near the even one. -/
def ReadBack.onGrid? (r : ReadBack) (power : Int) : Option Nat :=
  let (n, d) := scaleRatio 10 (-power) r.value r.den
  let below := n / d
  let above := below + 1
  let gap := 2 * (n % d)
  match r.holds below power, r.holds above power with
  | true, true =>
    if gap < d then some below
    else if d < gap then some above
    else if below % 2 == 0 then some below else some above
  | true, false => some below
  | false, true => some above
  | false, false => none

/-- Digits and power of ten of the shortest decimal that reads back as a nonzero number. -/
def shortest (mantissa : Nat) (exponent : Int) : Nat × Int :=
  let r := readBack mantissa exponent
  let guess := (((Nat.log2 r.value : Int) - Nat.log2 r.den) * 30103) / 100000
  let top := floorLog 10 guess r.value r.den
  let attempt (count : Nat) : Option (Nat × Int) :=
    let power := top - count + 1
    (r.onGrid? power).map (·, power)
  match (List.range 18).findSome? attempt with
  | some found => found
  | none => (roundDiv r.value r.den, 0)

def significantDigits (n : Nat) : List Char :=
  ((Nat.toDigits 10 n).reverse.dropWhile (· == '0')).reverse

/-- Where plain decimal text ends and scientific text begins, as the place of the decimal point
relative to the first digit. -/
structure DecimalForm where
  leastPoint : Int
  greatestPoint : Int
  exponentWidth : Nat

/-- Numbers from 0.0001 to below 10^16 are written plainly. -/
def plainForm : DecimalForm :=
  ⟨-3, 16, 2⟩

/-- The text of `0.d₁d₂… * 10 ^ point`. -/
def DecimalForm.text (form : DecimalForm) (digits : List Char) (point : Int) : List Char :=
  if form.leastPoint ≤ point && point ≤ form.greatestPoint then
    if point ≤ 0 then
      '0' :: '.' :: List.replicate point.natAbs '0' ++ digits
    else
      let whole := point.toNat
      let front := digits.take whole
      let back := digits.drop whole
      front ++ List.replicate (whole - digits.length) '0' ++ '.' ::
        (if back.isEmpty then ['0'] else back)
  else
    let power := point - 1
    let fraction := if digits.length ≤ 1 then [] else '.' :: digits.drop 1
    digits.take 1 ++ fraction ++ 'e' :: (if power < 0 then '-' else '+') ::
      (padded form.exponentWidth power.natAbs).toList

namespace Binary64

def text : Binary64 → String
  | notANumber => "nan"
  | infinite negative => if negative then "-inf" else "inf"
  | finite negative mantissa exponent =>
    let body :=
      if mantissa == 0 then ['0', '.', '0']
      else
        let (n, power) := shortest mantissa exponent
        let point := (Nat.toDigits 10 n).length + power
        plainForm.text (significantDigits n) point
    String.ofList (if negative then '-' :: body else body)

end Binary64

end MergeBench.Number
