/-!
Double precision numbers with exact contents: a sign, a natural number and a power of two. All
rounding goes through `ofRatio`, which takes the nearest representable number and on a tie the one
with an even mantissa.
-/

namespace MergeBench.Number

inductive Binary64 where
  | finite (negative : Bool) (mantissa : Nat) (exponent : Int)
  | infinite (negative : Bool)
  | notANumber
  deriving DecidableEq, Repr

/-- The quotient rounded to the nearest integer, a half to the even one. -/
def roundDiv (num den : Nat) : Nat :=
  let q := num / den
  let r := num % den
  if 2 * r < den then q else if den < 2 * r then q + 1 else q + q % 2

def scaleRatio (base : Nat) (power : Int) (num den : Nat) : Nat × Nat :=
  if power < 0 then (num, den * Nat.pow base power.natAbs) else (num * Nat.pow base power.natAbs, den)

/-- The greatest `k` with `base ^ k ≤ num / den`, given one that is at most one off. -/
def floorLog (base : Nat) (guess : Int) (num den : Nat) : Int :=
  let reaches (k : Int) : Bool :=
    let (n, d) := scaleRatio base (-k) num den
    d ≤ n
  if reaches (guess + 1) then guess + 1 else if reaches guess then guess else guess - 1

namespace Binary64

def mantissaBits : Nat := 53

def leastExponent : Int := -1074

def greatestExponent : Int := 971

def zeroWith (negative : Bool) : Binary64 :=
  .finite negative 0 leastExponent

def ofRatio (negative : Bool) (num den : Nat) : Binary64 :=
  if num == 0 then zeroWith negative
  else
    let top := floorLog 2 ((Nat.log2 num : Int) - Nat.log2 den) num den
    let exponent := max leastExponent (top - 52)
    let (n, d) := scaleRatio 2 (-exponent) num den
    let mantissa := roundDiv n d
    let (mantissa, exponent) :=
      if mantissa == Nat.pow 2 mantissaBits then (Nat.pow 2 (mantissaBits - 1), exponent + 1)
      else (mantissa, exponent)
    if greatestExponent < exponent then .infinite negative
    else .finite negative mantissa exponent

/-- The number nearest to `digits * 10 ^ power`. Powers beyond all representable numbers are decided
without being computed. -/
def ofDecimal (negative : Bool) (digits : Nat) (power : Int) : Binary64 :=
  if digits == 0 then zeroWith negative
  else
    let size : Int := (Nat.toDigits 10 digits).length + power
    if 400 < size then .infinite negative
    else if size < -400 then zeroWith negative
    else
      let (n, d) := scaleRatio 10 power digits 1
      ofRatio negative n d

def ofInt (n : Int) : Binary64 :=
  ofRatio (n < 0) n.natAbs 1

def isNegative : Binary64 → Bool
  | finite negative _ _ | infinite negative => negative
  | notANumber => false

def isZero : Binary64 → Bool
  | finite _ mantissa _ => mantissa == 0
  | _ => false

def neg : Binary64 → Binary64
  | finite negative mantissa exponent => finite (!negative) mantissa exponent
  | infinite negative => infinite (!negative)
  | notANumber => notANumber

/-- Sign and mantissa as one integer, over a common power of two. -/
def signed (negative : Bool) (mantissa : Nat) (shift : Nat) : Int :=
  let n : Nat := mantissa * Nat.pow 2 shift
  if negative then -n else n

/-- The sum of two finite numbers is exact before it is rounded. -/
def add : Binary64 → Binary64 → Binary64
  | finite s m e, finite t n f =>
    let least := min e f
    let sum := signed s m (e - least).toNat + signed t n (f - least).toNat
    if sum == 0 then zeroWith (s && t)
    else
      let (num, den) := scaleRatio 2 least sum.natAbs 1
      ofRatio (sum < 0) num den
  | infinite s, infinite t => if s == t then infinite s else notANumber
  | infinite s, finite .. | finite .., infinite s => infinite s
  | notANumber, _ | _, notANumber => notANumber

def mul : Binary64 → Binary64 → Binary64
  | finite s m e, finite t n f =>
    let (num, den) := scaleRatio 2 (e + f) (m * n) 1
    ofRatio (s != t) num den
  | infinite s, infinite t => infinite (s != t)
  | infinite s, finite t m _ | finite t m _, infinite s =>
    if m == 0 then notANumber else infinite (s != t)
  | notANumber, _ | _, notANumber => notANumber

def truncate? : Binary64 → Option Int
  | finite negative mantissa exponent =>
    let (n, d) := scaleRatio 2 exponent mantissa 1
    some (if negative then -((n / d : Nat) : Int) else (n / d : Nat))
  | _ => none

def toInt? (x : Binary64) : Option Int :=
  match x with
  | finite _ mantissa exponent =>
    let (n, d) := scaleRatio 2 exponent mantissa 1
    if n % d == 0 then x.truncate? else none
  | _ => none

/-- Equality of values: the two zeros are equal, and nothing equals what is not a number. -/
def sameValue : Binary64 → Binary64 → Bool
  | finite s m e, finite t n f => (m == 0 && n == 0) || (s == t && m == n && e == f)
  | infinite s, infinite t => s == t
  | _, _ => false

end Binary64

end MergeBench.Number
