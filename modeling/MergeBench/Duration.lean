import MergeBench.Number.Shortest

namespace MergeBench

inductive Duration where
  | whole (seconds : Int)
  | decimal (seconds : Number.Binary64)
  deriving DecidableEq, Repr

inductive LimitError where
  /-- A whole number of seconds that is no float. -/
  | beyondFloat
  | infinite
  /-- More milliseconds than a clock counts. -/
  | beyondClock
  /-- More milliseconds than a single wait may take. -/
  | beyondWait
  deriving DecidableEq, Repr

def LimitError.message : LimitError → String
  | .beyondFloat => "int too large to convert to float"
  | .infinite => "cannot convert float infinity to integer"
  | .beyondClock => "timestamp too large to convert to C _PyTime_t"
  | .beyondWait => "timeout is too large"

namespace Duration

def text : Duration → String
  | whole n => Number.integerText n
  | decimal x => x.text

def isPositive : Duration → Bool
  | whole n => 0 < n
  | decimal x => !x.isNegative && !x.isZero && x != .notANumber

/-- A limit of zero or less is none. -/
def microseconds? (d : Duration) : Option Nat :=
  if d.isPositive then
    match d with
    | whole n => some (n.toNat * 1000000)
    | decimal x => ((x.mul (.ofInt 1000000)).truncate?).map Int.toNat
  else none

def seconds : Duration → Number.Binary64
  | whole n => .ofInt n
  | decimal x => x

def mostWait : Int := 2147483647

/-- The most milliseconds that fit into 63 bits as nanoseconds. -/
def mostClock : Int := 9223372036854

/-- Whether the limit can be waited for. A limit on captured output is a single wait. -/
def check (captured : Bool) (d : Duration) : Except LimitError Unit :=
  if !d.isPositive then .ok ()
  else
    match d, d.seconds with
    | whole _, .infinite _ => .error .beyondFloat
    | _, x =>
      if !captured then .ok ()
      else
        match (x.mul (.ofInt 1000)).truncate? with
        | none => .error .infinite
        | some n =>
          if mostClock < n then .error .beyondClock
          else if mostWait < n + (if x.mul (.ofInt 1000) == .ofInt n then 0 else 1) then .error .beyondWait
          else .ok ()

end Duration

/-- Seconds with two places, the last one cut off. -/
def elapsedText (microseconds : Nat) : String :=
  s!"{microseconds / 1000000}.{Number.padded 2 (microseconds / 10000 % 100)}"

end MergeBench
