import MergeBench.Text.Quoted

/-!
Text as numbered escapes can give it: beside characters it may hold halves of surrogate pairs, which
stand for no character by themselves.
-/

namespace MergeBench.Text

inductive CodePoint where
  | char (c : Char)
  | half (number : Nat)
  deriving DecidableEq, Repr

def isHighHalf (n : Nat) : Bool :=
  0xD800 ≤ n && n < 0xDC00

def isLowHalf (n : Nat) : Bool :=
  0xDC00 ≤ n && n < 0xE000

namespace CodePoint

def ofNumber (n : Nat) : CodePoint :=
  if isHighHalf n || isLowHalf n then half n else char (Char.ofNat n)

def number : CodePoint → Nat
  | char c => c.toNat
  | half n => n

def isHalf : CodePoint → Bool
  | char _ => false
  | half _ => true

/-- A character, or a half that stands for an octet. -/
def isPassed : CodePoint → Bool
  | char _ => true
  | half n => 0xDC80 ≤ n && n < 0xDD00

def char? : CodePoint → Option Char
  | char c => some c
  | half _ => none

/-- The character that is shown for a half is U+FFFD. -/
def shown (p : CodePoint) : Char :=
  p.char?.getD (Char.ofNat 0xFFFD)

def escape (quote : Char) : CodePoint → List Char
  | char c => escapeChar quote c
  | half n => numberedEscape n

end CodePoint

/-- Halves of surrogate pairs have no UTF-8 form: so many of them, from the one with the given number
on, at the given place of a text. -/
structure HalfError where
  number : Nat
  count : Nat
  position : Nat
  deriving DecidableEq, Repr

def HalfError.message (e : HalfError) : String :=
  let start := "'utf-8' codec can't encode character"
  if e.count == 1 then
    let shown := String.ofList (numberedEscape e.number)
    s!"{start} '{shown}' in position {e.position}: surrogates not allowed"
  else
    s!"{start}s in position {e.position}-{e.position + e.count - 1}: surrogates not allowed"

def ofPoints? (points : List CodePoint) : Option String :=
  (points.mapM CodePoint.char?).map String.ofList

theorem mapM_char? (cs : List Char) : (cs.map CodePoint.char).mapM CodePoint.char? = some cs := by
  induction cs with
  | nil => rfl
  | cons c cs ih => simp [ih, CodePoint.char?]

theorem ofPoints?_map_char (s : String) : ofPoints? (s.toList.map .char) = some s := by
  rw [ofPoints?, mapM_char?, Option.map_some, String.ofList_toList]

def mended (points : List CodePoint) : String :=
  String.ofList (points.map CodePoint.shown)

/-- What is wrong with code points as a text for the system. The halves from U+DC80 on stand for octets
there; an error takes in all halves that follow. -/
def systemError? (points : List CodePoint) : Option HalfError :=
  match points.dropWhile CodePoint.isPassed with
  | .half n :: rest =>
    let sound := points.takeWhile CodePoint.isPassed
    some ⟨n, 1 + (rest.takeWhile CodePoint.isHalf).length, sound.length⟩
  | _ => none

/-- Code points between quotes; halves are written by their numbers. -/
def quotedPoints (points : List CodePoint) : String :=
  let quote := quoteFor (points.filterMap CodePoint.char?)
  String.ofList (quote :: points.flatMap (CodePoint.escape quote) ++ [quote])

example : quotedPoints [.char 'a', .half 0xD83D] = "'a\\ud83d'" := by decide +kernel
example : systemError? [.half 0xDC80, .half 0xD800, .half 0xDC80] = some ⟨0xD800, 2, 1⟩ := by decide

end MergeBench.Text
