import MergeBench.Text.Printable

/-!
Text between quotes on one line. The quote is single unless the text holds a single quote and no
double one; every character that is not printable is written by its number.
-/

namespace MergeBench.Text

def hexDigits : List Char :=
  ['0', '1', '2', '3', '4', '5', '6', '7', '8', '9', 'a', 'b', 'c', 'd', 'e', 'f']

def hexDigitsOf : Nat → Nat → List Char
  | 0, _ => []
  | width + 1, n => hexDigitsOf width (n / 16) ++ [hexDigits.getD (n % 16) '0']

theorem hexDigitsOf_length (width n : Nat) : (hexDigitsOf width n).length = width := by
  induction width generalizing n with
  | zero => rfl
  | succ width ih => simp [hexDigitsOf, ih]

/-- Two, four or eight digits, whichever number of them suffices. -/
def numberedEscape (n : Nat) : List Char :=
  if n < 256 then '\\' :: 'x' :: hexDigitsOf 2 n
  else if n < 65536 then '\\' :: 'u' :: hexDigitsOf 4 n
  else '\\' :: 'U' :: hexDigitsOf 8 n

def quoteFor (cs : List Char) : Char :=
  if cs.contains '\'' && !cs.contains '"' then '"' else '\''

def escapeChar (quote c : Char) : List Char :=
  if c == quote || c == '\\' then ['\\', c]
  else if c == '\t' then ['\\', 't']
  else if c == '\n' then ['\\', 'n']
  else if c == '\r' then ['\\', 'r']
  else if isPrintable c then [c]
  else numberedEscape c.toNat

def quotedChars (cs : List Char) : List Char :=
  let quote := quoteFor cs
  quote :: cs.flatMap (escapeChar quote) ++ [quote]

def quoted (s : String) : String :=
  String.ofList (quotedChars s.toList)

/-- Octets in the same form, each as the character of its number; above ASCII all are numbered. -/
def quotedBytes (bytes : List UInt8) : String :=
  let cs := bytes.map fun b => Char.ofNat b.toNat
  let quote := quoteFor cs
  let escape := fun c => if c.toNat < 127 then escapeChar quote c else numberedEscape c.toNat
  String.ofList ('b' :: quote :: cs.flatMap escape ++ [quote])

example : quoted "it's" = "\"it's\"" ∧ quoted "a\tb" = "'a\\tb'" := by cbv

end MergeBench.Text
