import MergeBench.Text.Utf8

/-!
Octets written in base 64. Characters outside the alphabet are skipped.
-/

namespace MergeBench.Text

def sixBits? (c : Char) : Option Nat :=
  if 'A' ≤ c && c ≤ 'Z' then some (c.toNat - 'A'.toNat)
  else if 'a' ≤ c && c ≤ 'z' then some (c.toNat - 'a'.toNat + 26)
  else if '0' ≤ c && c ≤ '9' then some (c.toNat - '0'.toNat + 52)
  else if c == '+' then some 62
  else if c == '/' then some 63
  else none

/-- A group has four places; `kept` are the bits of the last digit that no octet holds yet. -/
def decodeGroup : Nat → Nat → Nat → List Char → Option Bytes
  | place, _, _, [] => if place == 0 then some [] else none
  | place, kept, pads, c :: cs =>
    if c == '=' then
      if 2 ≤ place && 4 ≤ place + pads + 1 then some []
      else decodeGroup place kept (if 2 ≤ place then pads + 1 else pads) cs
    else
      match sixBits? c with
      | none => decodeGroup place kept pads cs
      | some bits =>
        let octet (n : Nat) (rest : Option Bytes) := rest.map (UInt8.ofNat n :: ·)
        match place with
        | 0 => decodeGroup 1 bits 0 cs
        | 1 => octet (kept * 4 + bits / 16) (decodeGroup 2 (bits % 16) 0 cs)
        | 2 => octet (kept * 16 + bits / 4) (decodeGroup 3 (bits % 4) 0 cs)
        | _ => octet (kept * 64 + bits) (decodeGroup 0 0 0 cs)

/-- Nothing if the last group is not full. -/
def decodeBase64? (cs : List Char) : Option Bytes :=
  decodeGroup 0 0 0 cs

example : decodeBase64? "aGk=".toList = some [0x68, 0x69] := by cbv

end MergeBench.Text
