import MergeBench.Text.Quoted

/-!
UTF-8. Decoding stops at the first octet sequence that is not well formed and says what is wrong
with it and where it lies.
-/

namespace MergeBench

abbrev Bytes := List UInt8

namespace Text

inductive Utf8Fault where
  | startByte
  | continuationByte
  | endOfData
  deriving DecidableEq, Repr

def Utf8Fault.reason : Utf8Fault → String
  | .startByte => "invalid start byte"
  | .continuationByte => "invalid continuation byte"
  | .endOfData => "unexpected end of data"

/-- The octets `bytes`, the first of which has index `position`, are not the start of a character. -/
structure Utf8Error where
  position : Nat
  bytes : Bytes
  fault : Utf8Fault
  deriving DecidableEq, Repr

def hexByte (b : UInt8) : String :=
  String.ofList (hexDigitsOf 2 b.toNat)

def Utf8Error.message (e : Utf8Error) : String :=
  let start := "'utf-8' codec can't decode byte"
  match e.bytes with
  | [b] => s!"{start} 0x{hexByte b} in position {e.position}: {e.fault.reason}"
  | bytes =>
    s!"{start}s in position {e.position}-{e.position + bytes.length - 1}: {e.fault.reason}"

def isContinuation (b : UInt8) : Bool :=
  0x80 ≤ b && b < 0xC0

/-- Whether `second` may follow `first`: no overlong form, no surrogate, nothing above U+10FFFF. -/
def secondFits (first second : UInt8) : Bool :=
  isContinuation second &&
    !(first == 0xE0 && second < 0xA0) && !(first == 0xED && 0xA0 ≤ second) &&
    !(first == 0xF0 && second < 0x90) && !(first == 0xF4 && 0x90 ≤ second)

def low6 (b : UInt8) : Nat :=
  b.toNat % 64

def decodeFrom (position : Nat) : Bytes → Except Utf8Error (List Char)
  | [] => .ok []
  | a :: rest =>
    if a < 0x80 then
      return Char.ofNat a.toNat :: (← decodeFrom (position + 1) rest)
    else if a < 0xC2 || 0xF5 ≤ a then
      .error ⟨position, [a], .startByte⟩
    else
      match rest with
      | [] => .error ⟨position, [a], .endOfData⟩
      | b :: rest =>
        if !secondFits a b then
          .error ⟨position, [a], .continuationByte⟩
        else if a < 0xE0 then
          return Char.ofNat (a.toNat % 32 * 64 + low6 b) :: (← decodeFrom (position + 2) rest)
        else
          match rest with
          | [] => .error ⟨position, [a, b], .endOfData⟩
          | c :: rest =>
            if !isContinuation c then
              .error ⟨position, [a, b], .continuationByte⟩
            else if a < 0xF0 then
              return Char.ofNat ((a.toNat % 16 * 64 + low6 b) * 64 + low6 c) ::
                (← decodeFrom (position + 3) rest)
            else
              match rest with
              | [] => .error ⟨position, [a, b, c], .endOfData⟩
              | d :: rest =>
                if !isContinuation d then
                  .error ⟨position, [a, b, c], .continuationByte⟩
                else
                  return Char.ofNat (((a.toNat % 8 * 64 + low6 b) * 64 + low6 c) * 64 + low6 d) ::
                    (← decodeFrom (position + 4) rest)

def decode (bytes : Bytes) : Except Utf8Error String :=
  (decodeFrom 0 bytes).map String.ofList

def encode (s : String) : Bytes :=
  s.toList.flatMap String.utf8EncodeChar

/-- Every line end written as a single line feed: a carriage return, alone or before a line feed,
becomes one. -/
def unifyNewlines : List Char → List Char
  | '\r' :: '\n' :: rest => '\n' :: unifyNewlines rest
  | '\r' :: rest => '\n' :: unifyNewlines rest
  | c :: rest => c :: unifyNewlines rest
  | [] => []

def decodeText (bytes : Bytes) : Except Utf8Error String :=
  (decodeFrom 0 bytes).map fun cs => String.ofList (unifyNewlines cs)

example : decode [0x68, 0xC3, 0xA9] = .ok "hé" := by cbv

end Text

end MergeBench
