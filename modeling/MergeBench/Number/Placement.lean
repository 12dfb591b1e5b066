import MergeBench.Number.Binary64

/-!
The order in which a set lists numbers. Each number has a key, the same for all its forms; the keys
lead to places in a table with room to spare, and a number whose place is taken goes on to others.
-/

namespace MergeBench.Number

/-- The modulus of keys, with which powers of two come round after 61 steps. -/
def keyModulus : Nat :=
  Nat.pow 2 61 - 1

/-- Keys are words of 64 bits, negative ones as complements; minus one is not used. -/
def signedKey (negative : Bool) (n : Nat) : Nat :=
  let key := n % keyModulus
  if !negative || key == 0 then key
  else if key == 1 then Nat.pow 2 64 - 2 else Nat.pow 2 64 - key

def infiniteKey : Nat := 314159

/-- The key of a number; the second half of a round of powers stands for those below one. -/
def Binary64.key : Binary64 → Nat
  | finite negative mantissa exponent =>
    signedKey negative (mantissa * Nat.pow 2 (exponent % 61).toNat)
  | infinite negative => signedKey negative infiniteKey
  | notANumber => 0

def intKey (n : Int) : Nat :=
  signedKey (n < 0) n.natAbs

def tableSize (members : Nat) : Nat :=
  if members < 5 then 8 else Nat.pow 2 (Nat.log2 (2 * members) + 1)

def neighbours : Nat := 9

/-- The places tried from one on: its neighbours, unless the table ends before the last of them. -/
def placesFrom (size place : Nat) : List Nat :=
  if place + neighbours < size then List.range' place (neighbours + 1) else [place]

/-- The first free place for a key, whose bits are taken into account five by five. -/
def freePlace? (size : Nat) (isFree : Nat → Bool) : Nat → Nat → Nat → Option Nat
  | 0, _, _ => none
  | fuel + 1, key, place =>
    match (placesFrom size place).find? isFree with
    | some found => some found
    | none =>
      let key := key / 32
      freePlace? size isFree fuel key ((place * 5 + 1 + key) % size)

def insertPlaced {α : Type} (place : Nat) (member : α) : List (Nat × α) → List (Nat × α)
  | [] => [(place, member)]
  | (other, m) :: rest =>
    if place < other then (place, member) :: (other, m) :: rest
    else (other, m) :: insertPlaced place member rest

def place {α : Type} (size : Nat) (placed : List (Nat × α)) (key : Nat) (member : α) :
    List (Nat × α) :=
  let isFree (place : Nat) : Bool := !placed.any (·.1 == place)
  insertPlaced ((freePlace? size isFree (size + 16) key (key % size)).getD size) member placed

/-- Members with their keys, in the order of their places. -/
def inPlaceOrder {α : Type} (members : List (Nat × α)) : List α :=
  (members.foldl (fun placed (key, member) => place (tableSize members.length) placed key member)
    []).map Prod.snd

end MergeBench.Number
