import MergeBench.Calendar
import MergeBench.Number.Placement
import MergeBench.Number.Shortest
import MergeBench.Text.CodePoint
import MergeBench.Text.Utf8

/-!
Data of unknown shape, as configuration files and receipts hold it. A value has a plain text, under
which it becomes a setting, and a written form, in which text is quoted; inside collections every
value is written.
-/

namespace MergeBench

/-- What a collection is, where the collection itself stands inside it. -/
inductive Collection where
  | list
  | map
  deriving DecidableEq, Repr

inductive Value where
  | null
  | bool (b : Bool)
  | int (n : Int)
  | float (x : Number.Binary64)
  | text (s : String)
  | brokenText (points : List Text.CodePoint)
  | date (d : Date)
  | moment (m : Moment)
  | bytes (bs : Bytes)
  | list (items : List Value)
  | pair (first second : Value)
  | set (items : List Value)
  | map (entries : List (Value × Value))
  /-- An enclosing collection once more. -/
  | again (shape : Collection)
  deriving Repr

namespace Value

def ofPoints (points : List Text.CodePoint) : Value :=
  match Text.ofPoints? points with
  | some s => text s
  | none => brokenText points

theorem ofPoints_map_char (s : String) : ofPoints (s.toList.map .char) = text s := by
  simp [ofPoints, Text.ofPoints?_map_char]

def typeName : Value → String
  | null => "NoneType"
  | bool _ => "bool"
  | int _ => "int"
  | float _ => "float"
  | text _ | brokenText _ => "str"
  | date _ => "date"
  | moment _ => "datetime"
  | bytes _ => "bytes"
  | list _ | again .list => "list"
  | pair .. => "tuple"
  | set _ => "set"
  | map _ | again .map => "dict"

def boolText (b : Bool) : String :=
  if b then "True" else "False"

inductive WriteError where
  | integer (e : Number.IntegerError)
  | tooDeep
  deriving DecidableEq, Repr

/-- Values inside each other, at most, where they are written. -/
def nestingLimit : Nat := 991

mutual

def writtenWithin : Nat → Value → Except WriteError String
  | 0, _ => .error .tooDeep
  | _ + 1, null => .ok "None"
  | _ + 1, bool b => .ok (boolText b)
  | _ + 1, int n => (Number.writeInteger n).mapError .integer
  | _ + 1, float x => .ok x.text
  | _ + 1, text s => .ok (Text.quoted s)
  | _ + 1, brokenText points => .ok (Text.quotedPoints points)
  | _ + 1, date d => .ok d.written
  | _ + 1, moment m => .ok m.written
  | _ + 1, bytes bs => .ok (Text.quotedBytes bs)
  | room + 1, list items => do
    return "[" ++ ", ".intercalate (← writtenItems room items) ++ "]"
  | room + 1, pair a b => do
    return "(" ++ (← writtenWithin room a) ++ ", " ++ (← writtenWithin room b) ++ ")"
  | _ + 1, set [] => .ok "set()"
  | room + 1, set items => do
    return "\x7b" ++ ", ".intercalate (← writtenItems room items) ++ "\x7d"
  | room + 1, map entries => do
    return "\x7b" ++ ", ".intercalate (← writtenEntries room entries) ++ "\x7d"
  | _ + 1, again .list => .ok "[...]"
  | _ + 1, again .map => .ok "\x7b...\x7d"

def writtenItems (room : Nat) : List Value → Except WriteError (List String)
  | [] => .ok []
  | v :: vs => do
    let head ← writtenWithin room v
    return head :: (← writtenItems room vs)

def writtenEntries (room : Nat) : List (Value × Value) → Except WriteError (List String)
  | [] => .ok []
  | (k, v) :: es => do
    let key ← writtenWithin room k
    let value ← writtenWithin room v
    return (key ++ ": " ++ value) :: (← writtenEntries room es)

end

def written (v : Value) : Except WriteError String :=
  v.writtenWithin nestingLimit

/-- The text under which a value is used. Halves of surrogate pairs cannot be kept. -/
def plain : Value → Except WriteError String
  | text s => .ok s
  | brokenText points => .ok (Text.mended points)
  | date d => .ok d.text
  | moment m => .ok m.text
  | v => v.written

def name? : Value → Option String
  | text s => some s
  | brokenText points => some (Text.mended points)
  | _ => none

/-- What is wrong with the text of a value as a text for the system. -/
def systemError? : Value → Option Text.HalfError
  | brokenText points => Text.systemError? points
  | _ => none

/-- Null, false, zero and all that is empty. -/
def isBlank : Value → Bool
  | null | bool false | text "" | bytes [] | list [] | set [] | map [] => true
  | int n => n == 0
  | float x => x.isZero
  | _ => false

/-- Truth values, integers and floating-point numbers are one kind of key. -/
inductive NumberKey where
  | int (n : Int)
  | float (x : Number.Binary64)

def numberKey? : Value → Option NumberKey
  | bool b => some (.int b.toNat)
  | int n => some (.int n)
  | float x => some (match x.toInt? with | some n => .int n | none => .float x)
  | _ => none

def NumberKey.same : NumberKey → NumberKey → Bool
  | .int m, .int n => m == n
  | .float x, .float y => x.sameValue y
  | _, _ => false

/-- Whether two keys are equal. What is not a number equals nothing. -/
def sameKey (a b : Value) : Bool :=
  match a.numberKey?, b.numberKey? with
  | some x, some y => x.same y
  | none, none =>
    match a, b with
    | null, null => true
    | text s, text t => s == t
    | brokenText p, brokenText q => p == q
    | date d, date e => d == e
    | moment m, moment n => m.same n
    | bytes x, bytes y => x == y
    | _, _ => false
  | _, _ => false

def placedKey? : Value → Option Nat
  | bool b => some b.toNat
  | int n => some (Number.intKey n)
  | float x => if x == .notANumber then none else some x.key
  | _ => none

/-- The members of a set in the order in which it lists them: numbers by their places, all else as
it came. -/
def listed (members : List Value) : List Value :=
  match members.mapM fun v => v.placedKey?.map fun key => (key, v) with
  | some keyed => Number.inPlaceOrder keyed
  | none => members

/-- A later entry replaces the value and keeps the place of an earlier one with the same key. -/
def putBy {κ α : Type} (same : κ → κ → Bool) (entries : List (κ × α)) (key : κ) (value : α) :
    List (κ × α) :=
  if entries.any fun e => same e.1 key then
    entries.map fun e => if same e.1 key then (e.1, value) else e
  else entries ++ [(key, value)]

def putEntry {α : Type} (entries : List (Value × α)) (key : Value) (value : α) :
    List (Value × α) :=
  putBy sameKey entries key value

end Value

end MergeBench
