import MergeBench.Number.Decimal
import MergeBench.Text.Base64
import MergeBench.Text.LetterCase
import MergeBench.Value
import MergeBench.Yaml.Node

/-!
The data of a YAML document. Collections are filled in the order in which they are met, level by
level, so that of two faults the one nearer to the root is reported. A collection that holds itself
appears inside as `Value.again`.
-/

namespace MergeBench.Yaml

/-- Why a text yields no data. The first covers all that YAML itself forbids. -/
inductive DataError where
  | malformed
  | noCharacter (number : Nat)
  | integer (e : Number.IntegerError)
  | decimal (e : Number.DecimalError)
  /-- A group of a number in base 60 stands too far in front. -/
  | hugeUnit
  | calendar (e : CalendarError)
  | emptyNumeral
  | noTruthWord
  | noTimestamp
  | timestampMapping
  | tooDeep
  deriving DecidableEq, Repr

def DataError.ofSyntax : SyntaxError → DataError
  | .malformed => .malformed
  | .noCharacter n => .noCharacter n
  | .version e => .integer e
  | .tooDeep => .tooDeep

/-! ### Scalars -/

def dropJoins (text : String) : List Char :=
  text.toList.filter (· != '_')

def sexagesimal (digits : List Int) : Int :=
  digits.foldl (fun n d => n * 60 + d) 0

def readInteger (base : Nat) (cs : List Char) : Except DataError Int :=
  (Number.readInteger base (String.ofList cs)).mapError .integer

def groups (cs : List Char) : List (List Char) :=
  cs.splitOn ':'

def unsignedInteger (cs : List Char) : Except DataError Int :=
  match cs with
  | ['0'] => .ok 0
  | '0' :: 'b' :: digits => readInteger 2 digits
  | '0' :: 'x' :: digits => readInteger 16 digits
  | '0' :: _ => readInteger 8 cs
  | [] => .error .emptyNumeral
  | _ =>
    if cs.contains ':' then return sexagesimal (← (groups cs).mapM (readInteger 10))
    else readInteger 10 cs

def signed {α : Type} (negate : α → α) (read : List Char → Except DataError α) (cs : List Char) :
    Except DataError α :=
  match cs with
  | [] => .error .emptyNumeral
  | '-' :: rest => (read rest).map negate
  | '+' :: rest => read rest
  | _ => read cs

def integerOf (text : String) : Except DataError Int :=
  signed (fun n => -n) unsignedInteger (dropJoins text)

def readDecimal (cs : List Char) : Except DataError Number.Binary64 :=
  (Number.readDecimal (String.ofList cs)).mapError .decimal

/-- Sums groups, each sixty times as much as the one before it; the first counts `unit` times. -/
def sumGroups (sum : Number.Binary64) (unit : Int) :
    List Number.Binary64 → Except DataError Number.Binary64
  | [] => .ok sum
  | group :: rest =>
    match Number.Binary64.ofInt unit with
    | .finite negative mantissa exponent =>
      sumGroups (sum.add (group.mul (.finite negative mantissa exponent))) (unit * 60) rest
    | _ => .error .hugeUnit

def sexagesimalFloat (groups : List Number.Binary64) : Except DataError Number.Binary64 :=
  sumGroups (.ofInt 0) 1 groups.reverse

def unsignedFloat (cs : List Char) : Except DataError Number.Binary64 :=
  if cs == ".inf".toList then .ok (.infinite false)
  else if cs == ".nan".toList then .ok .notANumber
  else if cs.contains ':' then do sexagesimalFloat (← (groups cs).mapM readDecimal)
  else readDecimal cs

def floatOf (text : String) : Except DataError Number.Binary64 :=
  signed Number.Binary64.neg unsignedFloat (dropJoins (Text.lower text))

/-- The name of what is not a number, as opposed to a numeral of it. -/
def isNameOfNoNumber (text : String) : Bool :=
  match dropJoins (Text.lower text) with
  | '+' :: rest | '-' :: rest => rest == ".nan".toList
  | cs => cs == ".nan".toList

def truthOf (text : String) : Except DataError Bool :=
  let word := Text.lower text
  if ["yes", "true", "on"].contains word then .ok true
  else if ["no", "false", "off"].contains word then .ok false
  else .error .noTruthWord

def timestampOf (text : String) : Except DataError Value :=
  match Timestamp.read? text with
  | none => .error .noTimestamp
  | some t =>
    match t.clock with
    | none => (t.date.map Value.date).mapError .calendar
    | some clock => ((t.moment clock).map Value.moment).mapError .calendar

def octetsOf (text : String) : Except DataError Value :=
  let cs := text.toList
  if cs.any (128 ≤ ·.toNat) then .error .malformed
  else
    match Text.decodeBase64? cs with
    | some bytes => .ok (.bytes bytes)
    | none => .error .malformed

/-! ### Assembly -/

/-- A part of the data, its own parts by their numbers. -/
inductive Part where
  | plain (v : Value)
  | list (items : List Nat)
  | pairs (items : List (Nat × Nat))
  | set (items : List Value)
  | map (entries : List (Value × Nat))

structure Assembly where
  nodes : Array Node
  parts : Array (Option Part)
  queue : List Nat

abbrev Assembler (α : Type) : Type :=
  StateT Assembly (Except DataError) α

namespace Assembly

def node (a : Assembly) (number : Nat) : Node :=
  a.nodes.getD number ⟨.unknown, .scalar ""⟩

def part? (a : Assembly) (number : Nat) : Option Part :=
  (a.parts[number]?).join

def setPart (a : Assembly) (number : Nat) (p : Part) : Assembly :=
  { a with parts := a.parts.setIfInBounds number (some p) }

def entries (a : Assembly) (number : Nat) : List (Nat × Nat) :=
  match (a.node number).content with
  | .mapping entries => entries
  | _ => []

def setEntries (a : Assembly) (number : Nat) (entries : List (Nat × Nat)) : Assembly :=
  { a with nodes := a.nodes.setIfInBounds number { a.node number with content := .mapping entries } }

def setTag (a : Assembly) (number : Nat) (tag : Tag) : Assembly :=
  { a with nodes := a.nodes.setIfInBounds number { a.node number with tag := tag } }

/-- The text of a scalar; a mapping stands for the value of its key `=`. -/
def scalarText (a : Assembly) : Nat → Nat → Except DataError String
  | 0, _ => .error .malformed
  | fuel + 1, number =>
    match (a.node number).content with
    | .scalar text => .ok text
    | .broken points => .ok (Text.mended points)
    | .sequence _ => .error .malformed
    | .mapping entries =>
      match entries.find? fun entry => (a.node entry.1).tag == .value with
      | some entry => a.scalarText fuel entry.2
      | none => .error .malformed

def textValue (a : Assembly) (text : String) (number : Nat) : Except DataError Value :=
  match (a.node number).content with
  | .broken points => .ok (.brokenText points)
  | _ => .ok (.text text)

end Assembly

def scalarValue (a : Assembly) (number : Nat) (tag : Tag) : Except DataError Value := do
  let text ← a.scalarText (a.nodes.size + 1) number
  match tag with
  | .null => return .null
  | .bool => return .bool (← truthOf text)
  | .int => return .int (← integerOf text)
  | .float => return .float (← floatOf text)
  | .binary => octetsOf text
  | .timestamp =>
    match (a.node number).content with
    | .scalar _ | .broken _ => timestampOf text
    | _ => .error .timestampMapping
  | _ => a.textValue text number

/-- Makes the part for a node unless there is one. Collections are left empty for now. -/
def makePart (number : Nat) : Assembler Part := do
  let a ← get
  match a.part? number with
  | some p => return p
  | none =>
    let later (p : Part) : Assembler Part := do
      set { a.setPart number p with queue := a.queue ++ [number] }
      return p
    match (a.node number).tag with
    | .sequence => later (.list [])
    | .orderedPairs | .pairs => later (.pairs [])
    | .set => later (.set [])
    | .mapping => later (.map [])
    | .merge | .value | .unknown => throw .malformed
    | tag =>
      let p := Part.plain (← scalarValue a number tag)
      set (a.setPart number p)
      return p

/-- The entries that a merged value gives, and where they are taken from first. -/
def mergeSources (a : Assembly) (number : Nat) : Except DataError (List Nat) :=
  let isMapping (n : Nat) : Bool := match (a.node n).content with | .mapping _ => true | _ => false
  match (a.node number).content with
  | .mapping _ => .ok [number]
  | .sequence items => if items.all isMapping then .ok items else .error .malformed
  | .scalar _ | .broken _ => .error .malformed

mutual

/-- Replaces the keys `<<` of a mapping by the entries of their values, put in front of its own. -/
def flatten : Nat → Nat → Assembler Unit
  | 0, _ => throw .malformed
  | fuel + 1, number => do
    let merged ← flattenFrom fuel number 0
    modify fun a => a.setEntries number (merged ++ a.entries number)

/-- The merged entries from the given place on. A key `=` is a plain text from now on. -/
def flattenFrom : Nat → Nat → Nat → Assembler (List (Nat × Nat))
  | 0, _, _ => throw .malformed
  | fuel + 1, number, index => do
    let a ← get
    let entries := a.entries number
    match entries[index]? with
    | none => return []
    | some (key, value) =>
      match (a.node key).tag with
      | .merge =>
        set (a.setEntries number (entries.eraseIdx index))
        let sources ← mergeSources a value
        let found ← flattenAll fuel sources
        return found.reverse.flatten ++ (← flattenFrom fuel number index)
      | .value =>
        set (a.setTag key .text)
        flattenFrom fuel number (index + 1)
      | _ => flattenFrom fuel number (index + 1)

def flattenAll : Nat → List Nat → Assembler (List (List (Nat × Nat)))
  | 0, _ => throw .malformed
  | _, [] => return []
  | fuel + 1, source :: rest => do
    flatten fuel source
    let found := (← get).entries source
    return found :: (← flattenAll fuel rest)

end

def Node.size (n : Node) : Nat :=
  match n.content with
  | .scalar _ | .broken _ => 1
  | .sequence items => items.length + 1
  | .mapping entries => entries.length + 1

/-- Enough for every merge whose result is not out of all proportion to the document. -/
def flattenFuel (a : Assembly) : Nat :=
  Nat.pow ((a.nodes.toList.map Node.size).foldl (· + ·) 2) 4

/-- A key of a mapping, and where it comes from: its node, or one place for all keys that name what is
not a number. -/
structure Key where
  value : Value
  origin : Nat

/-- Whether a mapping keeps one entry for the two keys. A key is the same as itself even if it is not a
number. -/
def Key.same (k l : Key) : Bool :=
  k.origin == l.origin || k.value.sameKey l.value

def keyOf (number : Nat) (value : Value) : Assembler Key := do
  let a ← get
  match value with
  | .float .notANumber =>
    let isNamed := isNameOfNoNumber (← a.scalarText (a.nodes.size + 1) number)
    return ⟨value, if isNamed then a.nodes.size else number⟩
  | _ => return ⟨value, number⟩

/-- The entries of a mapping, keys first and each before its value; keys are no collections. -/
def mappingEntries : List (Nat × Nat) → List (Key × Nat) → Assembler (List (Key × Nat))
  | [], found => return found
  | (key, value) :: rest, found => do
    match ← makePart key with
    | .plain k =>
      let _ ← makePart value
      mappingEntries rest (Value.putBy Key.same found (← keyOf key k) value)
    | _ => throw .malformed

def readMapping (number : Nat) : Assembler (List (Value × Nat)) := do
  let a ← get
  match (a.node number).content with
  | .mapping _ =>
    flatten (flattenFuel a) number
    let entries ← mappingEntries ((← get).entries number) []
    return entries.map fun (key, value) => (key.value, value)
  | _ => throw .malformed

/-- Each item is a mapping with one entry. -/
def readPairs : List Nat → Assembler (List (Nat × Nat))
  | [] => return []
  | item :: rest => do
    match ((← get).node item).content with
    | .mapping [(key, value)] =>
      let _ ← makePart key
      let _ ← makePart value
      return (key, value) :: (← readPairs rest)
    | _ => throw .malformed

def makeAll : List Nat → Assembler Unit
  | [] => return
  | item :: rest => do
    let _ ← makePart item
    makeAll rest

def fill (number : Nat) : Assembler Unit := do
  let node := (← get).node number
  let filled ←
    match node.tag, node.content with
    | .sequence, .sequence items => do
      makeAll items
      pure (Part.list items)
    | .mapping, _ => Part.map <$> readMapping number
    | .set, _ => do
      let entries ← readMapping number
      pure (Part.set (Value.listed (entries.map Prod.fst)))
    | .orderedPairs, .sequence items | .pairs, .sequence items => Part.pairs <$> readPairs items
    | _, _ => throw .malformed
  modify fun a => a.setPart number filled

/-- Fills the waiting collections; each node is filled at most once. -/
def fillAll : Nat → Assembler Unit
  | 0 => throw .malformed
  | fuel + 1 => do
    let a ← get
    match a.queue with
    | [] => return
    | number :: rest =>
      set { a with queue := rest }
      fill number
      fillAll fuel

def Part.shape? : Part → Option Collection
  | .list _ | .pairs _ => some .list
  | .map _ => some .map
  | _ => none

def Part.value (valueOf : Nat → Value) : Part → Value
  | .plain v => v
  | .list items => .list (items.map valueOf)
  | .pairs items => .list (items.map fun (key, value) => .pair (valueOf key) (valueOf value))
  | .set items => .set items
  | .map entries => .map (entries.map fun (key, value) => (key, valueOf value))

/-- `pending` are the collections around; they are all different, which bounds their number. -/
def Assembly.value (a : Assembly) : Nat → List Nat → Nat → Value
  | 0, _, _ => .null
  | fuel + 1, pending, number =>
    match a.part? number with
    | none => .null
    | some p =>
      match p.shape? with
      | some shape =>
        if pending.contains number then .again shape
        else p.value (a.value fuel (number :: pending))
      | none => p.value (a.value fuel pending)

/-- The value of a document. The root counts as a new collection where it stands inside itself. -/
def Document.value (d : Document) : Except DataError Value := do
  let start : Assembly := ⟨d.nodes, Array.replicate d.nodes.size none, []⟩
  let assemble : Assembler Part := do
    let _ ← makePart d.root
    fillAll (d.nodes.size + 1)
    return ((← get).part? d.root).getD (.plain .null)
  let (root, a) ← assemble.run start
  return root.value (a.value (d.nodes.size + 1) [])

def read (text : String) : Except DataError Value :=
  match Document.ofTokens? (tokens text) with
  | .error e => .error (.ofSyntax e)
  | .ok none => .ok .null
  | .ok (some d) => d.value

end MergeBench.Yaml
