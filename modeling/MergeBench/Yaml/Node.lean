import MergeBench.Yaml.Lexer
import MergeBench.Yaml.Tag

/-!
The document of a YAML text as a table of nodes. Collections hold the numbers of their parts, so that
a node with an anchor can stand in several places, inside itself too.
-/

namespace MergeBench.Yaml

inductive Content where
  | scalar (text : String)
  | broken (points : List Text.CodePoint)
  | sequence (items : List Nat)
  | mapping (entries : List (Nat × Nat))
  deriving DecidableEq, Repr

structure Node where
  tag : Tag
  content : Content
  deriving DecidableEq, Repr

structure Document where
  nodes : Array Node
  root : Nat
  deriving Repr

namespace Document

structure Draft where
  tokens : List Token
  nodes : Array Node
  anchors : List (String × Nat)
  handles : List (String × String)
  depth : Nat := 0

abbrev Builder (α : Type) : Type :=
  StateT Draft (Except SyntaxError) α

def defaultHandles : List (String × String) :=
  [("!", "!"), ("!!", Tag.corePrefix)]

/-- The next token. What is behind a fault is out of reach. -/
def peek : Builder (Option Token) := do
  match (← get).tokens.head? with
  | some (.fault e) => throw e
  | found => return found

def skip : Builder Unit :=
  modify fun d => { d with tokens := d.tokens.drop 1 }

def refuse {α : Type} : Builder α :=
  throw .malformed

def next? (p : Token → Bool) : Builder Bool := do
  return ((← peek).map p).getD false

structure Properties where
  anchor : Option String
  tag : Option String

def Properties.areGiven (p : Properties) : Bool :=
  p.anchor.isSome || p.tag.isSome

/-- A tag of a single mark leaves it to the node what it is. -/
def Properties.tagText? (p : Properties) : Option String :=
  p.tag.filter (· != "!")

def expandTag (name : TagName) : Builder String := do
  match name.handle with
  | none => return name.suffix
  | some handle =>
    match (← get).handles.lookup handle with
    | some start => return start ++ name.suffix
    | none => throw .malformed

def readTag? : Builder (Option TagName) := do
  match ← peek with
  | some (.tag name) =>
    skip
    return some name
  | _ => return none

def readAnchor? : Builder (Option String) := do
  match ← peek with
  | some (.anchor name) =>
    skip
    return some name
  | _ => return none

def readWrittenProperties : Builder (Option String × Option TagName) := do
  match ← readAnchor? with
  | some anchor => return (some anchor, ← readTag?)
  | none =>
    match ← readTag? with
    | some tag => return (← readAnchor?, some tag)
    | none => return (none, none)

def readProperties : Builder Properties := do
  let (anchor, tag) ← readWrittenProperties
  match tag with
  | some name => return ⟨anchor, some (← expandTag name)⟩
  | none => return ⟨anchor, none⟩

/-- Adds a node. Its anchor must be new. -/
def add (anchor : Option String) (node : Node) : Builder Nat := do
  let d ← get
  let number := d.nodes.size
  match anchor with
  | none => set { d with nodes := d.nodes.push node }
  | some name =>
    if (d.anchors.lookup name).isSome then throw .malformed
    else set { d with nodes := d.nodes.push node, anchors := (name, number) :: d.anchors }
  return number

def addScalar (p : Properties) (text : String) (plain : Bool) : Builder Nat :=
  let tag :=
    match p.tagText? with
    | some tag => Tag.ofText tag
    | none => if plain || p.tag.isSome then Tag.ofScalar text else .text
  add p.anchor ⟨tag, .scalar text⟩

/-- Text with halves of surrogate pairs in it, which only a quoted scalar holds. -/
def addBroken (p : Properties) (points : List Text.CodePoint) : Builder Nat :=
  add p.anchor ⟨(p.tagText?.map Tag.ofText).getD .text, .broken points⟩

def addEmpty : Builder Nat :=
  addScalar ⟨none, none⟩ "" true

/-- Adds a collection before its parts are read, since they may refer to it. -/
def addCollection (p : Properties) (tag : Tag) (parts : Builder Content) : Builder Nat := do
  let tag := (p.tagText?.map Tag.ofText).getD tag
  let number ← add p.anchor ⟨tag, .sequence []⟩
  let depth := (← get).depth
  if nestingLimit ≤ depth then throw .tooDeep
  modify fun d => { d with depth := depth + 1 }
  let content ← parts
  modify fun d =>
    { d with nodes := d.nodes.setIfInBounds number ⟨tag, content⟩, depth := depth }
  return number

/-- The node that is read, or an empty one where a token follows that can begin none. -/
def orEmpty (ends : Token → Bool) (read : Builder Nat) : Builder Nat := do
  if ← next? ends then addEmpty else read

def endsItem (t : Token) : Bool :=
  t == .blockEntry || t == .blockEnd

def endsEntry (t : Token) : Bool :=
  t == .key || t == .value || t == .blockEnd

def endsFlow (close : Token) (t : Token) : Bool :=
  t == .flowEntry || t == close

mutual

/-- A node; `block` and `indentless` say which collections may begin here. -/
def readNode : Nat → Bool → Bool → Builder Nat
  | 0, _, _ => throw .malformed
  | fuel + 1, block, indentless => do
    match ← peek with
    | some (.alias name) =>
      skip
      match (← get).anchors.lookup name with
      | some number => return number
      | none => throw .malformed
    | _ =>
      let p ← readProperties
      readContent fuel block indentless p

def readContent : Nat → Bool → Bool → Properties → Builder Nat
  | 0, _, _, _ => throw .malformed
  | fuel + 1, block, indentless, p => do
    match ← peek, block, indentless with
    | some .blockEntry, _, true =>
      addCollection p .sequence (.sequence <$> readIndentlessItems fuel)
    | some (.scalar text plain), _, _ =>
      skip
      addScalar p text plain
    | some (.brokenScalar points), _, _ =>
      skip
      addBroken p points
    | some .flowSequence, _, _ =>
      skip
      addCollection p .sequence (.sequence <$> readFlowItems fuel true)
    | some .flowMapping, _, _ =>
      skip
      addCollection p .mapping (.mapping <$> readFlowEntries fuel true)
    | some .blockSequence, true, _ =>
      skip
      addCollection p .sequence (.sequence <$> readBlockItems fuel)
    | some .blockMapping, true, _ =>
      skip
      addCollection p .mapping (.mapping <$> readBlockEntries fuel)
    | _, _, _ => if p.areGiven then addScalar p "" true else refuse

def readIndentlessItems : Nat → Builder (List Nat)
  | 0 => throw .malformed
  | fuel + 1 => do
    if ← next? (· == .blockEntry) then
      skip
      let item ← orEmpty (fun t => endsItem t || endsEntry t) (readNode fuel true false)
      return item :: (← readIndentlessItems fuel)
    else return []

def readBlockItems : Nat → Builder (List Nat)
  | 0 => throw .malformed
  | fuel + 1 => do
    match ← peek with
    | some .blockEntry =>
      skip
      let item ← orEmpty endsItem (readNode fuel true false)
      return item :: (← readBlockItems fuel)
    | some .blockEnd =>
      skip
      return []
    | _ => refuse

def readBlockEntries : Nat → Builder (List (Nat × Nat))
  | 0 => throw .malformed
  | fuel + 1 => do
    match ← peek with
    | some .key =>
      skip
      let key ← orEmpty endsEntry (readNode fuel true true)
      let value ←
        if ← next? (· == .value) then
          skip
          orEmpty endsEntry (readNode fuel true true)
        else addEmpty
      return (key, value) :: (← readBlockEntries fuel)
    | some .blockEnd =>
      skip
      return []
    | _ => refuse

def readFlowValue : Nat → Token → Builder Nat
  | 0, _ => throw .malformed
  | fuel + 1, close => do
    if ← next? (· == .value) then
      skip
      orEmpty (endsFlow close) (readNode fuel false false)
    else addEmpty

/-- The items up to the closing bracket; an entry among them is a mapping of its own. -/
def readFlowItems : Nat → Bool → Builder (List Nat)
  | 0, _ => throw .malformed
  | fuel + 1, first => do
    let ended ← next? (· == .flowSequenceEnd)
    if !ended && !first then
      if ← next? (· == .flowEntry) then skip else refuse
    match ← peek with
    | some .flowSequenceEnd =>
      skip
      return []
    | some .key =>
      skip
      let pair := do
        let ends (t : Token) : Bool := t == .value || endsFlow .flowSequenceEnd t
        let key ← orEmpty ends (readNode fuel false false)
        let value ← readFlowValue fuel .flowSequenceEnd
        return Content.mapping [(key, value)]
      let item ← addCollection ⟨none, none⟩ .mapping pair
      return item :: (← readFlowItems fuel false)
    | _ =>
      let item ← readNode fuel false false
      return item :: (← readFlowItems fuel false)

def readFlowEntries : Nat → Bool → Builder (List (Nat × Nat))
  | 0, _ => throw .malformed
  | fuel + 1, first => do
    let ended ← next? (· == .flowMappingEnd)
    if !ended && !first then
      if ← next? (· == .flowEntry) then skip else refuse
    match ← peek with
    | some .flowMappingEnd =>
      skip
      return []
    | some .key =>
      skip
      let ends (t : Token) : Bool := t == .value || endsFlow .flowMappingEnd t
      let key ← orEmpty ends (readNode fuel false false)
      let value ← readFlowValue fuel .flowMappingEnd
      return (key, value) :: (← readFlowEntries fuel false)
    | _ =>
      let key ← readNode fuel false false
      let value ← addEmpty
      return (key, value) :: (← readFlowEntries fuel false)

end

/-- Directives in front of a document: the version at most once, a handle at most once. -/
def readDirectives : Nat → Bool → List (String × String) → Builder (List (String × String))
  | 0, _, _ => throw .malformed
  | fuel + 1, versioned, handles => do
    match ← peek with
    | some (.directive (.version major)) =>
      skip
      if versioned || major != 1 then throw .malformed
      else readDirectives fuel true handles
    | some (.directive (.tag handle start)) =>
      skip
      if (handles.lookup handle).isSome then throw .malformed
      else readDirectives fuel versioned ((handle, start) :: handles)
    | some (.directive .other) =>
      skip
      readDirectives fuel versioned handles
    | _ => return handles ++ defaultHandles

def endsDocument (t : Token) : Bool :=
  match t with
  | .directive _ | .documentStart | .documentEnd => true
  | _ => false

def readRoot (fuel : Nat) : Builder (Option Nat) := do
  match ← peek with
  | none => return none
  | some (.directive _) | some .documentStart =>
    let handles ← readDirectives fuel false []
    modify fun d => { d with handles := handles }
    if ← next? (· == .documentStart) then
      skip
      let ended := (← peek).isNone || (← next? endsDocument)
      let root ← if ended then addEmpty else readNode fuel true false
      return some root
    else refuse
  | _ => return some (← readNode fuel true false)

def readAll (fuel : Nat) : Builder (Option Nat) := do
  let root ← readRoot fuel
  modify fun d => { d with tokens := d.tokens.dropWhile (· == .documentEnd) }
  if (← peek).isNone then return root else refuse

/-- The nodes that tokens describe; nothing if they describe no document. -/
def ofTokens? (tokens : List Token) : Except SyntaxError (Option Document) :=
  let fuel := 4 * (tokens.length + 2)
  match (readAll fuel).run ⟨tokens, #[], [], defaultHandles, 0⟩ with
  | .ok (some root, d) => .ok (some ⟨d.nodes, root⟩)
  | .ok (none, _) => .ok none
  | .error e => .error e

end Document

end MergeBench.Yaml
