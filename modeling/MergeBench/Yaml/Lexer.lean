import MergeBench.Yaml.Scalar

/-!
The tokens of a YAML text in their order. A key of a mapping is known as one only when the `:` after
it is read: until then it is pending, and its token is inserted in front of it afterwards.
-/

namespace MergeBench.Yaml

structure PendingKey where
  position : Nat
  /-- The block goes on only if this is a key. -/
  required : Bool
  start : Cursor
  deriving Repr

structure Lexer where
  cursor : Cursor
  /-- Latest first. -/
  tokens : List Token
  count : Nat
  flowDepth : Nat
  /-- The column of the innermost block, below zero outside all blocks. -/
  indent : Int
  outerIndents : List Int
  keyAllowed : Bool
  /-- At most one for each depth of flow collections. -/
  pending : List (Nat × PendingKey)
  deriving Repr

namespace Lexer

/-- A key and the `:` after it stand on one line, at most so many characters apart. -/
def keyLength : Nat := 1024

def start (text : List Char) : Lexer :=
  ⟨Cursor.start text, [], 0, 0, -1, [], true, []⟩

def emit (x : Lexer) (t : Token) : Lexer :=
  { x with tokens := t :: x.tokens, count := x.count + 1 }

def insert (x : Lexer) (position : Nat) (t : Token) : Lexer :=
  let later := x.count - position
  { x with tokens := x.tokens.take later ++ t :: x.tokens.drop later, count := x.count + 1 }

def inFlow (x : Lexer) : Bool :=
  0 < x.flowDepth

def isStale (x : Lexer) (k : PendingKey) : Bool :=
  k.start.line != x.cursor.line || keyLength < x.cursor.index - k.start.index

def dropStale (x : Lexer) : Except SyntaxError Lexer :=
  if x.pending.any fun entry => x.isStale entry.2 && entry.2.required then malformed
  else .ok { x with pending := x.pending.filter fun entry => !x.isStale entry.2 }

def dropPending (x : Lexer) : Except SyntaxError Lexer :=
  match x.pending.lookup x.flowDepth with
  | some key =>
    if key.required then malformed
    else .ok { x with pending := x.pending.filter fun entry => entry.1 != x.flowDepth }
  | none => .ok x

def notePending (x : Lexer) : Except SyntaxError Lexer := do
  if x.keyAllowed then
    let required := !x.inFlow && x.indent == x.cursor.column
    let x ← x.dropPending
    return { x with pending := (x.flowDepth, ⟨x.count, required, x.cursor⟩) :: x.pending }
  else return x

def closeBlocks (column : Int) : List Int → Lexer → Lexer
  | [], x => x
  | outer :: rest, x =>
    if column < x.indent then
      closeBlocks column rest { x.emit .blockEnd with indent := outer, outerIndents := rest }
    else x

def closeTo (x : Lexer) (column : Int) : Lexer :=
  if x.inFlow then x else closeBlocks column x.outerIndents x

/-- Whether a block begins at the column, and the state inside it. -/
def openBlock (x : Lexer) (column : Nat) : Bool × Lexer :=
  if x.indent < column then
    (true, { x with indent := column, outerIndents := x.indent :: x.outerIndents })
  else (false, x)

def skipGap : Nat → Lexer → Lexer
  | 0, x => x
  | fuel + 1, x =>
    match x.cursor.skipSpaces.skipComment.lineBreak? with
    | (some _, c) => skipGap fuel { x with cursor := c, keyAllowed := x.keyAllowed || !x.inFlow }
    | (none, c) => { x with cursor := c }

def skipByteOrderMark (x : Lexer) : Lexer :=
  if x.cursor.index == 0 && x.cursor.peek == byteOrderMark then { x with cursor := x.cursor.next }
  else x

def move (x : Lexer) (n : Nat) : Lexer :=
  { x with cursor := x.cursor.skip n }

def readEnd (x : Lexer) : Except SyntaxError Lexer :=
  (x.closeTo (-1)).dropPending

def readDirective (x : Lexer) : Except SyntaxError Lexer := do
  let x ← (x.closeTo (-1)).dropPending
  let (found, c) ← directive x.cursor
  return { x.emit (.directive found) with cursor := c, keyAllowed := false }

def readSeparator (x : Lexer) (t : Token) : Except SyntaxError Lexer := do
  let x ← (x.closeTo (-1)).dropPending
  return { (x.emit t).move 3 with keyAllowed := false }

/-- Nobody reads the tokens of collections as deep as this: what is pending begins further on than
the deepest collection that counts. -/
def depthLimit : Nat := 2 * keyLength

def checkDepth (x : Lexer) : Except SyntaxError Unit :=
  if depthLimit < x.flowDepth + x.outerIndents.length then .error .tooDeep else .ok ()

def readFlowStart (x : Lexer) (t : Token) : Except SyntaxError Lexer := do
  x.checkDepth
  let x ← x.notePending
  return { (x.emit t).move 1 with flowDepth := x.flowDepth + 1, keyAllowed := true }

def readFlowEnd (x : Lexer) (t : Token) : Except SyntaxError Lexer := do
  if x.inFlow then
    let x ← x.dropPending
    return { (x.emit t).move 1 with flowDepth := x.flowDepth - 1, keyAllowed := false }
  else malformed

def readFlowEntry (x : Lexer) : Except SyntaxError Lexer := do
  let x ← x.dropPending
  return { (x.emit .flowEntry).move 1 with keyAllowed := true }

/-- In block style an entry or a key stands where a key is allowed, and may begin a block. -/
def beginBlock (x : Lexer) (first : Token) : Except SyntaxError Lexer := do
  if x.inFlow then return x
  else if !x.keyAllowed then malformed
  else
    x.checkDepth
    match x.openBlock x.cursor.column with
    | (true, x) => return x.emit first
    | (false, x) => return x

def readBlockEntry (x : Lexer) : Except SyntaxError Lexer := do
  let x ← (← x.beginBlock .blockSequence).dropPending
  return { (x.emit .blockEntry).move 1 with keyAllowed := true }

def readKey (x : Lexer) : Except SyntaxError Lexer := do
  let x ← (← x.beginBlock .blockMapping).dropPending
  return { (x.emit .key).move 1 with keyAllowed := !x.inFlow }

def settleKey (x : Lexer) (key : PendingKey) : Lexer :=
  let x := { x with pending := x.pending.filter fun entry => entry.1 != x.flowDepth }
  let x := x.insert key.position .key
  let x :=
    if x.inFlow then x
    else
      match x.openBlock key.start.column with
      | (true, x) => x.insert key.position .blockMapping
      | (false, x) => x
  { x with keyAllowed := false }

def readValue (x : Lexer) : Except SyntaxError Lexer := do
  let x ←
    match x.pending.lookup x.flowDepth with
    | some key => pure (x.settleKey key)
    | none =>
      let x ← x.beginBlock .blockMapping
      ({ x with keyAllowed := !x.inFlow } : Lexer).dropPending
  return (x.emit .value).move 1

def readAnchor (x : Lexer) (token : String → Token) : Except SyntaxError Lexer := do
  let x ← x.notePending
  let (name, c) ← anchorName x.cursor
  return { x.emit (token name) with cursor := c, keyAllowed := false }

def readTag (x : Lexer) : Except SyntaxError Lexer := do
  let x ← x.notePending
  let (name, c) ← tagName x.cursor
  return { x.emit (.tag name) with cursor := c, keyAllowed := false }

def readBlockScalar (x : Lexer) (fold : Bool) : Except SyntaxError Lexer := do
  let x ← x.dropPending
  let (text, c) ← blockScalar fold x.indent x.cursor
  return { x.emit (.scalar text false) with cursor := c, keyAllowed := true }

def readQuoted (x : Lexer) : Except SyntaxError Lexer := do
  let x ← x.notePending
  let (token, c) ← quotedScalar x.cursor
  return { x.emit token with cursor := c, keyAllowed := false }

def readPlain (x : Lexer) : Except SyntaxError Lexer := do
  let x ← x.notePending
  let found := plainScalar x.inFlow x.indent x.cursor
  return { x.emit (.scalar (String.ofList found.text) true) with
    cursor := found.cursor, keyAllowed := found.broken }

/-- Characters that cannot begin a plain scalar. -/
def isMark (c : Char) : Bool :=
  ['-', '?', ':', ',', '[', ']', '\x7b', '\x7d', '#', '&', '*', '!', '|', '>', '\'', '"', '%', '@',
    '\x60'].contains c

/-- Three of them can, with no gap after them. -/
def beginsPlain (x : Lexer) : Bool :=
  let ch := x.cursor.peek
  (!isGapOrEnd ch && !isMark ch) ||
    (!isGapOrEnd (x.cursor.peekAt 1) && (ch == '-' || (!x.inFlow && (ch == '?' || ch == ':'))))

structure Progress where
  lexer : Lexer
  more : Bool

def readToken (x : Lexer) : Except SyntaxError Progress :=
  let c := x.cursor
  let ch := c.peek
  let gapNext := isGapOrEnd (c.peekAt 1)
  let read (r : Except SyntaxError Lexer) : Except SyntaxError Progress := r.map (⟨·, true⟩)
  if ch == endMark then x.readEnd.map (⟨·, false⟩)
  else if ch == '%' && c.column == 0 then read x.readDirective
  else if c.column == 0 && c.atSeparator then
    read (x.readSeparator (if ch == '-' then .documentStart else .documentEnd))
  else if ch == '[' then read (x.readFlowStart .flowSequence)
  else if ch == '\x7b' then read (x.readFlowStart .flowMapping)
  else if ch == ']' then read (x.readFlowEnd .flowSequenceEnd)
  else if ch == '\x7d' then read (x.readFlowEnd .flowMappingEnd)
  else if ch == ',' then read x.readFlowEntry
  else if ch == '-' && gapNext then read x.readBlockEntry
  else if ch == '?' && (x.inFlow || gapNext) then read x.readKey
  else if ch == ':' && (x.inFlow || gapNext) then read x.readValue
  else if ch == '*' then read (x.readAnchor .alias)
  else if ch == '&' then read (x.readAnchor .anchor)
  else if ch == '!' then read x.readTag
  else if ch == '|' && !x.inFlow then read (x.readBlockScalar false)
  else if ch == '>' && !x.inFlow then read (x.readBlockScalar true)
  else if ch == '\'' || ch == '"' then read x.readQuoted
  else if x.beginsPlain then read x.readPlain
  else malformed

def step (x : Lexer) : Except SyntaxError Progress := do
  let x ← (skipGap (x.cursor.rest.length + 1) x.skipByteOrderMark).dropStale
  (x.closeTo x.cursor.column).readToken

/-- The tokens that are known for good: what may turn out to be a key, and all behind it, may still be
preceded by other tokens. -/
def settled (x : Lexer) : List Token :=
  let waiting := x.pending.filter fun entry => !x.isStale entry.2
  x.tokens.reverse.take (waiting.foldl (fun n entry => min n entry.2.position) x.tokens.length)

/-- The tokens of the rest. Each step but the last takes at least one character. -/
def run : Nat → Lexer → List Token
  | 0, x => x.settled ++ [.fault .malformed]
  | fuel + 1, x =>
    match x.step with
    | .error e => x.settled ++ [.fault e]
    | .ok after => if after.more then run fuel after.lexer else after.lexer.tokens.reverse

end Lexer

def isAllowed (c : Char) : Bool :=
  let n := c.toNat
  c == '\t' || c == '\n' || c == '\r' || (0x20 ≤ n && n ≤ 0x7E) || n == 0x85 ||
    (0xA0 ≤ n && n ≤ 0xFFFD) || 0x10000 ≤ n

/-- The tokens of a text. A fault is the last of them. -/
def tokens (text : String) : List Token :=
  let cs := text.toList
  if cs.all isAllowed then Lexer.run (cs.length + 2) (Lexer.start cs) else [.fault .malformed]

end MergeBench.Yaml
