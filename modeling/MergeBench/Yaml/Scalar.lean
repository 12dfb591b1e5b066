import MergeBench.Number.Integer
import MergeBench.Text.Utf8
import MergeBench.Yaml.Cursor
import MergeBench.Yaml.Token

/-!
Scalars, tags, anchors and directives in a YAML text: each function reads one of them at the cursor
and gives it with the cursor behind it.
-/

namespace MergeBench.Yaml

def malformed {α : Type} : Except SyntaxError α :=
  .error .malformed

def isWordChar (c : Char) : Bool :=
  c.isAlphanum || c == '-' || c == '_'

def isHex (c : Char) : Bool :=
  ('0' ≤ c && c ≤ '9') || ('a' ≤ c && c ≤ 'f') || ('A' ≤ c && c ≤ 'F')

def hexValue (cs : List Char) : Nat :=
  Number.ofDigits 16 (cs.filterMap Number.letterDigit?)

/-! ### Quoted scalars -/

def escapeFor? (c : Char) : Option Char :=
  [('0', '\x00'), ('a', '\x07'), ('b', '\x08'), ('t', '\t'), ('\t', '\t'), ('n', '\n'),
    ('v', '\x0b'), ('f', '\x0c'), ('r', '\r'), ('e', '\x1b'), (' ', ' '), ('"', '"'),
    ('\\', '\\'), ('/', '/'), ('N', '\x85'), ('_', '\xa0'), ('L', '\u2028'), ('P', '\u2029')].lookup c

def escapeWidth? (c : Char) : Option Nat :=
  [('x', 2), ('u', 4), ('U', 8)].lookup c

def numberedPoint (n : Nat) : Except SyntaxError Text.CodePoint :=
  if n < 0x110000 then .ok (.ofNumber n) else .error (.noCharacter n)

/-- Line ends and blanks in front of the next line with text; a document separator is refused. -/
def quotedBreaks : Nat → Cursor → Except SyntaxError (List Char × Cursor)
  | 0, _ => malformed
  | fuel + 1, c =>
    if c.atSeparator then malformed
    else
      let c := c.skipWhile fun ch => ch == ' ' || ch == '\t'
      match c.lineBreak? with
      | (some ch, c) => do
        let (chars, c) ← quotedBreaks fuel c
        return (ch :: chars, c)
      | (none, c) => .ok ([], c)

/-- What a line end and the breaks after it stand for: a single line feed becomes a space. -/
def folded (first : Char) (breaks : List Char) : List Char :=
  if first != '\n' then first :: breaks
  else if breaks.isEmpty then [' '] else breaks

def quotedText (quote : Char) : Nat → Cursor → Except SyntaxError (List Text.CodePoint × Cursor)
  | 0, _ => malformed
  | fuel + 1, c => do
    let more (points : List Text.CodePoint) (c : Cursor) :
        Except SyntaxError (List Text.CodePoint × Cursor) := do
      let (rest, c) ← quotedText quote fuel c
      return (points ++ rest, c)
    let moreText (chars : List Char) (c : Cursor) :
        Except SyntaxError (List Text.CodePoint × Cursor) :=
      more (chars.map .char) c
    let ch := c.peek
    if ch == endMark then malformed
    else if ch == quote then
      if quote == '\'' && c.peekAt 1 == '\'' then moreText ['\''] (c.skip 2) else .ok ([], c.next)
    else if quote == '"' && ch == '\\' then
      let mark := c.peekAt 1
      match escapeFor? mark, escapeWidth? mark with
      | some e, _ => moreText [e] (c.skip 2)
      | none, some width =>
        let digits := (c.rest.drop 2).take width
        if digits.length < width || !digits.all isHex then malformed
        else more [← numberedPoint (hexValue digits)] (c.skip (width + 2))
      | none, none =>
        match c.next.lineBreak? with
        | (some _, c) =>
          let (breaks, c) ← quotedBreaks (c.rest.length + 1) c
          moreText breaks c
        | (none, _) => malformed
    else if ch == ' ' || ch == '\t' || isBreak ch then
      let gap := c.span fun ch => ch == ' ' || ch == '\t'
      let c := c.skip gap.length
      match c.lineBreak? with
      | (some first, c) =>
        let (breaks, c) ← quotedBreaks (c.rest.length + 1) c
        moreText (folded first breaks) c
      | (none, c) => moreText gap c
    else moreText [ch] c.next

def quotedScalar (c : Cursor) : Except SyntaxError (Token × Cursor) := do
  let (points, c) ← quotedText c.peek (c.rest.length + 1) c.next
  match Text.ofPoints? points with
  | some text => return (.scalar text false, c)
  | none => return (.brokenScalar points, c)

/-! ### Plain scalars -/

def endsPlain (flow : Bool) (ch next : Char) : Bool :=
  isGapOrEnd ch ||
    (ch == ':' && (isGapOrEnd next || (flow && [',', '[', ']', '\x7b', '\x7d'].contains next))) ||
    (flow && [',', '?', '[', ']', '\x7b', '\x7d'].contains ch)

def plainWord (flow : Bool) : List Char → List Char
  | [] => []
  | ch :: rest =>
    if endsPlain flow ch (rest.headD endMark) then [] else ch :: plainWord flow rest

/-- Line ends and spaces behind the first line end of a gap; nothing at a document separator. -/
def plainBreaks : Nat → Cursor → Option (List Char) × Cursor
  | 0, c => (some [], c)
  | fuel + 1, c =>
    if c.atSeparator then (none, c)
    else
      let c := c.skipSpaces
      match c.lineBreak? with
      | (some ch, c) =>
        let (chars, c) := plainBreaks fuel c
        (chars.map (ch :: ·), c)
      | (none, c) => (some [], c)

structure PlainGap where
  text : List Char
  broken : Bool
  cursor : Cursor

def plainGap (c : Cursor) : PlainGap :=
  let spaces := c.span (· == ' ')
  let c := c.skip spaces.length
  match c.lineBreak? with
  | (some first, c) =>
    let (breaks, c) := plainBreaks (c.rest.length + 1) c
    ⟨(breaks.map (folded first)).getD [], true, c⟩
  | (none, c) => ⟨spaces, false, c⟩

structure PlainScalar where
  text : List Char
  /-- The scalar ends with a line end, so that a key may follow. -/
  broken : Bool
  cursor : Cursor

/-- A plain scalar goes on over a gap unless a comment follows it or, in block style, a line that is
indented less than `least`. -/
def plainText (flow : Bool) (least : Int) : Nat → List Char → Bool → Cursor → PlainScalar
  | 0, _, broken, c => ⟨[], broken, c⟩
  | fuel + 1, gap, broken, c =>
    let word := if c.peek == '#' then [] else plainWord flow c.rest
    if word.isEmpty then ⟨[], broken, c⟩
    else
      let found := plainGap (c.skip word.length)
      if found.text.isEmpty || found.cursor.peek == '#' || (!flow && found.cursor.column < least) then
        ⟨gap ++ word, found.broken, found.cursor⟩
      else
        let rest := plainText flow least fuel found.text found.broken found.cursor
        ⟨gap ++ word ++ rest.text, rest.broken, rest.cursor⟩

def plainScalar (flow : Bool) (indent : Int) (c : Cursor) : PlainScalar :=
  plainText flow (indent + 1) (c.rest.length + 1) [] false c

/-! ### Block scalars -/

inductive Chomping where
  | clip
  | strip
  | keep
  deriving DecidableEq, Repr

def chompingMark? (c : Char) : Option Chomping :=
  [('+', .keep), ('-', .strip)].lookup c

def indentMark? (c : Char) : Option Nat :=
  if '0' ≤ c && c ≤ '9' then some (c.toNat - '0'.toNat) else none

def blockMarks (c : Cursor) : Except SyntaxError (Chomping × Option Nat × Cursor) := do
  let (chomping, indent, c) :=
    match chompingMark? c.peek, indentMark? c.peek with
    | some chomping, _ =>
      match indentMark? (c.peekAt 1) with
      | some n => (chomping, some n, c.skip 2)
      | none => (chomping, none, c.next)
    | none, some n =>
      match chompingMark? (c.peekAt 1) with
      | some chomping => (chomping, some n, c.skip 2)
      | none => (.clip, some n, c.next)
    | none, none => (.clip, none, c)
  if indent == some 0 || !isSpaceOrEnd c.peek then malformed
  else .ok (chomping, indent, c)

def ignoredLine (c : Cursor) : Except SyntaxError Cursor :=
  let c := c.skipSpaces.skipComment
  if isBreakOrEnd c.peek then .ok c.skipBreak else malformed

/-- Blank lines in front of a block scalar, and the largest column that their spaces reach. -/
def blockLead : Nat → Nat → Cursor → List Char × Nat × Cursor
  | 0, widest, c => ([], widest, c)
  | fuel + 1, widest, c =>
    let c := c.skipSpaces
    let widest := max widest c.column
    match c.lineBreak? with
    | (some ch, c) =>
      let (chars, widest, c) := blockLead fuel widest c
      (ch :: chars, widest, c)
    | (none, c) => ([], widest, c)

def skipIndent (indent : Int) (c : Cursor) : Cursor :=
  c.skip (min (c.span (· == ' ')).length (indent - c.column).toNat)

def blockBreaks (indent : Int) : Nat → Cursor → List Char × Cursor
  | 0, c => ([], c)
  | fuel + 1, c =>
    let c := skipIndent indent c
    match c.lineBreak? with
    | (some ch, c) =>
      let (chars, c) := blockBreaks indent fuel c
      (ch :: chars, c)
    | (none, c) => ([], c)

def isInset (c : Char) : Bool :=
  c == ' ' || c == '\t'

/-- The lines of a block scalar, the first of them after `breaks`. A line end between two lines that
are not inset becomes a space where the style folds. -/
def blockLines (fold : Bool) (chomping : Chomping) (indent : Int) :
    Nat → Option Char → List Char → Cursor → List Char × Cursor
  | 0, _, _, c => ([], c)
  | fuel + 1, lineEnd, breaks, c =>
    if c.column == indent && c.peek != endMark then
      let line := c.span fun ch => !isBreakOrEnd ch
      let inset := isInset c.peek
      let (ended, after) := (c.skip line.length).lineBreak?
      let (following, after) := blockBreaks indent (after.rest.length + 1) after
      let between :=
        if after.column == indent && after.peek != endMark then
          if fold && ended == some '\n' && !inset && !isInset after.peek then
            (if following.isEmpty then [' '] else [])
          else ended.toList
        else []
      let (rest, last) := blockLines fold chomping indent fuel ended following after
      (breaks ++ line ++ between ++ rest, last)
    else
      let tail :=
        match chomping with
        | .strip => []
        | .clip => lineEnd.toList
        | .keep => lineEnd.toList ++ breaks
      (tail, c)

def blockScalar (fold : Bool) (indent : Int) (c : Cursor) : Except SyntaxError (String × Cursor) := do
  let (chomping, mark, c) ← blockMarks c.next
  let c ← ignoredLine c
  let least := max 1 (indent + 1)
  let fuel := c.rest.length + 1
  let (breaks, indent, c) :=
    match mark with
    | none =>
      let (breaks, widest, c) := blockLead fuel 0 c
      (breaks, max least widest, c)
    | some n =>
      let indent := least + n - 1
      let (breaks, c) := blockBreaks indent fuel c
      (breaks, indent, c)
  let (chars, c) := blockLines fold chomping indent fuel none breaks c
  return (String.ofList chars, c)

/-! ### Names and directives -/

def anchorName (c : Cursor) : Except SyntaxError (String × Cursor) :=
  let c := c.next
  let name := c.span isWordChar
  let c := c.skip name.length
  let follows := isGapOrEnd c.peek || ['?', ':', ',', ']', '\x7d', '%', '@', '\x60'].contains c.peek
  if name.isEmpty || !follows then malformed else .ok (String.ofList name, c)

/-- One mark, or a word between two marks. -/
def tagHandle (c : Cursor) : Except SyntaxError (String × Cursor) :=
  if c.peek != '!' then malformed
  else if c.peekAt 1 == ' ' then .ok ("!", c.next)
  else
    let word := c.next.span isWordChar
    let after := c.next.skip word.length
    if after.peek == '!' then .ok (String.ofList ('!' :: word ++ ['!']), after.next) else malformed

def isUriChar (c : Char) : Bool :=
  c.isAlphanum || ['-', ';', '/', '?', ':', '@', '&', '=', '+', '$', ',', '_', '.', '!', '~', '*',
    '\'', '(', ')', '[', ']', '%'].contains c

def uriOctets : List Char → Except SyntaxError (Bytes × List Char)
  | '%' :: a :: b :: rest => do
    if isHex a && isHex b then
      let (octets, rest) ← uriOctets rest
      return (UInt8.ofNat (hexValue [a, b]) :: octets, rest)
    else malformed
  | '%' :: _ => malformed
  | cs => .ok ([], cs)

def uriText : Nat → List Char → Except SyntaxError (List Char)
  | 0, _ => malformed
  | _, [] => .ok []
  | fuel + 1, ch :: rest =>
    if ch == '%' then do
      let (octets, rest) ← uriOctets (ch :: rest)
      match Text.decodeFrom 0 octets with
      | .ok chars => return chars ++ (← uriText fuel rest)
      | .error _ => malformed
    else do return ch :: (← uriText fuel rest)

def tagUri (c : Cursor) : Except SyntaxError (String × Cursor) := do
  let written := c.span isUriChar
  if written.isEmpty then malformed
  else
    let chars ← uriText (written.length + 1) written
    return (String.ofList chars, c.skip written.length)

def tagName (c : Cursor) : Except SyntaxError (TagName × Cursor) := do
  let mark := c.peekAt 1
  let (name, c) ←
    if mark == '<' then do
      let (suffix, c) ← tagUri (c.skip 2)
      if c.peek == '>' then pure (TagName.mk none suffix, c.next) else malformed
    else if isGapOrEnd mark then pure (TagName.mk none "!", c.next)
    else do
      let word := c.next.span fun ch => !isSpaceOrEnd ch
      let (handle, c) ← if word.contains '!' then tagHandle c else pure ("!", c.next)
      let (suffix, c) ← tagUri c
      pure (TagName.mk (some handle) suffix, c)
  if isSpaceOrEnd c.peek then .ok (name, c) else malformed

def versionNumber (c : Cursor) : Except SyntaxError (Int × Cursor) := do
  let digits := c.span Char.isDigit
  if digits.isEmpty then malformed
  else
    let n ← (Number.readInteger 10 (String.ofList digits)).mapError SyntaxError.version
    return (n, c.skip digits.length)

def versionDirective (c : Cursor) : Except SyntaxError (Directive × Cursor) := do
  let (major, c) ← versionNumber c.skipSpaces
  if c.peek != '.' then malformed
  else
    let (_, c) ← versionNumber c.next
    if isSpaceOrEnd c.peek then .ok (.version major, c) else malformed

def tagDirective (c : Cursor) : Except SyntaxError (Directive × Cursor) := do
  let (handle, c) ← tagHandle c.skipSpaces
  if c.peek != ' ' then malformed
  else
    let (replacement, c) ← tagUri c.skipSpaces
    if isSpaceOrEnd c.peek then .ok (.tag handle replacement, c) else malformed

def directive (c : Cursor) : Except SyntaxError (Directive × Cursor) := do
  let name := c.next.span isWordChar
  let c := c.next.skip name.length
  if name.isEmpty || !isSpaceOrEnd c.peek then malformed
  else
    let (found, c) ←
      if name == "YAML".toList then versionDirective c
      else if name == "TAG".toList then tagDirective c
      else pure (Directive.other, c.skipWhile fun ch => !isBreakOrEnd ch)
    return (found, ← ignoredLine c)

end MergeBench.Yaml
