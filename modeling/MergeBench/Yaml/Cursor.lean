/-!
A place in a text that is read line by line. The column counts characters of the line, byte order
marks left out, and the index those of the whole text.
-/

namespace MergeBench.Yaml

structure Cursor where
  rest : List Char
  line : Nat
  column : Nat
  index : Nat
  deriving DecidableEq, Repr

/-- Stands for the end of the text, which has no such character. -/
def endMark : Char := '\x00'

def byteOrderMark : Char := '\ufeff'

def isBreak (c : Char) : Bool :=
  c == '\n' || c == '\r' || c == '\x85' || c == '\u2028' || c == '\u2029'

def isBreakOrEnd (c : Char) : Bool :=
  c == endMark || isBreak c

def isSpaceOrEnd (c : Char) : Bool :=
  c == ' ' || isBreakOrEnd c

def isGapOrEnd (c : Char) : Bool :=
  c == '\t' || isSpaceOrEnd c

namespace Cursor

def start (text : List Char) : Cursor :=
  ⟨text, 0, 0, 0⟩

def peek (c : Cursor) : Char :=
  c.rest.headD endMark

def peekAt (c : Cursor) (n : Nat) : Char :=
  (c.rest.drop n).headD endMark

/-- One character on. A carriage return before a line feed does not end the line. -/
def next (c : Cursor) : Cursor :=
  match c.rest with
  | [] => c
  | ch :: rest =>
    if isBreak ch && !(ch == '\r' && rest.head? == some '\n') then ⟨rest, c.line + 1, 0, c.index + 1⟩
    else if ch == byteOrderMark then ⟨rest, c.line, c.column, c.index + 1⟩
    else ⟨rest, c.line, c.column + 1, c.index + 1⟩

def skip : Nat → Cursor → Cursor
  | 0, c => c
  | n + 1, c => skip n c.next

def span (p : Char → Bool) (c : Cursor) : List Char :=
  c.rest.takeWhile p

def skipWhile (p : Char → Bool) (c : Cursor) : Cursor :=
  c.skip (c.span p).length

def skipSpaces (c : Cursor) : Cursor :=
  c.skipWhile (· == ' ')

def skipComment (c : Cursor) : Cursor :=
  if c.peek == '#' then c.skipWhile fun ch => !isBreakOrEnd ch else c

def lineBreak? (c : Cursor) : Option Char × Cursor :=
  match c.rest with
  | '\r' :: '\n' :: _ => (some '\n', c.skip 2)
  | ch :: _ =>
    if ch == '\u2028' || ch == '\u2029' then (some ch, c.next)
    else if isBreak ch then (some '\n', c.next)
    else (none, c)
  | [] => (none, c)

def skipBreak (c : Cursor) : Cursor :=
  c.lineBreak?.2

/-- Three dashes or dots with a gap after them. -/
def atSeparator (c : Cursor) : Bool :=
  let mark := c.rest.take 3
  (mark == ['-', '-', '-'] || mark == ['.', '.', '.']) && isGapOrEnd (c.peekAt 3)

end Cursor

end MergeBench.Yaml
