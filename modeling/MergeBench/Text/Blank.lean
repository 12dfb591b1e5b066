/-!
Blank characters. Two classes are in use: every character that Unicode counts as white space,
and the six of them in ASCII that separate words in plain program text.
-/

namespace MergeBench.Text

/-- Unicode white space, with the four information separators U+001C to U+001F. -/
def isBlank (c : Char) : Bool :=
  let n := c.toNat
  (9 ≤ n && n ≤ 13) || (28 ≤ n && n ≤ 32) || n == 0x85 || n == 0xA0 || n == 0x1680 ||
    (0x2000 ≤ n && n ≤ 0x200A) || n == 0x2028 || n == 0x2029 || n == 0x202F || n == 0x205F ||
    n == 0x3000

def isAsciiBlank (c : Char) : Bool :=
  (9 ≤ c.toNat && c.toNat ≤ 13) || c == ' '

def dropBlank (cs : List Char) : List Char :=
  cs.dropWhile isBlank

def dropBlankEnd (cs : List Char) : List Char :=
  (cs.reverse.dropWhile isBlank).reverse

def strip (s : String) : String :=
  String.ofList (dropBlankEnd (dropBlank s.toList))

def isAllBlank (s : String) : Bool :=
  s.toList.all isBlank

end MergeBench.Text
