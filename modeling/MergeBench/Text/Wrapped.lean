/-!
Text in lines of a limited width. A line is filled as far as it goes; it ends between words, behind
a hyphen inside a word, or inside a word that is longer than a line.
-/

namespace MergeBench.Text

/-- A word in parts: a line may end behind a hyphen that has two letters on each side. -/
def hyphenParts : List Char → List Char → List (List Char)
  | part, [] => if part.isEmpty then [] else [part]
  | part, '-' :: c :: d :: rest =>
    match part.reverse with
    | b :: a :: _ =>
      if a.isAlpha && b.isAlpha && c.isAlpha && d.isAlpha then
        (part ++ ['-']) :: hyphenParts [] (c :: d :: rest)
      else hyphenParts (part ++ ['-']) (c :: d :: rest)
    | _ => hyphenParts (part ++ ['-']) (c :: d :: rest)
  | part, c :: rest => hyphenParts (part ++ [c]) rest

def wrapParts (text : String) : List (List Char) :=
  ((text.toList.splitOn ' ').map (hyphenParts [])).intersperse [[' ']] |>.flatten

def isBlankPart (part : List Char) : Bool :=
  part.all (· == ' ')

def takeFitting : Nat → List (List Char) → List (List Char) × List (List Char)
  | _, [] => ([], [])
  | room, part :: rest =>
    if part.length ≤ room then
      let (line, later) := takeFitting (room - part.length) rest
      (part :: line, later)
    else ([], part :: rest)

/-- Where a part that is longer than a line is cut: behind its last hyphen that still fits, unless
only hyphens stand before it. -/
def cutOf (room : Nat) (part : List Char) : Nat :=
  let fitting := part.take room
  let behind := (fitting.reverse.takeWhile (· != '-')).length
  let hyphen := fitting.length - behind - 1
  if behind < fitting.length && (fitting.take hyphen).any (· != '-') then hyphen + 1 else room

/-- Lines of parts; blanks at the start of a line, other than the first, and at its end go. -/
def wrapFrom (width : Nat) : Nat → Bool → List (List Char) → List (List Char)
  | 0, _, _ | _, _, [] => []
  | fuel + 1, isFirst, part :: rest =>
    let parts := if isBlankPart part && !isFirst then rest else part :: rest
    let (line, later) := takeFitting width parts
    let (line, later) :=
      match later with
      | long :: more =>
        if width < long.length then
          let cut := cutOf (width - line.flatten.length) long
          (line ++ [long.take cut], long.drop cut :: more)
        else (line, later)
      | [] => (line, later)
    let line := if (line.getLast?.map isBlankPart).getD false then line.dropLast else line
    if line.isEmpty then wrapFrom width fuel isFirst later
    else line.flatten :: wrapFrom width fuel false later

def wrapped (width : Nat) (text : String) : List String :=
  (wrapFrom width (2 * text.length + 2) true (wrapParts text)).map String.ofList

end MergeBench.Text
