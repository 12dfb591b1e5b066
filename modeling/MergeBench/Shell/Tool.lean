import MergeBench.Shell.Condition
import MergeBench.Shell.Search

namespace MergeBench.Shell

def isBareInMessage (c : Char) : Bool :=
  (c.isAlphanum || 128 ≤ c.toNat ||
    ['_', '.', '/', '%', '+', ',', '@', '-', ']', '\x7b', '\x7d'].contains c) && Text.isPrintable c

def isSameInQuotes (c : Char) : Bool :=
  c.isAlphanum || "%+,-./:]_@\x7b\x7d '".toList.contains c || (128 ≤ c.toNat && Text.isPrintable c)

/-- The inside of a text in single quotes, where what cannot be shown stands in quotes of another kind. -/
def quotedInside : Bool → List Char → List Char
  | escaping, [] => if escaping then ['\''] else []
  | escaping, c :: rest =>
    if c == '\'' then
      (if escaping then ['\'', '\\', '\'', '\''] else ['\'', '\\', '\'', '\'']) ++ quotedInside false rest
    else if Text.isPrintable c then
      (if escaping then ['\'', '\''] else []) ++ c :: quotedInside false rest
    else (if escaping then [] else ['\'', '$', '\'']) ++ shownChar c ++ quotedInside true rest

def alwaysQuoted (s : String) : String :=
  let cs := s.toList
  if cs.contains '\'' && cs.all isSameInQuotes then "\"" ++ s ++ "\""
  else
    let inside := quotedInside false cs
    let ending := (cs.getLast?.map Text.isPrintable).getD true
    String.ofList ('\'' :: if ending then inside ++ ['\''] else inside)

def shownName (s : String) : String :=
  let cs := s.toList
  let isLone := cs == ['\x7b'] || cs == ['\x7d']
  if !cs.isEmpty && !isLone && (cs.zipIdx.all fun (c, n) =>
      isBareInMessage c || (0 < n && (c == '#' || c == '~'))) then s
  else alwaysQuoted s

/-! ### Files as they are -/

structure LineStyle where
  numbered : Bool
  filledOnly : Bool
  squeezed : Bool
  ends : Bool
  tabs : Bool
  visible : Bool

/-- Where a file leaves off: the number of the last line, whether a line has begun, and how many empty
lines stand before this place. -/
structure LinePlace where
  number : Nat := 0
  inLine : Bool := false
  empties : Nat := 0

def visibleOctet (b : UInt8) : Bytes :=
  let half (b : UInt8) : Bytes := if b < 32 then [94, b + 64] else if b == 127 then [94, 63] else [b]
  if b < 128 then half b else [77, 45] ++ half (b - 128)

def numberMark (n : Nat) : Bytes :=
  let number := Number.naturalText n
  List.replicate (6 - number.length) 32 ++ Text.encode (number ++ "\t")

def showLines (style : LineStyle) : LinePlace → Bytes → List Bytes → List Bytes × LinePlace
  | place, [], shown => (shown.reverse, place)
  | place, b :: rest, shown =>
    let isEmptyLine := b == 10 && !place.inLine
    if isEmptyLine && style.squeezed && 0 < place.empties then showLines style place rest shown
    else
      let isMarked :=
        !place.inLine && if style.filledOnly then b != 10 else style.numbered
      let number := if isMarked then place.number + 1 else place.number
      let mark := if isMarked then numberMark number else []
      let body : Bytes :=
        if b == 10 then (if style.ends then [36, 10] else [10])
        else if b == 9 then (if style.tabs then [94, 73] else [9])
        else if style.visible || (style.ends && b == 13 && rest.head? == some 10) then visibleOctet b
        else [b]
      let next : LinePlace := ⟨number, b != 10, if isEmptyLine then place.empties + 1 else 0⟩
      showLines style next rest ((mark ++ body) :: shown)

def catOptions : OptionTable where
  letters := "AbeEnstTuv".toList
  words := [("show-all", 'A'), ("number-nonblank", 'b'), ("show-ends", 'E'), ("number", 'n'),
    ("squeeze-blank", 's'), ("show-tabs", 'T'), ("show-nonprinting", 'v')]

def cat (own : String) (arguments : List String) : Session Nat :=
  withOptions own catOptions arguments fun o => do
    let hasAny (letters : List Char) : Bool := letters.any o.has
    let style : LineStyle :=
      ⟨o.has 'n', o.has 'b', o.has 's', hasAny ['A', 'e', 'E'], hasAny ['A', 't', 'T'],
        hasAny ['A', 'e', 't', 'v']⟩
    let isPlain := o.found.all (·.1 == 'u')
    let mut status := 0
    let mut place : LinePlace := {}
    for name in (if o.names.isEmpty then ["-"] else o.names) do
      match ← readNamed name with
      | .ok bytes =>
        if isPlain then out bytes
        else
          let (shown, next) := showLines style place bytes []
          out shown.flatten
          place := next
      | .error e =>
        errorText s!"{own}: {shownName name}: {e.text}\n"
        status := 1
    return status

/-! ### Removing -/

/-- The last name of a path is one of the two that every directory has. -/
def isDots (path : String) : Bool :=
  let names := ((path.toList.splitOn '/').map String.ofList).filter (· != "")
  names.getLast? == some "." || names.getLast? == some ".."

def removeOptions : OptionTable where
  letters := "dfIrRv".toList
  words := [("force", 'f'), ("recursive", 'r'), ("dir", 'd'), ("verbose", 'v'), ("no-preserve-root", 'N'),
    ("preserve-root", 'P'), ("one-file-system", 'O')]

/-- Takes away an entry and all below it, and tells of it if that is asked for. -/
def removeTree (o : Options) : Nat → Location → String → Session Unit
  | 0, _, _ => pure ()
  | fuel + 1, l, path => do
    let s ← get
    let isDirectory := s.files.hasDirectory l
    if isDirectory then
      for child in s.files.children l do
        removeTree o fuel child (path ++ "/" ++ child.getLast?.getD "")
    modify fun s => { s with files := s.files.remove l }
    if o.has 'v' then
      outText ((if isDirectory then "removed directory " else "removed ") ++ alwaysQuoted path ++ "\n")

def removeOne (own : String) (o : Options) (path : String) : Session Nat := do
  let s ← get
  let (force, recursive) := (o.has 'f', o.has 'r' || o.has 'R')
  let refused (text : String) : Session Nat := do
    errorText s!"{own}: cannot remove {alwaysQuoted path}: {text}\n"
    return 1
  let taken (l : Location) : Session Nat := do
    let slashes := (path.toList.reverse.takeWhile (· == '/')).length
    removeTree o ((← get).files.entries.length + 1) l (path.dropEnd slashes).toString
    return 0
  if (recursive || o.has 'd') && isDots path then
    errorText s!"{own}: refusing to remove '.' or '..' directory: skipping {alwaysQuoted path}\n"
    return 1
  else match s.files.find false s.directory path with
  | .error .noEntry | .ok ⟨_, none⟩ => if force then return 0 else refused SystemError.noEntry.text
  | .error e => if force && e == .notDirectory then return 0 else refused e.text
  | .ok ⟨[], _⟩ =>
    errorText s!"{own}: it is dangerous to operate recursively on {alwaysQuoted path}\n"
    errorText s!"{own}: use --no-preserve-root to override this failsafe\n"
    return 1
  | .ok ⟨l, some .directory⟩ =>
    if recursive then taken l
    else if !o.has 'd' then refused SystemError.isDirectory.text
    else if (s.files.children l).isEmpty then taken l
    else refused SystemError.notEmpty.text
  | .ok ⟨l, some _⟩ => taken l

def remove (own : String) (arguments : List String) : Session Nat :=
  withOptions own removeOptions arguments fun o => do
    if o.names.isEmpty && !o.has 'f' then
      errorText (s!"{own}: missing operand\n" ++ tryHelp own)
      return 1
    let mut status := 0
    for name in o.names do
      if (← removeOne own o name) != 0 then status := 1
    return status

/-! ### Others -/

/-- Seconds with a fraction, a power of ten and a unit, in microseconds. -/
def sleepTime? (s : String) : Option Nat :=
  let cs := s.toList
  let (digits, unit) :=
    match cs.getLast? with
    | some 's' => (cs.dropLast, 1)
    | some 'm' => (cs.dropLast, 60)
    | some 'h' => (cs.dropLast, 3600)
    | some 'd' => (cs.dropLast, 86400)
    | _ => (cs, 1)
  let mantissa := digits.takeWhile fun c => c.isDigit || c == '.'
  let whole := mantissa.takeWhile Char.isDigit
  let fraction := mantissa.drop (whole.length + 1)
  let power : Option Int :=
    match digits.drop mantissa.length with
    | [] => some 0
    | e :: exponent =>
      let (negative, exponent) := Number.takeSign exponent
      if (e == 'e' || e == 'E') && !exponent.isEmpty && exponent.all Char.isDigit then
        some (if negative then -(naturalOf exponent : Int) else naturalOf exponent)
      else none
  power.bind fun power =>
    if (whole ++ fraction).isEmpty || !fraction.all Char.isDigit then none
    else
      let shift := power + 6 - (fraction.length : Nat)
      let amount := naturalOf (whole ++ fraction) * unit
      let scale := Nat.pow 10 (min shift.natAbs 400)
      some (if shift < 0 then amount / scale else amount * scale)

def sleep (own : String) (arguments : List String) : Session Nat :=
  withOptions own ⟨[], [], []⟩ arguments fun o => do
    if o.names.isEmpty then
      errorText (s!"{own}: missing operand\n" ++ tryHelp own)
      return 1
    match o.names.mapM sleepTime? with
    | some times =>
      wait (times.foldl (· + ·) 0)
      return 0
    | none =>
      for name in o.names do
        if (sleepTime? name).isNone then errorText s!"{own}: invalid time interval {curlyQuoted name}\n"
      errorText (tryHelp own)
      return 1

def physicalDirectory : Session Nat := do
  outText ((← get).directory.text ++ "\n")
  return 0

/-- The tool `pwd` looks at the links only if it is asked to. -/
def pwdTool (own : String) (arguments : List String) : Session Nat :=
  withOptions own ⟨['P', 'L'], [], [("logical", 'L'), ("physical", 'P')]⟩ arguments fun o => do
    if !o.names.isEmpty then errorText s!"{own}: ignoring non-option arguments\n"
    if o.last? ['L', 'P'] == some 'L' then
      outText ((← get).shown ++ "\n")
      return 0
    else
      let s ← get
      if s.files.hasDirectory s.directory then physicalDirectory
      else
        let above := curlyQuoted ".."
        errorText s!"{own}: couldn't find directory entry in {above} with matching i-node\n"
        return 1

/-- Tools that start no others, by the name they are started with. -/
def plainTool? (tool own : String) : Option (List String → Session Nat) :=
  let complaint (text : String) : Session Unit := errorText s!"{own}: {text}\n"
  match tool with
  | "true" => some fun _ => return 0
  | "false" => some fun _ => return 1
  | "echo" => some echoTool
  | "printf" => some (printf (some own) complaint)
  | "cat" => some (cat own)
  | "rm" => some (remove own)
  | "grep" => some (Search.run own)
  | "sleep" => some (sleep own)
  | "pwd" => some (pwdTool own)
  | "test" => some (testStatus complaint)
  | "[" => some fun arguments => do
    if arguments.getLast? == some "]" then testStatus complaint arguments.dropLast
    else
      complaint ("missing " ++ curlyQuoted "]")
      return 2
  | _ => none

end MergeBench.Shell
