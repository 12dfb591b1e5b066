import MergeBench.Environment

/-!
Paths as they are written: a possible slash or two in front, then names. Empty names and `.` are
dropped, `..` is kept, since only the file system knows what it leads to.
-/

namespace MergeBench

inductive Anchor where
  | relative
  | root
  | doubleRoot
  deriving DecidableEq, Repr

def Anchor.text : Anchor → String
  | .relative => ""
  | .root => "/"
  | .doubleRoot => "//"

structure Path where
  anchor : Anchor
  names : List String
  deriving DecidableEq, Repr

namespace Path

def namesOf (s : String) : List String :=
  ((s.toList.splitOn '/').map String.ofList).filter fun name => name != "" && name != "."

/-- Exactly two slashes in front are kept as two, any other number counts as one. -/
def anchorOf : List Char → Anchor
  | '/' :: '/' :: '/' :: _ => .root
  | '/' :: '/' :: _ => .doubleRoot
  | '/' :: _ => .root
  | _ => .relative

def ofString (s : String) : Path :=
  ⟨anchorOf s.toList, namesOf s⟩

def text (p : Path) : String :=
  let body := "/".intercalate p.names
  if p.anchor == .relative && p.names.isEmpty then "." else p.anchor.text ++ body

def isAbsolute (p : Path) : Bool :=
  p.anchor != .relative

/-- An absolute path on the right replaces the left one. -/
def join (p q : Path) : Path :=
  if q.isAbsolute then q else ⟨p.anchor, p.names ++ q.names⟩

def parent (p : Path) : Path :=
  { p with names := p.names.dropLast }

theorem join_of_isAbsolute {p q : Path} (h : q.isAbsolute = true) : p.join q = q := by
  simp [join, h]

theorem isAbsolute_join {p : Path} (h : p.isAbsolute = true) (q : Path) :
    (p.join q).isAbsolute = true := by
  unfold join
  split
  · assumption
  · exact h

end Path

inductive HomeError where
  | unknown
  deriving DecidableEq, Repr

def HomeError.message : HomeError → String
  | .unknown => "Could not determine home directory."

/-- The home directory that `~` or `~account` stands for, slashes at its end dropped. -/
def Environment.home? (env : Environment) (account : String) : Option String :=
  let found :=
    if account == "" then
      match env.get? "HOME" with
      | some home => some home
      | none => env.homes.lookup env.account
    else env.homes.lookup account
  found.map fun home =>
    let trimmed := String.ofList (home.toList.reverse.dropWhile (· == '/')).reverse
    if trimmed == "" then "/" else trimmed

/-- A `~` or `~account` as the first name of a relative path is replaced by the home directory. -/
def Path.expandHome (env : Environment) (p : Path) : Except HomeError Path :=
  match p.names with
  | first :: rest =>
    match first.toList with
    | '~' :: account =>
      if p.isAbsolute then .ok p
      else
        match env.home? (String.ofList account) with
        | none => .error .unknown
        | some home =>
          if home.startsWith "~" then .error .unknown
          else
            let base := Path.ofString home
            .ok ⟨base.anchor, base.names ++ rest⟩
    | _ => .ok p
  | [] => .ok p

end MergeBench
