import MergeBench.Path
import MergeBench.Text.Quoted
import MergeBench.Text.Utf8

/-!
A file system as a finite table from locations to entries. A location names an entry from the root
directory down, with no links on the way; a path is walked to find the location it leads to.

`get?_put` and `get?_remove` say what each change does to the table.
-/

namespace MergeBench

inductive SystemError where
  | notPermitted
  | noEntry
  | argumentsTooLong
  | execFormat
  | accessDenied
  | busy
  | entryExists
  | notDirectory
  | isDirectory
  | invalid
  | nameTooLong
  | notEmpty
  | tooManyLinks
  /-- None of those above. -/
  | other (number : Nat) (text : String) (h : number ∉ [1, 2, 7, 8, 13, 16, 17, 20, 21, 22, 36, 39, 40])
  deriving DecidableEq, Repr

namespace SystemError

def number : SystemError → Nat
  | notPermitted => 1
  | noEntry => 2
  | argumentsTooLong => 7
  | execFormat => 8
  | accessDenied => 13
  | busy => 16
  | entryExists => 17
  | notDirectory => 20
  | isDirectory => 21
  | invalid => 22
  | nameTooLong => 36
  | notEmpty => 39
  | tooManyLinks => 40
  | other number .. => number

def text : SystemError → String
  | notPermitted => "Operation not permitted"
  | noEntry => "No such file or directory"
  | argumentsTooLong => "Argument list too long"
  | execFormat => "Exec format error"
  | accessDenied => "Permission denied"
  | busy => "Device or resource busy"
  | entryExists => "File exists"
  | notDirectory => "Not a directory"
  | isDirectory => "Is a directory"
  | invalid => "Invalid argument"
  | nameTooLong => "File name too long"
  | notEmpty => "Directory not empty"
  | tooManyLinks => "Too many levels of symbolic links"
  | other _ text _ => text

end SystemError

/-- A refused request with the path it was about, and a second one where two are involved. -/
structure FileError where
  cause : SystemError
  path : Option String
  target : Option String := none
  deriving DecidableEq, Repr

def FileError.message (e : FileError) : String :=
  let base := s!"[Errno {e.cause.number}] {e.cause.text}"
  match e.path, e.target with
  | some path, some target => s!"{base}: {Text.quoted path} -> {Text.quoted target}"
  | some path, none => s!"{base}: {Text.quoted path}"
  | none, _ => base

abbrev Location := List String

namespace Location

def text (l : Location) : String :=
  "/" ++ "/".intercalate l

def path (l : Location) : Path :=
  ⟨.root, l⟩

/-- One name further; `..` leads back up and stops at the root. -/
def step (l : Location) (name : String) : Location :=
  if name == ".." then l.dropLast else l ++ [name]

def steps (l : Location) (names : List String) : Location :=
  names.foldl step l

end Location

inductive Entry where
  | directory
  | file (content : Bytes) (executable : Bool)
  | link (target : String)
  deriving DecidableEq, Repr

structure FileSystem where
  entries : List (Location × Entry)
  deriving DecidableEq, Repr

namespace FileSystem

def putIn : List (Location × Entry) → Location → Entry → List (Location × Entry)
  | [], l, e => [(l, e)]
  | (m, d) :: rest, l, e => if l == m then (m, e) :: rest else (m, d) :: putIn rest l e

/-- The root is always a directory. -/
def get? (fs : FileSystem) (l : Location) : Option Entry :=
  if l = [] then some .directory else fs.entries.lookup l

def put (fs : FileSystem) (l : Location) (e : Entry) : FileSystem :=
  ⟨putIn fs.entries l e⟩

def remove (fs : FileSystem) (l : Location) : FileSystem :=
  ⟨fs.entries.filter fun entry => entry.1 != l⟩

def children (fs : FileSystem) (l : Location) : List Location :=
  (fs.entries.map Prod.fst).filter fun m => m.dropLast == l && m != []

theorem lookup_putIn (entries : List (Location × Entry)) (l m : Location) (e : Entry) :
    (putIn entries l e).lookup m = if m = l then some e else entries.lookup m := by
  induction entries with
  | nil => by_cases h : m = l <;> simp [putIn, List.lookup_cons, h, beq_false_of_ne]
  | cons entry rest ih =>
    obtain ⟨k, d⟩ := entry
    by_cases hk : l = k
    · subst hk
      by_cases h : m = l <;> simp [putIn, List.lookup_cons, h, beq_false_of_ne]
    · by_cases h : m = k
      · subst h
        have h' : ¬m = l := fun eq => hk eq.symm
        simp [putIn, hk, h']
      · simp [putIn, List.lookup_cons, hk, ih, beq_false_of_ne h]

theorem get?_put (fs : FileSystem) {l : Location} (hl : l ≠ []) (m : Location) (e : Entry) :
    (fs.put l e).get? m = if m = l then some e else fs.get? m := by
  by_cases hm : m = []
  · subst hm
    simp [get?, Ne.symm hl]
  · simp [get?, put, hm, lookup_putIn]

theorem lookup_filter (entries : List (Location × Entry)) (keep : Location → Bool) (m : Location) :
    (entries.filter fun entry => keep entry.1).lookup m =
      if keep m then entries.lookup m else none := by
  induction entries with
  | nil => simp
  | cons entry rest ih =>
    obtain ⟨k, d⟩ := entry
    by_cases h : m = k
    · subst h
      by_cases hm : keep m = true <;> simp [List.filter, hm, ih]
    · by_cases hk : keep k = true <;>
        simp [List.filter, List.lookup_cons, hk, ih, beq_false_of_ne h]

theorem get?_remove (fs : FileSystem) (l m : Location) :
    (fs.remove l).get? m = if m ≠ [] ∧ m = l then none else fs.get? m := by
  by_cases hm : m = []
  · simp [get?, hm]
  · by_cases h : m = l
    · subst h
      simp [get?, remove, hm, lookup_filter fs.entries (fun k => k != m) m]
    · simp [get?, remove, hm, h, lookup_filter fs.entries (fun k => k != l) m]

end FileSystem

end MergeBench
