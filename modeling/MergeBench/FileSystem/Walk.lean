import MergeBench.FileSystem.Basic

/-!
Walking a path: links are followed, at most forty of them, and `..` leads to the directory above.
`find` gives the location that a path leads to and the entry there, if there is one; `realLocation`
resolves as much of a path as exists and keeps the rest of it.
-/

namespace MergeBench.FileSystem

/-- Where a path leads: an entry, or a free name in an existing directory. -/
structure Spot where
  location : Location
  entry : Option Entry
  deriving DecidableEq, Repr

def nameLimit : Nat := 255

def pathLimit : Nat := 4095

def linkLimit : Nat := 40

/-- The names of a path as the system reads it. A slash at the end asks for a directory. -/
def walkNames (path : String) : List String :=
  let names := (path.toList.splitOn '/').map String.ofList
  let inner := names.filter (· != "")
  if names.getLast? == some "" && !inner.isEmpty then inner ++ ["."] else inner

def startOf (here : Location) (path : String) : Location :=
  if path.toList.head? == some '/' then [] else here

/-- The root is always there; any other directory may have been removed by now. -/
def hasDirectory (fs : FileSystem) (l : Location) : Bool :=
  l == [] || fs.get? l == some .directory

/-- One walk between two links; `onLink` goes on with the names that a link stands for. -/
def walkStep (fs : FileSystem) (follow : Bool)
    (onLink : Location → List String → Except SystemError Spot) :
    Location → List String → Except SystemError Spot
  | here, [] => .ok ⟨here, some .directory⟩
  | here, name :: rest =>
    if name == "." then fs.walkStep follow onLink here rest
    else if name == ".." then fs.walkStep follow onLink here.dropLast rest
    else if nameLimit < name.utf8ByteSize then .error .nameTooLong
    else
      let there := here ++ [name]
      match fs.get? there with
      | none => if rest.isEmpty && fs.hasDirectory here then .ok ⟨there, none⟩ else .error .noEntry
      | some .directory => fs.walkStep follow onLink there rest
      | some (.file content executable) =>
        if rest.isEmpty then .ok ⟨there, some (.file content executable)⟩
        else .error .notDirectory
      | some (.link target) =>
        if rest.isEmpty && !follow then .ok ⟨there, some (.link target)⟩
        else onLink (startOf here target) (walkNames target ++ rest)

def walk (fs : FileSystem) (follow : Bool) : Nat → Location → List String → Except SystemError Spot
  | 0 => fs.walkStep follow fun _ _ => .error .tooManyLinks
  | links + 1 => fs.walkStep follow (fs.walk follow links)

/-- `follow` says whether a link at the very end of the path is followed. -/
def find (fs : FileSystem) (follow : Bool) (here : Location) (path : String) :
    Except SystemError Spot :=
  if path == "" then .error .noEntry
  else if pathLimit < path.utf8ByteSize then .error .nameTooLong
  else fs.walk follow linkLimit (startOf here path) (walkNames path)

/-- What is at the end of a path, links followed; nothing, if the way there is broken. -/
def entryAt (fs : FileSystem) (here : Location) (path : String) :
    Except SystemError (Option Entry) :=
  match fs.find true here path with
  | .ok spot => .ok spot.entry
  | .error .noEntry | .error .notDirectory | .error .tooManyLinks => .ok none
  | .error e => .error e

/-- Where resolving ended, and whether it did so without meeting a link inside itself. -/
structure Resolved where
  location : Location
  complete : Bool
  deriving DecidableEq, Repr

/-- `pending` are the links that are being resolved. -/
def resolveStep (fs : FileSystem)
    (onLink : List Location → Location → List String → Resolved) (pending : List Location) :
    Location → List String → Resolved
  | here, [] => ⟨here, true⟩
  | here, name :: rest =>
    if name == "." then fs.resolveStep onLink pending here rest
    else if name == ".." then fs.resolveStep onLink pending here.dropLast rest
    else
      let there := here ++ [name]
      match fs.get? there with
      | some (.link target) =>
        if pending.contains there then ⟨there.steps (rest.filter (· != ".")), false⟩
        else
          let reached := onLink (there :: pending) (startOf here target) (walkNames target)
          if reached.complete then fs.resolveStep onLink pending reached.location rest
          else ⟨reached.location.steps (rest.filter (· != ".")), false⟩
      | _ => fs.resolveStep onLink pending there rest

/-- No more links can be pending at once than there are entries. -/
def resolve (fs : FileSystem) : Nat → List Location → Location → List String → Resolved
  | 0, _, here, names => ⟨here.steps names, false⟩
  | depth + 1, pending, here, names =>
    fs.resolveStep (fs.resolve depth) pending here names

def realLocation (fs : FileSystem) (here : Location) (path : String) : Location :=
  (fs.resolve (fs.entries.length + 1) [] (startOf here path) (walkNames path)).location

end MergeBench.FileSystem
