import MergeBench.FileSystem.Walk

/-!
Requests that read or change files and directories. Each says why it was refused or gives the file
system after it; a refused request changes nothing.
-/

namespace MergeBench.FileSystem

def readFile (fs : FileSystem) (here : Location) (path : String) : Except SystemError Bytes := do
  match (← fs.find true here path).entry with
  | none => .error .noEntry
  | some (.file content _) => .ok content
  | some _ => .error .isDirectory

/-- Opens a file for writing: it is created or emptied. Gives its location. -/
def openFile (fs : FileSystem) (here : Location) (path : String) :
    Except SystemError (Location × FileSystem) := do
  let spot ← fs.find true here path
  match spot.entry with
  | none => .ok (spot.location, fs.put spot.location (.file [] false))
  | some (.file _ executable) => .ok (spot.location, fs.put spot.location (.file [] executable))
  | some _ => .error .isDirectory

def createFile (fs : FileSystem) (here : Location) (path : String) :
    Except SystemError (Location × FileSystem) := do
  let spot ← fs.find false here path
  match spot.entry with
  | none => .ok (spot.location, fs.put spot.location (.file [] false))
  | some _ => .error .entryExists

def openFileEnd (fs : FileSystem) (here : Location) (path : String) :
    Except SystemError (Location × FileSystem) := do
  let spot ← fs.find true here path
  match spot.entry with
  | none => .ok (spot.location, fs.put spot.location (.file [] false))
  | some (.file ..) => .ok (spot.location, fs)
  | some _ => .error .isDirectory

/-- Writes over the front of an open file. A file that is gone takes no more octets. -/
def overwrite (fs : FileSystem) (l : Location) (content : Bytes) : FileSystem :=
  match fs.get? l with
  | some (.file old executable) => fs.put l (.file (content ++ old.drop content.length) executable)
  | _ => fs

def append (fs : FileSystem) (l : Location) (content : Bytes) : FileSystem :=
  match fs.get? l with
  | some (.file old executable) => fs.put l (.file (old ++ content) executable)
  | _ => fs

def makeDirectory (fs : FileSystem) (here : Location) (path : String) :
    Except SystemError FileSystem := do
  let spot ← fs.find false here path
  match spot.entry with
  | none => .ok (fs.put spot.location .directory)
  | some _ => .error .entryExists

def unlink (fs : FileSystem) (here : Location) (path : String) : Except SystemError FileSystem := do
  let spot ← fs.find false here path
  match spot.entry with
  | none => .error .noEntry
  | some .directory => .error .isDirectory
  | some _ => .ok (fs.remove spot.location)

/-- The last name of a path is that of an entry, not `.`, `..` or the root. -/
def endsInName (path : String) : Bool :=
  match (walkNames path).getLast? with
  | some name => name != "." && name != ".."
  | none => false

/-- Moves a file or link to another path and replaces what was there unless it is a directory. -/
def rename (fs : FileSystem) (here : Location) (source target : String) :
    Except SystemError FileSystem := do
  if !endsInName source || !endsInName target then .error .busy
  else
    let old ← fs.find false here source
    let new ← fs.find false here target
    match old.entry, new.entry with
    | none, _ => .error .noEntry
    | some .directory, _ => .error .invalid
    | some _, some .directory => .error .isDirectory
    | some entry, _ =>
      if old.location == new.location then .ok fs
      else .ok ((fs.put new.location entry).remove old.location)

end MergeBench.FileSystem
