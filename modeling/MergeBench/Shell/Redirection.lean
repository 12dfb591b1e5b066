import MergeBench.Shell.State

namespace MergeBench.Shell

def openText (creating : Bool) (e : SystemError) : String :=
  match e with
  | .noEntry | .notDirectory => if creating then "Directory nonexistent" else "No such file"
  | e => e.text

/-- Paths of what is written to already, by their descriptors. -/
def standardStreams : List (String × Nat) :=
  [("/dev/stdout", 1), ("/dev/stderr", 2), ("/dev/fd/1", 1), ("/dev/fd/2", 2)]

/-- Opens what a redirection names; the error is what the shell says. -/
def redirect (descriptor : Nat) (kind : RedirectionKind) (target : String) :
    Session (Except String Unit) := do
  let s ← get
  let openTo (r : Except SystemError (Location × FileSystem)) : Session (Except String Unit) :=
    match r with
    | .ok (l, files) => do
      set (({ s with files := files } : State).setSink descriptor (.file l))
      return .ok ()
    | .error e => return .error s!"cannot create {target}: {openText true e}"
  let isFile :=
    match s.files.find true s.directory target with
    | .ok ⟨_, some (.file ..)⟩ => true
    | _ => false
  match kind with
  | .write | .overwrite | .append =>
    if target == nullDevice then
      set (s.setSink descriptor .nowhere)
      return .ok ()
    else if let some sink := (standardStreams.lookup target).bind fun n => s.sinks.lookup n then
      set (s.setSink descriptor sink)
      return .ok ()
    else if kind == .write && s.isOn 'C' && isFile then
      return .error s!"cannot create {target}: {SystemError.entryExists.text}"
    else if kind == .append then openTo (s.files.openFileEnd s.directory target)
    else openTo (s.files.openFile s.directory target)
  | .text =>
    set { s with input := Text.encode target }
    return .ok ()
  | .read =>
    if target == nullDevice then
      set { s with input := [] }
      return .ok ()
    else if target == inputDevice then return .ok ()
    else
      match s.files.readFile s.directory target with
      | .ok bytes =>
        set { s with input := bytes }
        return .ok ()
      | .error .isDirectory =>
        set { s with input := [] }
        return .ok ()
      | .error e => return .error s!"cannot open {target}: {openText false e}"
  | .duplicate =>
    if target == "-" then
      set (s.withoutSink descriptor)
      return .ok ()
    else
      match target.toList with
      | [digit] =>
        if digit.isDigit then
          match s.sinks.lookup (numeralOf target) with
          | some sink =>
            set (s.setSink descriptor sink)
            return .ok ()
          | none => return .error s!"{target}: Bad file descriptor"
        else badDescriptor
      | _ => badDescriptor
where
  numeralOf (text : String) : Nat := (text.toNat?).getD 0
  badDescriptor : Session (Except String Unit) := do
    complain "Syntax error: Bad fd number"
    throw (.exit 2)

end MergeBench.Shell
