import MergeBench.Shell.Signal

/-!
Modes that a shell is in: each has a name, and most have a letter by which they are turned on with `-`
and off with `+`.
-/

namespace MergeBench.Shell

structure Mode where
  name : String
  letter : Option Char

def Mode.all : List Mode :=
  [⟨"errexit", 'e'⟩, ⟨"noglob", 'f'⟩, ⟨"ignoreeof", 'I'⟩, ⟨"interactive", 'i'⟩, ⟨"monitor", 'm'⟩,
    ⟨"noexec", 'n'⟩, ⟨"stdin", 's'⟩, ⟨"xtrace", 'x'⟩, ⟨"verbose", 'v'⟩, ⟨"vi", 'V'⟩, ⟨"emacs", 'E'⟩,
    ⟨"noclobber", 'C'⟩, ⟨"allexport", 'a'⟩, ⟨"notify", 'b'⟩, ⟨"nounset", 'u'⟩, ⟨"privileged", 'p'⟩,
    ⟨"nolog", none⟩, ⟨"debug", none⟩]

def modeLetters : List Char :=
  Mode.all.filterMap Mode.letter

/-- The letters of the modes that are on, as `$-` gives them. -/
def State.shownModes (s : State) : String :=
  String.ofList (modeLetters.reverse.filter s.isOn)

inductive ModeRequest where
  | turn (on : Bool) (letter : Char)
  /-- A list of all modes, to be read or to be run. -/
  | list (readable : Bool)
  | text

structure ModeArguments where
  requests : List ModeRequest
  rest : List String
  /-- The requests were ended by a mark of their own. -/
  marked : Bool := false

/-- The requests of one argument, and what is left of the arguments behind it. -/
def modeRequests (ofShell on : Bool) :
    List Char → List String → Except String (List ModeRequest × List String)
  | [], rest => .ok ([], rest)
  | 'o' :: letters, rest =>
    match rest with
    | [] => do
      let (later, rest) ← modeRequests ofShell on letters []
      return (.list on :: later, rest)
    | name :: rest =>
      match Mode.all.find? fun m => m.name == name with
      | none => .error s!"Illegal option -o {name}"
      | some mode => do
        let (later, rest) ← modeRequests ofShell on letters rest
        return ((mode.letter.map (ModeRequest.turn on)).toList ++ later, rest)
  | letter :: letters, rest =>
    if ofShell && letter == 'c' then do
      let (later, rest) ← modeRequests ofShell on letters rest
      return (.text :: later, rest)
    else if modeLetters.contains letter then do
      let (later, rest) ← modeRequests ofShell on letters rest
      return (.turn on letter :: later, rest)
    else .error s!"Illegal option -{letter}"

def readModes (ofShell : Bool) : Nat → List String → Except String ModeArguments
  | 0, rest => .ok ⟨[], rest, false⟩
  | _, [] => .ok ⟨[], [], false⟩
  | fuel + 1, argument :: rest => do
    let go (on : Bool) (letters : List Char) : Except String ModeArguments := do
      let (found, rest) ← modeRequests ofShell on letters rest
      let later ← readModes ofShell fuel rest
      return { later with requests := found ++ later.requests }
    match argument.toList with
    | ['-'] => return ⟨if ofShell then [] else [.turn false 'x', .turn false 'v'], rest, false⟩
    | ['-', '-'] => return ⟨[], rest, true⟩
    | '-' :: letters => go true letters
    | '+' :: letters => go false letters
    | _ => return ⟨[], argument :: rest, false⟩

def modeLine (s : State) (readable : Bool) (m : Mode) : String :=
  let on := (m.letter.map s.isOn).getD false
  if readable then
    String.ofList (m.name.toList ++ List.replicate (16 - m.name.length) ' ') ++ if on then "on" else "off"
  else (if on then "set -o " else "set +o ") ++ m.name

def ModeRequest.run : ModeRequest → Session Unit
  | .turn on letter => modify (·.turn on letter)
  | .list readable => do
    if readable then outText "Current option settings\n"
    let s ← get
    for m in Mode.all do outText (modeLine s readable m ++ "\n")
  | .text => pure ()

def setModes (refuse : String → Session Nat) (arguments : List String) : Session Nat := do
  match readModes false (arguments.length + 1) arguments with
  | .error text => refuse text
  | .ok found =>
    for request in found.requests do request.run
    if found.marked || !found.rest.isEmpty then modify fun s => { s with arguments := found.rest }
    return 0

end MergeBench.Shell
