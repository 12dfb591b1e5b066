import MergeBench.Machine
import MergeBench.Settings.Layers

namespace MergeBench.Settings

def fileName : String := "pr_bench.yml"

def fileVariable : String := "PR_BENCH_CONFIG"

/-- The entries of a configuration. Blank data of any kind count as no entries. -/
def entriesOf (path : String) (data : Value) : Except Fault (List (Value × Value)) :=
  let entries? : Option (List (Value × Value)) :=
    if data.isBlank then some []
    else
      match data with
      | .map entries => some entries
      | _ => none
  match entries? with
  | none => failed (.notMapping path)
  | some entries =>
    let unknown := (entries.map Prod.fst).filter fun key =>
      !Key.all.any fun known => key.sameKey (.text known.name)
    if unknown.isEmpty then .ok entries
    else
      let texts := unknown.filterMap Value.name?
      if texts.length < unknown.length then .error .unlistableKeys
      else failed (.unknownKeys path (texts.mergeSort fun a b => decide (a ≤ b)))

def parse (path text : String) : Except Fault (List (Value × Value)) :=
  match Yaml.read text with
  | .ok data => entriesOf path data
  | .error .malformed => failed (.malformedYaml path)
  | .error e => .error (.data e)

/-- Reads the configuration file at a path, home directory and links resolved. -/
def readEntries (path : Path) : Act (List (Value × Value)) := do
  let path ← resolve (← MergeBench.expandHome path)
  if !(← pathExists path) then throw (.config (.fileMissing path.text))
  let text ← readText path
  lift id (parse path.text text)

/-- The path of the configuration file: given, else in a variable, else at the root if it exists. -/
def filePath? (given : Option String) (vars : Variables) (root : Path) : Act (Option Path) := do
  match given.filter (· != "") with
  | some path => return some (Path.ofString path)
  | none =>
    match nonempty? vars fileVariable with
    | some path => return some (Path.ofString path)
    | none =>
      let candidate := root.join (Path.ofString fileName)
      if ← pathExists candidate then return some candidate else return none

def load (given : Option String) (vars : Variables) (overrides : List (String × Value))
    (root : Path) : Act Loaded := do
  let file ←
    match ← filePath? given vars root with
    | none => pure []
    | some path =>
      let path := root.join path
      let entries ← readEntries path
      report .debug .settings s!"loaded config file {path.text}"
      pure entries
  let settings ← lift id (ofLayers root ⟨overrides, vars, file⟩)
  match settings.value.written with
  | .ok shown => report .debug .settings s!"resolved settings: {shown}"
  | .error _ => pure ()
  return settings

end MergeBench.Settings
