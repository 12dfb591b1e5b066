import MergeBench.Proofs.Json.RoundTrip
import MergeBench.Proofs.Path
import MergeBench.Receipt

namespace MergeBench

namespace Value

def field? (v : Value) (name : String) : Option Value :=
  match v with
  | map entries => (entries.find? fun e => e.1.sameKey (text name)).map Prod.snd
  | _ => none

def text? : Value → Option String
  | text s => some s
  | _ => none

/-- A text or nothing, but no other value. -/
def optionalText? : Value → Option (Option String)
  | text s => some (some s)
  | null => some none
  | _ => none

def bool? : Value → Option Bool
  | bool b => some b
  | _ => none

def int? : Value → Option Int
  | int n => some n
  | _ => none

def items? : Value → Option (List Value)
  | list items => some items
  | _ => none

def words? (v : Value) : Option (List String) := do
  (← v.items?).mapM text?

def optionalWords? (v : Value) : Option (Option (List String)) :=
  match v with
  | null => some none
  | v => v.words?.map some

theorem field?_named (entries : List (String × Value)) (name : String) :
    (map (entries.map Json.named)).field? name = (entries.find? fun e => e.1 == name).map Prod.snd := by
  rw [field?, List.find?_map, Option.map_map]
  rfl

theorem mapM_of_forall {α β γ : Type} {read : β → Option γ} {write : α → β} {told : α → γ}
    (h : ∀ a, read (write a) = some (told a)) (l : List α) :
    (l.map write).mapM read = some (l.map told) := by
  induction l with
  | nil => rfl
  | cons a l ih => simp [h, ih]

theorem words?_commandValue (words : List String) :
    (Settings.commandValue words).words? = some words := by
  have hwords : (words.map text).mapM text? = some (words.map id) :=
    mapM_of_forall (fun _ => show text? _ = _ from rfl) words
  rwa [List.map_id] at hwords

theorem optionalText?_optional (s : Option String) : (Receipt.optional s).optionalText? = some s := by
  cases s <;> rfl

end Value

namespace Settings

def ofValue? (v : Value) : Option Settings := do
  return {
    benchCommand := ← (← v.field? "bench_cmd").words?
    compareCommand := ← (← v.field? "compare_cmd").words?
    git := ← (← v.field? "git_bin").text?
    remote := ← (← v.field? "remote").text?
    benchesDir := ← (← v.field? "benches_dir").text?
    flagVariable := ← (← v.field? "pr_env_var").text?
    branchVariable := ← (← v.field? "branch_env_var").text?
    sentinel := ← (← v.field? "sentinel").text?
    root := Path.ofString (← (← v.field? "repo_root").text?)
    timeout := ← (← v.field? "timeout_seconds").int? }

theorem ofValue?_value {s : Settings} (hroot : s.root.Proper) : ofValue? s.value = some s := by
  have hfield (name : String) :
      s.value.field? name = (s.fields.find? fun e => e.1 == name).map Prod.snd :=
    Value.field?_named s.fields name
  simp [ofValue?, hfield, fields, Value.words?_commandValue, Value.text?, Value.int?,
    Path.ofString_text hroot]

end Settings

namespace Receipt

/-- What a receipt tells about a step: the step in words. -/
structure StepReport where
  name : String
  kind : String
  /-- Nothing, if the step has no words. -/
  command : Option (List String)
  directory : Option String
  artifact : Option String
  message : Option String
  deriving DecidableEq, Repr

structure ExecutionReport where
  step : StepReport
  exitCode : Int
  deriving DecidableEq, Repr

structure Report where
  dryRun : Bool
  flag : String
  branch : Option String
  settings : Settings
  exitCode : Int
  failedStep : Option String
  artifacts : List String
  steps : List ExecutionReport
  deriving DecidableEq, Repr

/-! ### From what a receipt is written -/

def StepReport.ofStep (s : Step) : StepReport where
  name := s.name
  kind := s.kind.name
  command := if s.words.isEmpty then none else some s.words
  directory := s.directory.map Path.text
  artifact := s.artifact.map Path.text
  message := s.message

def ExecutionReport.ofExecution (e : Execution) : ExecutionReport :=
  ⟨.ofStep e.step, e.exitCode⟩

def Report.ofOutcome (dryRun : Bool) (c : BuildContext) (s : Settings) (o : Outcome) : Report where
  dryRun := dryRun
  flag := c.flag
  branch := c.branch
  settings := s
  exitCode := o.exitCode
  failedStep := o.failedStep
  artifacts := o.artifacts.map Path.text
  steps := o.executions.map .ofExecution

/-! ### Reading it again -/

def ExecutionReport.ofValue? (v : Value) : Option ExecutionReport := do
  return {
    step := {
      name := ← (← v.field? "name").text?
      kind := ← (← v.field? "kind").text?
      command := ← (← v.field? "command").optionalWords?
      directory := ← (← v.field? "cwd").optionalText?
      artifact := ← (← v.field? "stdout_path").optionalText?
      message := ← (← v.field? "message").optionalText? }
    exitCode := ← (← v.field? "exit_code").int? }

def Report.ofValue? (v : Value) : Option Report := do
  let build ← v.field? "build"
  return {
    dryRun := ← (← v.field? "dry_run").bool?
    flag := ← (← build.field? "pull_request").text?
    branch := ← (← build.field? "branch").optionalText?
    settings := ← Settings.ofValue? (← v.field? "settings")
    exitCode := ← (← v.field? "exit_code").int?
    failedStep := ← (← v.field? "failed_step").optionalText?
    artifacts := ← (← v.field? "artifacts").words?
    steps := ← (← (← v.field? "steps").items?).mapM ExecutionReport.ofValue? }

theorem field?_fields (entries : List (String × Value)) (name : String) :
    (fields entries).field? name = (entries.find? fun e => e.1 == name).map Prod.snd :=
  Value.field?_named entries name

theorem optionalWords?_wordsValue (words : List String) :
    (wordsValue words).optionalWords? = some (if words.isEmpty then none else some words) := by
  unfold wordsValue
  split
  · rfl
  · exact congrArg (Option.map some) (Value.words?_commandValue words)

theorem ofValue?_executionValue (e : Execution) :
    ExecutionReport.ofValue? (executionValue e) = some (.ofExecution e) := by
  simp [ExecutionReport.ofValue?, executionValue, field?_fields, stepFields, pathValue, Value.text?,
    Value.int?, optionalWords?_wordsValue, Value.optionalText?_optional, ExecutionReport.ofExecution,
    StepReport.ofStep]

theorem Report.ofValue?_value (origin : Origin) (mode : String) (dryRun : Bool) (c : BuildContext)
    {s : Settings} (hroot : s.root.Proper) (p : Provenance) (o : Outcome) :
    ofValue? (value origin mode dryRun c s p o) = some (.ofOutcome dryRun c s o) := by
  have hsteps := Value.mapM_of_forall ofValue?_executionValue o.executions
  simp [ofValue?, value, buildValue, field?_fields, Value.bool?, Value.text?, Value.int?, Value.items?,
    Settings.ofValue?_value hroot, Value.optionalText?_optional, Value.words?_commandValue, hsteps,
    ofOutcome]

/-! ### Every receipt has a text -/

variable (room : Nat)

theorem storable_optional (s : Option String) : Json.Storable room (optional s) := by
  cases s with
  | none => exact .null room
  | some s => exact .text room s

theorem storable_commandValue (words : List String) :
    Json.Storable (room + 1) (Settings.commandValue words) :=
  .list <| List.forall_mem_map.mpr fun word _ => .text room word

theorem storable_wordsValue (words : List String) : Json.Storable (room + 1) (wordsValue words) := by
  unfold wordsValue
  split
  · exact .null _
  · exact storable_commandValue room words

theorem storable_fields {entries : List (String × Value)} (hnames : (entries.map Prod.fst).Nodup)
    (h : ∀ e ∈ entries, Json.Storable room e.2) : Json.Storable (room + 1) (fields entries) :=
  .map hnames h

theorem storable_settings (s : Settings) : Json.Storable (room + 2) s.value := by
  have hnames : (s.fields.map Prod.fst).Nodup := by simp [Settings.fields]
  refine storable_fields (room + 1) hnames ?_
  simp only [Settings.fields, List.forall_mem_cons]
  exact ⟨storable_commandValue room _, storable_commandValue room _, .text _ _, .text _ _, .text _ _,
    .text _ _, .text _ _, .text _ _, .text _ _, .int _ _, nofun⟩

theorem storable_executionValue (e : Execution) : Json.Storable (room + 2) (executionValue e) := by
  refine storable_fields (room + 1) (by simp [stepFields]) ?_
  simp only [stepFields, List.cons_append, List.nil_append, List.forall_mem_cons]
  exact ⟨.text _ _, .text _ _, storable_wordsValue room _, storable_optional _ _,
    storable_optional _ _, storable_optional _ _, .int _ _, .text _ _, .text _ _,
    storable_optional _ _, nofun⟩

theorem storable_value (origin : Origin) (mode : String) (dryRun : Bool) (c : BuildContext)
    (s : Settings) (p : Provenance) (o : Outcome) :
    Json.Storable (room + 4) (value origin mode dryRun c s p o) := by
  have hbuild : Json.Storable (room + 3) (buildValue c) := by
    refine storable_fields (room + 2) (by simp) ?_
    simp only [List.forall_mem_cons]
    exact ⟨.text _ _, storable_optional _ _, .bool _ _, nofun⟩
  have hprovenance : Json.Storable (room + 3) (provenanceValue p) := by
    refine storable_fields (room + 2) (by simp) ?_
    simp only [List.forall_mem_cons]
    exact ⟨storable_optional _ _, storable_optional _ _, nofun⟩
  have hsteps : Json.Storable (room + 3) (.list (o.executions.map executionValue)) :=
    .list <| List.forall_mem_map.mpr fun e _ => storable_executionValue room e
  refine storable_fields (room + 3) (by simp) ?_
  simp only [List.forall_mem_cons]
  exact ⟨.text _ _, .text _ _, .bool _ _, hbuild, hprovenance, storable_settings (room + 1) s, .int _ _,
    .bool _ _, storable_optional _ _, storable_commandValue (room + 2) _, hsteps, .text _ _,
    storable_commandValue (room + 2) _, nofun⟩

end Receipt

end MergeBench
