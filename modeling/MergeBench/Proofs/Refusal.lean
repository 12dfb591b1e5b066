import MergeBench.Proofs.FileSystem.Walk
import MergeBench.Proofs.Path
import MergeBench.Proofs.PushBuild
import MergeBench.Proofs.Steady

/-!
Refused configurations. Settings, the context of the build and the results to compare are looked up
before anything is done, and every configuration error comes from these lookups. They are quiet, so
that a refusal leaves no trace but its message; what comes after them is steady and refuses nothing.
-/

namespace MergeBench

variable {α β : Type} {m m' : Machine} {e : ConfigError}

theorem Machine.SameWorld.surface (h : m.SameWorld m') : m'.surface = m.surface := by
  rw [← h.eq]
  rfl

/-- Where only the first of two activities can refuse a configuration, it is the one that does. -/
theorem refuses_bind_iff {act : Act α} {next : α → Act β}
    (hnext : ∀ a, Steady Machine.setting (next a)) :
    runFrom (act >>= next) m = (.error (.config e), m') ↔
      runFrom act m = (.error (.config e), m') := by
  rw [runFrom_bind]
  rcases runFrom act m with ⟨f | a, m₁⟩
  · simp
  · simp only [Prod.mk.injEq, reduceCtorEq, false_and, iff_false]
    intro h
    exact (hnext a m₁).not_refused e (by rw [answer, h])

namespace CommandLine

variable {a : Arguments} {launch : Launcher}

/-! ### The two modes -/

def contextFor (a : Arguments) (s : Settings.Loaded) : Act BuildContext := do
  let flag ← lift id a.flag?
  let vars ← Arguments.environment
  lift .variableName (s.lookUp vars flag a.branch?)
  s.readContext vars flag a.branch?

def carryOut (p : Pipeline Act) (a : Arguments) (s : Settings) (c : BuildContext) : Act Int := do
  if c.isPullRequest && a.dryRun then showHeader c s
  p.benchmarkStatus ⟨c, s, a.dryRun, a.receipt.nonempty?⟩

theorem runWith_eq (p : Pipeline Act) (a : Arguments) (s : Settings.Loaded) :
    runWith p a s = contextFor a s >>= carryOut p a s.toSettings := by
  simp only [runWith, contextFor, bind_assoc]
  rfl

theorem quiet_contextFor (a : Arguments) (s : Settings.Loaded) : Quiet (contextFor a s) :=
  (quiet_lift _ _).bind fun _ => quiet_environment.bind fun _ => (quiet_lift _ _).bind fun _ =>
    (quiet_lift _ _).bind fun c => (quiet_report _ _ _).bind fun _ => quiet_pure c

theorem steady_showHeader (c : BuildContext) (s : Settings) :
    Steady Machine.setting (showHeader c s) :=
  (steady_printLine _).setting.bind fun _ => (steady_printLine _).setting.bind fun _ =>
    steady_get_bind fun m => .lift_bind (by nofun) fun benches _ => (steady_printLine _).setting m

theorem steady_carryOut (launch : Launcher) (a : Arguments) (s : Settings) (c : BuildContext) :
    Steady Machine.setting (carryOut (Pipeline.standard launch) a s c) := by
  have hrun : Steady Machine.setting ((Pipeline.standard launch).benchmarkStatus
      ⟨c, s, a.dryRun, a.receipt.nonempty?⟩) :=
    (Run.steady_benchmark launch _).bind fun _ => steady_pure _
  unfold carryOut
  dsimp only
  split
  · exact (steady_showHeader c s).bind fun _ => hrun
  · exact hrun

/-- What becomes of settings that are refused. -/
def pardon (a : Arguments) (e : ConfigError) : Act Int := do
  if ← skipsWithoutSettings a then
    report .warning .runMode
      s!"not a pull request build; ignoring invalid configuration: {e.message}"
    return 0
  else throw (.config e)

theorem quiet_pardon (a : Arguments) (e : ConfigError) : Quiet (pardon a e) := by
  have hskips : Quiet (skipsWithoutSettings a) := by
    refine (quiet_root a).bind fun root => ?_
    dsimp only
    split
    · exact quiet_environment.bind fun vars => quiet_pure _
    · exact quiet_pure false
  refine hskips.bind fun skips => ?_
  split
  · exact (quiet_report _ _ _).bind fun _ => quiet_pure 0
  · exact quiet_throw _

/-- In run mode a refusal comes from the settings or the context, and no launcher is asked. -/
theorem runMode_refuses
    (h : runFrom (runMode (Pipeline.standard launch) a) m = (.error (.config e), m')) :
    m.SameWorld m' ∧
      ∀ launch, runFrom (runMode (Pipeline.standard launch) a) m = (.error (.config e), m') := by
  simp only [runFrom_runMode, runWith_eq] at h ⊢
  rcases hsettings : runFrom a.settings m with ⟨f | s, m₁⟩ <;> simp only [hsettings] at h ⊢
  · have hsame := (quiet_settings a).sameWorld_of_runFrom hsettings
    cases f with
    | config refused =>
      exact ⟨hsame.trans ((quiet_pardon a refused).sameWorld_of_runFrom h), fun _ => h⟩
    | _ => cases h
  · have hsame := (quiet_settings a).sameWorld_of_runFrom hsettings
    simp only [refuses_bind_iff (steady_carryOut _ a s.toSettings)] at h ⊢
    exact ⟨hsame.trans ((quiet_contextFor a s).sameWorld_of_runFrom h), fun _ => h⟩

theorem quiet_missingArtifacts (benches : Path) (names : List String) :
    Quiet (Run.missingArtifacts benches names) := by
  induction names with
  | nil => exact quiet_pure []
  | cons name rest ih => exact (quiet_isFile _).bind fun there => ih.bind fun missing => quiet_pure _

theorem quiet_prepareCompare (req : CompareRequest) : Quiet (Run.prepareCompare req) := by
  refine quiet_get_bind (fun m => ?_) fun m m' h => by rw [h.environment]
  refine (quiet_lift _ _).bind fun benches => ?_
  dsimp only
  split
  · refine (quiet_missingArtifacts benches _).bind fun missing => ?_
    split
    · exact (quiet_throw _).bind fun _ => quiet_pure _
    · exact quiet_pure _
  · exact quiet_pure _

theorem compare_refuses_iff {req : CompareRequest} :
    runFrom (Run.compare (Run.runStep launch) req : Act Outcome) m = (.error (.config e), m') ↔
      runFrom (Run.prepareCompare req) m = (.error (.config e), m') := by
  have hexecute (steps : List Step) : Steady Machine.setting (do
      let outcome ← Run.execute (Run.runStep launch) req.dryRun req.settings.timeout steps
      Run.writeReceipt req.receipt .compare req.dryRun
        ⟨req.candidate, some req.baseline, req.settings.sentinel⟩ req.settings {} outcome
      return outcome : Act Outcome) :=
    (Run.steady_execute (Run.steady_runStep launch) _ _ steps).bind fun outcome =>
      (Run.steady_writeReceipt _ _ _ _ _ _ outcome).bind fun _ => steady_pure outcome
  exact refuses_bind_iff hexecute

theorem compareStatus_refuses_iff {req : CompareRequest} :
    runFrom ((Pipeline.standard launch).compareStatus req) m = (.error (.config e), m') ↔
      runFrom (Run.prepareCompare req) m = (.error (.config e), m') :=
  (refuses_bind_iff fun _ => steady_pure _).trans compare_refuses_iff

/-- In compare mode a refusal comes from the settings or from results that are not there. -/
theorem compareMode_refuses
    (h : runFrom (compareMode (Pipeline.standard launch) a) m = (.error (.config e), m')) :
    m.SameWorld m' ∧
      ∀ launch, runFrom (compareMode (Pipeline.standard launch) a) m = (.error (.config e), m') := by
  unfold compareMode at h ⊢
  split at h
  · simp only [runFrom_bind] at h ⊢
    rcases hsettings : runFrom a.settings m with ⟨f | s, m₁⟩ <;> simp only [hsettings] at h ⊢
    · cases h
      exact ⟨(quiet_settings a).sameWorld_of_runFrom hsettings, fun _ => rfl⟩
    · have hsame := (quiet_settings a).sameWorld_of_runFrom hsettings
      simp only [compareStatus_refuses_iff] at h ⊢
      exact ⟨hsame.trans ((quiet_prepareCompare _).sameWorld_of_runFrom h), fun _ => h⟩
  · cases h

theorem runInMode_refuses
    (h : runFrom (runInMode (Pipeline.standard launch) a) m = (.error (.config e), m')) :
    m.SameWorld m' ∧
      ∀ launch, runFrom (runInMode (Pipeline.standard launch) a) m = (.error (.config e), m') := by
  unfold runInMode at h ⊢
  cases hmode : a.mode with
  | compare =>
    rw [hmode] at h
    exact compareMode_refuses h
  | run =>
    rw [hmode] at h
    exact runMode_refuses h

/-! ### Results that are not there -/

/-- A file is at the path, links followed. -/
def hasFile (m : Machine) (path : Path) : Bool :=
  !hasNull path.text &&
    match m.files.find true m.directory path.text with
    | .ok ⟨_, some (.file ..)⟩ => true
    | _ => false

/-- The path, or a name that is met on its way, is longer than the system allows. -/
def TooLong (m : Machine) (path : Path) : Prop :=
  hasNull path.text = false ∧ m.files.find true m.directory path.text = .error .nameTooLong

theorem answer_isFile_of_tooLong {path : Path} (h : TooLong m path) :
    answer (isFile path) m = .error (.file ⟨.nameTooLong, some path.text, none⟩) := by
  obtain ⟨hnull, hfind⟩ := h
  unfold isFile
  rw [answer, runFrom_bind, entryAt, runFrom_bind, runFrom_get]
  simp only [hnull, FileSystem.entryAt, hfind]
  rfl

theorem answer_isFile {path : Path} (h : ¬TooLong m path) :
    answer (isFile path) m = .ok (hasFile m path) := by
  unfold isFile
  rw [answer, runFrom_bind, entryAt, runFrom_bind, runFrom_get]
  cases hnull : hasNull path.text with
  | true =>
    simp only [hasFile, hnull]
    rfl
  | false =>
    simp only [hasFile, hnull, FileSystem.entryAt]
    cases hfind : m.files.find true m.directory path.text with
    | ok spot =>
      obtain ⟨location, _ | _ | _ | _⟩ := spot <;> rfl
    | error cause =>
      rcases FileSystem.find_error_cases hfind with rfl | rfl | rfl | rfl
      · rfl
      · rfl
      · rfl
      · exact absurd ⟨hnull, hfind⟩ h

theorem answer_missingArtifacts_cons (benches : Path) (name : String) (rest : List String) :
    answer (Run.missingArtifacts benches (name :: rest)) m =
      (answer (isFile (benches.join (Path.ofString name))) m).bind fun there =>
        (answer (Run.missingArtifacts benches rest) m).map fun missing =>
          if there then missing else name :: missing := by
  rw [Run.missingArtifacts, (quiet_isFile _).answer_bind fun there =>
    (quiet_missingArtifacts benches rest).bind fun missing => quiet_pure _]
  congr 1
  funext there
  rw [(quiet_missingArtifacts benches rest).answer_bind fun missing => quiet_pure _]
  cases answer (Run.missingArtifacts benches rest) m <;> rfl

theorem answer_missingArtifacts {benches : Path} {names : List String}
    (h : ∀ name ∈ names, ¬TooLong m (benches.join (Path.ofString name))) :
    answer (Run.missingArtifacts benches names) m =
      .ok (names.filter fun name => !hasFile m (benches.join (Path.ofString name))) := by
  induction names with
  | nil => rfl
  | cons name rest ih =>
    rw [List.forall_mem_cons] at h
    rw [answer_missingArtifacts_cons, answer_isFile h.1, ih h.2, List.filter_cons]
    cases hasFile m (benches.join (Path.ofString name)) <;> rfl

theorem answer_missingArtifacts_of_tooLong {benches : Path} {names : List String}
    (h : ∃ name ∈ names, TooLong m (benches.join (Path.ofString name))) :
    ∃ path, answer (Run.missingArtifacts benches names) m =
      .error (.file ⟨.nameTooLong, path, none⟩) := by
  induction names with
  | nil => simp at h
  | cons name rest ih =>
    rw [answer_missingArtifacts_cons]
    by_cases hname : TooLong m (benches.join (Path.ofString name))
    · rw [answer_isFile_of_tooLong hname]
      exact ⟨_, rfl⟩
    · simp only [List.mem_cons, exists_eq_or_imp] at h
      obtain ⟨path, hpath⟩ := ih (h.resolve_left hname)
      rw [answer_isFile hname, hpath]
      exact ⟨path, rfl⟩

/-- A comparison of two results below a directory, at least one of which is not there. -/
structure Comparison (arguments : List String) (m : Machine) (a : Arguments) (m₁ : Machine)
    (s : Settings.Loaded) (benches : Path) (names : List String) : Prop where
  parsed : parse arguments = .arguments a
  mode : a.mode = .compare
  dryRun : a.dryRun = false
  named : ∃ baseline candidate, a.baseline.nonempty? = some baseline ∧
    a.candidate.nonempty? = some candidate ∧ names = [baseline, candidate]
  prepared : runFrom (Startup.prepare true (levelText? a)) m = (.ok (), m₁)
  settings : answer a.settings m₁ = .ok s
  directory : s.benchesPath m₁.environment = .ok benches
  missing : ∃ name ∈ names, hasFile m₁ (benches.join (Path.ofString name)) = false

variable (req : CompareRequest) {benches : Path}

theorem answer_prepareCompare (hdry : req.dryRun = false)
    (hbenches : req.settings.benchesPath m.environment = .ok benches) :
    answer (Run.prepareCompare req) m =
      (answer (Run.missingArtifacts benches [req.baseline, req.candidate]) m).bind fun missing =>
        if !missing.isEmpty then .error (.config (.missingArtifacts benches.text missing))
        else .ok (Plan.compareSteps req.settings benches req.baseline req.candidate) := by
  unfold Run.prepareCompare
  rw [answer, runFrom_bind, runFrom_get]
  dsimp only
  rw [runFrom_bind, runFrom_lift, hbenches]
  simp only [mapError_ok, hdry, Bool.not_false, ↓reduceIte]
  change answer (Run.missingArtifacts benches [req.baseline, req.candidate] >>= _) m = _
  rw [(quiet_missingArtifacts benches _).answer_bind]
  · congr 1
    funext missing
    split <;> rfl
  · intro missing
    split
    · exact (quiet_throw _).bind fun _ => quiet_pure _
    · exact quiet_pure _

theorem answer_prepareCompare_of_missing (hdry : req.dryRun = false)
    (hbenches : req.settings.benchesPath m.environment = .ok benches)
    (hmissing : ∃ name ∈ [req.baseline, req.candidate],
      hasFile m (benches.join (Path.ofString name)) = false)
    (hshort : ∀ name ∈ [req.baseline, req.candidate],
      ¬TooLong m (benches.join (Path.ofString name))) :
    answer (Run.prepareCompare req) m =
      .error (.config (.missingArtifacts benches.text ([req.baseline, req.candidate].filter
        fun name => !hasFile m (benches.join (Path.ofString name))))) := by
  have hsome : ([req.baseline, req.candidate].filter fun name =>
      !hasFile m (benches.join (Path.ofString name))).isEmpty = false := by
    obtain ⟨name, hname, hnone⟩ := hmissing
    rw [List.isEmpty_eq_false_iff_exists_mem]
    exact ⟨name, List.mem_filter.mpr ⟨hname, by rw [hnone]; rfl⟩⟩
  rw [answer_prepareCompare req hdry hbenches, answer_missingArtifacts hshort]
  simp only [Except.bind, hsome, Bool.not_false, ↓reduceIte]

theorem answer_prepareCompare_of_tooLong (hdry : req.dryRun = false)
    (hbenches : req.settings.benchesPath m.environment = .ok benches)
    (hlong : ∃ name ∈ [req.baseline, req.candidate],
      TooLong m (benches.join (Path.ofString name))) :
    ∃ path, answer (Run.prepareCompare req) m = .error (.file ⟨.nameTooLong, path, none⟩) := by
  obtain ⟨path, hpath⟩ := answer_missingArtifacts_of_tooLong hlong
  rw [answer_prepareCompare req hdry hbenches, hpath]
  exact ⟨path, rfl⟩

theorem runFrom_compareStatus_of_error {req : CompareRequest} {f : Fault}
    (h : runFrom (Run.prepareCompare req) m = (.error f, m')) (launch : Launcher) :
    runFrom ((Pipeline.standard launch).compareStatus req) m = (.error f, m') := by
  unfold Pipeline.compareStatus Pipeline.standard
  dsimp only
  rw [runFrom_bind, Run.compare, runFrom_bind, show runFrom (liftM (Run.prepareCompare req)) m = _ from h]

/-! ### Refused programs -/

/-- A configuration error is raised by the run and pardoned nowhere. -/
def Raises (launch : Launcher) (arguments : List String) (m : Machine) (e : ConfigError) : Prop :=
  ∃ a m₁ m₂, parse arguments = .arguments a ∧
    runFrom (Startup.prepare true (levelText? a)) m = (.ok (), m₁) ∧
    runFrom (runInMode (Pipeline.standard launch) a) m₁ = (.error (.config e), m₂)

/-- For all launchers alike, and so without starting a process, the program ends with status two. Its
last words on standard error are the message, and nothing else is to be seen of it. -/
def Refused (arguments : List String) (m : Machine) (e : ConfigError) : Prop :=
  ∃ m' : Machine, (∀ launch, runFrom (run (Pipeline.standard launch) arguments) m =
      (.ok (.status 2), m'.writeError (Machine.lineBytes s!"ERROR: {e.message}"))) ∧
    m'.surface = m.surface

variable {arguments : List String}

theorem Raises.refused (h : Raises launch arguments m e) : Refused arguments m e := by
  obtain ⟨a, m₁, m₂, hparse, hprepare, hrun⟩ := h
  obtain ⟨hsame, hall⟩ := runInMode_refuses hrun
  have hsurface := (Startup.steady_prepare Startup.hidesSetup_surface true (levelText? a) m).view_eq
  rw [hprepare] at hsurface
  refine ⟨m₂, fun launch => ?_, hsame.surface.trans hsurface⟩
  rw [run, hparse]
  dsimp only
  rw [runFrom_runArguments _ hprepare, runFrom_dispatch, hall]
  rfl

theorem steady_dispatch (p : Pipeline Act) (a : Arguments) :
    Steady (fun _ => ()) (dispatch p a) := by
  intro m
  refine ⟨rfl, fun e => ?_⟩
  rw [answer, runFrom_dispatch]
  rcases runFrom (runInMode p a) m with ⟨f | n, m'⟩
  · cases f <;> nofun
  · nofun

theorem steady_runArguments (p : Pipeline Act) (a : Arguments) :
    Steady (fun _ => ()) (runArguments p a) := by
  unfold runArguments
  refine Steady.bind (Steady.tryCatch ?_ fun f hf => ?_) fun r => ?_
  · exact (Startup.steady_prepare Startup.hidesSetup_surface true _).unseen.bind fun _ =>
      (steady_dispatch p a).bind fun n => steady_pure _
  · split
    · exact steady_pure _
    · exact steady_throw hf
  · cases r <;> exact steady_pure _

theorem steady_run (p : Pipeline Act) (arguments : List String) :
    Steady (fun _ => ()) (run p arguments) := by
  have hcolumns : Steady (fun _ => ()) screenColumns := steady_get_bind fun m => steady_pure _ m
  unfold run
  split
  · exact hcolumns.bind fun _ => (steady_modify (by exact fun _ => rfl)).bind fun _ => steady_pure _
  · exact hcolumns.bind fun _ => (steady_modify (by exact fun _ => rfl)).bind fun _ =>
      (steady_printErrorLine _).unseen.bind fun _ => steady_pure _
  · exact steady_runArguments p _

section

variable {m₁ : Machine} {s : Settings.Loaded} {names : List String}

/-- What is wrong with the names is wrong with the whole run. -/
theorem Comparison.exists_runFrom (h : Comparison arguments m a m₁ s benches names) {f : Fault}
    (hf : ∀ baseline candidate, names = [baseline, candidate] →
      answer (Run.prepareCompare ⟨s.toSettings, baseline, candidate, a.dryRun, a.receipt.nonempty?⟩) m₁ =
        .error f) :
    ∃ m₂, ∀ launch, runFrom (runInMode (Pipeline.standard launch) a) m₁ = (.error f, m₂) := by
  obtain ⟨baseline, candidate, hbaseline, hcandidate, hnames⟩ := h.named
  obtain ⟨m₂, hsettings, hsame⟩ := (quiet_settings a).exists_runFrom h.settings
  obtain ⟨m₃, hprepare, -⟩ := (quiet_prepareCompare _).exists_runFrom
    (((quiet_prepareCompare _).answer_eq hsame).trans (hf baseline candidate hnames))
  refine ⟨m₃, fun launch => ?_⟩
  simp only [runInMode, h.mode, compareMode, hbaseline, hcandidate]
  rw [runFrom_bind, hsettings]
  exact runFrom_compareStatus_of_error hprepare launch

theorem Comparison.raises (h : Comparison arguments m a m₁ s benches names)
    (hshort : ∀ name ∈ names, ¬TooLong m₁ (benches.join (Path.ofString name))) (launch : Launcher) :
    Raises launch arguments m (.missingArtifacts benches.text (names.filter fun name =>
      !hasFile m₁ (benches.join (Path.ofString name)))) := by
  obtain ⟨baseline, candidate, -, -, rfl⟩ := h.named
  have hrefuses := answer_prepareCompare_of_missing
    ⟨s.toSettings, baseline, candidate, a.dryRun, a.receipt.nonempty?⟩ h.dryRun h.directory h.missing hshort
  obtain ⟨m₂, hrun⟩ := h.exists_runFrom fun _ _ hnames => by
    cases hnames
    exact hrefuses
  exact ⟨a, m₁, m₂, h.parsed, h.prepared, hrun launch⟩

/-- A path that is too long ends the program with a fault of the system. -/
theorem Comparison.answer_of_tooLong (h : Comparison arguments m a m₁ s benches names)
    (hlong : ∃ name ∈ names, TooLong m₁ (benches.join (Path.ofString name))) (launch : Launcher) :
    ∃ path, answer (run (Pipeline.standard launch) arguments) m =
      .error (.file ⟨.nameTooLong, path, none⟩) := by
  obtain ⟨baseline, candidate, -, -, rfl⟩ := h.named
  obtain ⟨path, hpath⟩ := answer_prepareCompare_of_tooLong
    ⟨s.toSettings, baseline, candidate, a.dryRun, a.receipt.nonempty?⟩ h.dryRun h.directory hlong
  obtain ⟨m₂, hrun⟩ := h.exists_runFrom fun _ _ hnames => by
    cases hnames
    exact hpath
  refine ⟨path, ?_⟩
  rw [answer, run, h.parsed]
  dsimp only
  rw [runFrom_runArguments _ h.prepared, runFrom_dispatch, hrun launch]

theorem Comparison.refused_iff (h : Comparison arguments m a m₁ s benches names) :
    Refused arguments m (.missingArtifacts benches.text (names.filter fun name =>
        !hasFile m₁ (benches.join (Path.ofString name)))) ↔
      ∀ name ∈ names, ¬TooLong m₁ (benches.join (Path.ofString name)) := by
  -- any launcher will do, none of them is asked
  let launch : Launcher := fun _ files => ⟨.exited 0, [], [], files, 0⟩
  refine ⟨fun ⟨m', hrun, _⟩ name hname hlong => ?_, fun hshort => (h.raises hshort launch).refused⟩
  obtain ⟨path, hpath⟩ := h.answer_of_tooLong ⟨name, hname, hlong⟩ launch
  rw [answer, hrun launch] at hpath
  cases hpath

end

/-- A configuration error that is not pardoned ends the program with status two before anything is
done, and none gets past that. A comparison with a result that is not there ends so, unless the system
cannot look for one of the two because its path is too long. -/
theorem run_refused (launch : Launcher) (arguments : List String) (m : Machine) :
    (∀ e, answer (run (Pipeline.standard launch) arguments) m ≠ .error (.config e)) ∧
      (∀ e, Raises launch arguments m e → Refused arguments m e) ∧
      ∀ a m₁ s benches names, Comparison arguments m a m₁ s benches names →
        (Refused arguments m (.missingArtifacts benches.text (names.filter fun name =>
            !hasFile m₁ (benches.join (Path.ofString name)))) ↔
          ∀ name ∈ names, ¬TooLong m₁ (benches.join (Path.ofString name))) :=
  ⟨(steady_run _ arguments m).not_refused, fun _ h => h.refused, fun _ _ _ _ _ h => h.refused_iff⟩

def compareArguments (candidate : String) : List String :=
  ["--mode", "compare", "--baseline", "main", "--candidate", candidate, "--benches-dir", "."]

def comparing (candidate : String) : Arguments :=
  { mode := .compare, baseline := .text "main", candidate := .text candidate,
    benchesDir := .text "." }

theorem hasFile_of_sameWorld (h : m.SameWorld m') (path : Path) : hasFile m' path = hasFile m path := by
  rw [hasFile, h.files, h.directory]
  rfl

theorem tooLong_of_sameWorld (h : m.SameWorld m') (path : Path) : TooLong m' path ↔ TooLong m path := by
  rw [TooLong, h.files, h.directory]
  rfl

theorem parse_eq_of_decide {arguments : List String} {a : Arguments}
    (h : (match parse arguments with | .arguments b => decide (b = a) | _ => false) = true) :
    parse arguments = .arguments a := by
  split at h
  · next hparse => rw [hparse, of_decide_eq_true h]
  · cases h

theorem comparison_inWork {candidate : String}
    (hparse : parse (compareArguments candidate) = .arguments (comparing candidate))
    (hsome : (Given.text candidate).nonempty? = some candidate) :
    ∃ m₁, (Machine.inWork [] []).SameWorld m₁ ∧
      Comparison (compareArguments candidate) (.inWork [] []) (comparing candidate) m₁
        { root := Path.ofString "/work", benchesDir := "." } (Path.ofString "/work")
        ["main", candidate] := by
  have hnone : NoVariables (.inWork [] []) := ⟨_, answer_findRoot_inWork rfl, rfl⟩
  have hlevel : Diagnostics.levelNamed
      (Startup.levelText none (Machine.inWork [] []).environment) = .ok 20 := rfl
  -- the settings do not depend on the names of the results
  have hsettings : answer (comparing "").settings (.inWork [] []) =
      .ok { root := Path.ofString "/work", benchesDir := "." } :=
    yields_iff.mp (by decide +kernel)
  obtain ⟨m₁, hprepare, hsame⟩ := exists_runFrom_prepare hnone hlevel
  refine ⟨m₁, hsame, ?_⟩
  exact {
    parsed := hparse
    mode := rfl
    dryRun := rfl
    named := ⟨"main", candidate, rfl, hsome, rfl⟩
    prepared := hprepare
    settings := ((quiet_settings (comparing candidate)).answer_eq hsame).trans hsettings
    directory := rfl
    missing := ⟨"main", by simp, by rw [hasFile_of_sameWorld hsame]; rfl⟩ }

theorem run_refused_no_results :
    Refused (compareArguments "PR_7") (.inWork [] [])
      (.missingArtifacts "/work" ["main", "PR_7"]) := by
  have hparse : parse (compareArguments "PR_7") = .arguments (comparing "PR_7") :=
    parse_eq_of_decide (by decide +kernel)
  obtain ⟨m₁, hsame, hcomparison⟩ := comparison_inWork hparse rfl
  obtain ⟨-, -, hrefused⟩ := run_refused (fun _ files => ⟨.exited 0, [], [], files, 0⟩)
    (compareArguments "PR_7") (.inWork [] [])
  have hmain : ¬TooLong (.inWork [] []) (Path.ofString "/work/main") := fun ⟨_, hfind⟩ => by
    cases (show _ = Except.ok _ from rfl).symm.trans hfind
  have hcandidate : ¬TooLong (.inWork [] []) (Path.ofString "/work/PR_7") := fun ⟨_, hfind⟩ => by
    cases (show _ = Except.ok _ from rfl).symm.trans hfind
  have hresult := (hrefused _ _ _ _ _ hcomparison).mpr (by
    simp only [tooLong_of_sameWorld hsame, List.forall_mem_cons]
    exact ⟨hmain, hcandidate, nofun⟩)
  simp only [hasFile_of_sameWorld hsame] at hresult
  exact hresult

def letters : Nat → String
  | 0 => ""
  | n + 1 => (letters n).push 'a'

theorem utf8ByteSize_letters (n : Nat) : (letters n).utf8ByteSize = n := by
  induction n with
  | zero => rfl
  | succ n ih =>
    rw [letters, String.utf8ByteSize_push, ih]
    rfl

theorem toList_letters (n : Nat) : (letters n).toList = List.replicate n 'a' := by
  induction n with
  | zero => rfl
  | succ n ih => rw [letters, String.toList_push, ih, List.replicate_succ']

theorem isName_letters {n : Nat} (h : 1 < n) : Path.IsName (letters n) := by
  have hsize := utf8ByteSize_letters n
  refine ⟨fun hn => ?_, fun hn => ?_, ?_⟩
  · rw [hn, String.utf8ByteSize_empty] at hsize
    omega
  · rw [hn, show ".".utf8ByteSize = 1 from rfl] at hsize
    omega
  · simp [toList_letters]

theorem tooLong_letters {n : Nat} (h : FileSystem.nameLimit < n) :
    TooLong (.inWork [] []) ((Path.ofString "/work").join (Path.ofString (letters n))) := by
  have hname : Path.IsName (letters n) := isName_letters (by unfold FileSystem.nameLimit at h; omega)
  have hproper : Path.Proper ⟨.root, ["work", letters n]⟩ := by
    have hwork : Path.IsName "work" := ⟨by decide, by decide, by decide⟩
    simpa [Path.Proper] using ⟨hwork, hname⟩
  have htext : Path.text ⟨.root, ["work", letters n]⟩ = "/work/" ++ letters n := by
    rw [Path.text_eq (.inl rfl)]
    rfl
  have hnames : FileSystem.walkNames ("/work/" ++ letters n) = ["work", letters n] := by
    rw [← htext, Path.walkNames_text hproper (.inl rfl)]
  have habove : letters n ≠ ".." := fun hn => by
    have hsize := utf8ByteSize_letters n
    rw [hn, show "..".utf8ByteSize = 2 from rfl] at hsize
    unfold FileSystem.nameLimit at h
    omega
  have hwalk : FileSystem.Walks (Machine.inWork [] []).files true FileSystem.linkLimit []
      ["work", letters n] (.error .nameTooLong) :=
    .directory ⟨by decide, by decide, by decide⟩ rfl
      (.tooLong _ _ _ ⟨hname.not_here, habove⟩ (by rwa [utf8ByteSize_letters]))
  have hchars : ("/work/" ++ letters n).toList = "/work/".toList ++ List.replicate n 'a' := by
    rw [String.toList_append, toList_letters]
  have hsome : ("/work/" ++ letters n == "") = false := by simp
  rw [Path.join_ofString_name hname]
  change TooLong _ ⟨.root, ["work", letters n]⟩
  rw [TooLong, htext, FileSystem.find, FileSystem.startOf, hnames, hasNull, hchars, hsome]
  refine ⟨by simp, ?_⟩
  simp only [Bool.false_eq_true, ↓reduceIte]
  split
  · rfl
  · exact hwalk.walk_eq

/-- For a name of one octet more than the system allows there is no refusal. -/
theorem not_refused_long_name :
    (∃ m₁, Comparison (compareArguments (letters 256)) (.inWork [] []) (comparing (letters 256)) m₁
        { root := Path.ofString "/work", benchesDir := "." } (Path.ofString "/work")
        ["main", letters 256]) ∧
      ∀ e, ¬Refused (compareArguments (letters 256)) (.inWork [] []) e := by
  have hparse : parse (compareArguments (letters 256)) = .arguments (comparing (letters 256)) :=
    parse_eq_of_decide (by decide +kernel)
  obtain ⟨m₁, hsame, hcomparison⟩ := comparison_inWork hparse (by decide +kernel)
  refine ⟨⟨m₁, hcomparison⟩, fun e ⟨m', hrun, _⟩ => ?_⟩
  obtain ⟨path, hpath⟩ := hcomparison.answer_of_tooLong
    ⟨letters 256, by simp, (tooLong_of_sameWorld hsame _).mpr (tooLong_letters (by decide))⟩
    fun _ files => ⟨.exited 0, [], [], files, 0⟩
  rw [answer, hrun] at hpath
  cases hpath

end CommandLine

end MergeBench
