import MergeBench.Proofs.EnvironmentFile.Additions
import MergeBench.Proofs.Refusal
import MergeBench.Proofs.SameWith
import MergeBench.Proofs.Settings.Precedence

/-!
The environment file of the repository. It is looked for at the root that is known before it is read; what
it adds to the environment may be another root, and then the settings are those of that one. No other file
has a part in the preparation of a run.
-/

namespace MergeBench

variable {α β : Type} {m m₁ : Machine} {fs' : FileSystem} {l : Location}

/-! ### What is added to the environment -/

/-- The activity does no more to the environment than to add variables to it. -/
def Extending (m : Machine) (act : Act α) : Prop :=
  (runFrom act m).2.environment.Extends m.environment

theorem Quiet.extending {act : Act α} (h : Quiet act) (m : Machine) : Extending m act := by
  unfold Extending
  rw [(h.sameWorld m).environment]
  exact .refl _

theorem TakesUp.extending {act : Act α} {offered : List (String × String)} (h : TakesUp m act offered)
    (hfree : ∀ b ∈ offered, m.environment.get? b.1 = none) : Extending m act := by
  obtain ⟨taken, hfirst, henv, -⟩ := h
  unfold Extending
  rw [henv]
  exact (Environment.Extends.refl _).setAll fun b hb => hfree b (hfirst.subset hb)

theorem Extending.of_runFrom {act : Act α} {r : Except Fault α} (h : Extending m act)
    (hrun : runFrom act m = (r, m₁)) : m₁.environment.Extends m.environment := by
  unfold Extending at h
  rwa [hrun] at h

theorem Extending.bind {act : Act α} {next : α → Act β} (h : Extending m act)
    (hnext : ∀ a m₁, runFrom act m = (.ok a, m₁) → Extending m₁ (next a)) :
    Extending m (act >>= next) := by
  unfold Extending
  rw [runFrom_bind]
  rcases hrun : runFrom act m with ⟨f | a, m₁⟩
  · exact h.of_runFrom hrun
  · exact (hnext a m₁ hrun).trans (h.of_runFrom hrun)

theorem Extending.get_bind {next : Machine → Act α} (h : Extending m (next m)) :
    Extending m (get >>= next) :=
  h

namespace Startup

theorem extending_loadIfThere (path : Path) (m : Machine) : Extending m (loadIfThere path) :=
  (takesUp_loadIfThere path m).extending fun _ => free_of_mem_additionsAt

theorem extending_loadEnvironment (m : Machine) : Extending m (loadEnvironment none) := by
  rw [loadEnvironment_none]
  exact .get_bind (((quiet_findRoot _).extending m).bind fun root m₁ _ => extending_loadIfThere _ m₁)

theorem extending_configureDiagnostics (level : Option String) (m : Machine) :
    Extending m (configureDiagnostics level) := by
  unfold Extending
  rw [runFrom_configureDiagnostics]
  split <;> exact .refl _

/-- No preparation changes a variable that was set before. -/
theorem extending_prepare (level : Option String) (m : Machine) : Extending m (prepare true level) :=
  (extending_loadEnvironment m).bind fun _ m₁ _ => extending_configureDiagnostics level m₁

/-! ### Files that make no difference -/

theorem sameWith_reportUnreadable (lines : List Nat) :
    SameWith fs' m (reportUnreadable lines) := by
  induction lines generalizing m with
  | nil => exact sameWith_pure ()
  | cons line rest ih => exact (sameWith_report _ _ _).bind fun _ _ _ => ih

theorem sameWith_setVariables (bindings : List (String × String)) :
    SameWith fs' m (setVariables bindings) := by
  induction bindings generalizing m with
  | nil => exact sameWith_pure ()
  | cons binding rest ih =>
    obtain ⟨name, value⟩ := binding
    unfold setVariables
    refine SameWith.guarded (SameWith.guarded ?_)
    exact (sameWith_modify rfl rfl).bind fun _ _ _ => ih

theorem sameWith_addBindings (found : List Dotenv.Statement) :
    SameWith fs' m (addBindings found) :=
  (sameWith_reportUnreadable _).bind fun _ _ _ =>
    .get_bind ((sameWith_setVariables _).bind fun _ _ _ => sameWith_pure _) rfl

theorem sameWith_loadFile {path : Path} (hfs : FileSystem.AlikeBut l m.files fs')
    (hpath : ¬m.files.ComesTo m.directory path.text l) : SameWith fs' m (loadFile path) := by
  rw [loadFile_eq]
  refine SameWith.get_bind ?_ rfl
  split
  · exact (sameWith_report _ _ _).bind fun _ _ _ => sameWith_pure false
  · refine (sameWith_isFile hfs hpath).bind fun there m₁ hthere => ?_
    obtain rfl := (steady_isFile path).eq_of_runFrom hthere
    cases there with
    | false => exact sameWith_addBindings []
    | true =>
      obtain ⟨spot, hspot⟩ := exists_find_of_isFile (answer_eq_iff.mpr ⟨_, hthere⟩)
      exact (sameWith_readText hfs hpath hspot).bind fun text _ _ => sameWith_addBindings _

theorem sameWith_loadIfThere {path : Path} (hfs : FileSystem.AlikeBut l m.files fs')
    (hpath : ¬m.files.ComesTo m.directory path.text l) : SameWith fs' m (loadIfThere path) := by
  refine (sameWith_pathExists hfs hpath).bind fun there m₁ hthere => ?_
  obtain rfl := (steady_pathExists path).eq_of_runFrom hthere
  split
  · exact sameWith_loadFile hfs hpath
  · exact sameWith_pure false

theorem sameWith_loadEnvironment {root : Path} (hfs : FileSystem.AlikeBut l m.files fs')
    (hroot : answer (Repository.findRoot m.environment.get?) m = .ok root)
    (hpath : ¬m.files.ComesTo m.directory (environmentPath root).text l) :
    SameWith fs' m (loadEnvironment none) := by
  rw [loadEnvironment_none]
  refine SameWith.get_bind ?_ rfl
  refine (sameWith_findRoot hfs _).bind fun root' m₁ hroot' => ?_
  rw [runFrom_findRoot hroot] at hroot'
  cases hroot'
  exact sameWith_loadIfThere hfs hpath

theorem sameWith_configureDiagnostics (level : Option String) :
    SameWith fs' m (configureDiagnostics level) := by
  have hrun := runFrom_configureDiagnostics level m
  have hrun' := runFrom_configureDiagnostics level (m.withFiles fs')
  rw [show (m.withFiles fs').environment = m.environment from rfl] at hrun'
  cases hlevel : Diagnostics.levelNamed (levelText level m.environment) with
  | error name =>
    rw [hlevel] at hrun hrun'
    exact ⟨by rw [hrun', answer, hrun], by rw [hrun]⟩
  | ok n =>
    rw [hlevel] at hrun hrun'
    exact ⟨by rw [hrun', answer, hrun]; rfl, by rw [hrun]⟩

theorem sameWith_prepare {root : Path} (hfs : FileSystem.AlikeBut l m.files fs')
    (hroot : answer (Repository.findRoot m.environment.get?) m = .ok root)
    (hpath : ¬m.files.ComesTo m.directory (environmentPath root).text l) (level : Option String) :
    SameWith fs' m (prepare true level) :=
  (sameWith_loadEnvironment hfs hroot hpath).bind fun _ _ _ => sameWith_configureDiagnostics level

end Startup

/-! ### Settings -/

namespace Settings

variable {given : Option String} {vars : Variables} {root : Path}

theorem sameWith_filePath? (hfs : FileSystem.AlikeBut l m.files fs')
    (h : given.filter (· != "") = none → nonempty? vars fileVariable = none →
      ¬m.files.ComesTo m.directory (root.join (Path.ofString fileName)).text l) :
    SameWith fs' m (filePath? given vars root) := by
  unfold filePath?
  split
  · exact sameWith_pure _
  next hgiven =>
    split
    · exact sameWith_pure _
    next hvar =>
      refine (sameWith_pathExists hfs (h hgiven hvar)).bind fun there _ _ => ?_
      cases there <;> exact sameWith_pure _

theorem steady_filePath? {κ : Type} {view : Machine → κ} (given : Option String) (vars : Variables)
    (root : Path) : Steady view (filePath? given vars root) := by
  unfold filePath?
  split
  · exact steady_pure _
  · split
    · exact steady_pure _
    · refine (steady_pathExists _).bind fun there => ?_
      cases there <;> exact steady_pure _

theorem sameWith_readIfThere {path : Path} (hfs : FileSystem.AlikeBut l m.files fs')
    (hpath : ¬m.files.ComesTo m.directory path.text l) :
    SameWith fs' m (pathExists path >>= readIfThere path) := by
  refine (sameWith_pathExists hfs hpath).bind fun there m₁ hthere => ?_
  obtain rfl := (steady_pathExists path).eq_of_runFrom hthere
  cases there with
  | false => exact (sameWith_throw _).bind fun _ _ h => by cases h
  | true =>
    obtain ⟨spot, hspot⟩ := exists_find_of_pathExists (answer_eq_iff.mpr ⟨_, hthere⟩)
    exact (sameWith_readText hfs hpath hspot).bind fun text _ _ => sameWith_lift id _

theorem sameWith_readEntries {path : Path} (hfs : FileSystem.AlikeBut l m.files fs')
    (h : ∀ q, answer (expandHome path >>= resolve) m = .ok q →
      ¬m.files.ComesTo m.directory q.text l) : SameWith fs' m (readEntries path) := by
  rw [readEntries_eq]
  refine (sameWith_realPath hfs path).bind fun q m₁ hq => ?_
  obtain rfl := (steady_realPath path).eq_of_runFrom hq
  exact sameWith_readIfThere hfs (h q (answer_eq_iff.mpr ⟨_, hq⟩))

theorem sameWith_resolveLayers (root : Path) (layers : Layers) :
    SameWith fs' m (resolveLayers root layers) := by
  refine (sameWith_lift id _).bind fun settings _ _ => ?_
  dsimp only
  split
  · exact (sameWith_report _ _ _).bind fun _ _ _ => sameWith_pure _
  · exact sameWith_pure _

/-- The paths at which a configuration file is looked for. -/
inductive Consults (given : Option String) (vars : Variables) (root : Path) (m : Machine) : Path → Prop
  | candidate (hgiven : given.filter (· != "") = none) (hvar : nonempty? vars fileVariable = none) :
      Consults given vars root m (root.join (Path.ofString fileName))
  | found {path q : Path} (hpath : answer (filePath? given vars root) m = .ok (some path))
      (hq : answer (expandHome (root.join path) >>= resolve) m = .ok q) : Consults given vars root m q

theorem sameWith_load (hfs : FileSystem.AlikeBut l m.files fs')
    (h : ∀ path, Consults given vars root m path → ¬m.files.ComesTo m.directory path.text l)
    (overrides : List (String × Value)) : SameWith fs' m (load given vars overrides root) := by
  rw [load_eq]
  refine (sameWith_filePath? hfs fun hgiven hvar => h _ (.candidate hgiven hvar)).bind
    fun file? m₁ hfile => ?_
  have hanswer := answer_eq_iff.mpr ⟨_, hfile⟩
  obtain rfl := (steady_filePath? given vars root).eq_of_runFrom hfile
  cases file? with
  | none => exact sameWith_resolveLayers root _
  | some path =>
    refine (sameWith_readEntries hfs fun q hq => h q (.found hanswer hq)).bind fun _ _ _ => ?_
    exact (sameWith_report _ _ _).bind fun _ _ _ => sameWith_resolveLayers root _

end Settings

namespace CommandLine

variable {a : Arguments} {root : Path}

theorem steady_environment {κ : Type} {view : Machine → κ} : Steady view Arguments.environment :=
  steady_get_bind fun m => steady_pure _ m

theorem steady_root {κ : Type} {view : Machine → κ} (a : Arguments) : Steady view a.root := by
  unfold Arguments.root
  split
  · exact steady_realPath _
  · exact steady_environment.bind steady_findRoot

theorem sameWith_environment : SameWith fs' m Arguments.environment :=
  .get_bind (sameWith_pure _) rfl

theorem sameWith_root (hfs : FileSystem.AlikeBut l m.files fs') (a : Arguments) :
    SameWith fs' m a.root := by
  unfold Arguments.root
  split
  · exact sameWith_realPath hfs _
  · refine sameWith_environment.bind fun vars m₁ hvars => ?_
    cases hvars
    exact sameWith_findRoot hfs _

theorem sameWith_settings (hfs : FileSystem.AlikeBut l m.files fs')
    (h : ∀ root, answer a.root m = .ok root → ∀ path,
      Settings.Consults a.config.nonempty? m.environment.get? root m path →
        ¬m.files.ComesTo m.directory path.text l) : SameWith fs' m a.settings := by
  refine (sameWith_root hfs a).bind fun root m₁ hroot => ?_
  have hanswer := answer_eq_iff.mpr ⟨_, hroot⟩
  obtain rfl := (steady_root a).eq_of_runFrom hroot
  refine sameWith_environment.bind fun vars m₂ hvars => ?_
  cases hvars
  exact Settings.sameWith_load hfs (h root hanswer) _

theorem sameWith_contextFor (a : Arguments) (s : Settings.Loaded) :
    SameWith fs' m (contextFor a s) :=
  (sameWith_lift id _).bind fun _ _ _ => sameWith_environment.bind fun _ _ _ =>
    (sameWith_lift _ _).bind fun _ _ _ => (sameWith_lift _ _).bind fun _ _ _ =>
      (sameWith_report _ _ _).bind fun _ _ _ => sameWith_pure _

/-! ### The root before and after -/

theorem gives_load (given : Option String) (vars : Settings.Variables)
    (overrides : List (String × Value)) (root : Path) :
    Gives (fun s => s.root = root) (Settings.load given vars overrides root) := by
  have hlayers (layers : Settings.Layers) :
      Gives (fun s => s.root = root) (Settings.resolveLayers root layers) := by
    intro m s hs
    rw [Settings.answer_resolveLayers] at hs
    exact (Settings.ofWinners_eq_ok_iff.mp hs).1
  rw [Settings.load_eq]
  refine Gives.bind fun file? => ?_
  cases file? with
  | none => exact hlayers _
  | some path => exact Gives.bind fun _ => Gives.bind fun _ => hlayers _

theorem root_of_settings {s : Settings.Loaded} (h : answer a.settings m = .ok s) :
    answer a.root m = .ok s.root := by
  obtain ⟨m', hrun⟩ := answer_eq_iff.mp h
  obtain ⟨root, m₁, hroot, hnext⟩ := runFrom_bind_eq_ok_iff.mp hrun
  obtain ⟨vars, m₂, -, hload⟩ := runFrom_bind_eq_ok_iff.mp hnext
  rw [gives_load _ _ _ root m₂ s (answer_eq_iff.mpr ⟨m', hload⟩)]
  exact answer_eq_iff.mpr ⟨m₁, hroot⟩

theorem answer_root_congr (hfiles : m₁.files = m.files) (hdirectory : m₁.directory = m.directory)
    (hexpand : ∀ path : Path, path.expandHome m₁.environment = path.expandHome m.environment)
    (hroot : a.repoRoot.nonempty? = none → m₁.environment.get? Repository.rootVariable =
      m.environment.get? Repository.rootVariable) : answer a.root m₁ = answer a.root m := by
  unfold Arguments.root
  cases hgiven : a.repoRoot.nonempty? with
  | some path => exact answer_realPath_congr hfiles hdirectory (hexpand _)
  | none => exact answer_findRoot_congr hfiles hdirectory hexpand (hroot hgiven)

theorem exists_findRoot_of_prepare {level : Option String}
    (h : runFrom (Startup.prepare true level) m = (.ok (), m₁)) :
    ∃ root, answer (Repository.findRoot m.environment.get?) m = .ok root := by
  obtain ⟨_, m₂, hload, -⟩ := runFrom_bind_eq_ok_iff.mp h
  rw [Startup.loadEnvironment_none, runFrom_bind, runFrom_get] at hload
  dsimp only at hload
  obtain ⟨root, m₃, hroot, -⟩ := runFrom_bind_eq_ok_iff.mp hload
  exact ⟨root, answer_eq_iff.mpr ⟨m₃, hroot⟩⟩

/-- What a prepared invocation has to do with files of variables, whatever root it is given. At most
variables were added, and the settings are for the root that is found then. That is the same root,
unless the place of the home directory was added, or the root itself where none is given. No file has a
part in the preparation but those at the root with and without the given one, and none in the settings
or in the context but a configuration file. -/
structure Prepared (a : Arguments) (m m₁ : Machine) : Prop where
  adds : m₁.environment.Extends m.environment
  root_after : m₁.environment.get? "HOME" = m.environment.get? "HOME" →
    (a.repoRoot.nonempty? = none → m₁.environment.get? Repository.rootVariable =
      m.environment.get? Repository.rootVariable) → answer a.root m₁ = answer a.root m
  settings_root : ∀ s, answer a.settings m₁ = .ok s → answer a.root m₁ = .ok s.root
  preparation : ∀ l files, FileSystem.AlikeBut l m.files files →
    (∀ root, answer a.root m = .ok root ∨
        answer (Repository.findRoot m.environment.get?) m = .ok root →
      ¬m.files.ComesTo m.directory (Startup.environmentPath root).text l) →
      runFrom (Startup.prepare true (levelText? a)) (m.withFiles files) = (.ok (), m₁.withFiles files)
  settings : ∀ l files, FileSystem.AlikeBut l m₁.files files →
    (∀ root', answer a.root m₁ = .ok root' → ∀ path,
      Settings.Consults a.config.nonempty? m₁.environment.get? root' m₁ path →
        ¬m₁.files.ComesTo m₁.directory path.text l) →
      answer a.settings (m₁.withFiles files) = answer a.settings m₁ ∧
      answer (a.settings >>= contextFor a) (m₁.withFiles files) = answer (a.settings >>= contextFor a) m₁

/-- The invocation has loaded the file of variables at its root, and no other one has a part in the
preparation. -/
structure LoadsAtRoot (a : Arguments) (m m₁ : Machine) (root : Path) : Prop where
  found : answer a.root m = .ok root
  loads : runFrom (Startup.loadEnvironment none) m =
    runFrom (Startup.loadEnvironment (some (Startup.environmentPath root))) m
  preparation : ∀ l files, FileSystem.AlikeBut l m.files files →
    ¬m.files.ComesTo m.directory (Startup.environmentPath root).text l →
      runFrom (Startup.prepare true (levelText? a)) (m.withFiles files) = (.ok (), m₁.withFiles files)

theorem prepared_of_prepare (hprepare : runFrom (Startup.prepare true (levelText? a)) m = (.ok (), m₁)) :
    Prepared a m m₁ := by
  obtain ⟨root, hfound⟩ := exists_findRoot_of_prepare hprepare
  have hadds := (Startup.extending_prepare _ m).of_runFrom hprepare
  obtain ⟨hfiles, hdirectory⟩ : m₁.files = m.files ∧ m₁.directory = m.directory := by
    have hhides : Startup.HidesSetup fun m : Machine => (m.files, m.directory) := by
      refine ⟨fun m r => ?_, fun _ _ => rfl, fun _ _ => rfl⟩
      rw [(m.sameWorld_report r).files, (m.sameWorld_report r).directory]
    exact Prod.mk.inj ((Startup.steady_prepare hhides true _).view_eq_of_runFrom hprepare)
  refine ⟨hadds, fun hhome hvariable => ?_, fun s => root_of_settings, fun l files hfs hpaths => ?_,
    fun l files hfs hpaths => ?_⟩
  · exact answer_root_congr hfiles hdirectory (hadds.expandHome_eq hhome) hvariable
  · exact (Startup.sameWith_prepare hfs hfound (hpaths root (.inr hfound)) _).runFrom_of hprepare
  · have hsettings := sameWith_settings hfs hpaths
    exact ⟨hsettings.answer_eq,
      (hsettings.bind fun s _ _ => sameWith_contextFor a s).answer_eq⟩

/-- Whatever root an invocation is given, its preparation adds variables at most, and files elsewhere
have no part in it. With the root that it would have without, it loads the file at that root. -/
theorem loadsAtRoot (hprepare : runFrom (Startup.prepare true (levelText? a)) m = (.ok (), m₁)) :
    Prepared a m m₁ ∧
      (answer a.root m = answer (Repository.findRoot m.environment.get?) m →
        ∃ root, LoadsAtRoot a m m₁ root) := by
  refine ⟨prepared_of_prepare hprepare, fun hroot => ?_⟩
  obtain ⟨root, hfound⟩ := exists_findRoot_of_prepare hprepare
  refine ⟨root, hroot.trans hfound, ?_, fun l files hfs hpath => ?_⟩
  · rw [Startup.runFrom_loadEnvironment hfound, Startup.loadEnvironment_some]
  · exact (Startup.sameWith_prepare hfs hfound hpath _).runFrom_of hprepare

theorem loadsAtRoot_in_work :
    let m := Machine.inWork [(".env", Text.encode "PR_BENCH_REMOTE=up\n")] []
    let a : Arguments := {}
    ∃ m₁, runFrom (Startup.prepare true (levelText? a)) m = (.ok (), m₁) ∧
      m₁.environment.get? "PR_BENCH_REMOTE" = some "up" ∧ Prepared a m m₁ ∧
      answer a.root m = answer (Repository.findRoot m.environment.get?) m ∧
      ∃ root, LoadsAtRoot a m m₁ root := by
  intro m a
  obtain ⟨_, hprepare⟩ : ∃ u, runFrom (Startup.prepare true (levelText? a)) m =
      (.ok u, (runFrom (Startup.prepare true (levelText? a)) m).2) :=
    exists_runFrom_of_isOk (by decide +kernel)
  obtain ⟨hprepared, hloads⟩ := loadsAtRoot hprepare
  exact ⟨_, hprepare, by decide +kernel, hprepared, rfl, hloads rfl⟩

/-- Two roots, each with a file of variables that names the second one. -/
def withTwoRoots : Machine where
  files := ⟨[(["work"], .directory), (["other"], .directory),
    (["work", ".env"], .file (Text.encode "PR_BENCH_ROOT=/other\nPR_BENCH_REMOTE=up\n") false),
    (["other", ".env"], .file (Text.encode "PR_BENCH_ROOT=/other\nPR_BENCH_REMOTE=down\n") false)]⟩
  environment := ⟨[], "builder", []⟩
  directory := ["work"]
  output := []
  errors := []
  diagnostics := .initial
  clock := 0
  executable := "pr_bench"
  arguments := []

/-- The variables are those of the root that was left. -/
theorem not_loads_at_named_root :
    ¬∀ (a : Arguments) (m m₁ : Machine) (root : Path),
      runFrom (Startup.prepare true (levelText? a)) m = (.ok (), m₁) → answer a.root m₁ = .ok root →
        runFrom (Startup.loadEnvironment none) m =
          runFrom (Startup.loadEnvironment (some (Startup.environmentPath root))) m := by
  intro h
  obtain ⟨_, hprepare⟩ : ∃ u, runFrom (Startup.prepare true (levelText? {})) withTwoRoots =
      (.ok u, (runFrom (Startup.prepare true (levelText? {})) withTwoRoots).2) :=
    exists_runFrom_of_isOk (by decide +kernel)
  have hloads := h {} withTwoRoots _ (Path.ofString "/other") hprepare
    (yields_iff.mp (by decide +kernel))
  have hremote := congrArg (fun r => r.2.environment.get? "PR_BENCH_REMOTE") hloads
  revert hremote
  decide +kernel

end CommandLine

end MergeBench
