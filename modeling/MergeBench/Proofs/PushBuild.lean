import MergeBench.CommandLine.Dispatch
import MergeBench.Proofs.Settings.Precedence
import MergeBench.Proofs.Startup

/-!
A build that belongs to no pull request. There is nothing to do for it, and it ends with status zero
unless the configuration file ends the program with a fault that is no configuration error.
-/

namespace MergeBench

theorem Quiet.exists_runFrom {α : Type} {act : Act α} (h : Quiet act) {m : Machine}
    {r : Except Fault α} (hr : answer act m = r) :
    ∃ m', runFrom act m = (r, m') ∧ m.SameWorld m' :=
  ⟨(runFrom act m).2, by rw [← hr]; rfl, h.sameWorld m⟩

/-! ### The context of the build -/

theorem Settings.context?_of_sentinel {s : Settings} {vars : Settings.Variables}
    {given : Option String} (h : s.flag? vars given = some s.sentinel)
    (hfull : Text.isAllBlank s.sentinel = false) (branch : Option String) :
    ∃ c, s.context? vars given branch = .ok c ∧ c.isPullRequest = false := by
  refine ⟨⟨s.sentinel, (s.branch? vars branch).filter (· != ""), s.sentinel⟩, ?_, ?_⟩
  · unfold context?
    simp [h, hfull, BuildContext.isPullRequest]
  · simp [BuildContext.isPullRequest]

/-! ### Names of variables -/

theorem Text.mem_mended_of_systemError? {points : List Text.CodePoint} {e : Text.HalfError}
    (h : Text.systemError? points = some e) : Char.ofNat 0xFFFD ∈ (Text.mended points).toList := by
  unfold Text.systemError? at h
  split at h
  · rename_i n rest hhalf
    have hmem : Text.CodePoint.half n ∈ points :=
      (List.dropWhile_sublist _).subset (hhalf ▸ List.mem_cons_self)
    rw [Text.mended, String.toList_ofList]
    exact List.mem_map.mpr ⟨_, hmem, rfl⟩
  · cases h

/-- A name shows that it was mended. -/
theorem Settings.Shows.flagError_eq_none {s : Settings.Loaded} {winner : Option Value}
    (h : Settings.Shows s winner .flagVariable)
    (hsound : Char.ofNat 0xFFFD ∉ s.flagVariable.toList) : s.flagError = none := by
  obtain ⟨hcomes, herror⟩ := h
  rw [herror]
  cases winner with
  | none => rfl
  | some v =>
    cases v with
    | brokenText points =>
      have hname : Text.mended points = s.flagVariable := Except.ok.inj hcomes.1
      refine Option.eq_none_iff_forall_ne_some.mpr fun e he => hsound ?_
      rw [← hname]
      exact Text.mem_mended_of_systemError? he
    | _ => rfl

theorem Settings.ask_eq_error_iff {given : Option String} {nameError : Option Text.HalfError}
    {e : Text.HalfError} :
    Settings.ask given nameError = .error e ↔ given = none ∧ nameError = some e := by
  cases given <;> cases nameError <;> simp [Settings.ask]

/-- With a flag only the name of the variable for the branch is in question. -/
theorem Settings.Loaded.lookUp_of_flag {s : Settings.Loaded} {vars : Settings.Variables}
    {givenFlag : Option String} {flag : String} (hflag : s.flag? vars givenFlag = some flag)
    (hfull : Text.isAllBlank flag = false) (hname : givenFlag = none → s.flagError = none)
    (givenBranch : Option String) :
    s.lookUp vars givenFlag givenBranch = Settings.ask givenBranch s.branchError := by
  have hask : Settings.ask givenFlag s.flagError = .ok () := by
    cases givenFlag with
    | none =>
      rw [hname rfl]
      rfl
    | some _ => rfl
  have hgiven : Settings.isMissing (s.flag? vars givenFlag) = false := by
    rw [hflag]
    exact hfull
  unfold lookUp
  rw [hask, hgiven]
  rfl

/-! ### Looking up the root and the settings -/

theorem quiet_environment : Quiet CommandLine.Arguments.environment :=
  quiet_get_bind (fun _ => quiet_pure _) fun m m' h => by rw [h.environment]

theorem quiet_findRoot (vars : Settings.Variables) : Quiet (Repository.findRoot vars) := by
  unfold Repository.findRoot
  split
  · exact (quiet_expandHome _).bind quiet_resolve
  · exact quiet_currentDirectory.bind fun here => quiet_resolve here.path

namespace CommandLine

variable {a : Arguments} {m m₁ : Machine} {root location : Path} {content : Bytes}

theorem quiet_root (a : Arguments) : Quiet a.root := by
  unfold Arguments.root
  split
  · exact (quiet_expandHome _).bind quiet_resolve
  · exact quiet_environment.bind quiet_findRoot

theorem quiet_settings (a : Arguments) : Quiet a.settings :=
  (quiet_root a).bind fun root => quiet_environment.bind fun vars =>
    Settings.quiet_load a.config.nonempty? vars a.overrides root

theorem answer_settings (h : answer a.root m = .ok root) :
    answer a.settings m =
      answer (Settings.load a.config.nonempty? m.environment.get? a.overrides root) m := by
  have henvironment : answer Arguments.environment m = .ok m.environment.get? := rfl
  have hload (root : Path) (vars : Settings.Variables) :
      Quiet (Settings.load a.config.nonempty? vars a.overrides root) := Settings.quiet_load _ _ _ _
  unfold Arguments.settings
  rw [(quiet_root a).answer_bind fun root => quiet_environment.bind (hload root), h]
  change answer (Arguments.environment >>= _) m = _
  rw [quiet_environment.answer_bind (hload root), henvironment, Except.bind]

/-! ### The stages of the program -/

def runInMode (p : Pipeline Act) (a : Arguments) : Act Int :=
  match a.mode with
  | .compare => compareMode p a
  | .run => runMode p a

/-- Everything but a configuration error passes through. -/
theorem runFrom_dispatch (p : Pipeline Act) (m : Machine) :
    runFrom (dispatch p a) m =
      match runFrom (runInMode p a) m with
      | (.error (.config e), m') =>
        (.ok configStatus, m'.writeError (Machine.lineBytes s!"ERROR: {e.message}"))
      | r => r := by
  unfold dispatch runInMode
  rw [runFrom_bind, runFrom_tryCatch]
  cases a.mode with
  | compare =>
    dsimp only
    rw [runFrom_bind]
    rcases runFrom (compareMode p a) m with ⟨f | n, m'⟩
    · cases f <;> rfl
    · rfl
  | run =>
    dsimp only
    rw [runFrom_bind]
    rcases runFrom (runMode p a) m with ⟨f | n, m'⟩
    · cases f <;> rfl
    · rfl

/-- Only a request to end with a message is not passed through. -/
theorem runFrom_runArguments (p : Pipeline Act) {m m₁ : Machine}
    (hprepare : runFrom (Startup.prepare true (levelText? a)) m = (.ok (), m₁)) :
    runFrom (runArguments p a) m =
      match runFrom (dispatch p a) m₁ with
      | (.ok n, m') => (.ok (.status n), m')
      | (.error (.notice n), m') => (.ok (.message n.message), m')
      | (.error f, m') => (.error f, m') := by
  unfold runArguments
  rw [runFrom_bind, runFrom_tryCatch, runFrom_bind, hprepare]
  dsimp only
  rw [runFrom_bind]
  rcases runFrom (dispatch p a) m₁ with ⟨f | n, m'⟩
  · cases f <;> rfl
  · rfl

theorem exists_runFrom_configureDiagnostics {level : Option String} {n : Nat}
    (h : Diagnostics.levelNamed (Startup.levelText level m.environment) = .ok n) :
    ∃ m', runFrom (Startup.configureDiagnostics level) m = (.ok (), m') ∧ m.SameWorld m' := by
  refine ⟨{ m with diagnostics := { m.diagnostics with threshold := n, attached := true } }, ?_, rfl⟩
  rw [Startup.runFrom_configureDiagnostics, h]

/-- The root of the repository holds no file of variables. -/
def NoVariables (m : Machine) : Prop :=
  ∃ root, answer (Repository.findRoot m.environment.get?) m = .ok root ∧
    answer (pathExists (root.join (Path.ofString Startup.environmentFile))) m = .ok false

theorem exists_runFrom_loadEnvironment (h : NoVariables m) :
    ∃ m', runFrom (Startup.loadEnvironment none) m = (.ok false, m') ∧ m.SameWorld m' := by
  obtain ⟨root, hroot, hnone⟩ := h
  obtain ⟨m₁, hexists, hsame⟩ := (quiet_pathExists _).exists_runFrom hnone
  refine ⟨m₁, ?_, hsame⟩
  rw [Startup.runFrom_loadEnvironment hroot, Startup.loadIfThere, Startup.environmentPath, runFrom_bind,
    hexists]
  rfl

theorem exists_runFrom_prepare {level : Option String} {n : Nat} (hnone : NoVariables m)
    (hlevel : Diagnostics.levelNamed (Startup.levelText level m.environment) = .ok n) :
    ∃ m', runFrom (Startup.prepare true level) m = (.ok (), m') ∧ m.SameWorld m' := by
  obtain ⟨m₁, hload, hsame₁⟩ := exists_runFrom_loadEnvironment hnone
  rw [← hsame₁.environment] at hlevel
  obtain ⟨m₂, hconfigure, hsame₂⟩ := exists_runFrom_configureDiagnostics hlevel
  refine ⟨m₂, ?_, hsame₁.trans hsame₂⟩
  unfold Startup.prepare
  simp only [↓reduceIte]
  rw [runFrom_bind, hload]
  exact hconfigure

theorem runFrom_runMode (p : Pipeline Act) (m : Machine) :
    runFrom (runMode p a) m =
      match runFrom a.settings m with
      | (.ok s, m') => runFrom (runWith p a s) m'
      | (.error (.config e), m') =>
        runFrom (do
          if ← skipsWithoutSettings a then
            report .warning .runMode
              s!"not a pull request build; ignoring invalid configuration: {e.message}"
            return 0
          else throw (.config e)) m'
      | (.error f, m') => (.error f, m') := by
  unfold runMode
  rw [runFrom_bind, runFrom_tryCatch, runFrom_map]
  unfold answer
  rcases runFrom a.settings m with ⟨f | s, m'⟩
  · cases f <;> rfl
  · rfl

/-! ### Nothing to do -/

theorem benchmarkStatus_of_not_pullRequest {req : RunRequest}
    (h : req.context.isPullRequest = false) (launch : Launcher) :
    (Pipeline.standard launch).benchmarkStatus req = (do
      report .info .orchestrator
        s!"{req.settings.flagVariable}={req.context.flag}: not a pull request build, nothing to benchmark"
      return 0) := by
  unfold Pipeline.benchmarkStatus Pipeline.standard Run.benchmark
  simp [h]

theorem runFrom_readContext {s : Settings} {vars : Settings.Variables} {flag branch : Option String}
    {c : BuildContext} (h : s.context? vars flag branch = .ok c) (m : Machine) :
    runFrom (s.readContext vars flag branch) m =
      (.ok c, m.report ⟨.debug, .context, s!"build context: {c.describe}"⟩) := by
  rw [Settings.readContext, h]
  rfl

theorem runFrom_runWith {flag : Option String} (hflag : a.flag? = .ok flag) (p : Pipeline Act)
    (s : Settings.Loaded) (m : Machine) :
    runFrom (runWith p a s) m = runFrom (do
      lift .variableName (s.lookUp m.environment.get? flag a.branch?)
      let context ← s.readContext m.environment.get? flag a.branch?
      if context.isPullRequest && a.dryRun then showHeader context s.toSettings
      p.benchmarkStatus ⟨context, s.toSettings, a.dryRun, a.receipt.nonempty?⟩) m := by
  unfold runWith
  rw [hflag, runFrom_bind, runFrom_lift]
  rfl

section

variable {s : Settings.Loaded} {flag : Option String} (hflag : a.flag? = .ok flag)
  (hsentinel : s.flag? m.environment.get? flag = some s.sentinel)
  (hfull : Text.isAllBlank s.sentinel = false) (hname : flag = none → s.flagError = none)

include hflag hsentinel hfull hname

/-- For all launchers alike nothing is done with settings under which the flag is the sentinel. -/
theorem exists_runFrom_runWith (hbranch : Settings.ask a.branch? s.branchError = .ok ()) :
    ∃ m', (∀ launch, runFrom (runWith (Pipeline.standard launch) a s) m = (.ok 0, m')) ∧
      m.SameWorld m' := by
  obtain ⟨c, hc, hpr⟩ := Settings.context?_of_sentinel hsentinel hfull a.branch?
  have hlookUp := (Settings.Loaded.lookUp_of_flag hsentinel hfull hname a.branch?).trans hbranch
  have hreport := Machine.sameWorld_report m ⟨.debug, .context, s!"build context: {c.describe}"⟩
  refine ⟨_, fun launch => ?_, hreport.trans (Machine.sameWorld_report _ ⟨.info, .orchestrator,
    s!"{s.flagVariable}={c.flag}: not a pull request build, nothing to benchmark"⟩)⟩
  rw [runFrom_runWith hflag, runFrom_bind, runFrom_lift, hlookUp]
  change runFrom (s.readContext m.environment.get? flag a.branch? >>= _) m = _
  rw [runFrom_bind, runFrom_readContext hc]
  simp only [hpr, Bool.false_and, Bool.false_eq_true, ↓reduceIte]
  rw [benchmarkStatus_of_not_pullRequest hpr]
  rfl

end

/-- With the default names of settings the build belongs to no pull request. -/
def SaysPush (a : Arguments) (m : Machine) : Prop :=
  a.pullRequest = .text "false" ∨
    a.pullRequest = .absent ∧ m.environment.get? "TRAVIS_PULL_REQUEST" = some "false"

theorem SaysPush.flag? (h : SaysPush a m) :
    ∃ flag, a.flag? = .ok flag ∧ ∀ s : Settings, s.flagVariable = "TRAVIS_PULL_REQUEST" →
      s.flag? m.environment.get? flag = some "false" := by
  rcases h with hgiven | ⟨habsent, hvariable⟩
  · exact ⟨some "false", by rw [Arguments.flag?, hgiven], fun s _ => rfl⟩
  · refine ⟨none, by rw [Arguments.flag?, habsent], fun s hs => ?_⟩
    rw [Settings.flag?, Option.none_or, hs, hvariable]

theorem SaysPush.of_sameWorld (h : SaysPush a m) (hsame : m.SameWorld m₁) : SaysPush a m₁ := by
  rw [SaysPush, hsame.environment]
  exact h

theorem exists_runFrom_skipsWithoutSettings (hpush : SaysPush a m) (hroot : answer a.root m = .ok root) :
    ∃ m', runFrom (skipsWithoutSettings a) m = (.ok true, m') ∧ m.SameWorld m' := by
  obtain ⟨m₁, hrun, hsame⟩ := (quiet_root a).exists_runFrom hroot
  obtain ⟨flag, hflag, hsentinel⟩ := (hpush.of_sameWorld hsame).flag?
  refine ⟨m₁, ?_, hsame⟩
  unfold skipsWithoutSettings
  rw [runFrom_bind, hrun, hflag]
  change (Except.ok (Settings.isSentinelFlag { root := root } m₁.environment.get? flag), m₁) = _
  rw [Settings.isSentinelFlag, hsentinel { root := root } rfl]
  rfl

/-- These settings leave it to the default names whether the build belongs to a pull request. -/
structure LeavesPush (s : Settings.Loaded) : Prop where
  sentinel : s.sentinel = "false"
  flagVariable : s.flagVariable = "TRAVIS_PULL_REQUEST"
  flagError : s.flagError = none

theorem exists_runFrom_runMode (hpush : SaysPush a m) (hroot : answer a.root m = .ok root)
    (hleaves : ∀ s, answer a.settings m = .ok s →
      LeavesPush s ∧ Settings.ask a.branch? s.branchError = .ok ())
    (hreports : Reports (answer a.settings m)) :
    ∃ m', (∀ launch, runFrom (runMode (Pipeline.standard launch) a) m = (.ok 0, m')) ∧
      m.SameWorld m' := by
  obtain ⟨s, hs⟩ | ⟨e, he⟩ := hreports
  · obtain ⟨m₁, hrun, hsame₁⟩ := (quiet_settings a).exists_runFrom hs
    obtain ⟨hs, hbranch⟩ := hleaves s hs
    obtain ⟨flag, hflag, hfalse⟩ := (hpush.of_sameWorld hsame₁).flag?
    obtain ⟨m₂, hrun₂, hsame₂⟩ := exists_runFrom_runWith hflag
      (by rw [hs.sentinel]; exact hfalse s.toSettings hs.flagVariable) (by rw [hs.sentinel]; rfl)
      (fun _ => hs.flagError) hbranch
    refine ⟨m₂, fun launch => ?_, hsame₁.trans hsame₂⟩
    rw [runFrom_runMode, hrun]
    exact hrun₂ launch
  · obtain ⟨m₁, hrun, hsame₁⟩ := (quiet_settings a).exists_runFrom he
    obtain ⟨m₂, hskips, hsame₂⟩ := exists_runFrom_skipsWithoutSettings (hpush.of_sameWorld hsame₁)
      (((quiet_root a).answer_eq hsame₁).trans hroot)
    have hreport := m₂.sameWorld_report ⟨.warning, .runMode,
      s!"not a pull request build; ignoring invalid configuration: {e.message}"⟩
    refine ⟨_, fun launch => ?_, (hsame₁.trans hsame₂).trans hreport⟩
    rw [runFrom_runMode, hrun]
    dsimp only
    rw [runFrom_bind, hskips]
    rfl

/-- A command line for a build that belongs to no pull request, with a configuration file. -/
structure PushBuild (arguments : List String) (m : Machine) (a : Arguments) (root location : Path)
    (content : Bytes) : Prop where
  parsed : parse arguments = .arguments a
  mode : a.mode = .run
  push : SaysPush a m
  level : ∃ n, Diagnostics.levelNamed (Startup.levelText (levelText? a) m.environment) = .ok n
  noVariables : NoVariables m
  root_eq : answer a.root m = .ok root
  file : Settings.FileFound m a.config.nonempty? m.environment.get? root location content
  /-- The file does not say otherwise what a build without a pull request looks like. -/
  defaults : ∀ s, answer a.settings m = .ok s →
    s.sentinel = "false" ∧ s.flagVariable = "TRAVIS_PULL_REQUEST"

/-- For all launchers alike, and so without starting a process, the program ends with status zero. It
writes to standard error at most. -/
def Skips (arguments : List String) (m : Machine) : Prop :=
  ∃ m', (∀ launch, runFrom (run (Pipeline.standard launch) arguments) m = (.ok (.status 0), m')) ∧
    m.SameWorld m'

variable {arguments : List String}

theorem PushBuild.strays_iff (h : PushBuild arguments m a root location content) :
    Strays (answer a.settings m) ↔
      Settings.StrayContent m.environment.get? a.overrides content := by
  rw [answer_settings h.root_eq, Settings.answer_load h.file, Settings.strays_ofContent_iff]

/-- No branch is given, and under the settings for the content the system cannot be asked for the
variable that holds it. -/
structure LosesBranch (a : Arguments) (m : Machine) (root location : Path) (content : Bytes) : Prop where
  absent : a.branch? = none
  named : ∃ s e, Settings.ofContent location content m.environment.get? a.overrides root = .ok s ∧
    s.branchError = some e

theorem PushBuild.settings_iff (h : PushBuild arguments m a root location content)
    {s : Settings.Loaded} : answer a.settings m = .ok s ↔
      Settings.ofContent location content m.environment.get? a.overrides root = .ok s := by
  rw [answer_settings h.root_eq, Settings.answer_load h.file]

theorem PushBuild.leavesPush (h : PushBuild arguments m a root location content) {s : Settings.Loaded}
    (hs : answer a.settings m = .ok s) : LeavesPush s := by
  obtain ⟨hsentinel, hvariable⟩ := h.defaults s hs
  obtain ⟨-, -, entries, -, -, -, hlayers⟩ := Settings.ofContent_eq_ok_iff.mp (h.settings_iff.mp hs)
  have hshows := (Settings.ofWinners_eq_ok_iff.mp hlayers).2 .flagVariable
  exact ⟨hsentinel, hvariable, hshows.flagError_eq_none (by rw [hvariable]; decide)⟩

theorem PushBuild.skips (h : PushBuild arguments m a root location content)
    (hcontent : ¬Settings.StrayContent m.environment.get? a.overrides content)
    (hbranch : ¬LosesBranch a m root location content) : Skips arguments m := by
  obtain ⟨n, hlevel⟩ := h.level
  obtain ⟨m₁, hprepare, hsame₁⟩ := exists_runFrom_prepare h.noVariables hlevel
  have hsettings := (quiet_settings a).answer_eq hsame₁
  have hroot := ((quiet_root a).answer_eq hsame₁).trans h.root_eq
  have hreports : Reports (answer a.settings m₁) := by
    rw [hsettings, reports_iff, h.strays_iff]
    exact hcontent
  have hleaves : ∀ s, answer a.settings m₁ = .ok s →
      LeavesPush s ∧ Settings.ask a.branch? s.branchError = .ok () := by
    intro s hs
    have hs := hsettings.symm.trans hs
    refine ⟨h.leavesPush hs, ?_⟩
    cases hask : Settings.ask a.branch? s.branchError with
    | ok _ => rfl
    | error e =>
      obtain ⟨habsent, herror⟩ := Settings.ask_eq_error_iff.mp hask
      exact absurd ⟨habsent, s, e, h.settings_iff.mp hs, herror⟩ hbranch
  obtain ⟨m₂, hmode, hsame₂⟩ := exists_runFrom_runMode (h.push.of_sameWorld hsame₁) hroot hleaves
    hreports
  refine ⟨m₂, fun launch => ?_, hsame₁.trans hsame₂⟩
  rw [run, h.parsed]
  dsimp only
  rw [runFrom_runArguments _ hprepare, runFrom_dispatch, runInMode, h.mode, hmode]

theorem answer_findRoot_inWork {files : List (String × Bytes)} {bindings : List (String × String)}
    (hunset : Settings.nonempty? (Machine.inWork files bindings).environment.get?
      Repository.rootVariable = none) :
    answer (Repository.findRoot (Machine.inWork files bindings).environment.get?)
        (.inWork files bindings) = .ok (Path.ofString "/work") := by
  have hdirectory : answer currentDirectory (.inWork files bindings) = .ok ["work"] := rfl
  rw [Repository.findRoot, hunset]
  dsimp only
  rw [quiet_currentDirectory.answer_bind fun here => quiet_resolve here.path, hdirectory]
  change answer (resolve (Path.ofString "/work")) _ = _
  exact answer_resolve rfl rfl rfl rfl

end CommandLine

end MergeBench
