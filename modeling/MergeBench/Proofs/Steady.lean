import MergeBench.Proofs.Activity
import MergeBench.Run

/-!
Activities that leave a part of the machine alone. A view shows a part of it; an activity is steady
for a view if the view shows the same after it, however it ends, and if it does not end by refusing a
configuration. Once settings and context are there, all that a run still does is steady for the
setting in which it was started.
-/

namespace MergeBench

variable {α β κ ε : Type} {view : Machine → κ} {m : Machine}

/-- What a program is started in: variables, current directory, its own name and arguments. -/
def Machine.setting (m : Machine) : Environment × Location × String × List String :=
  (m.environment, m.directory, m.executable, m.arguments)

/-- What an activity finds on its machine: the setting and the files. -/
def Machine.site (m : Machine) : (Environment × Location × String × List String) × FileSystem :=
  (m.setting, m.files)

/-- All of a machine but what has been said on it. -/
def Machine.unsaid (m : Machine) :
    (Environment × Location × String × List String) × FileSystem × Nat :=
  (m.setting, m.files, m.clock)

theorem Machine.site_of_unsaid {m m' : Machine} (h : m'.unsaid = m.unsaid) : m'.site = m.site := by
  obtain ⟨hsetting, hrest⟩ := Prod.mk.inj h
  exact Prod.ext hsetting (Prod.mk.inj hrest).1

theorem Machine.SameWorld.unsaid {m m' : Machine} (h : m.SameWorld m') : m'.unsaid = m.unsaid := by
  rw [← h.eq]
  rfl

theorem Machine.SameWorld.site {m m' : Machine} (h : m.SameWorld m') : m'.site = m.site :=
  site_of_unsaid h.unsaid

/-- What others see of a program, apart from standard error. -/
def Machine.surface (m : Machine) : FileSystem × Bytes × Nat :=
  (m.files, m.output, m.clock)

structure SteadyAt (view : Machine → κ) (m : Machine) (act : Act α) : Prop where
  view_eq : view (runFrom act m).2 = view m
  not_refused : ∀ e, answer act m ≠ .error (.config e)

def Steady (view : Machine → κ) (act : Act α) : Prop :=
  ∀ m, SteadyAt view m act

theorem Steady.view_eq_of_runFrom {act : Act α} {m' : Machine} {r : Except Fault α}
    (h : Steady view act) (hrun : runFrom act m = (r, m')) : view m' = view m := by
  have hview := (h m).view_eq
  rwa [hrun] at hview

theorem Steady.eq_of_runFrom {act : Act α} {m' : Machine} {r : Except Fault α} (h : Steady id act)
    (hrun : runFrom act m = (r, m')) : m' = m :=
  h.view_eq_of_runFrom hrun

/-! ### How activities are put together -/

theorem SteadyAt.bind {act : Act α} {next : α → Act β} (h : SteadyAt view m act)
    (hnext : ∀ a m', runFrom act m = (.ok a, m') → SteadyAt view m' (next a)) :
    SteadyAt view m (act >>= next) := by
  obtain ⟨hview, hrefused⟩ := h
  have hbind := runFrom_bind act next m
  unfold answer at hrefused
  rcases hrun : runFrom act m with ⟨f | a, m'⟩
  · rw [hrun] at hview hrefused hbind
    exact ⟨by rw [hbind]; exact hview, fun e he => hrefused e (by rw [answer, hbind] at he; cases he; rfl)⟩
  · rw [hrun] at hview hbind
    obtain ⟨hview', hrefused'⟩ := hnext a m' hrun
    exact ⟨by rw [hbind]; exact hview'.trans hview, fun e => by rw [answer, hbind]; exact hrefused' e⟩

theorem Steady.bind {act : Act α} {next : α → Act β} (h : Steady view act)
    (hnext : ∀ a, Steady view (next a)) : Steady view (act >>= next) :=
  fun m => (h m).bind fun a m' _ => hnext a m'

theorem Steady.map {act : Act α} (h : Steady view act) (g : α → β) : Steady view (g <$> act) := by
  intro m
  refine ⟨by rw [runFrom_map]; exact (h m).view_eq, fun e he => (h m).not_refused e ?_⟩
  rw [answer, runFrom_map] at he
  cases hanswer : answer act m with
  | ok a =>
    rw [hanswer] at he
    cases he
  | error f =>
    rw [hanswer] at he
    cases he
    rfl

theorem steady_pure (a : α) : Steady view (pure a : Act α) :=
  fun _ => ⟨rfl, nofun⟩

theorem steady_throw {f : Fault} (hf : ∀ e, f ≠ .config e) : Steady view (throw f : Act α) :=
  fun _ => ⟨rfl, fun e h => hf e (by cases h; rfl)⟩

theorem steady_lift {fault : ε → Fault} (hfault : ∀ e e', fault e ≠ .config e') (r : Except ε α) :
    Steady view (lift fault r) := by
  cases r with
  | ok a => exact steady_pure a
  | error e => exact steady_throw (hfault e)

theorem Steady.guarded {c : Prop} [Decidable c] {f : Fault} {next : PUnit → Act α}
    (h : Steady view (next ())) (hf : ∀ e, f ≠ .config e) :
    Steady view (if c then throw f >>= next else next ()) := by
  split
  · exact (steady_throw hf).bind fun _ => h
  · exact h

theorem steady_get_bind {next : Machine → Act α} (h : ∀ m, SteadyAt view m (next m)) :
    Steady view (get >>= next) :=
  fun m => ⟨(h m).view_eq, (h m).not_refused⟩

theorem SteadyAt.lift_bind {fault : ε → Fault} (hfault : ∀ e e', fault e ≠ .config e')
    {r : Except ε α} {next : α → Act β} (h : ∀ a, r = .ok a → SteadyAt view m (next a)) :
    SteadyAt view m (lift fault r >>= next) := by
  refine (steady_lift hfault r m).bind fun a m' hrun => ?_
  rw [runFrom_lift] at hrun
  obtain ⟨hr, rfl⟩ := Prod.mk.inj hrun
  exact h a (mapError_eq_ok_iff.mp hr)

theorem steadyAt_set {m' : Machine} (h : view m' = view m) : SteadyAt view m (set m' : Act Unit) :=
  ⟨h, nofun⟩

theorem SteadyAt.set_bind {m' : Machine} {next : Unit → Act α} (hview : view m' = view m)
    (h : SteadyAt view m' (next ())) : SteadyAt view m (set m' >>= next) :=
  ⟨h.view_eq.trans hview, h.not_refused⟩

theorem steady_modify {change : Machine → Machine} (h : ∀ m, view (change m) = view m) :
    Steady view (modify change : Act Unit) :=
  fun m => ⟨h m, nofun⟩

theorem Steady.tryCatch {act : Act α} {handle : Fault → Act α} (h : Steady view act)
    (hhandle : ∀ f, (∀ e, f ≠ .config e) → Steady view (handle f)) :
    Steady view (tryCatch act handle) := by
  intro m
  obtain ⟨hview, hrefused⟩ := h m
  have hcatch := runFrom_tryCatch act handle m
  unfold answer at hrefused
  rcases hrun : runFrom act m with ⟨f | a, m'⟩
  · rw [hrun] at hview hrefused hcatch
    obtain ⟨hview', hrefused'⟩ := hhandle f (fun e he => hrefused e (congrArg Except.error he)) m'
    exact ⟨by rw [hcatch]; exact hview'.trans hview,
      fun e => by rw [answer, hcatch]; exact hrefused' e⟩
  · rw [hrun] at hview hcatch
    exact ⟨by rw [hcatch]; exact hview, fun e => by rw [answer, hcatch]; nofun⟩

/-- What is steady for a view is steady for every part of it. -/
theorem Steady.coarsen {act : Act α} (h : Steady view act) (part : κ → ε) :
    Steady (fun m => part (view m)) act :=
  fun m => ⟨congrArg part (h m).view_eq, (h m).not_refused⟩

theorem Steady.unseen {act : Act α} (h : Steady view act) : Steady (fun _ => ()) act :=
  h.coarsen fun _ => ()

theorem Steady.site {act : Act α} (h : Steady Machine.unsaid act) : Steady Machine.site act :=
  h.coarsen fun (setting, files, _) => (setting, files)

theorem Steady.setting {act : Act α} (h : Steady Machine.unsaid act) : Steady Machine.setting act :=
  h.coarsen Prod.fst

/-! ### Looking at files -/

theorem steady_onPath (path : String) (r : Except SystemError α) : Steady view (onPath path r) :=
  steady_lift (by nofun) r

theorem steady_checkPath (path : String) : Steady view (checkPath path) := by
  unfold checkPath
  split
  · exact steady_throw (by nofun)
  · exact steady_pure ()

theorem steady_entryAt (path : String) : Steady view (entryAt path) := by
  refine steady_get_bind fun m => ?_
  split
  · exact steady_pure none m
  · exact steady_onPath path _ m

theorem steady_pathExists (path : Path) : Steady view (pathExists path) :=
  (steady_entryAt path.text).bind fun _ => steady_pure _

theorem steady_isDirectory (path : Path) : Steady view (isDirectory path) := by
  refine (steady_entryAt path.text).bind fun entry => ?_
  split <;> exact steady_pure _

theorem steady_isFile (path : Path) : Steady view (isFile path) := by
  refine (steady_entryAt path.text).bind fun entry => ?_
  split <;> exact steady_pure _

theorem steady_expandHome (path : Path) : Steady view (expandHome path) :=
  steady_get_bind fun m => steady_lift (by nofun) _ m

theorem steady_currentDirectory : Steady view currentDirectory := by
  refine steady_get_bind fun m => ?_
  split
  · exact steady_pure _ m
  · exact steady_throw (by nofun) m

theorem steady_resolve (path : Path) : Steady view (resolve path) := by
  refine (steady_checkPath path.text).bind fun _ => ?_
  dsimp only
  split
  case' isTrue => refine (steady_pure []).bind fun here => ?_
  case' isFalse => refine steady_currentDirectory.bind fun here => ?_
  all_goals
    refine steady_get_bind fun m => ?_
    split
    · exact steady_throw (by nofun) m
    · exact steady_pure _ m

theorem steady_realPath (path : Path) : Steady view (expandHome path >>= resolve) :=
  (steady_expandHome path).bind steady_resolve

theorem steady_readText (path : Path) : Steady view (readText path) :=
  steady_get_bind fun _ => (steady_checkPath path.text).bind (fun _ =>
    (steady_onPath path.text _).bind fun _ => steady_lift (by nofun) _) _

theorem steady_timeStamp : Steady view timeStamp :=
  steady_get_bind fun m => steady_pure _ m

theorem steady_findRoot (vars : Settings.Variables) :
    Steady view (Repository.findRoot vars) := by
  unfold Repository.findRoot
  split
  · exact steady_realPath _
  · exact steady_currentDirectory.bind fun here => steady_resolve here.path

/-! ### What is said -/

theorem Machine.setting_report (m : Machine) (r : Record) : (m.report r).setting = m.setting := by
  unfold report
  cases m.diagnostics.shown r <;> rfl

theorem Machine.surface_report (m : Machine) (r : Record) : (m.report r).surface = m.surface := by
  unfold report
  cases m.diagnostics.shown r <;> rfl

theorem steady_report (h : ∀ m r, view (Machine.report m r) = view m) (level : Level)
    (source : Source) (text : String) : Steady view (report level source text) :=
  steady_modify fun m => h m _

theorem Machine.unsaid_report (m : Machine) (r : Record) : (m.report r).unsaid = m.unsaid := by
  unfold report
  cases m.diagnostics.shown r <;> rfl

theorem steady_printLine (line : String) : Steady Machine.unsaid (printLine line) :=
  steady_modify fun _ => rfl

theorem steady_printErrorLine (line : String) : Steady Machine.unsaid (printErrorLine line) :=
  steady_modify fun _ => rfl

/-! ### Directories, commands and steps -/

theorem steady_makeDirectory (h : ∀ m path files,
      m.files.makeDirectory m.directory path = .ok files → view { m with files := files } = view m)
    (path : Path) : Steady view (makeDirectory path) := by
  refine (steady_checkPath path.text).bind fun _ => steady_get_bind fun m => ?_
  split
  next files hfiles => exact .set_bind (h m path.text files hfiles) (steady_pure _ _)
  · exact steady_pure _ m
  · refine (steady_isDirectory path).bind (fun there => ?_) m
    split
    · exact steady_pure true
    · exact steady_throw (by nofun)

theorem steady_makeDirectories (h : ∀ m path files,
      m.files.makeDirectory m.directory path = .ok files → view { m with files := files } = view m)
    (fuel : Nat) (path : Path) : Steady view (makeDirectories fuel path) := by
  induction fuel generalizing path with
  | zero => exact steady_throw (by nofun)
  | succ fuel ih =>
    unfold makeDirectories
    refine (steady_makeDirectory h path).bind fun made => ?_
    split
    · refine Steady.guarded ?_ (by nofun)
      refine (ih path.parent).bind fun _ => (steady_makeDirectory h path).bind fun made => ?_
      split
      · exact steady_throw (by nofun)
      · exact steady_pure ()
    · exact steady_pure ()

/-- What the view shows does not depend on the files. -/
def HidesFiles (view : Machine → κ) : Prop :=
  ∀ (m : Machine) (files : FileSystem), view { m with files := files } = view m

theorem hidesFiles_setting : HidesFiles Machine.setting :=
  fun _ _ => rfl

theorem steady_ensureDirectory (h : HidesFiles view) (path : Path) :
    Steady view (ensureDirectory path) :=
  steady_makeDirectories (fun m _ files _ => h m files) _ path

namespace Command

variable (launch : Launcher) (c : Command)

theorem steady_openArtifact (h : HidesFiles view) (path : Path) : Steady view (openArtifact path) :=
  (steady_ensureDirectory h path.parent).bind fun _ => (steady_checkPath path.text).bind fun _ =>
    steady_get_bind fun m => .lift_bind (by nofun) fun _ _ => .set_bind (h m _) (steady_pure _ _)

theorem steady_childDirectory : Steady view c.childDirectory := by
  refine steady_get_bind fun m => ?_
  split
  · exact steady_pure _ m
  · exact (steady_onPath _ _).bind (fun _ => steady_pure _) m

theorem not_config_childVariables {env : Environment} {e : ConfigError} :
    c.childVariables env ≠ .error (.config e) := by
  unfold childVariables
  dsimp only
  split
  · nofun
  · split <;> nofun

theorem steady_start (redirect : Option Location)
    (h : ∀ m l run, c.await redirect m.files (launch l m.files) = .ok run →
      view { m with files := run.files, clock := m.clock + run.elapsed } = view m) :
    Steady view (c.start launch redirect) := by
  unfold start
  refine Steady.guarded ?_ (by nofun)
  refine steady_get_bind fun m => ?_
  have hvariables : Steady view (lift id (c.childVariables m.environment)) := by
    cases hv : c.childVariables m.environment with
    | ok bindings => exact steady_pure bindings
    | error f =>
      exact steady_throw fun e he => c.not_config_childVariables (hv.trans (congrArg _ he))
  refine hvariables.bind (fun bindings => c.steady_childDirectory.bind fun directory => ?_) m
  exact steady_get_bind fun m => .lift_bind (by nofun) fun run hrun =>
    .set_bind (h m _ run hrun) (steady_pure _ _)

theorem steady_passOutput (redirect : Option Location) (run : ChildRun) :
    Steady Machine.setting (c.passOutput redirect run) := by
  unfold passOutput
  split
  · exact steady_modify fun _ => rfl
  · split
    · exact steady_pure ()
    · exact steady_modify fun _ => rfl

theorem steady_finished (redirect : Option Location) (run : ChildRun) (code : Int)
    (failure : Option Failure) : Steady Machine.unsaid (c.finished redirect run code failure) := by
  refine (steady_lift (by nofun) _).bind fun (stdout, stderr) => ?_
  dsimp only
  split
  · exact (steady_printErrorLine stderr).bind fun _ => steady_pure _
  · exact (steady_pure ()).bind fun _ => steady_pure _

theorem steady_conclude (redirect : Option Location) (run : ChildRun) :
    Steady Machine.setting (c.conclude redirect run) := by
  refine (c.steady_passOutput redirect run).bind fun _ => ?_
  split
  · split
    case h_4 => exact steady_throw (by nofun)
    all_goals exact steady_pure _
  · exact steady_pure _
  · exact (c.steady_finished redirect run _ none).setting
  · exact (c.steady_finished redirect run _ _).setting

theorem steady_run : Steady Machine.setting (run launch c) := by
  have hthere : Steady Machine.setting ((c.directory.map isDirectory).getD (pure true)) := by
    cases c.directory with
    | none => exact steady_pure true
    | some path => exact steady_isDirectory path
  unfold run
  refine hthere.bind fun there => ?_
  split
  · exact steady_pure _
  · split
    · exact (c.steady_start launch none fun _ _ _ _ => rfl).bind fun run => c.steady_conclude none run
    · refine Steady.bind (((steady_openArtifact hidesFiles_setting _).map _).tryCatch fun f hf => ?_) fun opened => ?_
      · split
        · exact steady_pure _
        · exact steady_throw hf
      split
      · exact steady_pure _
      · exact (c.steady_start launch _ fun _ _ _ _ => rfl).bind fun run => c.steady_conclude _ run

end Command

namespace Run

theorem steady_announceStep (step : Step) (started : String) :
    Steady Machine.unsaid (announceStep step started) :=
  (steady_printLine _).bind fun _ => steady_timeStamp.bind fun _ => steady_pure _

theorem steady_showStep (step : Step) (started : String) :
    Steady Machine.unsaid (showStep step started) :=
  (steady_printLine _).bind fun _ => (steady_printLine _).bind fun _ =>
    steady_timeStamp.bind fun _ => steady_pure _

theorem steady_reportResult (step : Step) (result : Command.Result) :
    Steady Machine.unsaid (reportResult step result) := by
  unfold reportResult
  split
  · exact steady_report Machine.unsaid_report _ _ _
  · split <;> exact steady_report Machine.unsaid_report _ _ _

theorem steady_executeStep (launch : Launcher) (step : Step) (timeout : Int) (started : String) :
    Steady Machine.setting (executeStep launch step timeout started) :=
  (steady_report Machine.setting_report _ _ _).bind fun _ =>
    (Command.steady_run launch _).bind fun result => (steady_reportResult step result).setting.bind fun _ =>
      steady_timeStamp.bind fun _ => steady_pure _

theorem steady_runStep (launch : Launcher) (step : Step) (dryRun : Bool) (timeout : Int) :
    Steady Machine.setting (runStep launch step dryRun timeout) := by
  refine steady_timeStamp.bind fun started => ?_
  split
  · exact (steady_announceStep step started).setting
  · split
    · exact (steady_showStep step started).setting
    · exact steady_executeStep launch step timeout started

theorem steady_execute {runner : StepRunner Act}
    (h : ∀ step dryRun timeout, Steady Machine.setting (runner step dryRun timeout)) (dryRun : Bool)
    (timeout : Int) (steps : List Step) :
    Steady Machine.setting (execute runner dryRun timeout steps) := by
  induction steps with
  | nil => exact steady_pure _
  | cons step rest ih =>
    refine (h step dryRun timeout).bind fun e => ?_
    dsimp only
    split
    · exact (steady_report Machine.setting_report _ _ _).bind fun _ => steady_pure _
    · exact ih.bind fun later => steady_pure _

end Run

/-! ### Receipts -/

namespace JsonFile

theorem steady_createTemporary (h : HidesFiles view) (directory : Path) :
    Steady view (createTemporary directory) :=
  steady_get_bind fun m => .lift_bind (by nofun) fun _ _ => .set_bind (h m _) (steady_pure _ _)

theorem steady_openTemporary (h : HidesFiles view) (directory : Path) :
    Steady view (openTemporary directory) := by
  unfold openTemporary
  split
  · exact (steady_pure []).bind fun here => steady_createTemporary h _
  · exact steady_currentDirectory.bind fun here => steady_createTemporary h _

theorem steady_removeIfThere (h : HidesFiles view) (path : Path) :
    Steady view (removeIfThere path) := by
  refine steady_get_bind fun m => ?_
  split
  · exact steadyAt_set (h m _)
  · exact steady_pure () m
  · exact steady_throw (by nofun) m

theorem steady_replace (h : HidesFiles view) (source target : Path) :
    Steady view (replace source target) := by
  refine (steady_checkPath target.text).bind fun _ => steady_get_bind fun m => ?_
  split
  · exact steadyAt_set (h m _)
  · exact steady_throw (by nofun) m

theorem steady_fillAndPlace (h : HidesFiles view) (temporary : Path) (l : Location) (target : Path)
    (data : Value) : Steady view (fillAndPlace temporary l target data) := by
  refine (steady_lift (by nofun) _).bind fun text => Steady.bind ?_ fun _ =>
    steady_replace h temporary target
  exact steady_modify fun m => h m _

theorem steady_write (h : HidesFiles view) (path : Path) (data : Value) :
    Steady view (write path data) :=
  (steady_ensureDirectory h path.parent).bind fun _ => (steady_openTemporary h path.parent).bind
    fun (temporary, l) => (steady_fillAndPlace h temporary l path data).tryCatch fun _ hf =>
      (steady_removeIfThere h temporary).bind fun _ => steady_throw hf

end JsonFile

theorem Receipt.steady_build (mode : String) (dryRun : Bool) (c : BuildContext) (s : Settings)
    (p : Receipt.Provenance) (outcome : Outcome) :
    Steady Machine.setting (Receipt.build mode dryRun c s p outcome) :=
  (steady_get_bind fun m => steady_timeStamp.bind (fun _ => steady_pure _) m : Steady _ Receipt.origin).bind
    fun _ => steady_pure _

theorem Receipt.steady_write (path : Path) (receipt : Value) :
    Steady Machine.setting (Receipt.write path receipt) :=
  (steady_expandHome path).bind fun path => (steady_resolve path).bind fun path =>
    (JsonFile.steady_write hidesFiles_setting path receipt).bind fun _ => steady_pure path

namespace Run

theorem steady_writeReceipt (path : Option String) (mode : Receipt.Mode) (dryRun : Bool)
    (c : BuildContext) (s : Settings) (p : Receipt.Provenance) (outcome : Outcome) :
    Steady Machine.setting (writeReceipt path mode dryRun c s p outcome) := by
  unfold writeReceipt
  split
  · exact steady_pure ()
  · exact (Receipt.steady_build _ dryRun c s p outcome).bind fun receipt =>
      (Receipt.steady_write _ receipt).bind fun written => steady_report Machine.setting_report _ _ _

/-! ### Whole runs -/

theorem steady_query (launch : Launcher) (git : String) (root : Path) (question : List String) :
    Steady Machine.setting (Repository.query launch git root question) :=
  (Command.steady_run launch _).bind fun _ => steady_pure _

theorem steady_provenance (launch : Launcher) (req : RunRequest) :
    Steady Machine.setting (provenance launch req) := by
  unfold provenance
  split
  · exact steady_pure _
  · exact ((steady_query launch _ _ _).bind fun _ => steady_pure _).bind fun branch =>
      (steady_query launch _ _ _).bind fun commit => steady_pure _

theorem steady_prepare (launch : Launcher) (req : RunRequest) :
    Steady Machine.setting (prepare launch req) :=
  (steady_report Machine.setting_report _ _ _).bind fun _ => (steady_provenance launch req).bind fun p =>
    steady_get_bind fun m => .lift_bind (by nofun) fun steps _ => steady_pure _ m

theorem steady_benchmark (launch : Launcher) (req : RunRequest) :
    Steady Machine.setting (benchmark launch (runStep launch) req) := by
  unfold benchmark
  dsimp only
  split
  · exact (steady_report Machine.setting_report _ _ _).bind fun _ => steady_pure _
  · exact (steady_prepare launch req).bind fun (p, steps) =>
      (steady_execute (steady_runStep launch) _ _ steps).bind fun outcome =>
        (steady_writeReceipt _ _ _ _ _ p outcome).bind fun _ => steady_pure outcome

end Run

end MergeBench
