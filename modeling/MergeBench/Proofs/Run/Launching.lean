import MergeBench.Proofs.Plan

/-!
No run starts a command without words. An activity is worded if, however it goes, it does not come to
launching an empty list; of all that a run does only the start of a command could, and there the words
are those of a step or of a question to `git`. By induction on the steps a plan whose steps are sound
is run without it, and loaded settings make such plans only.
-/

namespace MergeBench

variable {α β ε : Type} {launch : Launcher}

/-- The activity never ends in an attempt to launch a command without words. -/
def Worded (act : Act α) : Prop :=
  ∀ m, answer act m ≠ .error .emptyCommand

/-! ### How activities are put together -/

theorem worded_pure (a : α) : Worded (pure a : Act α) := by
  intro m h
  cases h

theorem worded_throw {f : Fault} (hf : f ≠ .emptyCommand) : Worded (throw f : Act α) := by
  intro m h
  apply hf
  cases h
  rfl

/-- What comes next is entered with a value that the activity gave. -/
theorem Worded.bind_given {act : Act α} {next : α → Act β} (h : Worded act)
    (hnext : ∀ a m m', runFrom act m = (.ok a, m') → Worded (next a)) : Worded (act >>= next) := by
  intro m herror
  obtain ⟨m', hrun⟩ := answer_eq_iff.mp herror
  rcases runFrom_bind_eq_error_iff.mp hrun with hfirst | ⟨a, m₁, hgiven, hlater⟩
  · exact h m (answer_eq_iff.mpr ⟨m', hfirst⟩)
  · exact hnext a m m₁ hgiven m₁ (answer_eq_iff.mpr ⟨m', hlater⟩)

theorem Worded.bind {act : Act α} {next : α → Act β} (h : Worded act)
    (hnext : ∀ a, Worded (next a)) : Worded (act >>= next) :=
  h.bind_given fun a _ _ _ => hnext a

theorem Worded.tryCatch {act : Act α} {handle : Fault → Act α} (h : Worded act)
    (hhandle : ∀ f, f ≠ .emptyCommand → Worded (handle f)) : Worded (tryCatch act handle) := by
  intro m herror
  rw [answer, runFrom_tryCatch] at herror
  rcases hrun : runFrom act m with ⟨f | a, m'⟩ <;> rw [hrun] at herror
  · have hf : f ≠ .emptyCommand := by
      rintro rfl
      exact h m (answer_eq_iff.mpr ⟨m', hrun⟩)
    exact hhandle f hf m' herror
  · cases herror

theorem worded_lift {fault : ε → Fault} (hfault : ∀ e, fault e ≠ .emptyCommand) (r : Except ε α) :
    Worded (lift fault r) := by
  cases r with
  | ok a => exact worded_pure a
  | error e => exact worded_throw (hfault e)

theorem worded_get_bind {next : Machine → Act α} (h : ∀ m, Worded (next m)) :
    Worded (get >>= next) := by
  intro m
  exact h m m

theorem worded_set (m' : Machine) : Worded (set m' : Act Unit) := by
  intro m h
  cases h

theorem worded_modify (change : Machine → Machine) : Worded (modify change : Act Unit) := by
  intro m h
  cases h

theorem Worded.guarded {c : Prop} [Decidable c] {f : Fault} {next : PUnit → Act α}
    (h : ¬c → Worded (next ())) (hf : f ≠ .emptyCommand) :
    Worded (if c then throw f >>= next else next ()) := by
  by_cases hc : c
  · rw [if_pos hc]
    intro m herror
    apply hf
    cases herror
    rfl
  · rw [if_neg hc]
    exact h hc

/-! ### Files and what is said -/

theorem worded_onPath (path : String) (r : Except SystemError α) : Worded (onPath path r) :=
  worded_lift (by nofun) r

theorem worded_checkPath (path : String) : Worded (checkPath path) := by
  unfold checkPath
  split
  · exact worded_throw (by nofun)
  · exact worded_pure ()

theorem worded_entryAt (path : String) : Worded (entryAt path) := by
  refine worded_get_bind fun m => ?_
  split
  · exact worded_pure none
  · exact worded_onPath path _

theorem worded_isDirectory (path : Path) : Worded (isDirectory path) := by
  refine (worded_entryAt path.text).bind fun entry => ?_
  split <;> exact worded_pure _

theorem worded_isFile (path : Path) : Worded (isFile path) := by
  refine (worded_entryAt path.text).bind fun entry => ?_
  split <;> exact worded_pure _

theorem worded_expandHome (path : Path) : Worded (expandHome path) :=
  worded_get_bind fun _ => worded_lift (by nofun) _

theorem worded_currentDirectory : Worded currentDirectory := by
  refine worded_get_bind fun m => ?_
  split
  · exact worded_pure _
  · exact worded_throw (by nofun)

theorem worded_resolve (path : Path) : Worded (resolve path) := by
  refine (worded_checkPath path.text).bind fun _ => ?_
  dsimp only
  split
  case' isTrue => refine (worded_pure []).bind fun here => ?_
  case' isFalse => refine worded_currentDirectory.bind fun here => ?_
  all_goals
    refine worded_get_bind fun m => ?_
    split
    · exact worded_throw (by nofun)
    · exact worded_pure _

theorem worded_timeStamp : Worded timeStamp :=
  worded_get_bind fun _ => worded_pure _

theorem worded_report (level : Level) (source : Source) (text : String) :
    Worded (report level source text) :=
  worded_modify _

theorem worded_makeDirectory (path : Path) : Worded (makeDirectory path) := by
  refine (worded_checkPath path.text).bind fun _ => worded_get_bind fun m => ?_
  split
  · exact (worded_set _).bind fun _ => worded_pure _
  · exact worded_pure _
  · refine (worded_isDirectory path).bind fun there => ?_
    split
    · exact worded_pure _
    · exact worded_throw (by nofun)

theorem worded_makeDirectories (fuel : Nat) (path : Path) : Worded (makeDirectories fuel path) := by
  induction fuel generalizing path with
  | zero => exact worded_throw (by nofun)
  | succ fuel ih =>
    unfold makeDirectories
    refine (worded_makeDirectory path).bind fun made => ?_
    split
    · refine Worded.guarded (fun _ => ?_) (by nofun)
      refine (ih path.parent).bind fun _ => (worded_makeDirectory path).bind fun made => ?_
      split
      · exact worded_throw (by nofun)
      · exact worded_pure ()
    · exact worded_pure ()

theorem worded_ensureDirectory (path : Path) : Worded (ensureDirectory path) :=
  worded_makeDirectories _ path

/-! ### Commands with words -/

namespace Command

variable {c : Command}

theorem childVariables_ne_emptyCommand (c : Command) (env : Environment) :
    c.childVariables env ≠ .error .emptyCommand := by
  unfold childVariables
  dsimp only
  split
  · nofun
  · split <;> nofun

theorem worded_childVariables (c : Command) (env : Environment) :
    Worded (lift id (c.childVariables env)) := by
  intro m h
  apply c.childVariables_ne_emptyCommand env
  rw [answer_lift] at h
  cases hvariables : c.childVariables env with
  | ok bindings =>
    rw [hvariables] at h
    cases h
  | error f =>
    rw [hvariables] at h
    exact h

theorem worded_childDirectory (c : Command) : Worded c.childDirectory := by
  refine worded_get_bind fun m => ?_
  split
  · exact worded_pure _
  · exact (worded_onPath _ _).bind fun _ => worded_pure _

/-- The only place where an empty list could be launched. -/
theorem worded_start (hwords : c.words ≠ []) (launch : Launcher) (redirect : Option Location) :
    Worded (c.start launch redirect) := by
  have hfull : ¬c.words.isEmpty = true := by simpa using hwords
  unfold start
  rw [if_neg hfull]
  refine worded_get_bind fun m => (c.worded_childVariables _).bind fun bindings => ?_
  refine c.worded_childDirectory.bind fun directory => worded_get_bind fun m => ?_
  exact (worded_lift (by nofun) _).bind fun run => (worded_set _).bind fun _ => worded_pure run

theorem worded_openArtifact (path : Path) : Worded (openArtifact path) :=
  (worded_ensureDirectory path.parent).bind fun _ => (worded_checkPath path.text).bind fun _ =>
    worded_get_bind fun _ => (worded_onPath _ _).bind fun _ => (worded_set _).bind fun _ =>
      worded_pure _

theorem worded_passOutput (c : Command) (redirect : Option Location) (run : ChildRun) :
    Worded (c.passOutput redirect run) := by
  unfold passOutput
  split
  · exact worded_modify _
  · split
    · exact worded_pure ()
    · exact worded_modify _

theorem worded_finished (c : Command) (redirect : Option Location) (run : ChildRun) (code : Int)
    (failure : Option Failure) : Worded (c.finished redirect run code failure) := by
  refine (worded_lift (by nofun) _).bind fun (stdout, stderr) => ?_
  dsimp only
  split
  · exact (worded_modify _).bind fun _ => worded_pure _
  · exact (worded_pure ()).bind fun _ => worded_pure _

theorem worded_conclude (c : Command) (redirect : Option Location) (run : ChildRun) :
    Worded (c.conclude redirect run) := by
  refine (c.worded_passOutput redirect run).bind fun _ => ?_
  split
  · split
    case h_4 => exact worded_throw (by nofun)
    all_goals exact worded_pure _
  · exact worded_pure _
  · exact c.worded_finished redirect run _ none
  · exact c.worded_finished redirect run _ _

theorem worded_attempt (hwords : c.words ≠ []) (launch : Launcher) (redirect : Option Location) :
    Worded (attempt launch c redirect) :=
  (worded_start hwords launch redirect).bind (c.worded_conclude redirect)

theorem worded_run (hwords : c.words ≠ []) (launch : Launcher) : Worded (run launch c) := by
  intro m h
  obtain ⟨m', hrun⟩ := answer_eq_iff.mp h
  generalize hr : (Except.error .emptyCommand : Except Fault Result) = r at hrun
  cases goes_of_run hrun with
  | unsearchable hdirectory hthere =>
    cases hr
    exact worded_isDirectory _ _ hthere
  | noDirectory | unwritable => cases hr
  | unopened hplace hartifact hopen =>
    cases hr
    exact worded_openArtifact _ _ (answer_eq_iff.mpr ⟨_, hopen⟩)
  | attempted hplace hopens hattempt =>
    cases hr
    exact worded_attempt hwords launch _ _ (answer_eq_iff.mpr ⟨_, hattempt⟩)

end Command

/-! ### Receipts -/

namespace JsonFile

theorem worded_openTemporary (directory : Path) : Worded (openTemporary directory) := by
  have hcreate : ∀ there, Worded (createTemporary there) := fun there =>
    worded_get_bind fun _ => (worded_onPath _ _).bind fun _ => (worded_set _).bind fun _ =>
      worded_pure _
  unfold openTemporary
  split
  · exact (worded_pure []).bind fun _ => hcreate _
  · exact worded_currentDirectory.bind fun _ => hcreate _

theorem worded_removeIfThere (path : Path) : Worded (removeIfThere path) := by
  refine worded_get_bind fun m => ?_
  split
  · exact worded_set _
  · exact worded_pure ()
  · exact worded_throw (by nofun)

theorem worded_fillAndPlace (temporary : Path) (l : Location) (target : Path) (data : Value) :
    Worded (fillAndPlace temporary l target data) := by
  refine (worded_lift (by nofun) _).bind fun text => (worded_modify _).bind fun _ => ?_
  refine (worded_checkPath target.text).bind fun _ => worded_get_bind fun m => ?_
  split
  · exact worded_set _
  · exact worded_throw (by nofun)

theorem worded_write (path : Path) (data : Value) : Worded (write path data) :=
  (worded_ensureDirectory path.parent).bind fun _ => (worded_openTemporary path.parent).bind
    fun (temporary, l) => (worded_fillAndPlace temporary l path data).tryCatch fun _ hf =>
      (worded_removeIfThere temporary).bind fun _ => worded_throw hf

end JsonFile

namespace Run

theorem worded_writeReceipt (path : Option String) (mode : Receipt.Mode) (dryRun : Bool)
    (c : BuildContext) (s : Settings) (p : Receipt.Provenance) (outcome : Outcome) :
    Worded (writeReceipt path mode dryRun c s p outcome) := by
  have horigin : Worded Receipt.origin :=
    worded_get_bind fun _ => worded_timeStamp.bind fun _ => worded_pure _
  have hwrite : ∀ target receipt, Worded (Receipt.write target receipt) := fun target receipt =>
    (worded_expandHome target).bind fun _ => (worded_resolve _).bind fun target =>
      (JsonFile.worded_write target receipt).bind fun _ => worded_pure target
  unfold writeReceipt
  split
  · exact worded_pure ()
  · exact (horigin.bind fun _ => worded_pure _).bind fun receipt =>
      (hwrite _ receipt).bind fun _ => worded_report _ _ _

/-! ### Steps and runs -/

variable {step : Step} {steps : List Step} {s : Settings}

theorem worded_reportResult (step : Step) (result : Command.Result) :
    Worded (reportResult step result) := by
  unfold reportResult
  split
  · exact worded_report _ _ _
  · split <;> exact worded_report _ _ _

theorem worded_runStep (h : step.Sound) (launch : Launcher) (dryRun : Bool) (timeout : Int) :
    Worded (runStep launch step dryRun timeout) := by
  refine worded_timeStamp.bind fun started => ?_
  cases h with
  | announce hkind =>
    rw [hkind]
    exact (worded_modify _).bind fun _ => worded_timeStamp.bind fun _ => worded_pure _
  | command hkind hwords =>
    rw [hkind]
    cases dryRun with
    | true =>
      exact (worded_modify _).bind fun _ => (worded_modify _).bind fun _ =>
        worded_timeStamp.bind fun _ => worded_pure _
    | false =>
      refine (worded_report _ _ _).bind fun _ => ?_
      refine (Command.worded_run (c := commandOf step timeout) hwords launch).bind fun result => ?_
      exact (worded_reportResult step result).bind fun _ => worded_timeStamp.bind fun _ => worded_pure _

/-- Steps that are all sound are run without launching an empty list. -/
theorem worded_execute (h : ∀ step ∈ steps, step.Sound) (launch : Launcher) (dryRun : Bool)
    (timeout : Int) : Worded (execute (runStep launch) dryRun timeout steps : Act Outcome) := by
  induction steps with
  | nil => exact worded_pure _
  | cons step rest ih =>
    obtain ⟨hstep, hrest⟩ := List.forall_mem_cons.mp h
    refine (worded_runStep hstep launch dryRun timeout).bind fun e => ?_
    dsimp only
    split
    · exact (worded_report _ _ _).bind fun _ => worded_pure _
    · exact (ih hrest).bind fun later => worded_pure _

theorem worded_query (launch : Launcher) (git : String) (root : Path) (question : List String) :
    Worded (Repository.query launch git root question) :=
  (Command.worded_run (by simp) launch).bind fun _ => worded_pure _

theorem worded_prepare (launch : Launcher) (req : RunRequest) : Worded (prepare launch req) := by
  have hprovenance : Worded (provenance launch req) := by
    unfold provenance
    split
    · exact worded_pure _
    · refine ((worded_query launch _ _ _).bind fun _ => worded_pure _).bind fun branch => ?_
      exact (worded_query launch _ _ _).bind fun commit => worded_pure _
  refine (worded_report _ _ _).bind fun _ => hprovenance.bind fun p => ?_
  exact worded_get_bind fun _ => (worded_lift (by nofun) _).bind fun steps => worded_pure _

theorem worded_benchmark (launch : Launcher) {req : RunRequest} (h : req.settings.Valid) :
    Worded (benchmark launch (runStep launch) req) := by
  unfold benchmark
  dsimp only
  split
  · exact (worded_report _ _ _).bind fun _ => worded_pure _
  · refine (worded_prepare launch req).bind_given fun (p, steps) m m' hprepare => ?_
    have hsound := Plan.sound_of_benchmark h (plan_of_prepare hprepare)
    exact (worded_execute hsound launch _ _).bind fun outcome =>
      (worded_writeReceipt _ _ _ _ _ p outcome).bind fun _ => worded_pure outcome

theorem worded_missingArtifacts (benches : Path) (names : List String) :
    Worded (missingArtifacts benches names) := by
  induction names with
  | nil => exact worded_pure _
  | cons name rest ih =>
    refine (worded_isFile _).bind fun there => ih.bind fun missing => ?_
    split <;> exact worded_pure _

theorem worded_prepareCompare (req : CompareRequest) : Worded (prepareCompare req) := by
  unfold prepareCompare
  refine worded_get_bind fun _ => (worded_lift (by nofun) _).bind fun benches => ?_
  dsimp only
  split
  · refine (worded_missingArtifacts _ _).bind fun missing => ?_
    exact Worded.guarded (fun _ => worded_pure _) (by nofun)
  · exact worded_pure _

theorem sound_of_prepareCompare {req : CompareRequest} {m m' : Machine}
    (h : runFrom (prepareCompare req) m = (.ok steps, m')) : ∀ step ∈ steps, step.Sound := by
  have hgives : Gives (fun steps : List Step => ∀ step ∈ steps, step.Sound) (prepareCompare req) := by
    unfold prepareCompare
    refine Gives.bind fun _ => Gives.bind fun benches => ?_
    dsimp only
    split
    · refine Gives.bind fun missing => ?_
      split
      · exact Gives.bind fun _ => gives_pure (Plan.sound_compareSteps _ benches _ _)
      · exact gives_pure (Plan.sound_compareSteps _ benches _ _)
    · exact gives_pure (Plan.sound_compareSteps _ benches _ _)
  exact hgives m steps (answer_eq_iff.mpr ⟨m', h⟩)

theorem worded_compare (launch : Launcher) (req : CompareRequest) :
    Worded (compare (runStep launch) req) := by
  refine (worded_prepareCompare req).bind_given fun steps m m' hprepare => ?_
  exact (worded_execute (sound_of_prepareCompare hprepare) launch _ _).bind fun outcome =>
    (worded_writeReceipt _ _ _ _ _ _ outcome).bind fun _ => worded_pure outcome

/-- Settings that were loaded, from whatever layers, are valid. Under them every step of every plan can
be taken, a pull request gives all refs and results their names, and neither the benchmark nor a
comparison comes to launching a command without words. -/
theorem plans_sound_of_load {given : Option String} {vars : Settings.Variables}
    {overrides : List (String × Value)} {root : Path} {m : Machine} {s : Settings.Loaded}
    (hload : answer (Settings.load given vars overrides root) m = .ok s) :
    s.Valid ∧
      (∀ vars givenFlag givenBranch m c,
        answer (s.readContext vars givenFlag givenBranch) m = .ok c →
          (∀ env steps, Plan.benchmark env c s.toSettings = .ok steps →
            (∀ step ∈ steps, step.Sound) ∧
              (c.isPullRequest = true → ∃ benches branch, s.benchesPath env = .ok benches ∧
                Plan.Named s.toSettings c (s.branch? vars givenBranch) benches steps branch)) ∧
          ∀ launch dryRun receipt m,
            answer (benchmark launch (runStep launch) ⟨c, s.toSettings, dryRun, receipt⟩) m ≠
              .error .emptyCommand) ∧
      ∀ baseline candidate,
        (∀ env steps, Plan.compare env s.toSettings baseline candidate = .ok steps →
          ∀ step ∈ steps, step.Sound) ∧
        ∀ launch dryRun receipt m,
          answer (compare (runStep launch) ⟨s.toSettings, baseline, candidate, dryRun, receipt⟩) m ≠
            .error .emptyCommand := by
  have hvalid := Settings.valid_of_load hload
  refine ⟨hvalid, ?_, ?_⟩
  · intro vars givenFlag givenBranch m c hread
    have hcontext : s.context? vars givenFlag givenBranch = .ok c := by
      rwa [Settings.answer_readContext, mapError_eq_ok_iff] at hread
    refine ⟨fun env steps hplan => ⟨?_, ?_⟩, ?_⟩
    · exact Plan.sound_of_benchmark hvalid hplan
    · intro hpr
      exact Plan.named_of_context? hcontext hpr hplan
    · intro launch dryRun receipt m
      exact worded_benchmark launch hvalid m
  · intro baseline candidate
    refine ⟨fun env steps hplan => Plan.sound_of_compare hplan, ?_⟩
    intro launch dryRun receipt m
    exact worded_compare launch _ m

/-- The benchmark command comes from an override, the rest by default. -/
theorem plans_sound_of_load_seven :
    ∃ s c steps, answer (Settings.load none (fun _ => none) [("bench_cmd", .text "make bench")]
        (Path.ofString "/work")) (.inWork [] []) = .ok s ∧ s.Valid ∧
      answer (s.readContext (fun _ => none) (some "7") (some "main")) (.inWork [] []) = .ok c ∧
      c.isPullRequest = true ∧ Plan.benchmark ⟨[], "builder", []⟩ c s.toSettings = .ok steps ∧
      steps.length = 10 ∧ (∀ step ∈ steps, step.Sound) ∧
      ∃ benches, Plan.Named s.toSettings c (some "main") benches steps "main" := by
  have hsupplies : Settings.Supplies (.inWork [] []) none (fun _ => none) (Path.ofString "/work") [] :=
    .none rfl
  have hload : answer (Settings.load none (fun _ => none) [("bench_cmd", .text "make bench")]
      (Path.ofString "/work")) (.inWork [] []) =
      .ok { benchCommand := ["make", "bench"], root := Path.ofString "/work" } := by
    rw [Settings.answer_load_of_supplies hsupplies]
    rfl
  obtain ⟨hvalid, hbenchmark, -⟩ := plans_sound_of_load hload
  obtain ⟨hplans, -⟩ := hbenchmark (fun _ => none) (some "7") (some "main") (.inWork [] []) _ rfl
  obtain ⟨hsound, hnamed⟩ := hplans ⟨[], "builder", []⟩ _ rfl
  obtain ⟨benches, branch, -, hnames⟩ := hnamed rfl
  obtain rfl : branch = "main" := (Option.some.inj hnames.told).symm
  exact ⟨_, _, _, hload, hvalid, rfl, rfl, rfl, rfl, hsound, benches, hnames⟩

end Run

end MergeBench
