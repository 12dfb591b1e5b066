import MergeBench.Proofs.Command
import MergeBench.Proofs.Run.Replay

/-!
The way of a run from machine to machine. A step that is executed touches the file for its output and
nothing else; by induction on the passage so does a whole run, for all the steps that it came to.
-/

namespace MergeBench

variable {m m' m₁ : Machine} {paths : Path → Prop} {p : Path}

namespace Run

variable {launch : Launcher} {runner : StepRunner Act} {step : Step} {steps rest : List Step}
  {dryRun : Bool} {timeout : Int} {o : Outcome} {e : Execution} {root : Path}

/-! ### One step -/

/-- Every step is executed by starting children, whichever they are, that leave files alone. -/
def Genuine (runner : StepRunner Act) : Prop :=
  ∀ step dryRun timeout, ∃ launch : Launcher, launch.LeavesFiles ∧
    runner step dryRun timeout = runStep launch step dryRun timeout

theorem Genuine.step_eq (hrunner : Genuine runner)
    (h : runFrom (runner step dryRun timeout) m = (.ok e, m')) : e.step = step := by
  obtain ⟨launch, -, hlaunch⟩ := hrunner step dryRun timeout
  rw [hlaunch] at h
  exact (gives_runStep launch step dryRun timeout m e (answer_eq_iff.mpr ⟨m', h⟩)).1

/-- The output of the step goes to this path, and its working directory is there. -/
structure Writes (step : Step) (m : Machine) (p : Path) : Prop where
  kind : step.kind ≠ .announce
  artifact : step.artifact = some p
  place : ∀ d, step.directory = some d → m.HasDirectory d

/-- The machine on which the command of a step is run: by then the step has been named. -/
def told (step : Step) (m : Machine) : Machine :=
  m.report ⟨.info, .runner, s!"running {step.name}: {step.describe}"⟩

theorem runFrom_announce (launch : Launcher) (hkind : step.kind = .announce) (m : Machine) :
    ∃ e, runFrom (runStep launch step dryRun timeout) m =
        (.ok e, m.write (Machine.lineBytes step.messageText)) ∧ e.step = step ∧ e.exitCode = 0 := by
  refine ⟨⟨step, 0, (Moment.ofClock m.clock).stamp, (Moment.ofClock m.clock).stamp, none⟩, ?_, rfl, rfl⟩
  unfold runStep
  rw [hkind]
  rfl

theorem runFrom_announce_eq_ok (hkind : step.kind = .announce)
    (h : runFrom (runStep launch step dryRun timeout) m = (.ok e, m')) :
    m'.unsaid = m.unsaid ∧ e.step = step ∧ e.exitCode = 0 := by
  obtain ⟨e', hrun, hstep, hcode⟩ := runFrom_announce launch hkind m
  rw [hrun] at h
  cases h
  exact ⟨rfl, hstep, hcode⟩

theorem quiet_reportResult (step : Step) (result : Command.Result) : Quiet (reportResult step result) := by
  unfold reportResult
  split
  · exact quiet_report _ _ _
  · split <;> exact quiet_report _ _ _

/-- What a step that is executed says and gives after its command. -/
def concludeStep (step : Step) (started : String) (result : Command.Result) : Act Execution := do
  reportResult step result
  return ⟨step, result.exitCode, started, ← timeStamp, result.failure.map Command.Failure.message⟩

theorem runFrom_concludeStep (step : Step) (started : String) (result : Command.Result) (m : Machine) :
    ∃ e m', runFrom (concludeStep step started result) m = (.ok e, m') ∧ m.SameWorld m' ∧
      e.step = step ∧ e.exitCode = result.exitCode := by
  obtain ⟨m₁, hreport⟩ : ∃ m₁, runFrom (reportResult step result) m = (.ok (), m₁) := by
    unfold reportResult
    split
    · exact ⟨_, rfl⟩
    · split <;> exact ⟨_, rfl⟩
  have hsame : m.SameWorld m₁ := (quiet_reportResult step result).sameWorld_of_runFrom hreport
  refine ⟨⟨step, result.exitCode, started, (Moment.ofClock m₁.clock).stamp,
    result.failure.map Command.Failure.message⟩, m₁, ?_, hsame, rfl, rfl⟩
  rw [concludeStep, runFrom_bind, hreport]
  rfl

/-- Before and after its command, a step that is executed only says something. -/
theorem runFrom_runStep (hkind : step.kind ≠ .announce) {r : Except Fault Execution}
    (h : runFrom (runStep launch step false timeout) m = (r, m')) :
    ∃ result m₁, runFrom (Command.run launch (commandOf step timeout)) (told step m) = (result, m₁) ∧
      m₁.SameWorld m' ∧
      r.map (fun e => (e.step, e.exitCode)) = result.map fun result => (step, result.exitCode) := by
  have hstep : runFrom (runStep launch step false timeout) m =
      runFrom (Command.run launch (commandOf step timeout) >>=
        concludeStep step (Moment.ofClock m.clock).stamp) (told step m) := by
    unfold runStep
    split
    next heq => exact absurd heq hkind
    next => rfl
  rw [hstep, runFrom_bind] at h
  rcases hrun : runFrom (Command.run launch (commandOf step timeout)) (told step m) with
    ⟨f | result, m₁⟩ <;> rw [hrun] at h
  · cases h
    exact ⟨_, _, rfl, .refl _, rfl⟩
  · dsimp only at h
    obtain ⟨e, m₂, hrest, hsame, hstep', hcode⟩ :=
      runFrom_concludeStep step (Moment.ofClock m.clock).stamp result _
    rw [hrest] at h
    cases h
    exact ⟨_, _, rfl, hsame, by rw [Except.map, Except.map, hstep', hcode]⟩

theorem runFrom_runStep_eq_ok (hkind : step.kind ≠ .announce)
    (h : runFrom (runStep launch step false timeout) m = (.ok e, m')) :
    ∃ m₁ r m₂, m₁.unsaid = m.unsaid ∧
      runFrom (Command.run launch (commandOf step timeout)) m₁ = (.ok r, m₂) ∧
      m'.unsaid = m₂.unsaid ∧ e.step = step ∧ e.exitCode = r.exitCode := by
  obtain ⟨result, m₁, hrun, hsame, hresult⟩ := runFrom_runStep hkind h
  cases result with
  | error f => cases hresult
  | ok result =>
    obtain ⟨hstep, hcode⟩ := Prod.mk.inj (Except.ok.inj hresult)
    exact ⟨_, result, m₁, Machine.unsaid_report _ _, hrun, hsame.unsaid, hstep, hcode⟩

theorem touches_of_runStep (hlaunch : launch.LeavesFiles) {r : Except Fault Execution}
    (h : runFrom (runStep launch step false timeout) m = (r, m')) : m.Touches (Writes step m) m' := by
  by_cases hkind : step.kind = .announce
  · obtain ⟨_, hrun, -, -⟩ := runFrom_announce launch hkind m
    rw [hrun] at h
    cases h
    exact .of_unsaid rfl
  obtain ⟨result, m₁, hrun, hafter, -⟩ := runFrom_runStep hkind h
  have htold : (told step m).unsaid = m.unsaid := Machine.unsaid_report _ _
  have htouches := (Command.touches_run hlaunch (commandOf step timeout) (told step m)).touches hrun
  have hback : (told step m).Touches (fun _ => False) m := .of_unsaid htold.symm
  refine .trans (.of_unsaid htold) (.trans (htouches.mono ?_) (.of_unsaid hafter.unsaid))
  rintro p ⟨hartifact, hplace⟩
  exact ⟨hkind, hartifact, fun d hd => (hplace d hd).of_touches hback⟩

theorem hasFile_of_runStep (hlaunch : launch.LeavesFiles) (hkind : step.kind ≠ .announce)
    (hartifact : step.artifact = some p) (hstatus : e.exitCode = 0)
    (h : runFrom (runStep launch step false timeout) m = (.ok e, m')) : m'.HasFile p := by
  obtain ⟨m₁, r, m₂, -, hrun, hafter, -, hcode⟩ := runFrom_runStep_eq_ok hkind h
  have hfile : m₂.HasFile p :=
    Command.hasFile_of_run hlaunch hartifact hrun (hcode.symm.trans hstatus)
  have hsaid : m₂.Touches (fun _ => False) m' := .of_unsaid hafter
  exact hfile.of_touches hsaid

/-! ### The steps of a run -/

/-- How a run that returns gets from one machine to another. -/
inductive Passage (runner : StepRunner Act) (dryRun : Bool) (timeout : Int) :
    List Step → Machine → Outcome → Machine → Prop
  | done (m : Machine) : Passage runner dryRun timeout [] m { exitCode := 0 } m
  | aborted {step : Step} {e : Execution} {m m' : Machine} (rest : List Step)
      (hstep : runFrom (runner step dryRun timeout) m = (.ok e, m')) (h : aborts step e = true) :
      Passage runner dryRun timeout (step :: rest) m (Run.aborted dryRun step e)
        (m'.report ⟨.error, .orchestrator, abortText step e⟩)
  | continued {step : Step} {e : Execution} {rest : List Step} {m m₁ m' : Machine} {o : Outcome}
      (hstep : runFrom (runner step dryRun timeout) m = (.ok e, m₁)) (h : aborts step e = false)
      (later : Passage runner dryRun timeout rest m₁ o m') :
      Passage runner dryRun timeout (step :: rest) m (precede dryRun step e o) m'

theorem passage_of_execute (h : runFrom (execute runner dryRun timeout steps) m = (.ok o, m')) :
    Passage runner dryRun timeout steps m o m' := by
  induction steps generalizing m o with
  | nil =>
    cases h
    exact .done _
  | cons step rest ih =>
    rw [execute, runFrom_bind_eq_ok_iff] at h
    obtain ⟨e, m₁, hstep, h⟩ := h
    dsimp only at h
    split at h
    case isTrue habort =>
      cases h
      exact .aborted rest hstep habort
    case isFalse hpass =>
      rw [runFrom_bind_eq_ok_iff] at h
      obtain ⟨later, _, hlater, h⟩ := h
      cases h
      exact .continued hstep (by simpa using hpass) (ih hlater)

/-- The run executed the steps from the first one on, and came to the end or to a failing command. -/
theorem Passage.executed (hrunner : Genuine runner)
    (h : Passage runner dryRun timeout steps m o m') :
    (o.exitCode = 0 ∧ o.failedStep = none ∧ o.executions.map Execution.step = steps ∧
        ∀ e ∈ o.executions, e.step.kind = .command → e.exitCode = 0) ∨
      ∃ before step after, steps = before ++ step :: after ∧
        o.executions.map Execution.step = before ++ [step] ∧ o.failedStep = some step.name ∧
        o.exitCode ≠ 0 := by
  induction h with
  | done => exact .inl ⟨rfl, rfl, rfl, List.forall_mem_nil _⟩
  | @aborted step e _ _ rest hstep habort =>
    exact .inr ⟨[], step, rest, rfl, congrArg (fun s => [s]) (hrunner.step_eq hstep), rfl,
      (aborts_eq_true_iff.mp habort).2⟩
  | @continued step e rest _ _ _ o hstep hpass later ih =>
    obtain rfl := hrunner.step_eq hstep
    rcases ih with ⟨hstatus, hfailed, hsteps, hsucceeded⟩ | ⟨before, last, after, rfl, hsteps, hend⟩
    · refine .inl ⟨hstatus, hfailed, congrArg (e.step :: ·) hsteps, ?_⟩
      exact List.forall_mem_cons.mpr ⟨aborts_eq_false_iff.mp hpass, hsucceeded⟩
    · exact .inr ⟨e.step :: before, last, after, rfl, congrArg (e.step :: ·) hsteps, hend⟩

theorem Passage.mem_steps (hrunner : Genuine runner)
    (h : Passage runner dryRun timeout steps m o m') (he : e ∈ o.executions) : e.step ∈ steps := by
  have hstep : e.step ∈ o.executions.map Execution.step := List.mem_map_of_mem he
  rcases h.executed hrunner with ⟨-, -, hsteps, -⟩ | ⟨before, last, after, rfl, hsteps, -⟩
  · rwa [hsteps] at hstep
  · rw [hsteps] at hstep
    rw [List.append_cons]
    exact List.mem_append_left _ hstep

/-- The path takes the output of a command that was executed, whose working directory was there. -/
def Outputs (m : Machine) (o : Outcome) (p : Path) : Prop :=
  ∃ e ∈ o.executions, e.step.kind = .command ∧ e.step.artifact = some p ∧
    ∀ d, e.step.directory = some d → m.HasDirectory d

/-- Steps with output are commands that run in this directory. -/
def OutputIn (root : Path) (steps : List Step) : Prop :=
  ∀ step ∈ steps, ∀ p, step.artifact = some p → step.kind = .command ∧ step.directory = some root

theorem OutputIn.writes {step : Step} (h : OutputIn root (step :: rest)) (hp : Writes step m p) :
    step.kind = .command ∧ m.HasDirectory root := by
  obtain ⟨hkind, hdirectory⟩ := h step List.mem_cons_self p hp.artifact
  exact ⟨hkind, hp.place root hdirectory⟩

theorem OutputIn.tail {step : Step} (h : OutputIn root (step :: rest)) : OutputIn root rest :=
  fun s hs => h s (List.mem_cons_of_mem _ hs)

/-- A step makes no working directory for the later ones, since without it the step has no output. -/
theorem hasDirectory_of_writes {step : Step} (hsteps : OutputIn root (step :: rest))
    (h : m.Touches (Writes step m) m') (hplace : m'.HasDirectory root) : m.HasDirectory root := by
  refine Classical.byContradiction fun hno => hno ?_
  exact hplace.of_touches (h.symm fun p hp => hno (hsteps.writes hp).2)

theorem Passage.touches (hrunner : Genuine runner) (hsteps : OutputIn root steps)
    (h : Passage runner false timeout steps m o m') : m.Touches (Outputs m o) m' := by
  have htouches {step : Step} {e : Execution} {m m' : Machine}
      (hstep : runFrom (runner step false timeout) m = (.ok e, m')) : m.Touches (Writes step m) m' := by
    obtain ⟨launch, hlaunch, heq⟩ := hrunner step false timeout
    rw [heq] at hstep
    exact touches_of_runStep hlaunch hstep
  induction h with
  | done => exact .refl _
  | @aborted step e m m' rest hstep habort =>
    refine .trans ((htouches hstep).mono fun p hp => ?_) (.of_unsaid (Machine.unsaid_report _ _))
    obtain rfl := hrunner.step_eq hstep
    exact ⟨e, List.mem_singleton_self e, (hsteps.writes hp).1, hp.artifact, hp.place⟩
  | @continued step e rest m m₁ m' o hstep hpass later ih =>
    refine .trans ((htouches hstep).mono fun p hp => ?_) ((ih hsteps.tail).mono ?_)
    · obtain rfl := hrunner.step_eq hstep
      exact ⟨e, List.mem_cons_self, (hsteps.writes hp).1, hp.artifact, hp.place⟩
    -- `Outputs` asks for the directory on the first machine, the induction gives it on the second
    · rintro p ⟨e', he', hkind, hartifact, hplace⟩
      refine ⟨e', List.mem_cons_of_mem e he', hkind, hartifact, fun d hd => ?_⟩
      have hroot := (hsteps.tail e'.step (later.mem_steps hrunner he') p hartifact).2
      obtain rfl : root = d := Option.some.inj (hroot.symm.trans hd)
      exact hasDirectory_of_writes hsteps (htouches hstep) (hplace root hd)

theorem Passage.hasFile (hrunner : Genuine runner) (hsteps : OutputIn root steps)
    (h : Passage runner false timeout steps m o m') (he : e ∈ o.executions)
    (hkind : e.step.kind = .command) (hstatus : e.exitCode = 0) (hartifact : e.step.artifact = some p) :
    m'.HasFile p := by
  induction h with
  | done => cases he
  | @aborted step e' m m' rest hstep habort =>
    cases List.mem_singleton.mp he
    obtain rfl := hrunner.step_eq hstep
    exact absurd hstatus (aborts_eq_true_iff.mp habort).2
  | @continued step e' rest m m₁ m' o hstep hpass later ih =>
    rcases List.mem_cons.mp he with rfl | he
    · obtain rfl := hrunner.step_eq hstep
      obtain ⟨launch, hlaunch, heq⟩ := hrunner e.step false timeout
      rw [heq] at hstep
      have hfile : m₁.HasFile p :=
        hasFile_of_runStep hlaunch (by simp [hkind]) hartifact hstatus hstep
      exact hfile.of_touches (later.touches hrunner hsteps.tail)
    · exact ih hsteps.tail he

/-! ### Up to the receipt -/

theorem eq_benchStep_of_artifact {s : Settings} {benches : Path} {number branch : String}
    (hstep : step ∈ Plan.pullRequestSteps s benches number branch) (hp : step.artifact = some p) :
    step = Plan.benchStep s "bench_pr" (benches.join (Path.ofString (Plan.pullRequestArtifact number))) ∨
      step = Plan.benchStep s "bench_branch" (benches.join (Path.ofString (Plan.branchArtifact branch))) := by
  simp only [Plan.pullRequestSteps, Plan.compareSteps, List.cons_append, List.nil_append,
    List.mem_cons, List.not_mem_nil, or_false] at hstep
  rcases hstep with rfl | rfl | rfl | rfl | rfl | rfl | rfl | rfl | rfl | rfl
  case inr.inl => exact .inl rfl
  case inr.inr.inr.inr.inr.inr.inr.inl => exact .inr rfl
  all_goals cases hp

theorem outputIn_pullRequestSteps (s : Settings) (benches : Path) (number branch : String) :
    OutputIn s.root (Plan.pullRequestSteps s benches number branch) := by
  intro step hstep p hp
  obtain rfl | rfl := eq_benchStep_of_artifact hstep hp
  all_goals exact ⟨rfl, rfl⟩

theorem touching_query (hlaunch : launch.LeavesFiles) (git : String) (root : Path)
    (question : List String) : Touching paths (Repository.query launch git root question) := by
  refine Touching.bind (fun m => ?_) fun result => touching_pure _
  exact (Command.touches_run hlaunch _ m).mono (by rintro p ⟨hp, -⟩; cases hp)

theorem touching_provenance (hlaunch : launch.LeavesFiles) (req : RunRequest) :
    Touching paths (provenance launch req) := by
  unfold provenance
  split
  · exact touching_pure _
  · exact ((touching_query hlaunch _ _ _).bind fun _ => touching_pure _).bind fun branch =>
      (touching_query hlaunch _ _ _).bind fun commit => touching_pure _

theorem touching_prepare (hlaunch : launch.LeavesFiles) (req : RunRequest) :
    Touching paths (prepare launch req) :=
  (steady_report Machine.unsaid_report _ _ _).site.touching.bind fun _ =>
    (touching_provenance hlaunch req).bind fun _ => touching_get_bind fun _ =>
      ((steady_lift (by nofun) _).touching.bind fun _ => touching_pure _) _

/-- Before its receipt a run has touched nothing and then passed through its plan. -/
theorem passage_of_untilReceipt {req : RunRequest} (hlaunch : launch.LeavesFiles)
    (hpr : req.context.isPullRequest = true) {p : Receipt.Provenance}
    (h : runFrom (untilReceipt launch runner req) m = (.ok (p, o), m')) :
    ∃ benches m₁, req.settings.benchesPath m.environment = .ok benches ∧
      m.Touches (fun _ => False) m₁ ∧
      Passage runner req.dryRun req.settings.timeout (Plan.pullRequestSteps req.settings benches
        req.context.flag (BuildContext.optionText req.context.branch)) m₁ o m' := by
  obtain ⟨steps, m₁, hprepare, hplan, hexecute⟩ := runFrom_untilReceipt_eq_ok h
  rw [Plan.benchmark, BuildContext.pullRequest?, hpr] at hplan
  obtain ⟨benches, hbenches, hsteps⟩ := bind_eq_ok_iff.mp hplan
  cases hsteps
  exact ⟨benches, m₁, hbenches, (touching_prepare hlaunch req m).touches hprepare,
    passage_of_execute hexecute⟩

end Run

end MergeBench
