import MergeBench.Proofs.JsonFile
import MergeBench.Proofs.Receipt.Report
import MergeBench.Proofs.Run.MergeOrder
import MergeBench.Proofs.Steady

/-!
What can be told from a receipt alone. The build and the settings in it lead to the plan of the run
again, and its steps, status, failed step and artifacts are four views of one way through that plan.
-/

namespace MergeBench

theorem Plan.benchmark_congr {env env' : Environment} (h : env.home? = env'.home?) (c : BuildContext)
    (s : Settings) : benchmark env c s = benchmark env' c s := by
  simp only [benchmark, Settings.benchesPath, Settings.anchoredBenches, Path.expandHome, h]

theorem Plan.kind_of_mem {env : Environment} {c : BuildContext} {s : Settings} {steps : List Step}
    (h : benchmark env c s = .ok steps) {step : Step} (hstep : step ∈ steps) :
    step.kind = .announce ∨ step.kind = .command := by
  unfold benchmark at h
  split at h
  · cases h
    cases hstep
  · obtain ⟨benches, -, hsteps⟩ := bind_eq_ok_iff.mp h
    cases hsteps
    simp only [pullRequestSteps, compareSteps, List.cons_append, List.nil_append, List.mem_cons,
      List.not_mem_nil, or_false] at hstep
    rcases hstep with rfl | rfl | rfl | rfl | rfl | rfl | rfl | rfl | rfl | rfl <;>
      simp [announce, benchStep, gitStep, compareStep]

theorem Settings.sentinel_of_context? {s : Settings} {vars : Variables}
    {givenFlag givenBranch : Option String} {c : BuildContext}
    (h : s.context? vars givenFlag givenBranch = .ok c) : c.sentinel = s.sentinel := by
  unfold context? at h
  split at h
  · cases h
  · split at h
    · cases h
    · dsimp only at h
      split at h
      · cases h
      · cases h
        rfl

namespace Receipt.Report

/-- The plan that the build and the settings in a receipt lead to. -/
def plan (env : Environment) (r : Report) : Except HomeError (List Step) :=
  Plan.benchmark env ⟨r.flag, r.branch, r.settings.sentinel⟩ r.settings

/-- The whole plan is recorded, and nothing failed. -/
structure Completes (plan : List Step) (r : Report) : Prop where
  exitCode : r.exitCode = 0
  failedStep : r.failedStep = none
  succeeded : ∀ e ∈ r.steps, e.exitCode = 0
  whole : r.steps.length = plan.length

/-- The last recorded step failed, and only it. -/
structure BreaksOff (r : Report) (before : List ExecutionReport) (last : ExecutionReport) : Prop where
  steps : r.steps = before ++ [last]
  failedStep : r.failedStep = some last.step.name
  exitCode : r.exitCode = last.exitCode
  failed : last.exitCode ≠ 0
  succeeded : ∀ e ∈ before, e.exitCode = 0

structure Replays (plan : List Step) (r : Report) : Prop where
  steps : r.steps.map ExecutionReport.step = (plan.take r.steps.length).map StepReport.ofStep
  ending : r.Completes plan ∨ ∃ before last, r.BreaksOff before last
  artifacts : r.artifacts = if r.dryRun then [] else r.steps.filterMap fun e => e.step.artifact

end Receipt.Report

/-- The value is a receipt from which its plan can be made again, wherever the home directories are the
same, and which records a way through this plan. -/
def Receipt.Replayable (env : Environment) (r : Value) : Prop :=
  ∃ report plan, Report.ofValue? r = some report ∧
    (∀ env' : Environment, env'.home? = env.home? → report.plan env' = .ok plan) ∧ report.Replays plan

namespace Run

open Receipt

variable {launch : Launcher} {req : RunRequest} {dryRun : Bool} {timeout : Int}
  {steps rest : List Step} {calls : List Call} {m m' : Machine} {o : Outcome}

/-! ### The way through a plan -/

/-- An execution is of the step that was called, and announcements do not fail. -/
def Faithful (c : Call) : Prop :=
  ∀ e, c.answer = .ok e → e.step = c.step ∧ (c.step.kind = .announce → e.exitCode = 0)

section

variable (c : BuildContext) (s : Settings)

theorem replays_aborted (rest : List Step) {e : Execution} (hstatus : e.exitCode ≠ 0) :
    (Report.ofOutcome dryRun c s (aborted dryRun e.step e)).Replays (e.step :: rest) where
  steps := by simp [Report.ofOutcome, aborted, ExecutionReport.ofExecution]
  ending := .inr ⟨[], .ofExecution e, rfl, rfl, rfl, hstatus, nofun⟩
  artifacts := by
    cases dryRun <;> cases hartifact : e.step.artifact <;>
      simp [Report.ofOutcome, aborted, artifactOf, ExecutionReport.ofExecution, StepReport.ofStep,
        hartifact]

theorem replays_precede {e : Execution} (hstatus : e.exitCode = 0)
    (h : (Report.ofOutcome dryRun c s o).Replays rest) :
    (Report.ofOutcome dryRun c s (precede dryRun e.step e o)).Replays (e.step :: rest) where
  steps := by simpa [Report.ofOutcome, precede, ExecutionReport.ofExecution] using h.steps
  ending := by
    rcases h.ending with hdone | ⟨before, last, hlast⟩
    · refine .inl ⟨hdone.exitCode, hdone.failedStep, ?_, congrArg (· + 1) hdone.whole⟩
      exact List.forall_mem_cons.mpr ⟨hstatus, hdone.succeeded⟩
    · refine .inr ⟨.ofExecution e :: before, last, congrArg (ExecutionReport.ofExecution e :: ·) hlast.steps,
        hlast.failedStep, hlast.exitCode, hlast.failed, ?_⟩
      exact List.forall_mem_cons.mpr ⟨hstatus, hlast.succeeded⟩
  artifacts := by
    have hartifacts := h.artifacts
    simp only [Report.ofOutcome] at hartifacts
    cases dryRun <;> cases hartifact : e.step.artifact <;>
      simp [Report.ofOutcome, precede, artifactOf, ExecutionReport.ofExecution, StepReport.ofStep,
        hartifacts, hartifact]

theorem Course.replays (h : Course dryRun timeout steps calls (.ok o))
    (hcalls : ∀ call ∈ calls, Faithful call)
    (hkinds : ∀ step ∈ steps, step.kind = .announce ∨ step.kind = .command) :
    (Report.ofOutcome dryRun c s o).Replays steps := by
  generalize hr : Except.ok o = r at h
  induction h generalizing o with
  | done =>
    cases hr
    exact ⟨rfl, .inl ⟨rfl, rfl, nofun, rfl⟩, by simp [Report.ofOutcome]⟩
  | raised step rest f => cases hr
  | aborted step rest e habort =>
    cases hr
    obtain ⟨rfl, -⟩ := hcalls _ List.mem_cons_self e rfl
    exact replays_aborted c s rest (aborts_eq_true_iff.mp habort).2
  | @continued step e rest calls r habort later ih =>
    cases r with
    | error f => cases hr
    | ok o' =>
      cases hr
      obtain ⟨rfl, hannounce⟩ := hcalls _ List.mem_cons_self e rfl
      have hstatus : e.exitCode = 0 :=
        (hkinds e.step List.mem_cons_self).elim hannounce (aborts_eq_false_iff.mp habort)
      exact replays_precede c s hstatus (ih (fun call hcall => hcalls call (List.mem_cons_of_mem _ hcall))
        (fun step hstep => hkinds step (List.mem_cons_of_mem _ hstep)) rfl)

end

theorem gives_announceStep (step : Step) (started : String) :
    Gives (fun e => e.step = step ∧ e.exitCode = 0) (announceStep step started) :=
  .bind fun _ => .bind fun _ => gives_pure ⟨rfl, rfl⟩

theorem gives_showStep (step : Step) (started : String) :
    Gives (fun e => e.step = step) (showStep step started) :=
  .bind fun _ => .bind fun _ => .bind fun _ => gives_pure rfl

theorem gives_executeStep (launch : Launcher) (step : Step) (timeout : Int) (started : String) :
    Gives (fun e => e.step = step) (executeStep launch step timeout started) :=
  .bind fun _ => .bind fun _ => .bind fun _ => .bind fun _ => gives_pure rfl

theorem gives_runStep (launch : Launcher) (step : Step) (dryRun : Bool) (timeout : Int) :
    Gives (fun e => e.step = step ∧ (step.kind = .announce → e.exitCode = 0))
      (runStep launch step dryRun timeout) := by
  refine .bind fun started => ?_
  split
  · exact fun m e h => (gives_announceStep step started m e h).imp_right fun h _ => h
  next hkind =>
    split
    · exact fun m e h => ⟨gives_showStep step started m e h, fun h => absurd h hkind⟩
    · exact fun m e h =>
        ⟨gives_executeStep launch step timeout started m e h, fun h => absurd h hkind⟩

/-- The part of a run before its receipt. -/
def untilReceipt (launch : Launcher) (runner : StepRunner Act) (req : RunRequest) :
    Act (Provenance × Outcome) := do
  let (p, steps) ← prepare launch req
  let outcome ← execute runner req.dryRun req.settings.timeout steps
  return (p, outcome)

theorem benchmark_eq (hpr : req.context.isPullRequest = true) (runner : StepRunner Act) :
    benchmark launch runner req = do
      let (p, outcome) ← untilReceipt launch runner req
      writeReceipt req.receipt .run req.dryRun req.context req.settings p outcome
      return outcome := by
  unfold benchmark untilReceipt
  simp only [hpr, Bool.not_true, Bool.false_eq_true, ↓reduceIte, bind_assoc, pure_bind]
  rfl

theorem runFrom_benchmark_eq_ok (hpr : req.context.isPullRequest = true) {runner : StepRunner Act}
    (h : runFrom (benchmark launch runner req) m = (.ok o, m')) :
    ∃ p m₁, runFrom (untilReceipt launch runner req) m = (.ok (p, o), m₁) ∧
      runFrom (writeReceipt req.receipt .run req.dryRun req.context req.settings p o) m₁ =
        (.ok (), m') := by
  rw [benchmark_eq hpr, runFrom_bind_eq_ok_iff] at h
  obtain ⟨⟨p, outcome⟩, m₁, huntil, h⟩ := h
  rw [runFrom_bind_eq_ok_iff] at h
  obtain ⟨_, _, hreceipt, h⟩ := h
  cases h
  exact ⟨p, m₁, huntil, hreceipt⟩

theorem runFrom_untilReceipt_eq_ok {runner : StepRunner Act} {p : Provenance}
    (h : runFrom (untilReceipt launch runner req) m = (.ok (p, o), m')) :
    ∃ steps m₁, runFrom (prepare launch req) m = (.ok (p, steps), m₁) ∧
      Plan.benchmark m.environment req.context req.settings = .ok steps ∧
      runFrom (execute runner req.dryRun req.settings.timeout steps) m₁ = (.ok o, m') := by
  unfold untilReceipt at h
  rw [runFrom_bind_eq_ok_iff] at h
  obtain ⟨⟨p', steps⟩, m₁, hprepare, h⟩ := h
  rw [runFrom_bind_eq_ok_iff] at h
  obtain ⟨o', m₂, hexecute, h⟩ := h
  cases h
  have hsetting := (steady_prepare launch req).view_eq_of_runFrom hprepare
  have henvironment : m₁.environment = m.environment := congrArg Prod.fst hsetting
  exact ⟨steps, m₁, hprepare, henvironment ▸ plan_of_prepare hprepare, hexecute⟩

theorem replays_of_untilReceipt {p : Provenance}
    (hsentinel : req.context.sentinel = req.settings.sentinel)
    (h : runFrom (untilReceipt launch (runStep launch) req) m = (.ok (p, o), m')) :
    ∃ plan, (∀ env : Environment, env.home? = m.environment.home? →
        (Report.ofOutcome req.dryRun req.context req.settings o).plan env = .ok plan) ∧
      (Report.ofOutcome req.dryRun req.context req.settings o).Replays plan := by
  obtain ⟨steps, m₁, -, hplan, hexecute⟩ := runFrom_untilReceipt_eq_ok h
  have hcontext : (⟨req.context.flag, req.context.branch, req.settings.sentinel⟩ : BuildContext) =
      req.context := by
    rw [← hsentinel]
  obtain ⟨calls, hcourse, hanswers⟩ := course_of_execute hexecute
  have hfaithful : ∀ call ∈ calls, Faithful call := by
    intro call hcall e he
    obtain ⟨m₃, hanswer⟩ := hanswers call hcall
    exact gives_runStep launch call.step call.dryRun call.timeout m₃ e (hanswer.trans he)
  refine ⟨steps, fun env henv => ?_,
    hcourse.replays _ _ hfaithful fun step hstep => Plan.kind_of_mem hplan hstep⟩
  calc Plan.benchmark env ⟨req.context.flag, req.context.branch, req.settings.sentinel⟩ req.settings
      = Plan.benchmark m.environment req.context req.settings := by
        rw [hcontext, Plan.benchmark_congr henv]
    _ = .ok steps := hplan

/-! ### The receipt -/

/-- A receipt goes to the place where its path leads at the end of the run. -/
theorem runFrom_writeReceipt_eq_ok {path : String} {mode : Mode} {c : BuildContext} {s : Settings}
    {p : Provenance}
    (h : runFrom (writeReceipt (some path) mode dryRun c s p o) m = (.ok (), m')) :
    ∃ origin written m₁ m₂, answer (expandHome (Path.ofString path) >>= resolve) m = .ok written ∧
      m.SameWorld m₁ ∧
      runFrom (JsonFile.write written (Receipt.value origin mode.name dryRun c s p o)) m₁ =
        (.ok (), m₂) ∧
      m₂.SameWorld m' := by
  unfold writeReceipt at h
  rw [runFrom_bind_eq_ok_iff] at h
  obtain ⟨receipt, _, hbuild, h⟩ := h
  cases hbuild
  rw [runFrom_bind_eq_ok_iff] at h
  obtain ⟨written, m₂, hwrite, hreport⟩ := h
  cases hreport
  unfold Receipt.write at hwrite
  rw [runFrom_bind_eq_ok_iff] at hwrite
  obtain ⟨expanded, m₃, hexpand, hwrite⟩ := hwrite
  rw [runFrom_bind_eq_ok_iff] at hwrite
  obtain ⟨resolved, m₁, hresolve, hwrite⟩ := hwrite
  rw [runFrom_bind_eq_ok_iff] at hwrite
  obtain ⟨_, _, hfile, hwrite⟩ := hwrite
  cases hwrite
  have hpath : runFrom (expandHome (Path.ofString path) >>= resolve) m = (.ok written, m₁) :=
    runFrom_bind_eq_ok_iff.mpr ⟨expanded, m₃, hexpand, hresolve⟩
  exact ⟨_, written, m₁, m₂, answer_eq_iff.mpr ⟨m₁, hpath⟩,
    ((quiet_expandHome _).bind quiet_resolve).sameWorld_of_runFrom hpath, hfile, m₂.sameWorld_report _⟩

/-- The receipt of a run can be read again, and alone it leads to the plan whose steps it records,
unless the write has cut its path off. -/
theorem receipt_replays {s : Settings} {vars : Settings.Variables}
    {givenFlag givenBranch : Option String} {c : BuildContext} (hroot : s.root.Proper)
    (hc : s.context? vars givenFlag givenBranch = .ok c) (hpr : c.isPullRequest = true)
    (launch : Launcher) (dryRun : Bool) (path : String)
    (hrun : runFrom (benchmark launch (runStep launch) ⟨c, s, dryRun, some path⟩) m = (.ok o, m')) :
    ∃ p m₁ written,
      runFrom (untilReceipt launch (runStep launch) ⟨c, s, dryRun, some path⟩) m = (.ok (p, o), m₁) ∧
      answer (expandHome (Path.ofString path) >>= resolve) m₁ = .ok written ∧
      ((∃ r, answer (JsonFile.read written) m' = .ok r ∧ Replayable m.environment r) ∨
        JsonFile.CutsOff m₁ m' written ∧
          answer (JsonFile.read written) m' = .error (.file ⟨.notDirectory, some written.text, none⟩)) := by
  obtain ⟨p, m₁, huntil, hreceipt⟩ := runFrom_benchmark_eq_ok hpr hrun
  obtain ⟨origin, written, m₂, m₃, hwritten, hbefore, hwrite, hafter⟩ :=
    runFrom_writeReceipt_eq_ok hreceipt
  refine ⟨p, m₁, written, huntil, hwritten, ?_⟩
  obtain ⟨hnull, text, hdocument, hfound⟩ := JsonFile.find_of_write hwrite
  rcases hfound with ⟨l, hfind⟩ | ⟨⟨l, target, content, executable, hlink, hfile⟩, hcut⟩
  · have hstorable := storable_value 985 origin Mode.run.name dryRun c s p o
    obtain ⟨hread, hreturn⟩ := Json.read_document hstorable hdocument
    have hanswer := JsonFile.answer_read_of_find hnull hfind hreturn hread
    rw [← (JsonFile.quiet_read written).answer_eq hafter] at hanswer
    obtain ⟨plan, hplan, hreplays⟩ :=
      replays_of_untilReceipt (Settings.sentinel_of_context? hc) huntil
    exact .inl ⟨_, hanswer, _, plan, Report.ofValue?_value _ _ _ _ hroot _ _, hplan, hreplays⟩
  · have hcut : JsonFile.CutsOff m₁ m' written :=
      ⟨⟨l, target, content, executable, by rwa [← hbefore.files], by rwa [hafter.files]⟩,
        by rwa [hafter.files, hafter.directory]⟩
    exact .inr ⟨hcut, hcut.answer_read hnull⟩

/-- All children succeed but `git fetch`. -/
def failingFetch : Launcher := fun l files =>
  ⟨.exited (if l.words.contains "fetch" then 128 else 0), [], [], files, 0⟩

/-- The run of a pull request with the settings of a project in `/work`. -/
def requestInWork (dryRun : Bool) (receipt : String) : RunRequest :=
  ⟨⟨"7", some "main", "false"⟩, { root := Path.ofString "/work" }, dryRun, some receipt⟩

theorem receipt_replays_failing_fetch :
    let req := requestInWork false "out/receipt.json"
    let run := runFrom (benchmark failingFetch (runStep failingFetch) req) (.inWork [] [])
    ∃ o, run.1 = .ok o ∧ ∃ p m₁ written,
      runFrom (untilReceipt failingFetch (runStep failingFetch) req) (.inWork [] []) = (.ok (p, o), m₁) ∧
      answer (expandHome (Path.ofString "out/receipt.json") >>= resolve) m₁ = .ok written ∧
      ((∃ r, answer (JsonFile.read written) run.2 = .ok r ∧
          Replayable (Machine.inWork [] []).environment r) ∨
        JsonFile.CutsOff m₁ run.2 written ∧ answer (JsonFile.read written) run.2 =
          .error (.file ⟨.notDirectory, some written.text, none⟩)) := by
  intro req run
  obtain ⟨o, hrun⟩ : ∃ o, run = (.ok o, run.2) := exists_runFrom_of_isOk (by decide +kernel)
  refine ⟨o, congrArg Prod.fst hrun, ?_⟩
  have haccepted : ({ root := Path.ofString "/work" } : Settings).context? (fun _ => none) (some "7")
      (some "main") = .ok ⟨"7", some "main", "false"⟩ := rfl
  exact receipt_replays (Path.proper_ofString "/work") haccepted (by decide) failingFetch false
    "out/receipt.json" hrun

/-- A machine with a link `b` to the link `a`, which leads to the directory that holds both, and a link
to itself. -/
def entangled : Machine :=
  { Machine.inWork [] [] with
    files := ⟨[(["work"], .directory), (["work", "b"], .link "a"), (["work", "a"], .link "."),
      (["work", "loop"], .link "loop")]⟩ }

/-- Behind the link to itself the path is not resolved any further: the receipt goes to `/work/b/a`,
where it takes the place of the link `a`, through which that path leads. -/
theorem not_receipt_replays_entangled :
    ¬∀ (s : Settings) (vars : Settings.Variables) (givenFlag givenBranch : Option String)
      (c : BuildContext) (launch : Launcher) (dryRun : Bool) (path : String) (m m' : Machine)
      (o : Outcome), s.root.Proper → s.context? vars givenFlag givenBranch = .ok c →
      c.isPullRequest = true →
      runFrom (benchmark launch (runStep launch) ⟨c, s, dryRun, some path⟩) m = (.ok o, m') →
      ∀ p m₁ written,
        runFrom (untilReceipt launch (runStep launch) ⟨c, s, dryRun, some path⟩) m = (.ok (p, o), m₁) →
        answer (expandHome (Path.ofString path) >>= resolve) m₁ = .ok written →
        ∃ r, answer (JsonFile.read written) m' = .ok r ∧ Replayable m.environment r := by
  intro h
  obtain ⟨o, hrun⟩ : ∃ o, runFrom (benchmark failingFetch (runStep failingFetch)
      (requestInWork true "loop/../b/a")) entangled = (.ok o, _) :=
    exists_runFrom_of_isOk (by decide +kernel)
  obtain ⟨p, m₁, huntil, -⟩ := runFrom_benchmark_eq_ok (by decide) hrun
  obtain rfl : m₁ = (runFrom (untilReceipt failingFetch (runStep failingFetch)
      (requestInWork true "loop/../b/a")) entangled).2 := by rw [huntil]
  obtain ⟨r, hread, -⟩ := h _ (fun _ => none) (some "7") (some "main") _ failingFetch true "loop/../b/a" _ _ o
    (Path.proper_ofString "/work") rfl (by decide) hrun p _ ⟨.root, ["work", "b", "a"]⟩ huntil
    (yields_iff.mp (by decide +kernel))
  have hfails : (answer (JsonFile.read ⟨.root, ["work", "b", "a"]⟩)
      (runFrom (benchmark failingFetch (runStep failingFetch)
        (requestInWork true "loop/../b/a")) entangled).2).isOk = false := by
    decide +kernel
  rw [hread] at hfails
  cases hfails

end Run

end MergeBench
